import Mathlib.Data.List.Basic
import ObservableGen.Eligibility
import ObservableGen.Proofs.Scope
set_option autoImplicit false

/-!
Which methods are wrapped in commands. Main statement: a method of an observable type is eligible exactly
if its signature can be wrapped, so that the look at the written declaration never turns it away; and the
type and the construction of its command fit each other and the signature.
-/
namespace ObservableGen

-- A method that returns nothing takes at most one parameter, and that no token; one that returns a task
-- takes at most one value and, behind it, at most one token.
inductive Wrappable (method : MethodMember) : Prop
  | action (value : Option Parameter) (void : method.returns.isVoid = true)
      (listed : method.parameters = value.toList)
      (plain : ∀ parameter ∈ value, parameter.type.isCancellationToken = false)
  | task (value token : Option Parameter) (awaited : method.returns.isTask = true)
      (listed : method.parameters = value.toList ++ token.toList)
      (last : ∀ parameter ∈ token, parameter.type.isCancellationToken = true)

namespace TypeUse

theorem text_of_name (use : TypeUse) : use.text = use.name.path ∨ use.text = TypeName.globalAlias ++ use.name.path := by
  rw [name, TypeName.ofText, Text.afterLead?]
  cases found : TypeName.globalAlias.toList.isPrefixOf? use.text.toList with
  | none => exact .inl rfl
  | some rest =>
      right
      have lead := List.isPrefixOf?_eq_some_iff_append_eq.mp found
      rw [← String.toList_inj, String.toList_append, ← lead]
      simp

theorem void_no_task (use : TypeUse) (void : use.isVoid = true) : use.isTask = false := by
  have text : use.text = "void" := eq_of_beq void
  rw [isTask, name, text]
  decide

theorem token_simple_name (use : TypeUse) (token : use.isCancellationToken = true) :
    use.simpleName = "CancellationToken" := by
  have named : use.name = cancellationToken := eq_of_beq token
  obtain text | text := text_of_name use
  · rw [simpleName, text, named]
    decide
  · rw [simpleName, text, named]
    decide

end TypeUse

namespace Command

theorem kind_of_return_iff (returns : TypeUse) (kind : CommandKind) :
    kindOfReturn? returns = some kind ↔
      kind = .relay ∧ returns.isVoid = true ∨ kind = .async ∧ returns.isTask = true := by
  by_cases void : returns.isVoid = true
  · simp [kindOfReturn?, void, TypeUse.void_no_task returns void, eq_comm]
  · by_cases awaited : returns.isTask = true <;> simp [kindOfReturn?, void, awaited, eq_comm]

-- The parameters of a wrapped method: a value, and behind it the token that is passed on. A token at the
-- end is never taken for a value.
structure Takes (method : MethodMember) (command : Command) (value token : Option Parameter) : Prop where
  listed : method.parameters = value.toList ++ token.toList
  argument : command.parameter = value.map Parameter.type
  passed : command.cancellable = token.isSome
  last : ∀ parameter ∈ token, parameter.type.isCancellationToken = true
  plain : token = none → ∀ parameter ∈ value, parameter.type.isCancellationToken = false

theorem ends_with_token_concat (front : List Parameter) (last : Parameter) :
    endsWithToken (front ++ [last]) = last.type.isCancellationToken := by
  simp [endsWithToken]

theorem value_parameters_concat (front : List Parameter) (last : Parameter) :
    valueParameters (front ++ [last]) = if last.type.isCancellationToken then front else front ++ [last] := by
  rw [valueParameters, ends_with_token_concat, List.dropLast_concat]

-- The token at the end is split off; without one all parameters are values, the last among them.
theorem parameters_split (parameters : List Parameter) : ∃ token : Option Parameter,
    parameters = valueParameters parameters ++ token.toList ∧ endsWithToken parameters = token.isSome ∧
    (∀ parameter ∈ token, parameter.type.isCancellationToken = true) ∧
    (token = none → ∀ last ∈ (valueParameters parameters).getLast?, last.type.isCancellationToken = false) := by
  obtain rfl | ⟨front, last, rfl⟩ := List.eq_nil_or_concat' parameters
  · exact ⟨none, by simp [valueParameters, endsWithToken]⟩
  · cases token : last.type.isCancellationToken with
    | true => exact ⟨some last, by simp [value_parameters_concat, ends_with_token_concat, token]⟩
    | false => exact ⟨none, by simp [value_parameters_concat, ends_with_token_concat, token]⟩

theorem wrapped_takes (method : MethodMember) (command : Command) (wrapped : ofMethod? method = some command) :
    ∃ value token, Takes method command value token ∧ kindOfReturn? method.returns = some command.kind ∧
      (command.kind = .relay → token = none) := by
  obtain ⟨token, listed, passed, last, plain⟩ := parameters_split method.parameters
  unfold ofMethod? at wrapped
  dsimp only at wrapped
  split at wrapped
  · cases wrapped
  · rename_i kind returned
    split at wrapped
    · cases wrapped
    · rename_i awaited
      rw [passed] at awaited wrapped
      have relayed : kind = .relay → token = none := by
        rintro rfl
        simpa using awaited
      split at wrapped
      · rename_i empty
        cases wrapped
        rw [empty] at listed
        exact ⟨none, token, ⟨listed, rfl, rfl, last, by simp⟩, returned, relayed⟩
      · rename_i value single
        cases wrapped
        rw [single] at listed plain
        exact ⟨some value, token, ⟨listed, rfl, rfl, last, by simpa using plain⟩, returned, relayed⟩
      · cases wrapped

theorem short_wrapped (method : MethodMember) (kind : CommandKind)
    (returned : kindOfReturn? method.returns = some kind)
    (awaited : endsWithToken method.parameters = true → kind = .async)
    (short : (valueParameters method.parameters).length ≤ 1) : (ofMethod? method).isSome = true := by
  have allowed : ¬ (endsWithToken method.parameters && kind == .relay) = true := by
    rw [Bool.and_eq_true]
    rintro ⟨token, relay⟩
    rw [awaited token] at relay
    cases relay
  unfold ofMethod?
  dsimp only
  rw [returned]
  dsimp only
  rw [if_neg allowed]
  cases values : valueParameters method.parameters with
  | nil => rfl
  | cons value rest =>
      cases rest with
      | nil => rfl
      | cons next rest =>
          rw [values] at short
          exact absurd short (by simp)

theorem wrapped_iff (method : MethodMember) : (ofMethod? method).isSome = true ↔ Wrappable method := by
  constructor
  · intro wraps
    obtain ⟨command, wrapped⟩ := Option.isSome_iff_exists.mp wraps
    obtain ⟨value, token, takes, returned, relayed⟩ := wrapped_takes method command wrapped
    obtain ⟨relay, void⟩ | ⟨_, awaited⟩ := (kind_of_return_iff _ _).mp returned
    · have bare := relayed relay
      refine .action value void ?_ (takes.plain bare)
      simpa [bare] using takes.listed
    · exact .task value token awaited takes.listed takes.last
  · intro wrappable
    have single (value : Option Parameter) : value.toList.length ≤ 1 := by cases value <;> simp
    cases wrappable with
    | action value void listed plain =>
        apply short_wrapped method .relay ((kind_of_return_iff _ _).mpr (.inl ⟨rfl, void⟩))
        · intro token
          rw [listed] at token
          cases value with
          | none => cases token
          | some value => exact absurd token (by simp [endsWithToken, plain value rfl])
        · rw [listed]
          exact Nat.le_trans (value_parameters_length_le _) (single value)
    | task value token awaited listed last =>
        apply short_wrapped method .async ((kind_of_return_iff _ _).mpr (.inr ⟨rfl, awaited⟩)) fun _ => rfl
        rw [listed]
        cases token with
        | none => simpa using Nat.le_trans (value_parameters_length_le value.toList) (single value)
        | some token =>
            rw [Option.toList_some, value_parameters_concat, if_pos (last token rfl)]
            exact single value

-- What a command's property is declared as, and what makes its value.
def family : CommandKind → Bool → String × String
  | .relay, false => ("global::System.Windows.Input.ICommand", "global::Minimal.Mvvm.RelayCommand")
  | .relay, true => ("global::Minimal.Mvvm.ICommand", "global::Minimal.Mvvm.RelayCommand")
  | .async, _ => ("global::Minimal.Mvvm.IAsyncCommand", "global::Minimal.Mvvm.AsyncCommand")

-- A command next to the signature of its method: both texts are of one family and have one type argument,
-- that of the value, and the lambda that passes a token on has the parameters of the method.
structure Suits (method : MethodMember) (command : Command) (value : Option Parameter) (argument : String) : Prop where
  token : command.cancellable = true ↔ ∃ last ∈ method.parameters.getLast?, last.type.isCancellationToken = true
  returns : command.kind = .relay ↔ method.returns.isVoid = true
  listed : ∃ token : Option Parameter,
    method.parameters = value.toList ++ token.toList ∧ command.cancellable = token.isSome
  bare : argument = "" ↔ value = none
  typed : ∀ parameter ∈ value, argument = "<" ++ parameter.type.display ++ ">"
  declared : command.interfaceType = (family command.kind value.isSome).1 ++ argument
  made : command.construction = "new " ++ (family command.kind value.isSome).2 ++ argument ++ "("
    ++ Source.Piece.joined (Source.delegatePieces command) ++ ")"
  forwards : command.cancellable = true →
    (Source.Piece.binders (Source.delegatePieces command)).length = method.parameters.length

theorem taken_token_iff (method : MethodMember) (command : Command) (value token : Option Parameter)
    (takes : Takes method command value token) :
    command.cancellable = true ↔ ∃ last ∈ method.parameters.getLast?, last.type.isCancellationToken = true := by
  rw [takes.passed, takes.listed]
  cases token with
  | some token => simp [takes.last token rfl]
  | none =>
      cases value with
      | none => simp
      | some value => simp [takes.plain rfl value rfl]

theorem command_texts (method : MethodMember) (command : Command) (value token : Option Parameter)
    (takes : Takes method command value token) :
    command.interfaceType = (family command.kind value.isSome).1 ++ command.typeArguments ∧
    command.construction = "new " ++ (family command.kind value.isSome).2 ++ command.typeArguments ++ "("
      ++ Source.Piece.joined (Source.delegatePieces command) ++ ")" := by
  have parameter := takes.argument
  rw [interfaceType, construction, Source.delegate_pieces_joined]
  cases value with
  | none =>
      rw [Option.map_none] at parameter
      cases kind : command.kind <;> simp [parameter, family]
  | some value =>
      rw [Option.map_some] at parameter
      cases kind : command.kind <;> simp [parameter, family]

theorem wrapped_suits (method : MethodMember) (command : Command) (wrapped : ofMethod? method = some command) :
    ∃ value argument, Suits method command value argument := by
  obtain ⟨value, token, takes, returned, relayed⟩ := wrapped_takes method command wrapped
  obtain ⟨declared, made⟩ := command_texts method command value token takes
  refine ⟨value, command.typeArguments, ?_⟩
  constructor
  case token => exact taken_token_iff method command value token takes
  case returns =>
    obtain ⟨relay, void⟩ | ⟨async, awaited⟩ := (kind_of_return_iff _ _).mp returned
    · simp [relay, void]
    · have busy : method.returns.isVoid ≠ true := fun void => by
        rw [TypeUse.void_no_task _ void] at awaited
        cases awaited
      simp [async, busy]
  case listed => exact ⟨token, takes.listed, takes.passed⟩
  case bare =>
    rw [typeArguments, takes.argument]
    cases value <;> simp
  case typed =>
    rintro parameter rfl
    simp [typeArguments, takes.argument]
  case declared => exact declared
  case made => exact made
  case forwards =>
    intro cancellable
    obtain ⟨token, rfl⟩ := Option.isSome_iff_exists.mp (takes.passed.symm.trans cancellable)
    rw [Source.delegate_binders, if_pos cancellable, takes.listed, forwarded, takes.argument]
    cases value <;> rfl

end Command

namespace Eligibility

theorem written_return_fits (returns : TypeUse) (suits : returns.isVoid = true ∨ returns.isTask = true) :
    writtenReturnFits (.ofText (if returns.isTask then "Task" else returns.text)) = true := by
  by_cases awaited : returns.isTask = true
  · rw [if_pos awaited]
    decide
  · have text : returns.text = "void" := eq_of_beq (suits.resolve_right awaited)
    rw [if_neg awaited, text]
    decide

theorem written_parameters_fit (value token : Option Parameter)
    (last : ∀ parameter ∈ token, parameter.type.isCancellationToken = true) :
    writtenParametersFit ((value.toList ++ token.toList).map (·.type.simpleName)) = true := by
  cases value with
  | none => cases token <;> rfl
  | some value =>
      cases token with
      | none => rfl
      | some token =>
          have spelled := TypeUse.token_simple_name token.type (last token rfl)
          simp only [Option.toList_some, List.singleton_append, List.map_cons, List.map_nil, writtenParametersFit,
            spelled]
          decide

theorem wrappable_shape_fits (method : MethodMember) (wrappable : Wrappable method) :
    shapeFits .notify (Target.method method).shape = true := by
  obtain ⟨value, token, listed, last, suits⟩ : ∃ value token : Option Parameter,
      method.parameters = value.toList ++ token.toList ∧
      (∀ parameter ∈ token, parameter.type.isCancellationToken = true) ∧
      (method.returns.isVoid = true ∨ method.returns.isTask = true) := by
    cases wrappable with
    | action value void listed plain => exact ⟨value, none, by simpa using listed, by simp, .inl void⟩
    | task value token awaited listed last => exact ⟨value, token, listed, last, .inr awaited⟩
  have parameters := written_parameters_fit value token last
  rw [← listed] at parameters
  simp only [Target.shape, shapeFits, parameters, written_return_fits method.returns suits]
  rfl

theorem method_fits_iff (host : Host) (base owner : TypeName) (method : MethodMember) :
    methodFits host base owner method = true ↔ host.inheritsFrom owner base = true ∧ Wrappable method := by
  rw [methodFits, Bool.and_eq_true, Bool.and_eq_true, Command.wrapped_iff, and_assoc]
  refine and_congr_right fun _ => ⟨And.right, fun wrappable => ⟨?_, wrappable⟩⟩
  rw [Bool.or_eq_true]
  cases wrappable with
  | action value void listed plain => exact .inl void
  | task value token awaited listed last => exact .inr awaited

theorem eligible_iff_wrappable (host : Host) (base owner : TypeName) (method : MethodMember) :
    let candidate := Candidate.ofTarget AttributeClass.notify owner (.method method)
    (isEligible host base .notify candidate = true ↔ host.inheritsFrom owner base = true ∧ Wrappable method) ∧
    (methodFits host base owner method = true → shapeFits .notify candidate.shape = true) ∧
    (isEligible host base .notify candidate = true → ∃ command value argument,
      Command.ofMethod? method = some command ∧ Command.Suits method command value argument) := by
  intro candidate
  have shaped (fits : methodFits host base owner method = true) : shapeFits .notify candidate.shape = true :=
    wrappable_shape_fits method ((method_fits_iff host base owner method).mp fits).2
  have eligible : isEligible host base .notify candidate = true ↔ methodFits host base owner method = true := by
    rw [isEligible, Bool.and_eq_true]
    exact ⟨And.right, fun fits => ⟨shaped fits, fits⟩⟩
  rw [eligible]
  refine ⟨method_fits_iff host base owner method, shaped, fun fits => ?_⟩
  have wraps := (Command.wrapped_iff method).mpr ((method_fits_iff host base owner method).mp fits).2
  obtain ⟨command, wrapped⟩ := Option.isSome_iff_exists.mp wraps
  obtain ⟨value, argument, suits⟩ := Command.wrapped_suits method command wrapped
  exact ⟨command, value, argument, wrapped, suits⟩

end Eligibility

end ObservableGen
