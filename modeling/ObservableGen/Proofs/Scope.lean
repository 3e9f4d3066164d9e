import ObservableGen.Proofs.Accepted
import ObservableGen.Source.PropertySource
set_option autoImplicit false

/-!
Which names a setter and the lambda of a command bind, and which they mention for members of the
type. Main statement: a mention is captured only where the member itself is named like the parameter
or local; a generated backing field never is.
-/
namespace ObservableGen.Source

-- A stretch of a line. A binder declares a parameter or local; a mention is meant for a member.
inductive Piece where
  | text (text : String)
  | binder (name : String)
  | mention (name : String)
deriving DecidableEq, Repr

namespace Piece

def written : Piece → String
  | .text written => written
  | .binder name => name
  | .mention name => name

def binder? : Piece → Option String
  | .binder name => some name
  | .text _ => none
  | .mention _ => none

def joined (pieces : List Piece) : String :=
  pieces.foldr (fun piece rest => piece.written ++ rest) ""

def binders (pieces : List Piece) : List String := pieces.filterMap binder?

@[simp] theorem binders_nil : binders [] = [] := rfl

@[simp] theorem binders_text (text : String) (rest : List Piece) :
    binders (.text text :: rest) = binders rest := rfl

@[simp] theorem binders_binder (name : String) (rest : List Piece) :
    binders (.binder name :: rest) = name :: binders rest := rfl

@[simp] theorem binders_mention (name : String) (rest : List Piece) :
    binders (.mention name :: rest) = binders rest := rfl

@[simp] theorem binders_append (first second : List Piece) :
    binders (first ++ second) = binders first ++ binders second := List.filterMap_append

def listed : List (List Piece) → List Piece
  | [] => []
  | [item] => item
  | item :: next :: rest => item ++ .text ", " :: listed (next :: rest)

theorem joined_append (first second : List Piece) :
    joined (first ++ second) = joined first ++ joined second := by
  induction first with
  | nil => simp [joined]
  | cons piece rest ih =>
      simp only [joined, List.cons_append, List.foldr_cons] at ih ⊢
      rw [ih, String.append_assoc]

theorem joined_listed (items : List (List Piece)) :
    joined (listed items) = ", ".intercalate (items.map joined) := by
  induction items with
  | nil => rfl
  | cons item rest ih =>
      cases rest with
      | nil => rfl
      | cons next rest =>
          rw [listed, joined_append, List.map_cons, List.map_cons, String.intercalate_cons_cons, String.append_assoc,
            ← List.map_cons, ← ih]
          rfl

theorem binders_listed (items : List (List Piece)) : binders (listed items) = items.flatMap binders := by
  induction items with
  | nil => rfl
  | cons item rest ih =>
      cases rest with
      | nil => simp [listed]
      | cons next rest => rw [listed, binders_append, binders_text, ih, @List.flatMap_cons _ _ item]

end Piece

structure Phrase where
  level : Nat
  pieces : List Piece
deriving DecidableEq, Repr

namespace Phrase

def line (phrase : Phrase) : Line := ⟨phrase.level, Piece.joined phrase.pieces⟩

def flat (pieces : List Piece) : Phrase := ⟨0, pieces⟩

def ofLine (line : Line) : Phrase := ⟨line.level, [.text line.text]⟩

def deeper (phrase : Phrase) : Phrase := ⟨phrase.level + 1, phrase.pieces⟩

def braced (body : List Phrase) : List Phrase :=
  ofLine (.flat "\x7b") :: body.map deeper ++ [ofLine (.flat "\x7d")]

def gathered (phrases : List Phrase) : List Piece := phrases.flatMap Phrase.pieces

@[simp] theorem line_of_line (line : Line) : (ofLine line).line = line := by
  simp [ofLine, Phrase.line, Piece.joined, Piece.written]

theorem lines_of_lines (lines : List Line) : (lines.map ofLine).map line = lines := by
  simp [Function.comp_def]

theorem braced_lines (body : List Phrase) : (braced body).map line = Line.braced (body.map line) := by
  simp only [braced, Line.braced, List.map_append, List.map_cons, List.map_nil, List.map_map,
    line_of_line]
  rfl

@[simp] theorem gathered_nil : gathered [] = [] := rfl

@[simp] theorem gathered_cons (phrase : Phrase) (rest : List Phrase) :
    gathered (phrase :: rest) = phrase.pieces ++ gathered rest := List.flatMap_cons

@[simp] theorem gathered_append (first second : List Phrase) :
    gathered (first ++ second) = gathered first ++ gathered second := List.flatMap_append

theorem gathered_braced (body : List Phrase) :
    gathered (braced body) = .text "\x7b" :: gathered body ++ [.text "\x7d"] := by
  simp [gathered, braced, ofLine, Line.flat, deeper, List.flatMap_map]

theorem lines_bind_nothing (lines : List Line) : Piece.binders (gathered (lines.map ofLine)) = [] := by
  induction lines with
  | nil => rfl
  | cons line rest ih =>
      rw [List.map_cons, gathered_cons, Piece.binders_append, ih, ofLine]
      rfl

end Phrase

namespace PropertySource

def argumentPieces (source : PropertySource) : List (List Piece) :=
  [[.text "ref ", .mention source.property.backing], [.text "value"]]
    ++ (source.ownToken.map fun ident => [.text (TokenCache.reference ident)]).toList
    ++ (source.property.callback.map fun callback =>
      [.mention (callbackField source.property), .text " ??= ", .mention callback.name]).toList

def setCallPieces (source : PropertySource) : List Piece :=
  .text "SetProperty(" :: Piece.listed source.argumentPieces ++ [.text ")"]

def keptPhrases (property : Property) : List Phrase :=
  if property.usesManager then
    [.flat [.text "var ", .binder oldValue, .text " = ", .mention property.backing, .text ";"]]
  else []

def setterPhrases (source : PropertySource) : List Phrase :=
  let property := source.property
  if property.hasSetEffects then
    let tested := .flat (.text "if (" :: source.setCallPieces ++ [.text ")"])
      :: (Line.braced source.changeLines).map .ofLine
    .ofLine (.flat (setterLead property ++ "set")) :: Phrase.braced (keptPhrases property ++ tested)
  else [.flat (.text (setterLead property ++ "set => ") :: source.setCallPieces ++ [.text ";"])]

-- The parameter that every setter has, then the locals.
def setterBinders (source : PropertySource) : List String :=
  "value" :: Piece.binders (Phrase.gathered source.setterPhrases)

theorem argument_pieces_joined (source : PropertySource) :
    source.argumentPieces.map Piece.joined = source.setArguments := by
  cases token : source.ownToken <;> cases given : source.property.callback <;>
    simp [argumentPieces, setArguments, callbackArgument?, token, given, Piece.joined, Piece.written,
      String.append_assoc]

theorem set_call_pieces_joined (source : PropertySource) :
    Piece.joined source.setCallPieces = source.setCall := by
  rw [setCallPieces, Piece.joined_append, setCall, ← argument_pieces_joined, ← Piece.joined_listed]
  rfl

theorem set_call_line (source : PropertySource) (lead tail : String) :
    (Phrase.flat (.text lead :: source.setCallPieces ++ [.text tail])).line
      = .flat (lead ++ source.setCall ++ tail) := by
  rw [Phrase.line, Phrase.flat, Piece.joined_append, ← set_call_pieces_joined]
  simp [Piece.joined, Piece.written, Line.flat]

theorem kept_phrases_lines (property : Property) :
    (keptPhrases property).map Phrase.line = keptLines property := by
  by_cases manager : property.usesManager = true <;>
    simp [keptPhrases, keptLines, manager, Phrase.line, Phrase.flat, Piece.joined, Piece.written,
      Line.flat, String.append_assoc]

theorem setter_phrases_lines (source : PropertySource) :
    source.setterPhrases.map Phrase.line = source.setterLines := by
  rw [setterPhrases, setterLines]
  by_cases effects : source.property.hasSetEffects = true
  · rw [if_pos effects, if_pos effects, List.map_cons, Phrase.line_of_line, Phrase.braced_lines,
      List.map_append, kept_phrases_lines, List.map_cons, set_call_line, Phrase.lines_of_lines]
  · rw [if_neg effects, if_neg effects, List.map_cons, set_call_line, List.map_nil]

theorem set_call_binds_nothing (source : PropertySource) : Piece.binders source.setCallPieces = [] := by
  have items : source.argumentPieces.flatMap Piece.binders = [] := by
    cases token : source.ownToken <;> cases given : source.property.callback <;>
      simp [argumentPieces, token, given]
  simp [setCallPieces, Piece.binders_listed, items]

theorem setter_binders (source : PropertySource) :
    source.setterBinders = "value" :: if source.property.usesManager then [oldValue] else [] := by
  have call := source.set_call_binds_nothing
  rw [setterBinders, setterPhrases]
  congr 1
  by_cases manager : source.property.usesManager = true
  · have effects : source.property.hasSetEffects = true := by simp [Property.hasSetEffects, manager]
    simp [effects, manager, Phrase.gathered_braced, Phrase.ofLine, Phrase.lines_bind_nothing,
      keptPhrases, Phrase.flat, call]
  · by_cases effects : source.property.hasSetEffects = true
    · simp [effects, manager, Phrase.gathered_braced, Phrase.ofLine, Phrase.lines_bind_nothing,
        keptPhrases, Phrase.flat, call]
    · simp [effects, manager, Phrase.flat, call]

theorem setter_mentions_backing (source : PropertySource) :
    .mention source.property.backing ∈ Phrase.gathered source.setterPhrases := by
  have call : .mention source.property.backing ∈ source.setCallPieces := by
    simp [setCallPieces, argumentPieces, Piece.listed]
  rw [setterPhrases]
  by_cases effects : source.property.hasSetEffects = true
  · simp [effects, Phrase.gathered_braced, Phrase.flat, call]
  · simp [effects, Phrase.flat, call]

end PropertySource

-- The lambda around a method binds what it passes on; without a token the method stands alone.
def delegatePieces (command : Command) : List Piece :=
  if command.cancellable then
    let parameters := Piece.listed (command.forwarded.map fun name => [.binder name])
    let bound := if command.parameter.isSome then .text "(" :: parameters ++ [.text ")"] else parameters
    bound ++ [.text " => ", .mention command.method,
      .text ("(" ++ ", ".intercalate command.forwarded ++ ")")]
  else [.mention command.method]

theorem delegate_pieces_joined (command : Command) :
    Piece.joined (delegatePieces command) = command.delegate := by
  cases passed : command.cancellable <;> cases value : command.parameter <;>
    simp [delegatePieces, Command.delegate, Command.forwarded, passed, value, Piece.listed, Piece.joined,
      Piece.written, ← String.append_assoc]

theorem delegate_mentions_method (command : Command) :
    .mention command.method ∈ delegatePieces command := by
  cases passed : command.cancellable <;> simp [delegatePieces, passed]

theorem delegate_binders (command : Command) :
    Piece.binders (delegatePieces command) = if command.cancellable then command.forwarded else [] := by
  cases passed : command.cancellable <;> cases value : command.parameter <;>
    simp [delegatePieces, Command.forwarded, passed, value, Piece.listed]

-- A name is captured where something of the same name is bound, however either is spelled.
def Captured (bound : List String) (name : String) : Prop :=
  ∃ binder ∈ bound, Identifier.plain binder = Identifier.plain name

theorem setter_captures_iff (source : PropertySource) (name : String) :
    Captured source.setterBinders name ↔ Identifier.plain name = "value"
      ∨ Identifier.plain name = "oldValue" ∧ source.property.usesManager = true := by
  have value : Identifier.plain "value" = "value" := by decide
  have old : Identifier.plain PropertySource.oldValue = "oldValue" := by decide
  cases manager : source.property.usesManager <;>
    simp [Captured, source.setter_binders, manager, value, old, eq_comm]

theorem delegate_captures_iff (command : Command) (name : String) :
    Captured (Piece.binders (delegatePieces command)) name ↔ command.cancellable = true ∧
      (Identifier.plain name = "cancellationToken"
        ∨ Identifier.plain name = "parameter" ∧ command.parameter.isSome = true) := by
  have token : Identifier.plain "cancellationToken" = "cancellationToken" := by decide
  have parameter : Identifier.plain "parameter" = "parameter" := by decide
  cases passed : command.cancellable <;> cases value : command.parameter <;>
    simp [Captured, delegate_binders, Command.forwarded, passed, value, token, parameter, eq_comm, or_comm]

theorem generated_backing_free (source : PropertySource) (property : String)
    (valid : Identifier.isIdentifier property = true) :
    ¬ Captured source.setterBinders (Naming.backingField property) := by
  rw [setter_captures_iff, Naming.backing_field_unmarked property valid]
  have lead : (Naming.backingField property).toList.head? = some '_' := by
    simp [Naming.backingField]
  rintro (same | ⟨same, _⟩)
  · simp [same] at lead
  · simp [same] at lead

-- Only a field of the setter's own names, and a method of the lambda's, are concerned.
theorem capture_iff (host : Host) (owner : Option DeclaredType) (member : String)
    (source : PropertySource) (accepted : Property.Accepted host owner member source.property) :
    source.setterPhrases.map Phrase.line = source.setterLines ∧
      .mention source.property.backing ∈ Phrase.gathered source.setterPhrases ∧
      (Captured source.setterBinders source.property.backing ↔
        source.property.command = none ∧ (Identifier.plain member = "value"
          ∨ Identifier.plain member = "oldValue" ∧ source.property.usesManager = true)) ∧
      ∀ command, source.property.command = some command →
        Piece.joined (delegatePieces command) = command.delegate ∧
        .mention command.method ∈ delegatePieces command ∧
        (Captured (Piece.binders (delegatePieces command)) command.method ↔
          command.cancellable = true ∧ (Identifier.plain member = "cancellationToken"
            ∨ Identifier.plain member = "parameter" ∧ command.parameter.isSome = true)) := by
  obtain ⟨named, _⟩ := Property.accepted_name host owner member source.property accepted
  have kept := Property.accepted_kept host owner member source.property accepted
  refine ⟨source.setter_phrases_lines, source.setter_mentions_backing, ?_, ?_⟩
  · cases kept with
    | field single own =>
        rw [setter_captures_iff, own]
        simp [single]
    | command command held wraps made =>
        have free := generated_backing_free source source.property.name named
        rw [← made] at free
        simp [free, held]
  · intro command held
    have wraps := Property.kept_command_method member source.property kept command held
    refine ⟨delegate_pieces_joined command, delegate_mentions_method command, ?_⟩
    rw [wraps, delegate_captures_iff]

-- The local in front of the call takes the name of the field that it keeps, and the lambda's first
-- parameter that of the method.
theorem kept_value_captured :
    (∃ property : Property, Property.Accepted Compilation.empty.host none "oldValue" property ∧
      Captured (PropertySource.setterBinders ⟨property, none, []⟩) property.backing) ∧
    ∃ property : Property, Property.Accepted Compilation.empty.host none "parameter" property ∧
      ∃ command, property.command = some command ∧
        Captured (Piece.binders (delegatePieces command)) command.method := by
  constructor
  · have accepted : Property.Accepted Compilation.empty.host none "oldValue" _ :=
      .field (Property.markedField "oldValue" "global::System.Windows.Input.ICommand" []
        [("UseCommandManager", .bool true)]) _ rfl
    have concerned := (capture_iff _ _ _ ⟨_, none, []⟩ accepted).2.2.1
    exact ⟨_, accepted, concerned.mpr ⟨rfl, .inr ⟨by decide, rfl⟩⟩⟩
  · have accepted : Property.Accepted Compilation.empty.host none "parameter" _ :=
      .method (Property.markedMethod "parameter" "System.Threading.Tasks.Task" [⟨"text", ⟨"string", false⟩⟩,
        ⟨"token", ⟨"System.Threading.CancellationToken", false⟩⟩] []) _ rfl
    have concerned := ((capture_iff _ _ _ ⟨_, none, []⟩ accepted).2.2.2 _ rfl).2.2
    exact ⟨_, accepted, _, rfl, concerned.mpr ⟨rfl, .inr ⟨by decide, rfl⟩⟩⟩

-- The setter assigns its parameter to itself, and the lambda calls its own token.
theorem parameter_captures_member :
    (∃ property : Property, Property.Accepted Compilation.empty.host none "value" property ∧
      Identifier.isIdentifier "value" = true ∧
      Captured (PropertySource.setterBinders ⟨property, none, []⟩) property.backing) ∧
    ∃ property : Property, Property.Accepted Compilation.empty.host none "cancellationToken" property ∧
      Identifier.isIdentifier "cancellationToken" = true ∧
      ∃ command, property.command = some command ∧
        Captured (Piece.binders (delegatePieces command)) command.method := by
  constructor
  · refine ⟨_, .field (Property.markedField "value" "string" [] []) _ rfl, by decide, ?_⟩
    exact (setter_captures_iff _ _).mpr (.inl (by decide))
  · refine ⟨_, .method (Property.markedMethod "cancellationToken" "System.Threading.Tasks.Task"
      [⟨"token", ⟨"System.Threading.CancellationToken", false⟩⟩] []) _ rfl, by decide, _, rfl, ?_⟩
    exact (delegate_captures_iff _ _).mpr ⟨rfl, .inl (by decide)⟩

end ObservableGen.Source
