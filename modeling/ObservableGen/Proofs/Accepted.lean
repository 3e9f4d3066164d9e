import ObservableGen.Property
import ObservableGen.Proofs.Spelling
set_option autoImplicit false

/-!
Properties as they are accepted for a member. Main statement: a property stands for the name of its
own backing field exactly if it is a field's and the two spellings differ in the verbatim mark.
-/
namespace ObservableGen.Property

open Identifier

-- The property is what comes of the field or method with this name.
inductive Accepted (host : Host) (owner : Option DeclaredType) : String → Property → Prop
  | field (member : FieldMember) (property : Property)
      (decided : (ofField host owner member).value = .ok property) :
      Accepted host owner member.name property
  | method (member : MethodMember) (property : Property)
      (decided : (ofMethod host owner member).value = .ok property) :
      Accepted host owner member.name property

-- The member itself keeps the value, or a field that is generated for the command around it.
inductive KeptIn (member : String) (property : Property) : Prop
  | field (single : property.command = none) (own : property.backing = member)
  | command (command : Command) (held : property.command = some command)
      (wraps : command.method = member) (made : property.backing = Naming.backingField property.name)

theorem with_arguments_ok (member : String) (attributes : List Attribute)
    (next : NotifyArguments → Reported (Except Rejection Property)) (property : Property)
    (decided : (withArguments member attributes next).value = .ok property) :
    ∃ applied ∈ Attribute.findBySimpleName attributes AttributeClass.notify.path,
      (next (NotifyArguments.ofAttribute applied)).value = .ok property := by
  unfold withArguments at decided
  split at decided
  · cases decided
  · rename_i applied found
    exact ⟨applied, found, decided⟩

-- All that it takes for a field, and for a method, to get a property.
theorem field_decided (host : Host) (owner : Option DeclaredType) (member : FieldMember)
    (property : Property) (decided : (ofField host owner member).value = .ok property) :
    isIdentifier property.name = true ∧ property.name ≠ property.backing ∧
      property.command = none ∧ property.backing = member.name := by
  obtain ⟨applied, _, settled⟩ := with_arguments_ok _ _ _ _ decided
  unfold ofFieldArguments at settled
  split at settled
  · cases settled
  · obtain ⟨rfl, identifier, apart⟩ := validated_eq_ok _ _ _ settled
    exact ⟨identifier, apart, rfl, rfl⟩

theorem method_decided (host : Host) (owner : Option DeclaredType) (member : MethodMember)
    (property : Property) (decided : (ofMethod host owner member).value = .ok property) :
    isIdentifier property.name = true ∧ property.name ≠ property.backing ∧
      ∃ command, Command.ofMethod? member = some command ∧ property.command = some command ∧
        property.backing = Naming.backingField property.name := by
  obtain ⟨applied, _, settled⟩ := with_arguments_ok _ _ _ _ decided
  rw [Reported.value_silent] at settled
  unfold ofMethodArguments at settled
  split at settled
  · cases settled
  · rename_i command wrapped
    obtain ⟨rfl, identifier, apart⟩ := validated_eq_ok _ _ _ settled
    exact ⟨identifier, apart, command, wrapped, rfl, rfl⟩

variable (host : Host) (owner : Option DeclaredType) (member : String) (property : Property)

theorem accepted_name (accepted : Accepted host owner member property) :
    isIdentifier property.name = true ∧ property.name ≠ property.backing := by
  cases accepted with
  | field member property decided =>
      obtain ⟨identifier, apart, _⟩ := field_decided host owner member property decided
      exact ⟨identifier, apart⟩
  | method member property decided =>
      obtain ⟨identifier, apart, _⟩ := method_decided host owner member property decided
      exact ⟨identifier, apart⟩

theorem accepted_kept (accepted : Accepted host owner member property) : KeptIn member property := by
  cases accepted with
  | field member property decided =>
      obtain ⟨_, _, single, own⟩ := field_decided host owner member property decided
      exact .field single own
  | method member property decided =>
      obtain ⟨_, _, command, wrapped, held, made⟩ := method_decided host owner member property decided
      exact .command command held (Command.command_method_name member command wrapped) made

theorem kept_command_method (kept : KeptIn member property) (command : Command)
    (held : property.command = some command) : command.method = member := by
  cases kept with
  | field single own =>
      rw [single] at held
      cases held
  | command wrapped present wraps made =>
      rw [present] at held
      cases held
      exact wraps

-- The check on spellings leaves open that one is verbatim. A generated field is never concerned.
theorem backing_collision_iff (accepted : Accepted host owner member property)
    (named : isIdentifier member = true) :
    plain property.name = plain property.backing ↔
      property.command = none ∧ (property.name = "@" ++ member ∨ member = "@" ++ property.name) := by
  obtain ⟨identifier, apart⟩ := accepted_name host owner member property accepted
  cases accepted_kept host owner member property accepted with
  | field single own =>
      have spellings := same_name_iff property.name property.backing identifier (own ▸ named)
      rw [spellings, own]
      rw [own] at apart
      simp [single, apart]
  | command command held wraps made =>
      have longer := Naming.backing_field_apart property.name identifier
      rw [made, Naming.backing_field_unmarked property.name identifier]
      simp [longer, held]

-- Members that are marked with these arguments and nothing else.
def markedField (name type : String) (positional : List Constant)
    (named : List (String × Constant)) : FieldMember :=
  ⟨name, ⟨type, false⟩, false, [⟨AttributeClass.notify, positional, named⟩], none⟩

def markedMethod (name returns : String) (parameters : List Parameter)
    (positional : List Constant) : MethodMember :=
  ⟨name, ⟨returns, false⟩, parameters, [⟨AttributeClass.notify, positional, []⟩], none⟩

theorem verbatim_command_apart :
    ∃ property, Accepted Compilation.empty.host none "Raise" property ∧
      isIdentifier "Raise" = true ∧ plain property.name ≠ plain property.backing := by
  have accepted : Accepted Compilation.empty.host none "Raise" _ :=
    .method (markedMethod "Raise" "void" [] [.text "@event"]) _ rfl
  have spelled : isIdentifier "Raise" = true := by decide
  refine ⟨_, accepted, spelled, ?_⟩
  intro same
  cases ((backing_collision_iff _ _ _ _ accepted spelled).mp same).1

-- The property is asked for under the field's own name, spelled verbatim.
theorem verbatim_override_collides :
    ∃ property, Accepted Compilation.empty.host none "name" property ∧
      isIdentifier "name" = true ∧ plain property.name = plain property.backing := by
  refine ⟨_, .field (markedField "name" "string" [.text "@name"] []) _ rfl, ?_, ?_⟩
  · decide
  · decide

end ObservableGen.Property
