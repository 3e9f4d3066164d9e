import ObservableGen.Proofs.Accepted
import ObservableGen.Proofs.Setter
import ObservableGen.Proofs.Settlement
set_option autoImplicit false

/-!
What a generated setter does when a value is assigned. In its program a name stands for the parameter, a local or a
member, and a runtime answers the calls. Main statement: which calls are made, in which order and with what; and what
settling them leaves registered. The callback is passed unless the parameter or the local has its name.
-/
namespace ObservableGen.Source

-- What a name stands for: the parameter or a local, or a member.
inductive Place where
  | slot (name : String)
  | field (name : String)
deriving DecidableEq, Repr

-- A parameter or local in scope hides the member of its name, however either is spelled.
def Place.meant (scope : List String) (name : String) : Place :=
  if Identifier.plain name ∈ scope then .slot (Identifier.plain name) else .field (Identifier.plain name)

-- What a delegate is made of where there is none yet: a method, or what a parameter or local holds.
inductive Made (V : Type) where
  | method (name : String)
  | held (value : V)
deriving DecidableEq, Repr

inductive Actual (V : Type) where
  | reference (place : Place)
  | value (value : V)
  | notified (argument : NotificationArgument)
  | delegate (kept : Place) (made : Made V)
deriving DecidableEq, Repr

structure Event (V : Type) where
  callee : Callee
  actuals : List (Actual V)
deriving DecidableEq, Repr

-- What a method leaves behind: its answer, the fields, and the slot that was passed by reference, if one was.
structure Answer (V : Type) where
  changed : Bool
  fields : String → V
  left : V

-- Whatever the methods do with the fields; the slots of a setter are its own.
abbrev Runtime (V : Type) := Event V → (String → V) → Answer V

structure State (V : Type) where
  fields : String → V
  slots : String → V

def Event.passes {V : Type} (event : Event V) (name : String) : Bool :=
  event.actuals.any fun actual => match actual with
    | .reference place => place == .slot name
    | .value _ | .notified _ | .delegate _ _ => false

namespace State

variable {V : Type}

def read (state : State V) : Place → V
  | .slot name => state.slots name
  | .field name => state.fields name

def made (state : State V) : Place → Made V
  | .slot name => .held (state.slots name)
  | .field name => .method name

def put (state : State V) (name : String) (value : V) : State V :=
  { state with slots := fun other => if other = name then value else state.slots other }

def after (state : State V) (event : Event V) (answer : Answer V) : State V :=
  ⟨answer.fields, fun name => if event.passes name then answer.left else state.slots name⟩

end State

section Run

variable {V : Type}

def Operand.actual (scope : List String) (state : State V) : Operand → Actual V
  | reference name => .reference (Place.meant scope name)
  | named name => .value (state.read (Place.meant scope name))
  | notified argument => .notified argument
  | delegate field method =>
      .delegate (Place.meant scope field) (state.made (Place.meant scope method))

def Invocation.event (scope : List String) (state : State V) (call : Invocation) : Event V :=
  ⟨call.callee, call.operands.map (Operand.actual scope state)⟩

def performed (runtime : Runtime V) (scope : List String) (state : State V) :
    List Invocation → List (Event V) × State V
  | [] => ([], state)
  | call :: rest =>
      let event := call.event scope state
      let others := performed runtime scope (state.after event (runtime event state.fields)) rest
      (event :: others.1, others.2)

-- A local is in scope already where its own value is written.
def executed (runtime : Runtime V) (scope : List String) (state : State V) :
    List Statement → List (Event V) × State V
  | [] => ([], state)
  | .keep name source :: rest =>
      let inner := Identifier.plain name :: scope
      let value := state.read (Place.meant inner source)
      executed runtime inner (state.put (Identifier.plain name) value) rest
  | .test condition body :: rest =>
      let event := condition.event scope state
      let answer := runtime event state.fields
      let behind := state.after event answer
      let chosen := if answer.changed then performed runtime scope behind body else ([], behind)
      let others := executed runtime scope chosen.2 rest
      (event :: chosen.1 ++ others.1, others.2)

-- The calls for an assigned value. The parameter is the one slot in scope at first.
def Setter.run (runtime : Runtime V) (fields : String → V) (value : V) : Setter → List (Event V)
  | expression call => (performed runtime ["value"] ⟨fields, fun _ => value⟩ [call]).1
  | block statements => (executed runtime ["value"] ⟨fields, fun _ => value⟩ statements).1

def raising : List NotificationArgument → List (Event V)
  | [] => []
  | [argument] => [⟨.raiseOne, [.notified argument]⟩]
  | arguments => [⟨.raiseSeveral, arguments.map .notified⟩]

end Run

namespace PropertySource

def callbackMade {V : Type} (property : Property) (before value : V) (name : String) : Made V :=
  if Identifier.plain name = "value" then .held value
  else if Identifier.plain name = "oldValue" ∧ property.usesManager = true then .held before
  else .method (Identifier.plain name)

-- The call that sets: the field, the value, the property's own token and the callback's delegate.
def setEvent {V : Type} (source : PropertySource) (before value : V) : Event V :=
  let backing := Identifier.plain source.property.backing
  ⟨.setProperty, [.reference (.field backing), .value value]
    ++ (source.ownToken.map fun ident => .notified (.token ident)).toList
    ++ (source.property.callback.map fun callback => .delegate (.field (backing ++ "ChangedCallback"))
      (callbackMade source.property before value callback.name)).toList⟩

def handlerEvents {V : Type} (property : Property) (before value : V) : List (Event V) :=
  if property.usesManager then [⟨.removeHandler, [.value before]⟩, ⟨.addHandler, [.value value]⟩] else []

section Run

variable {V : Type}

theorem place_of_field (scope : List String) (name : String) (outside : Identifier.plain name ∉ scope) :
    Place.meant scope name = .field (Identifier.plain name) :=
  if_neg outside

theorem place_of_slot (scope : List String) (name : String) (plain : Identifier.plain name = name)
    (inside : name ∈ scope) : Place.meant scope name = .slot name := by
  rw [Place.meant, plain, if_pos inside]

theorem value_place (scope : List String) (inside : "value" ∈ scope) : Place.meant scope "value" = .slot "value" :=
  place_of_slot scope "value" (by decide) inside

theorem after_slots (state : State V) (event : Event V) (answer : Answer V) (name : String)
    (kept : event.passes name = false) : (state.after event answer).slots name = state.slots name := by
  simp [State.after, kept]

def scope (property : Property) : List String :=
  if property.usesManager then ["oldValue", "value"] else ["value"]

theorem value_in_scope (property : Property) : "value" ∈ scope property := by
  rw [scope]
  split <;> simp

theorem backing_out_of_scope (property : Property) (parameter : Identifier.plain property.backing ≠ "value")
    (kept : property.usesManager = true → Identifier.plain property.backing ≠ "oldValue") :
    Identifier.plain property.backing ∉ scope property := by
  rw [scope]
  by_cases manager : property.usesManager = true
  · simp [manager, kept manager, parameter]
  · simp [manager, parameter]

-- The name of the field that keeps the delegate is longer than those in scope.
theorem callback_field_place (property : Property) :
    Place.meant (scope property) (property.backing ++ "ChangedCallback")
      = .field (Identifier.plain property.backing ++ "ChangedCallback") := by
  rw [Place.meant, Identifier.plain_append property.backing "ChangedCallback" (by decide), if_neg]
  intro listed
  have short : ∀ name ∈ scope property, name.length < 15 := by
    rw [scope]
    split <;> decide
  have size := short _ listed
  rw [String.length_append] at size
  have long : "ChangedCallback".length = 15 := by decide
  omega

theorem callback_made (property : Property) (state : State V) (name : String) :
    state.made (Place.meant (scope property) name)
      = callbackMade property (state.slots "oldValue") (state.slots "value") name := by
  rw [Place.meant, callbackMade]
  by_cases parameter : Identifier.plain name = "value"
  · simp [parameter, value_in_scope, State.made]
  · by_cases manager : property.usesManager = true
    · by_cases kept : Identifier.plain name = "oldValue" <;> simp [scope, manager, parameter, kept, State.made]
    · simp [scope, manager, parameter, State.made]

theorem set_event (source : PropertySource) (state : State V)
    (outside : Identifier.plain source.property.backing ∉ scope source.property) :
    source.setInvocation.event (scope source.property) state
      = source.setEvent (state.slots "oldValue") (state.slots "value") := by
  have backing := place_of_field _ source.property.backing outside
  have value := value_place _ (value_in_scope source.property)
  have field := callback_field_place source.property
  have made := callback_made source.property state
  cases token : source.ownToken <;> cases given : source.property.callback <;>
    simp [Invocation.event, setInvocation, setEvent, Operand.actual, State.read, backing, value, field, made, token,
      given]

-- Only the field is passed by reference.
theorem set_passes (source : PropertySource) (before value : V) (name : String) :
    (source.setEvent before value).passes name = false := by
  cases token : source.ownToken <;> cases given : source.property.callback <;>
    simp [Event.passes, setEvent, token, given]

theorem raise_events (source : PropertySource) (runtime : Runtime V) (scope : List String) (state : State V) :
    (performed runtime scope state source.raiseInvocation?.toList).1 = raising source.raised := by
  rw [raiseInvocation?]
  cases source.raised with
  | nil => rfl
  | cons first rest =>
      cases rest with
      | nil => rfl
      | cons second rest =>
          simp [performed, raising, Invocation.event, Operand.actual, Function.comp_def]

theorem change_events (source : PropertySource) (runtime : Runtime V) (state : State V) :
    (performed runtime (scope source.property) state
      (handlerInvocations source.property ++ source.raiseInvocation?.toList)).1
      = handlerEvents source.property (state.slots "oldValue") (state.slots "value") ++ raising source.raised := by
  by_cases manager : source.property.usesManager = true
  · have new := value_place _ (value_in_scope source.property)
    have old : Place.meant (scope source.property) "oldValue" = .slot "oldValue" :=
      place_of_slot _ "oldValue" (by decide) (by simp [scope, manager])
    have raised := raise_events source runtime (scope source.property)
    simp [handlerInvocations, handlerEvents, manager, performed, Invocation.event, Operand.actual, State.read, old,
      new, raised, after_slots, Event.passes]
  · have raised := raise_events source runtime (scope source.property) state
    simp [handlerInvocations, handlerEvents, manager, raised]

theorem tested_events (source : PropertySource) (runtime : Runtime V) (state : State V)
    (outside : Identifier.plain source.property.backing ∉ scope source.property) :
    let set := source.setEvent (state.slots "oldValue") (state.slots "value")
    (executed runtime (scope source.property) state [.test source.setInvocation
      (handlerInvocations source.property ++ source.raiseInvocation?.toList)]).1
        = set :: if (runtime set state.fields).changed then
          handlerEvents source.property (state.slots "oldValue") (state.slots "value") ++ raising source.raised
        else [] := by
  intro set
  have event := set_event source state outside
  have passes (name : String) : set.passes name = false := set_passes source _ _ name
  have slots (name : String) := after_slots state set (runtime set state.fields) name (passes name)
  have changed := change_events source runtime (state.after set (runtime set state.fields))
  rw [slots, slots] at changed
  simp only [executed, event, List.append_nil]
  by_cases answered : (runtime set state.fields).changed = true
  · simp only [set, answered, if_true] at changed ⊢
    rw [changed]
  · simp [set, answered]

theorem executed_keep (runtime : Runtime V) (scope : List String) (state : State V) (name source : String)
    (rest : List Statement) (plain : Identifier.plain name = name) :
    executed runtime scope state (.keep name source :: rest)
      = executed runtime (name :: scope) (state.put name (state.read (Place.meant (name :: scope) source))) rest := by
  rw [executed, plain]

-- The three forms of a setter: with the manager a local stands in front of the test, without it the test is all,
-- and where nothing follows a change there is only the call.
theorem setter_events (source : PropertySource) (complete : source.Complete) (runtime : Runtime V)
    (fields : String → V) (value : V)
    (outside : Identifier.plain source.property.backing ∉ scope source.property) :
    let before := fields (Identifier.plain source.property.backing)
    let set := source.setEvent before value
    source.setter.run runtime fields value = set :: if (runtime set fields).changed then
      handlerEvents source.property before value ++ raising source.raised else [] := by
  intro before set
  let start : State V := ⟨fields, fun _ => value⟩
  by_cases manager : source.property.usesManager = true
  · have effects : (source.property.usesManager || !source.property.alsoNotify.isEmpty) = true := by simp [manager]
    have names : scope source.property = ["oldValue", "value"] := if_pos manager
    have held : start.read (Place.meant ["oldValue", "value"] source.property.backing) = before := by
      rw [place_of_field _ _ (names ▸ outside)]
      rfl
    have tested := tested_events source runtime (start.put "oldValue" before) outside
    rw [names] at tested
    rw [setter, if_pos effects, if_pos manager, Setter.run, List.singleton_append,
      executed_keep _ _ _ _ _ _ (by decide), held]
    exact tested
  · have names : scope source.property = ["value"] := if_neg manager
    -- Nothing reads the local where it is not declared.
    have unread (other : V) : source.setEvent other value = set := by
      simp [set, setEvent, callbackMade, manager]
    have unmoved (other : V) : handlerEvents source.property other value = [] := if_neg manager
    by_cases effects : (source.property.usesManager || !source.property.alsoNotify.isEmpty) = true
    · have tested := tested_events source runtime start outside
      rw [names, unread, unmoved] at tested
      rwa [setter, if_pos effects, if_neg manager, Setter.run, unmoved]
    · have silent : source.raised = [] := by
        simp only [Bool.or_eq_true, not_or, Bool.not_eq_true', Bool.not_eq_true, Bool.not_eq_false,
          List.isEmpty_iff] at effects
        simpa [Complete, effects.2] using complete
      have event := set_event source start outside
      rw [names, unread] at event
      rw [setter, if_neg effects, Setter.run, performed, performed, event, unmoved, silent]
      simp [raising, set]

end Run

theorem setter_is_expression (source : PropertySource) :
    source.setter.isExpression = true ↔ source.property.usesManager = false ∧ source.property.alsoNotify = [] := by
  rw [setter]
  by_cases effects : (source.property.usesManager || !source.property.alsoNotify.isEmpty) = true
  · rw [if_pos effects]
    simp only [Setter.isExpression, Bool.false_eq_true, false_iff, not_and]
    intro manager silent
    simp [manager, silent] at effects
  · rw [if_neg effects]
    simpa [Setter.isExpression] using effects

end PropertySource

theorem assigned_value_effects (unit : TypeUnit) (shared : Shared) (property : Property)
    (parameter : Identifier.plain property.backing ≠ "value")
    (kept : property.usesManager = true → Identifier.plain property.backing ≠ "oldValue") :
    let added := unit.addProperty shared property
    let backing := Identifier.plain property.backing
    ∃ source : PropertySource, source.property = property ∧ added.1 = unit.add (.property source) ∧
      (∃ front, source.lines unit.header.nullable = front
        ++ Line.braced (PropertySource.getterLine property :: source.setter.lines (PropertySource.setterLead property))
        ++ PropertySource.factoryLines property) ∧
      (source.setter.isExpression = true ↔ property.usesManager = false ∧ property.alsoNotify = []) ∧
      (∀ (V : Type) (runtime : Runtime V) (fields : String → V) (value : V),
        let before := fields backing
        let made (name : String) : Made V := if Identifier.plain name = "value" then .held value
          else if Identifier.plain name = "oldValue" ∧ property.usesManager = true then .held before
          else .method (Identifier.plain name)
        let set : Event V := ⟨.setProperty, [.reference (.field backing), .value value]
          ++ (source.ownToken.map fun ident => .notified (.token ident)).toList
          ++ (property.callback.map fun callback =>
            .delegate (.field (backing ++ "ChangedCallback")) (made callback.name)).toList⟩
        let handlers : List (Event V) := if property.usesManager then
          [⟨.removeHandler, [.value before]⟩, ⟨.addHandler, [.value value]⟩] else []
        source.setter.run runtime fields value
          = set :: if (runtime set fields).changed then handlers ++ raising source.raised else []) ∧
      (if shared.cache.active then source.Tokened added.2.cache.tokens else source.Spelled) ∧
      added.2.cache = (if shared.cache.active then
        shared.cache.registerAll (property.name :: property.alsoNotify) else shared.cache) ∧
      added.2.managerUsed = (shared.managerUsed || property.usesManager) := by
  intro added backing
  have complete := TokenCache.settle_complete shared.cache property
  refine ⟨(shared.cache.settle property).1, rfl, rfl, ?_, PropertySource.setter_is_expression _, ?_, ?_, ?_, rfl⟩
  · rw [PropertySource.lines, ← PropertySource.setter_written]
    exact ⟨_, rfl⟩
  · intro V runtime fields value
    exact PropertySource.setter_events _ complete runtime fields value
      (PropertySource.backing_out_of_scope property parameter kept)
  · by_cases active : shared.cache.active = true
    · rw [if_pos active]
      refine TokenCache.settle_tokened _ _ _ active ?_
      rw [← TokenCache.settle_cache _ _ active]
      exact List.Subset.refl _
    · rw [if_neg active]
      exact (TokenCache.settle_inactive _ _ (by simpa using active)).1
  · by_cases active : shared.cache.active = true
    · rw [if_pos active]
      exact TokenCache.settle_cache _ _ active
    · rw [if_neg active]
      exact (TokenCache.settle_inactive _ _ (by simpa using active)).2

-- A command with all that a setter can do.
def watchedCommand : Property :=
  { name := "@Save", backing := "_save", valueType := "ICommand", callback := some ⟨"OnSaved", true⟩,
    alsoNotify := ["Title", "@Name"], customAttributes := [], access := .uniform .publicAccess, usesManager := true,
    command := none, doc := none }

-- The runtime answers that the value changed, and clears the fields.
theorem watched_command_effects :
    let added := (default : TypeUnit).addProperty (.empty true) watchedCommand
    ∃ source : PropertySource, added.1.blocks = [.property source] ∧
      source.setter.run (fun _ _ => ⟨true, fun _ => 0, 0⟩) (fun _ => 1) 2 =
        [⟨.setProperty, [.reference (.field "_save"), .value 2, .notified (.token "Save"),
            .delegate (.field "_saveChangedCallback") (.method "OnSaved")]⟩,
          ⟨.removeHandler, [.value 1]⟩, ⟨.addHandler, [.value 2]⟩,
          ⟨.raiseSeveral, [.notified (.token "Title"), .notified (.token "Name")]⟩] ∧
      added.2.cache.names = ["Save", "Title", "Name"] ∧ added.2.managerUsed = true := by
  intro added
  obtain ⟨source, own, written, _, _, events, _, registered, used⟩ :=
    assigned_value_effects default (.empty true) watchedCommand (by decide) (fun _ => by decide)
  have settled : ((TokenCache.empty true).settle watchedCommand).1 = source := by
    have blocks := congrArg TypeUnit.blocks written
    simpa [TypeUnit.addProperty, TypeUnit.add, Shared.empty] using blocks
  refine ⟨source, congrArg TypeUnit.blocks written, ?_, ?_, used⟩
  · rw [events, ← settled]
    decide
  · rw [registered]
    decide

-- A field whose callback has the name of the setter's parameter, in a class that has such a method.
def observedField : FieldMember := Property.markedField "_name" "string" [] [("CallbackName", .text "value")]

def observedType : DeclaredType :=
  { space := some "App", heads := [⟨"class", "Main", []⟩], base := none, interfaces := [],
    members := [.field observedField, .method ⟨"value", ⟨"void", false⟩, [], [], none⟩], attributes := [] }

-- The field is to be passed with a delegate of the method, and is passed with the value that is assigned.
theorem parameter_hides_callback :
    ∃ property, Property.Accepted (Compilation.empty.declare observedType).host (some observedType) "_name" property ∧
      property.callback = some ⟨"value", false⟩ ∧ Identifier.plain property.backing = "_name" ∧
      ((TokenCache.empty false).settle property).1.setter.run (fun _ _ => ⟨true, fun _ => 0, 0⟩) (fun _ => 1) 2 =
        [⟨.setProperty, [.reference (.field "_name"), .value 2,
          .delegate (.field "_nameChangedCallback") (.held 2)]⟩] := by
  refine ⟨_, .field observedField _ rfl, ?_, ?_, ?_⟩
  · decide +kernel
  · decide +kernel
  · decide +kernel

end ObservableGen.Source
