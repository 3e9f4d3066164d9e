import ObservableGen.Proofs.Arguments
import ObservableGen.Proofs.Assignment
import ObservableGen.Proofs.Structure
set_option autoImplicit false

/-!
Values that are subscribed to the requery event. Main statement: a property subscribes them exactly if its attribute
asks for that and they are commands, whatever the parameter of a generated command's type; so the handlers are called
nowhere else in what a pass writes.
-/
namespace ObservableGen

open Source

-- The attribute that counts says so itself, in its last argument of the name.
def AsksForManager (attributes : List Attribute) : Prop :=
  ∃ applied ∈ Attribute.findBySimpleName attributes AttributeClass.notify.path,
    Attribute.lastNamed? applied.named "UseCommandManager" = some (.bool true)

def Target.valueType? (annotated : Bool) : Target → Option TypeUse
  | .field member => some member.type
  | .method member => (Command.ofMethod? member).map fun command => ⟨command.interfaceType, annotated⟩
  | .type _ => none

theorem NotifyArguments.manager_asked_iff (applied : Attribute) :
    (ofAttribute applied).useManager = some true ↔
      Attribute.lastNamed? applied.named "UseCommandManager" = some (.bool true) := by
  have content : (ofAttribute applied).useManager
      = (Attribute.lastNamed? applied.named "UseCommandManager").elim none Constant.asBool? :=
    of_attribute_content applied .useManager
  rw [content]
  cases Attribute.lastNamed? applied.named "UseCommandManager" with
  | none => simp
  | some value => simpa using value.bool_iff true

namespace Command

-- The alias in front is dropped, and what stands behind the name begins with a bracket.
theorem known_is_command (host : Host) (name behind : String) (nullable : Bool) (known : name ∈ knownTypes)
    (bracketed : behind = "" ∨ behind.toList.head? = some '<') :
    isCommandType host ⟨TypeName.globalAlias ++ name ++ behind, nullable⟩ = true := by
  have plain : ∀ name ∈ knownTypes, name.toList.all (fun c => !(c == '<')) = true := by decide
  have cut : behind.toList.takeWhile (fun c => !(c == '<')) = [] := by
    rcases bracketed with rfl | bracket
    · rfl
    · cases chars : behind.toList with
      | nil => rfl
      | cons c rest =>
          rw [chars, List.head?_cons, Option.some.injEq] at bracket
          simp [bracket]
  have named : (⟨TypeName.globalAlias ++ name ++ behind, nullable⟩ : TypeUse).name = ⟨name ++ behind⟩ := by
    rw [TypeUse.name, String.append_assoc]
    exact TypeName.of_text_qualified ⟨name ++ behind⟩
  have front : Text.beforeFirst (· == '<') (name ++ behind) = name := by
    rw [Text.beforeFirst, String.toList_append,
      List.takeWhile_append_of_pos (List.all_eq_true.mp (plain name known)), cut, List.append_nil, String.ofList_toList]
  rw [isCommandType, named, front, List.contains_iff_mem.mpr known, Bool.true_or]

theorem interface_is_command (host : Host) (command : Command) (nullable : Bool) :
    isCommandType host ⟨command.interfaceType, nullable⟩ = true := by
  have argument : command.typeArguments = "" ∨ command.typeArguments.toList.head? = some '<' := by
    rw [typeArguments]
    cases command.parameter with
    | none => exact .inl rfl
    | some parameter => exact .inr (by simp)
  have known (name : String) (listed : name ∈ knownTypes) :=
    known_is_command host name command.typeArguments nullable listed argument
  rw [interfaceType]
  cases command.kind with
  | relay =>
      cases command.parameter with
      | none => exact known "System.Windows.Input.ICommand" (by decide)
      | some parameter => exact known "Minimal.Mvvm.ICommand" (by decide)
  | async => exact known "Minimal.Mvvm.IAsyncCommand" (by decide)

end Command

namespace Property

theorem asks_iff (attributes : List Attribute) (applied : Attribute)
    (first : applied ∈ Attribute.findBySimpleName attributes AttributeClass.notify.path) :
    AsksForManager attributes ↔ (NotifyArguments.ofAttribute applied).useManager = some true := by
  rw [NotifyArguments.manager_asked_iff]
  constructor
  · rintro ⟨other, found, asked⟩
    cases Option.mem_unique found first
    exact asked
  · exact fun asked => ⟨applied, first, asked⟩

-- A field's type is looked up; a command's property needs no look, as its type is always known.
theorem decided_manager (host : Host) (owner : Option DeclaredType) (target : Target)
    (decided : Reported (Except Rejection Property)) (property : Property)
    (found : ofTarget? host owner target = some decided) (ok : decided.value = .ok property) :
    ∃ type ∈ target.valueType? host.nullable.annotates, property.valueType = type.display ∧
      (property.usesManager = true ↔
        AsksForManager target.attributes ∧ Command.isCommandType host type = true) := by
  cases target with
  | field member =>
      cases found
      obtain ⟨applied, first, settled⟩ := with_arguments_ok _ _ _ _ ok
      unfold ofFieldArguments at settled
      split at settled
      · cases settled
      · obtain ⟨rfl, _, _⟩ := validated_eq_ok _ _ _ settled
        refine ⟨member.type, rfl, rfl, ?_⟩
        rw [Target.attributes, asks_iff member.attributes applied first]
        simp
  | method member =>
      cases found
      obtain ⟨applied, first, settled⟩ := with_arguments_ok _ _ _ _ ok
      rw [Reported.value_silent] at settled
      unfold ofMethodArguments at settled
      split at settled
      · cases settled
      · rename_i command wrapped
        obtain ⟨rfl, _, _⟩ := validated_eq_ok _ _ _ settled
        have known := Command.interface_is_command host command host.nullable.annotates
        refine ⟨_, by rw [Target.valueType?, wrapped]; rfl, rfl, ?_⟩
        rw [Target.attributes, asks_iff member.attributes applied first]
        simp [known]
  | type attributes => cases found

end Property

namespace Source

def Callee.handles : Callee → Bool
  | removeHandler | addHandler => true
  | setProperty | raiseOne | raiseSeveral => false

def Statement.calls : Statement → List Invocation
  | keep _ _ => []
  | test condition body => condition :: body

def Setter.calls : Setter → List Invocation
  | expression call => [call]
  | block statements => statements.flatMap Statement.calls

namespace PropertySource

def handlerCalls (source : PropertySource) : List Invocation :=
  source.setter.calls.filter fun call => call.callee.handles

theorem raise_handles_nothing (source : PropertySource) :
    source.raiseInvocation?.toList.filter (fun call => call.callee.handles) = [] := by
  rw [raiseInvocation?]
  cases source.raised with
  | nil => rfl
  | cons first rest => cases rest <;> rfl

theorem handlers_handle (property : Property) :
    (handlerInvocations property).filter (fun call => call.callee.handles) = handlerInvocations property := by
  by_cases manager : property.usesManager = true <;> simp [handlerInvocations, manager, Callee.handles]

theorem handler_calls (source : PropertySource) : source.handlerCalls = handlerInvocations source.property := by
  have raised := raise_handles_nothing source
  have handled := handlers_handle source.property
  have set : source.setInvocation.callee.handles = false := rfl
  rw [handlerCalls, setter]
  by_cases manager : source.property.usesManager = true
  · simp [manager, Setter.calls, Statement.calls, set, raised, handled]
  · by_cases quiet : source.property.alsoNotify = []
    · simp [quiet, manager, Setter.calls, set, handlerInvocations]
    · simp [quiet, manager, Setter.calls, Statement.calls, set, raised, handled]

theorem handlers_called_iff (source : PropertySource) :
    source.handlerCalls ≠ [] ↔ source.property.usesManager = true := by
  rw [handler_calls, handlerInvocations]
  by_cases manager : source.property.usesManager = true <;> simp [manager]

end PropertySource

end Source

namespace Pass

-- Each property of a pass was decided for a candidate.
theorem written_decided (options : Options) (host : Host) (candidates : List Candidate) (unit : TypeUnit)
    (source : PropertySource)
    (inside : unit ∈ (written options host (admitted host options.observableBase candidates)).1)
    (own : .property source ∈ unit.blocks) :
    ∃ candidate ∈ candidates, ∃ decided,
      Property.ofTarget? host (some unit.type) candidate.target = some decided ∧
      decided.value = .ok source.property := by
  obtain ⟨entry, planned, settled⟩ := unit_settled _ _ _ _ (written_complete options host _) unit inside
  have listed : source.property ∈ entry.2.filterMap Draft.property? := by
    rw [← blocks_properties _ _ _ settled.blocks]
    exact List.mem_filterMap.mpr ⟨_, own, rfl⟩
  obtain ⟨candidate, chosen, made⟩ :=
    plan_decided host options.observableBase candidates entry planned source.property listed
  rw [settled.type_eq]
  exact ⟨candidate, ((mem_eligible _ _ _ _).mp chosen).1, property_decided host entry.1 candidate source.property made⟩

theorem handlers_only_for_commands (host : Host) :
    (∀ owner target decided property, Property.ofTarget? host owner target = some decided →
      decided.value = .ok property →
        ∃ type ∈ target.valueType? host.nullable.annotates, property.valueType = type.display ∧
          (property.usesManager = true ↔
            AsksForManager target.attributes ∧ Command.isCommandType host type = true)) ∧
    (∀ (command : Command) nullable, Command.isCommandType host ⟨command.interfaceType, nullable⟩ = true) ∧
    (∀ source : PropertySource,
      source.setter.lines (PropertySource.setterLead source.property) = source.setterLines ∧
        source.handlerCalls = PropertySource.handlerInvocations source.property ∧
        (source.handlerCalls ≠ [] ↔ source.property.usesManager = true)) ∧
    ∀ options candidates flag output, (run options host candidates flag).value.outcome = .ok output →
      let header := options.header host
      let made := written options host (admitted host options.observableBase candidates)
      output.units = MarkerUnits.all ++ made.1.map TypeUnit.source
        ++ (made.2.cache.unit? header).toList ++ (CommandManager.unit? made.2.managerUsed header).toList ∧
      ∀ unit ∈ made.1, ∀ source, .property source ∈ unit.blocks → source.handlerCalls ≠ [] →
        ∃ candidate ∈ candidates, AsksForManager candidate.target.attributes ∧
          ∃ type ∈ candidate.target.valueType? host.nullable.annotates,
            source.property.valueType = type.display ∧ Command.isCommandType host type = true := by
  refine ⟨fun owner target decided property => Property.decided_manager host owner target decided property,
    Command.interface_is_command host,
    fun source => ⟨source.setter_written, source.handler_calls, source.handlers_called_iff⟩, ?_⟩
  intro options candidates flag output ran header made
  refine ⟨run_units options host candidates flag output ran, fun unit inside source own called => ?_⟩
  obtain ⟨candidate, listed, decided, found, ok⟩ := written_decided options host candidates unit source inside own
  obtain ⟨type, held, displayed, manager⟩ :=
    Property.decided_manager host (some unit.type) candidate.target decided source.property found ok
  obtain ⟨asked, command⟩ := manager.mp (source.handlers_called_iff.mp called)
  exact ⟨candidate, listed, asked, type, held, displayed, command⟩

-- The host knows every type for an observable one, and none for a command.
def watchedHost : Host :=
  ⟨.enabled, [], fun _ => some sampleType, fun _ _ => true, fun _ _ => false, fun _ _ => false⟩

def watchedAttributes : List Attribute := [⟨AttributeClass.notify, [], [("UseCommandManager", .bool true)]⟩]

def watchedField : FieldMember := ⟨"_text", ⟨"string", false⟩, false, watchedAttributes, none⟩

def watchedMethod : MethodMember :=
  ⟨"Show", ⟨"void", false⟩, [⟨"pair", ⟨"Pair<string, int>", true⟩⟩], watchedAttributes, none⟩

theorem watched_method_handled :
    let candidates := [Candidate.ofTarget AttributeClass.notify sampleType.name (.field watchedField),
      Candidate.ofTarget AttributeClass.notify sampleType.name (.method watchedMethod)]
    let made := written Options.default watchedHost (admitted watchedHost Options.default.observableBase candidates)
    AsksForManager watchedAttributes ∧
      (∃ property, (Property.ofField watchedHost none watchedField).value = .ok property ∧
        property.usesManager = false) ∧
      ∃ unit ∈ made.1, ∃ source, .property source ∈ unit.blocks ∧ source.handlerCalls ≠ [] ∧
        ∃ candidate ∈ candidates, ∃ type ∈ candidate.target.valueType? true,
          source.property.valueType = type.display ∧ Command.isCommandType watchedHost type = true := by
  intro candidates made
  obtain ⟨decided, _, _, runs⟩ := handlers_only_for_commands watchedHost
  refine ⟨⟨_, rfl, rfl⟩, ?_, ?_⟩
  · have ok : (Property.ofField watchedHost none watchedField).value = .ok _ := rfl
    obtain ⟨type, held, _, manager⟩ := decided none (.field watchedField) _ _ rfl ok
    cases held
    have other : Command.isCommandType watchedHost watchedField.type = false := by decide
    refine ⟨_, ok, ?_⟩
    rw [← Bool.not_eq_true, manager, other]
    simp
  · have ran := run_completes Options.default watchedHost candidates (fun _ => false) fun _ _ => rfl
    obtain ⟨_, written⟩ := runs Options.default candidates (fun _ => false) _ ran
    have used : (made.1.flatMap TypeUnit.properties).any Property.usesManager = true := by decide +kernel
    obtain ⟨property, listed, manager⟩ := List.any_eq_true.mp used
    obtain ⟨unit, inside, own⟩ := List.mem_flatMap.mp listed
    obtain ⟨block, place, found⟩ := List.mem_filterMap.mp own
    cases block with
    | property source =>
        cases found
        have called := source.handlers_called_iff.mpr manager
        obtain ⟨candidate, known, _, held⟩ := written unit inside source place called
        exact ⟨unit, inside, source, place, called, candidate, known, held⟩
    | localized text => cases found
    | validation => cases found

end Pass

end ObservableGen
