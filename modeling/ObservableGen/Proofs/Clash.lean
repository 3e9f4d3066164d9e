import Mathlib.Data.List.Pairwise
import Mathlib.Data.List.Perm.Basic
import ObservableGen.Proofs.Declaration
import ObservableGen.Proofs.Structure
set_option autoImplicit false

/-!
Names that the members of one generated unit declare. Main statement: localized texts never share a
name, and which comparisons between the properties decide whether any two of the members do.
-/
namespace ObservableGen

open Source

namespace Source

-- The C# name that a property declares in this role, if it declares one.
def Role.name? (property : Property) : Role → Option String
  | .callback => property.callback.map fun _ => Identifier.plain (PropertySource.callbackField property)
  | .backing => property.command.map fun _ => Identifier.plain property.backing
  | .property => some (Identifier.plain property.name)
  | .factory => property.command.map fun _ => Identifier.plain ("Create" ++ property.name)

def Block.declaredNames (nullable : NullableMode) : Block → List String
  | property source => (PropertySource.declarations nullable source.property).map
      fun declaration => Identifier.plain declaration.name
  | localized text => [text.name]
  | validation => []

def Block.text? : Block → Option LocalizedText
  | localized text => some text
  | property _ | validation => none

def Draft.text? : Draft → Option LocalizedText
  | localized text => some text
  | property _ | validation => none

namespace TypeUnit

def texts (unit : TypeUnit) : List LocalizedText :=
  unit.blocks.filterMap Block.text?

def declaredNames (unit : TypeUnit) : List String :=
  unit.blocks.flatMap (Block.declaredNames unit.header.nullable)

end TypeUnit

-- One property declares in one role what another declares in a different one.
inductive Meets (first second : Property) : Prop
  | backing (command : Command) (held : second.command = some command)
      (same : Identifier.plain first.name = second.backing)
  | callback (callback : Callback) (given : second.callback = some callback)
      (same : Identifier.plain first.name = Identifier.plain second.backing ++ "ChangedCallback")
  | factory (command : Command) (held : second.command = some command)
      (same : Identifier.plain first.name = "Create" ++ second.name)
  | kept (command : Command) (callback : Callback) (held : first.command = some command)
      (given : second.callback = some callback)
      (same : first.backing = Identifier.plain second.backing ++ "ChangedCallback")
  | made (command : Command) (callback : Callback) (held : first.command = some command)
      (given : second.callback = some callback) (single : second.command = none)
      (same : "Create" ++ first.name = Identifier.plain second.backing ++ "ChangedCallback")

-- All that has to differ among the members of one unit.
structure Apart (properties : List Property) (texts : List LocalizedText) : Prop where
  names : (properties.map fun property => Identifier.plain property.name).Nodup
  commands : ((properties.filter Property.isMethodBacked).map fun property =>
    Naming.lowerFirst (Identifier.plain property.name)).Nodup
  callbacks : ((properties.filter fun property => property.callback.isSome).map fun property =>
    Identifier.plain property.backing).Nodup
  roles : ∀ first ∈ properties, ∀ second ∈ properties, ¬ Meets first second
  texts : ∀ text ∈ texts, ∀ property ∈ properties, ∀ role : Role, role.name? property ≠ some text.name

-- What acceptance says of the names of a property.
structure Named (property : Property) : Prop where
  name : Identifier.isIdentifier property.name = true
  made : ∀ command, property.command = some command →
    property.backing = Naming.backingField property.name

theorem accepted_named (host : Host) (owner : Option DeclaredType) (member : String)
    (property : Property) (accepted : Property.Accepted host owner member property) : Named property := by
  refine ⟨(Property.accepted_name host owner member property accepted).1, ?_⟩
  intro command held
  cases Property.accepted_kept host owner member property accepted with
  | field single own =>
      rw [single] at held
      cases held
  | command command held wraps made => exact made

theorem factory_plain (name : String) : Identifier.plain ("Create" ++ name) = "Create" ++ name := by
  apply Identifier.plain_of_unmarked
  simp

theorem callback_plain (property : Property) :
    Identifier.plain (PropertySource.callbackField property)
      = Identifier.plain property.backing ++ "ChangedCallback" :=
  Identifier.plain_append property.backing "ChangedCallback" (by decide)

-- The roles in the order in which `Meets` compares them.
def Role.all : List Role := [.property, .backing, .factory, .callback]

theorem declared_roles (nullable : NullableMode) (source : PropertySource) :
    ((Block.property source).declaredNames nullable).Perm
      (Role.all.filterMap (Role.name? source.property)) := by
  have written : (Block.property source).declaredNames nullable
      = [Role.callback, .backing, .property, .factory].filterMap (Role.name? source.property) := by
    cases given : source.property.callback <;> cases held : source.property.command <;>
      simp [Block.declaredNames, PropertySource.declarations, PropertySource.callbackDeclaration?,
        PropertySource.backingDeclaration?, PropertySource.propertyDeclaration,
        PropertySource.factoryDeclaration?, PropertySource.callbackField, Role.name?, given, held]
  rw [written]
  apply List.Perm.filterMap
  decide

theorem rows_columns {α β γ : Type} (entry : α → β → Option γ) (rows : List α) (columns : List β) :
    (rows.flatMap fun row => columns.filterMap (entry row)).Perm
      (columns.flatMap fun column => rows.filterMap fun row => entry row column) := by
  induction columns with
  | nil => simp
  | cons column rest ih =>
      have parted := List.flatMap_append_perm rows (fun row => (entry row column).toList)
        fun row => rest.filterMap (entry row)
      rw [← List.filterMap_eq_flatMap_toList] at parted
      have each (row : α) : (column :: rest).filterMap (entry row)
          = (entry row column).toList ++ rest.filterMap (entry row) := by
        cases found : entry row column <;> simp [found]
      simp only [each]
      exact parted.symm.trans (ih.append_left _)

-- The names of properties role by role, and behind them those of the texts.
def memberNames (properties : List Property) (texts : List LocalizedText) : List String :=
  (Role.all.flatMap fun role => properties.filterMap (Role.name? · role))
    ++ texts.map LocalizedText.name

theorem unit_names_perm (unit : TypeUnit) :
    unit.declaredNames.Perm (memberNames unit.properties unit.texts) := by
  rw [TypeUnit.declaredNames, memberNames, TypeUnit.properties, TypeUnit.texts]
  generalize unit.header.nullable = nullable
  have parted : (unit.blocks.flatMap (Block.declaredNames nullable)).Perm
      (((unit.blocks.filterMap Block.property?).flatMap fun property =>
        Role.all.filterMap (Role.name? property)) ++
        (unit.blocks.filterMap Block.text?).map LocalizedText.name) := by
    induction unit.blocks with
    | nil => exact .nil
    | cons block rest ih =>
        cases block with
        | property source =>
            have own := (declared_roles nullable source).append ih
            simpa [List.filterMap_cons, Block.property?, Block.text?, List.append_assoc] using own
        | localized text =>
            have later := (ih.cons text.name).trans List.perm_middle.symm
            simpa [List.filterMap_cons, Block.property?, Block.text?, Block.declaredNames] using later
        | validation => simpa [List.filterMap_cons, Block.property?, Block.text?, Block.declaredNames] using ih
  exact parted.trans ((rows_columns Role.name? _ _).append_right _)

theorem given_column {α β γ : Type} (given : α → Option β) (value : α → γ) (list : List α) :
    (list.filterMap fun a => (given a).map fun _ => value a)
      = (list.filter fun a => (given a).isSome).map value := by
  induction list with
  | nil => rfl
  | cons a rest ih => cases found : given a <;> simp [found, ih]

theorem property_column (properties : List Property) :
    properties.filterMap (Role.name? · .property) =
      properties.map fun property => Identifier.plain property.name := by
  simp [Role.name?]

-- Generated fields differ where the names behind their underscore do.
theorem backing_column (properties : List Property) (named : ∀ property ∈ properties, Named property) :
    properties.filterMap (Role.name? · .backing) =
      ((properties.filter Property.isMethodBacked).map fun property =>
        Naming.lowerFirst (Identifier.plain property.name)).map ("_" ++ ·) := by
  have column := given_column Property.command (fun property => Identifier.plain property.backing) properties
  simp only [Role.name?, column, List.map_map]
  apply List.map_congr_left
  intro property listed
  obtain ⟨inside, held⟩ := List.mem_filter.mp listed
  obtain ⟨command, held⟩ := Option.isSome_iff_exists.mp held
  rw [(named property inside).made command held,
    Naming.backing_field_unmarked property.name (named property inside).name]
  rfl

theorem callback_column (properties : List Property) :
    properties.filterMap (Role.name? · .callback) =
      ((properties.filter fun property => property.callback.isSome).map fun property =>
        Identifier.plain property.backing).map (· ++ "ChangedCallback") := by
  have column := given_column Property.callback
    (fun property => Identifier.plain (PropertySource.callbackField property)) properties
  simp only [Role.name?, column, List.map_map]
  apply List.map_congr_left
  exact fun property _ => callback_plain property

-- A factory is named after its property, spelled as it is.
theorem factory_column_nodup (properties : List Property)
    (names : (properties.map fun property => Identifier.plain property.name).Nodup) :
    (properties.filterMap (Role.name? · .factory)).Nodup := by
  rw [List.Nodup, List.pairwise_map] at names
  rw [List.Nodup, List.pairwise_filterMap]
  apply names.imp
  intro first second apart firstName firstFactory secondName secondFactory same
  simp only [Role.name?, Option.map_eq_some_iff, factory_plain] at firstFactory secondFactory
  obtain ⟨_, _, rfl⟩ := firstFactory
  obtain ⟨_, _, rfl⟩ := secondFactory
  exact apart (congrArg Identifier.plain ((String.append_right_inj "Create").mp same))

theorem command_field (property : Property) (named : Named property) (command : Command)
    (held : property.command = some command) :
    Identifier.plain property.backing = property.backing ∧ property.backing.toList.head? = some '_' := by
  rw [named.made command held]
  exact ⟨Naming.backing_field_unmarked _ named.name, by simp [Naming.backingField]⟩

-- The earlier of two roles comes first; a generated field never has the name of a factory.
theorem shared_meets (properties : List Property) (named : ∀ property ∈ properties, Named property) :
    Role.all.Pairwise fun left right => ∀ first ∈ properties, ∀ second ∈ properties, ∀ name,
      left.name? first = some name → right.name? second = some name → Meets first second := by
  simp only [Role.all, List.pairwise_cons, List.forall_mem_cons, List.not_mem_nil, Role.name?,
    Option.map_eq_some_iff, Option.some.injEq, factory_plain, callback_plain]
  refine ⟨⟨?_, ?_, ?_, by simp⟩, ⟨?_, ?_, by simp⟩, ⟨?_, by simp⟩, by simp⟩
  · rintro first _ second inside name rfl ⟨command, held, same⟩
    exact .backing command held (same.symm.trans (command_field second (named second inside) command held).1)
  · rintro first _ second _ name rfl ⟨command, held, same⟩
    exact .factory command held same.symm
  · rintro first _ second _ name rfl ⟨callback, given, same⟩
    exact .callback callback given same.symm
  · rintro first inside second _ name ⟨command, held, rfl⟩ ⟨other, present, same⟩
    obtain ⟨plain, lead⟩ := command_field first (named first inside) command held
    rw [plain] at same
    rw [← same] at lead
    simp at lead
  · rintro first inside second _ name ⟨command, held, rfl⟩ ⟨callback, given, same⟩
    obtain ⟨plain, _⟩ := command_field first (named first inside) command held
    exact .kept command callback held given (plain.symm.trans same.symm)
  · rintro first _ second inside name ⟨command, held, rfl⟩ ⟨callback, given, same⟩
    cases single : second.command with
    | none => exact .made command callback held given single same.symm
    | some other =>
        obtain ⟨plain, lead⟩ := command_field second (named second inside) other single
        rw [plain] at same
        have begins := congrArg (fun name => name.toList.head?) same
        simp [lead] at begins

theorem meets_shared (first second : Property) (firstNamed : Named first) (secondNamed : Named second)
    (meets : Meets first second) : ∃ left right : Role, left ≠ right ∧
      ∃ name, left.name? first = some name ∧ right.name? second = some name := by
  cases meets with
  | backing command held same =>
      obtain ⟨plain, _⟩ := command_field second secondNamed command held
      exact ⟨.property, .backing, by decide, _, rfl, by simp [Role.name?, held, plain, same]⟩
  | callback callback given same =>
      exact ⟨.property, .callback, by decide, _, rfl, by simp [Role.name?, given, callback_plain, same]⟩
  | factory command held same =>
      exact ⟨.property, .factory, by decide, _, rfl, by simp [Role.name?, held, factory_plain, same]⟩
  | kept command callback held given same =>
      obtain ⟨plain, _⟩ := command_field first firstNamed command held
      exact ⟨.backing, .callback, by decide, first.backing, by simp [Role.name?, held, plain],
        by simp [Role.name?, given, callback_plain, same]⟩
  | made command callback held given single same =>
      exact ⟨.factory, .callback, by decide, "Create" ++ first.name,
        by simp [Role.name?, held, factory_plain], by simp [Role.name?, given, callback_plain, same]⟩

theorem role_listed (role : Role) : role ∈ Role.all := by
  cases role <;> decide

section Members

variable (properties : List Property) (texts : List LocalizedText)
  (named : ∀ property ∈ properties, Named property)
include named

theorem apart_of_nodup (nodup : (memberNames properties texts).Nodup) : Apart properties texts := by
  obtain ⟨members, _, other⟩ := List.nodup_append'.mp nodup
  obtain ⟨columns, between⟩ := List.nodup_flatMap.mp members
  refine ⟨?_, ?_, ?_, ?_, ?_⟩
  · rw [← property_column]
    exact columns .property (role_listed _)
  · apply List.Nodup.of_map ("_" ++ ·)
    rw [← backing_column properties named]
    exact columns .backing (role_listed _)
  · apply List.Nodup.of_map (· ++ "ChangedCallback")
    rw [← callback_column]
    exact columns .callback (role_listed _)
  · intro first firstInside second secondInside meets
    obtain ⟨left, right, different, name, firstName, secondName⟩ :=
      meets_shared first second (named first firstInside) (named second secondInside) meets
    have either : Std.Symm (Function.onFun List.Disjoint fun role : Role =>
        properties.filterMap (Role.name? · role)) := ⟨fun _ _ => List.disjoint_symm⟩
    have apart := between.forall (role_listed left) (role_listed right) different
    exact apart (List.mem_filterMap.mpr ⟨first, firstInside, firstName⟩)
      (List.mem_filterMap.mpr ⟨second, secondInside, secondName⟩)
  · intro text inside property present role same
    apply other (List.mem_flatMap.mpr ⟨role, role_listed role, ?_⟩) (List.mem_map_of_mem inside)
    exact List.mem_filterMap.mpr ⟨property, present, same⟩

theorem column_nodup (apart : Apart properties texts) (role : Role) :
    (properties.filterMap (Role.name? · role)).Nodup := by
  cases role with
  | property =>
      rw [property_column]
      exact apart.names
  | backing =>
      rw [backing_column properties named]
      exact apart.commands.map fun _ _ same => (String.append_right_inj "_").mp same
  | factory => exact factory_column_nodup properties apart.names
  | callback =>
      rw [callback_column]
      exact apart.callbacks.map fun _ _ same => (String.append_left_inj "ChangedCallback").mp same

theorem nodup_of_apart (each : (texts.map LocalizedText.name).Nodup) (apart : Apart properties texts) :
    (memberNames properties texts).Nodup := by
  apply List.nodup_append'.mpr
  refine ⟨List.nodup_flatMap.mpr ⟨?_, ?_⟩, each, ?_⟩
  · exact fun role _ => column_nodup properties texts named apart role
  · apply (shared_meets properties named).imp
    intro left right meets name first second
    obtain ⟨one, oneInside, oneName⟩ := List.mem_filterMap.mp first
    obtain ⟨two, twoInside, twoName⟩ := List.mem_filterMap.mp second
    exact apart.roles one oneInside two twoInside
      (meets one oneInside two twoInside name oneName twoName)
  · intro name member text
    obtain ⟨role, _, inside⟩ := List.mem_flatMap.mp member
    obtain ⟨property, present, same⟩ := List.mem_filterMap.mp inside
    obtain ⟨localized, listed, rfl⟩ := List.mem_map.mp text
    exact apart.texts localized listed property present role same

end Members

theorem blocks_texts (holds : PropertySource → Prop) (drafts : List Draft) (blocks : List Block)
    (settled : List.Forall₂ (Settles holds) drafts blocks) :
    blocks.filterMap Block.text? = drafts.filterMap Draft.text? := by
  induction settled with
  | nil => rfl
  | cons head tail ih =>
      cases head <;> simp [List.filterMap_cons, Block.text?, Draft.text?, ih]

end Source

namespace Pass

theorem marked_texts (host : Host) (type : DeclaredType) (marker : Marker) (candidates : List Candidate) :
    (markedDrafts host type marker candidates).filterMap Draft.text? =
      if marker = .localize then candidates.head?.toList.flatMap (localizedTexts host) else [] := by
  cases marker <;> simp [markedDrafts, Draft.text?, List.filterMap_map, Function.comp_def]

theorem localized_texts_nodup (host : Host) (candidate : Candidate) :
    ((localizedTexts host candidate).map LocalizedText.name).Nodup := by
  unfold localizedTexts
  split
  · exact Localization.first_texts_nodup _
  · exact List.nodup_nil

-- Only one of several groups is for texts.
theorem grouped_texts_disjoint (host : Host) (type : DeclaredType) (left right : Marker × List Candidate)
    (apart : left.1 ≠ right.1) :
    (((markedDrafts host type left.1 left.2).filterMap Draft.text?).map LocalizedText.name).Disjoint
      (((markedDrafts host type right.1 right.2).filterMap Draft.text?).map LocalizedText.name) := by
  rw [marked_texts, marked_texts]
  by_cases localize : left.1 = .localize
  · rw [if_neg (c := right.1 = .localize) (fun same => apart (localize.trans same.symm))]
    exact List.disjoint_nil_right _
  · rw [if_neg localize]
    exact List.disjoint_nil_left _

theorem member_texts_nodup (host : Host) (type : DeclaredType) (members : List Admitted) :
    (((memberDrafts host type members).filterMap Draft.text?).map LocalizedText.name).Nodup := by
  have keys : ((FirstSeen.gather members).map Prod.fst).Nodup := by
    rw [FirstSeen.gather_keys]
    exact FirstSeen.nodup_erase_dups _
  rw [memberDrafts, List.filterMap_flatMap, List.map_flatMap, List.nodup_flatMap]
  refine ⟨?_, ?_⟩
  · intro group _
    rw [marked_texts]
    split
    · -- Of several candidates the first counts.
      cases group.2 with
      | nil => exact List.nodup_nil
      | cons candidate rest => simpa using localized_texts_nodup host candidate
    · exact List.nodup_nil
  · rw [List.Nodup, List.pairwise_map] at keys
    exact keys.imp fun apart => grouped_texts_disjoint host type _ _ apart

-- Names of the members of a unit, told apart by comparisons of properties alone.
theorem declared_names_nodup_iff (options : Options) (host : Host) (candidates : List Candidate)
    (flag : Cancellation) (output : Output)
    (ran : (run options host candidates flag).value.outcome = .ok output) :
    let header := options.header host
    let chosen := eligible host options.observableBase candidates
    let made := written options host (admitted host options.observableBase candidates)
    output.units = MarkerUnits.all ++ made.1.map TypeUnit.source
      ++ (made.2.cache.unit? header).toList ++ (CommandManager.unit? made.2.managerUsed header).toList ∧
    ∀ unit ∈ made.1,
      (∀ source, .property source ∈ unit.blocks →
        source.lines header.nullable = source.declaredLines header.nullable) ∧
      (∀ property ∈ unit.properties, ∃ candidate, (.notify, candidate) ∈ chosen ∧
        Property.Accepted host (some unit.type) candidate.memberName property) ∧
      (unit.texts.map LocalizedText.name).Nodup ∧
      (unit.declaredNames.Nodup ↔ Apart unit.properties unit.texts) := by
  intro header chosen made
  refine ⟨run_units options host candidates flag output ran, fun unit inside => ?_⟩
  obtain ⟨entry, planned, settled⟩ :=
    unit_settled _ _ _ _ (written_complete options host _) unit inside
  have accepted : ∀ property ∈ unit.properties, ∃ candidate, (.notify, candidate) ∈ chosen ∧
      Property.Accepted host (some unit.type) candidate.memberName property := by
    intro property own
    rw [TypeUnit.properties, blocks_properties _ _ _ settled.blocks] at own
    rw [settled.type_eq]
    exact plan_property host _ candidates entry planned property own
  have named : ∀ property ∈ unit.properties, Named property := by
    intro property own
    obtain ⟨candidate, _, accepted⟩ := accepted property own
    exact accepted_named host (some unit.type) candidate.memberName property accepted
  have texts : (unit.texts.map LocalizedText.name).Nodup := by
    obtain ⟨owner, drafts⟩ := plan_members host _ candidates entry planned
    rw [TypeUnit.texts, blocks_texts _ _ _ settled.blocks, drafts]
    exact member_texts_nodup host entry.1 _
  refine ⟨fun source _ => source.declared_lines header.nullable, accepted, texts, ?_⟩
  rw [(unit_names_perm unit).nodup_iff]
  exact ⟨apart_of_nodup unit.properties unit.texts named,
    nodup_of_apart unit.properties unit.texts named texts⟩

-- A field with a callback and a method, whose five members all differ.
def unlikeCandidates : List Candidate :=
  [.ofTarget AttributeClass.notify sampleType.name
      (.field (Property.markedField "_name" "string" [] [("CallbackName", .text "OnName")])),
    .ofTarget AttributeClass.notify sampleType.name (.method (Property.markedMethod "Show" "void" [] []))]

theorem unlike_members_apart :
    let made := written Options.default sampleHost
      (admitted sampleHost Options.default.observableBase unlikeCandidates)
    ∃ output, (run Options.default sampleHost unlikeCandidates fun _ => false).value.outcome = .ok output ∧
      made.1.map TypeUnit.declaredNames =
        [["_nameChangedCallback", "Name", "_showCommand", "ShowCommand", "CreateShowCommand"]] ∧
      ∀ unit ∈ made.1, Apart unit.properties unit.texts := by
  intro made
  have ran := run_completes Options.default sampleHost unlikeCandidates (fun _ => false)
    fun _ _ => rfl
  obtain ⟨_, units⟩ := declared_names_nodup_iff Options.default sampleHost unlikeCandidates
    (fun _ => false) _ ran
  have names : made.1.map TypeUnit.declaredNames =
      [["_nameChangedCallback", "Name", "_showCommand", "ShowCommand", "CreateShowCommand"]] := by
    decide +kernel
  refine ⟨_, ran, names, fun unit inside => ?_⟩
  obtain ⟨_, _, _, apart⟩ := units unit inside
  have own : unit.declaredNames ∈ made.1.map TypeUnit.declaredNames := List.mem_map_of_mem inside
  rw [names, List.mem_singleton] at own
  rw [← apart, own]
  decide

-- The run succeeds, and a unit of it declares a name twice.
def Repeats (host : Host) (candidates : List Candidate) : Prop :=
  ∃ output, (run Options.default host candidates fun _ => false).value.outcome = .ok output ∧
    ∃ unit ∈ (written Options.default host
        (admitted host Options.default.observableBase candidates)).1,
      unit.source ∈ output.units ∧ ¬ unit.declaredNames.Nodup

theorem repeats_of_names (host : Host) (candidates : List Candidate) (names : List String)
    (only : (written Options.default host
      (admitted host Options.default.observableBase candidates)).1.map TypeUnit.declaredNames = [names])
    (twice : ¬ names.Nodup) : Repeats host candidates := by
  have ran := run_completes Options.default host candidates (fun _ => false) fun _ _ => rfl
  have units := run_units Options.default host candidates (fun _ => false) _ ran
  obtain ⟨unit, single, own⟩ := List.map_eq_singleton_iff.mp only
  refine ⟨_, ran, unit, by simp [single], ?_, by rwa [own]⟩
  rw [units, single]
  simp

-- Two fields under different names, whose properties have the same one; and a field whose property has
-- the name of a localized text.
def likeFields : List Candidate :=
  ["_name", "name"].map fun name =>
    .ofTarget AttributeClass.notify sampleType.name (.field (Property.markedField name "string" [] []))

def labelledHost : Host :=
  ((Compilation.empty.declare sampleType).addText ⟨"en.json", "\x7b\"Name\": \"name\"\x7d"⟩).host

def labelledField : List Candidate :=
  [.ofTarget AttributeClass.notify sampleType.name
      (.field (Property.markedField "_name" "string" [] [])),
    .ofTarget AttributeClass.localize sampleType.name
      (.type [⟨AttributeClass.localize, [.text "en.json"], []⟩])]

theorem like_members_clash :
    ((likeFields.map Candidate.memberName).Nodup ∧ Repeats sampleHost likeFields) ∧
      Repeats labelledHost labelledField := by
  refine ⟨⟨by decide, ?_⟩, ?_⟩
  · exact repeats_of_names _ _ ["Name", "Name"] (by decide +kernel) (by decide)
  · exact repeats_of_names _ _ ["Name", "Name"] (by decide +kernel) (by decide)

end Pass

end ObservableGen
