import ObservableGen.Proofs.Plan
import ObservableGen.Proofs.Spelling
set_option autoImplicit false

/-!
Hints of generated units. Main statement: where all names are identifiers, the hints of types differ
from each other, and one is that of another unit only for a type that stands outside of all
namespaces and other types under the name of a class that generation itself declares.
-/
namespace ObservableGen

open Source

theorem Text.split_all (holds : Char → Bool) (mark : Char) (text : List Char) (between : holds mark = true)
    (each : ∀ part ∈ text.splitOn mark, part.all holds = true) : text.all holds = true := by
  rw [List.all_eq_true]
  intro c inside
  by_cases cut : c = mark
  · rw [cut, between]
  · obtain ⟨part, listed, own⟩ := (Text.mem_split_iff mark c text cut).mpr inside
    exact List.all_eq_true.mp (each part listed) c own

namespace TypeName

-- What paths are made of where all names are identifiers: dots, marks and parts of words.
def isPathPart (c : Char) : Bool := c == '.' || c == '@' || Identifier.isPart c

theorem identifier_path (text : String) (valid : Identifier.isIdentifier text = true) :
    text.toList.all isPathPart = true := by
  apply Identifier.identifier_all isPathPart text valid
  · decide
  · intro c part
    simp [isPathPart, part]

theorem identifier_undotted (text : String) (valid : Identifier.isIdentifier text = true) :
    '.' ∉ text.toList := by
  have undotted : text.toList.all (· != '.') = true := by
    apply Identifier.identifier_all _ text valid
    · decide
    · intro c part
      rw [bne_iff_ne]
      rintro rfl
      revert part
      decide
  intro inside
  simpa using List.all_eq_true.mp undotted '.' inside

-- Without a colon there is no alias to drop.
theorem of_text_path (text : String) (parts : text.toList.all isPathPart = true) :
    ofText text = ⟨text⟩ := by
  rw [ofText, Text.afterLead?]
  cases found : globalAlias.toList.isPrefixOf? text.toList with
  | none => rfl
  | some rest =>
      have whole := List.isPrefixOf?_eq_some_iff_append_eq.mp found
      rw [← whole, List.all_append, Bool.and_eq_true] at parts
      exact absurd parts.1 (by decide)

end TypeName

namespace DeclaredType

-- All parts of the namespace, and the names of all nesting declarations, are identifiers.
structure WellNamed (type : DeclaredType) : Prop where
  space : ∀ space, type.space? = some space →
    ∀ part ∈ space.toList.splitOn '.', Identifier.isIdentifier (String.ofList part) = true
  heads : ∀ head ∈ type.heads, Identifier.isIdentifier head.name = true

-- The type stands outside of all namespaces and other types, under this name alone.
def Loose (type : DeclaredType) (name : String) : Prop :=
  type.space? = none ∧ type.heads.map (fun head => (head.name, head.arity)) = [(name, 0)]

instance (type : DeclaredType) (name : String) : Decidable (type.Loose name) :=
  inferInstanceAs (Decidable (_ ∧ _))

def path (type : DeclaredType) : String :=
  (type.space?.map (· ++ ".")).getD "" ++ ".".intercalate (type.heads.map TypeHead.name)

def arityMark (type : DeclaredType) : String :=
  if (type.head?.map TypeHead.arity).getD 0 = 0 then ""
  else "`" ++ toString ((type.head?.map TypeHead.arity).getD 0)

theorem joined_heads_parts (type : DeclaredType)
    (spelled : ∀ head ∈ type.heads, Identifier.isIdentifier head.name = true) :
    (".".intercalate (type.heads.map TypeHead.name)).toList.all TypeName.isPathPart = true := by
  apply Text.intercalate_all
  · decide
  · intro name listed
    obtain ⟨head, inside, rfl⟩ := List.mem_map.mp listed
    exact TypeName.identifier_path _ (spelled head inside)

theorem path_parts (type : DeclaredType) (named : type.WellNamed) :
    type.path.toList.all TypeName.isPathPart = true := by
  rw [path, String.toList_append, List.all_append, joined_heads_parts type named.heads, Bool.and_true]
  cases found : type.space? with
  | none => rfl
  | some space =>
      have parts : space.toList.all TypeName.isPathPart = true := by
        apply Text.split_all _ '.'
        · decide
        · intro part inside
          simpa using TypeName.identifier_path _ (named.space space found part inside)
      rw [Option.map_some, Option.getD_some, String.toList_append, List.all_append, parts]
      decide

theorem name_path (type : DeclaredType) (named : type.WellNamed) : type.name = ⟨type.path⟩ := by
  have parts := path_parts type named
  rw [← TypeName.of_text_path type.path parts, name, path]
  cases type.space? with
  | none => rw [Option.map_none, Option.getD_none, String.empty_append]
  | some space => rfl

theorem hint_of_name (type : DeclaredType) : type.hint = type.name.path ++ type.arityMark ++ ".g.cs" := by
  rw [hint, arityMark]
  split
  · rw [String.append_empty]
  · simp [String.append_assoc]

theorem hint_text (type : DeclaredType) (named : type.WellNamed) :
    type.hint = type.path ++ type.arityMark ++ ".g.cs" := by
  rw [hint_of_name, name_path type named]

-- The path is what stands in front of the first character that no path holds.
theorem path_of_stem (path mark : String) (parts : path.toList.all TypeName.isPathPart = true)
    (apart : mark.toList.takeWhile TypeName.isPathPart = []) :
    (path ++ mark).toList.takeWhile TypeName.isPathPart = path.toList := by
  rw [String.toList_append, List.takeWhile_append_of_pos (List.all_eq_true.mp parts), apart,
    List.append_nil]

theorem arity_mark_apart (type : DeclaredType) :
    type.arityMark.toList.takeWhile TypeName.isPathPart = [] := by
  rw [arityMark]
  split
  · rfl
  · rw [String.toList_append]
    rfl

theorem hint_injective (left right : DeclaredType) (leftNamed : left.WellNamed)
    (rightNamed : right.WellNamed) (same : left.hint = right.hint) : left.name = right.name := by
  rw [hint_text left leftNamed, hint_text right rightNamed, String.append_left_inj] at same
  have leftPath := path_of_stem _ _ (path_parts left leftNamed) left.arity_mark_apart
  have rightPath := path_of_stem _ _ (path_parts right rightNamed) right.arity_mark_apart
  rw [same, rightPath, String.toList_inj] at leftPath
  rw [name_path left leftNamed, name_path right rightNamed, leftPath]

theorem path_undotted (type : DeclaredType) (name : String) (valid : Identifier.isIdentifier name = true)
    (same : type.path = name) : type.space? = none ∧ type.heads.map TypeHead.name = [name] := by
  have undotted := TypeName.identifier_undotted name valid
  rw [← same, path] at undotted
  cases found : type.space? with
  | some space => simp [found] at undotted
  | none =>
      refine ⟨rfl, ?_⟩
      rw [path, found, Option.map_none, Option.getD_none, String.empty_append] at same
      cases heads : type.heads.map TypeHead.name with
      | nil =>
          rw [heads] at same
          rw [← same] at valid
          cases valid
      | cons first rest =>
          cases rest with
          | nil =>
              rw [heads] at same
              rw [← same, String.intercalate_singleton]
          | cons next rest => simp [found, heads] at undotted

theorem arity_mark_none (type : DeclaredType) (head : TypeHead) (single : type.heads = [head]) :
    type.arityMark = "" ↔ head.arity = 0 := by
  rw [arityMark, head?, single, List.getLast?_singleton, Option.map_some, Option.getD_some]
  split
  · simp [*]
  · simp [*]

theorem loose_iff (type : DeclaredType) (name : String) :
    type.Loose name ↔ type.space? = none ∧ ∃ head, type.heads = [head] ∧ head.name = name ∧ head.arity = 0 := by
  simp [Loose, List.map_eq_singleton_iff]

theorem hint_eq_iff (type : DeclaredType) (name : String) (named : type.WellNamed)
    (valid : Identifier.isIdentifier name = true) : type.hint = name ++ ".g.cs" ↔ type.Loose name := by
  rw [hint_text type named, String.append_left_inj, loose_iff]
  constructor
  · intro same
    have stem := path_of_stem _ _ (path_parts type named) type.arity_mark_apart
    have whole := path_of_stem name "" (TypeName.identifier_path name valid) rfl
    rw [String.append_empty] at whole
    rw [same, whole, String.toList_inj] at stem
    obtain ⟨global, names⟩ := path_undotted type name valid stem.symm
    obtain ⟨head, single, own⟩ := List.map_eq_singleton_iff.mp names
    rw [← stem] at same
    have unmarked : type.arityMark = "" := by simpa using same
    exact ⟨global, head, single, own, (arity_mark_none type head single).mp unmarked⟩
  · rintro ⟨global, head, single, own, plain⟩
    rw [(arity_mark_none type head single).mpr plain, path, global, single]
    simp [own]

end DeclaredType

namespace Source

def markerNames : List String :=
  ["AccessModifier", "NotifyAttribute", "AlsoNotifyAttribute", "CustomAttributeAttribute",
    "LocalizeAttribute", "NotifyDataErrorInfoAttribute"]

-- What a run declares for itself, each under a name of its own.
def ownNames (shared : Shared) : List String :=
  markerNames ++ (if shared.cache.tokens = [] then [] else [TokenCache.className])
    ++ (if shared.managerUsed then [CommandManager.className] else [])

theorem own_names_sublist (shared : Shared) :
    (ownNames shared).Sublist (markerNames ++ [TokenCache.className, CommandManager.className]) := by
  unfold ownNames
  split <;> split <;> decide

theorem own_names_nodup (shared : Shared) : (ownNames shared).Nodup := by
  apply (own_names_sublist shared).nodup
  decide

theorem own_names_identifiers (shared : Shared) (name : String) (own : name ∈ ownNames shared) :
    Identifier.isIdentifier name = true := by
  have all : ∀ name ∈ markerNames ++ [TokenCache.className, CommandManager.className],
      Identifier.isIdentifier name = true := by
    decide +kernel
  exact all name ((own_names_sublist shared).subset own)

theorem own_hints (shared : Shared) (header : UnitHeader) :
    (MarkerUnits.all ++ (shared.cache.unit? header).toList
      ++ (CommandManager.unit? shared.managerUsed header).toList).map SourceUnit.hint
        = (ownNames shared).map (· ++ ".g.cs") := by
  have markers : MarkerUnits.all.map SourceUnit.hint = markerNames.map (· ++ ".g.cs") := rfl
  have cache : (shared.cache.unit? header).toList.map SourceUnit.hint =
      (if shared.cache.tokens = [] then [] else [TokenCache.className]).map (· ++ ".g.cs") := by
    rw [token_file, tokenFile?]
    split <;> rfl
  have manager : (CommandManager.unit? shared.managerUsed header).toList.map SourceUnit.hint =
      (if shared.managerUsed then [CommandManager.className] else []).map (· ++ ".g.cs") := by
    rw [CommandManager.unit?]
    split <;> rfl
  rw [ownNames, List.map_append, List.map_append, markers, cache, manager, List.map_append,
    List.map_append]

theorem unit_reached (units : List SourceUnit) (apart : (units.map SourceUnit.hint).Nodup)
    (unit : SourceUnit) (inside : unit ∈ units) : unit? units unit.hint = some unit := by
  rw [unit?]
  induction units with
  | nil => cases inside
  | cons first rest ih =>
      rw [List.map_cons, List.nodup_cons] at apart
      rcases List.mem_cons.mp inside with rfl | later
      · simp
      · have other : first.hint ≠ unit.hint := by
          intro same
          rw [same] at apart
          exact apart.1 (List.mem_map_of_mem later)
        rw [List.find?_cons_of_neg (by simpa using other)]
        exact ih apart.2 later

theorem units_types (header : UnitHeader) (holds : PropertySource → Prop)
    (types : List (DeclaredType × List Draft)) (units : List TypeUnit)
    (settled : List.Forall₂ (UnitSettles header holds) types units) :
    units.map TypeUnit.type = types.map Prod.fst := by
  induction settled with
  | nil => rfl
  | cons head tail ih => rw [List.map_cons, List.map_cons, head.type_eq, ih]

end Source

namespace Pass

theorem planned_type (compilation : Compilation) (group : TypeName × List Admitted)
    (entry : DeclaredType × List Draft) (place : planned? compilation.host group = some entry) :
    entry.1 ∈ compilation.types ∧ entry.1.name = group.1 := by
  obtain ⟨known, _, _⟩ := (planned_iff compilation.host group entry).mp place
  exact (compilation.type_iff group.1 entry.1).mp known

-- Each type has a single place in the plan, since members are gathered under its name.
theorem plan_names_nodup (compilation : Compilation) (candidates : List (TypeName × Admitted)) :
    ((plan compilation.host candidates).map fun entry => entry.1.name).Nodup := by
  have keys : ((FirstSeen.gather candidates).map Prod.fst).Nodup := by
    rw [FirstSeen.gather_keys]
    exact FirstSeen.nodup_erase_dups _
  rw [List.Nodup, List.pairwise_map] at keys ⊢
  rw [plan, List.pairwise_filterMap]
  apply keys.imp
  intro left right apart first leftPlace second rightPlace same
  rw [(planned_type compilation left first leftPlace).2,
    (planned_type compilation right second rightPlace).2] at same
  exact apart same

theorem written_types (options : Options) (compilation : Compilation)
    (candidates : List (TypeName × Admitted)) :
    let types := (written options compilation.host candidates).1.map TypeUnit.type
    types ⊆ compilation.types ∧ (types.map DeclaredType.name).Nodup := by
  intro types
  have planned : types = (plan compilation.host candidates).map Prod.fst :=
    units_types _ _ _ _ (written_complete options compilation.host candidates)
  rw [planned, List.map_map]
  refine ⟨?_, plan_names_nodup compilation candidates⟩
  intro type listed
  obtain ⟨entry, inside, rfl⟩ := List.mem_map.mp listed
  obtain ⟨group, _, place⟩ := List.mem_filterMap.mp inside
  exact (planned_type compilation group entry place).1

theorem type_hints_nodup (types : List DeclaredType) (named : ∀ type ∈ types, type.WellNamed)
    (apart : (types.map DeclaredType.name).Nodup) : (types.map DeclaredType.hint).Nodup := by
  rw [List.Nodup, List.pairwise_map] at apart ⊢
  apply apart.imp_of_mem
  intro left right leftInside rightInside other same
  exact other (DeclaredType.hint_injective left right (named left leftInside) (named right rightInside) same)

theorem all_hints_nodup_iff (shared : Shared) (types : List DeclaredType)
    (named : ∀ type ∈ types, type.WellNamed) (apart : (types.map DeclaredType.name).Nodup) :
    (types.map DeclaredType.hint ++ (ownNames shared).map (· ++ ".g.cs")).Nodup ↔
      ∀ type ∈ types, ∀ name ∈ ownNames shared, ¬ type.Loose name := by
  have shares (type : DeclaredType) (listed : type ∈ types) (name : String) (own : name ∈ ownNames shared) :
      type.hint = name ++ ".g.cs" ↔ type.Loose name :=
    DeclaredType.hint_eq_iff type name (named type listed) (own_names_identifiers shared name own)
  have ownHints : ((ownNames shared).map (· ++ ".g.cs")).Nodup := by
    apply (own_names_nodup shared).map
    intro left right same
    exact (String.append_left_inj _).mp same
  rw [List.nodup_append]
  constructor
  · rintro ⟨_, _, other⟩ type listed name own loose
    exact other _ (List.mem_map_of_mem listed) _ (List.mem_map_of_mem own)
      ((shares type listed name own).mpr loose)
  · intro free
    refine ⟨type_hints_nodup types named apart, ownHints, ?_⟩
    intro left leftListed right rightListed same
    obtain ⟨type, listed, rfl⟩ := List.mem_map.mp leftListed
    obtain ⟨name, own, rfl⟩ := List.mem_map.mp rightListed
    exact free type listed name own ((shares type listed name own).mp same)

-- The hints of a run, those of types taken first.
theorem output_hints (options : Options) (host : Host) (candidates : List Candidate) (flag : Cancellation)
    (output : Output) (ran : (run options host candidates flag).value.outcome = .ok output) :
    let made := written options host (admitted host options.observableBase candidates)
    (output.units.map SourceUnit.hint).Perm
      ((made.1.map TypeUnit.type).map DeclaredType.hint ++ (ownNames made.2).map (· ++ ".g.cs")) := by
  intro made
  have types : (made.1.map TypeUnit.source).map SourceUnit.hint =
      (made.1.map TypeUnit.type).map DeclaredType.hint := by
    rw [List.map_map, List.map_map]
    rfl
  rw [run_units options host candidates flag output ran, ← types,
    ← own_hints made.2 (options.header host), ← List.map_append]
  apply List.Perm.map
  rw [← List.append_assoc, ← List.append_assoc]
  exact (List.perm_append_comm.append_right _).append_right _

-- Whatever is declared, two types never share a hint, and every unit is reached by its own as long
-- as no type takes the name of what the run declares for itself.
theorem hints_apart_iff (options : Options) (compilation : Compilation) (candidates : List Candidate)
    (flag : Cancellation) (output : Output) (named : ∀ type ∈ compilation.types, type.WellNamed)
    (ran : (run options compilation.host candidates flag).value.outcome = .ok output) :
    let made := written options compilation.host
      (admitted compilation.host options.observableBase candidates)
    let types := made.1.map TypeUnit.type
    output.units = MarkerUnits.all ++ made.1.map TypeUnit.source
      ++ (made.2.cache.unit? (options.header compilation.host)).toList
      ++ (CommandManager.unit? made.2.managerUsed (options.header compilation.host)).toList ∧
    (types.map DeclaredType.hint).Nodup ∧
    ((output.units.map SourceUnit.hint).Nodup ↔
      ∀ type ∈ types, ∀ name ∈ ownNames made.2, ¬ type.Loose name) ∧
    ((output.units.map SourceUnit.hint).Nodup →
      ∀ unit ∈ output.units, output.unit? unit.hint = some unit) := by
  intro made types
  obtain ⟨declared, apart⟩ := written_types options compilation
    (admitted compilation.host options.observableBase candidates)
  have known : ∀ type ∈ types, type.WellNamed := fun type listed => named type (declared listed)
  have hints := output_hints options compilation.host candidates flag output ran
  refine ⟨run_units options compilation.host candidates flag output ran,
    type_hints_nodup types known apart, ?_, unit_reached output.units⟩
  rw [hints.nodup_iff]
  exact all_hints_nodup_iff made.2 types known apart

-- A type under the name of a marker, with one observable field.
def namesake (parameters : List String) : DeclaredType :=
  { space := none
    heads := [⟨"class", "NotifyAttribute", parameters⟩]
    base := some Options.default.observableBase
    interfaces := []
    members := [.field sampleType.sampleField]
    attributes := [] }

def namesakes (parameters : List String) : Compilation :=
  Compilation.empty.declare (namesake parameters)

def namesakeCandidates : List Candidate :=
  [.ofTarget AttributeClass.notify ⟨"NotifyAttribute"⟩ (.field sampleType.sampleField)]

theorem namesakes_named (parameters : List String) :
    ∀ type ∈ (namesakes parameters).types, type.WellNamed := by
  have spelled : Identifier.isIdentifier "NotifyAttribute" = true := by decide +kernel
  intro type declared
  obtain rfl : type = namesake parameters := by
    simpa [namesakes, Compilation.declare, Compilation.empty] using declared
  constructor
  · intro space given
    cases given
  · simpa [namesake] using spelled

theorem generic_namesake_apart :
    ∃ output, (run Options.default (namesakes ["T"]).host namesakeCandidates fun _ => false).value.outcome
        = .ok output ∧
      "NotifyAttribute`1.g.cs" ∈ output.units.map SourceUnit.hint ∧
      (output.units.map SourceUnit.hint).Nodup ∧
      ∀ unit ∈ output.units, output.unit? unit.hint = some unit := by
  have ran := run_completes Options.default (namesakes ["T"]).host namesakeCandidates (fun _ => false)
    fun _ _ => rfl
  have present := (output_hints _ _ _ _ _ ran).mem_iff (a := "NotifyAttribute`1.g.cs")
  obtain ⟨_, _, apart_iff, reached⟩ := hints_apart_iff _ _ _ _ _ (namesakes_named ["T"]) ran
  have apart := apart_iff.mpr (by decide +kernel)
  exact ⟨_, ran, present.mpr (by decide +kernel), apart, reached apart⟩

-- Without a type parameter the type's hint is that of the marker's own unit.
theorem namesake_hint_twice :
    (∀ type ∈ (namesakes []).types, type.WellNamed) ∧
      ∃ output, (run Options.default (namesakes []).host namesakeCandidates fun _ => false).value.outcome
          = .ok output ∧ ¬ (output.units.map SourceUnit.hint).Nodup := by
  have ran := run_completes Options.default (namesakes []).host namesakeCandidates (fun _ => false)
    fun _ _ => rfl
  refine ⟨namesakes_named [], _, ran, ?_⟩
  rw [(output_hints _ _ _ _ _ ran).nodup_iff]
  decide +kernel

end Pass

end ObservableGen
