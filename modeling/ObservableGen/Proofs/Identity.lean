import ObservableGen.Proofs.Hint
import ObservableGen.Proofs.Registration
import ObservableGen.Proofs.Structure
set_option autoImplicit false

/-!
Types of one namespace told apart. Main statement: the names of the declarations that a type is nested in
decide its own name, and with the number of its own type parameters its hint; types whose names differ
stand beside each other in a compilation, and a pass gives each a unit of its own.
-/
namespace ObservableGen

open Source

namespace Text

theorem intercalate_injective (left right : List String) (leftSome : left ≠ []) (rightSome : right ≠ [])
    (leftUndotted : ∀ name ∈ left, '.' ∉ name.toList) (rightUndotted : ∀ name ∈ right, '.' ∉ name.toList)
    (same : ".".intercalate left = ".".intercalate right) : left = right := by
  have parts := split_intercalate '.' "." rfl left leftSome leftUndotted
  rw [same, split_intercalate '.' "." rfl right rightSome rightUndotted] at parts
  exact (List.map_injective_iff.mpr (fun _ _ => String.toList_inj.mp) parts).symm

end Text

-- Whether the alias is dropped is settled in front of the first dot, which the alias does not have.
theorem TypeName.of_text_dotted (space rest : String) :
    ofText (space ++ "." ++ rest) = ⟨(ofText (space ++ ".")).path ++ rest⟩ := by
  have split : (space ++ "." ++ rest).toList = (space ++ ".").toList ++ rest.toList := String.toList_append
  rw [ofText, ofText, Text.afterLead?, Text.afterLead?, split]
  cases found : globalAlias.toList.isPrefixOf? (space ++ ".").toList with
  | some more =>
      have lead := List.isPrefixOf?_eq_some_iff_append_eq.mp found
      have longer : globalAlias.toList.isPrefixOf? ((space ++ ".").toList ++ rest.toList)
          = some (more ++ rest.toList) := by
        rw [List.isPrefixOf?_eq_some_iff_append_eq, ← List.append_assoc, lead]
      rw [longer]
      simp [String.ofList_append]
  | none =>
      have longer : globalAlias.toList.isPrefixOf? ((space ++ ".").toList ++ rest.toList) = none := by
        rw [Option.eq_none_iff_forall_ne_some]
        intro more lead
        rw [List.isPrefixOf?_eq_some_iff_append_eq, List.append_eq_append_iff] at lead
        obtain ⟨between, dotted, _⟩ | ⟨between, whole, _⟩ := lead
        · rw [List.isPrefixOf?_eq_some_iff_append_eq.mpr dotted.symm] at found
          cases found
        · have dot : '.' ∈ globalAlias.toList := by simp [whole]
          exact absurd dot (by decide)
      rw [longer]
      rfl

namespace DeclaredType

def ownArity (type : DeclaredType) : Nat := (type.head?.map TypeHead.arity).getD 0

-- The names of the nesting declarations, the type's own the last.
def nesting (type : DeclaredType) : List String := type.heads.map TypeHead.name

-- What stands in front of them, the same for all types of the namespace.
def stem (type : DeclaredType) : String :=
  (type.space?.map fun space => (TypeName.ofText (space ++ ".")).path).getD ""

structure Nested (type : DeclaredType) : Prop where
  declared : type.heads ≠ []
  spelled : ∀ head ∈ type.heads, Identifier.isIdentifier head.name = true

theorem name_of_stem (type : DeclaredType) (nested : type.Nested) :
    type.name = ⟨type.stem ++ ".".intercalate type.nesting⟩ := by
  rw [name, stem, nesting]
  cases type.space? with
  | none =>
      have parts := joined_heads_parts type nested.spelled
      simpa using TypeName.of_text_path _ parts
  | some space => exact TypeName.of_text_dotted space _

theorem nesting_undotted (type : DeclaredType) (nested : type.Nested) : ∀ name ∈ type.nesting, '.' ∉ name.toList := by
  intro name listed
  obtain ⟨head, inside, rfl⟩ := List.mem_map.mp listed
  exact TypeName.identifier_undotted _ (nested.spelled head inside)

theorem arity_mark_injective (left right : DeclaredType) (same : left.arityMark = right.arityMark) :
    left.ownArity = right.ownArity := by
  have text (type : DeclaredType) : type.arityMark
      = if type.ownArity = 0 then "" else "`" ++ toString type.ownArity := rfl
  rw [text, text] at same
  by_cases plain : left.ownArity = 0
  · by_cases other : right.ownArity = 0
    · rw [plain, other]
    · simp [plain, other] at same
  · by_cases other : right.ownArity = 0
    · simp [plain, other] at same
    · rw [if_neg plain, if_neg other, String.append_right_inj] at same
      exact TokenCache.to_string_injective _ _ same

section Pairs

variable (left right : DeclaredType) (space : left.space? = right.space?)
  (leftNested : left.Nested) (rightNested : right.Nested)
include space leftNested rightNested

theorem name_eq_iff : left.name = right.name ↔ left.nesting = right.nesting := by
  have stems : left.stem = right.stem := by rw [stem, stem, space]
  rw [name_of_stem left leftNested, name_of_stem right rightNested, stems, TypeName.mk.injEq,
    String.append_right_inj]
  refine ⟨?_, congrArg _⟩
  exact Text.intercalate_injective _ _ (by simpa [nesting] using leftNested.declared) (by simpa [nesting] using rightNested.declared)
    (nesting_undotted left leftNested) (nesting_undotted right rightNested)

theorem hint_same_iff :
    left.hint = right.hint ↔ left.nesting = right.nesting ∧ left.ownArity = right.ownArity := by
  have stems : left.stem = right.stem := by rw [stem, stem, space]
  constructor
  · intro same
    rw [hint_of_name, hint_of_name, String.append_left_inj, name_of_stem left leftNested,
      name_of_stem right rightNested, stems, String.append_assoc, String.append_assoc,
      String.append_right_inj] at same
    have leftNames := path_of_stem _ _ (joined_heads_parts left leftNested.spelled) left.arity_mark_apart
    have rightNames := path_of_stem _ _ (joined_heads_parts right rightNested.spelled) right.arity_mark_apart
    rw [nesting, nesting] at same
    rw [same, rightNames, String.toList_inj] at leftNames
    rw [leftNames, String.append_right_inj] at same
    have names : left.name = right.name := by
      rw [name_of_stem left leftNested, name_of_stem right rightNested, stems, nesting, nesting, leftNames]
    exact ⟨(name_eq_iff left right space leftNested rightNested).mp names, arity_mark_injective left right same⟩
  · rintro ⟨names, arities⟩
    have name := (name_eq_iff left right space leftNested rightNested).mpr names
    rw [hint_of_name, hint_of_name, name, arityMark, arityMark, ← ownArity, ← ownArity, arities]

end Pairs

end DeclaredType

-- Declared after one another, types of different names are both found.
theorem Compilation.both_types_declared (compilation : Compilation) (left right : DeclaredType)
    (apart : left.name ≠ right.name) :
    ∀ type ∈ [left, right], ((compilation.declare left).declare right).type? type.name = some type := by
  rw [List.forall_mem_cons, List.forall_mem_singleton, other_type_kept _ right left.name apart]
  exact ⟨type_declared _ left, type_declared _ right⟩

namespace Pass

-- A known type that something comes of has its place in the plan, and so its unit.
theorem own_unit (options : Options) (host : Host) (candidates : List Candidate) (type : DeclaredType)
    (known : host.type? type.name = some type)
    (filled : memberDrafts host type (ofOwner type.name (eligible host options.observableBase candidates)) ≠ []) :
    ∃ unit ∈ (written options host (admitted host options.observableBase candidates)).1,
      UnitSettles (options.header host) PropertySource.Complete
        (type, memberDrafts host type (ofOwner type.name (eligible host options.observableBase candidates)))
        unit := by
  let chosen := eligible host options.observableBase candidates
  have owned : ofOwner type.name chosen ≠ [] := by
    intro none
    exact filled (congrArg (memberDrafts host type) none)
  have listed : type.name ∈ (chosen.map fun member => member.2.owner).eraseDups := by
    rw [List.mem_eraseDups, owner_listed]
    exact owned
  have place : planned? host (type.name, ofOwner type.name chosen)
      = some (type, memberDrafts host type (ofOwner type.name chosen)) :=
    (planned_iff host _ _).mpr ⟨known, rfl, filled⟩
  have planned : (type, memberDrafts host type (ofOwner type.name chosen)) ∈
      plan host (admitted host options.observableBase candidates) := by
    rw [plan_owners]
    exact List.mem_filterMap.mpr ⟨type.name, listed, place⟩
  exact related_of_mem _ _ _ (written_complete options host _) _ planned

theorem registered_apart (compilation : Compilation) (left right : DeclaredType)
    (space : left.space? = right.space?) (leftNested : left.Nested) (rightNested : right.Nested) :
    (left.hint = right.hint ↔ left.nesting = right.nesting ∧ left.ownArity = right.ownArity) ∧
    (left.nesting ≠ right.nesting →
      ∀ both ∈ [(compilation.declare left).declare right, (compilation.declare right).declare left],
      ∀ type ∈ [left, right],
        both.type? type.name = some type ∧
        ∀ options candidates flag output,
          (run options both.host candidates flag).value.outcome = .ok output →
          let chosen := eligible both.host options.observableBase candidates
          let drafts := memberDrafts both.host type (ofOwner type.name chosen)
          drafts ≠ [] → ∃ unit, UnitSettles (options.header both.host) PropertySource.Complete (type, drafts) unit ∧
            unit.source ∈ output.units ∧ unit.source.hint = type.hint) := by
  refine ⟨DeclaredType.hint_same_iff left right space leftNested rightNested, ?_⟩
  intro different both declared type either
  have apart : left.name ≠ right.name :=
    mt (DeclaredType.name_eq_iff left right space leftNested rightNested).mp different
  have found : both.type? type.name = some type := by
    obtain rfl | rfl : both = _ ∨ both = _ := by simpa using declared
    · exact compilation.both_types_declared left right apart type either
    · exact compilation.both_types_declared right left apart.symm type (by simpa [or_comm] using either)
  refine ⟨found, ?_⟩
  intro options candidates flag output ran chosen drafts filled
  obtain ⟨unit, written, settled⟩ := own_unit options both.host candidates type found filled
  refine ⟨unit, settled, ?_, ?_⟩
  · rw [run_units options both.host candidates flag output ran]
    simp only [List.mem_append]
    exact .inl (.inl (.inr (List.mem_map_of_mem written)))
  · rw [TypeUnit.source, TypeUnit.hint, settled.type_eq]

-- A type nested in a generic one, and the generic twin of a type.
def page (parameters : List String) : DeclaredType :=
  { sampleType with heads := [⟨"class", "Main", parameters⟩, ⟨"class", "Page", []⟩] }

def genericTwin : DeclaredType := { sampleType with heads := [⟨"class", "Main", ["T"]⟩] }

theorem sample_nested : sampleType.Nested where
  declared := by decide
  spelled := by decide +kernel

theorem page_nested (parameters : List String) : (page parameters).Nested where
  declared := by simp [page]
  spelled := by
    have names : ∀ name ∈ ["Main", "Page"], Identifier.isIdentifier name = true := by decide +kernel
    simpa [page] using names

theorem twin_nested : genericTwin.Nested where
  declared := by decide
  spelled := by decide +kernel

def pageCandidates : List Candidate :=
  sampleCandidates ++ [.ofTarget AttributeClass.notify (page ["T"]).name (.field sampleType.sampleField)]

theorem page_beside_sample :
    let both := (Compilation.empty.declare sampleType).declare (page ["T"])
    sampleType.nesting ≠ (page ["T"]).nesting ∧ both.type? sampleType.name = some sampleType ∧
      both.type? (page ["T"]).name = some (page ["T"]) ∧ sampleType.hint ≠ (page ["T"]).hint ∧
      ∃ output, (run Options.default both.host pageCandidates fun _ => false).value.outcome = .ok output ∧
        ["App.Main.g.cs", "App.Main.Page.g.cs"] ⊆ output.units.map SourceUnit.hint := by
  intro both
  have different : sampleType.nesting ≠ (page ["T"]).nesting := by decide
  have ran := run_completes Options.default both.host pageCandidates (fun _ => false) fun _ _ => rfl
  obtain ⟨hints, beside⟩ :=
    registered_apart Compilation.empty sampleType (page ["T"]) rfl sample_nested (page_nested ["T"])
  obtain ⟨first, second⟩ := List.forall_mem_cons.mp (beside different both List.mem_cons_self)
  obtain ⟨sampleFound, sampleUnit⟩ := first
  obtain ⟨pageFound, pageUnit⟩ := List.forall_mem_singleton.mp second
  obtain ⟨own, _, ownPresent, ownHint⟩ := sampleUnit _ _ _ _ ran (List.ne_nil_of_length_pos (by decide +kernel))
  obtain ⟨nested, _, nestedPresent, nestedHint⟩ :=
    pageUnit _ _ _ _ ran (List.ne_nil_of_length_pos (by decide +kernel))
  refine ⟨different, sampleFound, pageFound, fun same => different (hints.mp same).1, _, ran, ?_⟩
  rw [List.cons_subset, List.cons_subset]
  refine ⟨List.mem_map.mpr ⟨_, ownPresent, ownHint.trans (by decide +kernel)⟩,
    List.mem_map.mpr ⟨_, nestedPresent, nestedHint.trans (by decide +kernel)⟩, List.nil_subset _⟩

-- The number of type parameters is no part of a name: of a type and its generic twin the one declared
-- last is found under the name of both, and below them not even hints differ.
theorem generic_twin_hides :
    sampleType.space? = genericTwin.space? ∧ sampleType.Nested ∧ genericTwin.Nested ∧
      sampleType.heads.map TypeHead.arity ≠ genericTwin.heads.map TypeHead.arity ∧
      ((Compilation.empty.declare sampleType).declare genericTwin).type? sampleType.name ≠ some sampleType ∧
      ((Compilation.empty.declare genericTwin).declare sampleType).type? genericTwin.name ≠ some genericTwin ∧
    (page []).space? = (page ["T"]).space? ∧ (page []).Nested ∧ (page ["T"]).Nested ∧
      (page []).heads.map TypeHead.arity ≠ (page ["T"]).heads.map TypeHead.arity ∧
      (page []).hint = (page ["T"]).hint := by
  have heads : sampleType.heads ≠ genericTwin.heads := by decide
  have name : sampleType.name = genericTwin.name := by decide
  refine ⟨rfl, sample_nested, twin_nested, by decide, ?_, ?_, rfl, page_nested [], page_nested ["T"], by decide,
    by decide⟩
  · rw [name, Compilation.type_declared]
    intro same
    exact heads (congrArg DeclaredType.heads (Option.some.inj same)).symm
  · rw [← name, Compilation.type_declared]
    intro same
    exact heads (congrArg DeclaredType.heads (Option.some.inj same))

end Pass

end ObservableGen
