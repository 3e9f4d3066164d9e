import ObservableGen.Proofs.Exclusion
import ObservableGen.Proofs.Identity
import ObservableGen.Proofs.Independence
import ObservableGen.Proofs.Reachability
import ObservableGen.Settings
set_option autoImplicit false

/-!
Spellings of the observable base. Main statement: two accepted spellings of one type come to the same in every pass
over a compilation that writes its names without marks exactly if both have a mark or neither has; behind a mark the
base is nobody's, and no member of any type is observable.
-/
namespace ObservableGen

open Relation Source

namespace TypeName

def parts (name : TypeName) : List String :=
  (name.path.toList.splitOn '.').map String.ofList

-- The names that the parts stand for, which say what type is meant.
def plainParts (name : TypeName) : List String :=
  name.parts.map Identifier.plain

-- Some part is written behind the mark.
def Verbatim (name : TypeName) : Prop :=
  ∃ part ∈ name.parts, Identifier.plain part ≠ part

instance (name : TypeName) : Decidable name.Verbatim :=
  inferInstanceAs (Decidable (∃ part ∈ name.parts, Identifier.plain part ≠ part))

theorem marked_of_verbatim (name : TypeName) (verbatim : name.Verbatim) : '@' ∈ name.path.toList := by
  obtain ⟨part, inside, other⟩ := verbatim
  obtain ⟨chars, segment, rfl⟩ := List.mem_map.mp inside
  have mark : (String.ofList chars).toList.head? = some '@' :=
    Classical.byContradiction fun unmarked => other (Identifier.plain_of_unmarked _ unmarked)
  rw [String.toList_ofList] at mark
  exact (Text.mem_split_iff '.' '@' _ (by decide)).mp ⟨chars, segment, List.mem_of_head? mark⟩

theorem unmarked_word (part : String) (valid : Identifier.isIdentifier part = true)
    (plain : Identifier.plain part = part) : part.toList.all (· != '@') = true := by
  have word : Identifier.isWord part.toList = true := plain ▸ Identifier.plain_word part valid
  rw [List.all_eq_true]
  intro c inside
  have partOf := List.all_eq_true.mp (Identifier.word_parts _ word) c inside
  rw [bne_iff_ne]
  rintro rfl
  revert partOf
  decide

theorem verbatim_of_marked (name : TypeName) (valid : ∀ part ∈ name.parts, Identifier.isIdentifier part = true)
    (marked : '@' ∈ name.path.toList) : name.Verbatim := by
  by_contra plain
  simp only [Verbatim, not_exists, not_and, not_not] at plain
  obtain ⟨chars, segment, mark⟩ := (Text.mem_split_iff '.' '@' _ (by decide)).mpr marked
  have listed : String.ofList chars ∈ name.parts := List.mem_map_of_mem segment
  have unmarked := unmarked_word _ (valid _ listed) (plain _ listed)
  rw [String.toList_ofList] at unmarked
  simpa using List.all_eq_true.mp unmarked '@' mark

theorem plain_parts_of_not_verbatim (name : TypeName) (plain : ¬ name.Verbatim) : name.plainParts = name.parts := by
  simp only [Verbatim, not_exists, not_and, not_not] at plain
  rw [plainParts, List.map_congr_left plain, List.map_id']

theorem parts_injective (left right : TypeName) (same : left.parts = right.parts) : left = right := by
  have chars := List.map_injective_iff.mpr (fun _ _ => String.ofList_inj.mp) same
  have joined := congrArg (List.intercalate ['.']) chars
  rw [List.intercalate_splitOn, List.intercalate_splitOn] at joined
  have path := String.toList_inj.mp joined
  cases left
  cases right
  exact congrArg mk path

end TypeName

theorem Settings.type_name_parts (text : String) (valid : isTypeName text = true) :
    ∀ part ∈ (TypeName.ofText text).parts, Identifier.isIdentifier part = true := by
  intro part inside
  obtain ⟨chars, segment, rfl⟩ := List.mem_map.mp inside
  exact List.all_eq_true.mp valid chars segment

namespace Compilation

-- The names of the types, and of what stands above them, are written without the mark.
def Plain (compilation : Compilation) : Prop :=
  ∀ type ∈ compilation.types, ∀ name ∈ type.name :: type.supertypes, '@' ∉ name.path.toList

theorem inherits_from_verbatim (compilation : Compilation) (plain : compilation.Plain) (name base : TypeName)
    (verbatim : base.Verbatim) : compilation.inheritsFrom name base = false := by
  rw [Bool.eq_false_iff, ne_eq, inherits_from_iff]
  intro steps
  obtain ⟨last, step⟩ : ∃ last, Hierarchy.Base compilation.types last base := by
    cases steps with
    | single step => exact ⟨_, step⟩
    | tail _ step => exact ⟨_, step⟩
  have given := Hierarchy.base_given _ last base ((Hierarchy.above_base _ last base).mp step)
  rw [Hierarchy.given, List.mem_toFinset] at given
  obtain ⟨type, declared, above⟩ := List.mem_flatMap.mp given
  exact plain type declared base (List.mem_cons_of_mem _ above) (base.marked_of_verbatim verbatim)

end Compilation

-- Behind an attribute without arguments, a field has a property if its name leads to an identifier other than itself.
theorem Property.of_field_unset (host : Host) (owner : Option DeclaredType) (field : FieldMember) (applied : Attribute)
    (name : String) (marked : Attribute.findBySimpleName field.attributes AttributeClass.notify.path = some applied)
    (unset : NotifyArguments.ofAttribute applied = .unset) (named : Naming.propertyOfField field.name = some name)
    (valid : Identifier.isIdentifier name = true) (apart : name ≠ field.name) :
    ∃ property, (ofField host owner field).value = .ok property := by
  have own : fieldPropertyName? .unset field = some name := named
  rw [ofField, withArguments, marked]
  simp [ofFieldArguments, unset, own, validated, valid, apart]

namespace Pass

-- A pass asks about the base nowhere but in the chains of base classes above owners.
theorem eligible_agrees (host : Host) (left right : TypeName)
    (agree : ∀ owner, host.inheritsFrom owner left = host.inheritsFrom owner right) (candidates : List Candidate) :
    eligible host left candidates = eligible host right candidates := by
  have same (marker : Marker) (candidate : Candidate) :
      Eligibility.isEligible host left marker candidate = Eligibility.isEligible host right marker candidate := by
    simp only [Eligibility.isEligible, Eligibility.targetFits, Eligibility.fieldFits, Eligibility.methodFits, agree]
  rw [eligible, eligible]
  apply List.filterMap_congr
  intro candidate _
  cases Marker.ofClass? candidate.marker with
  | none => rfl
  | some marker => rw [Option.bind_some, Option.bind_some, same]

theorem run_agrees (left right : Options) (others : right = { left with observableBase := right.observableBase })
    (host : Host) (agree : ∀ owner, host.inheritsFrom owner left.observableBase
      = host.inheritsFrom owner right.observableBase) (candidates : List Candidate) (flag : Cancellation) :
    (run left host candidates flag).value.outcome = (run right host candidates flag).value.outcome := by
  have chosen : admitted host left.observableBase candidates = admitted host right.observableBase candidates := by
    rw [admitted_eligible, admitted_eligible, eligible_agrees host _ _ agree]
  have header : left.header host = right.header host := by
    rw [others]
    rfl
  have cached : left.cached = right.cached := by rw [others]
  rw [run_outcome, run_outcome, generate_settles, generate_settles, written, written, chosen, header, cached]

theorem observed_inherits (host : Host) (base : TypeName) (candidate : Candidate)
    (fits : Eligibility.isEligible host base .notify candidate = true) :
    host.inheritsFrom candidate.owner base = true := by
  have suits := Eligibility.eligible_target host base .notify candidate fits
  rw [Eligibility.targetFits.eq_def] at suits
  cases target : candidate.target with
  | field member =>
      rw [target] at suits
      exact (Bool.and_eq_true_iff.mp suits).2
  | method member =>
      rw [target] at suits
      exact (Bool.and_eq_true_iff.mp (Bool.and_eq_true_iff.mp suits).1).1
  | type attributes =>
      rw [target] at suits
      cases suits

theorem sample_eligible (host : Host) (base : TypeName) : eligible host base sampleCandidates =
    if host.inheritsFrom sampleType.name base then [(.notify, fieldOf sampleType)] else [] := by
  have known : Marker.ofClass? (fieldOf sampleType).marker = some .notify := by decide
  have fits : Eligibility.isEligible host base .notify (fieldOf sampleType)
      = host.inheritsFrom sampleType.name base := rfl
  rw [eligible, show sampleCandidates = [fieldOf sampleType] from rfl, List.filterMap_cons, known, Option.bind_some,
    fits]
  by_cases observed : host.inheritsFrom sampleType.name base = true <;> simp [observed]

-- The sample type with another base, alone in a compilation.
def derivedType (base : TypeName) : DeclaredType := { sampleType with base := some base }

def derived (base : TypeName) : Compilation := Compilation.empty.declare (derivedType base)

theorem derived_plain (base : TypeName) (plain : '@' ∉ base.path.toList) : (derived base).Plain := by
  intro type declared
  obtain rfl : type = derivedType base := List.mem_singleton.mp declared
  have name : '@' ∉ (derivedType base).name.path.toList := show '@' ∉ sampleType.name.path.toList by decide
  exact List.forall_mem_cons.mpr ⟨name, List.forall_mem_singleton.mpr plain⟩

theorem derived_name (base : TypeName) : (derivedType base).name = sampleType.name := rfl

theorem derived_known (base : TypeName) :
    (derived base).host.type? (derivedType base).name = some (derivedType base) :=
  Compilation.host_type_declared Compilation.empty (derivedType base)

theorem derived_inherits (base : TypeName) : (derived base).host.inheritsFrom sampleType.name base = true := by
  have direct : Hierarchy.base? (derived base).types sampleType.name = some base :=
    Option.bind_eq_some_iff.mpr ⟨_, Compilation.type_declared Compilation.empty (derivedType base), rfl⟩
  exact (Compilation.inherits_from_iff _ _ _).mpr (.single ((Hierarchy.above_base _ _ _).mpr direct))

theorem single_draft (host : Host) (type : DeclaredType) (candidate : Candidate) :
    memberDrafts host type [(.notify, candidate)] = (property? host type candidate).toList.map .property := by
  cases made : property? host type candidate <;>
    simp [memberDrafts, FirstSeen.gather, List.eraseDups_cons, FirstSeen.under, markedDrafts, made]

-- The property of the sample field, whatever its type and the host.
theorem sample_property (host : Host) (type : DeclaredType) :
    ∃ property, property? host type (fieldOf sampleType) = some property := by
  obtain ⟨property, made⟩ := Property.of_field_unset host (some type) sampleType.sampleField
    ⟨AttributeClass.notify, [], []⟩ "Name" (by rfl) (by decide) (by decide +kernel) (by decide +kernel) (by decide)
  exact ⟨property, Option.bind_eq_some_iff.mpr ⟨_, rfl, by rw [made]; rfl⟩⟩

theorem derived_filled (base : TypeName) : memberDrafts (derived base).host (derivedType base)
    (ofOwner (derivedType base).name (eligible (derived base).host base sampleCandidates)) ≠ [] := by
  have own : ofOwner sampleType.name [(Marker.notify, fieldOf sampleType)] = [(.notify, fieldOf sampleType)] := by
    simp [ofOwner, fieldOf, Candidate.ofTarget]
  obtain ⟨property, made⟩ := sample_property (derived base).host (derivedType base)
  rw [derived_name, sample_eligible, if_pos (derived_inherits base), own, single_draft, made]
  simp

theorem nothing_written (options : Options) (host : Host) (candidates : List Candidate) (flag : Cancellation)
    (output : Output) (none : eligible host options.observableBase candidates = [])
    (ran : (run options host candidates flag).value.outcome = .ok output) : output.units = MarkerUnits.all := by
  have bare : admitted host options.observableBase candidates = [] := by rw [admitted_eligible, none, List.map_nil]
  have units := run_units options host candidates flag output ran
  rw [bare] at units
  exact units

-- Where one pass writes a unit for a type and another finds nothing to write, they come to different outputs.
theorem written_told_apart (options other : Options) (host : Host) (candidates : List Candidate) (type : DeclaredType)
    (known : host.type? type.name = some type)
    (filled : memberDrafts host type (ofOwner type.name (eligible host options.observableBase candidates)) ≠ [])
    (apart : ∀ marker ∈ MarkerUnits.all, marker.hint ≠ type.hint)
    (none : eligible host other.observableBase candidates = []) :
    (run options host candidates fun _ => false).value.outcome ≠
      (run other host candidates fun _ => false).value.outcome := by
  have ran := run_completes options host candidates (fun _ => false) fun _ _ => rfl
  intro same
  obtain ⟨unit, inside, settled⟩ := own_unit options host candidates type known filled
  have units := nothing_written other host candidates (fun _ => false) _ none (same.symm.trans ran)
  rw [run_units options host candidates (fun _ => false) _ ran] at units
  have listed : unit.source ∈ MarkerUnits.all := by
    rw [← units]
    simp only [List.mem_append]
    exact .inl (.inl (.inr (List.mem_map_of_mem inside)))
  exact apart _ listed (by rw [TypeUnit.source, TypeUnit.hint, settled.type_eq])

theorem derived_told_apart (options other : Options)
    (strange : ∀ owner, (derived options.observableBase).host.inheritsFrom owner other.observableBase = false) :
    (run options (derived options.observableBase).host sampleCandidates fun _ => false).value.outcome ≠
      (run other (derived options.observableBase).host sampleCandidates fun _ => false).value.outcome := by
  have none : eligible (derived options.observableBase).host other.observableBase sampleCandidates = [] := by
    rw [sample_eligible, strange]
    rfl
  have apart : ∀ marker ∈ MarkerUnits.all, marker.hint ≠ sampleType.hint := by decide +kernel
  exact written_told_apart options other _ sampleCandidates _ (derived_known _) (derived_filled _) apart none

theorem run_alike (left right : Settings) (others : right = { left with observableBase := right.observableBase })
    (same : left.toOptions.observableBase.plainParts = right.toOptions.observableBase.plainParts)
    (marks : left.toOptions.observableBase.Verbatim ↔ right.toOptions.observableBase.Verbatim)
    (compilation : Compilation) (plain : compilation.Plain) (candidates : List Candidate) (flag : Cancellation) :
    (run left.toOptions compilation.host candidates flag).value.outcome =
      (run right.toOptions compilation.host candidates flag).value.outcome := by
  have options : right.toOptions = { left.toOptions with observableBase := right.toOptions.observableBase } := by
    rw [others]
    rfl
  apply run_agrees _ _ options
  intro owner
  by_cases verbatim : left.toOptions.observableBase.Verbatim
  · exact (compilation.inherits_from_verbatim plain owner _ verbatim).trans
      (compilation.inherits_from_verbatim plain owner _ (marks.mp verbatim)).symm
  · rw [TypeName.plain_parts_of_not_verbatim _ verbatim,
      TypeName.plain_parts_of_not_verbatim _ (mt marks.mpr verbatim)] at same
    rw [TypeName.parts_injective _ _ same]

theorem run_apart (settings other : Settings) (accepted : settings.validated = .ok settings)
    (bare : ¬ settings.toOptions.observableBase.Verbatim) (verbatim : other.toOptions.observableBase.Verbatim) :
    let compilation := derived settings.toOptions.observableBase
    compilation.Plain ∧ (run settings.toOptions compilation.host sampleCandidates fun _ => false).value.outcome ≠
      (run other.toOptions compilation.host sampleCandidates fun _ => false).value.outcome := by
  intro compilation
  obtain ⟨_, _, base⟩ := settings.validated_iff.mp accepted
  have plain : compilation.Plain := derived_plain _ fun marked =>
    bare (TypeName.verbatim_of_marked _ (Settings.type_name_parts _ base) marked)
  exact ⟨plain, derived_told_apart settings.toOptions other.toOptions fun owner =>
    compilation.inherits_from_verbatim plain owner _ verbatim⟩

theorem base_spelling_iff (left right : Settings) (leftAccepted : left.validated = .ok left)
    (rightAccepted : right.validated = .ok right) (others : right = { left with observableBase := right.observableBase })
    (same : left.toOptions.observableBase.plainParts = right.toOptions.observableBase.plainParts) :
    ((∀ compilation : Compilation, compilation.Plain → ∀ candidates flag,
        (run left.toOptions compilation.host candidates flag).value.outcome =
          (run right.toOptions compilation.host candidates flag).value.outcome) ↔
      (left.toOptions.observableBase.Verbatim ↔ right.toOptions.observableBase.Verbatim)) ∧
    ∀ settings ∈ [left, right], settings.toOptions.observableBase.Verbatim →
      ∀ compilation : Compilation, compilation.Plain → ∀ candidate,
        Eligibility.isEligible compilation.host settings.toOptions.observableBase .notify candidate = false := by
  refine ⟨⟨?_, run_alike left right others same⟩, ?_⟩
  · intro alike
    constructor
    · intro leftVerbatim
      by_contra rightBare
      obtain ⟨plain, apart⟩ := run_apart right left rightAccepted rightBare leftVerbatim
      exact apart (alike _ plain _ _).symm
    · intro rightVerbatim
      by_contra leftBare
      obtain ⟨plain, apart⟩ := run_apart left right leftAccepted leftBare rightVerbatim
      exact apart (alike _ plain _ _)
  · intro settings _ verbatim compilation plain candidate
    rw [Bool.eq_false_iff]
    intro fits
    have observed : compilation.inheritsFrom candidate.owner _ = true := observed_inherits _ _ candidate fits
    rw [compilation.inherits_from_verbatim plain candidate.owner _ verbatim] at observed
    cases observed

theorem marked_bases_alike :
    let left := { Settings.default with observableBase := "@App.Base" }
    let right := { Settings.default with observableBase := "global::App.@Base" }
    left.validated = .ok left ∧ right.validated = .ok right ∧
      left.toOptions.observableBase.plainParts = right.toOptions.observableBase.plainParts ∧
      ∀ compilation : Compilation, compilation.Plain → ∀ candidates flag,
        (run left.toOptions compilation.host candidates flag).value.outcome =
          (run right.toOptions compilation.host candidates flag).value.outcome := by
  intro left right
  have leftAccepted : left.validated = .ok left := by decide +kernel
  have rightAccepted : right.validated = .ok right := by decide +kernel
  have same : left.toOptions.observableBase.plainParts = right.toOptions.observableBase.plainParts := by decide
  obtain ⟨alike, _⟩ := base_spelling_iff left right leftAccepted rightAccepted rfl same
  exact ⟨leftAccepted, rightAccepted, same, alike.mpr (by decide)⟩

-- The settings are accepted, and a class of this very base is passed over.
theorem marked_base_misses :
    let document := "[notify]\nobservable_base = \"App.@Base\"\n"
    let plain := { Settings.default with observableBase := "App.Base" }
    let marked := { Settings.default with observableBase := "App.@Base" }
    plain.validated = .ok plain ∧ marked.validated = .ok marked ∧ Settings.read document = .ok marked ∧
      plain.toOptions.observableBase.plainParts = marked.toOptions.observableBase.plainParts ∧
      (derived ⟨"App.Base"⟩).Plain ∧
      (run plain.toOptions (derived ⟨"App.Base"⟩).host sampleCandidates fun _ => false).value.outcome ≠
        (run marked.toOptions (derived ⟨"App.Base"⟩).host sampleCandidates fun _ => false).value.outcome := by
  intro document plain marked
  have accepted : plain.validated = .ok plain := by decide +kernel
  have base : plain.toOptions.observableBase = ⟨"App.Base"⟩ := by decide
  have apart := run_apart plain marked accepted (by decide) (by decide)
  rw [base] at apart
  exact ⟨accepted, by decide +kernel, by decide +kernel, by decide, apart⟩

end Pass

end ObservableGen
