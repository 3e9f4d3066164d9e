import ObservableGen.Proofs.Extension
import ObservableGen.Proofs.Reachability
set_option autoImplicit false

/-!
Candidates that nothing comes of. Main statement: between the candidates of a pass there may stand
any number of others that are excluded, repeated or refused, and the output stays as it is.
-/
namespace ObservableGen

open Source

namespace Pass

-- A candidate of this kind and type is admitted.
def Preceded (host : Host) (base : TypeName) (marker : Marker) (owner : TypeName)
    (front : List Candidate) : Prop :=
  ∃ other ∈ front, Marker.ofClass? other.marker = some marker ∧
    Eligibility.isEligible host base marker other = true ∧ other.owner = owner

def Refused (host : Host) (candidate : Candidate) : Prop :=
  ∀ type, host.type? candidate.owner = some type → ∃ decided reason,
    Property.ofTarget? host (some type) candidate.target = some decided ∧ decided.value = .error reason

-- What makes a candidate idle behind those in front of it.
inductive Noise (host : Host) (base : TypeName) (front : List Candidate) (candidate : Candidate) : Prop
  | unrecognised (unknown : Marker.ofClass? candidate.marker = none) :
      Noise host base front candidate
  | ineligible (marker : Marker) (known : Marker.ofClass? candidate.marker = some marker)
      (unfit : Eligibility.isEligible host base marker candidate = false) :
      Noise host base front candidate
  | repeated (marker : Marker) (known : Marker.ofClass? candidate.marker = some marker)
      (whole : marker.isTypeLevel = true) (earlier : Preceded host base marker candidate.owner front) :
      Noise host base front candidate
  | refused (known : Marker.ofClass? candidate.marker = some .notify)
      (error : Refused host candidate) (earlier : Preceded host base .notify candidate.owner front) :
      Noise host base front candidate

-- `Padded host base front candidates noisy` says that `noisy` is `candidates` with noise at any of its
-- places, each behind `front` and all of `noisy` before it.
inductive Padded (host : Host) (base : TypeName) :
    List Candidate → List Candidate → List Candidate → Prop
  | done (front : List Candidate) : Padded host base front [] []
  | kept (front rest noisy : List Candidate) (candidate : Candidate)
      (further : Padded host base (front ++ [candidate]) rest noisy) :
      Padded host base front (candidate :: rest) (candidate :: noisy)
  | noise (front candidates noisy : List Candidate) (candidate : Candidate)
      (idle : Noise host base front candidate)
      (further : Padded host base (front ++ [candidate]) candidates noisy) :
      Padded host base front candidates (candidate :: noisy)

theorem preceded_admitted (host : Host) (base : TypeName) (marker : Marker) (owner : TypeName)
    (front : List Candidate) (earlier : Preceded host base marker owner front) :
    ∃ other, (owner, marker, other) ∈ admitted host base front := by
  obtain ⟨other, inside, known, fits, rfl⟩ := earlier
  have chosen := (mem_eligible host base front (marker, other)).mpr ⟨inside, known, fits⟩
  rw [admitted_eligible]
  exact ⟨other, List.mem_map_of_mem chosen⟩

-- Behind another candidate of its kind, only a property can be new.
theorem marked_drafts_insert (host : Host) (type : DeclaredType) (marker : Marker)
    (front back : List Candidate) (candidate : Candidate) (earlier : front ≠ [])
    (bare : marker = .notify → property? host type candidate = none) :
    markedDrafts host type marker (front ++ candidate :: back)
      = markedDrafts host type marker (front ++ back) := by
  cases marker with
  | notify => simp [markedDrafts, List.filterMap_append, bare rfl]
  | localize =>
      cases front with
      | nil => exact absurd rfl earlier
      | cons first rest => rfl
  | notifyDataErrorInfo => rfl

theorem member_drafts_insert (host : Host) (type : DeclaredType) (marker : Marker)
    (front back : List Admitted) (candidate other : Candidate) (earlier : (marker, other) ∈ front)
    (bare : marker = .notify → property? host type candidate = none) :
    memberDrafts host type (front ++ (marker, candidate) :: back)
      = memberDrafts host type (front ++ back) := by
  have seen : marker ∈ front.map Prod.fst := List.mem_map.mpr ⟨_, earlier, rfl⟩
  have filled : FirstSeen.under marker front ≠ [] :=
    List.ne_nil_of_mem ((FirstSeen.mem_under marker other front).mpr earlier)
  rw [memberDrafts, memberDrafts, List.flatMap_def, List.flatMap_def]
  exact congrArg List.flatten (FirstSeen.gather_insert
    (fun group => markedDrafts host type group.1 group.2) front back marker candidate seen
    (marked_drafts_insert host type marker _ _ candidate filled bare))

theorem plan_insert (host : Host) (front back : List (TypeName × Admitted)) (owner : TypeName)
    (marker : Marker) (candidate other : Candidate) (earlier : (owner, marker, other) ∈ front)
    (bare : ∀ type, host.type? owner = some type → marker = .notify →
      property? host type candidate = none) :
    plan host (front ++ (owner, marker, candidate) :: back) = plan host (front ++ back) := by
  have seen : owner ∈ front.map Prod.fst := List.mem_map.mpr ⟨_, earlier, rfl⟩
  have inside := (FirstSeen.mem_under owner (marker, other) front).mpr earlier
  have same : planned? host
        (owner, FirstSeen.under owner front ++ (marker, candidate) :: FirstSeen.under owner back)
      = planned? host (owner, FirstSeen.under owner front ++ FirstSeen.under owner back) := by
    cases known : host.type? owner with
    | none => simp [planned?, known]
    | some type =>
        have drafts := member_drafts_insert host type marker (FirstSeen.under owner front)
          (FirstSeen.under owner back) candidate other inside (bare type known)
        simp [planned?, known, drafts]
  have groups := FirstSeen.gather_insert (planned? host) front back owner (marker, candidate) seen same
  have entries := congrArg (List.filterMap id) groups
  rwa [List.filterMap_map, List.filterMap_map] at entries

-- A refused member has no property, whatever the host knows of its type.
theorem refused_bare (host : Host) (candidate : Candidate) (refused : Refused host candidate)
    (type : DeclaredType) (known : host.type? candidate.owner = some type) :
    property? host type candidate = none := by
  obtain ⟨decided, reason, made, error⟩ := refused type known
  simp [property?, made, error, Except.toOption]

-- A known marker is accepted or the candidate is left out.
theorem acceptance_cases (host : Host) (base : TypeName) (candidate : Candidate) (marker : Marker)
    (known : Marker.ofClass? candidate.marker = some marker) :
    (∃ notice, acceptance host base candidate = .error notice) ∨
      acceptance host base candidate = .ok marker := by
  by_cases fits : Eligibility.isEligible host base marker candidate = true
  · exact .inr (by simp [acceptance, known, fits])
  · exact .inl ⟨.ineligible candidate.memberName candidate.owner marker, by simp [acceptance, known, fits]⟩

-- All that noise can be for a pass: left out, or admitted behind its like without a property.
theorem noise_cases (host : Host) (base : TypeName) (front : List Candidate) (candidate : Candidate)
    (idle : Noise host base front candidate) :
    (∃ notice, acceptance host base candidate = .error notice) ∨
    ∃ marker other, acceptance host base candidate = .ok marker ∧
      (candidate.owner, marker, other) ∈ admitted host base front ∧
      ∀ type, host.type? candidate.owner = some type → marker = .notify →
        property? host type candidate = none := by
  cases idle with
  | unrecognised unknown => exact .inl ⟨.unknownMarker candidate.marker, by simp [acceptance, unknown]⟩
  | ineligible marker known unfit =>
      exact .inl ⟨.ineligible candidate.memberName candidate.owner marker,
        by simp [acceptance, known, unfit]⟩
  | repeated marker known whole earlier =>
      obtain ⟨other, before⟩ := preceded_admitted host base marker candidate.owner front earlier
      refine (acceptance_cases host base candidate marker known).imp_right fun accepted => ?_
      refine ⟨marker, other, accepted, before, fun type _ notify => ?_⟩
      rw [notify] at whole
      cases whole
  | refused known error earlier =>
      obtain ⟨other, before⟩ := preceded_admitted host base .notify candidate.owner front earlier
      refine (acceptance_cases host base candidate .notify known).imp_right fun accepted => ?_
      exact ⟨.notify, other, accepted, before, fun type declared _ =>
        refused_bare host candidate error type declared⟩

theorem plan_noise (host : Host) (base : TypeName) (front back : List Candidate) (candidate : Candidate)
    (idle : Noise host base front candidate) :
    plan host (admitted host base (front ++ candidate :: back))
      = plan host (admitted host base (front ++ back)) := by
  rw [admitted_append, admitted_append]
  obtain ⟨notice, out⟩ | ⟨marker, other, accepted, before, bare⟩ :=
    noise_cases host base front candidate idle
  · have gone : admitted host base (candidate :: back) = admitted host base back := by
      simp [admitted, out, Except.toOption]
    rw [gone]
  · have present : admitted host base (candidate :: back)
        = (candidate.owner, marker, candidate) :: admitted host base back := by
      simp [admitted, accepted, Except.toOption]
    rw [present]
    exact plan_insert host _ _ candidate.owner marker candidate other before bare

-- By induction on the places, one candidate at a time.
theorem plan_padded (host : Host) (base : TypeName) (front candidates noisy : List Candidate)
    (padded : Padded host base front candidates noisy) :
    plan host (admitted host base (front ++ noisy))
      = plan host (admitted host base (front ++ candidates)) := by
  induction padded with
  | done front => rfl
  | kept front rest noisy candidate further ih =>
      simpa [List.append_assoc] using ih
  | noise front candidates noisy candidate idle further ih =>
      have last := plan_noise host base front candidates candidate idle
      rw [List.append_assoc, List.append_assoc, List.singleton_append, List.singleton_append] at ih
      exact ih.trans last

theorem noise_changes_nothing (options : Options) (host : Host) (candidates noisy : List Candidate)
    (flag noisyFlag : Cancellation) (never : ∀ i < candidates.length, flag i = false)
    (noisyNever : ∀ i < noisy.length, noisyFlag i = false)
    (padded : Padded host options.observableBase [] candidates noisy) :
    ∃ output, (run options host candidates flag).value.outcome = .ok output ∧
      (run options host noisy noisyFlag).value.outcome = .ok output := by
  have plans := plan_padded host options.observableBase [] candidates noisy padded
  have ran := run_completes options host candidates flag never
  have noisyRan := run_completes options host noisy noisyFlag noisyNever
  have same : (generate options host (admitted host options.observableBase noisy)).value
      = (generate options host (admitted host options.observableBase candidates)).value := by
    rw [generate_settles, generate_settles, written, written]
    rw [List.nil_append, List.nil_append] at plans
    rw [plans]
  rw [same] at noisyRan
  exact ⟨_, ran, noisyRan⟩

-- A class with an observable field and its validation, and noise of each kind.
def checkedType : DeclaredType := { sampleType with interfaces := [Eligibility.validationInterface] }

def checkedHost : Host := (Compilation.empty.declare checkedType).host

def checking : Candidate := .ofTarget AttributeClass.notifyDataErrorInfo checkedType.name (.type [])

def strangeMark : Candidate := .ofTarget ⟨"App.OtherAttribute"⟩ checkedType.name (.type [])

def fixedField : Candidate :=
  .ofTarget AttributeClass.notify checkedType.name (.field { sampleType.sampleField with isReadonly := true })

-- The property of this field would have the name of the field.
def collidingField : Candidate :=
  .ofTarget AttributeClass.notify checkedType.name (.field { sampleType.sampleField with name := "Name" })

theorem checking_preceded (front : List Candidate) (inside : checking ∈ front) :
    Preceded checkedHost Options.default.observableBase .notifyDataErrorInfo checkedType.name front := by
  have direct : Hierarchy.Super [checkedType] checkedType.name Eligibility.validationInterface :=
    show Eligibility.validationInterface ∈ Hierarchy.above DeclaredType.supertypes _ _ by decide +kernel
  have implemented : checkedHost.implements checkedType.name Eligibility.validationInterface = true :=
    (Compilation.implements_iff _ _ _).mpr ⟨by decide, .single direct⟩
  exact ⟨checking, inside, by decide, implemented, rfl⟩

theorem colliding_field_refused : Refused checkedHost collidingField := by
  intro type declared
  have known : checkedHost.type? collidingField.owner = some checkedType := rfl
  rw [known] at declared
  cases declared
  exact ⟨_, .nameCollision "Name" "Name", rfl, by decide +kernel⟩

theorem checked_class_undisturbed :
    let plain := [fieldOf checkedType, checking]
    let noisy := [strangeMark, fieldOf checkedType, fixedField, checking, collidingField, checking]
    Padded checkedHost Options.default.observableBase [] plain noisy ∧
    ∃ output, (run Options.default checkedHost plain fun _ => false).value.outcome = .ok output ∧
      (run Options.default checkedHost noisy fun _ => false).value.outcome = .ok output := by
  intro plain noisy
  have padded : Padded checkedHost Options.default.observableBase [] plain noisy := by
    refine .noise _ _ _ _ (.unrecognised (by decide)) (.kept _ _ _ _ ?_)
    refine .noise _ _ _ _ (.ineligible .notify (by decide) (by decide +kernel)) (.kept _ _ _ _ ?_)
    refine .noise _ _ _ _ (.refused (by decide) colliding_field_refused ?_) ?_
    · exact ⟨fieldOf checkedType, by simp, by decide, by decide +kernel, rfl⟩
    · refine .noise _ _ _ _ (.repeated .notifyDataErrorInfo (by decide) rfl ?_) (.done _)
      exact checking_preceded _ (by simp)
  exact ⟨padded, noise_changes_nothing Options.default checkedHost plain noisy (fun _ => false)
    (fun _ => false) (fun _ _ => rfl) (fun _ _ => rfl) padded⟩

end Pass

end ObservableGen
