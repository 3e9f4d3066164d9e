import ObservableGen.Proofs.Accepted
import ObservableGen.Proofs.Files
import ObservableGen.Proofs.Plan
set_option autoImplicit false

/-!
What a pass emits and in which order. Main statement: the units are the markers', one for each type
that a member is written for, and the shared ones that are needed, each with its text; nothing is lost or
comes twice.
-/
namespace ObservableGen

open Source

namespace Pass

def eligible (host : Host) (base : TypeName) (candidates : List Candidate) : List Admitted :=
  candidates.filterMap fun candidate =>
    (Marker.ofClass? candidate.marker).bind fun marker =>
      if Eligibility.isEligible host base marker candidate then some (marker, candidate) else none

def ofOwner (owner : TypeName) (members : List Admitted) : List Admitted :=
  members.filter fun member => member.2.owner == owner

-- What eligible candidates of one type contribute to its unit, kind after kind.
def Members (host : Host) (type : DeclaredType) (own : List Admitted) (drafts : List Draft) : Prop :=
  ∃ kinds, FirstSeen.InOrder kinds (own.map Prod.fst) ∧
    drafts = kinds.flatMap fun kind => markedDrafts host type kind (FirstSeen.under kind own)

-- The units that come of the types in this order, their property sources being as `holds` says.
inductive UnitsOf (host : Host) (header : UnitHeader) (holds : PropertySource → Prop) (chosen : List Admitted) :
    List TypeName → List TypeUnit → Prop
  | nil : UnitsOf host header holds chosen [] []
  | unknown (owner : TypeName) (owners : List TypeName) (units : List TypeUnit)
      (strange : host.type? owner = none) (others : UnitsOf host header holds chosen owners units) :
      UnitsOf host header holds chosen (owner :: owners) units
  | dropped (owner : TypeName) (type : DeclaredType) (owners : List TypeName) (units : List TypeUnit)
      (known : host.type? owner = some type) (members : Members host type (ofOwner owner chosen) [])
      (others : UnitsOf host header holds chosen owners units) :
      UnitsOf host header holds chosen (owner :: owners) units
  | written (owner : TypeName) (type : DeclaredType) (drafts : List Draft) (unit : TypeUnit)
      (owners : List TypeName) (units : List TypeUnit) (known : host.type? owner = some type)
      (members : Members host type (ofOwner owner chosen) drafts) (nonempty : drafts ≠ [])
      (settled : UnitSettles header holds (type, drafts) unit)
      (others : UnitsOf host header holds chosen owners units) :
      UnitsOf host header holds chosen (owner :: owners) (unit :: units)

theorem admitted_eligible (host : Host) (base : TypeName) (candidates : List Candidate) :
    admitted host base candidates =
      (eligible host base candidates).map fun member => (member.2.owner, member) := by
  rw [admitted, eligible, List.map_filterMap]
  apply List.filterMap_congr
  intro candidate _
  cases known : Marker.ofClass? candidate.marker with
  | none => simp [acceptance, known, Except.toOption]
  | some marker =>
      by_cases fits : Eligibility.isEligible host base marker candidate = true
      · simp [acceptance, known, fits, Except.toOption]
      · simp [acceptance, known, fits, Except.toOption]

theorem admitted_owners (host : Host) (base : TypeName) (candidates : List Candidate) :
    (admitted host base candidates).map Prod.fst =
      (eligible host base candidates).map fun member => member.2.owner := by
  simp [admitted_eligible, Function.comp_def]

theorem mem_eligible (host : Host) (base : TypeName) (candidates : List Candidate) (member : Admitted) :
    member ∈ eligible host base candidates ↔ member.2 ∈ candidates ∧
      Marker.ofClass? member.2.marker = some member.1 ∧
      Eligibility.isEligible host base member.1 member.2 = true := by
  obtain ⟨marker, candidate⟩ := member
  rw [eligible, List.mem_filterMap]
  constructor
  · rintro ⟨other, inside, accepted⟩
    obtain ⟨found, known, chosen⟩ := Option.bind_eq_some_iff.mp accepted
    by_cases fits : Eligibility.isEligible host base found other = true
    · rw [if_pos fits] at chosen
      cases chosen
      exact ⟨inside, known, fits⟩
    · rw [if_neg fits] at chosen
      cases chosen
  · rintro ⟨inside, known, fits⟩
    exact ⟨candidate, inside, by rw [known, Option.bind_some, if_pos fits]⟩

theorem under_owner (owner : TypeName) (members : List Admitted) :
    FirstSeen.under owner (members.map fun member => (member.2.owner, member)) = ofOwner owner members := by
  simp [FirstSeen.under, ofOwner, List.filter_map, Function.comp_def]

theorem owner_listed (owner : TypeName) (members : List Admitted) :
    owner ∈ members.map (fun member => member.2.owner) ↔ ofOwner owner members ≠ [] := by
  simp [ofOwner, List.filter_eq_nil_iff, List.mem_map]

theorem plan_owners (host : Host) (base : TypeName) (candidates : List Candidate) :
    let chosen := eligible host base candidates
    plan host (admitted host base candidates) =
      (chosen.map fun member => member.2.owner).eraseDups.filterMap fun owner =>
        planned? host (owner, ofOwner owner chosen) := by
  simp [plan, FirstSeen.gather, admitted_eligible, List.filterMap_map, Function.comp_def, under_owner]

theorem member_drafts_in_order (host : Host) (type : DeclaredType) (own : List Admitted) :
    Members host type own (memberDrafts host type own) := by
  refine ⟨(own.map Prod.fst).eraseDups, FirstSeen.in_order_erase_dups _, ?_⟩
  simp [memberDrafts, FirstSeen.gather, List.flatMap_map]

theorem property_decided (host : Host) (type : DeclaredType) (candidate : Candidate)
    (property : Property) (made : property? host type candidate = some property) :
    ∃ decided, Property.ofTarget? host (some type) candidate.target = some decided ∧
      decided.value = .ok property := by
  obtain ⟨decided, found, accepted⟩ := Option.bind_eq_some_iff.mp made
  refine ⟨decided, found, ?_⟩
  cases value : decided.value with
  | error reason =>
      rw [value] at accepted
      cases accepted
  | ok other =>
      rw [value] at accepted
      cases accepted
      rfl

theorem property_accepted (host : Host) (type : DeclaredType) (candidate : Candidate)
    (property : Property) (made : property? host type candidate = some property) :
    Property.Accepted host (some type) candidate.memberName property := by
  obtain ⟨decided, found, ok⟩ := property_decided host type candidate property made
  unfold Candidate.memberName
  cases target : candidate.target with
  | field member =>
      rw [target] at found
      cases found
      exact .field member property ok
  | method member =>
      rw [target] at found
      cases found
      exact .method member property ok
  | type attributes =>
      rw [target] at found
      cases found

theorem member_decided (host : Host) (type : DeclaredType) (members : List Admitted)
    (property : Property)
    (inside : property ∈ (memberDrafts host type members).filterMap Draft.property?) :
    ∃ candidate, (.notify, candidate) ∈ members ∧ property? host type candidate = some property := by
  obtain ⟨draft, drafted, own⟩ := List.mem_filterMap.mp inside
  obtain ⟨⟨marker, candidates⟩, gathered, marked⟩ := List.mem_flatMap.mp drafted
  cases marker with
  | notify =>
      obtain ⟨decided, listed, rfl⟩ := List.mem_map.mp marked
      cases own
      obtain ⟨candidate, present, made⟩ := List.mem_filterMap.mp listed
      exact ⟨candidate, FirstSeen.mem_of_gathered members _ gathered candidate present, made⟩
  | localize =>
      obtain ⟨text, _, rfl⟩ := List.mem_map.mp marked
      cases own
  | notifyDataErrorInfo =>
      cases List.mem_singleton.mp marked
      cases own

theorem plan_members (host : Host) (base : TypeName) (candidates : List Candidate)
    (entry : DeclaredType × List Draft) (planned : entry ∈ plan host (admitted host base candidates)) :
    ∃ owner, entry.2 = memberDrafts host entry.1 (ofOwner owner (eligible host base candidates)) := by
  rw [plan_owners] at planned
  obtain ⟨owner, _, place⟩ := List.mem_filterMap.mp planned
  obtain ⟨_, drafts, _⟩ := (planned_iff host _ entry).mp place
  exact ⟨owner, drafts⟩

-- Each property of the plan was decided for an eligible candidate.
theorem plan_decided (host : Host) (base : TypeName) (candidates : List Candidate)
    (entry : DeclaredType × List Draft) (planned : entry ∈ plan host (admitted host base candidates))
    (property : Property) (inside : property ∈ entry.2.filterMap Draft.property?) :
    ∃ candidate, (.notify, candidate) ∈ eligible host base candidates ∧
      property? host entry.1 candidate = some property := by
  obtain ⟨owner, drafts⟩ := plan_members host base candidates entry planned
  rw [drafts] at inside
  obtain ⟨candidate, present, made⟩ := member_decided host entry.1 _ property inside
  exact ⟨candidate, (List.mem_filter.mp present).1, made⟩

theorem plan_property (host : Host) (base : TypeName) (candidates : List Candidate)
    (entry : DeclaredType × List Draft) (planned : entry ∈ plan host (admitted host base candidates))
    (property : Property) (inside : property ∈ entry.2.filterMap Draft.property?) :
    ∃ candidate, (.notify, candidate) ∈ eligible host base candidates ∧
      Property.Accepted host (some entry.1) candidate.memberName property := by
  obtain ⟨candidate, chosen, made⟩ := plan_decided host base candidates entry planned property inside
  exact ⟨candidate, chosen, property_accepted host entry.1 candidate property made⟩

theorem planned_units (host : Host) (header : UnitHeader) (holds : PropertySource → Prop) (chosen : List Admitted)
    (owners : List TypeName) (units : List TypeUnit)
    (settled : List.Forall₂ (UnitSettles header holds)
      (owners.filterMap fun owner => planned? host (owner, ofOwner owner chosen)) units) :
    UnitsOf host header holds chosen owners units := by
  induction owners generalizing units with
  | nil =>
      cases settled
      exact .nil
  | cons owner rest ih =>
      cases known : host.type? owner with
      | none =>
          have absent : planned? host (owner, ofOwner owner chosen) = none := by
            simp [planned?, known]
          rw [List.filterMap_cons, absent] at settled
          exact .unknown owner rest units known (ih units settled)
      | some type =>
          have members := member_drafts_in_order host type (ofOwner owner chosen)
          by_cases bare : memberDrafts host type (ofOwner owner chosen) = []
          · have absent : planned? host (owner, ofOwner owner chosen) = none := by
              simp [planned?, known, bare]
            rw [List.filterMap_cons, absent] at settled
            rw [bare] at members
            exact .dropped owner type rest units known members (ih units settled)
          · have present : planned? host (owner, ofOwner owner chosen)
                = some (type, memberDrafts host type (ofOwner owner chosen)) :=
              (planned_iff host _ _).mpr ⟨known, rfl, bare⟩
            rw [List.filterMap_cons, present] at settled
            cases settled with
            | cons head tail =>
                exact .written owner type _ _ rest _ known members bare head (ih _ tail)

-- The plan of a pass settles owner by owner.
theorem settled_units (header : UnitHeader) (holds : PropertySource → Prop) (host : Host) (base : TypeName)
    (candidates : List Candidate) (units : List TypeUnit)
    (settled : List.Forall₂ (UnitSettles header holds) (plan host (admitted host base candidates)) units) :
    let chosen := eligible host base candidates
    UnitsOf host header holds chosen (chosen.map fun member => member.2.owner).eraseDups units := by
  intro chosen
  rw [plan_owners] at settled
  exact planned_units host header holds chosen _ units settled

end Pass

end ObservableGen
