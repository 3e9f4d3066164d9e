import ObservableGen.Proofs.Independence
set_option autoImplicit false

/-!
Candidates of further types behind those of a pass. Main statement: all that came of the earlier
candidates stays in place, and what comes of the later ones stands behind it.
-/
namespace ObservableGen

open Source

namespace Source

namespace Draft

theorem settle_types_append (header : UnitHeader) (shared : Shared)
    (front back : List (DeclaredType × List Draft)) :
    let first := settleTypes header shared front
    let further := settleTypes header first.2 back
    settleTypes header shared (front ++ back) = (first.1 ++ further.1, further.2) := by
  induction front generalizing shared with
  | nil => rfl
  | cons entry rest ih => simp [settleTypes, ih]

-- Whether or not the cache is in use, a token that it has keeps its place.
theorem settle_types_extends (header : UnitHeader) (shared : Shared)
    (types : List (DeclaredType × List Draft)) :
    shared.cache.tokens <+: (settleTypes header shared types).2.cache.tokens := by
  cases active : shared.cache.active with
  | true =>
      rw [settle_types_cache header shared types active]
      exact TokenCache.register_all_extends shared.cache (allMentions types)
  | false =>
      obtain ⟨_, kept⟩ := settle_types_spelled header shared types active
      exact ⟨[], by rw [kept, List.append_nil]⟩

end Draft

end Source

namespace Pass

theorem admitted_append (host : Host) (base : TypeName) (front back : List Candidate) :
    admitted host base (front ++ back) = admitted host base front ++ admitted host base back :=
  List.filterMap_append

theorem plan_append (host : Host) (base : TypeName) (front back : List Candidate)
    (apart : ∀ candidate ∈ back,
      candidate.owner ∉ (eligible host base front).map fun member => member.2.owner) :
    plan host (admitted host base (front ++ back)) =
      plan host (admitted host base front) ++ plan host (admitted host base back) := by
  have keys : ∀ owner ∈ (admitted host base back).map Prod.fst,
      owner ∉ (admitted host base front).map Prod.fst := by
    intro owner later
    rw [admitted_owners] at later ⊢
    obtain ⟨member, chosen, rfl⟩ := List.mem_map.mp later
    exact apart member.2 ((mem_eligible host base back member).mp chosen).1
  rw [admitted_append, plan, FirstSeen.gather_append _ _ keys, List.filterMap_append, plan, plan]

theorem later_types_follow (options : Options) (host : Host) (before added : List Candidate)
    (shortFlag longFlag : Cancellation)
    (shortNever : ∀ i < before.length, shortFlag i = false)
    (longNever : ∀ i < (before ++ added).length, longFlag i = false)
    (apart : ∀ candidate ∈ added, candidate.owner ∉
      (eligible host options.observableBase before).map fun member => member.2.owner) :
    let header := options.header host
    let chosen := eligible host options.observableBase before
    let further := eligible host options.observableBase added
    ∃ (short long : Output) (owners laterOwners : List TypeName) (units later : List TypeUnit)
        (tokens more : List Token) (shortManager longManager : Option SourceUnit),
      (run options host before shortFlag).value.outcome = .ok short ∧
      (run options host (before ++ added) longFlag).value.outcome = .ok long ∧
      short.units = MarkerUnits.all ++ units.map TypeUnit.source
        ++ (tokenFile? header tokens).toList ++ shortManager.toList ∧
      long.units = MarkerUnits.all ++ units.map TypeUnit.source ++ later.map TypeUnit.source
        ++ (tokenFile? header (tokens ++ more)).toList ++ longManager.toList ∧
      FirstSeen.InOrder owners (chosen.map fun member => member.2.owner) ∧
      UnitsOf host header PropertySource.Complete chosen owners units ∧
      FirstSeen.InOrder laterOwners (further.map fun member => member.2.owner) ∧
      UnitsOf host header PropertySource.Complete further laterOwners later ∧
      shortManager.map SourceUnit.hint = (if (units.flatMap TypeUnit.properties).any Property.usesManager
        then some "RequerySuggestedEventManager.g.cs" else none) ∧
      (∀ unit, shortManager = some unit → longManager = some unit) := by
  intro header chosen further
  let start := Shared.empty options.cached
  let front := plan host (admitted host options.observableBase before)
  let back := plan host (admitted host options.observableBase added)
  let first := Draft.settleTypes header start front
  let last := Draft.settleTypes header first.2 back
  have whole : written options host (admitted host options.observableBase (before ++ added))
      = (first.1 ++ last.1, last.2) := by
    rw [written, plan_append host options.observableBase before added apart]
    exact Draft.settle_types_append header start front back
  have shortRan := run_completes options host before shortFlag shortNever
  have longRan := run_completes options host (before ++ added) longFlag longNever
  have shortUnits := run_units options host before shortFlag _ shortRan
  have longUnits := run_units options host (before ++ added) longFlag _ longRan
  rw [whole] at longUnits
  obtain ⟨more, tokens⟩ := Draft.settle_types_extends header first.2 back
  refine ⟨_, _, _, _, first.1, last.1, first.2.cache.tokens, more,
    CommandManager.unit? first.2.managerUsed header, CommandManager.unit? last.2.managerUsed header,
    shortRan, longRan, ?_, ?_, FirstSeen.in_order_erase_dups _,
    settled_units header _ host options.observableBase before first.1 (Draft.settle_types_complete header start front),
    FirstSeen.in_order_erase_dups _,
    settled_units header _ host options.observableBase added last.1 (Draft.settle_types_complete header first.2 back),
    ?_, ?_⟩
  · rw [← token_file]
    exact shortUnits
  · rw [tokens, ← token_file]
    simpa using longUnits
  · have used : first.2.managerUsed = (first.1.flatMap TypeUnit.properties).any Property.usesManager :=
      written_manager options host (admitted host options.observableBase before)
    rw [used]
    exact CommandManager.manager_unit_hint _ header
  · intro unit emitted
    have kept : last.2.managerUsed
        = (first.2.managerUsed || (Draft.allProperties back).any Property.usesManager) :=
      Draft.settle_types_manager header first.2 back
    have used := CommandManager.manager_used_of_unit _ header unit emitted
    rw [kept, used, Bool.true_or, ← used]
    exact emitted

theorem neighbour_behind_sample :
    let before := [fieldOf sampleType]
    let added := [fieldOf neighbourType]
    let header := Options.default.header neighbours
    let ownersOf := fun candidates => (eligible neighbours Options.default.observableBase candidates).map
      fun member => member.2.owner
    (∀ candidate ∈ added, candidate.owner ∉ ownersOf before) ∧
    ownersOf before = [sampleType.name] ∧ ownersOf added = [neighbourType.name] ∧
    ∃ (short long : Output) (units later : List TypeUnit) (tokens more : List Token)
        (shortManager longManager : Option SourceUnit),
      (run Options.default neighbours before fun _ => false).value.outcome = .ok short ∧
      (run Options.default neighbours (before ++ added) fun _ => false).value.outcome = .ok long ∧
      short.units = MarkerUnits.all ++ units.map TypeUnit.source
        ++ (tokenFile? header tokens).toList ++ shortManager.toList ∧
      long.units = MarkerUnits.all ++ units.map TypeUnit.source ++ later.map TypeUnit.source
        ++ (tokenFile? header (tokens ++ more)).toList ++ longManager.toList := by
  intro before added header ownersOf
  have early : ownersOf before = [sampleType.name] := by decide +kernel
  have late : ownersOf added = [neighbourType.name] := by decide +kernel
  have apart : ∀ candidate ∈ added, candidate.owner ∉ ownersOf before := by
    rw [early]
    decide +kernel
  obtain ⟨short, long, _, _, units, later, tokens, more, shortManager, longManager, shortRan, longRan,
    shortUnits, longUnits, _⟩ := later_types_follow Options.default neighbours before added (fun _ => false)
      (fun _ => false) (fun _ _ => rfl) (fun _ _ => rfl) apart
  exact ⟨apart, early, late, short, long, units, later, tokens, more, shortManager, longManager, shortRan,
    longRan, shortUnits, longUnits⟩

end Pass

end ObservableGen
