import ObservableGen.Pass
import ObservableGen.Proofs.Entries
import ObservableGen.Proofs.Settlement
set_option autoImplicit false

/-!
A pass as a plan and its settlement. Main statement: which members go into which unit follows from
the host and the candidates alone, and the pass settles them in one go from the left.
-/
namespace ObservableGen

open Source

namespace Pass

def admitted (host : Host) (base : TypeName) (candidates : List Candidate) :
    List (TypeName × Admitted) :=
  candidates.filterMap fun candidate =>
    (acceptance host base candidate).toOption.map fun marker => (candidate.owner, marker, candidate)

def property? (host : Host) (type : DeclaredType) (candidate : Candidate) : Option Property :=
  (Property.ofTarget? host (some type) candidate.target).bind fun decided => decided.value.toOption

def localizedTexts (host : Host) (candidate : Candidate) : List LocalizedText :=
  match Localization.load host candidate.target.attributes with
  | .ok localization => Localization.firstTexts localization.entries
  | .error _ => []

-- What the candidates of one marker contribute to the unit of their type.
def markedDrafts (host : Host) (type : DeclaredType) : Marker → List Candidate → List Draft
  | .notify, candidates => (candidates.filterMap (property? host type)).map .property
  | .localize, candidates => (candidates.head?.toList.flatMap (localizedTexts host)).map .localized
  | .notifyDataErrorInfo, _ => [.validation]

def memberDrafts (host : Host) (type : DeclaredType) (members : List Admitted) : List Draft :=
  (FirstSeen.gather members).flatMap fun group => markedDrafts host type group.1 group.2

-- A type that the host does not know, or that nothing is written for, has no place in the plan.
def planned? (host : Host) (group : TypeName × List Admitted) : Option (DeclaredType × List Draft) :=
  (host.type? group.1).bind fun type =>
    if (memberDrafts host type group.2).isEmpty then none
    else some (type, memberDrafts host type group.2)

theorem planned_iff (host : Host) (group : TypeName × List Admitted) (entry : DeclaredType × List Draft) :
    planned? host group = some entry ↔ host.type? group.1 = some entry.1 ∧
      entry.2 = memberDrafts host entry.1 group.2 ∧ entry.2 ≠ [] := by
  obtain ⟨type, drafts⟩ := entry
  rw [planned?, Option.bind_eq_some_iff]
  constructor
  · rintro ⟨found, known, chosen⟩
    by_cases bare : (memberDrafts host found group.2).isEmpty = true
    · rw [if_pos bare] at chosen
      cases chosen
    · rw [if_neg bare] at chosen
      cases chosen
      exact ⟨known, rfl, by simpa using bare⟩
  · rintro ⟨known, own, filled⟩
    dsimp only at known own filled
    subst own
    exact ⟨type, known, if_neg (by simpa using filled)⟩

def plan (host : Host) (candidates : List (TypeName × Admitted)) : List (DeclaredType × List Draft) :=
  (FirstSeen.gather candidates).filterMap (planned? host)

def extended (state : TypeUnit × Shared) (drafts : List Draft) : TypeUnit × Shared :=
  let settled := Draft.settleAll state.2 drafts
  ({ state.1 with blocks := state.1.blocks ++ settled.1 }, settled.2)

theorem settle_all_append (shared : Shared) (front back : List Draft) :
    Draft.settleAll shared (front ++ back) =
      ((Draft.settleAll shared front).1 ++ (Draft.settleAll (Draft.settleAll shared front).2 back).1,
        (Draft.settleAll (Draft.settleAll shared front).2 back).2) := by
  induction front generalizing shared with
  | nil => rfl
  | cons draft rest ih => simp [Draft.settleAll, ih]

theorem extended_nil (state : TypeUnit × Shared) : extended state [] = state := by
  simp [extended, Draft.settleAll]

theorem extended_append (state : TypeUnit × Shared) (front back : List Draft) :
    extended (extended state front) back = extended state (front ++ back) := by
  simp [extended, settle_all_append]

theorem add_candidate_extends (host : Host) (owner : TypeName) (state : TypeUnit × Shared)
    (candidate : Candidate) :
    (addCandidate host owner state candidate).value =
      extended state ((property? host state.1.type candidate).toList.map .property) := by
  cases target : Property.ofTarget? host (some state.1.type) candidate.target with
  | none => simp [addCandidate, property?, target, extended_nil]
  | some decided =>
      cases outcome : decided.value with
      | error reason => simp [addCandidate, property?, target, outcome, extended_nil, Except.toOption]
      | ok property =>
          simp [addCandidate, property?, target, outcome, Except.toOption, extended,
            Draft.settleAll, Draft.settle, TypeUnit.addProperty, TypeUnit.add]

theorem fold_candidates_extends (host : Host) (owner : TypeName) (state : TypeUnit × Shared)
    (candidates : List Candidate) :
    (Reported.fold (addCandidate host owner) state candidates).value =
      extended state ((candidates.filterMap (property? host state.1.type)).map .property) := by
  induction candidates generalizing state with
  | nil => simp [Reported.fold, extended_nil]
  | cons candidate rest ih =>
      have first := add_candidate_extends host owner state candidate
      rw [Reported.fold, Reported.value_bind, ih, first, extended_append]
      cases decided : property? host state.1.type candidate <;> simp [decided, extended]

theorem settle_all_localized (shared : Shared) (texts : List LocalizedText) :
    Draft.settleAll shared (texts.map .localized) = (texts.map .localized, shared) := by
  induction texts with
  | nil => rfl
  | cons text rest ih => simp [Draft.settleAll, Draft.settle, ih]

theorem add_localization_value (unit : TypeUnit) (localization : Localization) :
    (unit.addLocalization localization).value =
      { unit with blocks := unit.blocks ++ localization.texts.value.map .localized } := by
  rw [TypeUnit.addLocalization, Reported.value_map]
  generalize localization.texts.value = texts
  induction texts generalizing unit with
  | nil => simp
  | cons text rest ih =>
      rw [List.foldl_cons, ih]
      simp [TypeUnit.add]

theorem add_marked_extends (host : Host) (owner : TypeName) (state : TypeUnit × Shared)
    (marked : Marker × List Candidate) :
    (addMarked host owner state marked).value =
      extended state (markedDrafts host state.1.type marked.1 marked.2) := by
  obtain ⟨marker, candidates⟩ := marked
  cases marker with
  | notify => exact fold_candidates_extends host owner state candidates
  | localize =>
      cases candidates with
      | nil => simp [addMarked, markedDrafts, extended_nil]
      | cons candidate rest =>
          cases loaded : Localization.load host candidate.target.attributes with
          | error reason => simp [addMarked, markedDrafts, localizedTexts, loaded, extended_nil]
          | ok localization =>
              simp [addMarked, markedDrafts, localizedTexts, loaded, extended, settle_all_localized,
                add_localization_value, localization.texts_first]
  | notifyDataErrorInfo =>
      simp [addMarked, markedDrafts, extended, Draft.settleAll, Draft.settle, TypeUnit.addValidation,
        TypeUnit.add]

theorem fold_marked_extends (host : Host) (owner : TypeName) (state : TypeUnit × Shared)
    (marked : List (Marker × List Candidate)) :
    (Reported.fold (addMarked host owner) state marked).value =
      extended state (marked.flatMap fun group => markedDrafts host state.1.type group.1 group.2) := by
  induction marked generalizing state with
  | nil => simp [Reported.fold, extended_nil]
  | cons group rest ih =>
      rw [Reported.fold, Reported.value_bind, ih, add_marked_extends, extended_append]
      rfl

theorem generate_type_settles (options : Options) (host : Host) (shared : Shared)
    (group : TypeName × List Admitted) :
    (generateType options host shared group.1 group.2).value =
      match planned? host group with
      | none => (none, shared)
      | some (type, drafts) =>
          (some ⟨options.header host, type, (Draft.settleAll shared drafts).1⟩,
            (Draft.settleAll shared drafts).2) := by
  cases known : host.type? group.1 with
  | none => simp [generateType, planned?, known]
  | some type =>
      have marked : (Reported.fold (addMarked host group.1)
          (TypeUnit.start (options.header host) type, shared) (FirstSeen.gather group.2)).value =
          (⟨options.header host, type, (Draft.settleAll shared (memberDrafts host type group.2)).1⟩,
            (Draft.settleAll shared (memberDrafts host type group.2)).2) := by
        simpa [extended, TypeUnit.start, memberDrafts] using fold_marked_extends host group.1
          (TypeUnit.start (options.header host) type, shared) (FirstSeen.gather group.2)
      simp only [generateType, known, Reported.value_bind, marked, planned?, Option.bind_some]
      cases drafts : memberDrafts host type group.2 with
      | nil => simp [Draft.settleAll]
      | cons draft rest => simp [Draft.settleAll]

theorem fold_types_settles (options : Options) (host : Host) (state : List TypeUnit × Shared)
    (groups : List (TypeName × List Admitted)) :
    (Reported.fold (addType options host) state groups).value =
      (state.1 ++ (Draft.settleTypes (options.header host) state.2 (groups.filterMap (planned? host))).1,
        (Draft.settleTypes (options.header host) state.2 (groups.filterMap (planned? host))).2) := by
  induction groups generalizing state with
  | nil => simp [Reported.fold, Draft.settleTypes]
  | cons group rest ih =>
      rw [Reported.fold, Reported.value_bind, ih, addType, Reported.value_map, generate_type_settles]
      cases place : planned? host group with
      | none => simp [place]
      | some entry => simp [place, Draft.settleTypes]

-- The units of types and what they share, for admitted candidates.
def written (options : Options) (host : Host) (candidates : List (TypeName × Admitted)) :
    List TypeUnit × Shared :=
  Draft.settleTypes (options.header host) (Shared.empty options.cached) (plan host candidates)

theorem generate_settles (options : Options) (host : Host) (candidates : List (TypeName × Admitted)) :
    (generate options host candidates).value =
      Output.assemble (options.header host) (written options host candidates).1
        (written options host candidates).2 := by
  rw [generate, Reported.value_bind, fold_types_settles]
  simp [written, plan]

theorem written_complete (options : Options) (host : Host)
    (candidates : List (TypeName × Admitted)) :
    List.Forall₂ (UnitSettles (options.header host) PropertySource.Complete) (plan host candidates)
      (written options host candidates).1 :=
  Draft.settle_types_complete _ _ _

theorem written_lines (options : Options) (host : Host) (candidates : List (TypeName × Admitted))
    (unit : TypeUnit) (inside : unit ∈ (written options host candidates).1) :
    unit.sourceLines.map SourceLine.line = unit.lines := by
  obtain ⟨entry, _, settled⟩ :=
    unit_settled _ _ _ _ (written_complete options host candidates) unit inside
  exact TypeUnit.unit_lines_text unit (blocks_complete _ _ settled.blocks)

theorem plan_nonempty (host : Host) (candidates : List (TypeName × Admitted))
    (entry : DeclaredType × List Draft) (inside : entry ∈ plan host candidates) : entry.2 ≠ [] := by
  obtain ⟨group, _, place⟩ := List.mem_filterMap.mp inside
  exact ((planned_iff host group entry).mp place).2.2

theorem written_nonempty (options : Options) (host : Host) (candidates : List (TypeName × Admitted))
    (unit : TypeUnit) (inside : unit ∈ (written options host candidates).1) : unit.blocks ≠ [] := by
  obtain ⟨entry, planned, settled⟩ :=
    unit_settled _ _ _ _ (written_complete options host candidates) unit inside
  intro none
  have sizes := settled.blocks.length_eq
  rw [none] at sizes
  exact plan_nonempty host candidates entry planned (List.length_eq_zero_iff.mp sizes)

-- A yes among the first answers comes at once or among those that follow.
theorem answers_split (flag : Cancellation) (polls count : Nat) :
    (∃ i < count + 1, flag (polls + i) = true) ↔
      flag polls = true ∨ ∃ i < count, flag (polls + 1 + i) = true := by
  constructor
  · rintro ⟨i, small, yes⟩
    cases i with
    | zero => exact .inl yes
    | succ i =>
        have place : polls + 1 + i = polls + (i + 1) := by omega
        exact .inr ⟨i, by omega, by rwa [place]⟩
  · rintro (yes | ⟨i, small, yes⟩)
    · exact ⟨0, by omega, yes⟩
    · have place : polls + (i + 1) = polls + 1 + i := by omega
      exact ⟨i + 1, by omega, by rwa [place]⟩

theorem discover_outcome (host : Host) (base : TypeName) (flag : Cancellation) (polls : Nat)
    (candidates : List Candidate) :
    (discover host base flag polls candidates).value.outcome =
      if ∃ i < candidates.length, flag (polls + i) = true then .error .cancelled
      else .ok (admitted host base candidates) := by
  induction candidates generalizing polls with
  | nil => simp [discover, admitted]
  | cons candidate rest ih =>
      rw [List.length_cons, if_congr (answers_split flag polls rest.length) rfl rfl]
      by_cases yes : flag polls = true
      · simp [discover, yes]
      · have others := ih (polls + 1)
        cases accepted : acceptance host base candidate with
        | error notice =>
            simp [discover, yes, accepted, others, admitted, Except.toOption]
        | ok marker =>
            by_cases later : ∃ i < rest.length, flag (polls + 1 + i) = true
            · rw [if_pos later] at others
              rw [if_pos (.inr later)]
              simp [discover, yes, accepted, others, Except.map]
            · rw [if_neg later] at others
              rw [if_neg (by simp [yes, later])]
              simp [discover, yes, accepted, others, admitted, Except.map, Except.toOption]

theorem run_outcome (options : Options) (host : Host) (candidates : List Candidate)
    (flag : Cancellation) :
    (run options host candidates flag).value.outcome =
      if ∃ i < candidates.length, flag i = true then .error .cancelled
      else .ok (generate options host (admitted host options.observableBase candidates)).value := by
  have found := discover_outcome host options.observableBase flag 0 candidates
  simp only [Nat.zero_add] at found
  rw [run, Reported.value_bind]
  by_cases yes : ∃ i < candidates.length, flag i = true
  · rw [if_pos yes] at found ⊢
    simp [found]
  · rw [if_neg yes] at found ⊢
    simp [found]

theorem run_completes (options : Options) (host : Host) (candidates : List Candidate)
    (flag : Cancellation) (never : ∀ i < candidates.length, flag i = false) :
    (run options host candidates flag).value.outcome =
      .ok (generate options host (admitted host options.observableBase candidates)).value := by
  rw [run_outcome]
  apply if_neg
  rintro ⟨i, small, yes⟩
  simp [never i small] at yes

theorem written_properties (options : Options) (host : Host)
    (candidates : List (TypeName × Admitted)) :
    (written options host candidates).1.flatMap TypeUnit.properties
      = Draft.allProperties (plan host candidates) :=
  units_properties _ _ _ _ (written_complete options host candidates)

theorem written_manager (options : Options) (host : Host) (candidates : List (TypeName × Admitted)) :
    (written options host candidates).2.managerUsed
      = ((written options host candidates).1.flatMap TypeUnit.properties).any Property.usesManager := by
  rw [written_properties, written, Draft.settle_types_manager]
  rfl

-- A cache in use has tokens exactly if there are properties; one that is not in use has none.
theorem written_tokens_none (options : Options) (host : Host)
    (candidates : List (TypeName × Admitted)) :
    (written options host candidates).2.cache.tokens = [] ↔
      options.cached = false ∨
        (written options host candidates).1.flatMap TypeUnit.properties = [] := by
  rw [written_properties, ← mentions_none]
  cases cached : options.cached with
  | false =>
      have kept := (Draft.settle_types_spelled (options.header host) (Shared.empty options.cached)
        (plan host candidates) cached).2
      have none : (written options host candidates).2.cache.tokens = [] := by
        rw [written, kept]
        rfl
      simp [none]
  | true =>
      have registered := Draft.settle_types_cache (options.header host) (Shared.empty options.cached)
        (plan host candidates) cached
      have names := TokenCache.register_all_names (TokenCache.empty options.cached)
        (Draft.allMentions (plan host candidates)) [] rfl
      have none : (written options host candidates).2.cache.names = [] ↔
          Draft.allMentions (plan host candidates) = [] := by
        rw [written, registered, Shared.empty, names, FirstSeen.erase_dups_none, List.nil_append,
          List.map_eq_nil_iff]
      rw [TokenCache.names, List.map_eq_nil_iff] at none
      simp [none]

theorem finish_written (options : Options) (host : Host) (candidates : List (TypeName × Admitted)) :
    (written options host candidates).1.filterMap TypeUnit.finish? =
      (written options host candidates).1.map TypeUnit.source := by
  rw [← List.filterMap_eq_map]
  apply List.filterMap_congr
  intro unit inside
  rw [TypeUnit.finish_source, if_neg (written_nonempty options host candidates unit inside)]
  rfl

-- The units of a run in order, the types' written out from their lines.
theorem run_units (options : Options) (host : Host) (candidates : List Candidate) (flag : Cancellation)
    (output : Output) (ran : (run options host candidates flag).value.outcome = .ok output) :
    let header := options.header host
    let made := written options host (admitted host options.observableBase candidates)
    output.units = MarkerUnits.all ++ made.1.map TypeUnit.source
      ++ (made.2.cache.unit? header).toList ++ (CommandManager.unit? made.2.managerUsed header).toList := by
  rw [run_outcome] at ran
  split at ran
  · cases ran
  · rw [← Except.ok.inj ran, generate_settles, Output.assemble, finish_written]

-- A type with one observable field, which also notifies of a name that needs an escape.
def sampleType : DeclaredType :=
  { space := some "App"
    heads := [⟨"class", "Main", []⟩]
    base := some Options.default.observableBase
    interfaces := []
    members := [.field sampleField]
    attributes := [] }
where
  sampleField : FieldMember :=
    { name := "_name"
      type := ⟨"string", false⟩
      isReadonly := false
      attributes := [⟨AttributeClass.notify, [], []⟩, ⟨AttributeClass.alsoNotify, [.text "@class"], []⟩]
      doc := none }

def sampleHost : Host := (Compilation.empty.declare sampleType).host

def sampleCandidates : List Candidate :=
  [.ofTarget AttributeClass.notify sampleType.name (.field sampleType.sampleField)]

end Pass

end ObservableGen
