import ObservableGen.Proofs.Structure
set_option autoImplicit false

/-!
Types beside each other in one pass. Main statement: where names are their own identifiers, each type
gets the unit that it would get alone, whatever the order in which types are interleaved.
-/
namespace ObservableGen

open Source

namespace Source

def argumentOf (cached : Bool) (name : String) : NotificationArgument :=
  if cached then .token (Identifier.plain name) else .literal (Identifier.plain name)

-- A property as it is settled where every name is its own identifier.
def PropertySource.ofNames (cached : Bool) (property : Property) : PropertySource :=
  ⟨property, if cached then some (Identifier.plain property.name) else none,
    property.alsoNotify.map (argumentOf cached)⟩

def Draft.block (cached : Bool) : Draft → Block
  | property decided => .property (.ofNames cached decided)
  | localized text => .localized text
  | validation => .validation

def unitOf (header : UnitHeader) (cached : Bool) (entry : DeclaredType × List Draft) : TypeUnit :=
  ⟨header, entry.1, entry.2.map (Draft.block cached)⟩

-- With shared arguments, these names have to be their own identifiers.
def Plain (cached : Bool) (names : List String) : Prop :=
  cached = true → ∀ name ∈ names, Identifier.Fragment (Identifier.plain name)

namespace TokenCache

structure Tidy (cached : Bool) (cache : TokenCache) : Prop where
  active_eq : cache.active = cached
  idents : ∀ token ∈ cache.tokens, token.ident = token.name

theorem empty_tidy (cached : Bool) : (empty cached).Tidy cached :=
  ⟨rfl, by simp [empty]⟩

theorem tidy_idents (cached : Bool) (cache : TokenCache) (tidy : cache.Tidy cached) :
    cache.idents = cache.names :=
  List.map_congr_left tidy.idents

theorem tidy_tokens (cached : Bool) (cache : TokenCache) (tidy : cache.Tidy cached) :
    cache.tokens = cache.names.map fun name => ⟨name, name⟩ := by
  rw [names, List.map_map]
  symm
  calc cache.tokens.map ((fun name => (⟨name, name⟩ : Token)) ∘ Token.name)
      = cache.tokens.map id := List.map_congr_left fun token inside => by
          rw [Function.comp_apply, id, Token.mk.injEq]
          exact ⟨rfl, (tidy.idents token inside).symm⟩
    _ = cache.tokens := List.map_id _

theorem register_tidy (cached : Bool) (cache : TokenCache) (tidy : cache.Tidy cached) (name : String)
    (fragment : Identifier.Fragment (Identifier.plain name)) :
    (cache.register name).1 = Identifier.plain name ∧ (cache.register name).2.Tidy cached := by
  obtain ⟨token, inside, named, kept⟩ | ⟨token, named, chosen, new, _, grown⟩ := register_cases cache name
  · rw [kept]
    exact ⟨(tidy.idents token inside).trans named, tidy⟩
  · rw [named] at new
    rw [Identifier.sanitize_fragment _ fragment, tidy_idents cached cache tidy,
      free_ident_of_free _ _ new] at chosen
    rw [grown]
    refine ⟨chosen, tidy.active_eq, ?_⟩
    rw [add, List.forall_mem_append]
    exact ⟨tidy.idents, by simp [chosen, named]⟩

theorem argument_tidy (cached : Bool) (cache : TokenCache) (tidy : cache.Tidy cached) (name : String)
    (plain : Plain cached [name]) :
    (cache.argument name).1 = argumentOf cached name ∧ (cache.argument name).2.Tidy cached := by
  cases cached with
  | false =>
      rw [argument_inactive cache name tidy.active_eq]
      exact ⟨rfl, tidy⟩
  | true =>
      obtain ⟨ident, kept⟩ := register_tidy true cache tidy name (plain rfl name (List.mem_singleton_self _))
      rw [argument_active cache name tidy.active_eq, ident]
      exact ⟨rfl, kept⟩

theorem arguments_tidy (cached : Bool) (cache : TokenCache) (tidy : cache.Tidy cached)
    (names : List String) (plain : Plain cached names) :
    (cache.arguments names).1 = names.map (argumentOf cached) ∧ (cache.arguments names).2.Tidy cached := by
  induction names generalizing cache with
  | nil => exact ⟨rfl, tidy⟩
  | cons name rest ih =>
      obtain ⟨first, kept⟩ := argument_tidy cached cache tidy name
        fun active => List.forall_mem_singleton.mpr (plain active name List.mem_cons_self)
      obtain ⟨others, last⟩ := ih _ kept
        fun active other inside => plain active other (List.mem_cons_of_mem _ inside)
      exact ⟨by rw [arguments, List.map_cons, first, others], last⟩

theorem settle_tidy (cached : Bool) (cache : TokenCache) (tidy : cache.Tidy cached) (property : Property)
    (plain : Plain cached (property.name :: property.alsoNotify)) :
    (cache.settle property).1 = .ofNames cached property ∧ (cache.settle property).2.Tidy cached := by
  have further : Plain cached property.alsoNotify :=
    fun active name inside => plain active name (List.mem_cons_of_mem _ inside)
  cases cached with
  | false =>
      have still : cache.active ≠ true := by simp [tidy.active_eq]
      obtain ⟨arguments, last⟩ := arguments_tidy false cache tidy property.alsoNotify further
      rw [settle, if_neg still, arguments]
      exact ⟨rfl, last⟩
  | true =>
      obtain ⟨ident, kept⟩ := register_tidy true cache tidy property.name
        (plain rfl property.name List.mem_cons_self)
      obtain ⟨arguments, last⟩ := arguments_tidy true _ kept property.alsoNotify further
      simp only [settle, if_pos tidy.active_eq, arguments, ident]
      exact ⟨rfl, last⟩

end TokenCache

namespace Draft

theorem settle_all_tidy (cached : Bool) (shared : Shared) (tidy : shared.cache.Tidy cached)
    (drafts : List Draft) (plain : Plain cached (drafts.flatMap mentions)) :
    (settleAll shared drafts).1 = drafts.map (block cached) ∧
      (settleAll shared drafts).2.cache.Tidy cached := by
  induction drafts generalizing shared with
  | nil => exact ⟨rfl, tidy⟩
  | cons draft rest ih =>
      have later : Plain cached (rest.flatMap mentions) := by
        intro active name inside
        exact plain active name (List.mem_append_right _ inside)
      cases draft with
      | property property =>
          obtain ⟨first, kept⟩ := TokenCache.settle_tidy cached shared.cache tidy property
            fun active name inside => plain active name (List.mem_append_left _ inside)
          obtain ⟨others, last⟩ := ih
            ⟨(shared.cache.settle property).2, shared.managerUsed || property.usesManager⟩ kept later
          exact ⟨by rw [settleAll, settle, others, first]; rfl, last⟩
      | localized text =>
          obtain ⟨others, last⟩ := ih shared tidy later
          exact ⟨congrArg (Block.localized text :: ·) others, last⟩
      | validation =>
          obtain ⟨others, last⟩ := ih shared tidy later
          exact ⟨congrArg (Block.validation :: ·) others, last⟩

theorem settle_types_tidy (header : UnitHeader) (cached : Bool) (shared : Shared)
    (tidy : shared.cache.Tidy cached) (types : List (DeclaredType × List Draft))
    (plain : Plain cached (allMentions types)) :
    (settleTypes header shared types).1 = types.map (unitOf header cached) ∧
      (settleTypes header shared types).2.cache.Tidy cached := by
  induction types generalizing shared with
  | nil => exact ⟨rfl, tidy⟩
  | cons entry rest ih =>
      obtain ⟨blocks, kept⟩ := settle_all_tidy cached shared tidy entry.2
        fun active name inside => plain active name (List.mem_append_left _ inside)
      obtain ⟨others, last⟩ := ih _ kept
        fun active name inside => plain active name (List.mem_append_right _ inside)
      exact ⟨by rw [settleTypes, List.map_cons, others, blocks]; rfl, last⟩

end Draft

end Source

namespace FirstSeen

theorem erase_dups_perm {κ : Type} [DecidableEq κ] (left right : List κ)
    (same : ∀ key, key ∈ left ↔ key ∈ right) : left.eraseDups.Perm right.eraseDups := by
  rw [List.perm_ext_iff_of_nodup (nodup_erase_dups left) (nodup_erase_dups right)]
  intro key
  rw [List.mem_eraseDups, List.mem_eraseDups, same]

end FirstSeen

namespace Pass

def candidatesOf (owner : TypeName) (candidates : List Candidate) : List Candidate :=
  candidates.filter fun candidate => candidate.owner == owner

-- The unit that a type gets if its own candidates are all there are.
def unitAlone (options : Options) (host : Host) (owner : TypeName) (own : List Candidate) :
    Option SourceUnit :=
  (generateType options host (Shared.empty options.cached) owner
    (eligible host options.observableBase own)).value.1.map TypeUnit.source

theorem eligible_of_owner (host : Host) (base : TypeName) (owner : TypeName) (candidates : List Candidate) :
    eligible host base (candidatesOf owner candidates) = ofOwner owner (eligible host base candidates) := by
  rw [eligible, eligible, ofOwner, candidatesOf, List.filterMap_filter, List.filter_filterMap]
  apply List.filterMap_congr
  intro candidate _
  cases known : Marker.ofClass? candidate.marker with
  | none => simp
  | some marker =>
      by_cases fits : Eligibility.isEligible host base marker candidate = true
      · simp [fits, Option.filter]
      · simp [fits]

section Orders

variable (host : Host) (base : TypeName) (left right : List Candidate)
  (same : ∀ owner, candidatesOf owner left = candidatesOf owner right)
include same

theorem members_same (owner : TypeName) :
    ofOwner owner (eligible host base left) = ofOwner owner (eligible host base right) := by
  rw [← eligible_of_owner, same, eligible_of_owner]

theorem owners_perm :
    ((eligible host base left).map fun member => member.2.owner).eraseDups.Perm
      ((eligible host base right).map fun member => member.2.owner).eraseDups := by
  apply FirstSeen.erase_dups_perm
  intro owner
  rw [owner_listed, owner_listed, members_same host base left right same]

theorem plan_perm :
    (plan host (admitted host base left)).Perm (plan host (admitted host base right)) := by
  rw [plan_owners, plan_owners]
  simp only [members_same host base left right same]
  exact (owners_perm host base left right same).filterMap _

end Orders

-- Names that properties are notified of besides their own have to be their own identifiers.
def Spelled (options : Options) (properties : List Property) : Prop :=
  options.cached = false ∨
    ∀ property ∈ properties, ∀ name ∈ property.alsoNotify, Identifier.Fragment (Identifier.plain name)

theorem plan_plain (options : Options) (host : Host) (base : TypeName) (candidates : List Candidate)
    (spelled : Spelled options (Draft.allProperties (plan host (admitted host base candidates)))) :
    Plain options.cached (Draft.allMentions (plan host (admitted host base candidates))) := by
  intro cached name mentioned
  obtain uncached | fragments := spelled
  · rw [cached] at uncached
    cases uncached
  · obtain ⟨entry, planned, inside⟩ := List.mem_flatMap.mp mentioned
    obtain ⟨draft, drafted, listed⟩ := List.mem_flatMap.mp inside
    cases draft with
    | property property =>
        have own : property ∈ entry.2.filterMap Draft.property? :=
          List.mem_filterMap.mpr ⟨_, drafted, rfl⟩
        obtain rfl | further := List.mem_cons.mp listed
        · obtain ⟨candidate, _, accepted⟩ := plan_property host base candidates entry planned property own
          obtain ⟨identifier, _⟩ := Property.accepted_name _ _ _ _ accepted
          exact Identifier.fragment_of_word _ (Identifier.plain_word property.name identifier)
        · exact fragments property (List.mem_flatMap.mpr ⟨entry, planned, own⟩) name further
    | localized text => cases listed
    | validation => cases listed

theorem alone_planned (options : Options) (host : Host) (owner : TypeName) (candidates : List Candidate)
    (plain : ∀ entry, planned? host (owner, ofOwner owner (eligible host options.observableBase candidates))
      = some entry → Plain options.cached (entry.2.flatMap Draft.mentions)) :
    unitAlone options host owner (candidatesOf owner candidates) =
      (planned? host (owner, ofOwner owner (eligible host options.observableBase candidates))).map
        fun entry => (unitOf (options.header host) options.cached entry).source := by
  have settles := generate_type_settles options host (Shared.empty options.cached)
    (owner, ofOwner owner (eligible host options.observableBase candidates))
  rw [unitAlone, eligible_of_owner, settles]
  cases place : planned? host (owner, ofOwner owner (eligible host options.observableBase candidates)) with
  | none => rfl
  | some entry =>
      obtain ⟨blocks, _⟩ := Draft.settle_all_tidy options.cached (Shared.empty options.cached)
        (TokenCache.empty_tidy options.cached) entry.2 (plain entry place)
      simp only [blocks, Option.map_some]
      rfl

theorem written_alone (options : Options) (host : Host) (candidates : List Candidate)
    (spelled : Spelled options
      (Draft.allProperties (plan host (admitted host options.observableBase candidates)))) :
    let chosen := eligible host options.observableBase candidates
    let made := written options host (admitted host options.observableBase candidates)
    made.1.map TypeUnit.source =
        (chosen.map fun member => member.2.owner).eraseDups.filterMap
          (fun owner => unitAlone options host owner (candidatesOf owner candidates)) ∧
      made.2.cache.Tidy options.cached := by
  intro chosen made
  have plain := plan_plain options host options.observableBase candidates spelled
  obtain ⟨units, tidy⟩ := Draft.settle_types_tidy (options.header host) options.cached
    (Shared.empty options.cached) (TokenCache.empty_tidy options.cached) _ plain
  refine ⟨?_, tidy⟩
  have units : made.1 = _ := units
  rw [units, plan_owners, List.map_map, List.map_filterMap]
  apply List.filterMap_congr
  intro owner listed
  rw [alone_planned]
  · rfl
  · intro entry place cached name mentioned
    apply plain cached name
    rw [plan_owners]
    exact List.mem_flatMap.mpr ⟨entry, List.mem_filterMap.mpr ⟨owner, listed, place⟩, mentioned⟩

theorem written_names (options : Options) (host : Host) (candidates : List (TypeName × Admitted))
    (cached : options.cached = true) :
    (written options host candidates).2.cache.names =
      ((Draft.allMentions (plan host candidates)).map Identifier.plain).eraseDups := by
  have registered := Draft.settle_types_cache (options.header host) (Shared.empty options.cached)
    (plan host candidates) cached
  rw [written, registered]
  exact TokenCache.register_all_names (TokenCache.empty options.cached) _ [] rfl

theorem tokens_perm (options : Options) (host : Host) (left right : List (TypeName × Admitted))
    (plans : (plan host left).Perm (plan host right))
    (leftTidy : (written options host left).2.cache.Tidy options.cached)
    (rightTidy : (written options host right).2.cache.Tidy options.cached) :
    (written options host left).2.cache.tokens.Perm (written options host right).2.cache.tokens := by
  cases cached : options.cached with
  | false =>
      rw [(written_tokens_none options host left).mpr (.inl cached),
        (written_tokens_none options host right).mpr (.inl cached)]
  | true =>
      rw [TokenCache.tidy_tokens _ _ leftTidy, TokenCache.tidy_tokens _ _ rightTidy,
        written_names options host left cached, written_names options host right cached]
      apply List.Perm.map
      apply FirstSeen.erase_dups_perm
      intro name
      exact ((plans.flatMap_right _).map Identifier.plain).mem_iff

-- Each owner stands for the unit that its own candidates give, in the order of either run.
theorem types_independent (options : Options) (host : Host) (left right : List Candidate)
    (leftFlag rightFlag : Cancellation) (leftOutput rightOutput : Output)
    (same : ∀ owner, candidatesOf owner left = candidatesOf owner right)
    (spelled : Spelled options
      ((written options host (admitted host options.observableBase left)).1.flatMap TypeUnit.properties))
    (leftRan : (run options host left leftFlag).value.outcome = .ok leftOutput)
    (rightRan : (run options host right rightFlag).value.outcome = .ok rightOutput) :
    let header := options.header host
    let owners := fun candidates => (eligible host options.observableBase candidates).map
      fun member => member.2.owner
    let alone := fun owner => unitAlone options host owner (candidatesOf owner left)
    ∃ (leftOwners rightOwners : List TypeName) (leftCache rightCache : TokenCache)
        (manager : Option SourceUnit),
      leftOutput.units = MarkerUnits.all ++ leftOwners.filterMap alone
        ++ (leftCache.unit? header).toList ++ manager.toList ∧
      rightOutput.units = MarkerUnits.all ++ rightOwners.filterMap alone
        ++ (rightCache.unit? header).toList ++ manager.toList ∧
      FirstSeen.InOrder leftOwners (owners left) ∧ FirstSeen.InOrder rightOwners (owners right) ∧
      leftOwners.Perm rightOwners ∧
      (∀ cache ∈ [leftCache, rightCache], cache.unit? header = tokenFile? header cache.tokens) ∧
      leftCache.tokens.Perm rightCache.tokens := by
  intro header owners alone
  have plans := plan_perm host options.observableBase left right same
  rw [written_properties] at spelled
  have rightSpelled : Spelled options
      (Draft.allProperties (plan host (admitted host options.observableBase right))) := by
    apply spelled.imp_right
    intro fragments property inside
    exact fragments property ((plans.flatMap_right _).mem_iff.mpr inside)
  obtain ⟨leftAlone, leftTidy⟩ := written_alone options host left spelled
  obtain ⟨rightAlone, rightTidy⟩ := written_alone options host right rightSpelled
  simp only [← same] at rightAlone
  have leftUnits := run_units options host left leftFlag leftOutput leftRan
  have rightUnits := run_units options host right rightFlag rightOutput rightRan
  have managers : (written options host (admitted host options.observableBase right)).2.managerUsed
      = (written options host (admitted host options.observableBase left)).2.managerUsed := by
    rw [written_manager, written_manager, written_properties, written_properties]
    exact ((plans.flatMap_right _).any_eq).symm
  dsimp only at leftUnits rightUnits
  rw [leftAlone] at leftUnits
  rw [rightAlone, managers] at rightUnits
  exact ⟨_, _, _, _, _, leftUnits, rightUnits, FirstSeen.in_order_erase_dups _,
    FirstSeen.in_order_erase_dups _, owners_perm host options.observableBase left right same,
    fun cache _ => token_file cache header,
    tokens_perm options host _ _ plans leftTidy rightTidy⟩

-- Two types with one field each, taken in either order.
def neighbourType : DeclaredType := { sampleType with heads := [⟨"class", "Other", []⟩] }

def neighbours : Host := ((Compilation.empty.declare sampleType).declare neighbourType).host

def fieldOf (type : DeclaredType) : Candidate :=
  .ofTarget AttributeClass.notify type.name (.field sampleType.sampleField)

theorem neighbours_swapped (owner : TypeName) :
    candidatesOf owner [fieldOf sampleType, fieldOf neighbourType]
      = candidatesOf owner [fieldOf neighbourType, fieldOf sampleType] := by
  have apart : (fieldOf sampleType).owner ≠ (fieldOf neighbourType).owner := by decide
  by_cases first : (fieldOf sampleType).owner = owner
  · have other : (fieldOf neighbourType).owner ≠ owner := fun same => apart (first.trans same.symm)
    simp [candidatesOf, first, other]
  · simp [candidatesOf, List.filter_cons, first]

theorem neighbours_independent :
    let alone := fun owner => unitAlone Options.default neighbours owner
      (candidatesOf owner [fieldOf sampleType, fieldOf neighbourType])
    ∃ (leftOutput rightOutput : Output) (leftOwners rightOwners : List TypeName)
        (leftCache rightCache : TokenCache) (manager : Option SourceUnit),
      (run Options.default neighbours [fieldOf sampleType, fieldOf neighbourType]
        fun _ => false).value.outcome = .ok leftOutput ∧
      (run Options.default neighbours [fieldOf neighbourType, fieldOf sampleType]
        fun _ => false).value.outcome = .ok rightOutput ∧
      leftOutput.units = MarkerUnits.all ++ leftOwners.filterMap alone
        ++ (leftCache.unit? (Options.default.header neighbours)).toList ++ manager.toList ∧
      rightOutput.units = MarkerUnits.all ++ rightOwners.filterMap alone
        ++ (rightCache.unit? (Options.default.header neighbours)).toList ++ manager.toList ∧
      leftOwners.Perm rightOwners ∧ leftCache.tokens.Perm rightCache.tokens := by
  intro alone
  have names : ((written Options.default neighbours (admitted neighbours Options.default.observableBase
      [fieldOf sampleType, fieldOf neighbourType])).1.flatMap TypeUnit.properties).flatMap
        Property.alsoNotify = ["@class", "@class"] := by
    decide +kernel
  have fragment : Identifier.Fragment (Identifier.plain "@class") :=
    ⟨by decide, by decide, by decide⟩
  have spelled : Spelled Options.default ((written Options.default neighbours
      (admitted neighbours Options.default.observableBase
        [fieldOf sampleType, fieldOf neighbourType])).1.flatMap TypeUnit.properties) := by
    refine .inr fun property inside name listed => ?_
    have mentioned := List.mem_flatMap.mpr ⟨property, inside, listed⟩
    rw [names] at mentioned
    obtain rfl : name = "@class" := by simpa using mentioned
    exact fragment
  have leftRan := run_completes Options.default neighbours [fieldOf sampleType, fieldOf neighbourType]
    (fun _ => false) fun _ _ => rfl
  have rightRan := run_completes Options.default neighbours [fieldOf neighbourType, fieldOf sampleType]
    (fun _ => false) fun _ _ => rfl
  obtain ⟨leftOwners, rightOwners, leftCache, rightCache, manager, leftUnits, rightUnits, _, _, owners, _,
    tokens⟩ := types_independent _ _ _ _ _ _ _ _ neighbours_swapped spelled leftRan rightRan
  exact ⟨_, _, leftOwners, rightOwners, leftCache, rightCache, manager, leftRan, rightRan, leftUnits,
    rightUnits, owners, tokens⟩

end Pass

end ObservableGen
