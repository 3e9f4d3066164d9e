import Mathlib.Data.List.Forall2
import ObservableGen.Proofs.Call
import ObservableGen.Proofs.Registration
set_option autoImplicit false

/-!
Members of a unit before and after their notifications are settled. Main statements: settling only
registers the names that are mentioned, in order, and every argument settled on the way is the token
of its name in any later state of the cache.
-/
namespace ObservableGen.Source

-- A member of a unit before its notifications are settled.
inductive Draft where
  | property (property : Property)
  | localized (text : LocalizedText)
  | validation

namespace Draft

def property? : Draft → Option Property
  | property decided => some decided
  | localized _ | validation => none

-- The names notified of, in the order in which they are registered.
def mentions : Draft → List String
  | property decided => decided.name :: decided.alsoNotify
  | localized _ | validation => []

def settle (shared : Shared) : Draft → Block × Shared
  | property decided =>
      let settled := shared.cache.settle decided
      (.property settled.1, ⟨settled.2, shared.managerUsed || decided.usesManager⟩)
  | localized text => (.localized text, shared)
  | validation => (.validation, shared)

def settleAll (shared : Shared) : List Draft → List Block × Shared
  | [] => ([], shared)
  | draft :: rest =>
      let first := draft.settle shared
      let others := settleAll first.2 rest
      (first.1 :: others.1, others.2)

def settleTypes (header : UnitHeader) (shared : Shared) :
    List (DeclaredType × List Draft) → List TypeUnit × Shared
  | [] => ([], shared)
  | (type, drafts) :: rest =>
      let first := settleAll shared drafts
      let others := settleTypes header first.2 rest
      (⟨header, type, first.1⟩ :: others.1, others.2)

def allMentions (types : List (DeclaredType × List Draft)) : List String :=
  types.flatMap fun entry => entry.2.flatMap mentions

def allProperties (types : List (DeclaredType × List Draft)) : List Property :=
  types.flatMap fun entry => entry.2.filterMap property?

end Draft

-- Blocks that come of drafts, their property sources being as `holds` says.
inductive Settles (holds : PropertySource → Prop) : Draft → Block → Prop
  | property (source : PropertySource) (settled : holds source) :
      Settles holds (.property source.property) (.property source)
  | localized (text : LocalizedText) : Settles holds (.localized text) (.localized text)
  | validation : Settles holds .validation .validation

structure UnitSettles (header : UnitHeader) (holds : PropertySource → Prop)
    (entry : DeclaredType × List Draft) (unit : TypeUnit) : Prop where
  header_eq : unit.header = header
  type_eq : unit.type = entry.1
  blocks : List.Forall₂ (Settles holds) entry.2 unit.blocks

theorem related_of_mem {α β : Type} (related : α → β → Prop) (left : List α) (right : List β)
    (pairs : List.Forall₂ related left right) (a : α) (inside : a ∈ left) : ∃ b ∈ right, related a b := by
  induction pairs with
  | nil => simp at inside
  | @cons first other rest others head tail ih =>
      rcases List.mem_cons.mp inside with rfl | later
      · exact ⟨other, List.mem_cons_self, head⟩
      · obtain ⟨found, place, known⟩ := ih later
        exact ⟨found, List.mem_cons_of_mem _ place, known⟩

theorem source_settled (holds : PropertySource → Prop) (drafts : List Draft) (blocks : List Block)
    (settled : List.Forall₂ (Settles holds) drafts blocks) (source : PropertySource)
    (inside : .property source ∈ blocks) : holds source := by
  obtain ⟨draft, _, known⟩ := related_of_mem (flip (Settles holds)) blocks drafts settled.flip _ inside
  cases known with
  | property _ holds => exact holds

theorem unit_settled (header : UnitHeader) (holds : PropertySource → Prop)
    (types : List (DeclaredType × List Draft)) (units : List TypeUnit)
    (settled : List.Forall₂ (UnitSettles header holds) types units) (unit : TypeUnit)
    (inside : unit ∈ units) : ∃ entry ∈ types, UnitSettles header holds entry unit :=
  related_of_mem (flip (UnitSettles header holds)) units types settled.flip unit inside

theorem blocks_complete (drafts : List Draft) (blocks : List Block)
    (settled : List.Forall₂ (Settles PropertySource.Complete) drafts blocks) :
    ∀ block ∈ blocks, block.Complete := by
  induction settled with
  | nil => simp
  | cons head tail ih =>
      refine List.forall_mem_cons.mpr ⟨?_, ih⟩
      cases head with
      | property source complete => exact complete
      | localized text => trivial
      | validation => trivial

def Block.property? : Block → Option Property
  | property source => some source.property
  | localized _ | validation => none

def TypeUnit.properties (unit : TypeUnit) : List Property :=
  unit.blocks.filterMap Block.property?

theorem blocks_properties (holds : PropertySource → Prop) (drafts : List Draft) (blocks : List Block)
    (settled : List.Forall₂ (Settles holds) drafts blocks) :
    blocks.filterMap Block.property? = drafts.filterMap Draft.property? := by
  induction settled with
  | nil => rfl
  | cons head tail ih =>
      cases head <;> simp [List.filterMap_cons, Block.property?, Draft.property?, ih]

theorem units_properties (header : UnitHeader) (holds : PropertySource → Prop)
    (types : List (DeclaredType × List Draft)) (units : List TypeUnit)
    (settled : List.Forall₂ (UnitSettles header holds) types units) :
    units.flatMap TypeUnit.properties = Draft.allProperties types := by
  induction settled with
  | nil => rfl
  | cons head tail ih =>
      have first := blocks_properties holds _ _ head.blocks
      rw [List.flatMap_cons, ih, TypeUnit.properties, first]
      rfl

-- Only properties mention names, and each mentions its own.
theorem mentions_none (types : List (DeclaredType × List Draft)) :
    Draft.allMentions types = [] ↔ Draft.allProperties types = [] := by
  have silent (draft : Draft) : draft.mentions = [] ↔ draft.property? = none := by
    cases draft <;> simp [Draft.mentions, Draft.property?]
  simp [Draft.allMentions, Draft.allProperties, silent]

namespace PropertySource

-- Each argument is the token of its name.
structure Tokened (tokens : List Token) (source : PropertySource) : Prop where
  own : ∃ ident, source.ownToken = some ident ∧
    ⟨Identifier.plain source.property.name, ident⟩ ∈ tokens
  further : List.Forall₂ (fun name argument => ∃ ident, argument = .token ident ∧
    ⟨Identifier.plain name, ident⟩ ∈ tokens) source.property.alsoNotify source.raised

-- Each argument is its name itself, and the property's own is left to the compiler.
structure Spelled (source : PropertySource) : Prop where
  own : source.ownToken = none
  further : source.raised = source.property.alsoNotify.map fun name => .literal (Identifier.plain name)

end PropertySource

namespace TokenCache

theorem argument_active (cache : TokenCache) (name : String) (active : cache.active = true) :
    cache.argument name = (.token (cache.register name).1, (cache.register name).2) := by
  rw [argument, if_pos active]

theorem register_all_active (cache : TokenCache) (names : List String) :
    (cache.registerAll names).active = cache.active := by
  induction names generalizing cache with
  | nil => rfl
  | cons name rest ih => exact (ih _).trans (register_active cache name)

theorem arguments_cache (cache : TokenCache) (names : List String) (active : cache.active = true) :
    (cache.arguments names).2 = cache.registerAll names := by
  induction names generalizing cache with
  | nil => rfl
  | cons name rest ih =>
      rw [arguments, argument_active cache name active]
      exact ih _ ((register_active cache name).trans active)

theorem arguments_tokens (cache : TokenCache) (names : List String) (tokens : List Token)
    (active : cache.active = true) (kept : (cache.registerAll names).tokens ⊆ tokens) :
    List.Forall₂ (fun name argument => ∃ ident, argument = .token ident ∧
      ⟨Identifier.plain name, ident⟩ ∈ tokens) names (cache.arguments names).1 := by
  induction names generalizing cache with
  | nil => exact .nil
  | cons name rest ih =>
      rw [arguments, argument_active cache name active]
      have present := (register_all_extends _ rest).subset (register_present cache name)
      exact .cons ⟨_, rfl, kept present⟩ (ih _ ((register_active cache name).trans active) kept)

theorem arguments_literals (cache : TokenCache) (names : List String)
    (inactive : cache.active = false) :
    cache.arguments names = (names.map fun name => .literal (Identifier.plain name), cache) := by
  induction names with
  | nil => rfl
  | cons name rest ih => simp [arguments, argument_inactive cache name inactive, ih]

theorem arguments_length (cache : TokenCache) (names : List String) :
    (cache.arguments names).1.length = names.length := by
  induction names generalizing cache with
  | nil => rfl
  | cons name rest ih => exact congrArg Nat.succ (ih _)

theorem settle_complete (cache : TokenCache) (property : Property) :
    (cache.settle property).1.Complete :=
  arguments_length _ property.alsoNotify

theorem settle_cache (cache : TokenCache) (property : Property) (active : cache.active = true) :
    (cache.settle property).2 = cache.registerAll (property.name :: property.alsoNotify) := by
  rw [settle, if_pos active]
  exact arguments_cache _ _ ((register_active cache property.name).trans active)

theorem settle_tokened (cache : TokenCache) (property : Property) (tokens : List Token)
    (active : cache.active = true)
    (kept : (cache.registerAll (property.name :: property.alsoNotify)).tokens ⊆ tokens) :
    (cache.settle property).1.Tokened tokens := by
  have present := (register_all_extends _ property.alsoNotify).subset
    (register_present cache property.name)
  rw [settle, if_pos active]
  exact ⟨⟨_, rfl, kept present⟩,
    arguments_tokens _ _ tokens ((register_active cache property.name).trans active) kept⟩

theorem settle_inactive (cache : TokenCache) (property : Property) (inactive : cache.active = false) :
    (cache.settle property).1.Spelled ∧ (cache.settle property).2 = cache := by
  have still : cache.active ≠ true := by simp [inactive]
  rw [settle, if_neg still, arguments_literals cache _ inactive]
  exact ⟨⟨rfl, rfl⟩, rfl⟩

end TokenCache

namespace Draft

theorem settle_all_cache (shared : Shared) (drafts : List Draft)
    (active : shared.cache.active = true) :
    (settleAll shared drafts).2.cache = shared.cache.registerAll (drafts.flatMap mentions) := by
  induction drafts generalizing shared with
  | nil => rfl
  | cons draft rest ih =>
      cases draft with
      | property property =>
          have first := TokenCache.settle_cache shared.cache property active
          have others := ih ⟨(shared.cache.settle property).2, shared.managerUsed || property.usesManager⟩
            (by rw [first, TokenCache.register_all_active, active])
          rw [settleAll, settle, others, first]
          simp [mentions, TokenCache.registerAll]
      | localized text => exact ih shared active
      | validation => exact ih shared active

theorem settle_all_manager (shared : Shared) (drafts : List Draft) :
    (settleAll shared drafts).2.managerUsed
      = (shared.managerUsed || (drafts.filterMap property?).any Property.usesManager) := by
  induction drafts generalizing shared with
  | nil => simp [settleAll]
  | cons draft rest ih =>
      cases draft with
      | property property => simp [settleAll, settle, ih, property?, Bool.or_assoc]
      | localized text => simpa [settleAll, settle, property?] using ih shared
      | validation => simpa [settleAll, settle, property?] using ih shared

-- The tokens are those of any later state of the cache.
theorem settle_all_tokened (shared : Shared) (drafts : List Draft) (tokens : List Token)
    (active : shared.cache.active = true) (kept : (settleAll shared drafts).2.cache.tokens ⊆ tokens) :
    List.Forall₂ (Settles (PropertySource.Tokened tokens)) drafts (settleAll shared drafts).1 := by
  induction drafts generalizing shared with
  | nil => exact .nil
  | cons draft rest ih =>
      cases draft with
      | property property =>
          have first := TokenCache.settle_cache shared.cache property active
          have still : (shared.cache.settle property).2.active = true := by
            rw [first, TokenCache.register_all_active, active]
          have further := settle_all_cache
            ⟨(shared.cache.settle property).2, shared.managerUsed || property.usesManager⟩ rest still
          have between : (shared.cache.registerAll (property.name :: property.alsoNotify)).tokens ⊆ tokens := by
            intro token inside
            apply kept
            rw [settleAll, settle, further, first]
            exact (TokenCache.register_all_extends _ _).subset inside
          exact .cons (.property _ (TokenCache.settle_tokened _ _ _ active between)) (ih _ still kept)
      | localized text => exact .cons (.localized text) (ih shared active kept)
      | validation => exact .cons .validation (ih shared active kept)

-- What one settlement keeps of the cache, and what it makes of the property, holds of all of them.
theorem settle_all_keeps (holds : PropertySource → Prop) (inv : TokenCache → Prop)
    (step : ∀ cache property, inv cache →
      holds (cache.settle property).1 ∧ inv (cache.settle property).2)
    (shared : Shared) (drafts : List Draft) (start : inv shared.cache) :
    List.Forall₂ (Settles holds) drafts (settleAll shared drafts).1 ∧
      inv (settleAll shared drafts).2.cache := by
  induction drafts generalizing shared with
  | nil => exact ⟨.nil, start⟩
  | cons draft rest ih =>
      cases draft with
      | property property =>
          obtain ⟨settled, kept⟩ := step shared.cache property start
          obtain ⟨others, last⟩ := ih
            ⟨(shared.cache.settle property).2, shared.managerUsed || property.usesManager⟩ kept
          exact ⟨.cons (.property _ settled) others, last⟩
      | localized text =>
          obtain ⟨others, last⟩ := ih shared start
          exact ⟨.cons (.localized text) others, last⟩
      | validation =>
          obtain ⟨others, last⟩ := ih shared start
          exact ⟨.cons .validation others, last⟩

theorem settle_all_active (shared : Shared) (drafts : List Draft)
    (active : shared.cache.active = true) : (settleAll shared drafts).2.cache.active = true := by
  rw [settle_all_cache shared drafts active, TokenCache.register_all_active, active]

theorem settle_types_cache (header : UnitHeader) (shared : Shared)
    (types : List (DeclaredType × List Draft)) (active : shared.cache.active = true) :
    (settleTypes header shared types).2.cache = shared.cache.registerAll (allMentions types) := by
  induction types generalizing shared with
  | nil => rfl
  | cons entry rest ih =>
      have others := ih (settleAll shared entry.2).2 (settle_all_active shared entry.2 active)
      rw [settleTypes, others, settle_all_cache shared entry.2 active]
      simp [allMentions, TokenCache.registerAll]

theorem settle_types_manager (header : UnitHeader) (shared : Shared)
    (types : List (DeclaredType × List Draft)) :
    (settleTypes header shared types).2.managerUsed
      = (shared.managerUsed || (allProperties types).any Property.usesManager) := by
  induction types generalizing shared with
  | nil => simp [settleTypes, allProperties]
  | cons entry rest ih =>
      rw [settleTypes, ih, settle_all_manager]
      simp [allProperties, Bool.or_assoc]

theorem settle_types_tokened (header : UnitHeader) (shared : Shared)
    (types : List (DeclaredType × List Draft)) (tokens : List Token)
    (active : shared.cache.active = true)
    (kept : (settleTypes header shared types).2.cache.tokens ⊆ tokens) :
    List.Forall₂ (UnitSettles header (PropertySource.Tokened tokens)) types
      (settleTypes header shared types).1 := by
  induction types generalizing shared with
  | nil => exact .nil
  | cons entry rest ih =>
      have still := settle_all_active shared entry.2 active
      have between : (settleAll shared entry.2).2.cache.tokens ⊆ tokens := by
        intro token inside
        apply kept
        rw [settleTypes, settle_types_cache header _ rest still]
        exact (TokenCache.register_all_extends _ _).subset inside
      exact .cons ⟨rfl, rfl, settle_all_tokened shared entry.2 tokens active between⟩
        (ih _ still kept)

theorem settle_types_keeps (header : UnitHeader) (holds : PropertySource → Prop)
    (inv : TokenCache → Prop)
    (step : ∀ cache property, inv cache →
      holds (cache.settle property).1 ∧ inv (cache.settle property).2)
    (shared : Shared) (types : List (DeclaredType × List Draft)) (start : inv shared.cache) :
    List.Forall₂ (UnitSettles header holds) types (settleTypes header shared types).1 ∧
      inv (settleTypes header shared types).2.cache := by
  induction types generalizing shared with
  | nil => exact ⟨.nil, start⟩
  | cons entry rest ih =>
      obtain ⟨blocks, kept⟩ := settle_all_keeps holds inv step shared entry.2 start
      obtain ⟨others, last⟩ := ih (settleAll shared entry.2).2 kept
      exact ⟨.cons ⟨rfl, rfl, blocks⟩ others, last⟩

theorem settle_types_spelled (header : UnitHeader) (shared : Shared)
    (types : List (DeclaredType × List Draft)) (inactive : shared.cache.active = false) :
    List.Forall₂ (UnitSettles header PropertySource.Spelled) types (settleTypes header shared types).1 ∧
      (settleTypes header shared types).2.cache = shared.cache := by
  apply settle_types_keeps header PropertySource.Spelled (· = shared.cache) _ shared types rfl
  intro cache property same
  subst same
  exact TokenCache.settle_inactive shared.cache property inactive

theorem settle_types_complete (header : UnitHeader) (shared : Shared)
    (types : List (DeclaredType × List Draft)) :
    List.Forall₂ (UnitSettles header PropertySource.Complete) types (settleTypes header shared types).1 := by
  apply (settle_types_keeps header PropertySource.Complete (fun _ => True) _ shared types trivial).1
  exact fun cache property _ => ⟨TokenCache.settle_complete cache property, trivial⟩

end Draft

end ObservableGen.Source
