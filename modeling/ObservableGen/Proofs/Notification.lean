import ObservableGen.Proofs.Plan
set_option autoImplicit false

/-!
Notification through shared event arguments, over a whole pass. Main statement: the sites in the text
of the type units and the declarations in the text of the shared unit refer to each other exactly.
-/
namespace ObservableGen

open Source

namespace Source

-- The field of a token for the site's name is what stands there.
def Site.Resolved (tokens : List Token) (site : Site) : Prop :=
  ∃ token ∈ tokens, site.argument = token.access ∧ token.name = site.name

theorem TokenCache.fields_nodup (cache : TokenCache) : (cache.tokens.map Token.field).Nodup := by
  have back : Function.Injective fun ident : String => ident ++ "PropertyChanged" :=
    fun _ _ same => (String.append_left_inj _).mp same
  have fields := cache.idents_nodup.map back
  rwa [List.map_map] at fields

namespace PropertySource

theorem tokened_names (tokens : List Token) (source : PropertySource)
    (tokened : source.Tokened tokens) : source.sites.map Site.name =
      (source.property.name :: source.property.alsoNotify).map Identifier.plain := by
  obtain ⟨ident, own, _⟩ := tokened.own
  have further := List.map_fst_zip (Nat.le_of_eq tokened.further.length_eq)
  have raised : source.raisedSites.map Site.name = source.property.alsoNotify.map Identifier.plain :=
    calc source.raisedSites.map Site.name
        = ((source.property.alsoNotify.zip source.raised).map Prod.fst).map Identifier.plain := by
          simp [raisedSites, Function.comp_def]
      _ = source.property.alsoNotify.map Identifier.plain := by rw [further]
  simp [sites, ownSite?, own, raised]

theorem tokened_resolved (tokens : List Token) (source : PropertySource)
    (tokened : source.Tokened tokens) (site : Site) (inside : site ∈ source.sites) :
    site.Resolved tokens := by
  rcases List.mem_append.mp inside with own | raised
  · obtain ⟨ident, token, present⟩ := tokened.own
    have only : site = ⟨Identifier.plain source.property.name, TokenCache.reference ident⟩ := by
      simpa [ownSite?, token] using own
    rw [only]
    exact ⟨_, present, Token.reference_text ⟨_, ident⟩, rfl⟩
  · obtain ⟨pair, listed, rfl⟩ := List.mem_map.mp raised
    obtain ⟨ident, token, present⟩ := (List.forall₂_iff_zip.mp tokened.further).2 listed
    exact ⟨_, present, by rw [token]; exact Token.reference_text ⟨_, ident⟩, rfl⟩

end PropertySource

theorem settles_tokened (tokens : List Token) (draft : Draft) (block : Block)
    (settled : Settles (PropertySource.Tokened tokens) draft block) :
    block.sites.map Site.name = draft.mentions.map Identifier.plain ∧
      ∀ site ∈ block.sites, site.Resolved tokens := by
  cases settled with
  | property source tokened =>
      exact ⟨PropertySource.tokened_names tokens source tokened,
        PropertySource.tokened_resolved tokens source tokened⟩
  | localized text => exact ⟨rfl, by simp [Block.sites]⟩
  | validation => exact ⟨rfl, by simp [Block.sites]⟩

theorem blocks_tokened (tokens : List Token) (drafts : List Draft) (blocks : List Block)
    (settled : List.Forall₂ (Settles (PropertySource.Tokened tokens)) drafts blocks) :
    (blocks.flatMap Block.sites).map Site.name = (drafts.flatMap Draft.mentions).map Identifier.plain ∧
      ∀ site ∈ blocks.flatMap Block.sites, site.Resolved tokens := by
  induction settled with
  | nil => simp
  | cons head tail ih =>
      obtain ⟨names, resolved⟩ := settles_tokened tokens _ _ head
      obtain ⟨allNames, allResolved⟩ := ih
      refine ⟨by simp [names, allNames], ?_⟩
      rw [List.flatMap_cons]
      exact List.forall_mem_append.mpr ⟨resolved, allResolved⟩

theorem units_tokened (header : UnitHeader) (tokens : List Token) (types : List (DeclaredType × List Draft))
    (units : List TypeUnit)
    (settled : List.Forall₂ (UnitSettles header (PropertySource.Tokened tokens)) types units) :
    (units.flatMap TypeUnit.sites).map Site.name = (Draft.allMentions types).map Identifier.plain ∧
      ∀ site ∈ units.flatMap TypeUnit.sites, site.Resolved tokens := by
  induction settled with
  | nil => simp [Draft.allMentions]
  | @cons entry unit rest units head tail ih =>
      obtain ⟨names, resolved⟩ := blocks_tokened tokens _ _ head.blocks
      obtain ⟨allNames, allResolved⟩ := ih
      rw [← TypeUnit.unit_sites_blocks] at names resolved
      refine ⟨?_, ?_⟩
      · rw [List.flatMap_cons, List.map_append, names, allNames]
        simp [Draft.allMentions]
      · rw [List.flatMap_cons]
        exact List.forall_mem_append.mpr ⟨resolved, allResolved⟩

-- The sites written so far and the cache that they were settled with. Later registrations only add
-- tokens for names that no site has.
structure Closed (sites : List Site) (cache : TokenCache) : Prop where
  order : cache.names = (sites.map Site.name).eraseDups
  resolved : ∀ site ∈ sites, site.Resolved cache.tokens

theorem closed_declared_once (sites : List Site) (cache : TokenCache) (closed : Closed sites cache)
    (site : Site) (inside : site ∈ sites) :
    ∃ token ∈ cache.tokens, site.argument = token.access ∧ token.name = site.name ∧
      (cache.tokens.map Token.field).count token.field = 1 := by
  obtain ⟨token, present, argument, named⟩ := closed.resolved site inside
  have listed : token.field ∈ cache.tokens.map Token.field := List.mem_map_of_mem present
  exact ⟨token, present, argument, named, List.count_eq_one_of_mem cache.fields_nodup listed⟩

theorem closed_referenced (sites : List Site) (cache : TokenCache) (closed : Closed sites cache)
    (token : Token) (present : token ∈ cache.tokens) :
    ∃ site ∈ sites, site.argument = token.access := by
  have named : token.name ∈ sites.map Site.name := by
    rw [← List.mem_eraseDups, ← closed.order]
    exact List.mem_map.mpr ⟨token, present, rfl⟩
  obtain ⟨site, inside, same⟩ := List.mem_map.mp named
  obtain ⟨other, listed, argument, name⟩ := closed.resolved site inside
  have only := TokenCache.token_of_name cache _ _ listed present (name.trans same)
  exact ⟨site, inside, by rw [argument, only]⟩

end Source

namespace Pass

theorem written_tokened (options : Options) (host : Host) (candidates : List (TypeName × Admitted))
    (cached : options.cached = true) :
    List.Forall₂ (UnitSettles (options.header host)
      (PropertySource.Tokened (written options host candidates).2.cache.tokens)) (plan host candidates)
      (written options host candidates).1 :=
  Draft.settle_types_tokened _ _ _ _ cached (List.Subset.refl _)

theorem written_closed (options : Options) (host : Host) (candidates : List (TypeName × Admitted))
    (cached : options.cached = true) :
    Closed ((written options host candidates).1.flatMap TypeUnit.sites)
      (written options host candidates).2.cache := by
  have registered := Draft.settle_types_cache (options.header host) (Shared.empty options.cached)
    (plan host candidates) cached
  obtain ⟨names, resolved⟩ := units_tokened _ _ _ _ (written_tokened options host candidates cached)
  refine ⟨?_, resolved⟩
  · rw [names, written, registered]
    exact TokenCache.register_all_names (TokenCache.empty options.cached) _ [] rfl

theorem notification_sites_declared (options : Options) (host : Host) (candidates : List Candidate)
    (flag : Cancellation) (output : Output) (cached : options.cached = true)
    (ran : (run options host candidates flag).value.outcome = .ok output) :
    let header := options.header host
    let made := written options host (admitted host options.observableBase candidates)
    let tokens := made.2.cache.tokens
    let sites := made.1.flatMap TypeUnit.sites
    output.units = MarkerUnits.all ++ made.1.map TypeUnit.source
      ++ (tokenFile? header tokens).toList ++ (CommandManager.unit? made.2.managerUsed header).toList ∧
    (∀ unit ∈ made.1, unit.sourceLines.map SourceLine.line = unit.lines ∧
      ∀ source, .property source ∈ unit.blocks → source.sites.map Site.name =
        (source.property.name :: source.property.alsoNotify).map Identifier.plain) ∧
    (∀ site ∈ sites, ∃ token ∈ tokens, site.argument = token.access ∧ token.name = site.name ∧
      (tokens.map Token.field).count token.field = 1) ∧
    (∀ token ∈ tokens, ∃ site ∈ sites, site.argument = token.access) ∧
    FirstSeen.InOrder (tokens.map Token.name) (sites.map Site.name) ∧
    (tokenFile? header tokens = none ↔ made.1.flatMap TypeUnit.properties = []) := by
  intro header made tokens sites
  have settled := written_tokened options host (admitted host options.observableBase candidates) cached
  have closed := written_closed options host (admitted host options.observableBase candidates) cached
  have names (unit : TypeUnit) (inside : unit ∈ made.1) (source : PropertySource)
      (block : .property source ∈ unit.blocks) : source.sites.map Site.name =
        (source.property.name :: source.property.alsoNotify).map Identifier.plain := by
    obtain ⟨entry, _, known⟩ := unit_settled _ _ _ _ settled unit inside
    exact PropertySource.tokened_names _ source (source_settled _ _ _ known.blocks source block)
  refine ⟨?_, fun unit inside => ⟨written_lines _ _ _ unit inside, names unit inside⟩,
    closed_declared_once sites made.2.cache closed, closed_referenced sites made.2.cache closed, ?_, ?_⟩
  · rw [← token_file]
    exact run_units options host candidates flag output ran
  · have order : tokens.map Token.name = (sites.map Site.name).eraseDups := closed.order
    rw [order]
    exact FirstSeen.in_order_erase_dups _
  · have absent : tokenFile? header tokens = none ↔ tokens = [] := by
      by_cases none : tokens = [] <;> simp [tokenFile?, none]
    rw [absent, written_tokens_none]
    simp [cached, made]

theorem sample_sites_declared :
    let header := Options.default.header sampleHost
    let made := written Options.default sampleHost
      (admitted sampleHost Options.default.observableBase sampleCandidates)
    let sites := made.1.flatMap TypeUnit.sites
    ∃ output, Options.default.cached = true ∧
      (run Options.default sampleHost sampleCandidates fun _ => false).value.outcome = .ok output ∧
      sites.map Site.argument = ["global::Minimal.Mvvm.EventArgsCache.NamePropertyChanged",
        "global::Minimal.Mvvm.EventArgsCache.classPropertyChanged"] ∧
      (∃ unit ∈ output.units, tokenFile? header [⟨"Name", "Name"⟩, ⟨"class", "class"⟩] = some unit) ∧
      Token.declared ⟨"class", "class"⟩ =
        "internal static readonly global::System.ComponentModel.PropertyChangedEventArgs classPropertyChanged"
          ++ " = new global::System.ComponentModel.PropertyChangedEventArgs(\"class\");" ∧
      ∀ site ∈ sites, ∃ token ∈ made.2.cache.tokens, site.argument = token.access ∧ token.name = site.name := by
  intro header made sites
  have ran := run_completes Options.default sampleHost sampleCandidates (fun _ => false)
    fun _ _ => rfl
  obtain ⟨units, _, declared, fields, _, _⟩ := notification_sites_declared Options.default sampleHost
    sampleCandidates (fun _ => false) _ rfl ran
  have tokens : made.2.cache.tokens = [⟨"Name", "Name"⟩, ⟨"class", "class"⟩] := by decide +kernel
  have arguments : sites.map Site.argument = ["global::Minimal.Mvvm.EventArgsCache.NamePropertyChanged",
      "global::Minimal.Mvvm.EventArgsCache.classPropertyChanged"] := by decide +kernel
  refine ⟨_, rfl, ran, arguments, ?_, ?_, fun site inside => ?_⟩
  · obtain ⟨unit, file⟩ : ∃ unit, tokenFile? header [⟨"Name", "Name"⟩, ⟨"class", "class"⟩] = some unit :=
      ⟨_, rfl⟩
    refine ⟨unit, ?_, file⟩
    rw [← tokens] at file
    rw [units]
    exact List.mem_append_left _ (List.mem_append_right _ (Option.mem_toList.mpr file))
  · decide +kernel
  · obtain ⟨token, present, argument, named, _⟩ := declared site inside
    exact ⟨token, present, argument, named⟩

end Pass

end ObservableGen
