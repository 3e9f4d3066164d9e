import ObservableGen.Proofs.Notification
set_option autoImplicit false

/-!
Two passes side by side, one with shared event arguments and one without. Main statement: they differ
in the calls that notify, argument by argument, and in the unit that declares the arguments.
-/
namespace ObservableGen

open Source

namespace Source

-- A token's field at one place; at the other, the literal that the line declaring the field has.
def Site.Agrees (tokens : List Token) (shared spelled : Site) : Prop :=
  ∃ token ∈ tokens, shared.name = token.name ∧ shared.argument = token.access ∧
    spelled.argument = Literal.quote token.name ∧
    token.declared = "internal static readonly global::System.ComponentModel.PropertyChangedEventArgs "
      ++ token.field ++ " = new global::System.ComponentModel.PropertyChangedEventArgs(" ++ spelled.argument
      ++ ");"

namespace SourceLine

inductive Agrees (tokens : List Token) : SourceLine → SourceLine → Prop
  | plain (line : Line) : Agrees tokens (.plain line) (.plain line)
  | set (level : Nat) (lead tail : String) (property : Property) (token : Token)
      (present : token ∈ tokens) (own : token.name = Identifier.plain property.name) :
      Agrees tokens
        (.call level lead (.set property (some ⟨token.name, token.access⟩)) tail)
        (.call level lead (.set property none) tail)
  | raise (level : Nat) (lead tail : String) (shared spelled : List Site)
      (sites : List.Forall₂ (Site.Agrees tokens) shared spelled) :
      Agrees tokens (.call level lead (.raise shared) tail) (.call level lead (.raise spelled) tail)

variable (tokens : List Token)

theorem agrees_deeper (count : Nat) (shared spelled : SourceLine)
    (agrees : Agrees tokens shared spelled) :
    Agrees tokens (shared.deeperBy count) (spelled.deeperBy count) := by
  cases agrees with
  | plain line => exact .plain _
  | set level lead tail property token present own => exact .set _ _ _ _ token present own
  | raise level lead tail shared spelled sites => exact .raise _ _ _ _ _ sites

theorem all_deeper (count : Nat) (shared spelled : List SourceLine)
    (agree : List.Forall₂ (Agrees tokens) shared spelled) :
    List.Forall₂ (Agrees tokens) (shared.map (deeperBy count)) (spelled.map (deeperBy count)) := by
  rw [List.forall₂_map_left_iff, List.forall₂_map_right_iff]
  exact agree.imp (agrees_deeper tokens count)

theorem all_plain (lines : List Line) :
    List.Forall₂ (Agrees tokens) (lines.map plain) (lines.map plain) := by
  rw [List.forall₂_map_left_iff, List.forall₂_map_right_iff, List.forall₂_same]
  exact fun line _ => .plain line

theorem agree_braced (shared spelled : List SourceLine)
    (agree : List.Forall₂ (Agrees tokens) shared spelled) :
    List.Forall₂ (Agrees tokens) (braced shared) (braced spelled) :=
  .cons (.plain _) (List.rel_append (all_deeper tokens 1 _ _ agree) (.cons (.plain _) .nil))

theorem agree_nested (scopes : List String) (shared spelled : List SourceLine)
    (agree : List.Forall₂ (Agrees tokens) shared spelled) :
    List.Forall₂ (Agrees tokens) (nested scopes shared) (nested scopes spelled) :=
  List.rel_append (List.rel_append (all_plain tokens _) (all_deeper tokens _ _ _ agree))
    (all_plain tokens _)

theorem agree_separated (shared spelled : List (List SourceLine))
    (agree : List.Forall₂ (List.Forall₂ (Agrees tokens)) shared spelled) :
    List.Forall₂ (Agrees tokens) (separated shared) (separated spelled) := by
  induction agree with
  | nil => exact .nil
  | cons head tail ih =>
      cases tail with
      | nil => exact head
      | cons next rest => exact List.rel_append head (.cons (.plain _) ih)

end SourceLine

namespace PropertySource

variable (tokens : List Token)

theorem arguments_agree (names : List String) (raised : List NotificationArgument)
    (tokened : List.Forall₂ (fun name argument => ∃ ident, argument = .token ident ∧
      ⟨Identifier.plain name, ident⟩ ∈ tokens) names raised) :
    List.Forall₂ (Site.Agrees tokens)
      ((names.zip raised).map fun pair => ⟨Identifier.plain pair.1, pair.2.text⟩)
      ((names.zip (names.map fun name => .literal (Identifier.plain name))).map
        fun pair => ⟨Identifier.plain pair.1, NotificationArgument.text pair.2⟩) := by
  induction tokened with
  | nil => exact .nil
  | cons head tail ih =>
      obtain ⟨ident, rfl, present⟩ := head
      exact .cons ⟨_, present, rfl, Token.reference_text ⟨_, ident⟩, rfl, rfl⟩ ih

theorem raise_calls_agree (shared spelled : PropertySource)
    (sites : List.Forall₂ (Site.Agrees tokens) shared.raisedSites spelled.raisedSites) :
    List.Forall₂ (SourceLine.Agrees tokens) shared.raiseCalls spelled.raiseCalls := by
  rw [raiseCalls, raiseCalls]
  generalize shared.raisedSites = left at sites
  generalize spelled.raisedSites = right at sites
  cases sites with
  | nil => exact .nil
  | cons head tail => exact .cons (.raise _ _ _ _ _ (.cons head tail)) .nil

theorem source_lines_agree (nullable : NullableMode) (shared spelled : PropertySource)
    (same : shared.property = spelled.property) (tokened : shared.Tokened tokens)
    (literal : spelled.Spelled) :
    List.Forall₂ (SourceLine.Agrees tokens) (shared.sourceLines nullable)
      (spelled.sourceLines nullable) := by
  obtain ⟨ident, own, present⟩ := tokened.own
  have set (lead tail : String) :
      List.Forall₂ (SourceLine.Agrees tokens) (shared.setCalls lead tail) (spelled.setCalls lead tail) := by
    have argument := Token.reference_text ⟨Identifier.plain spelled.property.name, ident⟩
    rw [setCalls, setCalls, ownSite?, ownSite?, own, literal.own, same, Option.map_some, argument]
    exact .cons (.set _ _ _ _ ⟨_, ident⟩ (same ▸ present) rfl) .nil
  have further := arguments_agree tokens _ _ tokened.further
  rw [same, ← literal.further] at further
  have raised : List.Forall₂ (SourceLine.Agrees tokens) shared.raiseCalls spelled.raiseCalls := by
    apply raise_calls_agree
    rwa [raisedSites, raisedSites, same]
  have setter : List.Forall₂ (SourceLine.Agrees tokens) shared.setterSource spelled.setterSource := by
    rw [setterSource, setterSource, same]
    by_cases effects : spelled.property.hasSetEffects = true
    · rw [if_pos effects, if_pos effects]
      have changed := List.rel_append (SourceLine.all_plain tokens (managerLines spelled.property)) raised
      exact .cons (.plain _) (SourceLine.agree_braced tokens _ _ (List.rel_append
        (List.rel_append (SourceLine.all_plain tokens _) (set "if (" ")"))
        (SourceLine.agree_braced tokens _ _ changed)))
    · rw [if_neg effects, if_neg effects]
      exact set _ _
  rw [sourceLines, sourceLines, same]
  exact List.rel_append (List.rel_append (SourceLine.all_plain tokens _)
    (SourceLine.agree_braced tokens _ _ (.cons (.plain _) setter))) (SourceLine.all_plain tokens _)

end PropertySource

theorem block_agrees (tokens : List Token) (nullable : NullableMode) (draft : Draft)
    (shared spelled : Block) (tokened : Settles (PropertySource.Tokened tokens) draft shared)
    (literal : Settles PropertySource.Spelled draft spelled) :
    List.Forall₂ (SourceLine.Agrees tokens) (shared.sourceLines nullable)
      (spelled.sourceLines nullable) := by
  cases tokened with
  | property source tokened =>
      generalize same : source.property = property at literal
      cases literal with
      | property other literal =>
          exact PropertySource.source_lines_agree tokens nullable source other same tokened literal
  | localized text =>
      cases literal
      exact SourceLine.all_plain tokens _
  | validation =>
      cases literal
      exact SourceLine.all_plain tokens _

theorem blocks_agree (tokens : List Token) (nullable : NullableMode) (drafts : List Draft)
    (shared spelled : List Block)
    (tokened : List.Forall₂ (Settles (PropertySource.Tokened tokens)) drafts shared)
    (literal : List.Forall₂ (Settles PropertySource.Spelled) drafts spelled) :
    List.Forall₂ (List.Forall₂ (SourceLine.Agrees tokens)) (shared.map (Block.sourceLines nullable))
      (spelled.map (Block.sourceLines nullable)) := by
  induction tokened generalizing spelled with
  | nil =>
      cases literal
      exact .nil
  | cons head tail ih =>
      cases literal with
      | cons first rest => exact .cons (block_agrees tokens nullable _ _ _ head first) (ih _ rest)

structure UnitsAgree (tokens : List Token) (shared spelled : TypeUnit) : Prop where
  hint_eq : shared.source.hint = spelled.source.hint
  lines : List.Forall₂ (SourceLine.Agrees tokens) shared.sourceLines spelled.sourceLines

theorem unit_agrees (header : UnitHeader) (tokens : List Token) (entry : DeclaredType × List Draft)
    (shared spelled : TypeUnit)
    (tokened : UnitSettles header (PropertySource.Tokened tokens) entry shared)
    (literal : UnitSettles header PropertySource.Spelled entry spelled) :
    UnitsAgree tokens shared spelled := by
  have blocks := blocks_agree tokens header.nullable _ _ _ tokened.blocks literal.blocks
  refine ⟨?_, ?_⟩
  · rw [TypeUnit.source, TypeUnit.source, TypeUnit.hint, TypeUnit.hint, tokened.type_eq, literal.type_eq]
  · rw [TypeUnit.sourceLines, TypeUnit.sourceLines, tokened.header_eq, literal.header_eq,
      tokened.type_eq, literal.type_eq]
    exact List.rel_append (SourceLine.all_plain tokens _)
      (SourceLine.agree_nested tokens _ _ _ (SourceLine.agree_separated tokens _ _ blocks))

theorem units_agree (header : UnitHeader) (tokens : List Token)
    (types : List (DeclaredType × List Draft)) (shared spelled : List TypeUnit)
    (tokened : List.Forall₂ (UnitSettles header (PropertySource.Tokened tokens)) types shared)
    (literal : List.Forall₂ (UnitSettles header PropertySource.Spelled) types spelled) :
    List.Forall₂ (UnitsAgree tokens) shared spelled := by
  induction tokened generalizing spelled with
  | nil =>
      cases literal
      exact .nil
  | cons head tail ih =>
      cases literal with
      | cons first rest => exact .cons (unit_agrees header tokens _ _ _ head first) (ih _ rest)

end Source

namespace Pass

theorem written_spelled (options : Options) (host : Host) (candidates : List (TypeName × Admitted))
    (uncached : options.cached = false) :
    List.Forall₂ (UnitSettles (options.header host) PropertySource.Spelled) (plan host candidates)
      (written options host candidates).1 :=
  (Draft.settle_types_spelled _ _ _ uncached).1

theorem passes_agree (options : Options) (host : Host) (candidates : List Candidate)
    (flag : Cancellation) :
    let header := options.header host
    let shared := { options with cached := true }
    let spelled := { options with cached := false }
    (∃ i < candidates.length, flag i = true) ∧
      (run shared host candidates flag).value.outcome = .error .cancelled ∧
      (run spelled host candidates flag).value.outcome = .error .cancelled ∨
    ∃ (left right : Output) (tokened literal : List TypeUnit) (tokens : List Token)
        (manager : Option SourceUnit),
      (run shared host candidates flag).value.outcome = .ok left ∧
      (run spelled host candidates flag).value.outcome = .ok right ∧
      left.units = MarkerUnits.all ++ tokened.map TypeUnit.source ++ (tokenFile? header tokens).toList
        ++ manager.toList ∧
      right.units = MarkerUnits.all ++ literal.map TypeUnit.source ++ manager.toList ∧
      (tokens.map Token.field).Nodup ∧
      (∀ unit ∈ tokened ++ literal, unit.sourceLines.map SourceLine.line = unit.lines) ∧
      List.Forall₂ (UnitsAgree tokens) tokened literal := by
  intro header shared spelled
  by_cases yes : ∃ i < candidates.length, flag i = true
  · exact .inl ⟨yes, by rw [run_outcome, if_pos yes], by rw [run_outcome, if_pos yes]⟩
  · right
    have never : ∀ i < candidates.length, flag i = false := by simpa using yes
    have leftRan := run_completes shared host candidates flag never
    have rightRan := run_completes spelled host candidates flag never
    have leftUnits := run_units shared host candidates flag _ leftRan
    have rightUnits := run_units spelled host candidates flag _ rightRan
    let chosen := admitted host options.observableBase candidates
    have managers : (written spelled host chosen).2.managerUsed
        = (written shared host chosen).2.managerUsed := by
      rw [written_manager, written_manager, written_properties, written_properties]
    have unused : (written spelled host chosen).2.cache.tokens = [] :=
      (written_tokens_none spelled host chosen).mpr (.inl rfl)
    have absent : (written spelled host chosen).2.cache.unit? header = none := by
      rw [token_file, unused]
      rfl
    refine ⟨_, _, (written shared host chosen).1, (written spelled host chosen).1,
      (written shared host chosen).2.cache.tokens,
      CommandManager.unit? (written shared host chosen).2.managerUsed header, leftRan, rightRan,
      token_file _ header ▸ leftUnits, ?_, TokenCache.fields_nodup _,
      List.forall_mem_append.mpr ⟨written_lines shared host chosen, written_lines spelled host chosen⟩,
      units_agree header _ _ _ _ (written_tokened shared host chosen rfl)
        (written_spelled spelled host chosen rfl)⟩
    change (generate spelled host chosen).value.units = MarkerUnits.all
      ++ (written spelled host chosen).1.map TypeUnit.source
      ++ ((written spelled host chosen).2.cache.unit? header).toList
      ++ (CommandManager.unit? (written spelled host chosen).2.managerUsed header).toList at rightUnits
    rw [rightUnits, absent, managers, Option.toList_none, List.append_nil]

end Pass

end ObservableGen
