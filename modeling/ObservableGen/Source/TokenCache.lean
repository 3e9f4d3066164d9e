import ObservableGen.Identifier
import ObservableGen.Source.Literal
import ObservableGen.Source.Unit
set_option autoImplicit false

/-!
Shared event arguments. Every name that is notified gets one token in a class of its own; names
that sanitize to one identifier are told apart by a number.
-/
namespace ObservableGen.Source

structure Token where
  name : String
  ident : String
deriving DecidableEq, Repr, Inhabited

inductive NotificationArgument where
  | token (ident : String)
  | literal (name : String)
deriving DecidableEq, Repr, Inhabited

structure TokenCache where
  active : Bool
  tokens : List Token
  names_nodup : (tokens.map Token.name).Nodup
  idents_nodup : (tokens.map Token.ident).Nodup
deriving DecidableEq, Repr

namespace TokenCache

def space : String := "Minimal.Mvvm"

def className : String := "EventArgsCache"

def argumentsType : String := "global::System.ComponentModel.PropertyChangedEventArgs"

def fieldName (ident : String) : String :=
  ident ++ "PropertyChanged"

def reference (ident : String) : String :=
  TypeName.globalAlias ++ space ++ "." ++ className ++ "." ++ fieldName ident

def empty (active : Bool) : TokenCache :=
  ⟨active, [], List.nodup_nil, List.nodup_nil⟩

instance : Inhabited TokenCache := ⟨empty false⟩

def names (cache : TokenCache) : List String :=
  cache.tokens.map Token.name

def idents (cache : TokenCache) : List String :=
  cache.tokens.map Token.ident

-- The forms of an identifier in order: `base`, `base2`, `base3`, and so on.
def numbered (base : String) : Nat → String
  | 0 => base
  | count + 1 => base ++ toString (count + 2)

-- The first numbered form that is not taken. One more form is tried than are taken, so one of them is
-- free.
def freeIdent (taken : List String) (base : String) : String :=
  let forms := (List.range (taken.length + 1)).map (numbered base)
  (forms.find? fun form => !taken.contains form).getD base

theorem to_string_injective (m n : Nat) (same : toString m = toString n) : m = n := by
  have digits : Nat.toDigits 10 m = Nat.toDigits 10 n := by
    rw [← Nat.toList_repr, ← Nat.toList_repr]
    exact congrArg String.toList same
  rw [← Nat.ofDigitChars_toDigits (b := 10) (n := m) (by omega) (by omega), digits,
    Nat.ofDigitChars_toDigits (by omega) (by omega)]

theorem numbered_injective (base : String) (i j : Nat)
    (same : numbered base i = numbered base j) : i = j := by
  have nonempty (n : Nat) : base ++ toString n ≠ base := by
    intro equal
    simp at equal
  cases i with
  | zero =>
      cases j with
      | zero => rfl
      | succ j => exact absurd same.symm (nonempty (j + 2))
  | succ i =>
      cases j with
      | zero => exact absurd same (nonempty (i + 2))
      | succ j =>
          have numbers : i + 2 = j + 2 := to_string_injective _ _ ((String.append_right_inj base).mp same)
          omega

-- Pigeonhole: there is one form more than there are taken identifiers.
theorem some_form_free (taken : List String) (base : String) :
    ∃ count ≤ taken.length, numbered base count ∉ taken := by
  refine Classical.byContradiction fun none => ?_
  have distinctForms : ((List.range (taken.length + 1)).map (numbered base)).Nodup :=
    List.pairwise_map.mpr (List.nodup_range.imp fun apart same => apart (numbered_injective base _ _ same))
  have allTaken : (List.range (taken.length + 1)).map (numbered base) ⊆ taken := by
    intro form listed
    obtain ⟨count, small, rfl⟩ := List.mem_map.mp listed
    by_cases used : numbered base count ∈ taken
    · exact used
    · exact absurd ⟨count, by simpa [Nat.lt_succ_iff] using small, used⟩ none
  have bound := distinctForms.length_le_of_subset allTaken
  simp only [List.length_map, List.length_range] at bound
  omega

theorem free_ident_first (taken : List String) (base : String) :
    ∃ count ≤ taken.length, freeIdent taken base = numbered base count ∧
      numbered base count ∉ taken ∧ ∀ earlier < count, numbered base earlier ∈ taken := by
  cases found : (List.range (taken.length + 1)).find? fun count => !taken.contains (numbered base count) with
  | none =>
      obtain ⟨count, small, fresh⟩ := some_form_free taken base
      have used := List.find?_range_eq_none.mp found count (by omega)
      simp [fresh] at used
  | some count =>
      obtain ⟨fresh, small, before⟩ := List.find?_range_eq_some.mp found
      refine ⟨count, by simpa [Nat.lt_succ_iff] using small, ?_, by simpa using fresh, ?_⟩
      · simp only [freeIdent, List.find?_map, Function.comp_def, found, Option.map_some, Option.getD_some]
      · intro earlier less
        simpa using before earlier less

theorem free_ident_fresh (taken : List String) (base : String) : freeIdent taken base ∉ taken := by
  obtain ⟨count, _, form, fresh, _⟩ := free_ident_first taken base
  rwa [form]

def token? (cache : TokenCache) (name : String) : Option Token :=
  cache.tokens.find? fun token => token.name == name

theorem unknown_of_token_none (cache : TokenCache) (name : String) (absent : cache.token? name = none) :
    name ∉ cache.names := by
  intro known
  obtain ⟨token, inside, named⟩ := List.mem_map.mp known
  simpa [named] using List.find?_eq_none.mp absent token inside

-- A token whose name and identifier no other token has.
def add (cache : TokenCache) (token : Token) (name : token.name ∉ cache.names)
    (ident : token.ident ∉ cache.idents) : TokenCache where
  active := cache.active
  tokens := cache.tokens ++ [token]
  names_nodup := by simpa [List.nodup_append, names] using And.intro cache.names_nodup name
  idents_nodup := by simpa [List.nodup_append, idents] using And.intro cache.idents_nodup ident

def register (cache : TokenCache) (name : String) : String × TokenCache :=
  let plain := Identifier.plain name
  match absent : cache.token? plain with
  | some token => (token.ident, cache)
  | none =>
    let token : Token := ⟨plain, freeIdent cache.idents (Identifier.sanitize plain)⟩
    (token.ident,
      cache.add token (cache.unknown_of_token_none plain absent) (free_ident_fresh cache.idents _))

-- What notifies of a name; an active cache registers it.
def argument (cache : TokenCache) (name : String) : NotificationArgument × TokenCache :=
  if cache.active then
    let registered := cache.register name
    (.token registered.1, registered.2)
  else (.literal (Identifier.plain name), cache)

def arguments (cache : TokenCache) : List String → List NotificationArgument × TokenCache
  | [] => ([], cache)
  | name :: rest =>
    let first := cache.argument name
    let others := first.2.arguments rest
    (first.1 :: others.1, others.2)

def declaration (token : Token) : String :=
  "internal static readonly " ++ argumentsType ++ " " ++ fieldName token.ident ++ " = new "
    ++ argumentsType ++ "(" ++ Literal.quote token.name ++ ");"

def unit? (cache : TokenCache) (header : UnitHeader) : Option SourceUnit :=
  if cache.tokens.isEmpty then none
  else
    let declarations := cache.tokens.map fun token => Line.flat (declaration token)
    some (namespaceUnit header (className ++ ".g.cs") space
      (.flat ("internal static partial class " ++ className) :: Line.braced declarations))

-- All that a registration can do.
theorem register_cases (cache : TokenCache) (name : String) :
    (∃ token ∈ cache.tokens, token.name = Identifier.plain name ∧
      cache.register name = (token.ident, cache)) ∨
    ∃ token : Token, token.name = Identifier.plain name ∧
      token.ident = freeIdent cache.idents (Identifier.sanitize (Identifier.plain name)) ∧
      ∃ (new : token.name ∉ cache.names) (fresh : token.ident ∉ cache.idents),
        cache.register name = (token.ident, cache.add token new fresh) := by
  dsimp only [register]
  split
  · rename_i token found
    have named : token.name = Identifier.plain name := by simpa using List.find?_some found
    exact .inl ⟨token, List.mem_of_find?_eq_some found, named, rfl⟩
  · rename_i absent
    refine .inr ⟨⟨Identifier.plain name, freeIdent cache.idents (Identifier.sanitize (Identifier.plain name))⟩,
      rfl, rfl, cache.unknown_of_token_none _ absent, free_ident_fresh _ _, rfl⟩

theorem register_active (cache : TokenCache) (name : String) :
    (cache.register name).2.active = cache.active := by
  obtain ⟨_, _, _, kept⟩ | ⟨_, _, _, _, _, grown⟩ := register_cases cache name
  · rw [kept]
  · rw [grown]
    rfl

theorem argument_inactive (cache : TokenCache) (name : String) (inactive : cache.active = false) :
    cache.argument name = (.literal (Identifier.plain name), cache) := by
  simp [argument, inactive]

end TokenCache

def NotificationArgument.text : NotificationArgument → String
  | token ident => TokenCache.reference ident
  | literal name => Literal.quote name

end ObservableGen.Source
