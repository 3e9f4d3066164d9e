import Mathlib.Data.List.Nodup
import ObservableGen.FirstSeen
import ObservableGen.Source.TokenCache
set_option autoImplicit false

/-!
Registration of names for shared event arguments, over whole runs. Main statement: names and
identifiers stay in one-to-one correspondence, however the numbered forms of one name meet the
plain forms of another.
-/
namespace ObservableGen.Source.TokenCache

-- The search for an identifier, one form after the other and without a bound: `Search taken base n
-- form found` holds if it ends with `found` when `form`, which has the number `n`, is looked at next.
inductive Search (taken : List String) (base : String) : Nat → String → String → Prop
  | free (n : Nat) (form : String) (fresh : form ∉ taken) : Search taken base n form form
  | next (n : Nat) (form found : String) (used : form ∈ taken)
      (further : Search taken base (n + 1) (base ++ toString (n + 1)) found) :
      Search taken base n form found

theorem search_from (taken : List String) (base : String) (count start : Nat)
    (fresh : numbered base count ∉ taken) (before : ∀ earlier < count, numbered base earlier ∈ taken)
    (reached : start ≤ count) :
    Search taken base (start + 1) (numbered base start) (numbered base count) := by
  induction gap : count - start generalizing start with
  | zero =>
      have last : start = count := by omega
      subst last
      exact .free _ _ fresh
  | succ gap ih => exact .next _ _ _ (before start (by omega)) (ih (start + 1) (by omega) (by omega))

theorem search_free_ident (taken : List String) (base : String) :
    Search taken base 1 base (freeIdent taken base) := by
  obtain ⟨count, _, form, fresh, before⟩ := free_ident_first taken base
  rw [form]
  exact search_from taken base count 0 fresh before (Nat.zero_le count)

-- What the search finds, said without a place for the first form.
theorem free_ident_of_free (taken : List String) (base : String) (fresh : base ∉ taken) :
    freeIdent taken base = base := by
  obtain ⟨count, _, form, _, before⟩ := free_ident_first taken base
  cases count with
  | zero => exact form
  | succ count => exact absurd (before 0 (Nat.succ_pos count)) fresh

theorem free_ident_of_taken (taken : List String) (base : String) (used : base ∈ taken) :
    ∃ n ≥ 2, freeIdent taken base = base ++ toString n ∧
      ∀ m ≥ 2, m < n → base ++ toString m ∈ taken := by
  obtain ⟨count, _, form, fresh, before⟩ := free_ident_first taken base
  cases count with
  | zero => exact absurd used fresh
  | succ count =>
      refine ⟨count + 2, by omega, form, ?_⟩
      intro m least less
      obtain ⟨place, rfl⟩ : ∃ place, m = place + 2 := ⟨m - 2, by omega⟩
      exact before (place + 1) (by omega)

theorem token_of_name (cache : TokenCache) (left right : Token) (leftIn : left ∈ cache.tokens)
    (rightIn : right ∈ cache.tokens) (same : left.name = right.name) : left = right :=
  List.inj_on_of_nodup_map cache.names_nodup leftIn rightIn same

theorem token_of_ident (cache : TokenCache) (left right : Token) (leftIn : left ∈ cache.tokens)
    (rightIn : right ∈ cache.tokens) (same : left.ident = right.ident) : left = right :=
  List.inj_on_of_nodup_map cache.idents_nodup leftIn rightIn same

theorem register_extends (cache : TokenCache) (name : String) :
    cache.tokens <+: (cache.register name).2.tokens := by
  obtain ⟨_, _, _, kept⟩ | ⟨token, _, _, _, _, grown⟩ := register_cases cache name
  · simp only [kept, List.prefix_rfl]
  · rw [grown]
    exact List.prefix_append _ [token]

theorem register_present (cache : TokenCache) (name : String) :
    ⟨Identifier.plain name, (cache.register name).1⟩ ∈ (cache.register name).2.tokens := by
  obtain ⟨token, inside, named, kept⟩ | ⟨token, named, _, _, _, grown⟩ := register_cases cache name
  · rw [kept, ← named]
    exact inside
  · rw [grown, ← named]
    exact List.mem_append_right _ (List.mem_singleton_self token)

theorem register_names (cache : TokenCache) (name : String) (mentioned : List String)
    (order : cache.names = mentioned.eraseDups) :
    (cache.register name).2.names = (mentioned ++ [Identifier.plain name]).eraseDups := by
  have listed : Identifier.plain name ∈ cache.names ↔ Identifier.plain name ∈ mentioned := by
    rw [order]
    exact List.mem_eraseDups
  rw [FirstSeen.erase_dups_concat]
  obtain ⟨token, inside, named, kept⟩ | ⟨token, named, _, new, _, grown⟩ := register_cases cache name
  · have known : Identifier.plain name ∈ cache.names := List.mem_map.mpr ⟨token, inside, named⟩
    rw [kept, if_pos (listed.mp known)]
    exact order
  · rw [named] at new
    rw [grown, if_neg (mt listed.mpr new), ← order]
    simp [names, add, named]

def registerAll (cache : TokenCache) (names : List String) : TokenCache :=
  names.foldl (fun cache name => (cache.register name).2) cache

theorem register_all_extends (cache : TokenCache) (names : List String) :
    cache.tokens <+: (cache.registerAll names).tokens := by
  induction names generalizing cache with
  | nil => exact List.prefix_rfl
  | cons name rest ih => exact (register_extends cache name).trans (ih _)

theorem register_all_names (cache : TokenCache) (names mentioned : List String)
    (order : cache.names = mentioned.eraseDups) :
    (cache.registerAll names).names
      = (mentioned ++ names.map Identifier.plain).eraseDups := by
  induction names generalizing cache mentioned with
  | nil => simpa [registerAll] using order
  | cons name rest ih => simpa [registerAll] using ih _ _ (register_names cache name mentioned order)

theorem reference_injective (left right : String) (same : reference left = reference right) :
    left = right := by
  simpa [reference, fieldName] using same

-- Whatever is registered in between, both tokens stand in the cache behind the later call, and there
-- neither a name nor an identifier stands twice.
theorem later_reference_iff (cache : TokenCache) (name later : String) (between : List String) :
    reference ((((cache.register name).2.registerAll between).register later).1)
        = reference (cache.register name).1
      ↔ Identifier.plain later = Identifier.plain name := by
  have present := register_present ((cache.register name).2.registerAll between) later
  have kept := (register_extends _ later).subset
    ((register_all_extends _ between).subset (register_present cache name))
  constructor
  · intro same
    have tokens := token_of_ident _ _ _ present kept (reference_injective _ _ same)
    exact congrArg Token.name tokens
  · intro same
    have tokens := token_of_name _ _ _ present kept same
    exact congrArg (reference ∘ Token.ident) tokens

theorem registration_one_to_one (active : Bool) (before : List String) (name : String) :
    let cache := (empty active).registerAll before
    let base := Identifier.sanitize (Identifier.plain name)
    let ident := (cache.register name).1
    (Identifier.plain name ∉ before.map Identifier.plain →
      Search cache.idents base 1 base ident ∧
      (base ∉ cache.idents → ident = base) ∧
      (base ∈ cache.idents → ∃ n ≥ 2, ident = base ++ toString n ∧ ident ∉ cache.idents ∧
        ∀ m ≥ 2, m < n → base ++ toString m ∈ cache.idents)) ∧
    (∀ between later,
      reference (((cache.register name).2.registerAll between).register later).1 = reference ident
        ↔ Identifier.plain later = Identifier.plain name) ∧
    (∀ between,
      reference (((cache.register name).2.registerAll between).register name).1 = reference ident) ∧
    FirstSeen.InOrder cache.names (before.map Identifier.plain) := by
  intro cache base ident
  have order : cache.names = (before.map Identifier.plain).eraseDups :=
    register_all_names (empty active) before [] rfl
  refine ⟨?_, ?_, ?_, ?_⟩
  · intro new
    have unknown : Identifier.plain name ∉ cache.names := by
      rw [order]
      exact mt List.mem_eraseDups.mp new
    have chosen : ident = freeIdent cache.idents base := by
      obtain ⟨token, inside, named, _⟩ | ⟨_, _, chosen, _, _, grown⟩ := register_cases cache name
      · exact absurd (List.mem_map.mpr ⟨token, inside, named⟩) unknown
      · rw [← chosen]
        exact congrArg Prod.fst grown
    rw [chosen]
    refine ⟨search_free_ident _ _, free_ident_of_free _ _, ?_⟩
    intro used
    obtain ⟨n, least, form, before⟩ := free_ident_of_taken _ _ used
    exact ⟨n, least, form, free_ident_fresh _ _, before⟩
  · intro between later
    exact later_reference_iff cache name later between
  · intro between
    exact (later_reference_iff cache name name between).mpr rfl
  · rw [order]
    exact FirstSeen.in_order_erase_dups _

-- A numbered form handed out early is the plain form of a later name.
example : ((empty true).registerAll ["A!", "@A?", "A_2", "A?"]).idents = ["A_", "A_2", "A_22"] := by
  decide

end ObservableGen.Source.TokenCache
