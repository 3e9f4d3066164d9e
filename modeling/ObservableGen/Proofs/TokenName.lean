import ObservableGen.Proofs.Registration
import ObservableGen.Proofs.Spelling
set_option autoImplicit false

/-!
The names of the fields that hold shared event arguments. Main statement: such a name is an identifier unless the name
that it is made from begins with a digit of another script, which is left in front of the identifier.
-/
namespace ObservableGen

namespace Identifier

-- A numeric character that no identifier begins with, and that is not taken for a digit when a text is sanitized.
def isForeignDigit (c : Char) : Bool :=
  Text.isNumeric c && !Text.isAlphabetic c && !c.isDigit

def beginsForeign (text : String) : Bool :=
  text.toList.head?.any isForeignDigit

theorem digit_part (c : Char) (digit : c.isDigit = true) : isPart c = true := by
  have ascii : c.toNat < 128 := by
    have range := Char.isDigit_iff_toNat.mp digit
    have last : '9'.toNat = 57 := by decide
    omega
  simp [isPart, Text.isAlphanumeric, Text.isNumeric, ascii, digit]

theorem number_parts (n : Nat) : (toString n).toList.all isPart = true := by
  rw [List.all_eq_true]
  intro c inside
  apply digit_part
  exact Nat.isDigit_of_mem_toDigits (by decide) (by decide) (Nat.toList_repr ▸ inside)

theorem mask_start (c : Char) (other : (maskPart c).isDigit = false) :
    isStart (maskPart c) = !isForeignDigit c := by
  by_cases part : isPart c = true
  · have kept : maskPart c = c := if_pos part
    rw [kept] at other ⊢
    by_cases line : c = '_'
    · subst line
      decide
    · simp only [isPart, Text.isAlphanumeric, Bool.or_eq_true, beq_iff_eq, line, false_or] at part
      by_cases letter : Text.isAlphabetic c = true
      · simp [isStart, isForeignDigit, letter]
      · have numeric := part.resolve_left letter
        simp [isStart, isForeignDigit, letter, numeric, line, other]
  · have masked : maskPart c = '_' := if_neg part
    have silent : Text.isNumeric c = false := by
      simp only [isPart, Text.isAlphanumeric, Bool.or_eq_true, not_or, Bool.not_eq_true] at part
      exact part.2.2
    rw [masked, isForeignDigit, silent]
    rfl

theorem mask_digit (c : Char) (digit : (maskPart c).isDigit = true) : isForeignDigit c = false := by
  by_cases part : isPart c = true
  · have kept : maskPart c = c := if_pos part
    rw [kept] at digit
    simp [isForeignDigit, digit]
  · have masked : maskPart c = '_' := if_neg part
    rw [masked] at digit
    cases digit

theorem masked_parts (chars : List Char) : (chars.map maskPart).all isPart = true := by
  simp [mask_part_is_part]

theorem sanitized_parts (text : String) : (sanitize text).toList.all isPart = true := by
  have masked := masked_parts text.toList
  have line : isPart '_' = true := rfl
  unfold sanitize
  split
  · rfl
  · rename_i first rest chars
    rw [chars] at masked
    split
    · rw [String.toList_ofList, List.all_cons, line, masked]
      rfl
    · rwa [String.toList_ofList]

theorem sanitized_word (text : String) : isWord (sanitize text).toList = !beginsForeign text := by
  have masked := masked_parts text.toList
  unfold sanitize beginsForeign
  cases chars : text.toList with
  | nil => rfl
  | cons c rest =>
      rw [chars, List.map_cons, List.all_cons, Bool.and_eq_true] at masked
      simp only [List.map_cons, List.head?_cons, Option.any_some]
      by_cases digit : (maskPart c).isDigit = true
      · rw [if_pos digit, String.toList_ofList, isWord, List.all_cons, masked.1, masked.2, mask_digit c digit]
        rfl
      · rw [if_neg digit, String.toList_ofList, isWord, masked.2, Bool.and_true]
        exact mask_start c (by simpa using digit)

theorem sanitized_nonempty (text : String) : (sanitize text).toList ≠ [] := by
  unfold sanitize
  split
  · simp
  · split <;> simp

end Identifier

namespace Source.TokenCache

open Identifier

-- Each identifier is a form of the name that it stands for.
def Formed (cache : TokenCache) : Prop :=
  ∀ token ∈ cache.tokens, ∃ count, token.ident = numbered (sanitize token.name) count

theorem register_formed (cache : TokenCache) (name : String) (formed : cache.Formed) :
    (cache.register name).2.Formed := by
  obtain ⟨_, _, _, kept⟩ | ⟨token, named, chosen, _, _, grown⟩ := register_cases cache name
  · rwa [kept]
  · rw [grown]
    intro other listed
    rcases List.mem_append.mp listed with early | new
    · exact formed other early
    · obtain ⟨count, _, form, _⟩ := free_ident_first cache.idents (sanitize (plain name))
      rw [List.mem_singleton.mp new, named]
      exact ⟨count, chosen.trans form⟩

theorem register_all_formed (cache : TokenCache) (names : List String) (formed : cache.Formed) :
    (cache.registerAll names).Formed := by
  induction names generalizing cache with
  | nil => exact formed
  | cons name rest ih => exact ih _ (register_formed cache name formed)

theorem numbered_word (text : String) (count : Nat) :
    isWord (numbered (sanitize text) count).toList = !beginsForeign text := by
  cases count with
  | zero => exact sanitized_word text
  | succ count =>
      rw [numbered, String.toList_append, word_append_iff _ _ (sanitized_nonempty text) (number_parts _)]
      exact sanitized_word text

theorem numbered_parts (text : String) (count : Nat) :
    (numbered (sanitize text) count).toList.all isPart = true := by
  cases count with
  | zero => exact sanitized_parts text
  | succ count => rw [numbered, String.toList_append, List.all_append, sanitized_parts, number_parts, Bool.and_self]

-- What stands behind the identifier is too long for a reserved word, and the mark is no part of it.
theorem field_name_identifier (text : String) (count : Nat) :
    isIdentifier (fieldName (numbered (sanitize text) count)) = !beginsForeign text := by
  have tail : "PropertyChanged".toList.all isPart = true := by decide
  have parts : (fieldName (numbered (sanitize text) count)).toList.all isPart = true := by
    rw [fieldName, String.toList_append, List.all_append, numbered_parts, tail, Bool.and_self]
  have unmarked : (fieldName (numbered (sanitize text) count)).toList.head? ≠ some '@' := by
    intro marked
    have part := List.all_eq_true.mp parts '@' (List.mem_of_mem_head? marked)
    cases part
  have long : isKeyword (fieldName (numbered (sanitize text) count)) = false := by
    apply long_unreserved
    rw [fieldName, String.length_append]
    have size : "PropertyChanged".length = 15 := by decide
    omega
  have filled : (numbered (sanitize text) count).toList ≠ [] := by
    cases count with
    | zero => exact sanitized_nonempty text
    | succ count => simp [numbered, sanitized_nonempty text]
  rw [identifier_of_unmarked _ unmarked, long, fieldName, String.toList_append, word_append_iff _ _ filled tail,
    numbered_word]
  simp

theorem formed_identifier (cache : TokenCache) (formed : cache.Formed) (token : Token) (listed : token ∈ cache.tokens) :
    isIdentifier (fieldName token.ident) = true ↔ beginsForeign token.name = false := by
  obtain ⟨count, form⟩ := formed token listed
  rw [form, field_name_identifier]
  simp

theorem token_identifier_iff (active : Bool) (names : List String) :
    let cache := (empty active).registerAll names
    (∀ name, isIdentifier (fieldName (cache.register name).1) = true ↔ beginsForeign (plain name) = false) ∧
      ∀ token ∈ cache.tokens, isIdentifier (fieldName token.ident) = true ↔ beginsForeign token.name = false := by
  intro cache
  have formed : cache.Formed := register_all_formed _ names (by simp [Formed, empty])
  refine ⟨fun name => ?_, formed_identifier cache formed⟩
  have further := register_formed cache name formed
  exact formed_identifier _ further ⟨plain name, (cache.register name).1⟩ (register_present cache name)

theorem numbered_token_identifier :
    let cache := (empty true).registerAll ["1st", "@A?", "A!"]
    ⟨"A!", "A_2"⟩ ∈ cache.tokens ∧ isIdentifier (fieldName "A_2") = true ∧
      isIdentifier (fieldName (cache.register "x٣").1) = true := by
  intro cache
  obtain ⟨handed, declared⟩ := token_identifier_iff true ["1st", "@A?", "A!"]
  have listed : ⟨"A!", "A_2"⟩ ∈ cache.tokens := by decide
  exact ⟨listed, (declared _ listed).mpr (by decide), (handed "x٣").mpr (by decide)⟩

-- A digit of another script is a digit, but no `_` goes in front of it.
theorem foreign_digit_first :
    let first := (empty true).register "٣"
    first.1 = "٣" ∧ isIdentifier (fieldName first.1) = false ∧
      ∃ token ∈ first.2.tokens, isIdentifier (fieldName token.ident) = false := by
  decide +kernel

end Source.TokenCache

end ObservableGen
