import ObservableGen.Naming
set_option autoImplicit false

/-!
Spellings of identifiers. Main statements: two spellings stand for one name only if they differ in
the mark of a verbatim spelling; the name of a backing field is an identifier unless the property
begins with the one letter whose lower case is not a letter; and a word is sanitized to itself.
-/
namespace ObservableGen

namespace Text

def CaseRun.landsIn (run : CaseRun) (range : Nat × Nat) : Bool :=
  Nat.ble range.1 (run.first + run.shift).toNat && Nat.ble (run.last + run.shift).toNat range.2
    && (Nat.blt range.2 0xD800 || Nat.blt 0xDFFF range.1 && Nat.blt range.2 0x110000)

-- The images of a run lie within a single range of the property, and all of them are characters.
theorem lower_runs_land : (lowerRuns.all fun run => alphabeticRanges.any run.landsIn) = true := by
  decide +kernel

theorem ascii_ranges : ∀ range ∈ alphabeticRanges, range.1 < 128 →
    range = (0x41, 0x5A) ∨ range = (0x61, 0x7A) := by
  decide +kernel

theorem ascii_letters : ∀ code < 128, (0x41 ≤ code ∧ code ≤ 0x5A ∨ 0x61 ≤ code ∧ code ≤ 0x7A) →
    (Char.ofNat code).isAlpha = true := by
  decide +kernel

theorem to_nat_of_valid (code : Nat) (valid : code.isValidChar) : (Char.ofNat code).toNat = code := by
  rw [Char.ofNat, dif_pos valid]
  rfl

theorem alphabetic_of_range (code : Nat) (valid : code.isValidChar)
    (inside : inRanges alphabeticRanges code = true) : isAlphabetic (Char.ofNat code) = true := by
  rw [isAlphabetic, to_nat_of_valid code valid]
  by_cases ascii : code < 128
  · rw [if_pos ascii]
    apply ascii_letters code ascii
    obtain ⟨range, listed, place⟩ := List.any_eq_true.mp inside
    simp only [Bool.and_eq_true, decide_eq_true_eq] at place
    rcases ascii_ranges range listed (by omega) with rfl | rfl
    · exact .inl place
    · exact .inr place
  · rwa [if_neg ascii]

theorem lower_run_alphabetic (run : CaseRun) (code : Nat) (listed : run ∈ lowerRuns)
    (covered : run.covers code = true) :
    isAlphabetic (Char.ofNat (code + run.shift).toNat) = true := by
  obtain ⟨range, present, lands⟩ := List.any_eq_true.mp (List.all_eq_true.mp lower_runs_land run listed)
  simp only [CaseRun.landsIn, Bool.and_eq_true, Bool.or_eq_true, Nat.ble_eq, Nat.blt_eq] at lands
  simp only [CaseRun.covers, Bool.and_eq_true, decide_eq_true_eq] at covered
  have image : range.1 ≤ (code + run.shift).toNat ∧ (code + run.shift).toNat ≤ range.2 := by omega
  apply alphabetic_of_range
  · unfold Nat.isValidChar
    omega
  · exact List.any_eq_true.mpr ⟨range, present, by simpa using image⟩

end Text

namespace Identifier

theorem ascii_start_lower : ∀ code < 128, isStart (Char.ofNat code) = true →
    isStart (Char.ofNat code).toLower = true := by
  decide +kernel

theorem lower_case_start (c : Char) (start : isStart c = true) (other : c ≠ 'İ') :
    ∃ lower, Text.lowerCase c = [lower] ∧ isStart lower = true := by
  by_cases ascii : c.toNat < 128
  · refine ⟨c.toLower, Text.lower_case_ascii c ascii, ?_⟩
    simpa [Char.ofNat_toNat] using ascii_start_lower c.toNat ascii (by rwa [Char.ofNat_toNat])
  · have unexpanded : Text.lowerExpansions.find? (fun entry => entry.1 == c.toNat) = none := by
      have elsewhere : c.toNat ≠ 0x130 := fun same => other (Char.toNat_inj.mp same)
      simp [Text.lowerExpansions, elsewhere.symm]
    rw [Text.lowerCase, if_neg ascii, Text.mapCase, unexpanded]
    cases found : Text.lowerRuns.find? fun run => run.covers c.toNat with
    | none => exact ⟨c, rfl, start⟩
    | some run =>
        have covered : run.covers c.toNat = true := by simpa using List.find?_some found
        have letter := Text.lower_run_alphabetic run c.toNat (List.mem_of_find?_eq_some found) covered
        exact ⟨_, rfl, by simp [isStart, letter]⟩

theorem lower_case_nonempty (c : Char) (start : isStart c = true) : Text.lowerCase c ≠ [] := by
  by_cases dotted : c = 'İ'
  · rw [dotted]
    decide
  · obtain ⟨lower, only, _⟩ := lower_case_start c start dotted
    simp [only]

theorem word_start (word : List Char) (valid : isWord word = true) :
    ∃ first rest, word = first :: rest ∧ isStart first = true ∧ rest.all isPart = true := by
  cases word with
  | nil => cases valid
  | cons first rest =>
      rw [isWord, Bool.and_eq_true] at valid
      exact ⟨first, rest, rfl, valid⟩

theorem word_parts (word : List Char) (valid : isWord word = true) : word.all isPart = true := by
  obtain ⟨first, rest, rfl, start, parts⟩ := word_start word valid
  rw [List.all_cons, part_of_start first start, parts]
  rfl

theorem word_append_iff (word tail : List Char) (nonempty : word ≠ []) (parts : tail.all isPart = true) :
    isWord (word ++ tail) = isWord word := by
  cases word with
  | nil => exact absurd rfl nonempty
  | cons first rest => rw [List.cons_append, isWord, isWord, List.all_append, parts, Bool.and_true]

theorem word_append (word tail : List Char) (valid : isWord word = true)
    (parts : tail.all isPart = true) : isWord (word ++ tail) = true := by
  rw [word_append_iff word tail (by rintro rfl; cases valid) parts]
  exact valid

theorem plain_at (word : String) : plain ("@" ++ word) = word := by
  rw [plain, String.toList_append]
  exact String.ofList_toList

theorem plain_of_unmarked (text : String) (unmarked : text.toList.head? ≠ some '@') :
    plain text = text := by
  unfold plain
  split
  · rename_i word listed
    simp [listed] at unmarked
  · rfl

theorem spelling_of_marked (text : String) (marked : text.toList.head? = some '@') : text = "@" ++ plain text := by
  obtain ⟨word, chars⟩ := List.head?_eq_some_iff.mp marked
  have spelled : text = "@" ++ String.ofList word := by
    rw [← String.toList_inj]
    simp [chars]
  rw [spelled, plain_at]

-- Every text is its plain name, or that name behind the mark.
theorem spelling_cases (text : String) : plain text = text ∨ text = "@" ++ plain text := by
  by_cases marked : text.toList.head? = some '@'
  · exact .inr (spelling_of_marked text marked)
  · exact .inl (plain_of_unmarked text marked)

theorem plain_same_iff (left right : String) : plain left = plain right ↔
    left = right ∨ plain right = right ∧ left = "@" ++ right ∨ plain left = left ∧ right = "@" ++ left := by
  constructor
  · intro same
    obtain leftPlain | leftMarked := spelling_cases left
    · obtain rightPlain | rightMarked := spelling_cases right
      · exact .inl (leftPlain.symm.trans (same.trans rightPlain))
      · rw [← same, leftPlain] at rightMarked
        exact .inr (.inr ⟨leftPlain, rightMarked⟩)
    · obtain rightPlain | rightMarked := spelling_cases right
      · rw [same, rightPlain] at leftMarked
        exact .inr (.inl ⟨rightPlain, leftMarked⟩)
      · exact .inl (leftMarked.trans (same ▸ rightMarked.symm))
  · rintro (rfl | ⟨known, rfl⟩ | ⟨known, rfl⟩)
    · rfl
    · rw [plain_at, known]
    · rw [plain_at, known]

theorem word_unmarked (word : List Char) (valid : isWord word = true) : word.head? ≠ some '@' := by
  obtain ⟨first, rest, rfl, start, _⟩ := word_start word valid
  intro marked
  cases marked
  revert start
  decide

theorem plain_of_word (text : String) (valid : isWord text.toList = true) : plain text = text :=
  plain_of_unmarked text (word_unmarked _ valid)

theorem identifier_at (word : String) : isIdentifier ("@" ++ word) = isWord word.toList := by
  rw [isIdentifier, String.toList_append]
  rfl

theorem identifier_of_unmarked (text : String) (unmarked : text.toList.head? ≠ some '@') :
    isIdentifier text = (isWord text.toList && !isKeyword text) := by
  unfold isIdentifier
  split
  · rename_i word listed
    simp [listed] at unmarked
  · rfl

-- The two forms of an identifier: a word behind the mark, or a word that is not reserved.
theorem identifier_cases (text : String) (valid : isIdentifier text = true) :
    (∃ word, text = "@" ++ word ∧ plain text = word ∧ isWord word.toList = true) ∨
      plain text = text ∧ isWord text.toList = true ∧ isKeyword text = false := by
  by_cases marked : text.toList.head? = some '@'
  · have spelled := spelling_of_marked text marked
    rw [spelled, identifier_at] at valid
    exact .inl ⟨plain text, spelled, rfl, valid⟩
  · rw [identifier_of_unmarked text marked, Bool.and_eq_true] at valid
    exact .inr ⟨plain_of_unmarked text marked, valid.1, by simpa using valid.2⟩

-- What holds of the mark and of all parts of words holds of every character.
theorem identifier_all (holds : Char → Bool) (text : String) (valid : isIdentifier text = true)
    (mark : holds '@' = true) (parts : ∀ c, isPart c = true → holds c = true) :
    text.toList.all holds = true := by
  have word (chars : List Char) (form : isWord chars = true) : chars.all holds = true := by
    rw [List.all_eq_true]
    intro c inside
    exact parts c (List.all_eq_true.mp (word_parts chars form) c inside)
  obtain ⟨rest, rfl, _, form⟩ | ⟨_, form, _⟩ := identifier_cases text valid
  · rw [String.toList_append, List.all_append, word _ form]
    simp [mark]
  · exact word _ form

theorem plain_word (text : String) (valid : isIdentifier text = true) :
    isWord (plain text).toList = true := by
  obtain ⟨word, _, stands, form⟩ | ⟨stands, form, _⟩ := identifier_cases text valid
  · rwa [stands]
  · rwa [stands]

theorem same_name_iff (left right : String) (leftValid : isIdentifier left = true)
    (rightValid : isIdentifier right = true) :
    plain left = plain right ↔ left = right ∨ left = "@" ++ right ∨ right = "@" ++ left := by
  rw [plain_same_iff]
  constructor
  · rintro (same | ⟨_, marked⟩ | ⟨_, marked⟩)
    · exact .inl same
    · exact .inr (.inl marked)
    · exact .inr (.inr marked)
  · rintro (rfl | rfl | rfl)
    · exact .inl rfl
    · rw [identifier_at] at leftValid
      exact .inr (.inl ⟨plain_of_word right leftValid, rfl⟩)
    · rw [identifier_at] at rightValid
      exact .inr (.inr ⟨plain_of_word left rightValid, rfl⟩)

theorem keywords_short : ∀ word ∈ keywords, word.length ≤ 10 := by
  decide +kernel

theorem keywords_small : ∀ word ∈ keywords, word.toList.head?.all Char.isLower = true := by
  decide +kernel

theorem long_unreserved (text : String) (long : 10 < text.length) : isKeyword text = false := by
  rw [isKeyword, Bool.eq_false_iff, ne_eq, List.contains_iff_mem]
  intro reserved
  have short := keywords_short text reserved
  omega

theorem unreserved_of_lead (text : String) (lead : Char) (begins : text.toList.head? = some lead)
    (other : lead.isLower = false) : isKeyword text = false := by
  rw [isKeyword, Bool.eq_false_iff, ne_eq, List.contains_iff_mem]
  intro reserved
  have small := keywords_small text reserved
  simp [begins, other] at small

-- Behind a lead that is neither the mark nor a small letter, any word is an identifier.
theorem identifier_of_lead (text : String) (lead : Char) (begins : text.toList.head? = some lead)
    (other : lead.isLower = false) (unmarked : lead ≠ '@') : isIdentifier text = isWord text.toList := by
  rw [identifier_of_unmarked text (by simpa [begins] using unmarked),
    unreserved_of_lead text lead begins other]
  simp

theorem identifier_append (text tail : String) (valid : isIdentifier text = true)
    (parts : tail.toList.all isPart = true) (long : 10 < tail.length) :
    isIdentifier (text ++ tail) = true := by
  obtain ⟨word, rfl, _, form⟩ | ⟨_, form, _⟩ := identifier_cases text valid
  · rw [String.append_assoc, identifier_at, String.toList_append]
    exact word_append _ _ form parts
  · have whole : isWord (text ++ tail).toList = true := by
      rw [String.toList_append]
      exact word_append _ _ form parts
    have unreserved : isKeyword (text ++ tail) = false :=
      long_unreserved _ (by rw [String.length_append]; omega)
    rw [identifier_of_unmarked _ (word_unmarked _ whole), whole, unreserved]
    rfl

theorem plain_append (text tail : String) (unmarked : tail.toList.head? ≠ some '@') :
    plain (text ++ tail) = plain text ++ tail := by
  by_cases marked : text.toList.head? = some '@'
  · have spelled := spelling_of_marked text marked
    rw [← plain_at (plain text ++ tail), ← String.append_assoc, ← spelled]
  · rw [plain_of_unmarked text marked]
    apply plain_of_unmarked
    rw [String.toList_append]
    cases chars : text.toList with
    | nil => simpa using unmarked
    | cons first rest => simpa [chars] using marked

-- A text that is mapped onto itself: it holds nothing to mask, and no digit stands first.
structure Fragment (text : String) : Prop where
  nonempty : text ≠ ""
  parts : text.toList.all isPart = true
  lead : text.toList.head?.any Char.isDigit = false

theorem mask_parts (chars : List Char) (parts : chars.all isPart = true) : chars.map maskPart = chars := by
  calc chars.map maskPart
      = chars.map id := List.map_congr_left fun c inside => by
          rw [maskPart, if_pos (List.all_eq_true.mp parts c inside), id]
    _ = chars := List.map_id _

theorem sanitize_fragment (text : String) (fragment : Fragment text) : sanitize text = text := by
  rw [sanitize, mask_parts _ fragment.parts]
  cases chars : text.toList with
  | nil => exact absurd (String.toList_eq_nil_iff.mp chars) fragment.nonempty
  | cons first rest =>
      have lead := fragment.lead
      rw [chars, List.head?_cons, Option.any_some] at lead
      rw [← String.toList_inj, chars]
      simp [lead]

theorem digits_start_nothing : ∀ code < 58, 48 ≤ code → isStart (Char.ofNat code) = false := by
  decide +kernel

theorem start_no_digit (c : Char) (start : isStart c = true) : c.isDigit = false := by
  rw [Bool.eq_false_iff]
  intro digit
  have range : 48 ≤ c.toNat ∧ c.toNat ≤ 57 := by
    simpa [Char.isDigit, UInt32.le_iff_toNat_le] using digit
  have none := digits_start_nothing c.toNat (by omega) range.1
  rw [Char.ofNat_toNat, start] at none
  cases none

theorem fragment_of_word (text : String) (word : isWord text.toList = true) : Fragment text := by
  obtain ⟨first, rest, chars, start, _⟩ := word_start _ word
  refine ⟨?_, word_parts _ word, by simp [chars, start_no_digit first start]⟩
  rintro rfl
  cases chars

end Identifier

namespace Naming

open Identifier

theorem backing_field_text (property : String) (first : Char) (rest : List Char)
    (word : (plain property).toList = first :: rest) :
    (backingField property).toList = '_' :: (Text.lowerCase first ++ rest) := by
  rw [backingField, String.toList_append, lowerFirst, word]
  simp

theorem backing_field_unmarked (property : String) (valid : isIdentifier property = true) :
    plain (backingField property) = backingField property := by
  obtain ⟨first, rest, word, _, _⟩ := word_start _ (plain_word property valid)
  apply plain_of_unmarked
  rw [backing_field_text property first rest word]
  simp

-- The underscore makes the field's name longer than the property's, whatever lower case does.
theorem backing_field_apart (property : String) (valid : isIdentifier property = true) :
    plain property ≠ backingField property := by
  obtain ⟨first, rest, word, start, _⟩ := word_start _ (plain_word property valid)
  have lower := List.length_pos_iff.mpr (lower_case_nonempty first start)
  intro same
  have sizes := congrArg (List.length ∘ String.toList) same
  simp only [Function.comp_apply, word, backing_field_text property first rest word, List.length_cons,
    List.length_append] at sizes
  omega

theorem backing_field_identifier (property : String) (valid : isIdentifier property = true) :
    isIdentifier (backingField property) = true ↔ (plain property).toList.head? ≠ some 'İ' := by
  obtain ⟨first, rest, word, start, parts⟩ := word_start _ (plain_word property valid)
  have text := backing_field_text property first rest word
  rw [identifier_of_lead _ '_' (by rw [text]; rfl) (by decide) (by decide), text, word]
  by_cases dotted : first = 'İ'
  · subst dotted
    have mark : (Text.lowerCase 'İ').all isPart = false := by decide +kernel
    simp [isWord, mark]
  · obtain ⟨lower, only, letter⟩ := lower_case_start first start dotted
    have part := part_of_start lower letter
    have lead : isStart '_' = true := rfl
    simp [isWord, only, part, parts, lead, dotted]

end Naming

end ObservableGen
