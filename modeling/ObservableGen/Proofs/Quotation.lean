import ObservableGen.Json.Text
import ObservableGen.Source.Literal
set_option autoImplicit false

/-!
Quoted texts, read back as the language reads a regular string literal. Main statement: a quoted text
is one such literal, and what it stands for is that text and no other.
-/
namespace ObservableGen.Source

namespace Literal

def units (code : Nat) : List Nat :=
  if code < 0x10000 then [code]
  else [0xD800 + (code - 0x10000) / 0x400, 0xDC00 + (code - 0x10000) % 0x400]

def codeUnits (text : List Char) : List Nat :=
  text.flatMap fun c => units c.toNat

def endsLine (c : Char) : Bool :=
  c == '\r' || c == '\n' || isWideTerminator c

-- The code unit that a backslash and one letter stand for.
def letterEscape? : Char → Option Nat
  | '\'' => some 0x27
  | '"' => some 0x22
  | '\\' => some 0x5C
  | '0' => some 0
  | 'a' => some 0x07
  | 'b' => some 0x08
  | 'e' => some 0x1B
  | 'f' => some 0x0C
  | 'n' => some 0x0A
  | 'r' => some 0x0D
  | 't' => some 0x09
  | 'v' => some 0x0B
  | _ => none

def hexValue? (digits : List Char) : Option Nat :=
  digits.foldlM (fun value digit => (Json.hexDigit? digit).map (value * 16 + ·)) 0

-- An escape by code of so many digits, and the text behind it.
def codeEscape? (count : Nat) (text : List Char) : Option (List Nat × List Char) :=
  if text.length < count then none
  else match hexValue? (text.take count) with
    | some code => if code ≤ 0x10FFFF then some (units code, text.drop count) else none
    | none => none

-- What follows a backslash. The digits behind an `x` are one to four, as many as there are.
def escaped? : List Char → Option (List Nat × List Char)
  | [] => none
  | 'x' :: rest =>
      let digits := (rest.take 4).takeWhile fun c => (Json.hexDigit? c).isSome
      if digits.isEmpty then none else codeEscape? digits.length rest
  | 'u' :: rest => codeEscape? 4 rest
  | 'U' :: rest => codeEscape? 8 rest
  | letter :: rest => (letterEscape? letter).map fun unit => ([unit], rest)

-- The first element of a literal's body, which is an escape or stands for itself.
def element? : List Char → Option (List Nat × List Char)
  | [] => none
  | '\\' :: rest => escaped? rest
  | c :: rest => if c == '"' || endsLine c then none else some (units c.toNat, rest)

theorem code_escape_length (count : Nat) (text rest : List Char) (read : List Nat)
    (found : codeEscape? count text = some (read, rest)) : rest.length ≤ text.length := by
  unfold codeEscape? at found
  repeat' split at found
  all_goals cases found
  simp

theorem escaped_shorter (text rest : List Char) (read : List Nat)
    (found : escaped? text = some (read, rest)) : rest.length < text.length := by
  unfold escaped? at found
  split at found
  · cases found
  · dsimp only at found
    split at found
    · cases found
    · exact Nat.lt_succ_of_le (code_escape_length _ _ _ _ found)
  · exact Nat.lt_succ_of_le (code_escape_length _ _ _ _ found)
  · exact Nat.lt_succ_of_le (code_escape_length _ _ _ _ found)
  · obtain ⟨unit, _, same⟩ := Option.map_eq_some_iff.mp found
    cases same
    exact Nat.lt_succ_self _

theorem element_shorter (text rest : List Char) (read : List Nat)
    (found : element? text = some (read, rest)) : rest.length < text.length := by
  unfold element? at found
  split at found
  · cases found
  · exact Nat.lt_succ_of_lt (escaped_shorter _ _ _ found)
  · split at found
    · cases found
    · cases found
      exact Nat.lt_succ_self _

-- A body up to its closing quote, behind which nothing follows.
def body? (text : List Char) : Option (List Nat) :=
  match text with
  | ['"'] => some []
  | text =>
      match _read : element? text with
      | some (read, rest) => (body? rest).map (read ++ ·)
      | none => none
termination_by text.length
decreasing_by exact element_shorter text rest read _read

def decode? : List Char → Option (List Nat)
  | '"' :: body => body? body
  | _ => none

-- The escapes of JSON, which leaves all but the first controls as they are.
def jsonEscape (c : Char) : List Char :=
  match c with
  | '"' => ['\\', '"']
  | '\\' => ['\\', '\\']
  | '\x08' => ['\\', 'b']
  | '\x0c' => ['\\', 'f']
  | '\n' => ['\\', 'n']
  | '\r' => ['\\', 'r']
  | '\t' => ['\\', 't']
  | c => if c.toNat < 0x20 then numberedEscape c else [c]

def jsonText (value : String) : List Char :=
  '"' :: value.toList.flatMap jsonEscape ++ ['"']

def replaced (wanted : Char) (spelling text : List Char) : List Char :=
  text.flatMap fun c => if c = wanted then spelling else [c]

-- The terminators that JSON leaves, with their spellings.
def spellings : List (Char × String) :=
  [('\u0085', "\\u0085"), ('\u2028', "\\u2028"), ('\u2029', "\\u2029")]

-- One terminator after the other is replaced in the whole text.
def spelledOut (text : List Char) : List Char :=
  spellings.foldl (fun text entry => replaced entry.1 entry.2.toList text) text

theorem spelled_out_flat (text : List Char) :
    spelledOut text = text.flatMap fun c => if isWideTerminator c then numberedEscape c else [c] := by
  simp only [spelledOut, spellings, List.foldl_cons, List.foldl_nil, replaced, List.flatMap_assoc]
  congr 1
  funext c
  by_cases first : c = '\u0085'
  · subst first
    decide
  · by_cases second : c = '\u2028'
    · subst second
      decide
    · by_cases third : c = '\u2029'
      · subst third
        decide
      · have other : isWideTerminator c = false := by
          simp only [isWideTerminator, beq_false_of_ne first, beq_false_of_ne second,
            beq_false_of_ne third, Bool.or_false]
        simp only [if_neg first, if_neg second, if_neg third, List.flatMap_singleton, other]
        rfl

theorem hex_digit_char : ∀ digit < 16, Json.hexDigit? (Nat.digitChar digit) = some digit := by
  decide

theorem digit_char_plain : ∀ digit < 16, isWideTerminator (Nat.digitChar digit) = false
    ∧ endsLine (Nat.digitChar digit) = false := by
  decide

theorem numbered_plain (c d : Char) (inside : d ∈ numberedEscape c) :
    isWideTerminator d = false ∧ endsLine d = false := by
  have digit (n : Nat) := digit_char_plain (n % 16) (Nat.mod_lt _ (by decide))
  simp only [numberedEscape, hexDigits, List.mem_cons, List.not_mem_nil, or_false] at inside
  obtain rfl | rfl | rfl | rfl | rfl | rfl := inside
  · decide
  · decide
  all_goals exact digit _

theorem hex_value_digits (code : Nat) (small : code < 0x10000) : hexValue? (hexDigits code) = some code := by
  have digit (n : Nat) := hex_digit_char (n % 16) (Nat.mod_lt _ (by decide))
  simp only [hexValue?, hexDigits, List.foldlM_cons, List.foldlM_nil, digit, Option.map_some,
    Option.bind_eq_bind, Option.bind_some, Option.pure_def, Option.some.injEq]
  omega

theorem numbered_element (c : Char) (rest : List Char) (small : c.toNat < 0x10000) :
    element? (numberedEscape c ++ rest) = some (units c.toNat, rest) := by
  have value := hex_value_digits c.toNat small
  have size : (hexDigits c.toNat).length = 4 := rfl
  have front : (hexDigits c.toNat ++ rest).take 4 = hexDigits c.toNat := by
    rw [← size, List.take_left]
  have back : (hexDigits c.toNat ++ rest).drop 4 = rest := by
    rw [← size, List.drop_left]
  have read : codeEscape? 4 (hexDigits c.toNat ++ rest) = some (units c.toNat, rest) := by
    rw [codeEscape?, if_neg (by simp [size]), front, value, back]
    exact if_pos (by omega)
  exact read

theorem wide_small (c : Char) (wide : isWideTerminator c = true) : c.toNat < 0x10000 := by
  simp only [isWideTerminator, Bool.or_eq_true, beq_iff_eq] at wide
  obtain (rfl | rfl) | rfl := wide
  · decide
  · decide
  · decide

-- All that an escape can be: a letter behind a backslash, a code, or the character itself.
theorem escape_cases (c : Char) :
    (∃ letter, escape c = ['\\', letter] ∧ letterEscape? letter = some c.toNat ∧
      endsLine letter = false ∧ c.toNat < 0x10000) ∨
    (escape c = numberedEscape c ∧ c.toNat < 0x10000) ∨
    (escape c = [c] ∧ c ≠ '"' ∧ c ≠ '\\' ∧ endsLine c = false) := by
  unfold escape
  split
  · exact .inl ⟨'"', by decide⟩
  · exact .inl ⟨'\\', by decide⟩
  · exact .inl ⟨'b', by decide⟩
  · exact .inl ⟨'f', by decide⟩
  · exact .inl ⟨'n', by decide⟩
  · exact .inl ⟨'r', by decide⟩
  · exact .inl ⟨'t', by decide⟩
  · rename_i quote backslash _ _ feed carriage _
    split
    · rename_i numbered
      rw [Bool.or_eq_true, decide_eq_true_eq] at numbered
      obtain control | wide := numbered
      · exact .inr (.inl ⟨rfl, by omega⟩)
      · exact .inr (.inl ⟨rfl, wide_small c wide⟩)
    · rename_i plain
      rw [Bool.not_eq_true, Bool.or_eq_false_iff] at plain
      refine .inr (.inr ⟨rfl, quote, backslash, ?_⟩)
      have feed : c ≠ '\n' := feed
      have carriage : c ≠ '\r' := carriage
      simp [endsLine, feed, carriage, plain.2]

theorem escaped_letter (letter : Char) (unit : Nat) (rest : List Char)
    (known : letterEscape? letter = some unit) : escaped? (letter :: rest) = some ([unit], rest) := by
  unfold escaped?
  split
  · contradiction
  · rename_i same
    cases same
    cases known
  · rename_i same
    cases same
    cases known
  · rename_i same
    cases same
    cases known
  · rename_i same
    cases same
    rw [known]
    rfl

-- Whatever follows, a character's escape is one element, and the element stands for the character.
theorem escape_element (c : Char) (rest : List Char) :
    element? (escape c ++ rest) = some (units c.toNat, rest) := by
  obtain ⟨letter, spelled, known, _, small⟩ | ⟨spelled, small⟩ | ⟨spelled, quote, backslash, ends⟩ :=
    escape_cases c
  · rw [spelled, units, if_pos small]
    exact escaped_letter letter c.toNat rest known
  · rw [spelled]
    exact numbered_element c rest small
  · rw [spelled, List.singleton_append, element?]
    · simp [quote, ends]
    · exact backslash

theorem escape_on_line (c d : Char) (inside : d ∈ escape c) : endsLine d = false := by
  obtain ⟨letter, spelled, _, ends, _⟩ | ⟨spelled, _⟩ | ⟨spelled, _, _, ends⟩ := escape_cases c
  · rw [spelled] at inside
    obtain rfl | rfl : d = '\\' ∨ d = letter := by simpa using inside
    · decide
    · exact ends
  · rw [spelled] at inside
    exact (numbered_plain c d inside).2
  · rw [spelled, List.mem_singleton] at inside
    rwa [inside]

theorem spelled_out_plain (text : List Char) (plain : ∀ c ∈ text, isWideTerminator c = false) :
    spelledOut text = text := by
  rw [spelled_out_flat]
  induction text with
  | nil => rfl
  | cons c rest ih =>
      obtain ⟨first, others⟩ := List.forall_mem_cons.mp plain
      simp [first, ih others]

-- The terminators are replaced in front of no escape and inside of none.
theorem spelled_out_escape (c : Char) : spelledOut (jsonEscape c) = escape c := by
  unfold jsonEscape escape
  split
  · decide
  · decide
  · decide
  · decide
  · decide
  · decide
  · decide
  · by_cases control : c.toNat < 0x20
    · have numbered := spelled_out_plain _ fun d inside => (numbered_plain c d inside).1
      simp [control, numbered]
    · simp [control, spelled_out_flat]

theorem spelled_out_text (value : String) : spelledOut (jsonText value) = (quote value).toList := by
  have each := spelled_out_escape
  simp only [spelled_out_flat] at each
  have mark : isWideTerminator '"' = false := by decide
  simp [jsonText, quote, spelled_out_flat, List.flatMap_assoc, each, mark]

theorem body_element (text rest : List Char) (read : List Nat)
    (found : element? text = some (read, rest)) : body? text = (body? rest).map (read ++ ·) := by
  have unclosed : text ≠ ['"'] := by
    rintro rfl
    cases found
  rw [body?]
  · split
    · rename_i known
      cases known.symm.trans found
      rfl
    · rename_i known
      cases known.symm.trans found
  · exact unclosed

theorem body_escaped (text : List Char) :
    body? (text.flatMap escape ++ ['"']) = some (codeUnits text) := by
  induction text with
  | nil =>
      rw [List.flatMap_nil, List.nil_append, body?]
      rfl
  | cons c rest ih =>
      rw [List.flatMap_cons, List.append_assoc, body_element _ _ _ (escape_element c _), ih]
      rfl

-- Characters are no surrogates, so the first unit tells whether a second belongs to it.
theorem units_apart (left right : Char) (leftRest rightRest : List Nat)
    (same : units left.toNat ++ leftRest = units right.toNat ++ rightRest) :
    left = right ∧ leftRest = rightRest := by
  have leftValid : left.toNat < 0xD800 ∨ 0xDFFF < left.toNat ∧ left.toNat < 0x110000 := left.valid
  have rightValid : right.toNat < 0xD800 ∨ 0xDFFF < right.toNat ∧ right.toNat < 0x110000 := right.valid
  rw [← Char.toNat_inj]
  unfold units at same
  by_cases leftSmall : left.toNat < 0x10000
  · by_cases rightSmall : right.toNat < 0x10000
    · simpa [leftSmall, rightSmall] using same
    · simp only [if_pos leftSmall, if_neg rightSmall, List.cons_append, List.cons.injEq] at same
      omega
  · by_cases rightSmall : right.toNat < 0x10000
    · simp only [if_neg leftSmall, if_pos rightSmall, List.cons_append, List.cons.injEq] at same
      omega
    · simp only [if_neg leftSmall, if_neg rightSmall, List.cons_append, List.cons.injEq,
        List.nil_append] at same
      exact ⟨by omega, same.2.2⟩

theorem code_units_injective (left right : List Char) (same : codeUnits left = codeUnits right) :
    left = right := by
  have some (c : Char) (rest : List Char) : codeUnits (c :: rest) ≠ [] := by
    rw [codeUnits, List.flatMap_cons, units]
    split <;> simp
  induction left generalizing right with
  | nil =>
      cases right with
      | nil => rfl
      | cons c rest => exact absurd same.symm (some c rest)
  | cons c rest ih =>
      cases right with
      | nil => exact absurd same (some c rest)
      | cons d others =>
          obtain ⟨rfl, tails⟩ := units_apart c d _ _ same
          rw [ih others tails]

theorem quoted_text_decodes (value : String) :
    let text := (quote value).toList
    text = spelledOut (jsonText value) ∧
    text = '"' :: value.toList.flatMap escape ++ ['"'] ∧
    (∀ c ∈ value.toList, ∀ rest, element? (escape c ++ rest) = some (units c.toNat, rest)) ∧
    (∀ c ∈ text, endsLine c = false) ∧
    ∀ other : String, decode? text = some (codeUnits other.toList) ↔ other = value := by
  intro text
  have spelled : text = '"' :: value.toList.flatMap escape ++ ['"'] := by simp [text, quote]
  refine ⟨(spelled_out_text value).symm, spelled, fun c _ => escape_element c, ?_, ?_⟩
  · intro c inside
    simp only [spelled, List.mem_append, List.mem_cons, List.mem_flatMap, List.not_mem_nil,
      or_false] at inside
    obtain (rfl | ⟨d, _, escaped⟩) | rfl := inside
    · decide
    · exact escape_on_line d c escaped
    · decide
  · intro other
    have decoded : decode? text = some (codeUnits value.toList) := by
      rw [spelled]
      exact body_escaped value.toList
    rw [decoded, Option.some.injEq]
    constructor
    · intro same
      exact (String.toList_inj.mp (code_units_injective _ _ same)).symm
    · rintro rfl
      rfl

-- A quote and a terminator between backslashes.
example : quote "\\\"\u2028\\" = "\"\\\\\\\"\\u2028\\\\\"" := by decide

end Literal

end ObservableGen.Source
