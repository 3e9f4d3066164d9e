import ObservableGen.Json.Number
set_option autoImplicit false

/-!
Strings and numbers as JSON writes them. A reader that fails says whether the text ended early or
is malformed; each step leaves less text than it was given.
-/
namespace ObservableGen.Json

inductive Fault where
  -- The text ends too early.
  | truncated
  -- A character stands where none of its kind may.
  | malformed
  -- A well-formed value of another type begins.
  | mistyped
deriving DecidableEq, Repr, Inhabited

def isSpace (c : Char) : Bool :=
  c == ' ' || c == '\n' || c == '\t' || c == '\r'

def skipSpace (text : List Char) : List Char :=
  text.dropWhile isSpace

def hexDigit? (c : Char) : Option Nat :=
  if c.isDigit then some (c.toNat - '0'.toNat)
  else if 'a' ≤ c ∧ c ≤ 'f' then some (c.toNat - 'a'.toNat + 10)
  else if 'A' ≤ c ∧ c ≤ 'F' then some (c.toNat - 'A'.toNat + 10)
  else none

-- The four hexadecimal digits of an escape. They take four bytes: where fewer are left the text ends
-- too early, whatever stands there.
def hexEscape (text : List Char) : Except Fault (Nat × List Char) :=
  match text with
  | a :: b :: c :: d :: rest =>
    match hexDigit? a, hexDigit? b, hexDigit? c, hexDigit? d with
    | some a, some b, some c, some d => .ok (((a * 16 + b) * 16 + c) * 16 + d, rest)
    | _, _, _, _ => .error .malformed
  | short =>
    if short.foldl (fun bytes c => bytes + c.utf8Size) 0 < 4 then .error .truncated
    else .error .malformed

def lowSurrogate (high : Nat) (text : List Char) : Except Fault (Char × List Char) :=
  match text with
  | [] | ['\\'] => .error .truncated
  | '\\' :: 'u' :: rest =>
    match hexEscape rest with
    | .error fault => .error fault
    | .ok (low, rest) =>
      if 0xDC00 ≤ low ∧ low ≤ 0xDFFF then
        .ok (Char.ofNat (0x10000 + (high - 0xD800) * 0x400 + (low - 0xDC00)), rest)
      else .error .malformed
  | _ => .error .malformed

-- An escape by number. Surrogates count only as a pair.
def numericEscape (text : List Char) : Except Fault (Char × List Char) :=
  match hexEscape text with
  | .error fault => .error fault
  | .ok (code, rest) =>
    if 0xDC00 ≤ code ∧ code ≤ 0xDFFF then .error .malformed
    else if 0xD800 ≤ code ∧ code ≤ 0xDBFF then lowSurrogate code rest
    else .ok (Char.ofNat code, rest)

def letterEscape? : Char → Option Char
  | '"' => some '"'
  | '\\' => some '\\'
  | '/' => some '/'
  | 'b' => some '\x08'
  | 'f' => some '\x0c'
  | 'n' => some '\n'
  | 'r' => some '\r'
  | 't' => some '\t'
  | _ => none

def escape (text : List Char) : Except Fault (Char × List Char) :=
  match text with
  | [] => .error .truncated
  | 'u' :: rest => numericEscape rest
  | c :: rest =>
    match letterEscape? c with
    | some escaped => .ok (escaped, rest)
    | none => .error .malformed

def nextChar (text : List Char) : Except Fault (Option Char × List Char) :=
  match text with
  | [] => .error .truncated
  | '"' :: rest => .ok (none, rest)
  | '\\' :: rest => (escape rest).map fun read => (some read.1, read.2)
  | c :: rest => if c.toNat < 0x20 then .error .malformed else .ok (some c, rest)

theorem hex_escape_shorter (text rest : List Char) (code : Nat)
    (read : hexEscape text = .ok (code, rest)) : rest.length < text.length := by
  unfold hexEscape at read
  repeat' split at read
  all_goals simp_all
  omega

theorem low_surrogate_shorter (high : Nat) (text rest : List Char) (c : Char)
    (read : lowSurrogate high text = .ok (c, rest)) : rest.length < text.length := by
  unfold lowSurrogate at read
  repeat' split at read
  all_goals simp_all
  rename_i escaped _
  have shorter := hex_escape_shorter _ _ _ escaped
  omega

theorem numeric_escape_shorter (text rest : List Char) (c : Char)
    (read : numericEscape text = .ok (c, rest)) : rest.length < text.length := by
  unfold numericEscape at read
  split at read
  · cases read
  · rename_i escaped
    have shorter := hex_escape_shorter _ _ _ escaped
    repeat' split at read
    · cases read
    · exact Nat.lt_trans (low_surrogate_shorter _ _ _ _ read) shorter
    · cases read
      exact shorter

theorem escape_shorter (text rest : List Char) (c : Char) (read : escape text = .ok (c, rest)) :
    rest.length < text.length := by
  unfold escape at read
  repeat' split at read
  · cases read
  · exact Nat.lt_succ_of_lt (numeric_escape_shorter _ _ _ read)
  · cases read
    simp
  · cases read

theorem next_char_shorter (text rest : List Char) (c : Option Char)
    (read : nextChar text = .ok (c, rest)) : rest.length < text.length := by
  unfold nextChar at read
  split at read
  · cases read
  · cases read
    simp
  · rename_i rest'
    cases escaped : escape rest' with
    | error fault => simp [escaped, Except.map] at read
    | ok result =>
      simp only [escaped, Except.map, Except.ok.injEq, Prod.mk.injEq] at read
      have shorter := escape_shorter rest' result.2 result.1 escaped
      rw [← read.2]
      exact Nat.lt_succ_of_lt shorter
  · split at read
    · cases read
    · cases read
      simp

def stringBody (text : List Char) : Except Fault (List Char × List Char) :=
  match _read : nextChar text with
  | .error fault => .error fault
  | .ok (none, rest) => .ok ([], rest)
  | .ok (some c, rest) => (stringBody rest).map fun body => (c :: body.1, body.2)
termination_by text.length
decreasing_by exact next_char_shorter text rest (some c) _read

theorem string_body_shorter (text rest body : List Char)
    (read : stringBody text = .ok (body, rest)) : rest.length < text.length := by
  fun_induction stringBody text generalizing body rest with
  | case1 => cases read
  | case2 text rest' step =>
    cases read
    exact next_char_shorter text _ none step
  | case3 text c rest' step ih =>
    cases inner : stringBody rest' with
    | error fault => simp [inner, Except.map] at read
    | ok result =>
      simp only [inner, Except.map, Except.ok.injEq, Prod.mk.injEq] at read
      have shorter := ih result.2 result.1 inner
      rw [← read.2]
      exact Nat.lt_trans shorter (next_char_shorter text rest' (some c) step)

-- Adds digits to a number as long as it stays below `2 ^ 64`, and gives the digits left over.
def absorbDigits (significand : Nat) : List Char → Nat × List Char
  | [] => (significand, [])
  | digit :: rest =>
    let next := significand * 10 + (digit.toNat - '0'.toNat)
    if next < 0x10000000000000000 then absorbDigits next rest else (significand, digit :: rest)

-- What is wrong where a number of this size stands: it is out of range or just not wanted.
def faultOfSize (significand : Nat) (exponent : Int) : Fault :=
  if inDoubleRange significand exponent then .mistyped else .malformed

def faultOfExponent (significand : Nat) (scale : Int) (text : List Char) : Fault :=
  let negative := text.head? == some '-'
  let digits := if negative || text.head? == some '+' then text.tail else text
  match digits with
  | [] => .truncated
  | first :: _ =>
    if first.isDigit then
      let power := (digits.takeWhile Char.isDigit).foldl
        (fun power digit => power * 10 + (digit.toNat - '0'.toNat)) 0
      faultOfSize significand (if negative then scale - power else scale + power)
    else .malformed

def faultOfScale (significand : Nat) (scale : Int) (text : List Char) : Fault :=
  match text with
  | 'e' :: rest | 'E' :: rest => faultOfExponent significand scale rest
  | _ => faultOfSize significand scale

-- What is wrong with a number after its integral digits: a fraction may follow.
def faultOfFraction (significand : Nat) (scale : Int) (text : List Char) : Fault :=
  match text with
  | '.' :: rest =>
    match rest with
    | [] => .truncated
    | first :: _ =>
      if first.isDigit then
        let digits := rest.takeWhile Char.isDigit
        let absorbed := absorbDigits significand digits
        faultOfScale absorbed.1 (scale - (digits.length - absorbed.2.length : Nat))
          (rest.dropWhile Char.isDigit)
      else .malformed
  | _ => faultOfScale significand scale text

-- What is wrong where a number stands, its sign already read. No number is ever wanted, but a malformed
-- one is reported as such.
def faultOfNumber (text : List Char) : Fault :=
  match text with
  | [] => .truncated
  | '0' :: rest =>
    if (rest.head?.map Char.isDigit).getD false then .malformed else faultOfFraction 0 0 rest
  | first :: _ =>
    if first.isDigit then
      let absorbed := absorbDigits 0 (text.takeWhile Char.isDigit)
      faultOfFraction absorbed.1 absorbed.2.length (text.dropWhile Char.isDigit)
    else .malformed

def faultOfWord : List Char → List Char → Fault
  | [], _ => .mistyped
  | _ :: _, [] => .truncated
  | wanted :: word, c :: rest => if c = wanted then faultOfWord word rest else .malformed

-- What is wrong where a value of another type than the wanted one may stand. Its first character tells
-- an array or object; any other value is read to its end first.
def faultOfValue (text : List Char) : Fault :=
  match text with
  | [] => .truncated
  | 'n' :: rest => faultOfWord ['u', 'l', 'l'] rest
  | 't' :: rest => faultOfWord ['r', 'u', 'e'] rest
  | 'f' :: rest => faultOfWord ['a', 'l', 's', 'e'] rest
  | '-' :: rest => faultOfNumber rest
  | '"' :: rest =>
    match stringBody rest with
    | .error fault => fault
    | .ok _ => .mistyped
  | first :: _ =>
    if first = '[' ∨ first = '\x7b' then .mistyped
    else if first.isDigit then faultOfNumber text
    else .malformed

end ObservableGen.Json
