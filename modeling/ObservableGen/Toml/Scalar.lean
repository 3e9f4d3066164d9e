import ObservableGen.Text.Segment
import ObservableGen.Toml.Text
import ObservableGen.Toml.Value
set_option autoImplicit false

/-!
TOML values written without quotes: booleans, numbers, dates and times.
-/
namespace ObservableGen.Toml

-- Whether digits stand here, with single underscores between some of them.
def digitsHold (isDigit : Char → Bool) : List Char → Bool
  | [] => false
  | [c] => isDigit c
  | c :: '_' :: rest => isDigit c && digitsHold isDigit rest
  | c :: rest => isDigit c && digitsHold isDigit rest

def dropSign : List Char → List Char
  | '+' :: rest | '-' :: rest => rest
  | text => text

def isDecimal : List Char → Bool
  | ['0'] => true
  | '0' :: _ => false
  | text => digitsHold Char.isDigit text

def isGroupEdge (c : Option Char) : Bool :=
  (c.bind Json.hexDigit?).isSome

-- Whether each group has edges that may stand beside the underscores around it.
def groupsHold : List (List Char) → Bool
  | [] => true
  | [last] => isGroupEdge last.head?
  | group :: next :: rest =>
    isGroupEdge group.head? && isGroupEdge group.getLast? && groupsHold (next :: rest)

-- A number without a sign, in groups with single underscores between them. The first group holds
-- decimal digits; of later ones only the edges matter. What would make a float, and a space, is
-- refused.
def isGrouped (text : List Char) : Bool :=
  !text.any (fun c => [' ', '.', 'e', 'E'].contains c)
    && match text.splitOn '_' with
      | first :: next :: rest =>
        isDecimal first && first != ['0'] && groupsHold (next :: rest)
      | _ => false

def radixDigitsHold (isDigit : Char → Bool) (digits : List Char) : Bool :=
  digits.isEmpty || digitsHold isDigit digits

def isInteger : List Char → Bool
  | '0' :: 'x' :: digits => radixDigitsHold (fun c => (Json.hexDigit? c).isSome) digits
  | '0' :: 'o' :: digits => radixDigitsHold (fun c => '0' ≤ c && c ≤ '7') digits
  | '0' :: 'b' :: digits => radixDigitsHold (fun c => c == '0' || c == '1') digits
  | text => isDecimal (dropSign text) || isGrouped (dropSign text)

def isExponentMark (c : Char) : Bool :=
  c == 'e' || c == 'E'

def isFloatTail : List Char → Bool
  | '.' :: rest =>
    digitsHold Char.isDigit (rest.takeWhile fun c => !isExponentMark c)
      && match rest.dropWhile fun c => !isExponentMark c with
        | [] => true
        | _ :: digits => digitsHold Char.isDigit (dropSign digits)
  | c :: digits => isExponentMark c && digitsHold Char.isDigit (dropSign digits)
  | [] => false

def isFloat (text : List Char) : Bool :=
  let unsigned := dropSign text
  let isIntegral := fun c : Char => c.isDigit || c == '_'
  unsigned == ['i', 'n', 'f'] || unsigned == ['n', 'a', 'n']
    || (isDecimal (unsigned.takeWhile isIntegral) && isFloatTail (unsigned.dropWhile isIntegral))

def twoDigits? (a b : Char) : Option Nat :=
  if a.isDigit && b.isDigit then some ((a.toNat - '0'.toNat) * 10 + (b.toNat - '0'.toNat))
  else none

def isLeapYear (year : Nat) : Bool :=
  year % 4 == 0 && (year % 100 != 0 || year % 400 == 0)

def daysIn (year month : Nat) : Nat :=
  if month = 2 then if isLeapYear year then 29 else 28
  else if [4, 6, 9, 11].contains month then 30
  else if 1 ≤ month ∧ month ≤ 12 then 31
  else 0

def date? : List Char → Option (List Char)
  | y :: e :: a :: r :: '-' :: m :: n :: '-' :: d :: g :: rest =>
    match twoDigits? y e, twoDigits? a r, twoDigits? m n, twoDigits? d g with
    | some century, some year, some month, some day =>
      if 1 ≤ day ∧ day ≤ daysIn (century * 100 + year) month then some rest else none
    | _, _, _, _ => none
  | _ => none

-- The text behind the seconds of a time, which may be left out. Decimals may follow them.
def seconds? : List Char → Option (List Char)
  | ':' :: s :: t :: rest =>
    match twoDigits? s t with
    | none => none
    | some seconds =>
      if 60 < seconds then none
      else match rest with
        | '.' :: digits =>
          if (digits.takeWhile Char.isDigit).isEmpty then none
          else some (digits.dropWhile Char.isDigit)
        | _ => some rest
  | ':' :: _ => none
  | text => some text

def clock? : List Char → Option (List Char)
  | h :: o :: ':' :: m :: n :: rest =>
    match twoDigits? h o, twoDigits? m n with
    | some hour, some minute => if hour ≤ 23 ∧ minute ≤ 59 then some rest else none
    | _, _ => none
  | _ => none

def time? (text : List Char) : Option (List Char) :=
  (clock? text).bind seconds?

def isOffset : List Char → Bool
  | [] => true
  | ['Z'] | ['z'] => true
  | '+' :: rest | '-' :: rest => clock? rest == some []
  | _ => false

def isDateTime (text : List Char) : Bool :=
  match date? text with
  | some [] => true
  | some (c :: rest) =>
    (c == 'T' || c == 't' || c == ' ') && ((time? rest).map isOffset).getD false
  | none => time? text == some []

-- A character that may stand in an unquoted value: it neither parts values nor ends a line.
def isUnquoted (c : Char) : Bool :=
  !(isBlank c || ['\n', '\r', '=', ',', '[', ']', '\x7b', '\x7d', '#'].contains c)

-- The unquoted text at this place, `blanks` having been passed, and the text behind it. Blanks belong
-- to it only if more of it follows; a quote behind blanks begins a string of its own.
def unquotedSpan (blanks : List Char) : List Char → List Char × List Char
  | [] => ([], blanks)
  | c :: rest =>
    if isBlank c then unquotedSpan (blanks ++ [c]) rest
    else if isUnquoted c && (blanks.isEmpty || c != '"' && c != '\x27') then
      let span := unquotedSpan [] rest
      (blanks ++ c :: span.1, span.2)
    else ([], blanks ++ c :: rest)

def unquotedValue? (text : List Char) : Option Value :=
  if text = ['t', 'r', 'u', 'e'] then some (.bool true)
  else if text = ['f', 'a', 'l', 's', 'e'] then some (.bool false)
  else if isInteger text || isFloat text then some (.number (String.ofList text))
  else if isDateTime text then some (.time (String.ofList text))
  else none

def unquoted (text : List Char) : Read Value :=
  let span := unquotedSpan [] text
  (unquotedValue? span.1).map fun value => (value, span.2)

end ObservableGen.Toml
