set_option autoImplicit false

/-!
The range of JSON numbers: a number counts as well formed only if a double can hold it. Digits are
taken up to 64 bits, the rest move the decimal point, and the two factors are rounded to double
precision one by one before they are multiplied.
-/
namespace ObservableGen.Json

-- Rounds to the nearest natural number of at most 53 significant bits, a tie to the even one.
def roundTo53Bits (n : Nat) : Nat :=
  let drop := n.log2 - 52
  let unit := 1 <<< drop
  let low := n / unit
  let rest := 2 * (n % unit)
  if rest < unit ∨ rest = unit ∧ low % 2 = 0 then low * unit else (low + 1) * unit

def beyondDouble : Nat :=
  (1 <<< 1024) - (1 <<< 970)

-- Whether `significand · 10 ^ exponent` stays in the range of doubles. Powers past `10 ^ 308` are out
-- of range whatever nonzero number they scale.
def inDoubleRange (significand : Nat) (exponent : Int) : Bool :=
  match exponent with
  | .negSucc _ => true
  | .ofNat power =>
    if significand = 0 then true
    else if 308 < power then false
    else roundTo53Bits significand * roundTo53Bits (Nat.pow 10 power) < beyondDouble

end ObservableGen.Json
