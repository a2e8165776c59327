import ProxyHistory.Text.Basic

/-!
# Numerals

Integers written with the decimal digits `0` to `9`, and the readers that accept a number only
within the bounds of a machine word.
-/

namespace ProxyHistory.Text

/-- The decimal digits of a natural number. -/
def ofNat (number : Nat) : Text :=
  Nat.toDigits 10 number

/-- The decimal digits of an integer, after a minus sign when it is negative. -/
def ofInt : Int → Text
  | .ofNat number => ofNat number
  | .negSucc number => '-' :: ofNat (number + 1)

/-- The number that a nonempty run of decimal digits stands for. -/
def digits? (text : Text) : Option Nat :=
  if text.isEmpty || !text.all Char.isDigit then
    none
  else
    some (text.foldl (fun number c => 10 * number + (c.toNat - '0'.toNat)) 0)

/-- The number below `bound` that the digits stand for; a plus sign may precede them. -/
def natural? (bound : Nat) (text : Text) : Option Nat :=
  let digits := match text with
    | '+' :: rest => rest
    | _ => text
  (digits? digits).filter (· < bound)

/-- The number from `-bound` up to but not including `bound` that the digits stand for; a sign may
precede them. -/
def integer? (bound : Nat) (text : Text) : Option Int :=
  match text with
  | '-' :: rest => ((digits? rest).filter (· ≤ bound)).map fun number => -(number : Int)
  | _ => (natural? bound text).map fun number => (number : Int)

end ProxyHistory.Text
