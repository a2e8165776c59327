import ProxyHistory.Json.Basic
import ProxyHistory.Text.Numeral

/-!
# Decimal text of floating point numbers

The text of a number is the shortest run of digits that no other number is nearer to, written
positionally when its point falls within or near the digits and with an exponent otherwise.
-/

namespace ProxyHistory.Binary64

/-- Whether the sign bit is set. -/
def isNegative (number : Binary64) : Bool :=
  number.bits >>> 63 == 1

/-- The integer `m` and the exponent `e` of a finite number with the absolute value `m * 2 ^ e`. -/
def parts (number : Binary64) : Nat × Int :=
  let fraction := (number.bits &&& 0xFFFFFFFFFFFFF).toNat
  let exponent := ((number.bits >>> 52) &&& 0x7FF).toNat
  if exponent = 0 then (fraction, -1074) else (fraction + Nat.pow 2 52, exponent - 1075)

/-- The absolute value as a quotient of natural numbers. -/
def quotient (significand : Nat) (exponent : Int) : Nat × Nat :=
  match exponent with
  | .ofNat power => (significand * Nat.pow 2 power, 1)
  | .negSucc power => (significand, Nat.pow 2 (power + 1))

/-- The quotient multiplied by a power of ten. -/
def scaleBy (exponent : Int) (value : Nat × Nat) : Nat × Nat :=
  match exponent with
  | .ofNat power => (value.1 * Nat.pow 10 power, value.2)
  | .negSucc power => (value.1, value.2 * Nat.pow 10 (power + 1))

/-- The exponent of the leading decimal digit of a positive quotient. -/
def leadingExponent (value : Nat × Nat) : Int :=
  let guess : Int := (Nat.toDigits 10 value.1).length - (Nat.toDigits 10 value.2).length
  let scaled := scaleBy (-guess) value
  if scaled.1 < scaled.2 then guess - 1 else guess

/-- A decimal on the grid of the given exponent that rounds to the number, if there is one: of the
two neighbours of the value, the nearer one that lies between `low` and `high`. -/
def onGrid? (value low high : Nat × Nat) (inclusive : Bool) (grid : Int) : Option Nat :=
  let value := scaleBy (-grid) value
  let low := scaleBy (-grid) low
  let high := scaleBy (-grid) high
  let below := value.1 / value.2
  let fits (digits : Nat) : Bool :=
    if inclusive then low.1 ≤ digits * low.2 && digits * high.2 ≤ high.1
    else low.1 < digits * low.2 && digits * high.2 < high.1
  let twice := 2 * (value.1 % value.2)
  let nearer := if twice < value.2 || (twice == value.2 && below % 2 == 0) then below else below + 1
  let farther := if nearer = below then below + 1 else below
  if fits nearer then some nearer else if fits farther then some farther else none

/-- Divide by ten as long as nothing is lost, at most as often as the first argument says. -/
def dropZeros : Nat → Nat → Int → Nat × Int
  | 0, digits, exponent => (digits, exponent)
  | fuel + 1, digits, exponent =>
      if digits ≠ 0 ∧ digits % 10 = 0 then dropZeros fuel (digits / 10) (exponent + 1)
      else (digits, exponent)

/-- The shortest decimal, as digits and exponent, that rounds to the finite number other than
zero. -/
def shortest (number : Binary64) : Nat × Int :=
  let (significand, exponent) := number.parts
  let narrow := significand = Nat.pow 2 52 ∧ exponent ≠ -1074
  let value := quotient (4 * significand) (exponent - 2)
  let low := quotient (4 * significand - if narrow then 1 else 2) (exponent - 2)
  let high := quotient (4 * significand + 2) (exponent - 2)
  let leading := leadingExponent value
  let grids := (List.range 17).map fun (digits : Nat) => leading - digits
  match grids.findSome? fun grid =>
      (onGrid? value low high (significand % 2 == 0) grid).map fun digits => (digits, grid) with
  | some (digits, grid) => dropZeros 18 digits grid
  | none => (0, 0)

/-- The digits with a decimal point: positional when the point stands at most sixteen digits after
the first digit or five before it, and otherwise after the first digit with an exponent. -/
def place (digits : Text) (exponent : Int) : Text :=
  let point := digits.length + exponent
  if 0 ≤ exponent ∧ point ≤ 16 then
    digits ++ List.replicate exponent.toNat '0' ++ ".0".toList
  else if 0 < point ∧ point ≤ 16 then
    digits.take point.toNat ++ '.' :: digits.drop point.toNat
  else if -5 < point ∧ point ≤ 0 then
    "0.".toList ++ List.replicate (-point).toNat '0' ++ digits
  else
    let lead := match digits with
      | first :: second :: rest => first :: '.' :: second :: rest
      | _ => digits
    lead ++ 'e' :: Text.ofInt (point - 1)

/-- The text of a finite number. -/
def render (number : Binary64) : Text :=
  let sign := if number.isNegative then ['-'] else []
  if number.parts.1 = 0 then
    sign ++ "0.0".toList
  else
    let (digits, exponent) := number.shortest
    sign ++ place (Text.ofNat digits) exponent

/-- The number nearest to a quotient or product of floating point numbers: `significand` times a
power of ten, each rounded on its own. None when the result is out of range. -/
def scaled? (negative : Bool) (significand : Nat) (exponent : Int) : Option Binary64 :=
  let magnitude := significand.toUInt64.toFloat
  let result :=
    match exponent with
    | .ofNat power =>
        if significand = 0 then 0.0
        else if power ≤ 308 then magnitude * Float.ofScientific 1 false power
        else 1.0 / 0.0
    | .negSucc power =>
        if power + 1 ≤ 308 then magnitude / Float.ofScientific 1 false (power + 1)
        else if power + 1 ≤ 616 then
          magnitude / Float.ofScientific 1 false 308 / Float.ofScientific 1 false (power + 1 - 308)
        else 0.0
  if result.isInf then none else some ⟨(if negative then -result else result).toBits⟩

end ProxyHistory.Binary64
