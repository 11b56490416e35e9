import BucketReplication.Decimal.Layout
import BucketReplication.Document.Value
import BucketReplication.Text.Alphanumeric

/-! # JSON numerals

The spelling of a number, and the number it stands for. An integer is exact
while it fits into 64 bits; every other number is a double-precision one. Its
significand is collected in 64 bits and scaled by powers of ten, each step
rounded, so the result can differ from the nearest double in the last place. -/

namespace BucketReplication.Json

open Document (Number)

/-- The parts of a numeral. The digits of the whole part are never empty; those
of the fraction and of the exponent are absent or not empty. -/
structure Numeral where
  negative : Bool
  whole : List Char
  fraction : Option (List Char)
  exponent : Option (Bool × List Char)
deriving DecidableEq, Repr

namespace Numeral

def spanDigits (text : List Char) : List Char × List Char :=
  (text.takeWhile Char.isDigit, text.dropWhile Char.isDigit)

def scanDigits (text : List Char) : Option (List Char × List Char) :=
  match spanDigits text with
  | ([], _) => none
  | (digits, rest) => some (digits, rest)

def scanWhole (text : List Char) : Option (List Char × List Char) := do
  let (digits, rest) ← scanDigits text
  match digits with
  | '0' :: _ :: _ => none
  | _ => some (digits, rest)

def scanFraction : List Char → Option (Option (List Char) × List Char)
  | '.' :: text => do
    let (digits, rest) ← scanDigits text
    return (some digits, rest)
  | text => some (none, text)

def scanSign : List Char → Bool × List Char
  | '+' :: rest => (false, rest)
  | '-' :: rest => (true, rest)
  | text => (false, text)

def scanExponent : List Char → Option (Option (Bool × List Char) × List Char)
  | c :: text =>
    if c = 'e' ∨ c = 'E' then do
      let (negative, unsigned) := scanSign text
      let (digits, rest) ← scanDigits unsigned
      return (some (negative, digits), rest)
    else some (none, c :: text)
  | [] => some (none, [])

def scan (text : List Char) : Option (Numeral × List Char) := do
  let (negative, unsigned) :=
    match text with
    | '-' :: rest => (true, rest)
    | _ => (false, text)
  let (whole, afterWhole) ← scanWhole unsigned
  let (fraction, afterFraction) ← scanFraction afterWhole
  let (exponent, rest) ← scanExponent afterFraction
  return (⟨negative, whole, fraction, exponent⟩, rest)

def significandLimit : Nat := 18446744073709551616

def negativeLimit : Nat := 9223372036854775808

/-- Collect digits while the significand fits into 64 bits. The digits from the
first one that does not fit on are left. -/
def collect (significand : Nat) : List Char → Nat × List Char
  | [] => (significand, [])
  | c :: rest =>
    let next := 10 * significand + Text.digitValue c
    if next < significandLimit then collect next rest else (significand, c :: rest)

/-- The significand of 64 bits and the power of ten that goes with it. Whole
digits that do not fit count in the power; such digits of the fraction are
dropped. -/
def significandAndPower (numeral : Numeral) : Nat × Int :=
  let (wholePart, wholeLeft) := collect 0 numeral.whole
  let fraction := numeral.fraction.getD []
  let (significand, fractionLeft) := collect wholePart fraction
  (significand, Int.ofNat wholeLeft.length - Int.ofNat (fraction.length - fractionLeft.length))

/-- The number divided by a power of ten, in steps that double precision can
hold. -/
def dividedByPower (value : Float) (power : Nat) : Float :=
  if power ≤ 308 then value / Float.ofScientific 1 false power
  else if value == 0 then value
  else dividedByPower (value / Float.ofScientific 1 false 308) (power - 308)
termination_by power

def magnitude? (significand : Nat) (power : Int) : Option Float :=
  let value := significand.toUInt64.toFloat
  if power < 0 then some (dividedByPower value power.natAbs)
  else if power ≤ 308 then
    let scaled := value * Float.ofScientific 1 false power.toNat
    if scaled.isInf then none else some scaled
  else if significand = 0 then some value
  else none

/-- The exponent is beyond 32 bits: then only a zero or an infinitely small
number remains. -/
def exponentLimit : Nat := 2147483648

def real? (numeral : Numeral) : Option Float := do
  let (significand, power) := numeral.significandAndPower
  let (down, digits) := numeral.exponent.getD (false, [])
  let exponent := Text.valueOfDigits 10 digits
  let unsigned ←
    if exponentLimit ≤ exponent then
      if significand = 0 ∨ down then some 0 else none
    else magnitude? significand (if down then power - exponent else power + exponent)
  return if numeral.negative then -unsigned else unsigned

/-- The number in an integer spelling, if it is an integer that fits. A
negative zero is none. -/
def integer? (numeral : Numeral) : Option Int :=
  match numeral.fraction, numeral.exponent with
  | none, none =>
    let value := Text.valueOfDigits 10 numeral.whole
    if numeral.negative then
      if 0 < value ∧ value ≤ negativeLimit then some (-Int.ofNat value) else none
    else if value < significandLimit then some (Int.ofNat value)
    else none
  | _, _ => none

def number? (numeral : Numeral) : Option Number :=
  match numeral.integer? with
  | some value => some (.integer value)
  | none => numeral.real?.map fun value => .real (Decimal.text .compact value)

end Numeral

end BucketReplication.Json
