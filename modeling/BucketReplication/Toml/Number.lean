import BucketReplication.Decimal.Layout
import BucketReplication.Document.Value
import BucketReplication.Toml.Quotation

/-! # TOML numbers

Integers have 64 bits. Between two digits an underscore may stand. -/

namespace BucketReplication.Toml

open Document (Number)

namespace Numeral

def moreDigits (isDigit : Char → Bool) : Scan (List Char)
  | '_' :: c :: rest =>
    if isDigit c then do
      let (digits, following) ← moreDigits isDigit rest
      return (c :: digits, following)
    else none
  | '_' :: [] => none
  | c :: rest =>
    if isDigit c then do
      let (digits, following) ← moreDigits isDigit rest
      return (c :: digits, following)
    else some ([], c :: rest)
  | [] => some ([], [])

def digits (isDigit : Char → Bool) : Scan (List Char)
  | c :: rest =>
    if isDigit c then do
      let (others, following) ← moreDigits isDigit rest
      return (c :: others, following)
    else none
  | [] => none

def whole : Scan (List Char)
  | '0' :: rest => some (['0'], rest)
  | text => digits Char.isDigit text

def sign : List Char → Bool × List Char
  | '+' :: rest => (false, rest)
  | '-' :: rest => (true, rest)
  | text => (false, text)

def integerLimit : Nat := 9223372036854775808

def integer? (negative : Bool) (magnitude : Nat) : Option Number :=
  if negative then
    if magnitude ≤ integerLimit then some (.integer (-Int.ofNat magnitude)) else none
  else if magnitude < integerLimit then some (.integer (Int.ofNat magnitude))
  else none

def isOctal (c : Char) : Bool :=
  '0' ≤ c && c ≤ '7'

def isBinary (c : Char) : Bool :=
  c = '0' || c = '1'

def based (base : Nat) (isDigit : Char → Bool) : Scan Number := fun text => do
  let (found, rest) ← digits isDigit text
  let number ← integer? false (Text.valueOfDigits base found)
  return (number, rest)

/-- The double-precision number nearest to `digits * 10 ^ power`. -/
def nearest (significand : Nat) (power : Int) : Float :=
  let places := Int.ofNat (Nat.repr significand).length + power
  if significand = 0 ∨ places < -400 then 0
  else if 400 < places then Float.ofScientific 1 false 400
  else if power < 0 then Float.ofScientific significand true power.natAbs
  else Float.ofScientific significand false power.toNat

def real (value : Float) : Number :=
  .real (Decimal.text .positional value)

def fraction : Scan (Option (List Char))
  | '.' :: rest => do
    let (found, following) ← digits Char.isDigit rest
    return (some found, following)
  | text => some (none, text)

def exponent : Scan (Option Int)
  | c :: rest =>
    if c = 'e' ∨ c = 'E' then do
      let (negative, unsigned) := sign rest
      let (found, following) ← digits Char.isDigit unsigned
      let magnitude := Int.ofNat (Text.valueOfDigits 10 found)
      return (some (if negative then -magnitude else magnitude), following)
    else some (none, c :: rest)
  | [] => some (none, [])

/-- An integer or a real number in decimal digits. Only towards minus infinity
may a real number leave the range of double precision. -/
def decimal : Scan Number := fun text => do
  let (negative, unsigned) := sign text
  let (wholeDigits, afterWhole) ← whole unsigned
  let (fractionDigits, afterFraction) ← fraction afterWhole
  let (power, rest) ← exponent afterFraction
  match fractionDigits, power with
  | none, none =>
    let number ← integer? negative (Text.valueOfDigits 10 wholeDigits)
    return (number, rest)
  | _, _ =>
    let behindPoint := fractionDigits.getD []
    let value := nearest (Text.valueOfDigits 10 (wholeDigits ++ behindPoint))
      (power.getD 0 - Int.ofNat behindPoint.length)
    if negative then return (real (-value), rest)
    else if value.isInf then none
    else return (real value, rest)

def named : Scan Number := fun text =>
  let (negative, unsigned) := sign text
  match unsigned with
  | 'i' :: 'n' :: 'f' :: rest => some (.real (if negative then "-inf" else "inf"), rest)
  | 'n' :: 'a' :: 'n' :: rest => some (.real "NaN", rest)
  | _ => none

def scan : Scan Number
  | '0' :: 'x' :: rest => based 16 Quotation.isHexadecimal rest
  | '0' :: 'o' :: rest => based 8 isOctal rest
  | '0' :: 'b' :: rest => based 2 isBinary rest
  | text => (named text).or (decimal text)

end Numeral

end BucketReplication.Toml
