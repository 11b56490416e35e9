import BucketReplication.Decimal.Shortest

/-! # Layout of decimal numbers

How the shortest decimal of a number is put on paper. A layout says which
numbers are written out around a decimal point; all others are written with one
digit before the point and an exponent. It also says which of two equally near
decimals is written. -/

namespace BucketReplication.Decimal

/-- `isPositional x` says that a number with first digit at `10 ^ x` is written
without exponent. -/
structure Layout where
  isPositional : Int → Bool
  tie : Tie

namespace Layout

/-- Every number is written out, and of two equally near decimals the one of
greater magnitude. -/
def positional : Layout := ⟨fun _ => true, .greater⟩

/-- Numbers from `0.00001` up to sixteen digits before the point are written
out, and of two equally near decimals the one that ends in an even digit. -/
def compact : Layout := ⟨fun leading => -5 ≤ leading && leading ≤ 15, .even⟩

end Layout

def zeros (count : Nat) : String :=
  String.ofList (List.replicate count '0')

namespace Scientific

def written (number : Scientific) : String :=
  let digits := Nat.repr number.digits
  if 0 ≤ number.exponent then digits ++ zeros number.exponent.toNat ++ ".0"
  else
    let places := (-number.exponent).toNat
    let padded := zeros (places + 1 - digits.length) ++ digits
    let whole := padded.length - places
    String.ofList (padded.toList.take whole) ++ "." ++
      String.ofList (padded.toList.drop whole)

def withExponent (number : Scientific) : String :=
  let digits := (Nat.repr number.digits).toList
  let leading := number.exponent + digits.length - 1
  let fraction := digits.drop 1
  String.ofList (digits.take 1) ++
    (if fraction.isEmpty then "" else "." ++ String.ofList fraction) ++
    (if leading < 0 then "e-" else "e+") ++ Nat.repr leading.natAbs

def render (layout : Layout) (number : Scientific) : String :=
  let leading := number.exponent + (Nat.repr number.digits).length - 1
  if layout.isPositional leading then number.written else number.withExponent

end Scientific

def text (layout : Layout) (value : Float) : String :=
  if value.isNaN then "NaN"
  else
    let sign := if value.toBits >>> 63 = 1 then "-" else ""
    let magnitude :=
      if value.isInf then "inf"
      else ((Binary.ofBits value.toBits).shortest layout.tie).render layout
    sign ++ magnitude

end BucketReplication.Decimal
