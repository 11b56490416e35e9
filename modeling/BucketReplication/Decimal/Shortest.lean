/-! # Shortest decimal of a binary fraction

A double-precision number stands for every real that rounds to it. Its shortest
decimal is the one with the fewest digits among those reals, and the nearest of
these where several have that many. Two of them can be equally near: which one
is taken is left to the caller. All arithmetic is exact. -/

namespace BucketReplication.Decimal

structure Binary where
  significand : Nat
  exponent : Int

structure Scientific where
  digits : Nat
  exponent : Int

inductive Tie where
  | even
  | greater
deriving DecidableEq, Repr

/-- The greater of two neighbouring multiples, the lower of which is `below`,
is the one to take. -/
def Tie.takesGreater : Tie → (below : Nat) → Bool
  | .even, below => below % 2 = 1
  | .greater, _ => true

namespace Binary

def leastNormal : Nat := 4503599627370496

def ofBits (bits : UInt64) : Binary :=
  let stored := bits.toNat
  let fraction := stored % leastNormal
  let biased := stored / leastNormal % 2048
  if biased = 0 then ⟨fraction, -1074⟩
  else ⟨leastNormal + fraction, Int.ofNat biased - 1075⟩

/-- Four times the significand at the lower end of the reals that round to the
number. Below a power of two the neighbour is half as far away. -/
def lowerEnd (number : Binary) : Nat :=
  if number.significand = leastNormal ∧ number.exponent ≠ -1074 then
    4 * number.significand - 1
  else 4 * number.significand - 2

def upperEnd (number : Binary) : Nat :=
  4 * number.significand + 2

/-- A quarter of the number's last place, counted in a unit that also measures
the multiples of `10 ^ grid` in whole numbers. -/
def quarter (number : Binary) (grid : Int) : Nat :=
  Nat.pow 2 (number.exponent - 2).toNat * Nat.pow 10 (-grid).toNat

def gridStep (number : Binary) (grid : Int) : Nat :=
  Nat.pow 10 grid.toNat * Nat.pow 2 (2 - number.exponent).toNat

/-- A multiple of `10 ^ grid` rounds to the number. The ends of the interval
do so when the significand is even. -/
def isReadFrom (number : Binary) (grid : Int) (multiple : Nat) : Bool :=
  let place := multiple * number.gridStep grid
  let lower := number.lowerEnd * number.quarter grid
  let upper := number.upperEnd * number.quarter grid
  if number.significand % 2 = 0 then lower ≤ place && place ≤ upper
  else lower < place && place < upper

/-- The multiple of `10 ^ grid` nearest to the number, if one rounds to it. -/
def nearestOnGrid? (tie : Tie) (number : Binary) (grid : Int) : Option Nat :=
  let step := number.gridStep grid
  let place := 4 * number.significand * number.quarter grid
  let below := place / step
  let above := below + 1
  match number.isReadFrom grid below, number.isReadFrom grid above with
  | true, true =>
    let twice := 2 * place
    let middle := (below + above) * step
    if twice < middle then some below
    else if middle < twice then some above
    else if tie.takesGreater below then some above
    else some below
  | true, false => some below
  | false, true => some above
  | false, false => none

def firstOnGrids (tie : Tie) (number : Binary) (grid : Int) : (attempts : Nat) → Scientific
  | 0 => ⟨0, grid⟩
  | attempts + 1 =>
    match number.nearestOnGrid? tie grid with
    | some multiple => ⟨multiple, grid⟩
    | none => number.firstOnGrids tie (grid - 1) attempts

def gridAbove (number : Binary) : Int :=
  let bits := (Nat.log2 number.significand : Int) + number.exponent + 1
  Int.fdiv (bits * 30103) 100000 + 1

/-- The shortest decimal that reads back as the number. Seventeen digits always
suffice. -/
def shortest (tie : Tie) (number : Binary) : Scientific :=
  if number.significand = 0 then ⟨0, 0⟩
  else number.firstOnGrids tie number.gridAbove 24

end Binary

end BucketReplication.Decimal
