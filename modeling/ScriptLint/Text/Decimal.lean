/-!
# Decimal text of binary fractions

A number in binary notation is written with the fewest decimal digits that read back as the same
number, and always without an exponent.  Of all decimal grids the coarsest one is taken that has a
point among the numbers that are rounded to the given one.
-/

namespace ScriptLint.Text

/-- A positive number, a natural multiple of a power of two, between its neighbours. -/
structure BinaryNumber where
  significand : Nat
  exponent : Int
  /-- Whether the next smaller number is only half as far away as the next greater one. -/
  narrowBelow : Bool
deriving DecidableEq, Repr

namespace BinaryNumber

/-- The number that the bits of a double stand for, without its sign. -/
def ofBits (bits : Nat) : BinaryNumber :=
  let fraction := bits % Nat.pow 2 52
  let power : Nat := bits / Nat.pow 2 52 % Nat.pow 2 11
  if power = 0 then ⟨fraction, -1074, false⟩
  else ⟨Nat.pow 2 52 + fraction, (power : Int) - 1075, fraction == 0 && power != 1⟩

/-- A multiple of a power of ten, and a multiple of a fourth of the power of two, as integers in
one unit. -/
def inOneUnit (number : BinaryNumber) (grid : Int) (multiple quarters : Nat) : Nat × Nat :=
  let quarter := number.exponent - 2
  (multiple * Nat.pow 10 grid.toNat * Nat.pow 2 (-quarter).toNat,
    quarters * Nat.pow 2 quarter.toNat * Nat.pow 10 (-grid).toNat)

def readsBack (number : BinaryNumber) (grid : Int) (multiple : Nat) : Bool :=
  let four := 4 * number.significand
  let (value, low) := number.inOneUnit grid multiple (four - if number.narrowBelow then 1 else 2)
  let (_, high) := number.inOneUnit grid multiple (four + 2)
  if number.significand % 2 = 0 then low ≤ value && value ≤ high else low < value && value < high

/-- The greatest multiple of a power of ten that is not above the number. -/
def below (number : BinaryNumber) (grid : Int) : Nat :=
  let (unit, value) := number.inOneUnit grid 1 (4 * number.significand)
  value / unit

/-- The multiple of a power of ten that is nearest to the number among those rounded to it, the
greater one of two that are equally near. -/
def nearest? (number : BinaryNumber) (grid : Int) : Option Nat :=
  let lower := number.below grid
  match number.readsBack grid lower, number.readsBack grid (lower + 1) with
  | true, true =>
    let (unit, value) := number.inOneUnit grid 1 (4 * number.significand)
    some (if value - lower * unit < (lower + 1) * unit - value then lower else lower + 1)
  | true, false => some lower
  | false, true => some (lower + 1)
  | false, false => none

/-- The coarsest grid with a multiple that is rounded to the number, and the nearest of them. -/
def shortest (number : BinaryNumber) : Nat × Int :=
  ((List.range 640).findSome? fun (steps : Nat) =>
    let grid : Int := 310 - (steps : Int)
    (number.nearest? grid).map fun multiple => (multiple, grid)).getD (0, 0)

end BinaryNumber

/-- A multiple of a power of ten without an exponent. -/
def plainDecimal (multiple : Nat) (grid : Int) : String :=
  let digits := Nat.toDigits 10 multiple
  if 0 ≤ grid then String.ofList (digits ++ List.replicate grid.toNat '0')
  else
    let places := (-grid).toNat
    let padded := List.replicate (places + 1 - digits.length) '0' ++ digits
    String.ofList (padded.take (padded.length - places)) ++ "." ++
      String.ofList (padded.drop (padded.length - places))

/-- A double without an exponent, in the fewest digits that read back. -/
def decimalText (x : Float) : String :=
  if x.isNaN then "NaN"
  else
    let bits := x.toBits.toNat
    let sign := if bits < Nat.pow 2 63 then "" else "-"
    let size := bits % Nat.pow 2 63
    if size / Nat.pow 2 52 = 2047 then sign ++ "inf"
    else if size = 0 then sign ++ "0"
    else
      let (multiple, grid) := (BinaryNumber.ofBits size).shortest
      sign ++ plainDecimal multiple grid

end ScriptLint.Text
