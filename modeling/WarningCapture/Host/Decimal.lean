/-!
Decimals for 64-bit reals. `Decimal.toFloat` rounds a decimal to the nearest real, and
`Magnitude.shortest` goes back: on the coarsest decimal grid with a point that rounds to the real,
it takes the nearest such point.
-/

namespace WarningCapture

/-- The decimal `digits * 10 ^ exponent`. -/
structure Decimal where
  digits : Nat
  exponent : Int
  deriving Repr, DecidableEq

namespace Decimal

/-- The real nearest to a decimal, of two equally near ones the even; beyond the largest it is
infinite. -/
def toFloat (d : Decimal) : Float :=
  let point : Int := (Nat.toDigits 10 d.digits).length + d.exponent
  if d.digits = 0 ∨ point < -400 then Float.ofBits 0
  else if 400 < point then Float.ofBits 0x7ff0000000000000
  else Float.ofScientific d.digits (decide (d.exponent < 0)) d.exponent.natAbs

end Decimal

/-- A finite real without its sign, `mantissa * 2 ^ exponent`. At a `step` the real below it is only
half as far away as the one above. -/
structure Magnitude where
  mantissa : Nat
  exponent : Int
  step : Bool
  deriving Repr, DecidableEq

/-- The reals that round to one magnitude, as numerators over `unit`, itself the width of a decimal
grid; the ends belong to them when `closed`. -/
structure Basin where
  low : Nat
  value : Nat
  high : Nat
  unit : Nat
  closed : Bool
  deriving Repr, DecidableEq

namespace Basin

/-- A point of the grid that rounds to the magnitude. -/
def holds (b : Basin) (point : Nat) : Bool :=
  let p := point * b.unit
  if b.closed then decide (b.low ≤ p) && decide (p ≤ b.high)
  else decide (b.low < p) && decide (p < b.high)

/-- Of the two points around the value the one that rounds to it; of both the nearer, and of two
equally near ones the even. -/
def nearest? (b : Basin) : Option Nat :=
  let below := b.value / b.unit
  let twice := 2 * b.value
  let middle := (2 * below + 1) * b.unit
  match b.holds below, b.holds (below + 1) with
  | true, true =>
      if twice < middle then some below
      else if middle < twice then some (below + 1)
      else some (below + below % 2)
  | true, false => some below
  | false, true => some (below + 1)
  | false, false => none

theorem holds_of_nearest? {b : Basin} {point : Nat} (h : b.nearest? = some point) :
    b.holds point = true := by
  unfold nearest? at h
  have even : b.value / b.unit + b.value / b.unit % 2 = b.value / b.unit ∨
      b.value / b.unit + b.value / b.unit % 2 = b.value / b.unit + 1 := by omega
  grind

end Basin

namespace Magnitude

def ofFloat (x : Float) : Magnitude :=
  let bits : Nat := x.toBits.toNat
  let field : Nat := bits / 0x10000000000000 % 0x800
  let fraction : Nat := bits % 0x10000000000000
  if field = 0 then ⟨fraction, -1074, false⟩
  else
    ⟨0x10000000000000 + fraction, (field : Int) - 1075, decide (fraction = 0) && decide (1 < field)⟩

/-- The basin of a magnitude, measured on the grid of `10 ^ exponent`. -/
def basin (x : Magnitude) (exponent : Int) : Basin :=
  let quarter := x.exponent - 2
  let scale := Nat.pow 2 quarter.toNat * Nat.pow 10 (-exponent).toNat
  { low := (4 * x.mantissa - if x.step then 1 else 2) * scale
    value := 4 * x.mantissa * scale
    high := (4 * x.mantissa + 2) * scale
    unit := Nat.pow 2 (-quarter).toNat * Nat.pow 10 exponent.toNat
    closed := decide (x.mantissa % 2 = 0) }

/-- A decimal of the same value: two's powers below the point become five's. -/
def exact (x : Magnitude) : Decimal :=
  { digits := x.mantissa * Nat.pow 2 x.exponent.toNat * Nat.pow 5 (-x.exponent).toNat
    exponent := min x.exponent 0 }

/-- An exponent of ten above a magnitude, from its binary length and the logarithm of two. -/
def above (x : Magnitude) : Int := ((x.mantissa.log2 : Int) + x.exponent + 1) * 30103 / 100000 + 2

/-- The decimal with the fewest digits that rounds to a magnitude; 17 always suffice. -/
def shortest (x : Magnitude) : Decimal :=
  let onGrid (i : Nat) : Option Decimal :=
    let exponent := x.above - i
    (x.basin exponent).nearest?.map fun digits => ⟨digits, exponent⟩
  ((List.range 21).findSome? onGrid).getD x.exact

end Magnitude

end WarningCapture
