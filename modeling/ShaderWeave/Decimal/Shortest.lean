/-!
# The shortest decimal that reads back

A positive binary number `mantissa · 2 ^ exponent` is the nearest one to every real number of an
interval around it.  `shortest` finds the decimal with the fewest digits in that interval, and of
those the nearest to the number itself; **an exact tie goes up.**

All arithmetic is exact: the number and the ends of its interval are counted in quarters of a unit
in the last place (`Rounding.quarters`), as fractions over a power of two.
-/

namespace ShaderWeave.Decimal

/-- The decimal `digits · 10 ^ exponent`. -/
structure Numeral where
  digits : Nat
  exponent : Int
deriving DecidableEq, Repr

/-- A positive binary number with the interval of the reals that round to it.  The next number
below is only half as far away when `narrow` holds, as it is at a power of two. -/
structure Rounding where
  mantissa : Nat
  exponent : Int
  narrow : Bool
deriving DecidableEq, Repr

namespace Rounding

/-- A count of quarter units as a fraction, after division by `10 ^ scale`. -/
def quarters (r : Rounding) (scale : Int) (count : Nat) : Nat × Nat :=
  let binary := r.exponent - 2
  (count * Nat.pow 2 binary.toNat * Nat.pow 10 (-scale).toNat,
    Nat.pow 2 (-binary).toNat * Nat.pow 10 scale.toNat)

/-- Lower end of the interval, in quarter units. -/
def low (r : Rounding) : Nat := 4 * r.mantissa - (if r.narrow then 1 else 2)

/-- Upper end of the interval, in quarter units. -/
def high (r : Rounding) : Nat := 4 * r.mantissa + 2

/-- The ends belong to the interval of an even mantissa. -/
def closed (r : Rounding) : Bool := r.mantissa % 2 == 0

/-- The decimal `digits · 10 ^ scale` rounds to the number. -/
def admits (r : Rounding) (scale : Int) (digits : Nat) : Bool :=
  let (low, lowDen) := r.quarters scale r.low
  let (high, highDen) := r.quarters scale r.high
  if r.closed then decide (low ≤ digits * lowDen) && decide (digits * highDen ≤ high)
  else decide (low < digits * lowDen) && decide (digits * highDen < high)

/-- The number's own place on the grid of multiples of `10 ^ scale`: the multiple just below, and
whether the one above is at least as near. -/
def place (r : Rounding) (scale : Int) : Nat × Bool :=
  let (num, den) := r.quarters scale (4 * r.mantissa)
  (num / den, decide (den ≤ 2 * (num % den)))

/-- The grid neighbour of the number that rounds to it, the nearer one if both do. -/
def neighbour? (r : Rounding) (scale : Int) : Option Nat :=
  let (below, upward) := r.place scale
  match r.admits scale below, r.admits scale (below + 1) with
  | true, true => some (if upward then below + 1 else below)
  | true, false => some below
  | false, true => some (below + 1)
  | false, false => none

/-- Powers of ten that can stand just above a 32-bit number. -/
def magnitudes : List Int := (List.range 90).map fun n => Int.ofNat n - 46

/-- The least power of ten above the number. -/
def magnitude (r : Rounding) : Int :=
  (magnitudes.find? fun scale => (r.place scale).1 == 0).getD 43

end Rounding

/-- Removes trailing zeros, at most `fuel` of them. -/
def Numeral.normalize : Nat → Numeral → Numeral
  | 0, d => d
  | fuel + 1, d =>
    if d.digits % 10 == 0 then normalize fuel ⟨d.digits / 10, d.exponent + 1⟩ else d

/-- The shortest decimal that rounds to the number.  Grids of one digit, two digits, and so on are
tried in turn; nine digits are enough for 32 bits. -/
def shortest (r : Rounding) : Numeral :=
  let top := r.magnitude
  let found := (List.range 9).findSome? fun (n : Nat) =>
    let scale := top - (Int.ofNat n + 1)
    (r.neighbour? scale).map fun digits => Numeral.mk digits scale
  (found.getD ⟨r.mantissa, 0⟩).normalize 12

end ShaderWeave.Decimal
