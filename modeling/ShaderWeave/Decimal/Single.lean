import ShaderWeave.Decimal.Shortest

/-!
# The text of a 32-bit float

A float is given by its bits.  `Single.text` writes the shortest decimal that reads back:

* positional notation with at least one digit after the point from `1e-4` up to `1e16`;
* otherwise a mantissa and an exponent, such as `1.5e-7` or `1e16`;
* `0.0` and `-0.0` keep their sign, infinities are `inf` and `-inf`, and every NaN is `NaN`.
-/

namespace ShaderWeave

/-- A 32-bit float, as its bits. -/
structure Single where
  bits : UInt32
deriving DecidableEq, Repr, Inhabited

namespace Single

/-- The sign bit. -/
def isNegative (x : Single) : Bool := decide (0x80000000 ≤ x.bits.toNat)

/-- The bits without the sign. -/
def magnitude (x : Single) : Nat := x.bits.toNat % 0x80000000

/-- The biased exponent. -/
def biased (x : Single) : Nat := x.magnitude / 0x800000

/-- The fraction bits. -/
def fraction (x : Single) : Nat := x.magnitude % 0x800000

/-- A finite float without its sign.  Normal numbers have a hidden leading bit. -/
def rounding (x : Single) : Decimal.Rounding :=
  if x.biased = 0 then ⟨x.fraction, -149, false⟩
  else ⟨0x800000 + x.fraction, Int.ofNat x.biased - 150, x.fraction == 0 && decide (1 < x.biased)⟩

/-- Bits of `1e-4`: smaller numbers are written with an exponent. -/
def smallestPositional : Nat := 0x38d1b717

/-- Bits of `1e16`: this and larger numbers are written with an exponent. -/
def leastScientific : Nat := 0x5a0e1bca

/-- Digits with the point after the first one, and an exponent. -/
def scientific (digits : List Char) (point : Int) : List Char :=
  let fraction := digits.drop 1
  digits.take 1 ++ (if fraction.isEmpty then [] else '.' :: fraction)
    ++ 'e' :: (toString (point - 1)).toList

/-- Digits in positional notation; `point` digits stand before the point. -/
def positional (digits : List Char) (point : Int) : List Char :=
  if point ≤ 0 then '0' :: '.' :: List.replicate (-point).toNat '0' ++ digits
  else
    let before := point.toNat
    let fraction := digits.drop before
    digits.take before ++ List.replicate (before - digits.length) '0' ++
      '.' :: (if fraction.isEmpty then ['0'] else fraction)

/-- The text of a finite float without its sign. -/
def unsignedText (x : Single) : List Char :=
  if x.magnitude = 0 then ['0', '.', '0']
  else
    let decimal := Decimal.shortest x.rounding
    let digits := Nat.toDigits 10 decimal.digits
    let point := decimal.exponent + Int.ofNat digits.length
    if x.magnitude < smallestPositional || leastScientific ≤ x.magnitude then
      scientific digits point
    else positional digits point

/-- The text of a float. -/
def text (x : Single) : String :=
  if 0x7f800000 < x.magnitude then "NaN"
  else
    let body := if x.magnitude = 0x7f800000 then ['i', 'n', 'f'] else x.unsignedText
    String.ofList (if x.isNegative then '-' :: body else body)

end Single

end ShaderWeave
