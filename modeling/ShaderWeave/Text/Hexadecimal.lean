/-!
# Hexadecimal numerals

Lower-case digits, without leading zeros (`hex`) or padded on the left (`hexPadded`).
-/

namespace ShaderWeave.Text

/-- The lower-case hexadecimal numeral of a number. -/
def hex (n : Nat) : String := String.ofList (Nat.toDigits 16 n)

/-- A hexadecimal numeral of at least `width` digits. -/
def hexPadded (width n : Nat) : String :=
  let digits := Nat.toDigits 16 n
  String.ofList (List.replicate (width - digits.length) '0' ++ digits)

end ShaderWeave.Text
