import ImageImports.Decimal.Binary

/-!
# Decimal numbers from their digits

What a run of digits is worth, as a whole number and, scaled by a power of ten, as the
double-precision number nearest to it.  Whole numbers with too many digits are neither read nor
written.
-/

namespace ImageImports.Decimal

/-- The number that a run of decimal digits spells. -/
def digitsValue (digits : List Char) : Nat := Nat.ofDigitChars 10 digits 0

/-- The most digits of a decimal number that is read or written. -/
def maxDigits : Nat := 4300

/-- How it is told that a decimal number has too many digits. -/
def tooLongText (digits : Nat) : String :=
  s!"Exceeds the limit ({maxDigits} digits) for integer string conversion: value has {digits} digits; use sys.set_int_max_str_digits() to increase the limit"

/-- Whether a whole number has few enough digits to be written. -/
def isWritable (n : Int) : Bool := n.natAbs < tenTo maxDigits

/-- How it is told that a whole number has too many digits to be written. -/
def unwritableText : String :=
  s!"Exceeds the limit ({maxDigits} digits) for integer string conversion; use sys.set_int_max_str_digits() to increase the limit"

/-- The double-precision number nearest to `digits · 10 ^ exponent`.  Past the range of double
precision the power is not computed. -/
def realOf (negative : Bool) (digits : Nat) (exponent : Int) : Float :=
  withSign negative <|
    if digits = 0 then 0
    else if 309 < exponent then infinityBits
    else if exponent + Nat.log2 digits < -1100 then 0
    else nearestBits (digits * tenTo exponent.toNat) (tenTo (-exponent).toNat)

end ImageImports.Decimal
