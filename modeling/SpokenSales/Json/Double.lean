/-!
# The range of double precision

A number with a fraction or an exponent, or with too many digits, is read as a double.  All that
matters about it here is whether it is beyond the largest finite double.  Its value is taken to
be a significand, rounded to 53 bits, times or over a power of ten, rounded likewise.
-/

namespace SpokenSales
namespace Json

/-- The nearest number with at most 53 significant bits, of two the one with an even last bit. -/
def roundTo53Bits (n : Nat) : Nat :=
  let excess := n.log2 - 52
  let unit := Nat.pow 2 excess
  let quotient := n / unit
  let remainder := n % unit
  if unit < 2 * remainder ∨ (unit = 2 * remainder ∧ quotient % 2 = 1) then (quotient + 1) * unit
  else quotient * unit

def isFinite (significand : Nat) (exponent : Int) : Bool :=
  if significand = 0 ∨ exponent < 0 then true
  else if 308 < exponent then false
  else roundTo53Bits significand * roundTo53Bits (Nat.pow 10 exponent.toNat) <
    Nat.pow 2 1024 - Nat.pow 2 970

end Json
end SpokenSales
