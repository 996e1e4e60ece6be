/-!
# Decimal numbers

Natural numbers in decimal digits, most significant digit first.
-/

namespace SpokenSales
namespace Text

def isDigit (c : Char) : Bool :=
  '0' ≤ c && c ≤ '9'

def digitValue (c : Char) : Nat :=
  c.toNat - '0'.toNat

def digitChar (n : Nat) : Char :=
  Char.ofNat ('0'.toNat + n)

def readDecimal (digits : List Char) : Nat :=
  digits.foldl (fun value c => 10 * value + digitValue c) 0

def decimal (n : Nat) : List Char :=
  if n < 10 then [digitChar n] else decimal (n / 10) ++ [digitChar (n % 10)]
termination_by n

/-- A number in at least `width` digits, with zeros in front. -/
def paddedDecimal (width n : Nat) : List Char :=
  let digits := decimal n
  List.replicate (width - digits.length) '0' ++ digits

def integer (n : Int) : List Char :=
  if n < 0 then '-' :: decimal n.natAbs else decimal n.natAbs

theorem isDigit_digitChar {n : Nat} (h : n < 10) : isDigit (digitChar n) = true := by
  have all : ∀ m ∈ List.range 10, isDigit (digitChar m) = true := by decide
  exact all n (List.mem_range.mpr h)

theorem digitValue_digitChar {n : Nat} (h : n < 10) : digitValue (digitChar n) = n := by
  have all : ∀ m ∈ List.range 10, digitValue (digitChar m) = m := by decide
  exact all n (List.mem_range.mpr h)

theorem readDecimal_decimal (n : Nat) : readDecimal (decimal n) = n := by
  induction n using decimal.induct with
  | case1 n h =>
      rw [decimal, if_pos h]
      simp [readDecimal, digitValue_digitChar h]
  | case2 n h ih =>
      rw [decimal, if_neg h]
      unfold readDecimal at ih ⊢
      rw [List.foldl_append, ih]
      simp only [List.foldl_cons, List.foldl_nil]
      rw [digitValue_digitChar (Nat.mod_lt n (by decide))]
      omega

end Text
end SpokenSales
