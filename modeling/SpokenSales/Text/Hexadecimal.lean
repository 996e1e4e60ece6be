/-!
# Hexadecimal digits

Digits are written in lower case and read in either case.
-/

namespace SpokenSales
namespace Text

def hexValue? (c : Char) : Option Nat :=
  if '0' ≤ c ∧ c ≤ '9' then some (c.toNat - '0'.toNat)
  else if 'a' ≤ c ∧ c ≤ 'f' then some (c.toNat - 'a'.toNat + 10)
  else if 'A' ≤ c ∧ c ≤ 'F' then some (c.toNat - 'A'.toNat + 10)
  else none

def hexDigit (n : Nat) : Char :=
  if n < 10 then Char.ofNat ('0'.toNat + n) else Char.ofNat ('a'.toNat + (n - 10))

def readHex? (digits : List Char) : Option Nat :=
  digits.foldl (fun value? c => value?.bind fun value =>
    (hexValue? c).map fun digit => 16 * value + digit) (some 0)

def fixedHex : Nat → Nat → List Char
  | 0, _ => []
  | width + 1, n => fixedHex width (n / 16) ++ [hexDigit (n % 16)]

theorem hexValue?_hexDigit {n : Nat} (h : n < 16) : hexValue? (hexDigit n) = some n := by
  have all : ∀ m ∈ List.range 16, hexValue? (hexDigit m) = some m := by decide
  exact all n (List.mem_range.mpr h)

@[simp] theorem length_fixedHex (width n : Nat) : (fixedHex width n).length = width := by
  induction width generalizing n with
  | zero =>
      rfl
  | succ width ih =>
      simp [fixedHex, ih]

theorem readHex?_fixedHex (width n : Nat) :
    readHex? (fixedHex width n) = some (n % Nat.pow 16 width) := by
  induction width generalizing n with
  | zero =>
      simp [fixedHex, readHex?, Nat.mod_one]
  | succ width ih =>
      have step := ih (n / 16)
      unfold readHex? at step ⊢
      rw [fixedHex, List.foldl_append, step]
      simp only [List.foldl_cons, List.foldl_nil, Option.bind_some]
      rw [hexValue?_hexDigit (Nat.mod_lt n (by decide))]
      simp only [Option.map_some, Option.some.injEq]
      have hpow : Nat.pow 16 (width + 1) = 16 * Nat.pow 16 width := Nat.mul_comm _ _
      rw [hpow, Nat.mod_mul]
      omega

end Text
end SpokenSales
