import Mathlib.Data.List.Induction
import SpokenSales.Proofs.Text.LowerMap
import SpokenSales.Text.Hexadecimal

/-!
# Hexadecimal digits read

As many digits as there are have one number only, and the number has the same digits again, except
that these are in lower case.
-/

namespace SpokenSales
namespace Text

theorem isAscii_of_hexValue? {c : Char} {digit : Nat} (h : hexValue? c = some digit) :
    isAscii c = true := by
  have hle {low high : Char} (hhigh : isAscii high = true) (hrange : low ≤ c ∧ c ≤ high) :
      isAscii c = true := by
    have hhigh : high.toNat < 128 := of_decide_eq_true hhigh
    exact decide_eq_true (Nat.lt_of_le_of_lt hrange.2 hhigh)
  unfold hexValue? at h
  split at h
  · rename_i hrange
    exact hle (by decide) hrange
  split at h
  · rename_i hrange
    exact hle (by decide) hrange
  split at h
  · rename_i hrange
    exact hle (by decide) hrange
  · cases h

theorem hexDigit_of_hexValue? {c : Char} {digit : Nat} (h : hexValue? c = some digit) :
    digit < 16 ∧ hexDigit digit = c.toLower := by
  have all := forall_ascii (p := fun c => ∀ value ∈ hexValue? c, value < 16 ∧
    hexDigit value = c.toLower) (by decide +kernel) (isAscii_of_hexValue? h)
  exact all digit h

theorem hexValue?_toLower (c : Char) : hexValue? c.toLower = hexValue? c := by
  by_cases hc : isAscii c = true
  · exact forall_ascii (p := fun c => hexValue? c.toLower = hexValue? c) (by decide +kernel) hc
  · -- Neither the character nor its lowercase form is a digit.
    have hnone {d : Char} (hd : isAscii d ≠ true) : hexValue? d = none := by
      cases hvalue : hexValue? d with
      | none =>
          rfl
      | some digit =>
          exact absurd (isAscii_of_hexValue? hvalue) hd
    rw [hnone hc, hnone fun hlower => hc (isAscii_of_isAscii_toLower hlower)]

theorem readHex?_concat (digits : List Char) (c : Char) :
    readHex? (digits ++ [c]) = (readHex? digits).bind fun value =>
      (hexValue? c).map fun digit => 16 * value + digit := by
  unfold readHex?
  rw [List.foldl_append, List.foldl_cons, List.foldl_nil]

theorem readHex?_map_toLower (digits : List Char) :
    readHex? (digits.map Char.toLower) = readHex? digits := by
  unfold readHex?
  rw [List.foldl_map]
  simp only [hexValue?_toLower]

theorem readHex?_eq_some {digits : List Char} {n : Nat} (h : readHex? digits = some n) :
    n < Nat.pow 16 digits.length ∧ fixedHex digits.length n = digits.map Char.toLower := by
  -- The last digit is the remainder, so the list grows at its end.
  induction digits using List.reverseRecOn generalizing n with
  | nil =>
      cases h
      exact ⟨Nat.one_pos, rfl⟩
  | append_singleton digits c ih =>
      rw [readHex?_concat, Option.bind_eq_some_iff] at h
      rcases h with ⟨value, hvalue, hlast⟩
      rcases Option.map_eq_some_iff.mp hlast with ⟨digit, hdigit, heq⟩
      rcases ih hvalue with ⟨hlt, hdigits⟩
      rcases hexDigit_of_hexValue? hdigit with ⟨hsmall, hc⟩
      have hpow : Nat.pow 16 (digits.length + 1) = 16 * Nat.pow 16 digits.length :=
        Nat.mul_comm _ _
      have hquotient : n / 16 = value := by
        omega
      have hremainder : n % 16 = digit := by
        omega
      rw [List.length_append, List.length_singleton]
      refine ⟨?_, ?_⟩
      · rw [hpow]
        omega
      · rw [fixedHex, hquotient, hremainder, hdigits, hc, List.map_append]
        rfl

end Text
end SpokenSales
