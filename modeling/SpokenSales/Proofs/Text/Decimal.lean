import Mathlib.Data.List.Induction
import Mathlib.Data.Nat.Digits.Defs
import SpokenSales.Text.Decimal

/-!
# Decimal digits

What a number is written with, how long it gets, and how zeros in front are read.
-/

namespace SpokenSales
namespace Text

/-!
## The digits of a number
-/

theorem isDigit_of_mem_decimal {n : Nat} {c : Char} (h : c ∈ decimal n) : isDigit c = true := by
  induction n using decimal.induct with
  | case1 n hlt =>
      rw [decimal, if_pos hlt] at h
      rw [List.mem_singleton.mp h]
      exact isDigit_digitChar hlt
  | case2 n hge ih =>
      rw [decimal, if_neg hge] at h
      rcases List.mem_append.mp h with hfront | hlast
      · exact ih hfront
      · rw [List.mem_singleton.mp hlast]
        exact isDigit_digitChar (Nat.mod_lt n (by decide))

theorem decimal_ne_nil (n : Nat) : decimal n ≠ [] := by
  rw [decimal]
  split
  · exact List.cons_ne_nil _ _
  · intro h
    cases List.append_eq_nil_iff.mp h with
    | intro _ hlast =>
        cases hlast

theorem exists_decimal_eq_cons (n : Nat) :
    ∃ c more, decimal n = c :: more ∧ isDigit c = true := by
  cases hdigits : decimal n with
  | nil =>
      exact absurd hdigits (decimal_ne_nil n)
  | cons c more =>
      have hmem : c ∈ decimal n := by
        rw [hdigits]
        exact List.mem_cons_self
      exact ⟨c, more, rfl, isDigit_of_mem_decimal hmem⟩

theorem length_decimal_le {n width : Nat} (hwidth : 0 < width) (h : n < Nat.pow 10 width) :
    (decimal n).length ≤ width := by
  induction n using decimal.induct generalizing width with
  | case1 n hlt =>
      rw [decimal, if_pos hlt]
      exact hwidth
  | case2 n hge ih =>
      cases width with
      | zero =>
          cases hwidth
      | succ width =>
          have hpow : Nat.pow 10 (width + 1) = Nat.pow 10 width * 10 := rfl
          have hpos : 0 < width := by
            cases width with
            | zero =>
                exact absurd h hge
            | succ width =>
                exact Nat.succ_pos width
          have hfront : (decimal (n / 10)).length ≤ width := by
            apply ih hpos
            omega
          rw [decimal, if_neg hge, List.length_append]
          exact Nat.succ_le_succ hfront

/-!
## Zeros in front
-/

theorem isDigit_of_mem_paddedDecimal {width n : Nat} {c : Char} (h : c ∈ paddedDecimal width n) :
    isDigit c = true := by
  rcases List.mem_append.mp h with hzero | hdigit
  · rw [List.eq_of_mem_replicate hzero]
    rfl
  · exact isDigit_of_mem_decimal hdigit

theorem paddedDecimal_ne_nil (width n : Nat) : paddedDecimal width n ≠ [] := by
  intro h
  exact decimal_ne_nil n (List.append_eq_nil_iff.mp h).2

theorem exists_paddedDecimal_eq_cons (width n : Nat) :
    ∃ c more, paddedDecimal width n = c :: more ∧ isDigit c = true := by
  cases hdigits : paddedDecimal width n with
  | nil =>
      exact absurd hdigits (paddedDecimal_ne_nil width n)
  | cons c more =>
      have hmem : c ∈ paddedDecimal width n := by
        rw [hdigits]
        exact List.mem_cons_self
      exact ⟨c, more, rfl, isDigit_of_mem_paddedDecimal hmem⟩

theorem le_length_paddedDecimal (width n : Nat) : width ≤ (paddedDecimal width n).length := by
  unfold paddedDecimal
  rw [List.length_append, List.length_replicate]
  omega

theorem length_paddedDecimal {width n : Nat} (hwidth : 0 < width) (h : n < Nat.pow 10 width) :
    (paddedDecimal width n).length = width := by
  have hle := length_decimal_le hwidth h
  unfold paddedDecimal
  rw [List.length_append, List.length_replicate]
  omega

theorem readDecimal_replicate_zero_append (width : Nat) (digits : List Char) :
    readDecimal (List.replicate width '0' ++ digits) = readDecimal digits := by
  induction width with
  | zero =>
      rfl
  | succ width ih =>
      rw [← ih]
      rfl

theorem readDecimal_paddedDecimal (width n : Nat) : readDecimal (paddedDecimal width n) = n := by
  unfold paddedDecimal
  rw [readDecimal_replicate_zero_append, readDecimal_decimal]

/-!
## The size of a number
-/

theorem readDecimal_concat (digits : List Char) (c : Char) :
    readDecimal (digits ++ [c]) = 10 * readDecimal digits + digitValue c := by
  unfold readDecimal
  rw [List.foldl_append]
  rfl

/-- The value of some digits by their places, the last of them being the units. -/
def placeValue (digits : List Char) : Nat :=
  Nat.ofDigits 10 (digits.reverse.map digitValue)

theorem readDecimal_eq_placeValue (digits : List Char) :
    readDecimal digits = placeValue digits := by
  induction digits using List.reverseRecOn with
  | nil =>
      rfl
  | append_singleton digits c ih =>
      unfold placeValue at ih ⊢
      rw [readDecimal_concat, ih, List.reverse_append, List.reverse_singleton,
        List.singleton_append, List.map_cons, Nat.ofDigits_cons, Nat.add_comm]

theorem digitValue_lt {c : Char} (h : isDigit c = true) : digitValue c < 10 := by
  simp only [isDigit, Bool.and_eq_true, decide_eq_true_eq] at h
  have hhigh : c.toNat ≤ '9'.toNat := h.2
  have hnine : '9'.toNat = '0'.toNat + 9 := rfl
  unfold digitValue
  omega

theorem readDecimal_lt {digits : List Char} (h : ∀ c ∈ digits, isDigit c = true) :
    readDecimal digits < Nat.pow 10 digits.length := by
  induction hlength : digits.length generalizing digits with
  | zero =>
      rw [List.length_eq_zero_iff.mp hlength]
      decide
  | succ width ih =>
      rcases List.eq_nil_or_concat digits with hnil | ⟨front, last, hconcat⟩
      · rw [hnil] at hlength
        cases hlength
      · rw [List.concat_eq_append] at hconcat
        rw [hconcat, List.length_append] at hlength
        rw [hconcat] at h ⊢
        have hfront := ih (fun c hc => h c (List.mem_append_left [last] hc))
          (Nat.succ.inj hlength)
        have hlast := digitValue_lt (h last (List.mem_append_right front List.mem_cons_self))
        have hpow : Nat.pow 10 (width + 1) = Nat.pow 10 width * 10 := rfl
        rw [readDecimal_concat]
        omega

/-!
## Digits of a fixed number

Among texts of the same number of digits, each is what its number is written with, and the order
of the texts is the order of the numbers.
-/

theorem digitChar_digitValue {c : Char} (h : isDigit c = true) : digitChar (digitValue c) = c := by
  have hvalue : '0'.toNat + digitValue c = c.toNat := by
    simp only [isDigit, Bool.and_eq_true, decide_eq_true_eq] at h
    have hlow : '0'.toNat ≤ c.toNat := h.1
    unfold digitValue
    omega
  unfold digitChar
  rw [hvalue, Char.ofNat_toNat]

theorem paddedDecimal_concat {width n digit : Nat} (hwidth : 0 < width) (hdigit : digit < 10) :
    paddedDecimal (width + 1) (10 * n + digit) = paddedDecimal width n ++ [digitChar digit] := by
  unfold paddedDecimal
  cases n with
  | zero =>
      have hzero : decimal 0 = ['0'] := by
        rw [decimal]
        rfl
      have hlast : decimal (10 * 0 + digit) = [digitChar digit] := by
        rw [decimal, if_pos (by omega), Nat.mul_zero, Nat.zero_add]
      have hwidths : width - 1 + 1 = width := Nat.sub_add_cancel hwidth
      simp only [hzero, hlast, List.length_cons, List.length_nil, Nat.zero_add,
        Nat.add_sub_cancel]
      rw [← List.replicate_succ', hwidths]
  | succ n =>
      have hlast : decimal (10 * (n + 1) + digit) = decimal (n + 1) ++ [digitChar digit] := by
        have hquotient : (10 * (n + 1) + digit) / 10 = n + 1 := by
          omega
        have hremainder : (10 * (n + 1) + digit) % 10 = digit := by
          omega
        rw [decimal, if_neg (by omega), hquotient, hremainder]
      simp only [hlast, List.length_append, List.length_singleton, Nat.add_sub_add_right,
        List.append_assoc]

theorem paddedDecimal_one {n : Nat} (h : n < 10) : paddedDecimal 1 n = [digitChar n] := by
  have hdecimal : decimal n = [digitChar n] := by
    rw [decimal, if_pos h]
  unfold paddedDecimal
  simp only [hdecimal]
  rfl

theorem paddedDecimal_readDecimal {digits : List Char} (hne : digits ≠ [])
    (h : ∀ c ∈ digits, isDigit c = true) :
    paddedDecimal digits.length (readDecimal digits) = digits := by
  induction hlength : digits.length generalizing digits with
  | zero =>
      exact absurd (List.length_eq_zero_iff.mp hlength) hne
  | succ width ih =>
      rcases List.eq_nil_or_concat digits with hnil | ⟨front, last, hconcat⟩
      · exact absurd hnil hne
      · rw [List.concat_eq_append] at hconcat
        rw [hconcat] at h hlength ⊢
        have hlast := h last (List.mem_append_right front List.mem_cons_self)
        have hwidth : front.length = width := by
          rw [List.length_append] at hlength
          exact Nat.succ.inj hlength
        rw [readDecimal_concat]
        cases width with
        | zero =>
            rw [List.length_eq_zero_iff.mp hwidth]
            have hvalue : 10 * readDecimal [] + digitValue last = digitValue last :=
              Nat.zero_add _
            rw [hvalue, paddedDecimal_one (digitValue_lt hlast), digitChar_digitValue hlast,
              List.nil_append]
        | succ width =>
            have hfront := ih (List.ne_nil_of_length_eq_add_one hwidth)
              (fun c hc => h c (List.mem_append_left [last] hc)) hwidth
            rw [paddedDecimal_concat (Nat.succ_pos width) (digitValue_lt hlast), hfront,
              digitChar_digitValue hlast]

theorem append_lt_append_iff {as bs xs ys : List Char} (h : as.length = bs.length) :
    as ++ xs < bs ++ ys ↔ as < bs ∨ (as = bs ∧ xs < ys) := by
  induction as generalizing bs with
  | nil =>
      rw [List.length_eq_zero_iff.mp h.symm]
      simp
  | cons a as ih =>
      cases bs with
      | nil =>
          cases h
      | cons b bs =>
          rw [List.cons_append, List.cons_append, List.cons_lt_cons_iff, List.cons_lt_cons_iff,
            ih (Nat.succ.inj h), List.cons.injEq, and_or_left, or_assoc, and_assoc]

theorem digitChar_lt_iff {n m : Nat} (hn : n < 10) (hm : m < 10) :
    digitChar n < digitChar m ↔ n < m := by
  have all : ∀ a ∈ List.range 10, ∀ b ∈ List.range 10, (digitChar a < digitChar b ↔ a < b) := by
    decide
  exact all n (List.mem_range.mpr hn) m (List.mem_range.mpr hm)

theorem paddedDecimal_inj {width n m : Nat} :
    paddedDecimal width n = paddedDecimal width m ↔ n = m := by
  constructor
  · intro h
    have hread := congrArg readDecimal h
    rw [readDecimal_paddedDecimal, readDecimal_paddedDecimal] at hread
    exact hread
  · intro h
    rw [h]

theorem paddedDecimal_lt_iff {width n m : Nat} (hwidth : 0 < width) (hn : n < Nat.pow 10 width)
    (hm : m < Nat.pow 10 width) : paddedDecimal width n < paddedDecimal width m ↔ n < m := by
  induction width generalizing n m with
  | zero =>
      cases hwidth
  | succ width ih =>
      have hpow : Nat.pow 10 (width + 1) = Nat.pow 10 width * 10 := rfl
      cases width with
      | zero =>
          have hten : Nat.pow 10 (0 + 1) = 10 := rfl
          rw [hten] at hn hm
          rw [paddedDecimal_one hn, paddedDecimal_one hm, List.cons_lt_cons_iff,
            digitChar_lt_iff hn hm]
          simp
      | succ width =>
          have hwidth' : 0 < width + 1 := Nat.succ_pos width
          have hnfront : n / 10 < Nat.pow 10 (width + 1) := by
            omega
          have hmfront : m / 10 < Nat.pow 10 (width + 1) := by
            omega
          have hnlast : n % 10 < 10 := Nat.mod_lt n (by decide)
          have hmlast : m % 10 < 10 := Nat.mod_lt m (by decide)
          have hlength : (paddedDecimal (width + 1) (n / 10)).length =
              (paddedDecimal (width + 1) (m / 10)).length := by
            rw [length_paddedDecimal hwidth' hnfront, length_paddedDecimal hwidth' hmfront]
          have hndigits := paddedDecimal_concat (n := n / 10) hwidth' hnlast
          have hmdigits := paddedDecimal_concat (n := m / 10) hwidth' hmlast
          rw [Nat.div_add_mod] at hndigits hmdigits
          rw [hndigits, hmdigits, append_lt_append_iff hlength, ih hwidth' hnfront hmfront,
            paddedDecimal_inj, List.cons_lt_cons_iff, digitChar_lt_iff hnlast hmlast]
          simp only [List.not_lt_nil, and_false, or_false]
          omega

/-!
## Runs of digits

A run of digits ends where the text does not go on with a digit.
-/

def EndsDigits (rest : List Char) : Prop :=
  ∀ c ∈ rest.head?, isDigit c = false

theorem takeWhile_isDigit_append {digits rest : List Char}
    (hdigits : ∀ c ∈ digits, isDigit c = true) (hrest : EndsDigits rest) :
    (digits ++ rest).takeWhile isDigit = digits := by
  have hstop : rest.takeWhile isDigit = [] := by
    cases rest with
    | nil =>
        rfl
    | cons c rest =>
        have hc : isDigit c = false := hrest c rfl
        rw [List.takeWhile_cons, hc]
        rfl
  rw [List.takeWhile_append_of_pos hdigits, hstop, List.append_nil]

theorem dropWhile_isDigit_append {digits rest : List Char}
    (hdigits : ∀ c ∈ digits, isDigit c = true) (hrest : EndsDigits rest) :
    (digits ++ rest).dropWhile isDigit = rest := by
  have hstop : rest.dropWhile isDigit = rest := by
    cases rest with
    | nil =>
        rfl
    | cons c rest =>
        have hc : isDigit c = false := hrest c rfl
        rw [List.dropWhile_cons, hc]
        rfl
  rw [List.dropWhile_append_of_pos hdigits, hstop]

end Text
end SpokenSales
