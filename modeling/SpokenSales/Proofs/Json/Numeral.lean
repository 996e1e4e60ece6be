import SpokenSales.Json.Numeral
import SpokenSales.Proofs.Text.Decimal

/-!
# Numerals read back

A numeral is read up to where it ends, unless what follows could belong to it.  The decimal digits
of a natural number are a numeral, and so is a minus in front of them.
-/

namespace SpokenSales
namespace Json

open Text

/-- Whether a text does not go on with a number. -/
def EndsNumber (rest : List Char) : Prop :=
  ∀ c ∈ rest.head?, isDigit c = false ∧ c ≠ '.' ∧ c ≠ 'e' ∧ c ≠ 'E'

theorem endsNumber_cons {c : Char}
    (h : isDigit c = false ∧ c ≠ '.' ∧ c ≠ 'e' ∧ c ≠ 'E') (rest : List Char) :
    EndsNumber (c :: rest) := by
  intro d hd
  cases hd
  exact h

theorem EndsNumber.endsDigits {rest : List Char} (h : EndsNumber rest) : EndsDigits rest := by
  intro c hc
  exact (h c hc).1

namespace Numeral

theorem digits_append {found rest : List Char} (hne : found ≠ [])
    (hfound : ∀ c ∈ found, isDigit c = true) (hrest : EndsDigits rest) :
    digits (found ++ rest) = .ok (found, rest) := by
  have hempty : found.isEmpty = false := List.isEmpty_eq_false_iff.mpr hne
  unfold digits
  rw [takeWhile_isDigit_append hfound hrest, dropWhile_isDigit_append hfound hrest, hempty]
  rfl

/-!
## How a numeral may be written

The whole part has no needless zeros.  A fraction and an exponent may follow.
-/

structure IsDigits (text : List Char) : Prop where
  ne_nil : text ≠ []
  all : ∀ c ∈ text, isDigit c = true

theorem isDigits_iff {text : List Char} :
    IsDigits text ↔ text ≠ [] ∧ text.all isDigit = true := by
  rw [List.all_eq_true]
  exact ⟨fun h => ⟨h.ne_nil, h.all⟩, fun h => ⟨h.1, h.2⟩⟩

instance (text : List Char) : Decidable (IsDigits text) :=
  decidable_of_iff _ isDigits_iff.symm

structure IsWholePart (text : List Char) : Prop extends IsDigits text where
  lone : text.head? = some '0' → text.length = 1

inductive WritesFraction : List Char → Option (List Char) → Prop
  | none : WritesFraction [] none
  | some {found : List Char} (h : IsDigits found) : WritesFraction ('.' :: found) (some found)

/-- Whether a text is the sign of an exponent, and whether that is a minus. -/
inductive WritesSign : List Char → Bool → Prop
  | none : WritesSign [] false
  | plus : WritesSign ['+'] false
  | minus : WritesSign ['-'] true

inductive WritesExponent : List Char → Option (Bool × List Char) → Prop
  | none : WritesExponent [] none
  | some {mark : Char} {sign found : List Char} {negative : Bool}
      (hmark : mark = 'e' ∨ mark = 'E') (hsign : WritesSign sign negative) (h : IsDigits found) :
      WritesExponent (mark :: (sign ++ found)) (some (negative, found))

inductive WritesUnsigned (negative : Bool) : List Char → Numeral → Prop
  | mk {whole fractionText exponentText : List Char} {fraction : Option (List Char)}
      {exponent : Option (Bool × List Char)} (hwhole : IsWholePart whole)
      (hfraction : WritesFraction fractionText fraction)
      (hexponent : WritesExponent exponentText exponent) :
      WritesUnsigned negative (whole ++ (fractionText ++ exponentText))
        ⟨negative, whole, fraction, exponent⟩

inductive Writes : List Char → Numeral → Prop
  | positive {text : List Char} {numeral : Numeral} (h : WritesUnsigned false text numeral) :
      Writes text numeral
  | negative {text : List Char} {numeral : Numeral} (h : WritesUnsigned true text numeral) :
      Writes ('-' :: text) numeral

theorem IsDigits.exists_cons {text : List Char} (h : IsDigits text) :
    ∃ c more, text = c :: more ∧ isDigit c = true := by
  cases text with
  | nil =>
      exact absurd rfl h.ne_nil
  | cons c more =>
      exact ⟨c, more, rfl, h.all c List.mem_cons_self⟩

theorem readWhole_append {whole rest : List Char} (h : IsWholePart whole)
    (hrest : EndsDigits rest) : readWhole (whole ++ rest) = .ok (whole, rest) := by
  have hzero : ¬(whole.head? = some '0' ∧ 1 < whole.length) := by
    rintro ⟨hhead, hlength⟩
    rw [h.lone hhead] at hlength
    exact Nat.lt_irrefl 1 hlength
  unfold readWhole
  rw [digits_append h.ne_nil h.all hrest]
  simp only
  rw [if_neg hzero]

theorem readFraction_append {text rest : List Char} {fraction : Option (List Char)}
    (h : WritesFraction text fraction) (hrest : ∀ c ∈ rest.head?, isDigit c = false ∧ c ≠ '.') :
    readFraction (text ++ rest) = .ok (fraction, rest) := by
  cases h with
  | none =>
      rw [List.nil_append]
      unfold readFraction
      split
      · exact absurd rfl (hrest '.' rfl).2
      · rfl
  | some h =>
      rw [List.cons_append]
      unfold readFraction
      simp only [digits_append h.ne_nil h.all fun c hc => (hrest c hc).1]

theorem exponentSign_append {sign found : List Char} {negative : Bool}
    (hsign : WritesSign sign negative) (h : IsDigits found) (rest : List Char) :
    exponentSign (sign ++ (found ++ rest)) = (negative, found ++ rest) := by
  cases hsign with
  | none =>
      rcases h.exists_cons with ⟨c, more, rfl, hc⟩
      show exponentSign (c :: (more ++ rest)) = _
      unfold exponentSign
      split
      · rename_i heq
        cases heq
        exact absurd hc (by decide)
      · rename_i heq
        cases heq
        exact absurd hc (by decide)
      · rfl
  | plus =>
      rfl
  | minus =>
      rfl

theorem readExponent_append {text rest : List Char} {exponent : Option (Bool × List Char)}
    (h : WritesExponent text exponent) (hrest : EndsNumber rest) :
    readExponent (text ++ rest) = .ok (exponent, rest) := by
  cases h with
  | none =>
      rw [List.nil_append]
      unfold readExponent
      split
      · exact absurd rfl (hrest 'e' rfl).2.2.1
      · exact absurd rfl (hrest 'E' rfl).2.2.2
      · rfl
  | @some mark sign found negative hmark hsign h =>
      have hmarked : readMarked (sign ++ (found ++ rest)) = .ok (some (negative, found), rest) := by
        unfold readMarked
        rw [exponentSign_append hsign h]
        simp only [digits_append h.ne_nil h.all hrest.endsDigits]
      rw [List.cons_append, List.append_assoc, ← hmarked]
      rcases hmark with rfl | rfl <;> rfl

theorem WritesExponent.head?_append {text rest : List Char} {exponent : Option (Bool × List Char)}
    (h : WritesExponent text exponent) (hrest : EndsNumber rest) :
    ∀ c ∈ (text ++ rest).head?, isDigit c = false ∧ c ≠ '.' := by
  cases h with
  | none =>
      intro c hc
      exact ⟨(hrest c hc).1, (hrest c hc).2.1⟩
  | some hmark =>
      intro c hc
      cases hc
      rcases hmark with rfl | rfl <;> decide

theorem WritesFraction.endsDigits_append {text rest : List Char} {fraction : Option (List Char)}
    (h : WritesFraction text fraction) (hrest : ∀ c ∈ rest.head?, isDigit c = false ∧ c ≠ '.') :
    EndsDigits (text ++ rest) := by
  cases h with
  | none =>
      intro c hc
      exact (hrest c hc).1
  | some =>
      intro c hc
      cases hc
      decide

theorem WritesUnsigned.readUnsigned_append {negative : Bool} {text rest : List Char}
    {numeral : Numeral} (h : WritesUnsigned negative text numeral) (hrest : EndsNumber rest) :
    readUnsigned negative (text ++ rest) = .ok (numeral, rest) := by
  rcases h with ⟨hwhole, hfraction, hexponent⟩
  have hmarked := hexponent.head?_append hrest
  unfold readUnsigned
  rw [List.append_assoc, List.append_assoc,
    readWhole_append hwhole (hfraction.endsDigits_append hmarked)]
  simp only [bind, Except.bind, readFraction_append hfraction hmarked,
    readExponent_append hexponent hrest]
  rfl

theorem WritesUnsigned.exists_cons {negative : Bool} {text : List Char} {numeral : Numeral}
    (h : WritesUnsigned negative text numeral) :
    ∃ c more, text = c :: more ∧ isDigit c = true := by
  rcases h with ⟨hwhole, -, -⟩
  rcases hwhole.exists_cons with ⟨c, more, rfl, hc⟩
  exact ⟨c, _, rfl, hc⟩

theorem Writes.read_append {text rest : List Char} {numeral : Numeral} (h : Writes text numeral)
    (hrest : EndsNumber rest) : read (text ++ rest) = .ok (numeral, rest) := by
  cases h with
  | positive h =>
      rw [← h.readUnsigned_append hrest]
      rcases h.exists_cons with ⟨c, more, rfl, hc⟩
      unfold read
      split
      · rename_i heq
        cases heq
        exact absurd hc (by decide)
      · rfl
  | negative h =>
      exact h.readUnsigned_append hrest

theorem Writes.exists_cons {text : List Char} {numeral : Numeral} (h : Writes text numeral) :
    ∃ c more, text = c :: more ∧ startsNumber c = true := by
  cases h with
  | positive h =>
      rcases h.exists_cons with ⟨c, more, rfl, hc⟩
      refine ⟨c, more, rfl, ?_⟩
      unfold startsNumber
      rw [hc, Bool.or_true]
  | @negative text _ h =>
      exact ⟨'-', text, rfl, rfl⟩

/-!
## Decimal numbers
-/

theorem head?_decimal {n : Nat} (h : (decimal n).head? = some '0') : n = 0 := by
  induction n using decimal.induct with
  | case1 n hlt =>
      rw [decimal, if_pos hlt] at h
      have hchar : digitChar n = '0' := Option.some.inj h
      have hvalue := digitValue_digitChar hlt
      rw [hchar] at hvalue
      exact hvalue.symm
  | case2 n hge ih =>
      rw [decimal, if_neg hge] at h
      rcases exists_decimal_eq_cons (n / 10) with ⟨c, front, hfront, -⟩
      rw [hfront, List.cons_append] at h
      rw [hfront] at ih
      have hzero := ih h
      omega

theorem IsWholePart.writesUnsigned {whole : List Char} (h : IsWholePart whole) (negative : Bool) :
    WritesUnsigned negative whole ⟨negative, whole, none, none⟩ := by
  have hwrites := @WritesUnsigned.mk negative _ _ _ _ _ h .none .none
  rw [List.append_nil, List.append_nil] at hwrites
  exact hwrites

theorem isWholePart_decimal (n : Nat) : IsWholePart (decimal n) where
  ne_nil := decimal_ne_nil n
  all := fun _ hc => isDigit_of_mem_decimal hc
  lone := by
    intro hzero
    rw [head?_decimal hzero, decimal, if_pos (by decide)]
    rfl

theorem writes_decimal (n : Nat) : Writes (decimal n) ⟨false, decimal n, none, none⟩ :=
  .positive ((isWholePart_decimal n).writesUnsigned false)

theorem writes_minus (n : Nat) : Writes ('-' :: decimal n) ⟨true, decimal n, none, none⟩ :=
  .negative ((isWholePart_decimal n).writesUnsigned true)

end Numeral
end Json
end SpokenSales
