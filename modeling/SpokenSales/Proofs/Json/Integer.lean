import SpokenSales.Proofs.Json.Grammar

/-!
# Numerals that are integers

A numeral is an integer if it has neither a fraction nor an exponent and is not minus zero.  An
integer is read exactly if it is in the range of the reader, and as nothing but its value.  Since
the whole digits have no needless zeros, there is only one numeral for each integer.
-/

namespace SpokenSales

namespace Json

open Text

namespace Numeral

structure IsInteger (numeral : Numeral) (n : Int) : Prop where
  fraction : numeral.fraction = none
  exponent : numeral.exponent = none
  not_minus_zero : numeral.negative = true → n ≠ 0
  value : n = if numeral.negative then -(placeValue numeral.whole : Int)
    else placeValue numeral.whole

theorem IsInteger.unique {numeral : Numeral} {n m : Int} (h : numeral.IsInteger n)
    (hm : numeral.IsInteger m) : n = m :=
  h.value.trans hm.value.symm

theorem Writes.unique {text : List Char} {numeral other : Numeral} (h : Writes text numeral)
    (hother : Writes text other) : numeral = other := by
  have hends : EndsNumber [] := by
    intro c hc
    cases hc
  have hread := h.read_append hends
  rw [hother.read_append hends] at hread
  cases hread
  rfl

/-!
## Integers of 64 bits
-/

theorem isWhole_iff {numeral : Numeral} :
    numeral.isWhole = true ↔ numeral.fraction = none ∧ numeral.exponent = none := by
  unfold isWhole
  rw [Bool.and_eq_true, Option.isNone_iff_eq_none, Option.isNone_iff_eq_none]

/-- A numeral counts as an integer exactly if it is one that 64 bits can hold, with a sign or
without. -/
theorem integer?_number_iff {numeral : Numeral} {n : Int} :
    (∃ number, numeral.number = .ok number ∧ number.integer? = some n) ↔
      numeral.IsInteger n ∧ -0x8000000000000000 ≤ n ∧ n < UInt64.size := by
  have hvalue := readDecimal_eq_placeValue numeral.whole
  unfold number
  simp only [Bool.and_eq_true, isWhole_iff, decide_eq_true_eq, Bool.not_eq_true', hvalue]
  constructor
  · rintro ⟨number, hnumber, hinteger⟩
    split_ifs at hnumber with hnatural hnegative hrange
    · cases hnumber
      cases hinteger
      rcases hnatural with ⟨⟨⟨hfraction, hexponent⟩, hpositive⟩, hlt⟩
      refine ⟨⟨hfraction, hexponent, ?_, ?_⟩, by omega, by omega⟩
      · rw [hpositive]
        intro heq
        cases heq
      · rw [hpositive, if_neg Bool.false_ne_true]
    · cases hnumber
      cases hinteger
      rcases hnegative with ⟨⟨⟨⟨hfraction, hexponent⟩, hminus⟩, hpos⟩, hle⟩
      have hsize : (0 : Int) < UInt64.size := by decide
      refine ⟨⟨hfraction, hexponent, fun _ => by omega, ?_⟩, by omega, by omega⟩
      rw [hminus, if_pos rfl]
    · cases hnumber
      cases hinteger
  · rintro ⟨⟨hfraction, hexponent, hzero, hn⟩, hlow, hhigh⟩
    cases hsign : numeral.negative with
    | false =>
        rw [hsign, if_neg Bool.false_ne_true] at hn
        refine ⟨.natural (placeValue numeral.whole), ?_, congrArg some hn.symm⟩
        rw [if_pos ⟨⟨⟨hfraction, hexponent⟩, rfl⟩, by omega⟩]
    | true =>
        rw [hsign, if_pos rfl] at hn
        have hne := hzero hsign
        refine ⟨.negative (placeValue numeral.whole), ?_, congrArg some hn.symm⟩
        rw [if_neg (fun h => Bool.noConfusion h.1.2),
          if_pos ⟨⟨⟨⟨hfraction, hexponent⟩, rfl⟩, by omega⟩, by omega⟩]

/-!
## Reading
-/

theorem Writes.readInteger_eq_ok_iff {text rest : List Char} {numeral : Numeral}
    (h : Writes text numeral) (hrest : EndsNumber rest) {low high : Int}
    (hlow : -0x8000000000000000 ≤ low) (hhigh : high < UInt64.size) {n : Int} {last : List Char} :
    readInteger low high (text ++ rest) = .ok (n, last) ↔
      last = rest ∧ numeral.IsInteger n ∧ low ≤ n ∧ n ≤ high := by
  rcases h.exists_cons with ⟨c, more, htext, hstarts⟩
  have hspace : skipSpace (text ++ rest) = c :: (more ++ rest) := by
    rw [htext, List.cons_append, skipSpace_cons (isSpace_of_startsNumber hstarts)]
  have hnumber : readNumber (c :: (more ++ rest)) =
      numeral.number.bind fun number => .ok (number, rest) := by
    rw [← List.cons_append, ← htext]
    unfold readNumber
    rw [h.read_append hrest]
    rfl
  have hinteger := @integer?_number_iff numeral n
  unfold readInteger
  simp only [hspace, hstarts, if_true, hnumber]
  cases hparsed : numeral.number with
  | error fault =>
      simp only [Except.bind]
      constructor
      · intro hread
        cases hread
      · rintro ⟨-, hn, hle, hge⟩
        rcases hinteger.mpr ⟨hn, by omega, by omega⟩ with ⟨number, heq, -⟩
        rw [hparsed] at heq
        cases heq
  | ok number =>
      simp only [Except.bind]
      constructor
      · intro hread
        split at hread
        · cases hread
        · rename_i m hm
          split_ifs at hread with hrange
          cases hread
          exact ⟨rfl, (hinteger.mp ⟨number, hparsed, hm⟩).1, hrange⟩
      · rintro ⟨rfl, hn, hle, hge⟩
        rcases hinteger.mpr ⟨hn, by omega, by omega⟩ with ⟨other, heq, hm⟩
        rw [hparsed] at heq
        cases heq
        rw [hm]
        simp only [if_pos (And.intro hle hge)]

/-!
## The numeral of an integer
-/

theorem IsWholePart.eq_decimal {whole : List Char} (h : IsWholePart whole) :
    whole = decimal (placeValue whole) := by
  have hpadded := paddedDecimal_readDecimal h.ne_nil h.all
  rw [readDecimal_eq_placeValue] at hpadded
  unfold paddedDecimal at hpadded
  simp only at hpadded
  cases hzeros : whole.length - (decimal (placeValue whole)).length with
  | zero =>
      rw [hzeros] at hpadded
      exact hpadded.symm
  | succ zeros =>
      rw [hzeros, List.replicate_succ, List.cons_append] at hpadded
      have hlone : whole.length = 1 := by
        apply h.lone
        rw [← hpadded]
        rfl
      have hdigits : 0 < (decimal (placeValue whole)).length :=
        List.length_pos_iff.mpr (decimal_ne_nil _)
      omega

theorem Writes.eq_integer {text : List Char} {numeral : Numeral} (h : Writes text numeral)
    {n : Int} (hn : numeral.IsInteger n) : text = integer n := by
  cases h with
  | positive h =>
      rcases h with ⟨hwhole, hfraction, hexponent⟩
      cases hn.fraction
      cases hn.exponent
      cases hfraction
      cases hexponent
      have hvalue := hn.value
      rw [if_neg Bool.false_ne_true] at hvalue
      unfold integer
      rw [List.append_nil, List.append_nil, if_neg (by omega), hvalue, Int.natAbs_natCast]
      exact hwhole.eq_decimal
  | negative h =>
      rcases h with ⟨hwhole, hfraction, hexponent⟩
      cases hn.fraction
      cases hn.exponent
      cases hfraction
      cases hexponent
      have hvalue := hn.value
      have hne := hn.not_minus_zero rfl
      rw [if_pos rfl] at hvalue
      unfold integer
      rw [List.append_nil, List.append_nil, if_pos (by omega), hvalue, Int.natAbs_neg,
        Int.natAbs_natCast, ← hwhole.eq_decimal]

theorem isInteger_placeValue (whole : List Char) :
    IsInteger ⟨false, whole, none, none⟩ (placeValue whole) where
  fraction := rfl
  exponent := rfl
  not_minus_zero := by
    intro heq
    cases heq
  value := (if_neg Bool.false_ne_true).symm

theorem isInteger_decimal (n : Nat) : IsInteger ⟨false, decimal n, none, none⟩ n := by
  have hdigits := isInteger_placeValue (decimal n)
  rw [← readDecimal_eq_placeValue, readDecimal_decimal] at hdigits
  exact hdigits

theorem isInteger_minus {n : Nat} (hn : n ≠ 0) : IsInteger ⟨true, decimal n, none, none⟩ (-n) where
  fraction := rfl
  exponent := rfl
  not_minus_zero := by
    intro _
    omega
  value := by
    rw [if_pos rfl, ← readDecimal_eq_placeValue, readDecimal_decimal]

end Numeral

/-!
## Numbers in a text
-/

def IsNumber (text : List Char) : Prop :=
  ∃ numeral, Numeral.Writes text numeral

def WritesInteger (text : List Char) (n : Int) : Prop :=
  ∃ numeral, Numeral.Writes text numeral ∧ numeral.IsInteger n

variable {text : List Char} {n : Int}

theorem WritesInteger.isNumber (h : WritesInteger text n) : IsNumber text := by
  rcases h with ⟨numeral, hwrites, -⟩
  exact ⟨numeral, hwrites⟩

theorem WritesInteger.unique {m : Int} (h : WritesInteger text n) (hm : WritesInteger text m) :
    n = m := by
  rcases h with ⟨numeral, hwrites, hn⟩
  rcases hm with ⟨other, hother, hm⟩
  cases hwrites.unique hother
  exact hn.unique hm

theorem WritesInteger.eq_integer (h : WritesInteger text n) : text = integer n := by
  rcases h with ⟨numeral, hwrites, hn⟩
  exact hwrites.eq_integer hn

theorem writesInteger_decimal (n : Nat) : WritesInteger (decimal n) n :=
  ⟨_, Numeral.writes_decimal n, Numeral.isInteger_decimal n⟩

theorem writesInteger_integer (n : Int) : WritesInteger (integer n) n := by
  unfold integer
  split
  · rename_i hnegative
    have hvalue : -(n.natAbs : Int) = n := by
      omega
    have hinteger := Numeral.isInteger_minus (n := n.natAbs) (by omega)
    rw [hvalue] at hinteger
    exact ⟨_, Numeral.writes_minus n.natAbs, hinteger⟩
  · rename_i hnonnegative
    have hvalue : (n.natAbs : Int) = n := by
      omega
    have hdecimal := writesInteger_decimal n.natAbs
    rw [hvalue] at hdecimal
    exact hdecimal

theorem Numeral.Writes.writesInteger_iff {numeral : Numeral} (h : Numeral.Writes text numeral) :
    WritesInteger text n ↔ numeral.IsInteger n := by
  constructor
  · rintro ⟨other, hother, hn⟩
    rw [h.unique hother]
    exact hn
  · intro hn
    exact ⟨numeral, h, hn⟩

theorem IsNumber.exists_cons (h : IsNumber text) :
    ∃ c more, text = c :: more ∧ Numeral.startsNumber c = true := by
  rcases h with ⟨numeral, hwrites⟩
  exact hwrites.exists_cons

theorem IsNumber.isValue (h : IsNumber text) : IsValue text := by
  rcases h with ⟨numeral, hwrites⟩
  exact .number hwrites

theorem IsNumber.startsValue (h : IsNumber text) : StartsValue text :=
  h.isValue.startsValue

theorem IsNumber.head?_ne (h : IsNumber text) : text.head? ≠ some 'n' := by
  rcases h.exists_cons with ⟨c, more, rfl, hc⟩
  intro heq
  exact ne_of_startsNumber hc (by decide) (Option.some.inj heq)

section Range

variable {low high : Int}

theorem IsNumber.readInteger_eq_ok_iff (h : IsNumber text) {rest last : List Char}
    (hrest : EndsNumber rest) (hlow : -0x8000000000000000 ≤ low) (hhigh : high < UInt64.size) :
    readInteger low high (text ++ rest) = .ok (n, last) ↔
      last = rest ∧ WritesInteger text n ∧ low ≤ n ∧ n ≤ high := by
  rcases h with ⟨numeral, hwrites⟩
  rw [hwrites.readInteger_eq_ok_iff hrest hlow hhigh, hwrites.writesInteger_iff]

theorem WritesInteger.readsBack (h : WritesInteger text n) (hlow : -0x8000000000000000 ≤ low)
    (hhigh : high < UInt64.size) (hrange : low ≤ n ∧ n ≤ high) :
    ReadsBack (readInteger low high) text n where
  starts := h.isNumber.startsValue
  reads := fun _ hrest =>
    (h.isNumber.readInteger_eq_ok_iff hrest hlow hhigh).mpr ⟨rfl, h, hrange⟩

/-- Whether a text is an integer of a range. -/
def WritesInRange (low high : Int) (text : List Char) : Prop :=
  ∃ n, WritesInteger text n ∧ low ≤ n ∧ n ≤ high

end Range

theorem IsNumber.readOptional_append (h : IsNumber text) (reader : Reader α) (rest : List Char) :
    readOptional reader (text ++ rest) =
      match reader (text ++ rest) with
      | .error fault => .error fault
      | .ok (value, rest) => .ok (some value, rest) := by
  unfold readOptional
  rw [h.startsValue.skipSpace_append]
  rcases h.exists_cons with ⟨c, more, rfl, hc⟩
  split
  · rename_i heq
    cases heq
    exact absurd hc (by decide)
  · rfl

theorem IsNumber.writesInRange_of_readOptional (h : IsNumber text) {low high : Int}
    (hlow : -0x8000000000000000 ≤ low) (hhigh : high < UInt64.size) {n? : Option Int}
    {rest last : List Char} (hrest : EndsNumber rest)
    (hread : readOptional (readInteger low high) (text ++ rest) = .ok (n?, last)) :
    WritesInRange low high text := by
  rw [h.readOptional_append] at hread
  cases hinteger : readInteger low high (text ++ rest) with
  | error fault =>
      rw [hinteger] at hread
      cases hread
  | ok taken =>
      have htaken := (h.readInteger_eq_ok_iff hrest hlow hhigh).mp hinteger
      exact ⟨taken.1, htaken.2⟩

end Json
end SpokenSales
