import SpokenSales.Proofs.Date.Written
import SpokenSales.Proofs.Query.Answer

/-!
# Plain dates

A plain date has four digits for the year and two each for the month and the day.  It is the one
way in which its day is written, the order of plain dates is the order of the calendar, and their
beginnings tell the year and the month.
-/

namespace SpokenSales

namespace Text

def AreDigits (width : Nat) (text : List Char) : Prop :=
  text.length = width ∧ ∀ c ∈ text, isDigit c = true

instance (width : Nat) (text : List Char) : Decidable (AreDigits width text) :=
  decidable_of_iff (text.length = width ∧ text.all isDigit = true)
    (and_congr_right' List.all_eq_true)

theorem AreDigits.exists_eq {width : Nat} {text : List Char} (hwidth : 0 < width)
    (h : AreDigits width text) : ∃ n < Nat.pow 10 width, text = paddedDecimal width n := by
  rcases h with ⟨hlength, hdigits⟩
  have hne : text ≠ [] := by
    intro hnil
    rw [hnil] at hlength
    rw [← hlength] at hwidth
    cases hwidth
  refine ⟨readDecimal text, ?_, ?_⟩
  · rw [← hlength]
    exact readDecimal_lt hdigits
  · rw [← hlength]
    exact (paddedDecimal_readDecimal hne hdigits).symm

end Text

namespace Date

open Text

/-- Whether a text has the form of four digits, two digits and two digits with hyphens between
them. -/
def IsPlain (text : List Char) : Prop :=
  ∃ year month day, text = year ++ '-' :: (month ++ '-' :: day) ∧
    AreDigits 4 year ∧ AreDigits 2 month ∧ AreDigits 2 day

/-- Whether four digits can write the year of a day. -/
def HasPlainYear (date : Date) : Prop :=
  0 ≤ date.year ∧ date.year ≤ 9999

theorem HasPlainYear.toNat_lt {date : Date} (h : date.HasPlainYear) :
    date.year.toNat < Nat.pow 10 4 := by
  have hyear := h.2
  have hpow : Nat.pow 10 4 = 10000 := rfl
  omega

/-!
## Reading and writing
-/

theorem read?_plain {year month day : Nat} (hyear : year < 10000) (hmonth : month < 100)
    (hday : day < 100) :
    read? (paddedDecimal 4 year ++ '-' :: (paddedDecimal 2 month ++ '-' :: paddedDecimal 2 day)) =
      of? year month day := by
  have hmiddle := readPart?_paddedDecimal hmonth (endsDigits_hyphen (paddedDecimal 2 day))
  have hlast := readPart?_paddedDecimal hday endsDigits_nil
  rw [List.append_nil] at hlast
  unfold read?
  rw [readYear?_unsigned hyear]
  simp only [bind, Option.bind, hmiddle, hlast]
  rfl

theorem write_eq {date : Date} (h : date.HasPlainYear) :
    date.write = paddedDecimal 4 date.year.toNat ++
      '-' :: (paddedDecimal 2 date.month ++ '-' :: paddedDecimal 2 date.day) := by
  have hnonnegative : ¬date.year < 0 := by
    have hyear := h.1
    omega
  have hsmall : ¬9999 < date.year := by
    have hyear := h.2
    omega
  have habs : date.year.natAbs = date.year.toNat := by
    omega
  unfold write writeYear
  rw [if_neg hnonnegative, if_neg hsmall, habs, List.append_assoc, List.cons_append]

theorem write_of_isPlain {text : List Char} {date : Date} (hplain : IsPlain text)
    (hread : read? text = some date) : date.write = text ∧ date.HasPlainYear := by
  rcases hplain with ⟨year, month, day, htext, hyear, hmonth, hday⟩
  rcases hyear.exists_eq (by decide) with ⟨y, hy, hyear⟩
  rcases hmonth.exists_eq (by decide) with ⟨m, hm, hmonth⟩
  rcases hday.exists_eq (by decide) with ⟨d, hd, hday⟩
  rw [hyear, hmonth, hday] at htext
  rw [htext, read?_plain hy hm hd] at hread
  unfold of? at hread
  split at hread
  · cases hread
    have hpow : Nat.pow 10 4 = 10000 := rfl
    have hplainYear : HasPlainYear ⟨y, m, d, ‹IsCalendarDay y m d›⟩ := by
      unfold HasPlainYear
      simp only
      omega
    refine ⟨?_, hplainYear⟩
    rw [write_eq hplainYear, htext]
    rfl
  · cases hread

theorem month_lt (date : Date) : date.month < Nat.pow 10 2 := by
  have hmonth := date.valid.2.2.2.1
  have hpow : Nat.pow 10 2 = 100 := rfl
  omega

theorem day_lt (date : Date) : date.day < Nat.pow 10 2 := by
  have hday := date.valid.2.2.2.2.2
  have hmax := daysInMonth_le date.year date.month
  have hpow : Nat.pow 10 2 = 100 := rfl
  omega

theorem isPlain_write_iff {date : Date} : IsPlain date.write ↔ date.HasPlainYear := by
  constructor
  · intro hplain
    exact (write_of_isPlain hplain (read?_write date)).2
  · intro hyear
    refine ⟨_, _, _, write_eq hyear, ?_, ?_, ?_⟩
    · exact ⟨length_paddedDecimal (by decide) hyear.toNat_lt,
        fun _ hc => isDigit_of_mem_paddedDecimal hc⟩
    · exact ⟨length_paddedDecimal (by decide) date.month_lt,
        fun _ hc => isDigit_of_mem_paddedDecimal hc⟩
    · exact ⟨length_paddedDecimal (by decide) date.day_lt,
        fun _ hc => isDigit_of_mem_paddedDecimal hc⟩

theorem IsPlain.length_eq {text : List Char} (h : IsPlain text) : text.length = 10 := by
  rcases h with ⟨year, month, day, rfl, hyear, hmonth, hday⟩
  simp only [List.length_append, List.length_cons, hyear.1, hmonth.1, hday.1]

theorem write_of_not_hasPlainYear {date : Date} (h : ¬date.HasPlainYear) :
    10 < date.write.length ∧
      ∃ sign rest, date.write = sign :: rest ∧ (sign = '-' ∨ sign = '+') := by
  have hyear : ∃ sign, writeYear date.year = sign :: paddedDecimal 4 date.year.natAbs ∧
      (sign = '-' ∨ sign = '+') := by
    unfold writeYear
    split
    · exact ⟨'-', rfl, Or.inl rfl⟩
    · rename_i hnonnegative
      have hlarge : 9999 < date.year := by
        unfold HasPlainYear at h
        omega
      rw [if_pos hlarge]
      exact ⟨'+', rfl, Or.inr rfl⟩
  rcases hyear with ⟨sign, hyear, hsign⟩
  have hfour := le_length_paddedDecimal 4 date.year.natAbs
  have hmonth := le_length_paddedDecimal 2 date.month
  have hday := le_length_paddedDecimal 2 date.day
  unfold write
  rw [hyear]
  refine ⟨?_, sign, _, rfl, hsign⟩
  simp only [List.cons_append, List.length_append, List.length_cons]
  omega

theorem length_write_eq_iff {date : Date} : date.write.length = 10 ↔ date.HasPlainYear := by
  constructor
  · intro hlength
    apply Classical.byContradiction
    intro hyear
    exact absurd hlength (Nat.ne_of_gt (write_of_not_hasPlainYear hyear).1)
  · intro hyear
    exact (isPlain_write_iff.mpr hyear).length_eq

theorem eq_of_mem_write {date : Date} {c : Char} (h : c ∈ date.write) :
    c = '-' ∨ c = '+' ∨ isDigit c = true := by
  have hdigit {width n : Nat} (hc : c ∈ paddedDecimal width n) :
      c = '-' ∨ c = '+' ∨ isDigit c = true :=
    Or.inr (Or.inr (isDigit_of_mem_paddedDecimal hc))
  unfold write writeYear at h
  simp only [List.mem_append, List.mem_cons] at h
  rcases h with (hyear | rfl | hmonth) | rfl | hday
  · split at hyear
    · rcases List.mem_cons.mp hyear with rfl | hyear
      · exact Or.inl rfl
      · exact hdigit hyear
    split at hyear
    · rcases List.mem_cons.mp hyear with rfl | hyear
      · exact Or.inr (Or.inl rfl)
      · exact hdigit hyear
    · exact hdigit hyear
  · exact Or.inl rfl
  · exact hdigit hmonth
  · exact Or.inl rfl
  · exact hdigit hday

theorem not_mem_write {date : Date} {c : Char} (hminus : c ≠ '-') (hplus : c ≠ '+')
    (hdigit : isDigit c = false) : c ∉ date.write := by
  intro hc
  rcases eq_of_mem_write hc with heq | heq | heq
  · exact hminus heq
  · exact hplus heq
  · rw [hdigit] at heq
    cases heq

/-!
## Order
-/

theorem write_lt_write_iff {a b : Date} (ha : a.HasPlainYear) (hb : b.HasPlainYear) :
    a.write < b.write ↔ a.Precedes b := by
  have hayear := ha.toNat_lt
  have hbyear := hb.toNat_lt
  have hyears : (paddedDecimal 4 a.year.toNat).length = (paddedDecimal 4 b.year.toNat).length := by
    rw [length_paddedDecimal (by decide) hayear, length_paddedDecimal (by decide) hbyear]
  have hmonths : (paddedDecimal 2 a.month).length = (paddedDecimal 2 b.month).length := by
    rw [length_paddedDecimal (by decide) a.month_lt, length_paddedDecimal (by decide) b.month_lt]
  have hhyphen : ¬ '-' < '-' := by
    decide
  rw [write_eq ha, write_eq hb, append_lt_append_iff hyears, List.cons_lt_cons_iff,
    append_lt_append_iff hmonths, List.cons_lt_cons_iff,
    paddedDecimal_lt_iff (by decide) hayear hbyear,
    paddedDecimal_lt_iff (by decide) a.month_lt b.month_lt,
    paddedDecimal_lt_iff (by decide) a.day_lt b.day_lt, paddedDecimal_inj, paddedDecimal_inj]
  have hanonnegative := ha.1
  have hbnonnegative := hb.1
  have hlt : a.year.toNat < b.year.toNat ↔ a.year < b.year := by
    omega
  have heq : a.year.toNat = b.year.toNat ↔ a.year = b.year := by
    omega
  simp only [hhyphen, false_or, true_and, hlt, heq]
  rfl

theorem write_inj {a b : Date} : a.write = b.write ↔ a = b := by
  constructor
  · intro h
    have hread := read?_write a
    rw [h, read?_write] at hread
    exact (Option.some.inj hread).symm
  · intro h
    rw [h]

/-!
## Beginnings
-/

def yearStart (year : Nat) : List Char :=
  paddedDecimal 4 year ++ ['-']

def monthStart (year month : Nat) : List Char :=
  yearStart year ++ (paddedDecimal 2 month ++ ['-'])

theorem append_prefix_append_iff {as bs xs ys : List Char} (h : as.length = bs.length) :
    as ++ xs <+: bs ++ ys ↔ as = bs ∧ xs <+: ys := by
  constructor
  · rintro ⟨rest, hrest⟩
    rw [List.append_assoc] at hrest
    rcases List.append_inj hrest h with ⟨hfront, hback⟩
    exact ⟨hfront, rest, hback⟩
  · rintro ⟨hfront, rest, hback⟩
    refine ⟨rest, ?_⟩
    rw [hfront, List.append_assoc, hback]

theorem yearStart_prefix_write_iff {date : Date} (h : date.HasPlainYear) {year : Nat}
    (hyear : year < Nat.pow 10 4) : yearStart year <+: date.write ↔ date.year = year := by
  have hlength : (paddedDecimal 4 year).length = (paddedDecimal 4 date.year.toNat).length := by
    rw [length_paddedDecimal (by decide) hyear, length_paddedDecimal (by decide) h.toNat_lt]
  have hnonnegative := h.1
  unfold yearStart
  rw [write_eq h, append_prefix_append_iff hlength, paddedDecimal_inj, List.cons_prefix_cons]
  simp only [List.nil_prefix, and_true]
  omega

theorem monthStart_prefix_write_iff {date : Date} (h : date.HasPlainYear) {year month : Nat}
    (hyear : year < Nat.pow 10 4) (hmonth : month < Nat.pow 10 2) :
    monthStart year month <+: date.write ↔ date.year = year ∧ date.month = month := by
  have hlength : (yearStart year).length = (yearStart date.year.toNat).length := by
    unfold yearStart
    rw [List.length_append, List.length_append, length_paddedDecimal (by decide) hyear,
      length_paddedDecimal (by decide) h.toNat_lt]
  have hlength' : (paddedDecimal 2 month).length = (paddedDecimal 2 date.month).length := by
    rw [length_paddedDecimal (by decide) hmonth, length_paddedDecimal (by decide) date.month_lt]
  have hwrite : date.write = yearStart date.year.toNat ++
      (paddedDecimal 2 date.month ++ '-' :: paddedDecimal 2 date.day) := by
    unfold yearStart
    rw [write_eq h, List.append_assoc, List.singleton_append]
  have hnonnegative := h.1
  unfold monthStart
  rw [hwrite, append_prefix_append_iff hlength, append_prefix_append_iff hlength',
    paddedDecimal_inj, List.cons_prefix_cons]
  unfold yearStart
  rw [List.append_cancel_right_eq, paddedDecimal_inj]
  simp only [List.nil_prefix, and_true]
  omega

end Date
end SpokenSales
