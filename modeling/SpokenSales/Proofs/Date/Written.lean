import SpokenSales.Date.Written
import SpokenSales.Proofs.Text.Decimal

/-!
# Dates read back

The sign of a year tells how many digits to expect.  Without a sign there are four of them, and
the year is one that four digits can write.
-/

namespace SpokenSales
namespace Date

open Text

theorem digits?_append {limit : Nat} {found rest : List Char} (hne : found ≠ [])
    (hfound : ∀ c ∈ found, isDigit c = true) (hlimit : found.length ≤ limit)
    (hrest : EndsDigits rest) :
    digits? limit (found ++ rest) = some (readDecimal found, rest) := by
  have htake : ((found ++ rest).takeWhile isDigit).take limit = found := by
    rw [takeWhile_isDigit_append hfound hrest, List.take_of_length_le hlimit]
  have hempty : found.isEmpty = false := List.isEmpty_eq_false_iff.mpr hne
  unfold digits?
  simp only [htake, hempty, List.drop_left]
  rfl

theorem digits?_paddedDecimal {limit width n : Nat} {rest : List Char}
    (hlimit : (paddedDecimal width n).length ≤ limit) (hrest : EndsDigits rest) :
    digits? limit (paddedDecimal width n ++ rest) = some (n, rest) := by
  rw [digits?_append (paddedDecimal_ne_nil width n)
    (fun c hc => isDigit_of_mem_paddedDecimal hc) hlimit hrest, readDecimal_paddedDecimal]

/-!
## White space

Nothing that is written begins with white space.
-/

theorem skipBlank_cons {c : Char} (hc : isBlank c = false) (rest : List Char) :
    skipBlank (c :: rest) = c :: rest := by
  unfold skipBlank
  rw [List.dropWhile_cons, hc]
  rfl

theorem isBlank_of_isDigit {c : Char} (hc : isDigit c = true) : isBlank c = false := by
  simp only [isDigit, Bool.and_eq_true, decide_eq_true_eq] at hc
  have hlow : 0x30 ≤ c.toNat := hc.1
  have hhigh : c.toNat ≤ 0x39 := hc.2
  unfold isBlank blankRanges
  rw [within, if_neg (by omega), if_neg (by omega), within, if_neg (by omega),
    if_neg (by omega), within, if_pos (by omega)]

theorem skipBlank_paddedDecimal (width n : Nat) (rest : List Char) :
    skipBlank (paddedDecimal width n ++ rest) = paddedDecimal width n ++ rest := by
  rcases exists_paddedDecimal_eq_cons width n with ⟨c, more, hdigits, hc⟩
  rw [hdigits]
  exact skipBlank_cons (isBlank_of_isDigit hc) (more ++ rest)

/-!
## Years, months and days
-/

theorem ne_sign_of_isDigit {c : Char} (hc : isDigit c = true) : c ≠ '-' ∧ c ≠ '+' := by
  constructor
  · intro heq
    rw [heq] at hc
    exact absurd hc (by decide)
  · intro heq
    rw [heq] at hc
    exact absurd hc (by decide)

theorem endsDigits_nil : EndsDigits [] := by
  intro c hc
  cases hc

theorem endsDigits_hyphen (rest : List Char) : EndsDigits ('-' :: rest) := by
  intro c hc
  cases hc
  decide

theorem digits?_signed (n : Nat) (rest : List Char) :
    digits? (paddedDecimal 4 n ++ '-' :: rest).length (paddedDecimal 4 n ++ '-' :: rest) =
      some (n, '-' :: rest) := by
  apply digits?_paddedDecimal
  · rw [List.length_append]
    exact Nat.le_add_right _ _
  · exact endsDigits_hyphen rest

theorem readYear?_minus (n : Nat) (rest : List Char) :
    readYear? ('-' :: (paddedDecimal 4 n ++ '-' :: rest)) = some (-(n : Int), '-' :: rest) := by
  have hread : readYear? ('-' :: (paddedDecimal 4 n ++ '-' :: rest)) =
      (digits? (paddedDecimal 4 n ++ '-' :: rest).length
        (paddedDecimal 4 n ++ '-' :: rest)).map fun found => (-(found.1 : Int), found.2) := rfl
  rw [hread, digits?_signed, Option.map_some]

theorem readYear?_plus (n : Nat) (rest : List Char) :
    readYear? ('+' :: (paddedDecimal 4 n ++ '-' :: rest)) = some ((n : Int), '-' :: rest) := by
  have hread : readYear? ('+' :: (paddedDecimal 4 n ++ '-' :: rest)) =
      (digits? (paddedDecimal 4 n ++ '-' :: rest).length
        (paddedDecimal 4 n ++ '-' :: rest)).map fun found => ((found.1 : Int), found.2) := rfl
  rw [hread, digits?_signed, Option.map_some]

theorem readYear?_of_isDigit {c : Char} (hc : isDigit c = true) (rest : List Char) :
    readYear? (c :: rest) =
      (digits? 4 (c :: rest)).map fun found => ((found.1 : Int), found.2) := by
  unfold readYear?
  rw [skipBlank_cons (isBlank_of_isDigit hc)]
  split
  · rename_i heq
    cases heq
    exact absurd rfl (ne_sign_of_isDigit hc).1
  · rename_i heq
    cases heq
    exact absurd rfl (ne_sign_of_isDigit hc).2
  · rfl

theorem readYear?_unsigned {n : Nat} (hn : n < 10000) (rest : List Char) :
    readYear? (paddedDecimal 4 n ++ '-' :: rest) = some ((n : Int), '-' :: rest) := by
  have hfour : (paddedDecimal 4 n).length ≤ 4 :=
    Nat.le_of_eq (length_paddedDecimal (by decide) hn)
  have hdigits := digits?_paddedDecimal hfour (endsDigits_hyphen rest)
  rcases exists_paddedDecimal_eq_cons 4 n with ⟨c, more, hfront, hc⟩
  rw [hfront, List.cons_append] at hdigits
  rw [hfront, List.cons_append, readYear?_of_isDigit hc, hdigits, Option.map_some]

theorem readYear?_writeYear (year : Int) (rest : List Char) :
    readYear? (writeYear year ++ '-' :: rest) = some (year, '-' :: rest) := by
  unfold writeYear
  split
  · rename_i hnegative
    have hvalue : -(year.natAbs : Int) = year := by
      omega
    rw [List.cons_append, readYear?_minus, hvalue]
  · rename_i hnonnegative
    have hvalue : (year.natAbs : Int) = year := by
      omega
    split
    · rw [List.cons_append, readYear?_plus, hvalue]
    · rename_i hsmall
      have hfour : year.natAbs < 10000 := by
        omega
      rw [readYear?_unsigned hfour, hvalue]

theorem readPart?_paddedDecimal {n : Nat} (hn : n < 100) {rest : List Char}
    (hrest : EndsDigits rest) :
    readPart? ('-' :: (paddedDecimal 2 n ++ rest)) = some (n, rest) := by
  have hread : readPart? ('-' :: (paddedDecimal 2 n ++ rest)) =
      digits? 2 (skipBlank (paddedDecimal 2 n ++ rest)) := rfl
  rw [hread, skipBlank_paddedDecimal]
  apply digits?_paddedDecimal
  · exact Nat.le_of_eq (length_paddedDecimal (by decide) hn)
  · exact hrest

theorem read?_write (date : Date) : read? (write date) = some date := by
  have hmonth : date.month < 100 := by
    have hle := date.valid.2.2.2.1
    omega
  have hday : date.day < 100 := by
    have hle := date.valid.2.2.2.2.2
    have hmax := daysInMonth_le date.year date.month
    omega
  have hmiddle := readPart?_paddedDecimal hmonth
    (endsDigits_hyphen (paddedDecimal 2 date.day))
  have hlast := readPart?_paddedDecimal hday endsDigits_nil
  rw [List.append_nil] at hlast
  have hwrite : write date = writeYear date.year ++
      '-' :: (paddedDecimal 2 date.month ++ '-' :: paddedDecimal 2 date.day) := by
    unfold write
    rw [List.append_assoc]
    rfl
  unfold read?
  rw [hwrite, readYear?_writeYear]
  simp only [bind, Option.bind, hmiddle, hlast]
  unfold of?
  exact dif_pos date.valid

end Date
end SpokenSales
