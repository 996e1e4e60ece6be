import SpokenSales.Proofs.Command.Sentence

/-!
# Words heard in a command

Ranked and unlimited commands are understood from the words of a text.  What stands between the
words does not matter to them: a keyword, a month and a year are whole words, and the digits of a
count lie inside one word.
-/

namespace SpokenSales

open Text Vocabulary

namespace Text

/-!
## The first word with a meaning
-/

/-- The first of some words that means something to `meaning`, and the words after it. -/
def firstHeard? (meaning : List Char → Option α) : List (List Char) → Option (α × List (List Char))
  | [] => none
  | word :: more =>
      match meaning word with
      | some value => some (value, more)
      | none => firstHeard? meaning more

theorem firstHeard?_letters (meaning : List Char → Option α) (parts : List Piece) :
    firstHeard? meaning (parts.filterMap Piece.letters?) =
      (firstWord? meaning parts).map fun found =>
        (found.1, found.2.filterMap Piece.letters?) := by
  induction parts with
  | nil =>
      rfl
  | cons part parts ih =>
      cases part with
      | gap c =>
          exact ih
      | word letters =>
          show firstHeard? meaning (letters :: parts.filterMap Piece.letters?) = _
          rw [firstHeard?, firstWord?]
          cases meaning letters with
          | some value =>
              rfl
          | none =>
              exact ih

theorem firstHeard?_append {meaning : List Char → Option α} {heard after : List (List Char)}
    {value : α} (h : firstHeard? meaning heard = some (value, after)) (more : List (List Char)) :
    firstHeard? meaning (heard ++ more) = some (value, after ++ more) := by
  induction heard with
  | nil =>
      cases h
  | cons word heard ih =>
      rw [firstHeard?] at h
      rw [List.cons_append, firstHeard?]
      cases hmeaning : meaning word with
      | some found =>
          rw [hmeaning] at h
          cases h
          rfl
      | none =>
          rw [hmeaning] at h
          exact ih h

end Text

namespace Command

/-!
## The first digits

Digits are word characters.  Hence the first digits of a text are those of the first word that has
any.
-/

theorem isDigit_of_isWordChar_eq_false {c : Char} (h : isWordChar c = false) :
    isDigit c = false := by
  apply Bool.eq_false_iff.mpr
  intro hdigit
  rw [isWordChar_of_isDigit hdigit] at h
  cases h

theorem endsDigits_of_startsInGap {rest : List Char} (h : StartsInGap rest) : EndsDigits rest := by
  intro c hc
  exact isDigit_of_isWordChar_eq_false (h c hc)

theorem exists_of_firstDigits?_eq_some {text digits tail : List Char}
    (h : firstDigits? text = some (digits, tail)) :
    ∃ front, text = front ++ (digits ++ tail) ∧ (∀ c ∈ front, isDigit c = false) ∧
      (∀ c ∈ digits, isDigit c = true) ∧ digits ≠ [] ∧ EndsDigits tail := by
  unfold firstDigits? at h
  simp only at h
  split at h
  · cases h
  · rename_i hfound
    cases h
    refine ⟨text.takeWhile fun c => !isDigit c, ?_, ?_, ?_, ?_, ?_⟩
    · rw [List.takeWhile_append_dropWhile, List.takeWhile_append_dropWhile]
    · intro c hc
      have hno := List.all_eq_true.mp List.all_takeWhile c hc
      rwa [Bool.not_eq_true'] at hno
    · intro c hc
      exact List.all_eq_true.mp List.all_takeWhile c hc
    · cases hrest : text.dropWhile fun c => !isDigit c with
      | nil =>
          rw [hrest] at hfound
          exact absurd rfl hfound
      | cons c rest =>
          have hhead := List.head?_dropWhile_not (fun c => !isDigit c) text
          rw [hrest] at hhead
          have hdigit : isDigit c = true := by
            simpa using hhead
          rw [List.takeWhile_cons, if_pos hdigit]
          exact List.cons_ne_nil c _
    · intro c hc
      have hhead := List.head?_dropWhile_not isDigit (text.dropWhile fun c => !isDigit c)
      rw [Option.mem_def] at hc
      rw [hc] at hhead
      exact hhead

theorem firstDigits?_append_of_eq_some {text digits tail rest : List Char}
    (h : firstDigits? text = some (digits, tail)) (hrest : EndsDigits rest) :
    firstDigits? (text ++ rest) = some (digits, tail ++ rest) := by
  rcases exists_of_firstDigits?_eq_some h with ⟨front, htext, hfront, hdigits, hne, htail⟩
  have hends : EndsDigits (tail ++ rest) := by
    cases tail with
    | nil =>
        exact hrest
    | cons c tail =>
        exact htail
  rw [htext, List.append_assoc, List.append_assoc]
  exact firstDigits?_append hfront hdigits hne hends

theorem firstDigits?_append_of_eq_none {text : List Char} (h : firstDigits? text = none)
    (rest : List Char) : firstDigits? (text ++ rest) = firstDigits? rest := by
  have hdrop : text.dropWhile (fun c => !isDigit c) = [] := by
    unfold firstDigits? at h
    simp only at h
    split at h
    · rename_i hempty
      exact List.isEmpty_iff.mp hempty
    · cases h
  unfold firstDigits?
  simp only [List.dropWhile_append, hdrop, List.isEmpty_nil, if_true]

theorem firstDigits?_cons_gap {c : Char} (hc : isWordChar c = false) (rest : List Char) :
    firstDigits? (c :: rest) = firstDigits? rest := by
  have hnone : firstDigits? [c] = none := by
    unfold firstDigits?
    rw [List.dropWhile_cons, isDigit_of_isWordChar_eq_false hc]
    rfl
  exact firstDigits?_append_of_eq_none hnone rest

/-- The first digits in some words, and the words after them.  The digits may stand inside a word,
and the letters after them are a word of their own. -/
def digitsHeard? : List (List Char) → Option (List Char × List (List Char))
  | [] => none
  | word :: more =>
      match firstDigits? word with
      | some (digits, tail) => some (digits, words tail ++ more)
      | none => digitsHeard? more

theorem digitsHeard?_words (text : List Char) :
    digitsHeard? (words text) =
      (firstDigits? text).map fun found => (found.1, words found.2) := by
  induction text using text_induction with
  | nil =>
      rfl
  | gap c rest hc ih =>
      rw [words_cons_gap hc, firstDigits?_cons_gap hc]
      exact ih
  | word run rest hrun hrest ih =>
      rw [words_word_append hrun hrest, digitsHeard?]
      cases hdigits : firstDigits? run with
      | none =>
          rw [firstDigits?_append_of_eq_none hdigits]
          exact ih
      | some found =>
          rw [firstDigits?_append_of_eq_some hdigits (endsDigits_of_startsInGap hrest),
            Option.map_some, words_append_of_startsInGap hrest]

theorem digitsHeard?_append {heard tail : List (List Char)} {digits : List Char}
    (h : digitsHeard? heard = some (digits, tail)) (more : List (List Char)) :
    digitsHeard? (heard ++ more) = some (digits, tail ++ more) := by
  induction heard with
  | nil =>
      cases h
  | cons word heard ih =>
      rw [digitsHeard?] at h
      rw [List.cons_append, digitsHeard?]
      cases hdigits : firstDigits? word with
      | none =>
          rw [hdigits] at h
          exact ih h
      | some found =>
          rw [hdigits] at h
          cases h
          rw [List.append_assoc]

/-!
## Commands from words
-/

def rankedHeard? (heard : List (List Char)) : Option Query :=
  match firstHeard? ranking? heard with
  | none => none
  | some (kind, after) =>
      match digitsHeard? after with
      | none => none
      | some (digits, tail) =>
          (count? digits).map fun count =>
            ⟨kind, some count, firstMonth? tail, firstYear? tail⟩

def unlimitedHeard? (heard : List (List Char)) : Option Query :=
  if heard.any fun word => (ranking? word).isSome then none
  else
    match firstHeard? all? heard with
    | none => none
    | some ((), after) =>
        (firstYear? after).map fun year => Query.all (firstMonth? after) (some year)

theorem ranked?_eq_rankedHeard? (text : List Char) :
    ranked? text = rankedHeard? (words text) := by
  have hfirst := firstHeard?_letters ranking? (pieces text)
  unfold ranked? rankedHeard? words
  rw [hfirst]
  cases hfound : firstWord? ranking? (pieces text) with
  | none =>
      rfl
  | some found =>
      simp only [Option.map_some]
      rw [← words_join_of_firstWord?_eq_some hfound, digitsHeard?_words]
      cases firstDigits? (join found.2) <;> rfl

theorem unlimited?_eq_unlimitedHeard? (text : List Char) :
    unlimited? text = unlimitedHeard? (words text) := by
  have hfirst := firstHeard?_letters all? (pieces text)
  unfold all? at hfirst
  unfold unlimited? unlimitedHeard? all? words
  rw [hfirst]
  split
  · rfl
  · cases firstWord? (fun word => if isAll word then some () else none) (pieces text) <;> rfl

theorem ranked?_congr {text other : List Char} (h : words text = words other) :
    ranked? text = ranked? other := by
  rw [ranked?_eq_rankedHeard?, ranked?_eq_rankedHeard?, h]

theorem unlimited?_congr {text other : List Char} (h : words text = words other) :
    unlimited? text = unlimited? other := by
  rw [unlimited?_eq_unlimitedHeard?, unlimited?_eq_unlimitedHeard?, h]

end Command
end SpokenSales
