import SpokenSales.Proofs.Command.Sigma
import SpokenSales.Proofs.Text.WordChar

/-!
# Number words and figures

A number word may be said in figures without a change of what is understood.  The word has to
stay a word in lower case: next to a late letter it does not, because in lower case the letter
joins the word.
-/

namespace SpokenSales
namespace Command

open Text Vocabulary

/-- The value of a number word in any mix of capital and small ASCII letters. -/
def spelledNumber? (word : List Char) : Option Nat :=
  number? (word.map Char.toLower)

def inFigures : Piece → List Char
  | .word letters =>
      match spelledNumber? letters with
      | some n => decimal n
      | none => letters
  | .gap c => [c]

/-- The text of some pieces in which the chosen number words are written in figures. -/
def withFigures (chosen : Nat → Bool) (parts : List Piece) : List Char :=
  (parts.mapIdx fun i part => if chosen i then inFigures part else part.chars).flatten

/-- Whether the pieces on both sides of piece `i` are no late letters. -/
def StandsApart (parts : List Piece) (i : Nat) : Prop :=
  ∀ j c, parts[j]? = some (.gap c) → j = i + 1 ∨ j + 1 = i → c ∉ lateLetters

/-!
## One piece after another
-/

theorem inFigures_of_eq_some {word : List Char} {n : Nat} (h : spelledNumber? word = some n) :
    inFigures (.word word) = decimal n := by
  simp only [inFigures, h]

theorem inFigures_of_eq_none {word : List Char} (h : spelledNumber? word = none) :
    inFigures (.word word) = word := by
  simp only [inFigures, h]

theorem withFigures_cons (chosen : Nat → Bool) (part : Piece) (rest : List Piece) :
    withFigures chosen (part :: rest) =
      (if chosen 0 then inFigures part else part.chars) ++
        withFigures (fun i => chosen (i + 1)) rest := by
  unfold withFigures
  rw [List.mapIdx_cons, List.flatten_cons]

theorem withFigures_gap (chosen : Nat → Bool) (c : Char) (rest : List Piece) :
    withFigures chosen (.gap c :: rest) = c :: withFigures (fun i => chosen (i + 1)) rest := by
  rw [withFigures_cons]
  split <;> rfl

theorem standsApart_of_cons {part : Piece} {rest : List Piece} {i : Nat}
    (h : StandsApart (part :: rest) (i + 1)) : StandsApart rest i := by
  intro j c hj hnext
  apply h (j + 1) c
  · rw [List.getElem?_cons_succ]
    exact hj
  · omega

/-!
## Number words in lower case
-/

theorem isAscii_of_map_toLower {word : List Char}
    (h : ∀ c ∈ word.map Char.toLower, isAscii c = true) : ∀ c ∈ word, isAscii c = true := by
  intro c hc
  exact isAscii_of_isAscii_toLower (h c.toLower (List.mem_map_of_mem hc))

theorem lowercaseApart_of_spelledNumber? {word : List Char} {n : Nat}
    (h : spelledNumber? word = some n) :
    lowercaseApart word = word.map Char.toLower ∧ word.map Char.toLower ∈ spokenWords := by
  have hmem := mem_of_number?_eq_some h
  have hascii := isAscii_of_map_toLower (isAscii_of_mem_spokenWords hmem)
  exact ⟨lowercaseApart_of_isAscii hascii, hmem⟩

theorem lowercaseApart_decimal (n : Nat) : lowercaseApart (decimal n) = decimal n := by
  have hascii : ∀ c ∈ decimal n, isAscii c = true := by
    intro c hc
    exact isAscii_of_isDigit (isDigit_of_mem_decimal hc)
  rw [lowercaseApart_of_isAscii hascii]
  conv =>
    rhs
    rw [← List.map_id (decimal n)]
  apply List.map_congr_left
  intro c hc
  exact toLower_of_isDigit (isDigit_of_mem_decimal hc)

theorem lowerIn_gap {c : Char} (hc : isWordChar c = false) : lowerIn [] c [] = [lowerChar c] := by
  apply lowerIn_eq_lowerChar
  · intro heq
    rw [heq] at hc
    exact absurd hc (by decide)
  · intro heq
    rw [heq] at hc
    exact absurd hc (by decide)

theorem startsInGap_lowercaseApart_cons {c : Char} (hc : isWordChar c = false)
    (hlate : c ∉ lateLetters) (rest : List Char) :
    StartsInGap (lowercaseApart (c :: rest)) := by
  rw [lowercaseApart_cons, lowerIn_gap hc]
  exact startsInGap_cons (isWordChar_lowerChar hc hlate) (lowercaseApart rest)

theorem replaceNumberWords_figures {before word after other : List Char} {n : Nat}
    (hnumber : spelledNumber? word = some n) (hbefore : EndsInGap before)
    (hafter : StartsInGap (lowercaseApart after)) (hother : StartsInGap (lowercaseApart other))
    (heq : replaceNumberWords (lowercaseApart other) = replaceNumberWords (lowercaseApart after)) :
    replaceNumberWords (before ++ lowercaseApart (decimal n ++ other)) =
      replaceNumberWords (before ++ lowercaseApart (word ++ after)) := by
  rcases lowercaseApart_of_spelledNumber? hnumber with ⟨hlower, hmem⟩
  have hdigits : IsWord (decimal n) :=
    isWord_of_isDigit (decimal_ne_nil n) fun c hc => isDigit_of_mem_decimal hc
  have hspoken : spokenNumber? (word.map Char.toLower) = some n := by
    rw [spokenNumber?_of_mem_spokenWords hmem]
    exact hnumber
  have hfigures : inDigits (.word (decimal n)) = decimal n := by
    rw [inDigits_word, spokenNumber?_of_isDigit (decimal_ne_nil n) fun c hc =>
      isDigit_of_mem_decimal hc]
  rw [lowercaseApart_append, lowercaseApart_append, lowercaseApart_decimal, hlower,
    replaceNumberWords_word hbefore hdigits hother,
    replaceNumberWords_word hbefore (isWord_of_mem_spokenWords hmem) hafter, heq, hfigures,
    inDigits_word, hspoken]

/-!
## All chosen words

The text is gone through gap by gap and word by word.  What has been passed is kept in lower case
as `before`, since a word that is not replaced may go on in lower case.
-/

theorem startsInGap_lowercaseApart_of_apart {word rest : List Char}
    (hrest : StartsInGap rest) (hapart : StandsApart (.word word :: pieces rest) 0) :
    StartsInGap (lowercaseApart rest) := by
  cases rest with
  | nil =>
      exact startsInGap_nil
  | cons c rest =>
      have hc : isWordChar c = false := hrest c rfl
      apply startsInGap_lowercaseApart_cons hc
      apply hapart 1 c
      · rw [pieces_cons_gap hc]
        rfl
      · exact Or.inl rfl

theorem startsInGap_lowercaseApart_withFigures {word rest : List Char} (chosen : Nat → Bool)
    (hrest : StartsInGap rest) (hapart : StandsApart (.word word :: pieces rest) 0) :
    StartsInGap (lowercaseApart (withFigures chosen (pieces rest))) := by
  cases rest with
  | nil =>
      exact startsInGap_nil
  | cons c rest =>
      have hc : isWordChar c = false := hrest c rfl
      have hlate : c ∉ lateLetters := by
        apply hapart 1 c
        · rw [pieces_cons_gap hc]
          rfl
        · exact Or.inl rfl
      rw [pieces_cons_gap hc, withFigures_gap]
      exact startsInGap_lowercaseApart_cons hc hlate _

theorem replaceNumberWords_withFigures (text before : List Char) (chosen : Nat → Bool)
    (hbefore : chosen 0 = true → StartsInGap text ∨ EndsInGap before)
    (hapart : ∀ i, chosen i = true → StandsApart (pieces text) i) :
    replaceNumberWords (before ++ lowercaseApart (withFigures chosen (pieces text))) =
      replaceNumberWords (before ++ lowercaseApart text) := by
  induction text using text_induction generalizing before chosen with
  | nil =>
      rfl
  | gap c rest hc ih =>
      rw [pieces_cons_gap hc] at hapart ⊢
      have hnext : chosen 1 = true → StartsInGap rest ∨ EndsInGap (before ++ [lowerChar c]) := by
        intro hchosen
        have hlate : c ∉ lateLetters := hapart 1 hchosen 0 c rfl (Or.inr rfl)
        exact Or.inr (endsInGap_concat before (isWordChar_lowerChar hc hlate))
      have hrest := ih (before ++ [lowerChar c]) (fun i => chosen (i + 1)) hnext
        fun i hi => standsApart_of_cons (hapart (i + 1) hi)
      rw [withFigures_gap, lowercaseApart_cons, lowercaseApart_cons, lowerIn_gap hc,
        ← List.append_assoc, hrest, List.append_assoc]
  | word letters rest hletters hrest ih =>
      rw [pieces_word_append hletters hrest] at hapart ⊢
      have hlater : ∀ i, chosen (i + 1) = true → StandsApart (pieces rest) i :=
        fun i hi => standsApart_of_cons (hapart (i + 1) hi)
      have hkept : replaceNumberWords (before ++ lowercaseApart
          (letters ++ withFigures (fun i => chosen (i + 1)) (pieces rest))) =
          replaceNumberWords (before ++ lowercaseApart (letters ++ rest)) := by
        rw [lowercaseApart_append, ← List.append_assoc,
          ih _ (fun i => chosen (i + 1)) (fun _ => Or.inl hrest) hlater,
          lowercaseApart_append, List.append_assoc]
      rw [withFigures_cons]
      cases hchosen : chosen 0 with
      | false =>
          exact hkept
      | true =>
          cases hnumber : spelledNumber? letters with
          | none =>
              rw [if_pos rfl, inFigures_of_eq_none hnumber]
              exact hkept
          | some n =>
              have hends : EndsInGap before := by
                rcases hbefore hchosen with hstarts | hends
                · exact absurd hstarts (not_startsInGap_word hletters)
                · exact hends
              rw [if_pos rfl, inFigures_of_eq_some hnumber]
              apply replaceNumberWords_figures hnumber hends
              · exact startsInGap_lowercaseApart_of_apart hrest (hapart 0 hchosen)
              · exact startsInGap_lowercaseApart_withFigures _ hrest (hapart 0 hchosen)
              · exact ih [] (fun i => chosen (i + 1)) (fun _ => Or.inl hrest) hlater

/-- Any choice of number words may be written in figures, if none of the chosen words stands
directly beside a late letter. -/
theorem parse_withFigures (text : List Char) (chosen : Nat → Bool)
    (hapart : ∀ i, chosen i = true → StandsApart (pieces text) i) :
    parse (withFigures chosen (pieces text)) = parse text := by
  apply parse_eq_of_lowercaseApart
  exact replaceNumberWords_withFigures text [] chosen (fun _ => Or.inr endsInGap_nil) hapart

theorem parse_figure_before_sigma :
    withFigures (fun i => i == 2) (pieces "top TWO.Σ".toList) = "top 2.Σ".toList ∧
      normalize "top 2.Σ".toList ≠ normalize "top TWO.Σ".toList ∧
      parse "top 2.Σ".toList = parse "top TWO.Σ".toList := by
  have hpieces : pieces "top TWO.Σ".toList =
      [.word "top".toList, .gap ' ', .word "TWO".toList, .gap '.', .word "Σ".toList] := by
    decide
  have hforms : withFigures (fun i => i == 2) (pieces "top TWO.Σ".toList) = "top 2.Σ".toList ∧
      normalize "top 2.Σ".toList ≠ normalize "top TWO.Σ".toList := by
    decide +kernel
  have hapart : ∀ i, (i == 2) = true → StandsApart (pieces "top TWO.Σ".toList) i := by
    intro i hi j c hj hnext
    rw [beq_iff_eq] at hi
    rw [hpieces] at hj
    rcases hnext with hafter | hbefore
    · rw [hafter, hi] at hj
      cases hj
      decide
    · have hone : j = 1 := by omega
      rw [hone] at hj
      cases hj
      decide
  refine ⟨hforms.1, hforms.2, ?_⟩
  rw [← hforms.1]
  exact parse_withFigures "top TWO.Σ".toList (fun i => i == 2) hapart

/-- A late letter joins a number word in lower case, but joins no figures into a number word. -/
theorem exists_parse_withFigures_ne :
    ¬∀ (text : List Char) (chosen : Nat → Bool),
      parse (withFigures chosen (pieces text)) = parse text := by
  intro h
  have heq := h "top ONE\uA7D4".toList fun _ => true
  exact absurd heq (by decide +kernel)

end Command
end SpokenSales
