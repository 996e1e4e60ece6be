import SpokenSales.Proofs.Text.Words

/-!
# Where words stand

A whole word stands in a text with no word character right before it or right after it.  A search
through the pieces of a text stops at the word that stands leftmost among those it looks for.
-/

namespace SpokenSales
namespace Text

/-- Whether a word stands in a text, between what comes before it and what comes after it. -/
structure Stands (text before word after : List Char) : Prop where
  split : text = before ++ (word ++ after)
  isWord : IsWord word
  endsInGap : EndsInGap before
  startsInGap : StartsInGap after

/-- Whether a word stands in a text and has a property, together with what comes after it, that
no word further to the left has. -/
structure StandsFirst (p : List Char → List Char → Prop) (text before word after : List Char) :
    Prop extends Stands text before word after where
  holds : p word after
  leftmost : ∀ before' word' after', Stands text before' word' after' → p word' after' →
    before.length ≤ before'.length

/-!
## One piece at a time
-/

theorem endsInGap_append_iff {front back : List Char} (hne : back ≠ []) :
    EndsInGap (front ++ back) ↔ EndsInGap back := by
  unfold EndsInGap
  rw [List.getLast?_append, List.getLast?_eq_some_getLast hne, Option.some_or]

theorem EndsInGap.of_append {front back : List Char} (h : EndsInGap (front ++ back)) :
    EndsInGap back := by
  by_cases hne : back = []
  · rw [hne]
    exact endsInGap_nil
  · exact (endsInGap_append_iff hne).mp h

theorem not_stands_nil {before word after : List Char} : ¬Stands [] before word after := by
  intro h
  exact h.isWord.1 (List.append_eq_nil_iff.mp (List.append_eq_nil_iff.mp h.split.symm).2).1

theorem stands_cons_gap_iff {c : Char} (hc : isWordChar c = false)
    {rest before word after : List Char} :
    Stands (c :: rest) before word after ↔
      ∃ front, before = c :: front ∧ Stands rest front word after := by
  constructor
  · intro h
    cases before with
    | nil =>
        have hstarts : StartsInGap (c :: rest) := startsInGap_cons hc rest
        rw [h.split, List.nil_append] at hstarts
        exact absurd hstarts (not_startsInGap_word h.isWord)
    | cons d front =>
        obtain ⟨rfl, hrest⟩ := List.cons.inj h.split
        have hends : EndsInGap ([c] ++ front) := h.endsInGap
        exact ⟨front, rfl, hrest, h.isWord, hends.of_append, h.startsInGap⟩
  · rintro ⟨front, rfl, h⟩
    refine ⟨congrArg (List.cons c) h.split, h.isWord, ?_, h.startsInGap⟩
    cases front with
    | nil =>
        exact endsInGap_concat [] hc
    | cons d front =>
        have hends : EndsInGap ([c] ++ (d :: front)) :=
          (endsInGap_append_iff (List.cons_ne_nil d front)).mpr h.endsInGap
        exact hends

theorem word_append_inj {word after word' after' : List Char} (hword : IsWord word)
    (hafter : StartsInGap after) (hword' : IsWord word') (hafter' : StartsInGap after')
    (h : word ++ after = word' ++ after') : word = word' ∧ after = after' := by
  have hpieces := congrArg pieces h
  rw [pieces_word_append hword hafter, pieces_word_append hword' hafter'] at hpieces
  have hword : word = word' := Piece.word.inj (List.cons.inj hpieces).1
  rw [hword] at h
  exact ⟨hword, List.append_cancel_left h⟩

theorem stands_word_append_iff {run rest : List Char} (hrun : IsWord run)
    (hrest : StartsInGap rest) {before word after : List Char} :
    Stands (run ++ rest) before word after ↔
      (before = [] ∧ word = run ∧ after = rest) ∨
        ∃ front, before = run ++ front ∧ Stands rest front word after := by
  constructor
  · intro h
    rcases List.append_eq_append_iff.mp h.split with
      ⟨front, hbefore, hsplit⟩ | ⟨back, hsplit, hafter⟩
    · rw [hbefore]
      have hends := h.endsInGap
      rw [hbefore] at hends
      exact Or.inr ⟨front, rfl, hsplit, h.isWord, hends.of_append, h.startsInGap⟩
    · -- What comes before the word ends within the run, so that nothing does.
      have hnil : before = [] := by
        rcases List.eq_nil_or_concat before with hnil | ⟨front, c, hconcat⟩
        · exact hnil
        · have hmem : c ∈ run := by
            rw [hsplit, hconcat]
            simp
          have hgap := h.endsInGap c (by rw [hconcat]; simp)
          rw [hrun.2 c hmem] at hgap
          cases hgap
      rw [hnil, List.nil_append] at hsplit
      rw [← hsplit] at hafter
      rcases word_append_inj h.isWord h.startsInGap hrun hrest hafter with ⟨hword, hrest⟩
      exact Or.inl ⟨hnil, hword, hrest⟩
  · rintro (⟨rfl, rfl, rfl⟩ | ⟨front, rfl, h⟩)
    · exact ⟨rfl, hrun, endsInGap_nil, hrest⟩
    · refine ⟨by rw [h.split, List.append_assoc], h.isWord, ?_, h.startsInGap⟩
      cases front with
      | nil =>
          -- A word would begin right after the run.
          have hsplit : rest = word ++ after := h.split
          rw [hsplit] at hrest
          exact absurd hrest (not_startsInGap_word h.isWord)
      | cons c front =>
          exact (endsInGap_append_iff (List.cons_ne_nil c front)).mpr h.endsInGap

theorem mem_words_iff {text word : List Char} :
    word ∈ words text ↔ ∃ before after, Stands text before word after := by
  induction text using text_induction with
  | nil =>
      apply iff_of_false
      · exact List.not_mem_nil
      · rintro ⟨before, after, h⟩
        exact not_stands_nil h
  | gap c rest hc ih =>
      rw [words_cons_gap hc, ih]
      constructor
      · rintro ⟨before, after, h⟩
        exact ⟨c :: before, after, (stands_cons_gap_iff hc).mpr ⟨before, rfl, h⟩⟩
      · rintro ⟨before, after, h⟩
        rcases (stands_cons_gap_iff hc).mp h with ⟨front, -, hfront⟩
        exact ⟨front, after, hfront⟩
  | word run rest hrun hrest ih =>
      rw [words_word_append hrun hrest, List.mem_cons, ih]
      constructor
      · rintro (rfl | ⟨before, after, h⟩)
        · exact ⟨[], rest, (stands_word_append_iff hrun hrest).mpr (Or.inl ⟨rfl, rfl, rfl⟩)⟩
        · exact ⟨run ++ before, after,
            (stands_word_append_iff hrun hrest).mpr (Or.inr ⟨before, rfl, h⟩)⟩
      · rintro ⟨before, after, h⟩
        rcases (stands_word_append_iff hrun hrest).mp h with ⟨-, heq, -⟩ | ⟨front, -, hfront⟩
        · exact Or.inl heq
        · exact Or.inr ⟨front, after, hfront⟩

/-!
## Boundaries
-/

/-- Whether a place in a text has a word character on exactly one side. -/
def IsBoundary (before after : List Char) : Prop :=
  EndsInGap before ↔ ¬StartsInGap after

instance (before after : List Char) : Decidable (IsBoundary before after) :=
  inferInstanceAs (Decidable (EndsInGap before ↔ ¬StartsInGap after))

theorem isBoundary_word_append {before word after : List Char} (hword : IsWord word) :
    IsBoundary before (word ++ after) ↔ EndsInGap before :=
  iff_true_right (not_startsInGap_word hword)

theorem not_endsInGap_append_word {before word : List Char} (hword : IsWord word) :
    ¬EndsInGap (before ++ word) := by
  rw [endsInGap_append_iff hword.1]
  intro hends
  have hgap := hends (word.getLast hword.1) (List.getLast?_eq_some_getLast hword.1)
  rw [hword.2 _ (List.getLast_mem hword.1)] at hgap
  cases hgap

theorem isBoundary_append_word {before word after : List Char} (hword : IsWord word) :
    IsBoundary (before ++ word) after ↔ StartsInGap after := by
  unfold IsBoundary
  rw [iff_false_left (not_endsInGap_append_word hword)]
  exact Classical.not_not

theorem stands_iff_isBoundary {text before word after : List Char} (hword : IsWord word) :
    Stands text before word after ↔
      text = before ++ (word ++ after) ∧ IsBoundary before (word ++ after) ∧
        IsBoundary (before ++ word) after := by
  rw [isBoundary_word_append hword, isBoundary_append_word hword]
  exact ⟨fun h => ⟨h.split, h.endsInGap, h.startsInGap⟩, fun h => ⟨h.1, hword, h.2.1, h.2.2⟩⟩

/-!
## Two words of a text

Of two words that stand in a text, one stands in what comes after the other, or they are the same.
-/

theorem Stands.eq_or_after {text before word after before' word' after' : List Char}
    (h : Stands text before word after) (h' : Stands text before' word' after')
    (hle : before.length ≤ before'.length) :
    (before' = before ∧ word' = word ∧ after' = after) ∨
      ∃ front, before' = before ++ (word ++ front) ∧ Stands after front word' after' := by
  have hprefix : before <+: text := ⟨_, h.split.symm⟩
  have hprefix' : before' <+: text := ⟨_, h'.split.symm⟩
  rcases List.prefix_of_prefix_length_le hprefix hprefix' hle with ⟨front, hfront⟩
  have hrest : Stands (word ++ after) front word' after' := by
    refine ⟨?_, h'.isWord, ?_, h'.startsInGap⟩
    · have hsplit := h.split.symm.trans h'.split
      rw [← hfront, List.append_assoc] at hsplit
      exact List.append_cancel_left hsplit
    · have hends := h'.endsInGap
      rw [← hfront] at hends
      exact hends.of_append
  rcases (stands_word_append_iff h.isWord h.startsInGap).mp hrest with
    ⟨hnil, hword, hafter⟩ | ⟨between, hbetween, hlater⟩
  · rw [hnil, List.append_nil] at hfront
    exact Or.inl ⟨hfront.symm, hword, hafter⟩
  · rw [hbetween] at hfront
    exact Or.inr ⟨between, hfront.symm, hlater⟩

theorem Stands.append_left {text before word after : List Char} (h : Stands text before word after)
    (hne : before ≠ []) (front : List Char) :
    Stands (front ++ text) (front ++ before) word after := by
  refine ⟨?_, h.isWord, (endsInGap_append_iff hne).mpr h.endsInGap, h.startsInGap⟩
  rw [h.split, List.append_assoc]

theorem Stands.after_iff {text before word after between other rest : List Char}
    (h : Stands text before word after) :
    Stands text (before ++ word ++ between) other rest ↔ Stands after between other rest := by
  rw [List.append_assoc]
  constructor
  · intro hother
    have hle : before.length ≤ (before ++ (word ++ between)).length := by
      rw [List.length_append]
      exact Nat.le_add_right _ _
    rcases h.eq_or_after hother hle with ⟨hbefore, -⟩ | ⟨front, hfront, hlater⟩
    · have hnil := List.append_eq_nil_iff.mp (List.append_right_eq_self.mp hbefore)
      exact absurd hnil.1 h.isWord.1
    · rw [List.append_cancel_left (List.append_cancel_left hfront)]
      exact hlater
  · intro hother
    have hne : between ≠ [] := by
      rintro rfl
      have hstarts := h.startsInGap
      rw [hother.split] at hstarts
      exact not_startsInGap_word hother.isWord hstarts
    have hlonger := hother.append_left hne (before ++ word)
    rw [List.append_assoc, List.append_assoc, ← h.split] at hlonger
    exact hlonger

theorem Stands.eq_of_length {text before word after before' word' after' : List Char}
    (h : Stands text before word after) (h' : Stands text before' word' after')
    (hlength : before.length = before'.length) :
    before' = before ∧ word' = word ∧ after' = after := by
  rcases h.eq_or_after h' (Nat.le_of_eq hlength) with heq | ⟨front, hbefore, -⟩
  · exact heq
  · have hpos := List.length_pos_iff.mpr h.isWord.1
    rw [hbefore, List.length_append, List.length_append] at hlength
    omega

theorem StandsFirst.eq {p : List Char → List Char → Prop}
    {text before word after before' word' after' : List Char}
    (h : StandsFirst p text before word after) (h' : StandsFirst p text before' word' after') :
    before' = before ∧ word' = word ∧ after' = after := by
  apply h.toStands.eq_of_length h'.toStands
  apply Nat.le_antisymm
  · exact h.leftmost before' word' after' h'.toStands h'.holds
  · exact h'.leftmost before word after h.toStands h.holds

theorem standsFirst_congr {p q : List Char → List Char → Prop}
    (h : ∀ word after, p word after ↔ q word after) {text before word after : List Char} :
    StandsFirst p text before word after ↔ StandsFirst q text before word after := by
  have heq : p = q := funext fun word => funext fun after => propext (h word after)
  rw [heq]

/-!
## Searching for a word
-/

/-- What `found` answers for the first word for which it does, given the word and the pieces after
it. -/
def search? (found : List Char → List Piece → Option α) : List Piece → Option α
  | [] => none
  | .gap _ :: rest => search? found rest
  | .word letters :: rest =>
      match found letters rest with
      | some value => some value
      | none => search? found rest

theorem firstWord?_eq_search? (meaning : List Char → Option α) (parts : List Piece) :
    firstWord? meaning parts =
      search? (fun letters rest => (meaning letters).map fun value => (value, rest)) parts := by
  induction parts with
  | nil =>
      rfl
  | cons part parts ih =>
      cases part with
      | gap c =>
          exact ih
      | word letters =>
          rw [firstWord?, search?]
          cases meaning letters with
          | some value =>
              rfl
          | none =>
              exact ih

theorem findSome?_words (meaning : List Char → Option α) (text : List Char) :
    (words text).findSome? meaning = (firstWord? meaning (pieces text)).map Prod.fst := by
  induction text using text_induction with
  | nil =>
      rfl
  | gap c rest hc ih =>
      rw [words_cons_gap hc, pieces_cons_gap hc]
      exact ih
  | word run rest hrun hrest ih =>
      rw [words_word_append hrun hrest, pieces_word_append hrun hrest, List.findSome?_cons,
        firstWord?, ih]
      cases meaning run <;> rfl

section

variable {found : List Char → List Piece → Option α}

theorem search?_pieces_eq_none_iff {text : List Char} :
    search? found (pieces text) = none ↔
      ∀ before word after, Stands text before word after → found word (pieces after) = none := by
  induction text using text_induction with
  | nil =>
      apply iff_of_true rfl
      intro before word after h
      exact absurd h not_stands_nil
  | gap c rest hc ih =>
      rw [pieces_cons_gap hc, search?, ih]
      constructor
      · intro h before word after hstands
        rcases (stands_cons_gap_iff hc).mp hstands with ⟨front, -, hfront⟩
        exact h front word after hfront
      · intro h before word after hstands
        exact h (c :: before) word after ((stands_cons_gap_iff hc).mpr ⟨before, rfl, hstands⟩)
  | word run rest hrun hrest ih =>
      rw [pieces_word_append hrun hrest, search?]
      cases hfound : found run (pieces rest) with
      | some value =>
          apply iff_of_false
          · intro h
            cases h
          · intro h
            have hnone := h [] run rest
              ((stands_word_append_iff hrun hrest).mpr (Or.inl ⟨rfl, rfl, rfl⟩))
            rw [hfound] at hnone
            cases hnone
      | none =>
          show search? found (pieces rest) = none ↔ _
          rw [ih]
          constructor
          · intro h before word after hstands
            rcases (stands_word_append_iff hrun hrest).mp hstands with
              ⟨-, rfl, rfl⟩ | ⟨front, -, hfront⟩
            · exact hfound
            · exact h front word after hfront
          · intro h before word after hstands
            exact h (run ++ before) word after
              ((stands_word_append_iff hrun hrest).mpr (Or.inr ⟨before, rfl, hstands⟩))

theorem exists_of_search?_eq_some {text : List Char} {value : α}
    (h : search? found (pieces text) = some value) :
    ∃ before word after,
      StandsFirst (fun word after => (found word (pieces after)).isSome) text before word after ∧
        found word (pieces after) = some value := by
  induction text using text_induction with
  | nil =>
      cases h
  | gap c rest hc ih =>
      rw [pieces_cons_gap hc, search?] at h
      rcases ih h with ⟨before, word, after, hfirst, hvalue⟩
      refine ⟨c :: before, word, after, ⟨?_, hfirst.holds, ?_⟩, hvalue⟩
      · exact (stands_cons_gap_iff hc).mpr ⟨before, rfl, hfirst.toStands⟩
      · intro before' word' after' hstands hholds
        rcases (stands_cons_gap_iff hc).mp hstands with ⟨front, rfl, hfront⟩
        exact Nat.succ_le_succ (hfirst.leftmost front word' after' hfront hholds)
  | word run rest hrun hrest ih =>
      rw [pieces_word_append hrun hrest, search?] at h
      cases hfound : found run (pieces rest) with
      | some other =>
          rw [hfound] at h
          cases h
          refine ⟨[], run, rest, ⟨?_, ?_, ?_⟩, hfound⟩
          · exact (stands_word_append_iff hrun hrest).mpr (Or.inl ⟨rfl, rfl, rfl⟩)
          · simp only [hfound, Option.isSome_some]
          · intro before' word' after' _ _
            exact Nat.zero_le before'.length
      | none =>
          rw [hfound] at h
          rcases ih h with ⟨before, word, after, hfirst, hvalue⟩
          refine ⟨run ++ before, word, after, ⟨?_, hfirst.holds, ?_⟩, hvalue⟩
          · exact (stands_word_append_iff hrun hrest).mpr (Or.inr ⟨before, rfl, hfirst.toStands⟩)
          · intro before' word' after' hstands hholds
            rcases (stands_word_append_iff hrun hrest).mp hstands with
              ⟨-, rfl, rfl⟩ | ⟨front, rfl, hfront⟩
            · simp only [hfound, Option.isSome_none] at hholds
              cases hholds
            · rw [List.length_append, List.length_append]
              exact Nat.add_le_add_left (hfirst.leftmost front word' after' hfront hholds) _

theorem search?_pieces_eq_some_iff {text : List Char} {value : α} :
    search? found (pieces text) = some value ↔
      ∃ before word after,
        StandsFirst (fun word after => (found word (pieces after)).isSome) text before word after ∧
          found word (pieces after) = some value := by
  constructor
  · exact exists_of_search?_eq_some
  · rintro ⟨before, word, after, hfirst, hvalue⟩
    cases hsearch : search? found (pieces text) with
    | none =>
        rw [search?_pieces_eq_none_iff.mp hsearch before word after hfirst.toStands] at hvalue
        cases hvalue
    | some other =>
        rcases exists_of_search?_eq_some hsearch with ⟨before', word', after', hfirst', hother⟩
        obtain ⟨rfl, rfl, rfl⟩ := hfirst.eq hfirst'
        exact hother.symm.trans hvalue

end

end Text
end SpokenSales
