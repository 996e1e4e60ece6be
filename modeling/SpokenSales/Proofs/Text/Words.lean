import SpokenSales.Text.Words

/-!
# Words and their boundaries

A text falls into its pieces wherever a word cannot reach across.  A maximal run of word
characters is one piece.
-/

namespace SpokenSales
namespace Text

/-!
## Boundaries
-/

def StartsInGap (text : List Char) : Prop :=
  ∀ c ∈ text.head?, isWordChar c = false

def EndsInGap (text : List Char) : Prop :=
  ∀ c ∈ text.getLast?, isWordChar c = false

instance (text : List Char) : Decidable (StartsInGap text) :=
  decidable_of_iff (text.head?.all fun c => !isWordChar c)
    (by simp [StartsInGap, Option.all_eq_true])

instance (text : List Char) : Decidable (EndsInGap text) :=
  decidable_of_iff (text.getLast?.all fun c => !isWordChar c)
    (by simp [EndsInGap, Option.all_eq_true])

theorem startsInGap_nil : StartsInGap [] := by
  intro c hc
  cases hc

theorem endsInGap_nil : EndsInGap [] := by
  intro c hc
  cases hc

theorem startsInGap_cons {c : Char} (hc : isWordChar c = false) (rest : List Char) :
    StartsInGap (c :: rest) := by
  intro d hd
  cases hd
  exact hc

theorem endsInGap_concat (text : List Char) {c : Char} (hc : isWordChar c = false) :
    EndsInGap (text ++ [c]) := by
  intro d hd
  rw [List.getLast?_concat] at hd
  cases hd
  exact hc

theorem pieces_cons_gap {c : Char} (hc : isWordChar c = false) (rest : List Char) :
    pieces (c :: rest) = .gap c :: pieces rest :=
  pieces_append_gap hc [] rest

theorem pieces_append_of_startsInGap {text rest : List Char} (h : StartsInGap rest) :
    pieces (text ++ rest) = pieces text ++ pieces rest := by
  cases rest with
  | nil =>
      rw [List.append_nil]
      exact (List.append_nil (pieces text)).symm
  | cons c rest =>
      have hc : isWordChar c = false := h c rfl
      rw [pieces_append_gap hc, pieces_cons_gap hc]

theorem pieces_append_of_endsInGap {text rest : List Char} (h : EndsInGap text) :
    pieces (text ++ rest) = pieces text ++ pieces rest := by
  rcases List.eq_nil_or_concat text with hnil | ⟨front, c, hconcat⟩
  · rw [hnil]
    rfl
  · rw [List.concat_eq_append] at hconcat
    rw [hconcat] at h ⊢
    have hc : isWordChar c = false := h c List.getLast?_concat
    have hlast := pieces_append_gap hc front []
    rw [List.append_assoc, List.singleton_append, pieces_append_gap hc, hlast, List.append_assoc]
    rfl

/-!
## Maximal runs
-/

/-- Whether a text is not empty and all its characters can stand inside a word. -/
def IsWord (text : List Char) : Prop :=
  text ≠ [] ∧ ∀ c ∈ text, isWordChar c = true

theorem pieces_cons_word {c : Char} (hc : isWordChar c = true) (rest : List Char) :
    pieces (c :: rest) = extend c (pieces rest) := by
  conv =>
    lhs
    unfold pieces
  rw [if_pos hc]

theorem pieces_word {word : List Char} (h : IsWord word) : pieces word = [.word word] := by
  rcases h with ⟨hne, hchars⟩
  induction word with
  | nil =>
      exact absurd rfl hne
  | cons c rest ih =>
      rw [pieces_cons_word (hchars c List.mem_cons_self)]
      cases rest with
      | nil =>
          rfl
      | cons d rest =>
          rw [ih (List.cons_ne_nil d rest) fun e he => hchars e (List.mem_cons_of_mem c he)]
          rfl

theorem pieces_word_append {word rest : List Char} (hword : IsWord word)
    (hrest : StartsInGap rest) : pieces (word ++ rest) = .word word :: pieces rest := by
  rw [pieces_append_of_startsInGap hrest, pieces_word hword]
  rfl

theorem isWord_cons {c : Char} {rest : List Char} (hc : isWordChar c = true)
    (hrest : ∀ d ∈ rest, isWordChar d = true) : IsWord (c :: rest) := by
  refine ⟨List.cons_ne_nil c rest, ?_⟩
  intro d hd
  rcases List.mem_cons.mp hd with heq | hmem
  · rw [heq]
    exact hc
  · exact hrest d hmem

theorem not_startsInGap_word {word rest : List Char} (h : IsWord word) :
    ¬StartsInGap (word ++ rest) := by
  intro hstarts
  cases word with
  | nil =>
      exact h.1 rfl
  | cons c word =>
      have hc := hstarts c rfl
      rw [h.2 c List.mem_cons_self] at hc
      cases hc

theorem startsInGap_dropWhile (text : List Char) : StartsInGap (text.dropWhile isWordChar) := by
  intro c hc
  have hhead := List.head?_dropWhile_not isWordChar text
  rw [Option.mem_def] at hc
  rw [hc] at hhead
  exact hhead

/-- Texts can be gone through gap by gap and word by word. -/
theorem text_induction {motive : List Char → Prop} (nil : motive [])
    (gap : ∀ c rest, isWordChar c = false → motive rest → motive (c :: rest))
    (word : ∀ word rest, IsWord word → StartsInGap rest → motive rest → motive (word ++ rest))
    (text : List Char) : motive text := by
  induction hlength : text.length using Nat.strongRecOn generalizing text with
  | ind n ih =>
      cases text with
      | nil =>
          exact nil
      | cons c rest =>
          cases hc : isWordChar c with
          | false =>
              exact gap c rest hc (ih rest.length (by simp [← hlength]) rest rfl)
          | true =>
              have hsplit : (c :: rest.takeWhile isWordChar) ++ rest.dropWhile isWordChar =
                  c :: rest := by
                rw [List.cons_append, List.takeWhile_append_dropWhile]
              have hshort : (rest.dropWhile isWordChar).length < n := by
                have hle := (List.dropWhile_sublist isWordChar (l := rest)).length_le
                rw [← hlength, List.length_cons]
                omega
              rw [← hsplit]
              apply word
              · apply isWord_cons hc
                intro d hd
                exact List.all_eq_true.mp List.all_takeWhile d hd
              · exact startsInGap_dropWhile rest
              · exact ih _ hshort _ rfl

theorem words_append_of_startsInGap {text rest : List Char} (h : StartsInGap rest) :
    words (text ++ rest) = words text ++ words rest := by
  unfold words
  rw [pieces_append_of_startsInGap h, List.filterMap_append]

theorem words_cons_gap {c : Char} (hc : isWordChar c = false) (rest : List Char) :
    words (c :: rest) = words rest := by
  unfold words
  rw [pieces_cons_gap hc]
  rfl

theorem words_word_append {word rest : List Char} (hword : IsWord word)
    (hrest : StartsInGap rest) : words (word ++ rest) = word :: words rest := by
  unfold words
  rw [pieces_word_append hword hrest]
  rfl

theorem isWord_of_mem_words {text word : List Char} (h : word ∈ words text) : IsWord word := by
  unfold words at h
  induction text using text_induction with
  | nil =>
      cases h
  | gap c rest hc ih =>
      rw [pieces_cons_gap hc] at h
      exact ih h
  | word run rest hrun hrest ih =>
      rw [pieces_word_append hrun hrest] at h
      rcases List.mem_cons.mp h with heq | hmem
      · rw [heq]
        exact hrun
      · exact ih hmem

theorem mem_of_mem_words {text word : List Char} {c : Char} (h : word ∈ words text)
    (hc : c ∈ word) : c ∈ text := by
  unfold words at h
  induction text using text_induction with
  | nil =>
      cases h
  | gap d rest hd ih =>
      rw [pieces_cons_gap hd] at h
      exact List.mem_cons_of_mem d (ih h)
  | word run rest hrun hrest ih =>
      rw [pieces_word_append hrun hrest] at h
      rcases List.mem_cons.mp h with heq | hmem
      · rw [heq] at hc
        exact List.mem_append_left rest hc
      · exact List.mem_append_right run (ih hmem)

/-!
## The first word with a meaning
-/

theorem exists_of_firstWord?_eq_some {meaning : List Char → Option α} {parts after : List Piece}
    {value : α} (h : firstWord? meaning parts = some (value, after)) :
    ∃ front word, parts = front ++ .word word :: after ∧ meaning word = some value ∧
      ∀ other ∈ front.filterMap Piece.letters?, meaning other = none := by
  induction parts with
  | nil =>
      cases h
  | cons part parts ih =>
      cases part with
      | gap c =>
          rcases ih h with ⟨front, word, hparts, hword, hfront⟩
          refine ⟨.gap c :: front, word, ?_, hword, hfront⟩
          rw [hparts, List.cons_append]
      | word letters =>
          rw [firstWord?] at h
          cases hletters : meaning letters with
          | some found =>
              rw [hletters] at h
              cases h
              refine ⟨[], letters, rfl, hletters, ?_⟩
              intro other hother
              cases hother
          | none =>
              rw [hletters] at h
              rcases ih h with ⟨front, word, hparts, hword, hfront⟩
              refine ⟨.word letters :: front, word, ?_, hword, ?_⟩
              · rw [hparts, List.cons_append]
              · intro other hother
                rcases List.mem_cons.mp hother with heq | hmem
                · rw [heq]
                  exact hletters
                · exact hfront other hmem

theorem mem_words_of_firstWord?_eq_some {meaning : List Char → Option α} {text : List Char}
    {value : α} {after : List Piece} (h : firstWord? meaning (pieces text) = some (value, after)) :
    ∃ word ∈ words text, meaning word = some value := by
  rcases exists_of_firstWord?_eq_some h with ⟨front, word, hpieces, hword, -⟩
  refine ⟨word, ?_, hword⟩
  unfold words
  rw [hpieces, List.filterMap_append]
  exact List.mem_append_right _ List.mem_cons_self

/-!
## The rest of a search

A search for a word stops between two pieces, so that what it leaves is read like a text.
-/

theorem exists_rest_of_firstWord?_eq_some {meaning : List Char → Option α} {text : List Char}
    {value : α} {after : List Piece} (h : firstWord? meaning (pieces text) = some (value, after)) :
    ∃ rest, after = pieces rest := by
  induction text using text_induction with
  | nil =>
      cases h
  | gap c rest hc ih =>
      rw [pieces_cons_gap hc] at h
      exact ih h
  | word run rest hrun hrest ih =>
      rw [pieces_word_append hrun hrest, firstWord?] at h
      cases hmeaning : meaning run with
      | some found =>
          rw [hmeaning] at h
          cases h
          exact ⟨rest, rfl⟩
      | none =>
          rw [hmeaning] at h
          exact ih h

theorem words_join_of_firstWord?_eq_some {meaning : List Char → Option α} {text : List Char}
    {value : α} {after : List Piece} (h : firstWord? meaning (pieces text) = some (value, after)) :
    words (join after) = after.filterMap Piece.letters? := by
  rcases exists_rest_of_firstWord?_eq_some h with ⟨rest, hrest⟩
  rw [hrest, join_pieces]
  rfl

end Text
end SpokenSales
