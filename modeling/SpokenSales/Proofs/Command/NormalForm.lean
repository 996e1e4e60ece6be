import SpokenSales.Proofs.Command.Layout

/-!
# Texts in normal form

A text is in normal form if none of its characters changes in lower case and none of its words is a
number word.  These are the texts that `normalize` leaves as they are, and it makes no others.
White space stands between parts that are put into normal form on their own.
-/

namespace SpokenSales
namespace Command

open Text Vocabulary

/-- Whether a text has neither capital letters nor number words. -/
structure IsNormal (text : List Char) : Prop where
  isLower : ∀ c ∈ text, IsLower c
  noNumber : ∀ word ∈ words text, number? word = none

/-!
## Normal forms
-/

theorem isLower_of_isDigit {c : Char} (h : isDigit c = true) : IsLower c := by
  have hascii := isAscii_of_isDigit h
  apply isLower_of_lowerChar_eq
  · rw [lowerChar_of_isAscii hascii, toLower_of_isDigit h]
  · rintro rfl
    exact absurd hascii (by decide)

theorem mem_chars_or_isDigit {part : Piece} {c : Char} (h : c ∈ inDigits part) :
    c ∈ part.chars ∨ isDigit c = true := by
  cases part with
  | word letters =>
      rw [inDigits_word] at h
      cases hnumber : spokenNumber? letters with
      | some n =>
          rw [hnumber] at h
          exact Or.inr (isDigit_of_mem_decimal h)
      | none =>
          rw [hnumber] at h
          exact Or.inl h
  | gap d =>
      exact Or.inl h

theorem mem_or_isDigit_of_mem_replaceNumberWords {text : List Char} {c : Char}
    (h : c ∈ replaceNumberWords text) : c ∈ text ∨ isDigit c = true := by
  rcases List.mem_flatMap.mp h with ⟨part, hpart, hc⟩
  rcases mem_chars_or_isDigit hc with hchars | hdigit
  · have hmem : c ∈ join (pieces text) := List.mem_flatMap.mpr ⟨part, hpart, hchars⟩
    rw [join_pieces] at hmem
    exact Or.inl hmem
  · exact Or.inr hdigit

theorem isLower_of_mem_normalize {text : List Char} {c : Char} (h : c ∈ normalize text) :
    IsLower c := by
  rcases mem_or_isDigit_of_mem_replaceNumberWords h with hmem | hdigit
  · exact isLower_of_mem_lowercase hmem
  · exact isLower_of_isDigit hdigit

theorem spokenNumber?_of_mem_words {text word : List Char} (h : ∀ c ∈ text, IsLower c)
    (hword : word ∈ words text) : spokenNumber? word = number? word :=
  spokenNumber?_of_isLower fun c hc => h c (mem_of_mem_words hword hc)

theorem isNormal_normalize (text : List Char) : IsNormal (normalize text) where
  isLower := fun _ => isLower_of_mem_normalize
  noNumber := by
    intro word hword
    rw [← spokenNumber?_of_mem_words (fun _ => isLower_of_mem_normalize) hword]
    exact spokenNumber?_of_mem_words_replaceNumberWords hword

theorem IsNormal.normalize_eq {text : List Char} (h : IsNormal text) : normalize text = text := by
  unfold normalize
  rw [lowercase_eq_self h.isLower]
  apply replaceNumberWords_eq_self
  intro word hword
  rw [spokenNumber?_of_mem_words h.isLower hword, h.noNumber word hword]

theorem normalize_eq_self_iff {text : List Char} : normalize text = text ↔ IsNormal text := by
  constructor
  · intro h
    rw [← h]
    exact isNormal_normalize text
  · exact IsNormal.normalize_eq

theorem normalize_normalize (text : List Char) : normalize (normalize text) = normalize text :=
  (isNormal_normalize text).normalize_eq

/-!
## White space
-/

theorem caseless_of_isBlank {c : Char} (h : isBlank c = true) :
    isCaseless c = true ∧ lowerChar c = c :=
  forall_blank (p := fun c => isCaseless c = true ∧ lowerChar c = c) (by decide +kernel) h

theorem normalize_append_cons_blank {c : Char} (hc : isBlank c = true) (text rest : List Char) :
    normalize (text ++ c :: rest) = normalize text ++ c :: normalize rest :=
  normalize_append_gap (caseless_of_isBlank hc).1 (caseless_of_isBlank hc).2
    (isWordChar_of_isBlank hc) text rest

theorem normalize_blank_append {blank : List Char} (h : isBlankText blank = true)
    (rest : List Char) : normalize (blank ++ rest) = blank ++ normalize rest := by
  induction blank with
  | nil =>
      rfl
  | cons c blank ih =>
      rcases isBlankText_cons.mp h with ⟨hc, hblank⟩
      have hfront := normalize_append_cons_blank hc [] (blank ++ rest)
      rw [ih hblank] at hfront
      exact hfront

theorem normalize_append_blank {blank : List Char} (h : isBlankText blank = true)
    (hne : blank ≠ []) (front back : List Char) :
    normalize (front ++ (blank ++ back)) = normalize front ++ (blank ++ normalize back) := by
  cases blank with
  | nil =>
      exact absurd rfl hne
  | cons c blank =>
      rcases isBlankText_cons.mp h with ⟨hc, hblank⟩
      rw [List.cons_append, normalize_append_cons_blank hc, normalize_blank_append hblank]
      rfl

/-- The texts that `normalize` makes are those that it leaves as they are, so that a text is
understood like its normal form.  White space divides a text into parts that have normal forms of
their own. -/
theorem normalize_normal_form :
    (∀ text, normalize text = text ↔ IsNormal text) ∧
    (∀ text, normalize (normalize text) = normalize text) ∧
    (∀ text, parse (normalize text) = parse text) ∧
    ∀ front blank back, isBlankText blank = true → blank ≠ [] →
      normalize (front ++ (blank ++ back)) = normalize front ++ (blank ++ normalize back) := by
  refine ⟨fun text => normalize_eq_self_iff, normalize_normalize, ?_, ?_⟩
  · intro text
    unfold parse
    rw [normalize_normalize]
  · intro front blank back hblank hne
    exact normalize_append_blank hblank hne front back

theorem normalize_normal_form_lineBreak :
    isBlankText "\u2003\n".toList = true ∧ "\u2003\n".toList ≠ [] ∧
      normalize ("ΟΔΟΣ".toList ++ ("\u2003\n".toList ++ "TWO.Σ".toList)) =
        normalize "ΟΔΟΣ".toList ++ ("\u2003\n".toList ++ normalize "TWO.Σ".toList) ∧
      normalize "ΟΔΟΣ".toList ++ ("\u2003\n".toList ++ normalize "TWO.Σ".toList) =
        "οδος\u2003\n2.ς".toList :=
  ⟨by decide, by decide, normalize_normal_form.2.2.2 _ _ _ (by decide) (by decide),
    by decide +kernel⟩

end Command
end SpokenSales
