import SpokenSales.Proofs.Command.Vocabulary
import SpokenSales.Proofs.Text.Decimal

/-!
# Replacing number words

Number words are replaced one by one, and what stands on one side of a word boundary does not
matter to the other side.
-/

namespace SpokenSales
namespace Command

open Text Vocabulary

theorem replaceNumberWords_append_of_startsInGap {text rest : List Char} (h : StartsInGap rest) :
    replaceNumberWords (text ++ rest) = replaceNumberWords text ++ replaceNumberWords rest := by
  unfold replaceNumberWords
  rw [pieces_append_of_startsInGap h, List.flatMap_append]

theorem replaceNumberWords_append_of_endsInGap {text rest : List Char} (h : EndsInGap text) :
    replaceNumberWords (text ++ rest) = replaceNumberWords text ++ replaceNumberWords rest := by
  unfold replaceNumberWords
  rw [pieces_append_of_endsInGap h, List.flatMap_append]

theorem replaceNumberWords_cons_gap {c : Char} (hc : isWordChar c = false) (rest : List Char) :
    replaceNumberWords (c :: rest) = c :: replaceNumberWords rest := by
  unfold replaceNumberWords
  rw [pieces_cons_gap hc]
  rfl

theorem replaceNumberWords_word {before word after : List Char} (hbefore : EndsInGap before)
    (hword : IsWord word) (hafter : StartsInGap after) :
    replaceNumberWords (before ++ (word ++ after)) =
      replaceNumberWords before ++ (inDigits (.word word) ++ replaceNumberWords after) := by
  rw [replaceNumberWords_append_of_endsInGap hbefore]
  unfold replaceNumberWords
  rw [pieces_word_append hword hafter]
  rfl

/-!
## Words that stay
-/

theorem spokenNumber?_of_isLower {word : List Char} (h : ∀ c ∈ word, IsLower c) :
    spokenNumber? word = number? word := by
  unfold spokenNumber?
  rw [lowercase_eq_self h]

theorem spokenNumber?_of_mem_spokenWords {word : List Char} (h : word ∈ spokenWords) :
    spokenNumber? word = number? word := by
  unfold spokenNumber?
  rw [lowercase_of_mem_spokenWords h]

theorem inDigits_word (word : List Char) :
    inDigits (.word word) =
      match spokenNumber? word with
      | some n => decimal n
      | none => word := rfl

theorem replaceNumberWords_eq_self {text : List Char}
    (h : ∀ word ∈ words text, spokenNumber? word = none) : replaceNumberWords text = text := by
  have hparts : ∀ part ∈ pieces text, inDigits part = part.chars := by
    intro part hpart
    cases part with
    | word letters =>
        have hword : letters ∈ words text := List.mem_filterMap.mpr ⟨.word letters, hpart, rfl⟩
        rw [inDigits_word, h letters hword]
        rfl
    | gap c =>
        rfl
  calc
    replaceNumberWords text = ((pieces text).map inDigits).flatten := List.flatMap_def
    _ = ((pieces text).map Piece.chars).flatten := by rw [List.map_congr_left hparts]
    _ = text := join_pieces text

/-!
## Numbers in digits
-/

theorem facts_of_isDigit {c : Char} (h : isDigit c = true) :
    isWordChar c = true ∧ c.toLower = c :=
  forall_ascii (p := fun c => isDigit c = true → isWordChar c = true ∧ c.toLower = c)
    (by decide +kernel) (isAscii_of_isDigit h) h

theorem isWordChar_of_isDigit {c : Char} (h : isDigit c = true) : isWordChar c = true :=
  (facts_of_isDigit h).1

theorem toLower_of_isDigit {c : Char} (h : isDigit c = true) : c.toLower = c :=
  (facts_of_isDigit h).2

theorem not_mem_spokenWords_of_isDigit {word : List Char} {c : Char} (hc : c ∈ word)
    (hdigit : isDigit c = true) : word ∉ spokenWords := by
  intro hmem
  have hletter := (isLetter_of_mem_spokenWords hmem).2 c hc
  rw [isDigit_of_isLetter hletter] at hdigit
  cases hdigit

/-!
## Words in normal form
-/

theorem words_word {word : List Char} (h : IsWord word) : words word = [word] := by
  unfold words
  rw [pieces_word h]
  rfl

theorem normalize_word {word : List Char} (hword : IsWord word) (hlower : lowercase word = word)
    (hnumber : number? word = none) : normalize word = word := by
  unfold normalize
  rw [hlower]
  apply replaceNumberWords_eq_self
  intro heard hheard
  rw [words_word hword] at hheard
  rw [List.mem_singleton.mp hheard]
  unfold spokenNumber?
  rw [hlower, hnumber]

theorem isWord_of_isDigit {digits : List Char} (hne : digits ≠ [])
    (h : ∀ c ∈ digits, isDigit c = true) : IsWord digits :=
  ⟨hne, fun c hc => isWordChar_of_isDigit (h c hc)⟩

theorem lowercase_of_isDigit {digits : List Char} (h : ∀ c ∈ digits, isDigit c = true) :
    lowercase digits = digits := by
  rw [lowercase_of_isAscii fun c hc => isAscii_of_isDigit (h c hc)]
  conv =>
    rhs
    rw [← List.map_id digits]
  apply List.map_congr_left
  intro c hc
  exact toLower_of_isDigit (h c hc)

theorem not_mem_spokenWords_of_forall_isDigit {digits : List Char} (hne : digits ≠ [])
    (h : ∀ c ∈ digits, isDigit c = true) : digits ∉ spokenWords := by
  cases digits with
  | nil =>
      exact absurd rfl hne
  | cons d digits =>
      exact not_mem_spokenWords_of_isDigit List.mem_cons_self (h d List.mem_cons_self)

theorem normalize_digits {digits : List Char} (hne : digits ≠ [])
    (h : ∀ c ∈ digits, isDigit c = true) : normalize digits = digits :=
  normalize_word (isWord_of_isDigit hne h) (lowercase_of_isDigit h)
    (number?_eq_none_of_not_mem (not_mem_spokenWords_of_forall_isDigit hne h))

/-- A caseless character outside words, which is the same in lower case, cuts a text in two that are
put into normal form on their own. -/
theorem normalize_append_gap {c : Char} (hcase : isCaseless c = true) (hlower : lowerChar c = c)
    (hgap : isWordChar c = false) (text rest : List Char) :
    normalize (text ++ c :: rest) = normalize text ++ c :: normalize rest := by
  unfold normalize
  rw [lowercase_append_caseless hcase, hlower,
    replaceNumberWords_append_of_startsInGap (startsInGap_cons hgap _),
    replaceNumberWords_cons_gap hgap]

/-!
## Words of a normal form

Replacing number words changes words one by one and leaves the gaps between them as they are.
-/

theorem startsInGap_replaceNumberWords {text : List Char} (h : StartsInGap text) :
    StartsInGap (replaceNumberWords text) := by
  cases text with
  | nil =>
      exact startsInGap_nil
  | cons c rest =>
      have hc : isWordChar c = false := h c rfl
      rw [replaceNumberWords_cons_gap hc]
      exact startsInGap_cons hc (replaceNumberWords rest)

theorem isWord_inDigits {word : List Char} (h : IsWord word) : IsWord (inDigits (.word word)) := by
  rw [inDigits_word]
  cases spokenNumber? word with
  | some n =>
      exact isWord_of_isDigit (decimal_ne_nil n) fun c hc => isDigit_of_mem_decimal hc
  | none =>
      exact h

theorem words_replaceNumberWords (text : List Char) :
    words (replaceNumberWords text) = (words text).map fun word => inDigits (.word word) := by
  induction text using text_induction with
  | nil =>
      rfl
  | gap c rest hc ih =>
      rw [replaceNumberWords_cons_gap hc, words_cons_gap hc, words_cons_gap hc]
      exact ih
  | word word rest hword hrest ih =>
      have hreplace := replaceNumberWords_word endsInGap_nil hword hrest
      rw [List.nil_append] at hreplace
      rw [hreplace, words_word_append hword hrest, List.map_cons, ← ih]
      exact words_word_append (isWord_inDigits hword) (startsInGap_replaceNumberWords hrest)

theorem spokenNumber?_of_isDigit {digits : List Char} (hne : digits ≠ [])
    (h : ∀ c ∈ digits, isDigit c = true) : spokenNumber? digits = none := by
  unfold spokenNumber?
  rw [lowercase_of_isDigit h,
    number?_eq_none_of_not_mem (not_mem_spokenWords_of_forall_isDigit hne h)]

theorem spokenNumber?_inDigits (word : List Char) :
    spokenNumber? (inDigits (.word word)) = none := by
  rw [inDigits_word]
  cases hnumber : spokenNumber? word with
  | some n =>
      exact spokenNumber?_of_isDigit (decimal_ne_nil n) fun c hc => isDigit_of_mem_decimal hc
  | none =>
      exact hnumber

theorem spokenNumber?_of_mem_words_replaceNumberWords {text word : List Char}
    (h : word ∈ words (replaceNumberWords text)) : spokenNumber? word = none := by
  rw [words_replaceNumberWords] at h
  rcases List.mem_map.mp h with ⟨said, -, rfl⟩
  exact spokenNumber?_inDigits said

theorem replaceNumberWords_replaceNumberWords (text : List Char) :
    replaceNumberWords (replaceNumberWords text) = replaceNumberWords text :=
  replaceNumberWords_eq_self fun _ => spokenNumber?_of_mem_words_replaceNumberWords

theorem mem_words_of_mem_words_replaceNumberWords {text word : List Char}
    (hspoken : word ∈ spokenWords) (h : word ∈ words (replaceNumberWords text)) :
    word ∈ words text := by
  rw [words_replaceNumberWords] at h
  rcases List.mem_map.mp h with ⟨said, hsaid, hword⟩
  rw [inDigits_word] at hword
  cases hnumber : spokenNumber? said with
  | some n =>
      rw [hnumber] at hword
      rw [← hword] at hspoken
      exact absurd hspoken (not_mem_spokenWords_of_forall_isDigit (decimal_ne_nil n)
        fun c hc => isDigit_of_mem_decimal hc)
  | none =>
      rw [hnumber] at hword
      rw [← hword]
      exact hsaid

end Command
end SpokenSales
