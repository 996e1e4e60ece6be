import SpokenSales.Proofs.Command.Normal

/-!
# Final sigma in a command

Where a capital sigma stands decides its lowercase form.  No word of a command contains a sigma in
either form, and the two forms bound words alike, so that a command may be put into lower case
character by character.
-/

namespace SpokenSales

open Text Vocabulary

namespace Text

theorem plainSigma_of_ne {c : Char} (hc : c ≠ 'ς') : plainSigma c = c := by
  unfold plainSigma
  rw [if_neg hc]

theorem plainSigma_of_isAscii {c : Char} (hc : isAscii c = true) : plainSigma c = c := by
  apply plainSigma_of_ne
  intro heq
  rw [heq] at hc
  exact absurd hc (by decide)

theorem apply_plainSigma {p : Char → α} (h : p 'σ' = p 'ς') (c : Char) : p (plainSigma c) = p c := by
  by_cases hc : c = 'ς'
  · rw [hc]
    exact h
  · rw [plainSigma_of_ne hc]

theorem isWordChar_plainSigma (c : Char) : isWordChar (plainSigma c) = isWordChar c :=
  apply_plainSigma (by decide) c

theorem isAscii_plainSigma (c : Char) : isAscii (plainSigma c) = isAscii c :=
  apply_plainSigma (by decide) c

theorem isDigit_plainSigma (c : Char) : isDigit (plainSigma c) = isDigit c :=
  apply_plainSigma (by decide) c

theorem isSeparator_plainSigma (c : Char) :
    Command.isSeparator (plainSigma c) = Command.isSeparator c :=
  apply_plainSigma (by decide) c

theorem map_plainSigma_of_isAscii {text : List Char} (h : ∀ c ∈ text, isAscii c = true) :
    text.map plainSigma = text := by
  conv =>
    rhs
    rw [← List.map_id text]
  apply List.map_congr_left
  intro c hc
  exact plainSigma_of_isAscii (h c hc)

theorem isAscii_of_map_plainSigma {text : List Char}
    (h : ∀ c ∈ text.map plainSigma, isAscii c = true) : ∀ c ∈ text, isAscii c = true := by
  intro c hc
  rw [← isAscii_plainSigma]
  exact h (plainSigma c) (List.mem_map_of_mem hc)

/-!
## Pieces
-/

def Piece.plain : Piece → Piece
  | word letters => .word (letters.map plainSigma)
  | gap c => .gap (plainSigma c)

theorem extend_plain (c : Char) (parts : List Piece) :
    extend (plainSigma c) (parts.map Piece.plain) = (extend c parts).map Piece.plain := by
  cases parts with
  | nil =>
      rfl
  | cons part rest =>
      cases part <;> rfl

theorem pieces_map_plainSigma (text : List Char) :
    pieces (text.map plainSigma) = (pieces text).map Piece.plain := by
  induction text with
  | nil =>
      rfl
  | cons c rest ih =>
      rw [List.map_cons]
      unfold pieces
      rw [isWordChar_plainSigma, ih]
      split
      · exact extend_plain c (pieces rest)
      · rfl

theorem chars_plain (part : Piece) : part.plain.chars = part.chars.map plainSigma := by
  cases part <;> rfl

theorem join_map_plain (parts : List Piece) :
    join (parts.map Piece.plain) = (join parts).map plainSigma := by
  induction parts with
  | nil =>
      rfl
  | cons part rest ih =>
      rw [List.map_cons, join_cons, join_cons, List.map_append, chars_plain, ih]

theorem filterMap_letters?_plain (parts : List Piece) :
    (parts.map Piece.plain).filterMap Piece.letters? =
      (parts.filterMap Piece.letters?).map (List.map plainSigma) := by
  induction parts with
  | nil =>
      rfl
  | cons part rest ih =>
      cases part with
      | word letters =>
          exact congrArg (List.cons (letters.map plainSigma)) ih
      | gap c =>
          exact ih

theorem words_map_plainSigma (text : List Char) :
    words (text.map plainSigma) = (words text).map (List.map plainSigma) := by
  unfold words
  rw [pieces_map_plainSigma, filterMap_letters?_plain]

end Text

/-!
## Meanings of words
-/

def IsPlain (meaning : List Char → Option α) : Prop :=
  ∀ word value, meaning word = some value → ∀ c ∈ word, isAscii c = true

namespace IsPlain

theorem apply_map {meaning : List Char → Option α} (h : IsPlain meaning) (word : List Char) :
    meaning (word.map plainSigma) = meaning word := by
  cases hword : meaning word with
  | some value =>
      rw [map_plainSigma_of_isAscii (h word value hword), hword]
  | none =>
      apply Option.eq_none_iff_forall_ne_some.mpr
      intro value hvalue
      have hascii := isAscii_of_map_plainSigma (h _ value hvalue)
      rw [map_plainSigma_of_isAscii hascii, hword] at hvalue
      cases hvalue

theorem of_spokenWords {meaning : List Char → Option α}
    (h : ∀ word value, meaning word = some value → word ∈ spokenWords) : IsPlain meaning := by
  intro word value hvalue
  exact isAscii_of_mem_spokenWords (h word value hvalue)

theorem number : IsPlain number? :=
  of_spokenWords fun _ _ => mem_of_number?_eq_some

theorem month : IsPlain month? :=
  of_spokenWords fun _ _ => mem_of_month?_eq_some

theorem ranking : IsPlain Command.ranking? :=
  of_spokenWords fun _ _ h =>
    Command.mem_spokenWords_of_mem_keywords (Command.mem_keywords_of_ranking?_eq_some h)

theorem all : IsPlain Command.all? :=
  of_spokenWords fun _ _ h =>
    Command.mem_spokenWords_of_mem_keywords (Command.mem_keywords_of_all?_eq_some h)

theorem year : IsPlain Command.year? := by
  intro word value hvalue c hc
  exact isAscii_of_isDigit ((Command.isDigit_of_year?_eq_some hvalue).2 c hc)

end IsPlain

namespace Command

/-!
## Number words
-/

theorem map_plainSigma_lowercase_map (text : List Char) :
    (lowercase (text.map plainSigma)).map plainSigma = (lowercase text).map plainSigma := by
  rw [map_plainSigma_lowercase, map_plainSigma_lowercase]
  induction text with
  | nil =>
      rfl
  | cons c rest ih =>
      have hc : (lowerIn [] (plainSigma c) []).map plainSigma =
          (lowerIn [] c []).map plainSigma :=
        apply_plainSigma (p := fun c => (lowerIn [] c []).map plainSigma) (by decide) c
      rw [List.map_cons, lowercaseApart_cons, lowercaseApart_cons, List.map_append,
        List.map_append, hc, ih]

theorem spokenNumber?_map_plainSigma (word : List Char) :
    spokenNumber? (word.map plainSigma) = spokenNumber? word := by
  unfold spokenNumber?
  rw [← IsPlain.number.apply_map, map_plainSigma_lowercase_map, IsPlain.number.apply_map]

theorem inDigits_plain (part : Piece) : inDigits part.plain = (inDigits part).map plainSigma := by
  cases part with
  | word letters =>
      have hplain : inDigits (Piece.plain (.word letters)) =
          inDigits (.word (letters.map plainSigma)) := rfl
      rw [hplain, inDigits_word, inDigits_word, spokenNumber?_map_plainSigma]
      cases spokenNumber? letters with
      | none =>
          rfl
      | some n =>
          have hascii : ∀ c ∈ decimal n, isAscii c = true := by
            intro c hc
            exact isAscii_of_isDigit (isDigit_of_mem_decimal hc)
          exact (map_plainSigma_of_isAscii hascii).symm
  | gap c =>
      rfl

theorem replaceNumberWords_map_plainSigma (text : List Char) :
    replaceNumberWords (text.map plainSigma) = (replaceNumberWords text).map plainSigma := by
  unfold replaceNumberWords
  rw [pieces_map_plainSigma, List.flatMap_map, List.map_flatMap]
  simp only [inDigits_plain]

/-!
## Shapes
-/

theorem firstWord?_map_plain {meaning : List Char → Option α} (h : IsPlain meaning)
    (parts : List Piece) :
    firstWord? meaning (parts.map Piece.plain) =
      (firstWord? meaning parts).map fun found => (found.1, found.2.map Piece.plain) := by
  induction parts with
  | nil =>
      rfl
  | cons part rest ih =>
      cases part with
      | gap c =>
          exact ih
      | word letters =>
          have hplain : Piece.plain (.word letters) = .word (letters.map plainSigma) := rfl
          rw [List.map_cons, hplain, firstWord?, firstWord?, h.apply_map]
          cases meaning letters with
          | none =>
              exact ih
          | some value =>
              rfl

theorem findSome?_map_plain {meaning : List Char → Option α} (h : IsPlain meaning)
    (heard : List (List Char)) :
    (heard.map (List.map plainSigma)).findSome? meaning = heard.findSome? meaning := by
  rw [List.findSome?_map]
  congr 1
  funext word
  exact h.apply_map word

theorem firstDigits?_map_plainSigma (text : List Char) :
    firstDigits? (text.map plainSigma) =
      (firstDigits? text).map fun found => (found.1, found.2.map plainSigma) := by
  have hdigit : isDigit ∘ plainSigma = isDigit := by
    funext c
    exact isDigit_plainSigma c
  have hother : (fun c => !isDigit c) ∘ plainSigma = fun c => !isDigit c := by
    funext c
    exact congrArg not (isDigit_plainSigma c)
  have hascii : ∀ c ∈ (text.dropWhile fun c => !isDigit c).takeWhile isDigit,
      isAscii c = true := by
    intro c hc
    exact isAscii_of_isDigit (List.all_eq_true.mp List.all_takeWhile c hc)
  unfold firstDigits?
  simp only [List.dropWhile_map, List.takeWhile_map, hdigit, hother, List.isEmpty_map]
  split
  · rfl
  · rw [map_plainSigma_of_isAscii hascii]
    rfl

theorem ranked?_map_plainSigma (text : List Char) :
    ranked? (text.map plainSigma) = ranked? text := by
  unfold ranked?
  rw [pieces_map_plainSigma, firstWord?_map_plain IsPlain.ranking]
  cases firstWord? ranking? (pieces text) with
  | none =>
      rfl
  | some found =>
      simp only [Option.map_some, join_map_plain, firstDigits?_map_plainSigma]
      cases firstDigits? (join found.2) with
      | none =>
          rfl
      | some split =>
          simp only [Option.map_some, words_map_plainSigma]
          unfold firstMonth? firstYear?
          rw [findSome?_map_plain IsPlain.month, findSome?_map_plain IsPlain.year]

theorem any_map_plain {p : List Char → Bool} (h : ∀ word, p (word.map plainSigma) = p word)
    (heard : List (List Char)) : (heard.map (List.map plainSigma)).any p = heard.any p := by
  rw [List.any_map]
  congr 1
  funext word
  exact h word

theorem isSome_ranking?_map (word : List Char) :
    (ranking? (word.map plainSigma)).isSome = (ranking? word).isSome := by
  rw [IsPlain.ranking.apply_map]

theorem isSome_all? (word : List Char) : (all? word).isSome = isAll word := by
  unfold all?
  cases isAll word <;> rfl

theorem isAll_map_plainSigma (word : List Char) : isAll (word.map plainSigma) = isAll word := by
  rw [← isSome_all?, ← isSome_all?, IsPlain.all.apply_map]

theorem unlimited?_map_plainSigma (text : List Char) :
    unlimited? (text.map plainSigma) = unlimited? text := by
  have hfirst : firstWord? (fun word => if isAll word then some () else none)
      ((pieces text).map Piece.plain) =
      (firstWord? (fun word => if isAll word then some () else none) (pieces text)).map
        fun found => (found.1, found.2.map Piece.plain) :=
    firstWord?_map_plain IsPlain.all (pieces text)
  unfold unlimited?
  rw [words_map_plainSigma, any_map_plain isSome_ranking?_map, pieces_map_plainSigma, hfirst]
  split
  · rfl
  · cases firstWord? (fun word => if isAll word then some () else none) (pieces text) with
    | none =>
        rfl
    | some found =>
        simp only [Option.map_some, filterMap_letters?_plain]
        unfold firstMonth? firstYear?
        rw [findSome?_map_plain IsPlain.month, findSome?_map_plain IsPlain.year]

theorem monthAndYear?_map_plainSigma (first second : List Char) :
    monthAndYear? (first.map plainSigma) (second.map plainSigma) = monthAndYear? first second := by
  unfold monthAndYear?
  simp only [IsPlain.month.apply_map, IsPlain.year.apply_map]

theorem nextWord?_map_plain (separated : Bool) (parts : List Piece) :
    nextWord? separated (parts.map Piece.plain) =
      (nextWord? separated parts).map (List.map plainSigma) := by
  induction parts generalizing separated with
  | nil =>
      rfl
  | cons part rest ih =>
      cases part with
      | gap c =>
          have hplain : Piece.plain (.gap c) = .gap (plainSigma c) := rfl
          rw [List.map_cons, hplain, nextWord?, nextWord?, isSeparator_plainSigma]
          split
          · exact ih true
          · rfl
      | word letters =>
          have hplain : Piece.plain (.word letters) = .word (letters.map plainSigma) := rfl
          rw [List.map_cons, hplain, nextWord?, nextWord?]
          split <;> rfl

theorem neighbours?_map_plain (parts : List Piece) :
    neighbours? (parts.map Piece.plain) = neighbours? parts := by
  induction parts with
  | nil =>
      rfl
  | cons part rest ih =>
      cases part with
      | gap c =>
          exact ih
      | word letters =>
          have hplain : Piece.plain (.word letters) = .word (letters.map plainSigma) := rfl
          have hbind : ((nextWord? false rest).map (List.map plainSigma)).bind
              (monthAndYear? (letters.map plainSigma)) =
              (nextWord? false rest).bind (monthAndYear? letters) := by
            cases nextWord? false rest with
            | none =>
                rfl
            | some next =>
                exact monthAndYear?_map_plainSigma letters next
          rw [List.map_cons, hplain, neighbours?, neighbours?, nextWord?_map_plain, hbind, ih]

theorem monthYear?_map_plainSigma (text : List Char) :
    monthYear? (text.map plainSigma) = monthYear? text := by
  have hkeyword : ∀ word : List Char,
      ((ranking? (word.map plainSigma)).isSome || isAll (word.map plainSigma)) =
        ((ranking? word).isSome || isAll word) := by
    intro word
    rw [isSome_ranking?_map, isAll_map_plainSigma]
  unfold monthYear?
  rw [words_map_plainSigma,
    any_map_plain (p := fun word => (ranking? word).isSome || isAll word) hkeyword,
    pieces_map_plainSigma, neighbours?_map_plain]

theorem query?_map_plainSigma (shape : Shape) (text : List Char) :
    shape.query? (text.map plainSigma) = shape.query? text := by
  cases shape with
  | ranked =>
      exact ranked?_map_plainSigma text
  | unlimited =>
      exact unlimited?_map_plainSigma text
  | monthYear =>
      exact monthYear?_map_plainSigma text

theorem recognize?_map_plainSigma (text : List Char) :
    recognize? (text.map plainSigma) = recognize? text := by
  unfold recognize?
  simp only [query?_map_plainSigma]

theorem recognize?_normalize (text : List Char) :
    recognize? (normalize text) = recognize? (replaceNumberWords (lowercaseApart text)) := by
  unfold normalize
  rw [← recognize?_map_plainSigma, ← replaceNumberWords_map_plainSigma, map_plainSigma_lowercase,
    replaceNumberWords_map_plainSigma, recognize?_map_plainSigma]

theorem parse_eq_of_lowercaseApart {text other : List Char}
    (h : replaceNumberWords (lowercaseApart text) = replaceNumberWords (lowercaseApart other)) :
    parse text = parse other := by
  unfold parse
  rw [recognize?_normalize, recognize?_normalize, h]

end Command

end SpokenSales
