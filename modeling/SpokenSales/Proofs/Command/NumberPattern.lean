import SpokenSales.Proofs.Command.Normal
import SpokenSales.Proofs.Command.Spelling
import SpokenSales.Proofs.Text.Occurrence

/-!
# Searching for number words

Number words can be replaced by search: from left to right, wherever one of the number words reads
between two boundaries if case is ignored.  Such a match is always a whole word.  It may be unknown
to the table of number words, and is then put back as it was found.  Hence the search replaces the
same words as a replacement word by word.
-/

namespace SpokenSales
namespace Command

open Text Vocabulary

/-!
## Search and replace
-/

/-- The number words, longer ones before shorter ones and otherwise in alphabetical order. -/
def longestFirst : List (List Char) :=
  (numberWords.map fun entry => entry.1.toList).mergeSort fun word other =>
    other.length < word.length ||
      (word.length == other.length && !other.lex word fun a b => a.toNat < b.toNat)

/-- What the first of some alternatives that reads at a place between boundaries reads there, if case
is ignored. -/
def matchAt? (alternatives : List (List Char)) (before text : List Char) : Option (List Char) :=
  alternatives.findSome? fun word => (spelled? word text).filter fun found =>
    IsBoundary before text ∧ IsBoundary (before ++ found) (text.drop found.length)

/-- A text with `before` in front of it in which all matches are replaced from left to right.  The
first characters of the text, as many as `pending` says, belong to the match before. -/
def replaceMatches (alternatives : List (List Char)) : Nat → List Char → List Char → List Char
  | _, _, [] => []
  | pending + 1, before, c :: text => replaceMatches alternatives pending (before ++ [c]) text
  | 0, before, c :: text =>
      match matchAt? alternatives before (c :: text) with
      | some found =>
          inDigits (.word found) ++
            replaceMatches alternatives (found.length - 1) (before ++ [c]) text
      | none => c :: replaceMatches alternatives 0 (before ++ [c]) text

/-- Whether a text has the number words of another in digits, and all else as it is there: its other
words, and the characters between the words. -/
inductive Rewrites : List Char → List Char → Prop
  | nil : Rewrites [] []
  | gap {c : Char} {rest result : List Char} (hc : isWordChar c = false)
      (hrest : Rewrites rest result) : Rewrites (c :: rest) (c :: result)
  | number {word rest result : List Char} {n : Nat} (hword : IsWord word)
      (hends : StartsInGap rest) (hnumber : spokenNumber? word = some n)
      (hrest : Rewrites rest result) : Rewrites (word ++ rest) (decimal n ++ result)
  | other {word rest result : List Char} (hword : IsWord word) (hends : StartsInGap rest)
      (hnumber : spokenNumber? word = none) (hrest : Rewrites rest result) :
      Rewrites (word ++ rest) (word ++ result)

/-!
## Replacing word by word
-/

theorem replaceNumberWords_word_append {word rest : List Char} (hword : IsWord word)
    (hends : StartsInGap rest) :
    replaceNumberWords (word ++ rest) = inDigits (.word word) ++ replaceNumberWords rest :=
  replaceNumberWords_word endsInGap_nil hword hends

theorem rewrites_replaceNumberWords (text : List Char) :
    Rewrites text (replaceNumberWords text) := by
  induction text using text_induction with
  | nil =>
      exact .nil
  | gap c rest hc ih =>
      rw [replaceNumberWords_cons_gap hc]
      exact .gap hc ih
  | word word rest hword hends ih =>
      rw [replaceNumberWords_word_append hword hends, inDigits_word]
      cases hnumber : spokenNumber? word with
      | some n =>
          exact .number hword hends hnumber ih
      | none =>
          exact .other hword hends hnumber ih

theorem Rewrites.eq {text result : List Char} (h : Rewrites text result) :
    result = replaceNumberWords text := by
  induction h with
  | nil =>
      rfl
  | gap hc _ ih =>
      rw [replaceNumberWords_cons_gap hc, ih]
  | number hword hends hnumber _ ih =>
      rw [replaceNumberWords_word_append hword hends, inDigits_word, hnumber, ih]
  | other hword hends hnumber _ ih =>
      rw [replaceNumberWords_word_append hword hends, inDigits_word, hnumber, ih]

theorem rewrites_iff {text result : List Char} :
    Rewrites text result ↔ result = replaceNumberWords text := by
  constructor
  · exact Rewrites.eq
  · rintro rfl
    exact rewrites_replaceNumberWords text

/-!
## Number words
-/

def AreNumberWords (alternatives : List (List Char)) : Prop :=
  ∀ word, word ∈ alternatives ↔ (number? word).isSome = true

theorem isSome_number?_iff {word : List Char} :
    (number? word).isSome = true ↔ word ∈ numberWords.map fun entry => entry.1.toList := by
  rw [number?, Option.isSome_map, List.find?_isSome]
  simp only [decide_eq_true_eq, List.mem_map]

theorem areNumberWords_longestFirst : AreNumberWords longestFirst := by
  intro word
  rw [isSome_number?_iff]
  exact List.mem_mergeSort

example : longestFirst.take 3 =
    ["seventeen".toList, "eighteen".toList, "fourteen".toList] := by
  cbv

theorem facts_of_number? :
    ∀ word ∈ numberWords.map fun entry => entry.1.toList, word ∈ spokenWords ∧ 'k' ∉ word := by
  decide +kernel

namespace AreNumberWords

variable {alternatives : List (List Char)} (h : AreNumberWords alternatives) {word : List Char}

include h

theorem facts (hword : word ∈ alternatives) : word ∈ spokenWords ∧ 'k' ∉ word :=
  facts_of_number? word (isSome_number?_iff.mp ((h word).mp hword))

theorem isWord_of_spells (hword : word ∈ alternatives) {found : List Char}
    (hspells : Spells word found) : IsWord found := by
  rcases isLetter_of_mem_spokenWords (h.facts hword).1 with ⟨hne, hletters⟩
  exact hspells.isWord hne hletters

theorem exists_spells {found : List Char} {n : Nat} (hnumber : spokenNumber? found = some n) :
    ∃ word ∈ alternatives, Spells word found := by
  refine ⟨lowercase found, (h _).mpr (Option.isSome_of_eq_some hnumber), spells_lowercase ?_⟩
  exact (isLetter_of_mem_spokenWords (mem_of_number?_eq_some hnumber)).2

theorem spokenNumber?_eq_none_iff (hword : word ∈ alternatives) {found : List Char}
    (hspells : Spells word found) : spokenNumber? found = none ↔ 'ſ' ∈ found := by
  constructor
  · intro hnumber
    apply Classical.byContradiction
    intro hs
    have hletters := (isLetter_of_mem_spokenWords (h.facts hword).1).2
    have hsome := (h word).mp hword
    rw [← hspells.lowercase_eq hletters (h.facts hword).2 hs] at hsome
    rw [spokenNumber?] at hnumber
    rw [hnumber] at hsome
    cases hsome
  · intro hs
    apply Option.eq_none_iff_forall_ne_some.mpr
    intro n hnumber
    have hmem : 'ſ' ∈ lowercase found :=
      mem_lowercase_of_isLower (isLower_of_lowerChar_eq (by decide +kernel) (by decide)) hs
    have hletter := (isLetter_of_mem_spokenWords (mem_of_number?_eq_some hnumber)).2 _ hmem
    exact absurd hletter (by decide)

end AreNumberWords

/-!
## Matches
-/

/-- Whether one of some alternatives reads between boundaries if case is ignored. -/
structure IsMatch (alternatives : List (List Char)) (before found after : List Char) : Prop where
  spells : ∃ word ∈ alternatives, Spells word found
  begins : IsBoundary before (found ++ after)
  ends : IsBoundary (before ++ found) after

section

variable {alternatives : List (List Char)} {before text found after : List Char}

theorem isMatch_of_matchAt?_eq_some (h : matchAt? alternatives before text = some found) :
    ∃ after, text = found ++ after ∧ IsMatch alternatives before found after := by
  rcases List.exists_of_findSome?_eq_some h with ⟨word, hword, hfound⟩
  rcases Option.filter_eq_some_iff.mp hfound with ⟨hspelled, hboundaries⟩
  rcases spelled?_eq_some_iff.mp hspelled with ⟨hspells, after, rfl⟩
  rw [List.drop_left, decide_eq_true_eq] at hboundaries
  exact ⟨after, rfl, ⟨word, hword, hspells⟩, hboundaries.1, hboundaries.2⟩

theorem matchAt?_ne_none (h : IsMatch alternatives before found after) :
    matchAt? alternatives before (found ++ after) ≠ none := by
  rcases h.spells with ⟨word, hword, hspells⟩
  intro hnone
  have hfilter := List.findSome?_eq_none_iff.mp hnone word hword
  rw [spelled?_eq_some_iff.mpr ⟨hspells, List.prefix_append found after⟩, Option.filter_some,
    List.drop_left, if_pos (decide_eq_true ⟨h.begins, h.ends⟩)] at hfilter
  cases hfilter

variable (hwords : AreNumberWords alternatives)

include hwords

theorem IsMatch.stands (h : IsMatch alternatives before found after) :
    Stands (before ++ (found ++ after)) before found after := by
  rcases h.spells with ⟨word, hword, hspells⟩
  exact (stands_iff_isBoundary (hwords.isWord_of_spells hword hspells)).mpr
    ⟨rfl, h.begins, h.ends⟩

theorem matchAt?_of_startsInGap (h : StartsInGap text) :
    matchAt? alternatives before text = none := by
  apply Option.eq_none_iff_forall_ne_some.mpr
  intro found hfound
  rcases isMatch_of_matchAt?_eq_some hfound with ⟨after, rfl, hmatch⟩
  exact not_startsInGap_word (hmatch.stands hwords).isWord h

theorem matchAt?_of_not_endsInGap (h : ¬EndsInGap before) :
    matchAt? alternatives before text = none := by
  apply Option.eq_none_iff_forall_ne_some.mpr
  intro found hfound
  rcases isMatch_of_matchAt?_eq_some hfound with ⟨after, rfl, hmatch⟩
  exact h (hmatch.stands hwords).endsInGap

theorem eq_of_matchAt?_word_append {run rest : List Char} (hrun : IsWord run)
    (hrest : StartsInGap rest) (h : matchAt? alternatives before (run ++ rest) = some found) :
    found = run := by
  rcases isMatch_of_matchAt?_eq_some h with ⟨after, hsplit, hmatch⟩
  have hstands := hmatch.stands hwords
  exact (word_append_inj hstands.isWord hstands.startsInGap hrun hrest hsplit.symm).1

theorem spokenNumber?_of_matchAt?_eq_none {run rest : List Char} (hbefore : EndsInGap before)
    (hrun : IsWord run) (hrest : StartsInGap rest)
    (h : matchAt? alternatives before (run ++ rest) = none) : spokenNumber? run = none := by
  apply Option.eq_none_iff_forall_ne_some.mpr
  intro n hnumber
  exact matchAt?_ne_none ⟨hwords.exists_spells hnumber,
    (isBoundary_word_append hrun).mpr hbefore, (isBoundary_append_word hrun).mpr hrest⟩ h

end

/-!
## The search word by word

A gap is passed.  At a word, either the whole word is matched or its letters are passed one by one,
since no boundary is inside.
-/

theorem replaceMatches_pending (alternatives : List (List Char)) (before front text : List Char) :
    replaceMatches alternatives front.length before (front ++ text) =
      replaceMatches alternatives 0 (before ++ front) text := by
  induction front generalizing before with
  | nil =>
      rw [List.append_nil]
      rfl
  | cons c front ih =>
      rw [List.cons_append, List.length_cons, replaceMatches, ih, List.append_assoc]
      rfl

section

variable {alternatives : List (List Char)} (hwords : AreNumberWords alternatives)

include hwords

theorem replaceMatches_inside {run : List Char} (hrun : ∀ c ∈ run, isWordChar c = true)
    {before : List Char} (hbefore : ¬EndsInGap before) (text : List Char) :
    replaceMatches alternatives 0 before (run ++ text) =
      run ++ replaceMatches alternatives 0 (before ++ run) text := by
  induction run generalizing before with
  | nil =>
      rw [List.append_nil]
      rfl
  | cons c run ih =>
      rcases List.forall_mem_cons.mp hrun with ⟨hc, hrun⟩
      have hnext : ¬EndsInGap (before ++ [c]) :=
        not_endsInGap_append_word (isWord_cons hc (List.forall_mem_nil _))
      rw [List.cons_append, replaceMatches, matchAt?_of_not_endsInGap hwords hbefore]
      show c :: replaceMatches alternatives 0 (before ++ [c]) (run ++ text) = _
      rw [ih hrun hnext, List.append_assoc]
      rfl

theorem replaceMatches_word {before run rest : List Char} (hbefore : EndsInGap before)
    (hrun : IsWord run) (hrest : StartsInGap rest) :
    replaceMatches alternatives 0 before (run ++ rest) =
      inDigits (.word run) ++ replaceMatches alternatives 0 (before ++ run) rest := by
  rcases List.exists_cons_of_ne_nil hrun.1 with ⟨c, letters, rfl⟩
  rw [List.cons_append, replaceMatches, ← List.cons_append]
  cases hmatch : matchAt? alternatives before (c :: letters ++ rest) with
  | some found =>
      have hpending := replaceMatches_pending alternatives (before ++ [c]) letters rest
      rw [List.append_assoc] at hpending
      obtain rfl := eq_of_matchAt?_word_append hwords hrun hrest hmatch
      exact congrArg (inDigits (.word (c :: letters)) ++ ·) hpending
  | none =>
      rcases List.forall_mem_cons.mp hrun.2 with ⟨hc, hletters⟩
      have hinside : ¬EndsInGap (before ++ [c]) :=
        not_endsInGap_append_word (isWord_cons hc (List.forall_mem_nil _))
      show c :: replaceMatches alternatives 0 (before ++ [c]) (letters ++ rest) = _
      rw [inDigits_word, spokenNumber?_of_matchAt?_eq_none hwords hbefore hrun hrest hmatch,
        replaceMatches_inside hwords hletters hinside, List.append_assoc]
      rfl

theorem replaceMatches_eq {before : List Char} (text : List Char)
    (hbefore : StartsInGap text ∨ EndsInGap before) :
    replaceMatches alternatives 0 before text = replaceNumberWords text := by
  induction text using text_induction generalizing before with
  | nil =>
      rfl
  | gap c rest hc ih =>
      rw [replaceMatches, matchAt?_of_startsInGap hwords (startsInGap_cons hc rest),
        replaceNumberWords_cons_gap hc]
      exact congrArg (List.cons c) (ih (Or.inr (endsInGap_concat before hc)))
  | word run rest hrun hrest ih =>
      have hends : EndsInGap before :=
        hbefore.resolve_left fun hstarts => not_startsInGap_word hrun hstarts
      rw [replaceMatches_word hwords hends hrun hrest, replaceNumberWords_word_append hrun hrest,
        ih (Or.inl hrest)]

end

/-- To search for number words and to replace words one by one is the same: of the words of a text,
those that the table knows stand in digits in the result and all else stands as it did.  Words that
the table does not know stay, among them whatever is spelled like a number word with a long s.  No
number word is left, so that a second replacement changes nothing. -/
theorem replaceNumberWords_word_by_word (text : List Char) :
    replaceMatches longestFirst 0 [] text = replaceNumberWords text ∧
    (∀ result, Rewrites text result ↔ result = replaceNumberWords text) ∧
    (∀ before word after, Stands text before word after → spokenNumber? word = none →
      replaceNumberWords text =
        replaceNumberWords before ++ (word ++ replaceNumberWords after)) ∧
    (∀ word ∈ longestFirst, ∀ found, Spells word found →
      (spokenNumber? found = none ↔ 'ſ' ∈ found)) ∧
    (∀ word ∈ words (replaceNumberWords text), spokenNumber? word = none) ∧
    replaceNumberWords (replaceNumberWords text) = replaceNumberWords text := by
  refine ⟨replaceMatches_eq areNumberWords_longestFirst text (Or.inr endsInGap_nil),
    fun result => rewrites_iff, ?_, ?_, fun word => spokenNumber?_of_mem_words_replaceNumberWords,
    replaceNumberWords_replaceNumberWords text⟩
  · intro before word after hstands hnumber
    rw [hstands.split,
      replaceNumberWords_word hstands.endsInGap hstands.isWord hstands.startsInGap, inDigits_word,
      hnumber]
  · intro word hword found hspells
    exact areNumberWords_longestFirst.spokenNumber?_eq_none_iff hword hspells

theorem replaceNumberWords_word_by_word_longS :
    matchAt? longestFirst "Six ".toList ("ſIX".toList ++ " SIXTEEN".toList) ≠ none ∧
      (spokenNumber? "ſIX".toList = none ↔ 'ſ' ∈ "ſIX".toList) ∧
      replaceNumberWords "Six ſIX SIXTEEN".toList =
        replaceNumberWords "Six ".toList ++ ("ſIX".toList ++ replaceNumberWords " SIXTEEN".toList) ∧
      replaceNumberWords "Six ſIX SIXTEEN".toList = "6 ſIX 16".toList := by
  have hspells : Spells "six".toList "ſIX".toList :=
    (spelled?_eq_some_iff.mp (by decide : spelled? "six".toList "ſIX".toList = _)).1
  have hsix : "six".toList ∈ longestFirst :=
    (areNumberWords_longestFirst _).mpr (by decide)
  have hmatch : IsMatch longestFirst "Six ".toList "ſIX".toList " SIXTEEN".toList :=
    ⟨⟨_, hsix, hspells⟩, by decide +kernel, by decide +kernel⟩
  have hknown := (replaceNumberWords_word_by_word []).2.2.2.1 _ hsix _ hspells
  exact ⟨matchAt?_ne_none hmatch, hknown,
    (replaceNumberWords_word_by_word _).2.2.1 _ _ _ (hmatch.stands areNumberWords_longestFirst)
      (hknown.mpr (by decide)),
    by decide +kernel⟩

end Command
end SpokenSales
