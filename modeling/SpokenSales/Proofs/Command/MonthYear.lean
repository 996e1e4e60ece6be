import SpokenSales.Proofs.Command.Continued
import SpokenSales.Proofs.Command.Filters
import SpokenSales.Proofs.Command.Layout

/-!
# A month beside its year

Without a keyword, a text is understood if a month and a year follow each other in it with only
separators between them.  Of several such pairs, the one whose first word is leftmost counts.
-/

namespace SpokenSales
namespace Command

open Text

/-!
## Pairs of words
-/

/-- A text cut in five: two words, with what is before, between and after them. -/
structure WordPair where
  before : List Char
  first : List Char
  between : List Char
  second : List Char
  after : List Char

namespace WordPair

def rest (pair : WordPair) : List Char :=
  pair.between ++ (pair.second ++ pair.after)

def Names (pair : WordPair) (month : UInt32) (year : Int32) : Prop :=
  NamesMonth pair.first month ∧ NamesYear pair.second year ∨
    NamesYear pair.first year ∧ NamesMonth pair.second month

/-- Whether two whole words of a text follow each other, with separators between them and nothing
else, and one is a month name and the other a year. -/
structure Occurs (pair : WordPair) (text : List Char) : Prop where
  first : Stands text pair.before pair.first pair.rest
  second : Stands pair.rest pair.between pair.second pair.after
  separators : ∀ c ∈ pair.between, isSeparator c = true
  separated : pair.between ≠ []
  names : ∃ month year, pair.Names month year

/-- Whether no such pair of a text has its first word further to the left. -/
structure IsLeftmost (pair : WordPair) (text : List Char) : Prop extends pair.Occurs text where
  leftmost : ∀ other : WordPair, other.Occurs text → pair.before.length ≤ other.before.length

/-- Whether a text reads as a month name, separators and a year, or the other way round, somewhere
between boundaries. -/
structure Fits (pair : WordPair) (text : List Char) : Prop where
  split : text = pair.before ++ (pair.first ++ pair.rest)
  begins : IsBoundary pair.before (pair.first ++ pair.rest)
  ends : IsBoundary (pair.before ++ (pair.first ++ (pair.between ++ pair.second))) pair.after
  separators : ∀ c ∈ pair.between, isSeparator c = true
  separated : pair.between ≠ []
  names : ∃ month year, pair.Names month year

end WordPair

def HasKeyword (text : List Char) : Prop :=
  ∃ before word after, Stands text before word after ∧
    (word = "top".toList ∨ word = "bottom".toList ∨ word = "all".toList)

theorem hasKeyword_iff {text : List Char} : HasKeyword text ↔ AsksRanking text ∨ AsksAll text := by
  unfold AsksRanking AsksAll
  simp only [mem_words_iff]
  constructor
  · rintro ⟨before, word, after, h, rfl | rfl | rfl⟩
    · exact Or.inl (Or.inl ⟨before, after, h⟩)
    · exact Or.inl (Or.inr ⟨before, after, h⟩)
    · exact Or.inr ⟨before, after, h⟩
  · rintro ((⟨before, after, h⟩ | ⟨before, after, h⟩) | ⟨before, after, h⟩)
    · exact ⟨before, _, after, h, Or.inl rfl⟩
    · exact ⟨before, _, after, h, Or.inr (Or.inl rfl)⟩
    · exact ⟨before, _, after, h, Or.inr (Or.inr rfl)⟩

/-!
## Separators

No separator is part of a word.
-/

theorem isWordChar_of_isSeparator {c : Char} (h : isSeparator c = true) :
    isWordChar c = false := by
  rcases Bool.or_eq_true_iff.mp h with hblank | hcomma
  · exact isWordChar_of_isBlank hblank
  · rw [of_decide_eq_true hcomma]
    decide

theorem endsInGap_of_isSeparator {between : List Char}
    (h : ∀ c ∈ between, isSeparator c = true) : EndsInGap between := by
  intro c hc
  exact isWordChar_of_isSeparator (h c (List.mem_of_mem_getLast? hc))

theorem startsInGap_append_of_isSeparator {between : List Char}
    (h : ∀ c ∈ between, isSeparator c = true) (hne : between ≠ []) (rest : List Char) :
    StartsInGap (between ++ rest) := by
  cases between with
  | nil =>
      exact absurd rfl hne
  | cons c between =>
      exact startsInGap_cons (isWordChar_of_isSeparator (h c List.mem_cons_self)) _

namespace WordPair

variable {pair : WordPair} {text : List Char}

theorem Names.isWord {month : UInt32} {year : Int32} (h : pair.Names month year) :
    IsWord pair.first ∧ IsWord pair.second := by
  rcases h with ⟨hmonth, hyear⟩ | ⟨hyear, hmonth⟩
  · exact ⟨hmonth.isWord, hyear.isWord⟩
  · exact ⟨hyear.isWord, hmonth.isWord⟩

theorem occurs_iff_fits : pair.Occurs text ↔ pair.Fits text := by
  constructor
  · intro h
    rcases (stands_iff_isBoundary h.first.isWord).mp h.first with ⟨hsplit, hbegins, -⟩
    have hends : IsBoundary (pair.before ++ (pair.first ++ (pair.between ++ pair.second)))
        pair.after := by
      simp only [← List.append_assoc]
      exact (isBoundary_append_word h.second.isWord).mpr h.second.startsInGap
    exact ⟨hsplit, hbegins, hends, h.separators, h.separated, h.names⟩
  · intro h
    rcases h.names with ⟨month, year, hnames⟩
    have hends : StartsInGap pair.after := by
      have hend : IsBoundary ((pair.before ++ (pair.first ++ pair.between)) ++ pair.second)
          pair.after := by
        simpa only [List.append_assoc] using h.ends
      exact (isBoundary_append_word hnames.isWord.2).mp hend
    refine ⟨⟨h.split, hnames.isWord.1, ?_, ?_⟩, ⟨rfl, hnames.isWord.2, ?_, hends⟩,
      h.separators, h.separated, h.names⟩
    · exact (isBoundary_word_append hnames.isWord.1).mp h.begins
    · exact startsInGap_append_of_isSeparator h.separators h.separated _
    · exact endsInGap_of_isSeparator h.separators

end WordPair

/-!
## The word that follows
-/

theorem nextWord?_pieces_eq_some_iff {separated : Bool} {text letters : List Char} :
    nextWord? separated (pieces text) = some letters ↔
      ∃ between after, Stands text between letters after ∧
        (∀ c ∈ between, isSeparator c = true) ∧ (separated = true ∨ between ≠ []) := by
  induction text using text_induction generalizing separated with
  | nil =>
      apply iff_of_false
      · intro h
        cases h
      · rintro ⟨between, after, h, -⟩
        exact not_stands_nil h
  | gap c rest hc ih =>
      rw [pieces_cons_gap hc, nextWord?]
      by_cases hsep : isSeparator c = true
      · rw [if_pos hsep, ih]
        constructor
        · rintro ⟨between, after, h, hbetween, -⟩
          exact ⟨c :: between, after, (stands_cons_gap_iff hc).mpr ⟨between, rfl, h⟩,
            List.forall_mem_cons.mpr ⟨hsep, hbetween⟩, Or.inr (List.cons_ne_nil c between)⟩
        · rintro ⟨between, after, h, hbetween, -⟩
          rcases (stands_cons_gap_iff hc).mp h with ⟨front, rfl, hfront⟩
          exact ⟨front, after, hfront, (List.forall_mem_cons.mp hbetween).2, Or.inl rfl⟩
      · rw [if_neg hsep]
        apply iff_of_false
        · intro h
          cases h
        · rintro ⟨between, after, h, hbetween, -⟩
          rcases (stands_cons_gap_iff hc).mp h with ⟨front, rfl, -⟩
          exact hsep (hbetween c List.mem_cons_self)
  | word run rest hrun hrest ih =>
      rw [pieces_word_append hrun hrest, nextWord?, Option.ite_none_right_eq_some,
        Option.some_inj]
      constructor
      · rintro ⟨hseparated, rfl⟩
        exact ⟨[], rest, (stands_word_append_iff hrun hrest).mpr (Or.inl ⟨rfl, rfl, rfl⟩),
          List.forall_mem_nil _, Or.inl hseparated⟩
      · rintro ⟨between, after, h, hbetween, hseparated⟩
        rcases (stands_word_append_iff hrun hrest).mp h with ⟨rfl, rfl, -⟩ | ⟨front, rfl, -⟩
        · exact ⟨hseparated.resolve_right fun hne => hne rfl, rfl⟩
        · -- The run would be made of separators.
          have hmem := List.head_mem hrun.1
          have hgap := isWordChar_of_isSeparator (hbetween _ (List.mem_append_left front hmem))
          rw [hrun.2 _ hmem] at hgap
          cases hgap

theorem NamesYear.month?_eq_none {word : List Char} {year : Int32} (h : NamesYear word year) :
    Vocabulary.month? word = none := by
  apply Vocabulary.month?_eq_none_of_not_mem
  have hmem := List.head_mem h.isWord.1
  exact not_mem_spokenWords_of_isDigit hmem (h.digits _ hmem)

theorem monthAndYear?_eq_some_iff {first second : List Char} {month : UInt32} {year : Int32} :
    monthAndYear? first second = some (month, year) ↔
      NamesMonth first month ∧ NamesYear second year ∨
        NamesYear first year ∧ NamesMonth second month := by
  unfold monthAndYear?
  constructor
  · intro h
    split at h
    · rename_i hmonth hyear
      cases h
      exact Or.inl ⟨month?_eq_some_iff.mp hmonth, year?_eq_some_iff.mp hyear⟩
    · split at h
      · rename_i hmonth hyear
        cases h
        exact Or.inr ⟨year?_eq_some_iff.mp hyear, month?_eq_some_iff.mp hmonth⟩
      · cases h
  · rintro (⟨hmonth, hyear⟩ | ⟨hyear, hmonth⟩)
    · rw [month?_eq_some_iff.mpr hmonth, year?_eq_some_iff.mpr hyear]
    · -- The first order fails, because a year is no month name.
      rw [hyear.month?_eq_none, month?_eq_some_iff.mpr hmonth, year?_eq_some_iff.mpr hyear]

/-!
## Neighbours
-/

def monthYearAt? (letters : List Char) (rest : List Piece) : Option (UInt32 × Int32) :=
  (nextWord? false rest).bind (monthAndYear? letters)

theorem neighbours?_eq_search? (parts : List Piece) :
    neighbours? parts = search? monthYearAt? parts := by
  induction parts with
  | nil =>
      rfl
  | cons part parts ih =>
      cases part with
      | gap c =>
          exact ih
      | word letters =>
          rw [neighbours?, search?, monthYearAt?, ih]
          cases (nextWord? false parts).bind (monthAndYear? letters) <;> rfl

theorem WordPair.Occurs.monthYearAt?_eq_some {pair : WordPair} {text : List Char}
    (h : pair.Occurs text) {month : UInt32} {year : Int32} (hnames : pair.Names month year) :
    monthYearAt? pair.first (pieces pair.rest) = some (month, year) := by
  have hnext : nextWord? false (pieces pair.rest) = some pair.second :=
    nextWord?_pieces_eq_some_iff.mpr
      ⟨pair.between, pair.after, h.second, h.separators, Or.inr h.separated⟩
  rw [monthYearAt?, hnext, Option.bind_some]
  exact monthAndYear?_eq_some_iff.mpr hnames

theorem exists_occurs_of_monthYearAt?_eq_some {text before first rest : List Char}
    (hfirst : Stands text before first rest) {month : UInt32} {year : Int32}
    (h : monthYearAt? first (pieces rest) = some (month, year)) :
    ∃ pair : WordPair, pair.Occurs text ∧ pair.before = before ∧ pair.Names month year := by
  rcases Option.bind_eq_some_iff.mp h with ⟨second, hsecond, hfound⟩
  rcases nextWord?_pieces_eq_some_iff.mp hsecond with
    ⟨between, after, hstands, hseparators, hseparated⟩
  have hne : between ≠ [] := hseparated.resolve_left Bool.false_ne_true
  have hnames := monthAndYear?_eq_some_iff.mp hfound
  obtain rfl := hstands.split
  exact ⟨⟨before, first, between, second, after⟩,
    ⟨hfirst, hstands, hseparators, hne, month, year, hnames⟩, rfl, hnames⟩

theorem neighbours?_pieces_eq_none_iff {text : List Char} :
    neighbours? (pieces text) = none ↔ ∀ pair : WordPair, ¬pair.Occurs text := by
  rw [neighbours?_eq_search?, search?_pieces_eq_none_iff]
  constructor
  · intro h pair hpair
    rcases hpair.names with ⟨month, year, hnames⟩
    have hnone := h pair.before pair.first pair.rest hpair.first
    rw [hpair.monthYearAt?_eq_some hnames] at hnone
    cases hnone
  · intro h before first rest hfirst
    apply Option.eq_none_iff_forall_ne_some.mpr
    rintro ⟨month, year⟩ hfound
    rcases exists_occurs_of_monthYearAt?_eq_some hfirst hfound with ⟨pair, hpair, -⟩
    exact h pair hpair

theorem neighbours?_pieces_eq_some_iff {text : List Char} {month : UInt32} {year : Int32} :
    neighbours? (pieces text) = some (month, year) ↔
      ∃ pair : WordPair, pair.IsLeftmost text ∧ pair.Names month year := by
  rw [neighbours?_eq_search?, search?_pieces_eq_some_iff]
  constructor
  · rintro ⟨before, first, rest, hfirst, hfound⟩
    rcases exists_occurs_of_monthYearAt?_eq_some hfirst.toStands hfound with
      ⟨pair, hpair, rfl, hnames⟩
    refine ⟨pair, ⟨hpair, ?_⟩, hnames⟩
    intro other hother
    rcases hother.names with ⟨month', year', hnames'⟩
    apply hfirst.leftmost other.before other.first other.rest hother.first
    rw [hother.monthYearAt?_eq_some hnames']
    rfl
  · rintro ⟨pair, hpair, hnames⟩
    have hfound := hpair.monthYearAt?_eq_some hnames
    refine ⟨pair.before, pair.first, pair.rest, ⟨hpair.first, ?_, ?_⟩, hfound⟩
    · rw [hfound]
      rfl
    · intro before' first' rest' hfirst' hholds
      rcases Option.isSome_iff_exists.mp hholds with ⟨⟨month', year'⟩, hfound'⟩
      rcases exists_occurs_of_monthYearAt?_eq_some hfirst' hfound' with ⟨other, hother, rfl, -⟩
      exact hpair.leftmost other hother

/-!
## Texts that name a month and its year
-/

theorem monthYear?_of_hasKeyword {text : List Char} (h : HasKeyword text) :
    monthYear? text = none := by
  apply Option.eq_none_iff_forall_ne_some.mpr
  intro query hquery
  have hkeywords := keywords_of_monthYear?_eq_some hquery
  rcases hasKeyword_iff.mp h with hranking | hall
  · exact hkeywords.1 hranking
  · exact hkeywords.2 hall

theorem monthYear?_of_not_hasKeyword {text : List Char} (h : ¬HasKeyword text) :
    monthYear? text = (neighbours? (pieces text)).map fun found =>
      Query.all (some found.1) (some found.2) := by
  rw [hasKeyword_iff, not_or] at h
  unfold monthYear?
  rw [any_keyword_eq_false h.1 h.2]
  rfl

/-- A text without a keyword names a month and its year if there is a pair of neighbouring words
that do.  What it asks for is read off the leftmost pair.  A pair may as well be looked for as a
stretch of the text with boundaries at its two ends. -/
theorem monthYear?_leftmost_pair (text : List Char) :
    ((monthYear? text).isSome = true ↔
      ¬HasKeyword text ∧ ∃ pair : WordPair, pair.Occurs text) ∧
    (∀ query, monthYear? text = some query ↔
      ¬HasKeyword text ∧ ∃ (pair : WordPair) (month : UInt32) (year : Int32),
        pair.IsLeftmost text ∧ pair.Names month year ∧
          query = Query.all (some month) (some year)) ∧
    ∀ pair : WordPair, pair.Occurs text ↔ pair.Fits text := by
  refine ⟨?_, ?_, fun pair => WordPair.occurs_iff_fits⟩
  · by_cases hkeyword : HasKeyword text
    · rw [monthYear?_of_hasKeyword hkeyword]
      simp only [Option.isSome_none, Bool.false_eq_true, hkeyword, not_true_eq_false, false_and]
    · rw [monthYear?_of_not_hasKeyword hkeyword, Option.isSome_map, ← Option.ne_none_iff_isSome,
        Ne, neighbours?_pieces_eq_none_iff, Classical.not_forall_not]
      exact ⟨fun h => ⟨hkeyword, h⟩, fun h => h.2⟩
  · intro query
    by_cases hkeyword : HasKeyword text
    · rw [monthYear?_of_hasKeyword hkeyword]
      simp only [reduceCtorEq, hkeyword, not_true_eq_false, false_and]
    · rw [monthYear?_of_not_hasKeyword hkeyword, Option.map_eq_some_iff]
      constructor
      · rintro ⟨⟨month, year⟩, hfound, rfl⟩
        rcases neighbours?_pieces_eq_some_iff.mp hfound with ⟨pair, hpair, hnames⟩
        exact ⟨hkeyword, pair, month, year, hpair, hnames, rfl⟩
      · rintro ⟨-, pair, month, year, hpair, hnames, rfl⟩
        exact ⟨(month, year), neighbours?_pieces_eq_some_iff.mpr ⟨pair, hpair, hnames⟩, rfl⟩

/-- In a chain the year that comes first is the one. -/
example : monthYear? "2023 march, 2024".toList = some (Query.all (some 3) (some 2023)) := by
  decide

end Command
end SpokenSales
