import SpokenSales.Proofs.Command.MonthYear
import SpokenSales.Proofs.Command.Ranked
import SpokenSales.Proofs.Command.Unlimited

/-!
# Months and years as whole words

Every year that is understood is a whole word of the text, and so is every month, with one
exception.  What follows the count of a ranked command is read as a text of its own, and there a
month name is heard that follows the count without a gap, although in the text it is the end of a
longer word.
-/

namespace SpokenSales
namespace Command

open Text

def HasName (Names : List Char → α → Prop) (text : List Char) (value : α) : Prop :=
  ∃ word ∈ words text, Names word value

/-- Whether the count of a ranked command goes on with a month name, without a gap in between and
up to the end of the word. -/
def CountMeetsMonth (text : List Char) (month : UInt32) : Prop :=
  ∃ (cut : RankedCut) (name rest : List Char), cut.IsLeftmost text ∧ cut.tail = name ++ rest ∧
    NamesMonth name month ∧ StartsInGap rest

/-- Whether each month that the count meets is one of the whole words of the text as well. -/
def CountStandsApart (text : List Char) : Prop :=
  ∀ month, CountMeetsMonth text month → HasName NamesMonth text month

/-- Whether what a query asks for is named by whole words of a text. -/
structure HeardAsWords (text : List Char) (query : Query) : Prop where
  year : ∀ year, query.year = some year → HasName NamesYear text year
  month : ∀ month, query.month = some month → HasName NamesMonth text month

theorem heardAsWords_unrecognized (text : List Char) : HeardAsWords text Query.unrecognized := by
  constructor
  · rintro _ ⟨⟩
  · rintro _ ⟨⟩

theorem not_hasName_month {text : List Char} {month : UInt32}
    (h : ∀ word ∈ words text, Vocabulary.month? word ≠ some month) :
    ¬HasName NamesMonth text month := by
  rintro ⟨word, hword, hname⟩
  exact h word hword (month?_eq_some_iff.mpr hname)

theorem hasName_of_stands {Names : List Char → α → Prop} {text before word after : List Char}
    {value : α} (h : Stands text before word after) (hvalue : Names word value) :
    HasName Names text value :=
  ⟨word, mem_words_iff.mpr ⟨before, after, h⟩, hvalue⟩

/-!
## Ranked commands

A word of the tail is a word of the text, unless it is what the tail begins with.
-/

theorem RankedCut.IsLeftmost.eq_append_tail {cut : RankedCut} {text : List Char}
    (h : cut.IsLeftmost text) :
    text = (cut.before ++ (cut.keyword ++ (cut.between ++ cut.digits))) ++ cut.tail := by
  conv =>
    lhs
    rw [h.keyword.split, RankedCut.after]
  simp only [List.append_assoc]

theorem hasName_of_firstNamed_tail {Names : List Char → α → Prop} {cut : RankedCut}
    {text : List Char} {value : α} (hcut : cut.IsLeftmost text)
    (h : FirstNamed Names cut.tail (some value)) :
    HasName Names text value ∨
      ∃ word rest, cut.tail = word ++ rest ∧ Names word value ∧ StartsInGap rest := by
  cases h with
  | @found before word rest _ hfirst hvalue =>
      by_cases hne : before = []
      · have hsplit := hfirst.split
        rw [hne, List.nil_append] at hsplit
        exact Or.inr ⟨word, rest, hsplit, hvalue, hfirst.startsInGap⟩
      · have hstands := hfirst.toStands.append_left hne
          (cut.before ++ (cut.keyword ++ (cut.between ++ cut.digits)))
        rw [← hcut.eq_append_tail] at hstands
        exact Or.inl (hasName_of_stands hstands hvalue)

theorem not_namesYear_of_tail {cut : RankedCut} {text word rest : List Char} {year : Int32}
    (hcut : cut.IsLeftmost text) (htail : cut.tail = word ++ rest) : ¬NamesYear word year := by
  intro h
  rcases List.exists_cons_of_ne_nil h.isWord.1 with ⟨c, word, rfl⟩
  have hc := hcut.digits.maximal c (by rw [htail]; rfl)
  rw [h.digits c List.mem_cons_self] at hc
  cases hc

theorem hasName_of_ranked?_eq_some {text : List Char} {query : Query}
    (h : ranked? text = some query) :
    (∀ year, query.year = some year → HasName NamesYear text year) ∧
      ∀ month, query.month = some month →
        HasName NamesMonth text month ∨ CountMeetsMonth text month := by
  rcases ranked?_eq_some_iff.mp h with ⟨cut, hcut, -, hsays⟩
  constructor
  · intro year hyear
    have hfirst := hsays.year
    rw [hyear] at hfirst
    rcases hasName_of_firstNamed_tail hcut hfirst with hname | ⟨word, rest, htail, hvalue, -⟩
    · exact hname
    · exact absurd hvalue (not_namesYear_of_tail hcut htail)
  · intro month hmonth
    have hfirst := hsays.month
    rw [hmonth] at hfirst
    rcases hasName_of_firstNamed_tail hcut hfirst with hname | ⟨name, rest, htail, hvalue, hrest⟩
    · exact Or.inl hname
    · exact Or.inr ⟨cut, name, rest, hcut, htail, hvalue, hrest⟩

theorem month_of_countMeetsMonth {shape : Shape} {text : List Char} {query : Query}
    {month : UInt32} (h : shape.query? text = some query) (hmonth : CountMeetsMonth text month) :
    query.month = some month := by
  rcases hmonth with ⟨cut, name, rest, hcut, htail, hname, hrest⟩
  rcases hcut.keyword.holds with ⟨kind, hkind⟩
  have hasks : AsksRanking text :=
    asksRanking_of_mem_words (mem_words_iff.mpr ⟨_, _, hcut.keyword.toStands⟩)
      (ranking?_eq_some_iff.mpr hkind)
  -- The keyword of the cut leaves no shape but the ranked one.
  have hshape := Shape.eq_ofKeywords h
  rw [Shape.ofKeywords, if_pos hasks] at hshape
  rw [hshape] at h
  change ranked? text = some query at h
  rw [ranked?_of_isLeftmost hcut hkind] at h
  rcases Option.map_eq_some_iff.mp h with ⟨count, -, rfl⟩
  show (words cut.tail).findSome? Vocabulary.month? = some month
  rw [htail, words_word_append hname.isWord hrest, List.findSome?_cons,
    month?_eq_some_iff.mpr hname]

/-!
## The other shapes
-/

theorem NamedAfter.hasName {Names : List Char → α → Prop} {text front : List Char} {value : α}
    (h : NamedAfter Names text front (some value)) : HasName Names text value := by
  cases h with
  | found hstands hvalue _ =>
      exact hasName_of_stands hstands hvalue

theorem heardAsWords_of_unlimited?_eq_some {text : List Char} {query : Query}
    (h : unlimited? text = some query) : HeardAsWords text query := by
  rcases unlimited?_eq_some_iff.mp h with ⟨-, before, after, month, year, -, hmonth, hyear, rfl⟩
  constructor
  · rintro _ ⟨⟩
    exact hyear.hasName
  · rintro _ ⟨⟩
    exact hmonth.hasName

theorem exists_occurs_of_monthYear?_eq_some {text : List Char} {query : Query}
    (h : monthYear? text = some query) :
    ∃ (pair : WordPair) (month : UInt32) (year : Int32), pair.Occurs text ∧
      pair.Names month year ∧ query = Query.all (some month) (some year) := by
  by_cases hkeyword : HasKeyword text
  · rw [monthYear?_of_hasKeyword hkeyword] at h
    cases h
  · rw [monthYear?_of_not_hasKeyword hkeyword] at h
    rcases Option.map_eq_some_iff.mp h with ⟨⟨month, year⟩, hfound, rfl⟩
    rcases neighbours?_pieces_eq_some_iff.mp hfound with ⟨pair, hpair, hnames⟩
    exact ⟨pair, month, year, hpair.toOccurs, hnames, rfl⟩

theorem heardAsWords_of_monthYear?_eq_some {text : List Char} {query : Query}
    (h : monthYear? text = some query) : HeardAsWords text query := by
  rcases exists_occurs_of_monthYear?_eq_some h with ⟨pair, month, year, hpair, hnames, rfl⟩
  have hsecond : Stands text (pair.before ++ pair.first ++ pair.between) pair.second pair.after :=
    hpair.first.after_iff.mpr hpair.second
  rcases hnames with ⟨hmonth, hyear⟩ | ⟨hyear, hmonth⟩
  · constructor
    · rintro _ ⟨⟩
      exact hasName_of_stands hsecond hyear
    · rintro _ ⟨⟩
      exact hasName_of_stands hpair.first hmonth
  · constructor
    · rintro _ ⟨⟩
      exact hasName_of_stands hpair.first hyear
    · rintro _ ⟨⟩
      exact hasName_of_stands hsecond hmonth

/-!
## Commands
-/

theorem hasName_of_query?_eq_some {shape : Shape} {text : List Char} {query : Query}
    (h : shape.query? text = some query) :
    (∀ year, query.year = some year → HasName NamesYear text year) ∧
      ∀ month, query.month = some month →
        HasName NamesMonth text month ∨ CountMeetsMonth text month := by
  cases shape with
  | ranked =>
      exact hasName_of_ranked?_eq_some h
  | unlimited =>
      have hheard := heardAsWords_of_unlimited?_eq_some h
      exact ⟨hheard.year, fun month hmonth => Or.inl (hheard.month month hmonth)⟩
  | monthYear =>
      have hheard := heardAsWords_of_monthYear?_eq_some h
      exact ⟨hheard.year, fun month hmonth => Or.inl (hheard.month month hmonth)⟩

theorem heardAsWords_iff {shape : Shape} {text : List Char} {query : Query}
    (h : shape.query? text = some query) : HeardAsWords text query ↔ CountStandsApart text := by
  rcases hasName_of_query?_eq_some h with ⟨hyear, hmonth⟩
  constructor
  · intro hheard month hmeets
    exact hheard.month month (month_of_countMeetsMonth h hmeets)
  · intro hapart
    exact ⟨hyear, fun month hquery => (hmonth month hquery).elim id (hapart month)⟩

theorem heardAsWords_parse_iff (text : List Char) :
    HeardAsWords (normalize text) (parse text) ↔
      parse text = Query.unrecognized ∨ CountStandsApart (normalize text) := by
  by_cases hparse : parse text = Query.unrecognized
  · rw [hparse]
    exact iff_of_true (heardAsWords_unrecognized _) (Or.inl rfl)
  · rcases exists_query?_of_parse_ne hparse with ⟨shape, hquery⟩
    rw [heardAsWords_iff hquery, or_iff_right hparse]

/-- Whatever shape a text has, the month and the year of the query are whole words of the text
exactly if each month that the count meets is one.  Such a month is always heard, and the year is
always a whole word.  The same holds of what is understood and the normal form of the text, where an
unrecognized command asks for neither. -/
theorem filters_are_words (text : List Char) :
    (∀ (shape : Shape) (query : Query), shape.query? text = some query →
      (HeardAsWords text query ↔ CountStandsApart text) ∧
      (∀ month, CountMeetsMonth text month → query.month = some month) ∧
      ∀ year, query.year = some year → HasName NamesYear text year) ∧
    (HeardAsWords (normalize text) (parse text) ↔
      parse text = Query.unrecognized ∨ CountStandsApart (normalize text)) ∧
    ∀ year, (parse text).year = some year → HasName NamesYear (normalize text) year := by
  refine ⟨fun shape query h => ⟨heardAsWords_iff h, fun month => month_of_countMeetsMonth h,
    (hasName_of_query?_eq_some h).1⟩, heardAsWords_parse_iff text, ?_⟩
  intro year hyear
  by_cases hparse : parse text = Query.unrecognized
  · exact (heardAsWords_unrecognized _).year year (hparse ▸ hyear)
  · rcases exists_query?_of_parse_ne hparse with ⟨shape, hquery⟩
    exact (hasName_of_query?_eq_some hquery).1 year hyear

theorem filters_are_words_twoMonths :
    Shape.ranked.query? "top 5march may 2024".toList = some (Query.top 5 (some 3) (some 2024)) ∧
      CountMeetsMonth "top 5march may 2024".toList 3 ∧
      HasName NamesYear "top 5march may 2024".toList 2024 ∧
      ¬HeardAsWords "top 5march may 2024".toList (Query.top 5 (some 3) (some 2024)) := by
  have hquery : Shape.ranked.query? "top 5march may 2024".toList =
      some (Query.top 5 (some 3) (some 2024)) := by
    decide +kernel
  have htop : Stands "top 5march may 2024".toList [] "top".toList " 5march may 2024".toList :=
    ⟨by decide, Vocabulary.isWord_of_mem_spokenWords (by decide),
      endsInGap_nil, startsInGap_cons (by decide) _⟩
  have hends : EndsDigits "march may 2024".toList := by
    rintro c ⟨⟩
    decide
  have hcut : RankedCut.IsLeftmost
      ⟨[], "top".toList, " ".toList, "5".toList, "march may 2024".toList⟩
      "top 5march may 2024".toList :=
    ⟨⟨htop, ⟨_, .top⟩, fun before' _ _ _ _ => Nat.zero_le before'.length⟩,
      ⟨List.forall_mem_singleton.mpr rfl, List.forall_mem_singleton.mpr rfl, List.cons_ne_nil _ _,
        hends⟩⟩
  have hmeets : CountMeetsMonth "top 5march may 2024".toList 3 :=
    ⟨_, "march".toList, " may 2024".toList, hcut, by decide, month?_eq_some_iff.mp (by decide),
      startsInGap_cons (by decide) _⟩
  rcases (filters_are_words _).1 _ _ hquery with ⟨hheard, hmonth, hyear⟩
  refine ⟨hquery, hmeets, hyear 2024 rfl, fun hwords => ?_⟩
  exact not_hasName_month (by decide +kernel) (hheard.mp hwords 3 hmeets)

/-- A month name at the end of a longer word is heard as a month. -/
theorem exists_month_within_word :
    ¬∀ (shape : Shape) (text : List Char) (query : Query) (month : UInt32),
      shape.query? text = some query → query.month = some month → HasName NamesMonth text month := by
  intro h
  have hquery : Shape.ranked.query? "top 5march".toList = some (Query.top 5 (some 3) none) := by
    decide +kernel
  exact not_hasName_month (by decide +kernel) (h _ _ _ 3 hquery rfl)

end Command
end SpokenSales
