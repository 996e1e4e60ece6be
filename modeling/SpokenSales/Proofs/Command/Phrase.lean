import SpokenSales.Proofs.Command.Sentence

/-!
# Canonical phrases

Every query has phrases that mean it.  A phrase names a keyword and a count, a month by its name
and a year in four digits, and any amount of filler may stand between them.
-/

namespace SpokenSales
namespace Command

open Text Vocabulary

/-- A text that says nothing in lower case: it has no digit and no word of the vocabulary. -/
structure Filler where
  text : List Char
  noDigit : ∀ c ∈ lowercase text, isDigit c = false
  noWord : ∀ word ∈ words (lowercase text), word ∉ spokenWords

structure Count where
  number : UInt32
  positive : 0 < number.toNat

structure Month where
  number : UInt32
  positive : 0 < number.toNat
  inCalendar : number.toNat ≤ 12

structure Year where
  number : Nat
  fourDigits : number < Nat.pow 10 4

namespace Count

def text (count : Count) : List Char :=
  decimal count.number.toNat

end Count

namespace Month

def text (month : Month) : List Char :=
  (monthNames.getD (month.number.toNat - 1) "").toList

end Month

namespace Year

def text (year : Year) : List Char :=
  paddedDecimal 4 year.number

def value (year : Year) : Int32 :=
  Int32.ofNat year.number

end Year

inductive Ranking
  | top
  | bottom

namespace Ranking

def keyword : Ranking → List Char
  | top => "top".toList
  | bottom => "bottom".toList

def query : Ranking → UInt32 → Option UInt32 → Option Int32 → Query
  | top => Query.top
  | bottom => Query.bottom

end Ranking

/-- What may be said about the period of a query. -/
inductive Detail
  | filler (filler : Filler)
  | month (month : Month)
  | year (year : Year)

namespace Detail

def text : Detail → List Char
  | filler f => f.text
  | month m => m.text
  | year y => y.text

def month? : Detail → Option UInt32
  | month m => some m.number
  | _ => none

def year? : Detail → Option Int32
  | year y => some y.value
  | _ => none

end Detail

inductive Order
  | monthFirst
  | yearFirst

/-- A month and a year, if there are any, in an order and with fillers on all sides. -/
def Order.details (order : Order) (before : List Filler) (month : Option Month)
    (between : List Filler) (year : Option Year) (after : List Filler) : List Detail :=
  before.map .filler ++
    match order with
    | .monthFirst =>
        month.toList.map .month ++ between.map .filler ++ year.toList.map .year ++
          after.map .filler
    | .yearFirst =>
        year.toList.map .year ++ between.map .filler ++ month.toList.map .month ++
          after.map .filler

/-- The phrases for queries. -/
inductive Phrase
  /-- `… top … 3 … march … 2024 …`, with or without the month and the year. -/
  | ranked (ranking : Ranking) (count : Count) (order : Order) (month : Option Month)
      (year : Option Year) (f₀ f₁ f₂ f₃ f₄ : List Filler)
  /-- `… all … march … 2024 …`, with or without the month. -/
  | unlimited (order : Order) (month : Option Month) (year : Year) (f₀ f₁ f₂ f₃ : List Filler)
  /-- `… march 2024 …` -/
  | monthYear (order : Order) (month : Month) (year : Year) (f₀ f₁ : List Filler)

namespace Phrase

def parts : Phrase → List (List Char)
  | ranked ranking count order month year f₀ f₁ f₂ f₃ f₄ =>
      f₀.map Filler.text ++ ranking.keyword :: (f₁.map Filler.text ++
        count.text :: (order.details f₂ month f₃ year f₄).map Detail.text)
  | unlimited order month year f₀ f₁ f₂ f₃ =>
      f₀.map Filler.text ++ "all".toList ::
        (order.details f₁ month f₂ (some year) f₃).map Detail.text
  | monthYear order month year f₀ f₁ =>
      (order.details f₀ (some month) [] (some year) f₁).map Detail.text

def text (phrase : Phrase) : List Char :=
  sentence phrase.parts

def query : Phrase → Query
  | ranked ranking count _ month year _ _ _ _ _ =>
      ranking.query count.number (month.map Month.number) (year.map Year.value)
  | unlimited _ month year _ _ _ _ =>
      Query.all (month.map Month.number) (some year.value)
  | monthYear _ month year _ _ =>
      Query.all (some month.number) (some year.value)

end Phrase

/-!
## Fillers
-/

theorem Filler.normalize_text (filler : Filler) :
    normalize filler.text = lowercase filler.text := by
  unfold normalize
  apply replaceNumberWords_eq_self
  intro word hword
  have hlower : ∀ c ∈ word, IsLower c := by
    intro c hc
    exact isLower_of_mem_lowercase (mem_of_mem_words hword hc)
  rw [spokenNumber?_of_isLower hlower]
  exact number?_eq_none_of_not_mem (filler.noWord word hword)

theorem Filler.not_mem_keywords (filler : Filler) :
    ∀ word ∈ words (lowercase filler.text), word ∉ keywords.map String.toList := by
  intro word hword hkeyword
  exact filler.noWord word hword (mem_spokenWords_of_mem_keywords hkeyword)

theorem Filler.month?_eq_none (filler : Filler) :
    ∀ word ∈ words (lowercase filler.text), month? word = none := by
  intro word hword
  exact month?_eq_none_of_not_mem (filler.noWord word hword)

theorem Filler.year?_eq_none (filler : Filler) :
    ∀ word ∈ words (lowercase filler.text), year? word = none := by
  intro word hword
  apply Option.eq_none_iff_forall_ne_some.mpr
  intro year hyear
  have hdigits := (isDigit_of_year?_eq_some hyear).2
  cases word with
  | nil =>
      exact (isWord_of_mem_words hword).1 rfl
  | cons c word =>
      have hno := filler.noDigit c (mem_of_mem_words hword List.mem_cons_self)
      rw [hdigits c List.mem_cons_self] at hno
      cases hno

/-!
## Counts, months and years
-/

theorem Count.isDigit_of_mem_text (count : Count) : ∀ c ∈ count.text, isDigit c = true := by
  intro c hc
  exact isDigit_of_mem_decimal hc

theorem Count.normalize_text (count : Count) : normalize count.text = count.text :=
  normalize_digits (decimal_ne_nil count.number.toNat) count.isDigit_of_mem_text

theorem Count.count?_text (count : Count) : count? count.text = some count.number := by
  unfold count? Count.text
  simp only [readDecimal_decimal]
  rw [if_pos ⟨count.positive, UInt32.toNat_lt_size count.number⟩, UInt32.ofNat_toNat]

theorem forall_month {p : List Char → UInt32 → Prop}
    (all : ∀ n ∈ List.range 12, p (monthNames.getD n "").toList (UInt32.ofNat (n + 1)))
    (month : Month) : p month.text month.number := by
  have hpositive := month.positive
  have hcalendar := month.inCalendar
  have hmonth := all (month.number.toNat - 1) (List.mem_range.mpr (by omega))
  rw [Nat.sub_add_cancel hpositive, UInt32.ofNat_toNat] at hmonth
  exact hmonth

theorem Month.month?_text (month : Month) : month? month.text = some month.number :=
  forall_month (p := fun text number => month? text = some number) (by decide) month

theorem Month.mem_spokenWords (month : Month) : month.text ∈ spokenWords :=
  mem_of_month?_eq_some month.month?_text

theorem Month.isWord_text (month : Month) : IsWord month.text :=
  isWord_of_mem_spokenWords month.mem_spokenWords

theorem Month.not_mem_keywords (month : Month) : month.text ∉ keywords.map String.toList :=
  forall_month (p := fun text _ => text ∉ keywords.map String.toList) (by decide) month

theorem Month.normalize_text (month : Month) : normalize month.text = month.text := by
  have hnumber : number? month.text = none :=
    forall_month (p := fun text _ => number? text = none) (by decide) month
  exact normalize_word month.isWord_text (lowercase_of_mem_spokenWords month.mem_spokenWords)
    hnumber

theorem Month.year?_text (month : Month) : year? month.text = none :=
  forall_month (p := fun text _ => year? text = none) (by decide) month

theorem Year.isDigit_of_mem_text (year : Year) : ∀ c ∈ year.text, isDigit c = true := by
  intro c hc
  exact isDigit_of_mem_paddedDecimal hc

theorem Year.text_ne_nil (year : Year) : year.text ≠ [] :=
  paddedDecimal_ne_nil 4 year.number

theorem Year.isWord_text (year : Year) : IsWord year.text :=
  isWord_of_isDigit year.text_ne_nil year.isDigit_of_mem_text

theorem Year.not_mem_spokenWords (year : Year) : year.text ∉ spokenWords :=
  not_mem_spokenWords_of_forall_isDigit year.text_ne_nil year.isDigit_of_mem_text

theorem Year.normalize_text (year : Year) : normalize year.text = year.text :=
  normalize_digits year.text_ne_nil year.isDigit_of_mem_text

theorem Year.year?_text (year : Year) : year? year.text = some year.value := by
  have hlength : year.text.length = 4 := length_paddedDecimal (by decide) year.fourDigits
  have hdigits : year.text.all isDigit = true := List.all_eq_true.mpr year.isDigit_of_mem_text
  unfold year?
  rw [if_pos ⟨hlength, hdigits⟩]
  unfold Year.text
  rw [readDecimal_paddedDecimal]
  rfl

theorem Ranking.ranking?_keyword (ranking : Ranking) :
    ∃ kind, ranking? ranking.keyword = some kind ∧
      ∀ count month year, ranking.query count month year = ⟨kind, some count, month, year⟩ := by
  cases ranking with
  | top =>
      exact ⟨.top, by decide, fun _ _ _ => rfl⟩
  | bottom =>
      exact ⟨.bottom, by decide, fun _ _ _ => rfl⟩

theorem Ranking.mem_spokenWords (ranking : Ranking) : ranking.keyword ∈ spokenWords := by
  cases ranking <;> decide

theorem Ranking.normalize_keyword (ranking : Ranking) :
    normalize ranking.keyword = ranking.keyword := by
  have hnumber : number? ranking.keyword = none := by
    cases ranking <;> decide
  exact normalize_word (isWord_of_mem_spokenWords ranking.mem_spokenWords)
    (lowercase_of_mem_spokenWords ranking.mem_spokenWords) hnumber

/-!
## Details

In normal form a filler means nothing, and each other detail is one word.
-/

def Detail.normal : Detail → List Char
  | filler f => lowercase f.text
  | month m => m.text
  | year y => y.text

theorem Detail.normalize_text (detail : Detail) : normalize detail.text = detail.normal := by
  cases detail with
  | filler f =>
      exact f.normalize_text
  | month m =>
      exact m.normalize_text
  | year y =>
      exact y.normalize_text

theorem Detail.not_mem_keywords (detail : Detail) :
    ∀ word ∈ words detail.normal, word ∉ keywords.map String.toList := by
  cases detail with
  | filler f =>
      exact f.not_mem_keywords
  | month m =>
      intro word hword
      rw [normal, words_word m.isWord_text, List.mem_singleton] at hword
      rw [hword]
      exact m.not_mem_keywords
  | year y =>
      intro word hword hkeyword
      rw [normal, words_word y.isWord_text, List.mem_singleton] at hword
      rw [hword] at hkeyword
      exact y.not_mem_spokenWords (mem_spokenWords_of_mem_keywords hkeyword)

theorem Detail.firstMonth?_words (detail : Detail) :
    firstMonth? (words detail.normal) = detail.month? := by
  unfold firstMonth?
  cases detail with
  | filler f =>
      exact List.findSome?_eq_none_iff.mpr f.month?_eq_none
  | month m =>
      rw [normal, words_word m.isWord_text, List.findSome?_cons, m.month?_text]
      rfl
  | year y =>
      rw [normal, words_word y.isWord_text, List.findSome?_cons,
        month?_eq_none_of_not_mem y.not_mem_spokenWords]
      rfl

theorem Detail.firstYear?_words (detail : Detail) :
    firstYear? (words detail.normal) = detail.year? := by
  unfold firstYear?
  cases detail with
  | filler f =>
      exact List.findSome?_eq_none_iff.mpr f.year?_eq_none
  | month m =>
      rw [normal, words_word m.isWord_text, List.findSome?_cons, m.year?_text]
      rfl
  | year y =>
      rw [normal, words_word y.isWord_text, List.findSome?_cons, y.year?_text]
      rfl

def heard (details : List Detail) : List (List Char) :=
  (details.map Detail.normal).flatMap words

theorem not_mem_keywords_of_mem_heard {details : List Detail} {word : List Char}
    (h : word ∈ heard details) : word ∉ keywords.map String.toList := by
  rcases List.mem_flatMap.mp h with ⟨text, htext, hword⟩
  rcases List.mem_map.mp htext with ⟨detail, -, hdetail⟩
  rw [← hdetail] at hword
  exact detail.not_mem_keywords word hword

theorem findSome?_heard {read : List Char → Option α} {meaning : Detail → Option α}
    (h : ∀ detail : Detail, (words detail.normal).findSome? read = meaning detail)
    (details : List Detail) :
    (heard details).findSome? read = details.findSome? meaning := by
  induction details with
  | nil =>
      rfl
  | cons detail details ih =>
      have hcons : heard (detail :: details) = words detail.normal ++ heard details := rfl
      rw [hcons, List.findSome?_append, h detail, ih, List.findSome?_cons]
      cases meaning detail <;> rfl

theorem firstMonth?_heard (details : List Detail) :
    firstMonth? (heard details) = details.findSome? Detail.month? :=
  findSome?_heard Detail.firstMonth?_words details

theorem firstYear?_heard (details : List Detail) :
    firstYear? (heard details) = details.findSome? Detail.year? :=
  findSome?_heard Detail.firstYear?_words details

theorem findSome?_fillers {meaning : Detail → Option α}
    (h : ∀ filler, meaning (.filler filler) = none) (fillers : List Filler) :
    (fillers.map Detail.filler).findSome? meaning = none := by
  apply List.findSome?_eq_none_iff.mpr
  intro detail hdetail
  rcases List.mem_map.mp hdetail with ⟨filler, -, hfiller⟩
  rw [← hfiller]
  exact h filler

theorem Order.findSome?_month? (order : Order) (before between after : List Filler)
    (month : Option Month) (year : Option Year) :
    (order.details before month between year after).findSome? Detail.month? =
      month.map Month.number := by
  have hfillers (fillers : List Filler) :
      (fillers.map Detail.filler).findSome? Detail.month? = none :=
    findSome?_fillers (fun _ => rfl) fillers
  have hmonth : (month.toList.map Detail.month).findSome? Detail.month? =
      month.map Month.number := by
    cases month <;> rfl
  have hyear : (year.toList.map Detail.year).findSome? Detail.month? = none := by
    cases year <;> rfl
  cases order <;>
    simp only [details, List.findSome?_append, hfillers, hmonth, hyear, Option.none_or,
      Option.or_none]

theorem Order.findSome?_year? (order : Order) (before between after : List Filler)
    (month : Option Month) (year : Option Year) :
    (order.details before month between year after).findSome? Detail.year? =
      year.map Year.value := by
  have hfillers (fillers : List Filler) :
      (fillers.map Detail.filler).findSome? Detail.year? = none :=
    findSome?_fillers (fun _ => rfl) fillers
  have hmonth : (month.toList.map Detail.month).findSome? Detail.year? = none := by
    cases month <;> rfl
  have hyear : (year.toList.map Detail.year).findSome? Detail.year? = year.map Year.value := by
    cases year <;> rfl
  cases order <;>
    simp only [details, List.findSome?_append, hfillers, hmonth, hyear, Option.none_or,
      Option.or_none]

theorem map_normalize_fillers (fillers : List Filler) :
    (fillers.map Filler.text).map normalize =
      (fillers.map Detail.filler).map Detail.normal := by
  rw [List.map_map, List.map_map]
  apply List.map_congr_left
  intro filler _
  exact filler.normalize_text

theorem map_normalize_details (details : List Detail) :
    (details.map Detail.text).map normalize = details.map Detail.normal := by
  rw [List.map_map]
  apply List.map_congr_left
  intro detail _
  exact detail.normalize_text

/-!
## Phrases mean their queries
-/

theorem parse_ranked (ranking : Ranking) (count : Count) (before between : List Filler)
    (details : List Detail) :
    parse (spaced (before.map Filler.text ++ ranking.keyword :: (between.map Filler.text ++
      count.text :: details.map Detail.text))) =
      ranking.query count.number (details.findSome? Detail.month?)
        (details.findSome? Detail.year?) := by
  rcases ranking.ranking?_keyword with ⟨kind, hkind, hquery⟩
  have hbefore : ∀ word ∈ ((before.map Detail.filler).map Detail.normal).flatMap words,
      ranking? word = none := by
    intro word hword
    exact ranking?_eq_none_of_not_mem (not_mem_keywords_of_mem_heard hword)
  have hbetween : ∀ text ∈ (between.map Detail.filler).map Detail.normal, ∀ c ∈ text,
      isDigit c = false := by
    intro text htext
    rcases List.mem_map.mp htext with ⟨detail, hdetail, htext⟩
    rcases List.mem_map.mp hdetail with ⟨filler, -, hfiller⟩
    rw [← htext, ← hfiller]
    exact filler.noDigit
  apply parse_of_ranked?
  simp only [normalize_spaced, List.map_append, List.map_cons, map_normalize_fillers,
    map_normalize_details, ranking.normalize_keyword, count.normalize_text]
  rw [ranked?_spaced hbefore (isWord_of_mem_spokenWords ranking.mem_spokenWords) hkind hbetween
    count.isDigit_of_mem_text count.count?_text, ← firstMonth?_heard, ← firstYear?_heard, hquery]
  rfl

theorem mem_words_unlimited {before details : List Detail} {word : List Char}
    (h : word ∈ (before.map Detail.normal ++ "all".toList ::
      details.map Detail.normal).flatMap words) :
    word = "all".toList ∨ word ∉ keywords.map String.toList := by
  rw [List.flatMap_append, List.flatMap_cons, List.mem_append, List.mem_append] at h
  rcases h with hbefore | hall | hdetails
  · exact Or.inr (not_mem_keywords_of_mem_heard hbefore)
  · rw [words_word (isWord_of_mem_spokenWords (by decide)), List.mem_singleton] at hall
    exact Or.inl hall
  · exact Or.inr (not_mem_keywords_of_mem_heard hdetails)

theorem parse_unlimited (before : List Filler) (details : List Detail) {year : Int32}
    (hyear : details.findSome? Detail.year? = some year) :
    parse (spaced (before.map Filler.text ++ "all".toList :: details.map Detail.text)) =
      Query.all (details.findSome? Detail.month?) (some year) := by
  have hall : normalize "all".toList = "all".toList := by
    decide
  have hnormal : normalize (spaced (before.map Filler.text ++ "all".toList ::
      details.map Detail.text)) = spaced ((before.map Detail.filler).map Detail.normal ++
        "all".toList :: details.map Detail.normal) := by
    rw [normalize_spaced, List.map_append, List.map_cons, map_normalize_fillers,
      map_normalize_details, hall]
  have hranking : ∀ word ∈ ((before.map Detail.filler).map Detail.normal ++ "all".toList ::
      details.map Detail.normal).flatMap words, ranking? word = none := by
    intro word hword
    rcases mem_words_unlimited hword with heq | hkeyword
    · rw [heq]
      decide
    · exact ranking?_eq_none_of_not_mem hkeyword
  rw [← firstYear?_heard] at hyear
  rw [← firstMonth?_heard]
  apply parse_of_unlimited?
  · rw [hnormal]
    apply ranked?_eq_none
    rw [words_spaced]
    exact hranking
  · rw [hnormal]
    apply unlimited?_spaced hranking
    · intro word hword
      exact all?_eq_none_of_not_mem (not_mem_keywords_of_mem_heard hword)
    · exact hyear

theorem Month.monthAndYear?_text (month : Month) (year : Year) :
    monthAndYear? month.text year.text = some (month.number, year.value) := by
  unfold monthAndYear?
  rw [month.month?_text, year.year?_text]

theorem Year.monthAndYear?_text (year : Year) (month : Month) :
    monthAndYear? year.text month.text = some (month.number, year.value) := by
  unfold monthAndYear?
  rw [month.month?_text, year.year?_text, month?_eq_none_of_not_mem year.not_mem_spokenWords]

theorem Order.exists_pair (order : Order) (before after : List Filler) (month : Month)
    (year : Year) :
    ∃ first second, IsWord first ∧ IsWord second ∧
      monthAndYear? first second = some (month.number, year.value) ∧
      (order.details before (some month) [] (some year) after).map Detail.normal =
        (before.map Detail.filler).map Detail.normal ++
          first :: second :: (after.map Detail.filler).map Detail.normal := by
  cases order with
  | monthFirst =>
      refine ⟨month.text, year.text, month.isWord_text, year.isWord_text,
        month.monthAndYear?_text year, ?_⟩
      simp only [details, List.map_append, Option.toList_some, List.map_cons, List.map_nil,
        List.append_nil, List.cons_append, List.nil_append, Detail.normal]
  | yearFirst =>
      refine ⟨year.text, month.text, year.isWord_text, month.isWord_text,
        year.monthAndYear?_text month, ?_⟩
      simp only [details, List.map_append, Option.toList_some, List.map_cons, List.map_nil,
        List.append_nil, List.cons_append, List.nil_append, Detail.normal]

theorem parse_monthYear (order : Order) (before after : List Filler) (month : Month)
    (year : Year) :
    parse (spaced ((order.details before (some month) [] (some year) after).map Detail.text)) =
      Query.all (some month.number) (some year.value) := by
  rcases order.exists_pair before after month year with
    ⟨first, second, hfirst, hsecond, hpair, hnormal⟩
  have hkeyword : ∀ word ∈ ((before.map Detail.filler).map Detail.normal ++
      first :: second :: (after.map Detail.filler).map Detail.normal).flatMap words,
      word ∉ keywords.map String.toList := by
    rw [← hnormal]
    intro word hword
    exact not_mem_keywords_of_mem_heard hword
  apply parse_of_monthYear?
  · rw [normalize_spaced, map_normalize_details, hnormal]
    apply ranked?_eq_none
    rw [words_spaced]
    intro word hword
    exact ranking?_eq_none_of_not_mem (hkeyword word hword)
  · rw [normalize_spaced, map_normalize_details, hnormal]
    apply unlimited?_eq_none
    rw [words_spaced]
    intro word hword
    exact all?_eq_none_of_not_mem (hkeyword word hword)
  · rw [normalize_spaced, map_normalize_details, hnormal]
    apply monthYear?_spaced hkeyword
    · intro word hword
      rcases List.mem_flatMap.mp hword with ⟨text, htext, hword⟩
      rw [List.map_map] at htext
      rcases List.mem_map.mp htext with ⟨filler, -, hfiller⟩
      rw [← hfiller] at hword
      exact ⟨filler.month?_eq_none word hword, filler.year?_eq_none word hword⟩
    · exact hfirst
    · exact hsecond
    · exact hpair

/-- A phrase is understood as the query that it was made for, whatever its fillers are. -/
theorem Phrase.parse_text (phrase : Phrase) : parse phrase.text = phrase.query := by
  unfold text
  rw [parse_sentence]
  cases phrase with
  | ranked ranking count order month year f₀ f₁ f₂ f₃ f₄ =>
      rw [parts, parse_ranked, order.findSome?_month?, order.findSome?_year?]
      rfl
  | unlimited order month year f₀ f₁ f₂ f₃ =>
      rw [parts, parse_unlimited f₀ _ (order.findSome?_year? f₁ f₂ f₃ month (some year)),
        order.findSome?_month?]
      rfl
  | monthYear order month year f₀ f₁ =>
      rw [parts, parse_monthYear]
      rfl

theorem lowercase_courtesy : lowercase "Please, show ME".toList = "please, show me".toList := by
  decide +kernel

def courtesy : Filler where
  text := "Please, show ME".toList
  noDigit := by
    have hall : "please, show me".toList.all (fun c => !isDigit c) = true := by
      decide
    rw [lowercase_courtesy]
    intro c hc
    exact (Bool.not_eq_true' _).mp (List.all_eq_true.mp hall c hc)
  noWord := by
    rw [lowercase_courtesy]
    decide +kernel

def worstOfMarch : Phrase :=
  .ranked .bottom ⟨3, by decide⟩ .yearFirst (some ⟨3, by decide, by decide⟩)
    (some ⟨2024, by decide⟩) [courtesy] [] [courtesy] [] []

theorem Phrase.parse_text_worstOfMarch :
    worstOfMarch.text = "Please, show ME bottom 3 Please, show ME 2024 march".toList ∧
      parse worstOfMarch.text = .bottom 3 (some 3) (some 2024) := by
  have hcount : decimal 3 = ['3'] := by
    rw [decimal, if_pos (by decide)]
    rfl
  have hdigits : ∀ c ∈ "2024".toList, isDigit c = true :=
    List.all_eq_true.mp (by decide)
  have hyear : paddedDecimal 4 2024 = "2024".toList :=
    @paddedDecimal_readDecimal "2024".toList (by decide) hdigits
  refine ⟨?_, Phrase.parse_text worstOfMarch⟩
  change sentence ["Please, show ME".toList, "bottom".toList, decimal 3, "Please, show ME".toList,
    paddedDecimal 4 2024, "march".toList] = _
  rw [hcount, hyear]
  rfl

end Command
end SpokenSales
