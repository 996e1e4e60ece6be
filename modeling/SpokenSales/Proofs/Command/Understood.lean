import SpokenSales.Assistant
import SpokenSales.Proofs.Command.Vocabulary
import SpokenSales.Proofs.Query.Valid
import SpokenSales.Proofs.Text.Decimal

/-!
# Understood queries

Whatever the text is, a query that is understood from it makes sense: it is valid, and its numbers
come from the words that can be said.
-/

namespace SpokenSales

def IsMonth (month : UInt32) : Prop :=
  1 ≤ month.toNat ∧ month.toNat ≤ 12

def IsYear (year : Int32) : Prop :=
  0 ≤ year.toInt ∧ year.toInt ≤ 9999

/-- Whether a query is valid and has a count, a month and a year, if any, in their ranges. -/
structure Query.MakesSense (query : Query) : Prop where
  valid : query.validate = .ok ()
  count : ∀ count ∈ query.count, 1 ≤ count.toNat ∧ count.toNat < UInt32.size
  month : ∀ month ∈ query.month, IsMonth month
  year : ∀ year ∈ query.year, IsYear year

namespace Command

open Text Vocabulary

/-!
## Counts, months and years
-/

theorem one_le_of_count?_eq_some {digits : List Char} {count : UInt32}
    (h : count? digits = some count) : 1 ≤ count.toNat := by
  unfold count? at h
  simp only at h
  split at h
  · rename_i hrange
    cases h
    rw [UInt32.toNat_ofNat_of_lt' hrange.2]
    exact hrange.1
  · cases h

theorem isMonth_of_month?_eq_some {word : List Char} {month : UInt32}
    (h : month? word = some month) : IsMonth month := by
  rcases Option.map_eq_some_iff.mp h with ⟨index, hindex, hmonth⟩
  rcases List.findIdx?_eq_some_iff_getElem.mp hindex with ⟨hlt, -⟩
  have htwelve : monthNames.length = 12 := rfl
  have hvalue : month.toNat = index + 1 := by
    rw [← hmonth]
    apply UInt32.toNat_ofNat_of_lt'
    have hsize : UInt32.size = 4294967296 := rfl
    omega
  unfold IsMonth
  omega

theorem isYear_of_year?_eq_some {word : List Char} {year : Int32} (h : year? word = some year) :
    IsYear year := by
  have hdigits := isDigit_of_year?_eq_some h
  have hlt : readDecimal word < Nat.pow 10 4 := by
    rw [← hdigits.1]
    exact readDecimal_lt hdigits.2
  have hpow : Nat.pow 10 4 = 10000 := rfl
  unfold year? at h
  split at h
  · cases h
    unfold IsYear
    rw [Int32.toInt_ofNat_of_lt (by omega)]
    omega
  · cases h

theorem isMonth_of_firstMonth?_eq_some {heard : List (List Char)} {month : UInt32}
    (h : firstMonth? heard = some month) : IsMonth month := by
  rcases List.exists_of_findSome?_eq_some h with ⟨word, -, hword⟩
  exact isMonth_of_month?_eq_some hword

theorem isYear_of_firstYear?_eq_some {heard : List (List Char)} {year : Int32}
    (h : firstYear? heard = some year) : IsYear year := by
  rcases List.exists_of_findSome?_eq_some h with ⟨word, -, hword⟩
  exact isYear_of_year?_eq_some hword

theorem of_monthAndYear?_eq_some {first second : List Char} {found : UInt32 × Int32}
    (h : monthAndYear? first second = some found) : IsMonth found.1 ∧ IsYear found.2 := by
  unfold monthAndYear? at h
  split at h
  · rename_i hmonth hyear
    cases h
    exact ⟨isMonth_of_month?_eq_some hmonth, isYear_of_year?_eq_some hyear⟩
  · split at h
    · rename_i hmonth hyear
      cases h
      exact ⟨isMonth_of_month?_eq_some hmonth, isYear_of_year?_eq_some hyear⟩
    · cases h

theorem of_neighbours?_eq_some {parts : List Piece} {found : UInt32 × Int32}
    (h : neighbours? parts = some found) : IsMonth found.1 ∧ IsYear found.2 := by
  induction parts with
  | nil =>
      cases h
  | cons part parts ih =>
      cases part with
      | gap c =>
          exact ih h
      | word letters =>
          rw [neighbours?] at h
          split at h
          · rename_i pair hpair
            cases h
            rcases Option.bind_eq_some_iff.mp hpair with ⟨next, -, hnext⟩
            exact of_monthAndYear?_eq_some hnext
          · exact ih h

/-!
## Queries of each shape
-/

theorem makesSense_ranked {kind : Kind} {count : UInt32} {month : Option UInt32}
    {year : Option Int32} (hkind : kind.isRanked = true) (hcount : 1 ≤ count.toNat)
    (hmonth : ∀ m ∈ month, IsMonth m) (hyear : ∀ y ∈ year, IsYear y) :
    Query.MakesSense ⟨kind, some count, month, year⟩ where
  valid := by
    apply Query.validate_eq_ok_iff.mpr
    constructor
    · exact hkind
    · intro n hn
      cases hn
      exact hcount
    · intro hnone
      have hunrecognized : kind = .unrecognized := hnone
      rw [hunrecognized] at hkind
      cases hkind
    · exact hmonth
  count := by
    intro n hn
    cases hn
    exact ⟨hcount, count.toNat_lt⟩
  month := hmonth
  year := hyear

theorem makesSense_all {month : Option UInt32} {year : Int32} (hmonth : ∀ m ∈ month, IsMonth m)
    (hyear : IsYear year) : (Query.all month (some year)).MakesSense where
  valid := by
    apply Query.validate_eq_ok_iff.mpr
    constructor
    · rfl
    · intro n hn
      cases hn
    · intro hnone
      cases hnone
    · exact hmonth
  count := by
    intro n hn
    cases hn
  month := hmonth
  year := by
    intro y hy
    cases hy
    exact hyear

theorem makesSense_unrecognized : Query.unrecognized.MakesSense where
  valid := rfl
  count := by
    intro n hn
    cases hn
  month := by
    intro m hm
    cases hm
  year := by
    intro y hy
    cases hy

theorem isRanked_of_ranking?_eq_some {word : List Char} {kind : Kind}
    (h : ranking? word = some kind) : kind.isRanked = true := by
  unfold ranking? at h
  split at h
  · cases h
    rfl
  · split at h
    · cases h
      rfl
    · cases h

theorem makesSense_of_ranked?_eq_some {text : List Char} {query : Query}
    (h : ranked? text = some query) : query.MakesSense := by
  unfold ranked? at h
  split at h
  · cases h
  · rename_i kind after hfirst
    split at h
    · cases h
    · rename_i digits tail hdigits
      rcases Option.map_eq_some_iff.mp h with ⟨count, hcount, hquery⟩
      rcases mem_words_of_firstWord?_eq_some hfirst with ⟨word, -, hranking⟩
      rw [← hquery]
      apply makesSense_ranked
      · exact isRanked_of_ranking?_eq_some hranking
      · exact one_le_of_count?_eq_some hcount
      · intro month hmonth
        exact isMonth_of_firstMonth?_eq_some hmonth
      · intro year hyear
        exact isYear_of_firstYear?_eq_some hyear

theorem makesSense_of_unlimited?_eq_some {text : List Char} {query : Query}
    (h : unlimited? text = some query) : query.MakesSense ∧ query.year.isSome = true := by
  unfold unlimited? at h
  split at h
  · cases h
  · split at h
    · cases h
    · rcases Option.map_eq_some_iff.mp h with ⟨year, hyear, hquery⟩
      rw [← hquery]
      refine ⟨?_, rfl⟩
      apply makesSense_all
      · intro month hmonth
        exact isMonth_of_firstMonth?_eq_some hmonth
      · exact isYear_of_firstYear?_eq_some hyear

theorem makesSense_of_monthYear?_eq_some {text : List Char} {query : Query}
    (h : monthYear? text = some query) : query.MakesSense ∧ query.year.isSome = true := by
  unfold monthYear? at h
  split at h
  · cases h
  · rcases Option.map_eq_some_iff.mp h with ⟨found, hfound, hquery⟩
    rcases of_neighbours?_eq_some hfound with ⟨hmonth, hyear⟩
    rw [← hquery]
    refine ⟨?_, rfl⟩
    apply makesSense_all
    · intro month hmem
      cases hmem
      exact hmonth
    · exact hyear

theorem makesSense_of_query?_eq_some {shape : Shape} {text : List Char} {query : Query}
    (h : shape.query? text = some query) :
    query.MakesSense ∧ (shape = .ranked ∨ query.year.isSome = true) := by
  cases shape with
  | ranked =>
      exact ⟨makesSense_of_ranked?_eq_some h, Or.inl rfl⟩
  | unlimited =>
      rcases makesSense_of_unlimited?_eq_some h with ⟨hsense, hyear⟩
      exact ⟨hsense, Or.inr hyear⟩
  | monthYear =>
      rcases makesSense_of_monthYear?_eq_some h with ⟨hsense, hyear⟩
      exact ⟨hsense, Or.inr hyear⟩

theorem makesSense_parse (text : List Char) : (parse text).MakesSense := by
  unfold parse
  split
  · rename_i shape query hrecognized
    rcases List.exists_of_findSome?_eq_some hrecognized with ⟨tried, -, htried⟩
    rcases Option.map_eq_some_iff.mp htried with ⟨found, hfound, hpair⟩
    cases hpair
    exact (makesSense_of_query?_eq_some hfound).1
  · exact makesSense_unrecognized

end Command

namespace Assistant

open Command

theorem isSome_warning_iff (catalog : List Product) (text : String) :
    (respond catalog text).warning.isSome = true ↔
      (respond catalog text).query = Query.unrecognized := by
  have hvalid : (parse text.toList).IsValid :=
    Query.validate_eq_ok_iff.mp (makesSense_parse text.toList).valid
  show (if (parse text.toList).isRecognized then none else some Warning.unrecognized).isSome =
    true ↔ parse text.toList = Query.unrecognized
  unfold Query.isRecognized
  by_cases hkind : (parse text.toList).kind = .unrecognized
  · rw [hvalid.eq_unrecognized hkind]
    exact ⟨fun _ => rfl, fun _ => rfl⟩
  · have hne : parse text.toList ≠ Query.unrecognized := by
      intro heq
      rw [heq] at hkind
      exact hkind rfl
    simp [hkind, hne]

/-- Every query that a shape gives makes sense, and only a ranked one may be without a year.
Hence every command is understood as a valid query, and there is a warning exactly when nothing
was understood. -/
theorem understood_makesSense :
    (∀ shape text query, Shape.query? shape text = some query →
      query.MakesSense ∧ (shape = .ranked ∨ query.year.isSome = true)) ∧
    (∀ text, (parse text).validate = .ok ()) ∧
    ∀ catalog text,
      (respond catalog text).query.validate = .ok () ∧
        ((respond catalog text).warning.isSome = true ↔
          (respond catalog text).query = Query.unrecognized) := by
  refine ⟨?_, ?_, ?_⟩
  · intro shape text query hquery
    exact makesSense_of_query?_eq_some hquery
  · intro text
    exact (makesSense_parse text).valid
  · intro catalog text
    exact ⟨(makesSense_parse text.toList).valid, isSome_warning_iff catalog text⟩

theorem understood_makesSense_zeros :
    Shape.ranked.query? "the top ten: 0042 of 0000 in may".toList =
        some (Query.top 42 (some 5) (some 0)) ∧
      (Query.top 42 (some 5) (some 0)).MakesSense := by
  have hquery : Shape.ranked.query? "the top ten: 0042 of 0000 in may".toList =
      some (Query.top 42 (some 5) (some 0)) := by
    decide +kernel
  exact ⟨hquery, (understood_makesSense.1 _ _ _ hquery).1⟩

end Assistant
end SpokenSales
