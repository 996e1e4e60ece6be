import SpokenSales.Proofs.Command.Heard
import SpokenSales.Proofs.Command.Shapes
import SpokenSales.Proofs.Command.Understood

/-!
# Commands that go on

Whatever is said after a command was understood, it takes nothing back.  A ranked command keeps
its kind and its count, and a month or a year once heard stays.  The same holds of an unlimited
command as long as no further keyword is said.
-/

namespace SpokenSales

open Text Vocabulary

/-- Whether a query says all that an earlier one says, and at most adds a month or a year. -/
structure Query.Keeps (later earlier : Query) : Prop where
  kind : later.kind = earlier.kind
  count : later.count = earlier.count
  month : ∀ month, earlier.month = some month → later.month = some month
  year : ∀ year, earlier.year = some year → later.year = some year

namespace Query

theorem Keeps.refl (query : Query) : query.Keeps query :=
  ⟨rfl, rfl, fun _ h => h, fun _ h => h⟩

theorem keeps_of_words (kind : Kind) (count : Option UInt32) (heard more : List (List Char)) :
    Keeps ⟨kind, count, Command.firstMonth? (heard ++ more), Command.firstYear? (heard ++ more)⟩
      ⟨kind, count, Command.firstMonth? heard, Command.firstYear? heard⟩ where
  kind := rfl
  count := rfl
  month := by
    intro month hmonth
    show (heard ++ more).findSome? month? = some month
    have hfound : heard.findSome? month? = some month := hmonth
    rw [List.findSome?_append, hfound]
    rfl
  year := by
    intro year hyear
    show (heard ++ more).findSome? Command.year? = some year
    have hfound : heard.findSome? Command.year? = some year := hyear
    rw [List.findSome?_append, hfound]
    rfl

end Query

namespace Command

/-!
## More words

The search for a keyword, for digits, and for a month and a year ends at the first that is found.
-/

theorem rankedHeard?_append {heard : List (List Char)} {query : Query}
    (h : rankedHeard? heard = some query) (more : List (List Char)) :
    ∃ later, rankedHeard? (heard ++ more) = some later ∧ later.Keeps query := by
  unfold rankedHeard? at h ⊢
  cases hfirst : firstHeard? ranking? heard with
  | none =>
      rw [hfirst] at h
      cases h
  | some found =>
      rcases found with ⟨kind, after⟩
      simp only [hfirst] at h
      simp only [firstHeard?_append hfirst more]
      cases hdigits : digitsHeard? after with
      | none =>
          rw [hdigits] at h
          cases h
      | some split =>
          rcases split with ⟨digits, tail⟩
          simp only [hdigits] at h
          simp only [digitsHeard?_append hdigits more]
          rcases Option.map_eq_some_iff.mp h with ⟨count, hcount, hquery⟩
          rw [hcount, ← hquery]
          exact ⟨_, rfl, Query.keeps_of_words kind (some count) tail more⟩

theorem unlimitedHeard?_append {heard more : List (List Char)} {query : Query}
    (h : unlimitedHeard? heard = some query)
    (hmore : (more.any fun word => (ranking? word).isSome) = false) :
    ∃ later, unlimitedHeard? (heard ++ more) = some later ∧ later.Keeps query := by
  unfold unlimitedHeard? at h ⊢
  rw [List.any_append, hmore, Bool.or_false]
  split at h
  · cases h
  · rename_i hranking
    rw [if_neg hranking]
    cases hfirst : firstHeard? all? heard with
    | none =>
        rw [hfirst] at h
        cases h
    | some found =>
        rcases found with ⟨u, after⟩
        simp only [hfirst] at h
        simp only [firstHeard?_append hfirst more]
        rcases Option.map_eq_some_iff.mp h with ⟨year, hyear, hquery⟩
        have hlater : firstYear? (after ++ more) = some year :=
          (Query.keeps_of_words .all none after more).year year hyear
        have hkeeps := Query.keeps_of_words .all none after more
        rw [hlater, hyear] at hkeeps
        rw [hlater, ← hquery]
        exact ⟨_, rfl, hkeeps⟩

/-!
## More pieces

A month and its year are neighbours whatever follows them.  No word before them gets another
neighbour, because it has one already.
-/

theorem mem_of_nextWord?_eq_some {parts : List Piece} {separated : Bool} {letters : List Char}
    (h : nextWord? separated parts = some letters) : Piece.word letters ∈ parts := by
  induction parts generalizing separated with
  | nil =>
      cases h
  | cons part parts ih =>
      cases part with
      | gap c =>
          rw [nextWord?] at h
          split at h
          · exact List.mem_cons_of_mem _ (ih h)
          · cases h
      | word found =>
          rw [nextWord?] at h
          split at h
          · cases h
            exact List.mem_cons_self
          · cases h

theorem exists_word_of_neighbours?_eq_some {parts : List Piece} {found : UInt32 × Int32}
    (h : neighbours? parts = some found) : ∃ letters, Piece.word letters ∈ parts := by
  induction parts with
  | nil =>
      cases h
  | cons part parts ih =>
      cases part with
      | gap c =>
          rcases ih h with ⟨letters, hmem⟩
          exact ⟨letters, List.mem_cons_of_mem _ hmem⟩
      | word letters =>
          exact ⟨letters, List.mem_cons_self⟩

theorem nextWord?_append {parts : List Piece} {letters : List Char}
    (h : Piece.word letters ∈ parts) (separated : Bool) (more : List Piece) :
    nextWord? separated (parts ++ more) = nextWord? separated parts := by
  induction parts generalizing separated with
  | nil =>
      cases h
  | cons part parts ih =>
      cases part with
      | gap c =>
          have hmem : Piece.word letters ∈ parts := by
            rcases List.mem_cons.mp h with heq | hmem
            · cases heq
            · exact hmem
          rw [List.cons_append, nextWord?, nextWord?, ih hmem]
      | word found =>
          rfl

theorem neighbours?_append_of_eq_some {parts : List Piece} {found : UInt32 × Int32}
    (h : neighbours? parts = some found) (more : List Piece) :
    neighbours? (parts ++ more) = some found := by
  induction parts with
  | nil =>
      cases h
  | cons part parts ih =>
      cases part with
      | gap c =>
          exact ih h
      | word letters =>
          rw [neighbours?] at h
          rw [List.cons_append, neighbours?]
          cases hpair : (nextWord? false parts).bind (monthAndYear? letters) with
          | some pair =>
              rcases Option.bind_eq_some_iff.mp hpair with ⟨next, hnext, -⟩
              rw [nextWord?_append (mem_of_nextWord?_eq_some hnext), hpair]
              rw [hpair] at h
              exact h
          | none =>
              rw [hpair] at h
              rcases exists_word_of_neighbours?_eq_some h with ⟨next, hnext⟩
              rw [nextWord?_append hnext, hpair]
              exact ih h

/-!
## More keywords
-/

theorem words_append_space (text more : List Char) :
    words (text ++ ' ' :: more) = words text ++ words more := by
  rw [words_append_of_startsInGap (startsInGap_cons isWordChar_space more),
    words_cons_gap isWordChar_space]

theorem asksRanking_normalize {text : List Char} (h : AsksRanking (normalize text)) :
    AsksRanking (lowercase text) := by
  rcases h with htop | hbottom
  · exact Or.inl (mem_words_of_mem_words_replaceNumberWords (by decide) htop)
  · exact Or.inr (mem_words_of_mem_words_replaceNumberWords (by decide) hbottom)

theorem asksAll_normalize {text : List Char} (h : AsksAll (normalize text)) :
    AsksAll (lowercase text) :=
  mem_words_of_mem_words_replaceNumberWords (by decide) h

theorem any_ranking?_eq_false_of_not_asksRanking {text : List Char} (h : ¬AsksRanking text) :
    ((words text).any fun word => (ranking? word).isSome) = false := by
  apply Bool.eq_false_iff.mpr
  intro hany
  exact h (any_isSome_ranking?_iff.mp hany)

theorem any_keyword_eq_false {text : List Char} (hranking : ¬AsksRanking text)
    (hall : ¬AsksAll text) :
    ((words text).any fun word => (ranking? word).isSome || isAll word) = false := by
  apply Bool.eq_false_iff.mpr
  intro hany
  rcases List.any_eq_true.mp hany with ⟨word, hword, hkeyword⟩
  rcases Bool.or_eq_true_iff.mp hkeyword with hrank | hisAll
  · exact hranking (any_isSome_ranking?_iff.mp (List.any_eq_true.mpr ⟨word, hword, hrank⟩))
  · have heq : word = "all".toList := of_decide_eq_true hisAll
    rw [heq] at hword
    exact hall hword

/-!
## Shapes that go on
-/

theorem ranked?_append_space {text : List Char} {query : Query} (h : ranked? text = some query)
    (more : List Char) :
    ∃ later, ranked? (text ++ ' ' :: more) = some later ∧ later.Keeps query := by
  rw [ranked?_eq_rankedHeard?] at h ⊢
  rw [words_append_space]
  exact rankedHeard?_append h (words more)

theorem unlimited?_append_space {text more : List Char} {query : Query}
    (h : unlimited? text = some query) (hranking : ¬AsksRanking more) :
    ∃ later, unlimited? (text ++ ' ' :: more) = some later ∧ later.Keeps query := by
  rw [unlimited?_eq_unlimitedHeard?] at h ⊢
  rw [words_append_space]
  exact unlimitedHeard?_append h (any_ranking?_eq_false_of_not_asksRanking hranking)

theorem monthYear?_append_space {text more : List Char} {query : Query}
    (h : monthYear? text = some query) (hranking : ¬AsksRanking more) (hall : ¬AsksAll more) :
    monthYear? (text ++ ' ' :: more) = some query := by
  unfold monthYear? at h ⊢
  rw [words_append_space, List.any_append, any_keyword_eq_false hranking hall, Bool.or_false,
    pieces_append_gap isWordChar_space]
  split at h
  · cases h
  · rename_i hkeyword
    rcases Option.map_eq_some_iff.mp h with ⟨found, hfound, hquery⟩
    rw [if_neg hkeyword, neighbours?_append_of_eq_some hfound, ← hquery]
    rfl

theorem query?_append_space {shape : Shape} {text more : List Char} {query : Query}
    (h : shape.query? text = some query)
    (hmore : shape = .ranked ∨ ¬AsksRanking more ∧ ¬AsksAll more) :
    ∃ later, shape.query? (text ++ ' ' :: more) = some later ∧ later.Keeps query := by
  cases shape with
  | ranked =>
      exact ranked?_append_space h more
  | unlimited =>
      rcases hmore with hshape | hkeywords
      · cases hshape
      · exact unlimited?_append_space h hkeywords.1
  | monthYear =>
      rcases hmore with hshape | hkeywords
      · cases hshape
      · exact ⟨query, monthYear?_append_space h hkeywords.1 hkeywords.2, Query.Keeps.refl query⟩

/-!
## Understanding more
-/

theorem kind_of_ranked?_eq_some {text : List Char} {query : Query} (h : ranked? text = some query) :
    query.kind.isRanked = true := by
  unfold ranked? at h
  split at h
  · cases h
  · rename_i hfirst
    rcases mem_words_of_firstWord?_eq_some hfirst with ⟨word, -, hranking⟩
    split at h
    · cases h
    · rcases Option.map_eq_some_iff.mp h with ⟨count, -, hquery⟩
      rw [← hquery]
      exact isRanked_of_ranking?_eq_some hranking

theorem kind_of_unlimited?_eq_some {text : List Char} {query : Query}
    (h : unlimited? text = some query) : query.kind = .all := by
  unfold unlimited? at h
  split at h
  · cases h
  · split at h
    · cases h
    · rcases Option.map_eq_some_iff.mp h with ⟨year, -, hquery⟩
      rw [← hquery]
      rfl

theorem kind_of_monthYear?_eq_some {text : List Char} {query : Query}
    (h : monthYear? text = some query) : query.kind = .all := by
  unfold monthYear? at h
  split at h
  · cases h
  · rcases Option.map_eq_some_iff.mp h with ⟨found, -, hquery⟩
    rw [← hquery]
    rfl

theorem isRanked_iff_of_query?_eq_some {shape : Shape} {text : List Char} {query : Query}
    (h : shape.query? text = some query) : query.kind.isRanked = true ↔ shape = .ranked := by
  cases shape with
  | ranked =>
      exact ⟨fun _ => rfl, fun _ => kind_of_ranked?_eq_some h⟩
  | unlimited =>
      rw [kind_of_unlimited?_eq_some h]
      constructor
      · intro hranked
        cases hranked
      · intro hshape
        cases hshape
  | monthYear =>
      rw [kind_of_monthYear?_eq_some h]
      constructor
      · intro hranked
        cases hranked
      · intro hshape
        cases hshape

theorem parse_append_space {text more : List Char} (h : parse text ≠ Query.unrecognized)
    (hmore : (parse text).kind.isRanked = true ∨
      ¬AsksRanking (lowercase more) ∧ ¬AsksAll (lowercase more)) :
    (parse (text ++ ' ' :: more)).Keeps (parse text) := by
  rcases exists_query?_of_parse_ne h with ⟨shape, hquery⟩
  have hnormal : shape = .ranked ∨ ¬AsksRanking (normalize more) ∧ ¬AsksAll (normalize more) := by
    rcases hmore with hranked | hkeywords
    · exact Or.inl ((isRanked_iff_of_query?_eq_some hquery).mp hranked)
    · exact Or.inr ⟨fun hasks => hkeywords.1 (asksRanking_normalize hasks),
        fun hasks => hkeywords.2 (asksAll_normalize hasks)⟩
  rcases query?_append_space hquery hnormal with ⟨later, hlater, hkeeps⟩
  rw [← normalize_append_space] at hlater
  rw [parse_of_query? hlater]
  exact hkeeps

theorem parse_ne_of_kind {text : List Char} {kind : Kind} (h : (parse text).kind = kind)
    (hkind : kind ≠ .unrecognized) : parse text ≠ Query.unrecognized := by
  intro hparse
  rw [hparse] at h
  exact hkind h.symm

theorem exists_year_of_kind {text : List Char} (h : (parse text).kind = .all) :
    ∃ year, (parse text).year = some year := by
  rcases exists_query?_of_parse_ne (parse_ne_of_kind h (by decide)) with ⟨shape, hquery⟩
  rcases (makesSense_of_query?_eq_some hquery).2 with hshape | hyear
  · have hranked := (isRanked_iff_of_query?_eq_some hquery).mpr hshape
    rw [h] at hranked
    cases hranked
  · exact Option.isSome_iff_exists.mp hyear

/-- To go on speaking undoes nothing.  A ranked command keeps its kind, its count, its month and
its year, if it has them.  A command for all products keeps its year, and its month if it has one,
as long as no keyword follows. -/
theorem continued_keeps (text more : List Char) :
    ((parse text).kind = .top ∨ (parse text).kind = .bottom →
      (parse (text ++ ' ' :: more)).Keeps (parse text)) ∧
    ((parse text).kind = .all → ¬AsksRanking (lowercase more) → ¬AsksAll (lowercase more) →
      (parse (text ++ ' ' :: more)).Keeps (parse text) ∧
        (parse (text ++ ' ' :: more)).year = (parse text).year) := by
  constructor
  · rintro (hkind | hkind)
    · apply parse_append_space (parse_ne_of_kind hkind (by decide))
      rw [hkind]
      exact Or.inl rfl
    · apply parse_append_space (parse_ne_of_kind hkind (by decide))
      rw [hkind]
      exact Or.inl rfl
  · intro hkind hranking hall
    have hkeeps := parse_append_space (parse_ne_of_kind hkind (by decide))
      (Or.inr ⟨hranking, hall⟩)
    rcases exists_year_of_kind hkind with ⟨year, hyear⟩
    refine ⟨hkeeps, ?_⟩
    rw [hyear]
    exact hkeeps.year year hyear

theorem continued_keeps_topThree :
    (parse "Top THREE in may".toList).kind = .top ∧
      (parse ("Top THREE in may".toList ++ ' ' :: "2024 or march 2025".toList)).Keeps
        (parse "Top THREE in may".toList) ∧
      (parse "March, 2024".toList).kind = .all ∧
      (parse ("March, 2024".toList ++ ' ' :: "may 2025 overall".toList)).Keeps
        (parse "March, 2024".toList) := by
  have htop : (parse "Top THREE in may".toList).kind = .top := by
    decide +kernel
  have hmarch : (parse "March, 2024".toList).kind = .all := by
    decide +kernel
  have hranking : ¬AsksRanking (lowercase "may 2025 overall".toList) := by
    decide +kernel
  have hall : ¬AsksAll (lowercase "may 2025 overall".toList) := by
    decide +kernel
  exact ⟨htop, (continued_keeps _ _).1 (Or.inl htop), hmarch,
    ((continued_keeps _ _).2 hmarch hranking hall).1⟩

end Command
end SpokenSales
