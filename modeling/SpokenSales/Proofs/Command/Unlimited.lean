import SpokenSales.Proofs.Command.Filters
import SpokenSales.Proofs.Command.Shapes

/-!
# The parts of an unlimited command

The keyword of an unlimited command is the leftmost one.  The year and the month are looked for
after it, each on its own, so that neither their order nor what stands between them matters.  To
cut the text after the keyword makes no word and loses none.
-/

namespace SpokenSales
namespace Command

open Text

def SplitsAtAll (text before after : List Char) : Prop :=
  StandsFirst (fun word _ => word = "all".toList) text before "all".toList after

/-- Whether a text names something after a part `front` at its beginning, and what the leftmost
word there that does names. -/
inductive NamedAfter (Names : List Char → α → Prop) (text front : List Char) : Option α → Prop
  | absent
      (h : ∀ between word after, Stands text (front ++ between) word after →
        ∀ value, ¬Names word value) :
      NamedAfter Names text front none
  | found {between word after : List Char} {value : α}
      (h : Stands text (front ++ between) word after) (hvalue : Names word value)
      (leftmost : ∀ between' word' after', Stands text (front ++ between') word' after' →
        (∃ value, Names word' value) → between.length ≤ between'.length) :
      NamedAfter Names text front (some value)

/-!
## Cutting after a word

What a text names after one of its words is what the rest of the text names.
-/

section

variable {Names : List Char → α → Prop} {text before word after : List Char}

theorem namedAfter_iff (h : Stands text before word after) {value? : Option α} :
    NamedAfter Names text (before ++ word) value? ↔ FirstNamed Names after value? := by
  constructor
  · intro hnamed
    cases hnamed with
    | absent hnone =>
        apply FirstNamed.absent
        intro between other rest hother
        exact hnone between other rest (h.after_iff.mpr hother)
    | found hother hvalue hleftmost =>
        refine FirstNamed.found ⟨h.after_iff.mp hother, ⟨_, hvalue⟩, ?_⟩ hvalue
        intro between' other' rest' hother' hnames
        exact hleftmost between' other' rest' (h.after_iff.mpr hother') hnames
  · intro hnamed
    cases hnamed with
    | absent hnone =>
        apply NamedAfter.absent
        intro between other rest hother
        exact hnone between other rest (h.after_iff.mp hother)
    | found hfirst hvalue =>
        refine NamedAfter.found (h.after_iff.mpr hfirst.toStands) hvalue ?_
        intro between' other' rest' hother' hnames
        exact hfirst.leftmost between' other' rest' (h.after_iff.mp hother') hnames

theorem exists_namedAfter_iff {meaning : List Char → Option α}
    (hmeaning : ∀ word value, meaning word = some value ↔ Names word value)
    (h : Stands text before word after) :
    (∃ value, NamedAfter Names text (before ++ word) (some value)) ↔
      ∃ between other rest value, Stands text (before ++ word ++ between) other rest ∧
        Names other value := by
  constructor
  · rintro ⟨value, hnamed⟩
    cases hnamed with
    | found hother hvalue _ =>
        exact ⟨_, _, _, value, hother, hvalue⟩
  · rintro ⟨between, other, rest, value, hother, hvalue⟩
    have hfirst : FirstNamed Names after ((words after).findSome? meaning) :=
      (findSome?_words_eq_iff hmeaning).mp rfl
    cases hfound : (words after).findSome? meaning with
    | some found =>
        rw [hfound] at hfirst
        exact ⟨found, (namedAfter_iff h).mpr hfirst⟩
    | none =>
        rw [hfound] at hfirst
        cases hfirst with
        | absent hnone =>
            exact absurd hvalue (hnone between other rest (h.after_iff.mp hother) value)

end

/-!
## The keyword
-/

theorem all?_eq_some_iff {word : List Char} {u : Unit} :
    all? word = some u ↔ word = "all".toList := by
  unfold all? isAll
  rw [Option.ite_none_right_eq_some, decide_eq_true_eq]
  exact and_iff_left rfl

theorem firstWord?_all?_eq_some_iff {text : List Char} {parts : List Piece} :
    firstWord? all? (pieces text) = some ((), parts) ↔
      ∃ before after, SplitsAtAll text before after ∧ parts = pieces after := by
  have hnames (word after : List Char) :
      (∃ _ : Unit, word = "all".toList) ↔ word = "all".toList :=
    ⟨fun ⟨_, h⟩ => h, fun h => ⟨(), h⟩⟩
  rw [firstWord?_eq_some_iff fun _ _ => all?_eq_some_iff]
  simp only [standsFirst_congr hnames]
  constructor
  · rintro ⟨before, word, after, hfirst, rfl, hparts⟩
    exact ⟨before, after, hfirst, hparts⟩
  · rintro ⟨before, after, hfirst, hparts⟩
    exact ⟨before, _, after, hfirst, rfl, hparts⟩

theorem unlimited?_of_splitsAtAll {text before after : List Char} (h : ¬AsksRanking text)
    (hsplit : SplitsAtAll text before after) :
    unlimited? text = (firstYear? (words after)).map fun year =>
      Query.all (firstMonth? (words after)) (some year) := by
  have hfirst : firstWord? (fun word => if isAll word then some () else none) (pieces text) =
      some ((), pieces after) :=
    firstWord?_all?_eq_some_iff.mpr ⟨before, after, hsplit, rfl⟩
  unfold unlimited?
  rw [if_neg fun hany => h (any_isSome_ranking?_iff.mp hany), hfirst]
  rfl

theorem unlimited?_of_no_all {text : List Char}
    (h : ∀ before after, ¬SplitsAtAll text before after) : unlimited? text = none := by
  have hfirst : firstWord? (fun word => if isAll word then some () else none) (pieces text) =
      none := by
    apply Option.eq_none_iff_forall_ne_some.mpr
    rintro ⟨_, parts⟩ hfound
    rcases firstWord?_all?_eq_some_iff.mp hfound with ⟨before, after, hsplit, -⟩
    exact h before after hsplit
  unfold unlimited?
  rw [hfirst]
  split <;> rfl

/-!
## What an unlimited command asks for
-/

theorem unlimited?_eq_some_iff {text : List Char} {query : Query} :
    unlimited? text = some query ↔
      ¬AsksRanking text ∧ ∃ before after month year, SplitsAtAll text before after ∧
        NamedAfter NamesMonth text (before ++ "all".toList) month ∧
        NamedAfter NamesYear text (before ++ "all".toList) (some year) ∧
        query = Query.all month (some year) := by
  constructor
  · intro h
    have hranking : ¬AsksRanking text := (keywords_of_unlimited?_eq_some h).1
    have hsplit : ∃ before after, SplitsAtAll text before after := by
      apply Classical.byContradiction
      intro hnone
      rw [unlimited?_of_no_all fun before after hsplit => hnone ⟨before, after, hsplit⟩] at h
      cases h
    rcases hsplit with ⟨before, after, hsplit⟩
    rw [unlimited?_of_splitsAtAll hranking hsplit] at h
    rcases Option.map_eq_some_iff.mp h with ⟨year, hyear, hquery⟩
    exact ⟨hranking, before, after, firstMonth? (words after), year, hsplit,
      (namedAfter_iff hsplit.toStands).mpr (firstMonth?_words_eq_iff.mp rfl),
      (namedAfter_iff hsplit.toStands).mpr (firstYear?_words_eq_iff.mp hyear), hquery.symm⟩
  · rintro ⟨hranking, before, after, month, year, hsplit, hmonth, hyear, rfl⟩
    rw [unlimited?_of_splitsAtAll hranking hsplit,
      firstMonth?_words_eq_iff.mpr ((namedAfter_iff hsplit.toStands).mp hmonth),
      firstYear?_words_eq_iff.mpr ((namedAfter_iff hsplit.toStands).mp hyear)]
    rfl

/-- A text is an unlimited command if it has no ranking keyword, has the whole word `all`, and
names a year after the leftmost one.  The query has the year and the month that are named first
after that keyword.  The words after a keyword are the same whether they are looked for in the text
or in what is left of it after a cut. -/
theorem unlimited?_after_keyword (text : List Char) :
    ((unlimited? text).isSome = true ↔
      ¬AsksRanking text ∧ ∃ before after, SplitsAtAll text before after ∧
        ∃ between word rest year,
          Stands text (before ++ "all".toList ++ between) word rest ∧ NamesYear word year) ∧
    (∀ query, unlimited? text = some query ↔
      ¬AsksRanking text ∧ ∃ before after month year, SplitsAtAll text before after ∧
        NamedAfter NamesMonth text (before ++ "all".toList) month ∧
        NamedAfter NamesYear text (before ++ "all".toList) (some year) ∧
        query = Query.all month (some year)) ∧
    ∀ before after, SplitsAtAll text before after → ∀ between word rest,
      Stands text (before ++ "all".toList ++ between) word rest ↔
        Stands after between word rest := by
  refine ⟨?_, fun query => unlimited?_eq_some_iff, ?_⟩
  · rw [Option.isSome_iff_exists]
    constructor
    · rintro ⟨query, hquery⟩
      rcases unlimited?_eq_some_iff.mp hquery with
        ⟨hranking, before, after, month, year, hsplit, -, hyear, -⟩
      exact ⟨hranking, before, after, hsplit,
        (exists_namedAfter_iff (fun _ _ => year?_eq_some_iff) hsplit.toStands).mp ⟨year, hyear⟩⟩
    · rintro ⟨hranking, before, after, hsplit, hnames⟩
      rcases (exists_namedAfter_iff (fun _ _ => year?_eq_some_iff) hsplit.toStands).mpr hnames with
        ⟨year, hyear⟩
      have hmonth : NamedAfter NamesMonth text (before ++ "all".toList)
          (firstMonth? (words after)) :=
        (namedAfter_iff hsplit.toStands).mpr (firstMonth?_words_eq_iff.mp rfl)
      exact ⟨_, unlimited?_eq_some_iff.mpr
        ⟨hranking, before, after, _, year, hsplit, hmonth, hyear, rfl⟩⟩
  · intro before after hsplit between word rest
    exact hsplit.toStands.after_iff

theorem unlimited?_after_keyword_secondAll :
    SplitsAtAll "all 2024x march 2025 all may 2026".toList []
        " 2024x march 2025 all may 2026".toList ∧
      Stands "all 2024x march 2025 all may 2026".toList "all 2024x ".toList "march".toList
        " 2025 all may 2026".toList ∧
      unlimited? "all 2024x march 2025 all may 2026".toList =
        some (Query.all (some 3) (some 2025)) := by
  have hall : Stands "all 2024x march 2025 all may 2026".toList [] "all".toList
      " 2024x march 2025 all may 2026".toList :=
    ⟨by decide, Vocabulary.isWord_of_mem_spokenWords (by decide),
      endsInGap_nil, startsInGap_cons (by decide) _⟩
  have hsplit : SplitsAtAll "all 2024x march 2025 all may 2026".toList []
      " 2024x march 2025 all may 2026".toList :=
    ⟨hall, rfl, fun before' _ _ _ _ => Nat.zero_le before'.length⟩
  have hmarch : Stands " 2024x march 2025 all may 2026".toList " 2024x ".toList "march".toList
      " 2025 all may 2026".toList :=
    ⟨by decide, Vocabulary.isWord_of_mem_spokenWords (by decide),
      endsInGap_concat " 2024x".toList (by decide),
      startsInGap_cons (by decide) _⟩
  exact ⟨hsplit, ((unlimited?_after_keyword _).2.2 [] _ hsplit _ _ _).mpr hmarch,
    by decide +kernel⟩

end Command
end SpokenSales
