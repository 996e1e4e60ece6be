import Mathlib.Data.List.TakeWhile
import SpokenSales.Proofs.Command.Filters
import SpokenSales.Proofs.Command.Heard

/-!
# The parts of a ranked command

The keyword of a ranked command is the leftmost one, and the count is the first run of digits after
it.  What follows the count is read as a text of its own.  Among all the ways to find a keyword and
digits after it, this is the one that is tried first.
-/

namespace SpokenSales
namespace Command

open Text

/-!
## The first run of digits
-/

structure IsFirstRun (between digits tail : List Char) : Prop where
  noneBefore : ∀ c ∈ between, isDigit c = false
  areDigits : ∀ c ∈ digits, isDigit c = true
  nonempty : digits ≠ []
  maximal : EndsDigits tail

theorem firstDigits?_eq_some_iff {text digits tail : List Char} :
    firstDigits? text = some (digits, tail) ↔
      ∃ between, text = between ++ (digits ++ tail) ∧ IsFirstRun between digits tail := by
  constructor
  · intro h
    rcases exists_of_firstDigits?_eq_some h with ⟨between, hsplit, hnone, hdigits, hne, hmaximal⟩
    exact ⟨between, hsplit, hnone, hdigits, hne, hmaximal⟩
  · rintro ⟨between, rfl, h⟩
    exact firstDigits?_append h.noneBefore h.areDigits h.nonempty h.maximal

theorem firstDigits?_eq_none_iff {text : List Char} :
    firstDigits? text = none ↔ ∀ c ∈ text, isDigit c = false := by
  have hdrop : text.dropWhile (fun c => !isDigit c) = [] ↔ ∀ c ∈ text, isDigit c = false := by
    simp only [List.dropWhile_eq_nil_iff, Bool.not_eq_true']
  rw [← hdrop, ← List.isEmpty_iff]
  unfold firstDigits?
  simp only [ite_eq_left_iff, reduceCtorEq, imp_false, Bool.not_eq_true, Bool.not_eq_false]

theorem IsFirstRun.length_le {between digits tail between' digits' tail' : List Char}
    (h : IsFirstRun between digits tail) (hdigits' : ∀ c ∈ digits', isDigit c = true)
    (hne' : digits' ≠ []) (hsplit : between ++ (digits ++ tail) = between' ++ (digits' ++ tail')) :
    between.length ≤ between'.length := by
  apply Nat.le_of_not_lt
  intro hlt
  have hprefix : between' <+: between :=
    List.prefix_of_prefix_length_le ⟨_, hsplit.symm⟩ ⟨_, rfl⟩ (Nat.le_of_lt hlt)
  rcases hprefix with ⟨back, rfl⟩
  rw [List.append_assoc] at hsplit
  have hrest := List.append_cancel_left hsplit
  rcases List.exists_cons_of_ne_nil hne' with ⟨d, ds, rfl⟩
  cases back with
  | nil =>
      rw [List.append_nil] at hlt
      exact Nat.lt_irrefl _ hlt
  | cons c back =>
      -- The other digits would begin among characters that are none.
      have hcd : c = d := (List.cons.inj hrest).1
      have hc := h.noneBefore c (List.mem_append_right between' List.mem_cons_self)
      rw [hcd, hdigits' d List.mem_cons_self] at hc
      cases hc

theorem isPrefix_of_endsDigits {digits tail digits' tail' : List Char} (htail : EndsDigits tail)
    (hdigits' : ∀ c ∈ digits', isDigit c = true) (hsplit : digits ++ tail = digits' ++ tail') :
    digits' <+: digits := by
  rcases List.prefix_or_prefix_of_prefix ⟨tail', hsplit.symm⟩ ⟨tail, rfl⟩ with
    hprefix | ⟨more, rfl⟩
  · exact hprefix
  · cases more with
    | nil =>
        simp only [List.append_nil, List.prefix_refl]
    | cons c more =>
        -- The other digits would go on after the run.
        rw [List.append_assoc] at hsplit
        have hrest := List.append_cancel_left hsplit
        have hc := htail c (by rw [hrest]; rfl)
        rw [hdigits' c (List.mem_append_right digits List.mem_cons_self)] at hc
        cases hc

/-!
## Ways to read a ranked command

A keyword has to stand between boundaries, and digits have to come somewhere after it.
-/

/-- A text cut in five: a keyword and digits, with what is before, between and after them. -/
@[ext] structure RankedCut where
  before : List Char
  keyword : List Char
  between : List Char
  digits : List Char
  tail : List Char

namespace RankedCut

def after (cut : RankedCut) : List Char :=
  cut.between ++ (cut.digits ++ cut.tail)

/-- Whether a cut is one of a text with a keyword between boundaries and with some digits. -/
structure Fits (cut : RankedCut) (text : List Char) : Prop where
  split : text = cut.before ++ (cut.keyword ++ cut.after)
  keyword : ∃ kind, NamesRanking cut.keyword kind
  begins : IsBoundary cut.before (cut.keyword ++ cut.after)
  ends : IsBoundary (cut.before ++ cut.keyword) cut.after
  areDigits : ∀ c ∈ cut.digits, isDigit c = true
  nonempty : cut.digits ≠ []

/-- The order in which cuts are tried: the keyword as far left as possible, then as little as
possible between it and the digits, then as many digits as possible. -/
def TriedBefore (cut other : RankedCut) : Prop :=
  cut.before.length < other.before.length ∨
    cut.before.length = other.before.length ∧
      (cut.between.length < other.between.length ∨
        cut.between.length = other.between.length ∧ other.digits.length < cut.digits.length)

/-- Whether a cut has the leftmost keyword of a text and the first run of digits after it. -/
structure IsLeftmost (cut : RankedCut) (text : List Char) : Prop where
  keyword : StandsFirst (fun word _ => ∃ kind, NamesRanking word kind) text cut.before cut.keyword
    cut.after
  digits : IsFirstRun cut.between cut.digits cut.tail

variable {cut other : RankedCut} {text : List Char}

theorem Fits.stands (h : cut.Fits text) : Stands text cut.before cut.keyword cut.after := by
  rcases h.keyword with ⟨kind, hkind⟩
  exact (stands_iff_isBoundary hkind.isWord).mpr ⟨h.split, h.begins, h.ends⟩

theorem fits_of_stands {before keyword after between digits tail : List Char}
    (hstands : Stands text before keyword after) (hkeyword : ∃ kind, NamesRanking keyword kind)
    (hafter : after = between ++ (digits ++ tail)) (hdigits : ∀ c ∈ digits, isDigit c = true)
    (hne : digits ≠ []) : Fits ⟨before, keyword, between, digits, tail⟩ text := by
  subst hafter
  rcases (stands_iff_isBoundary hstands.isWord).mp hstands with ⟨hsplit, hbegins, hends⟩
  exact ⟨hsplit, hkeyword, hbegins, hends, hdigits, hne⟩

theorem IsLeftmost.fits (h : cut.IsLeftmost text) : cut.Fits text :=
  fits_of_stands h.keyword.toStands h.keyword.holds rfl h.digits.areDigits h.digits.nonempty

theorem IsLeftmost.triedBefore (h : cut.IsLeftmost text) (hother : other.Fits text) :
    other = cut ∨ cut.TriedBefore other := by
  have hle := h.keyword.leftmost _ _ _ hother.stands hother.keyword
  rcases Nat.lt_or_eq_of_le hle with hlt | heq
  · exact Or.inr (Or.inl hlt)
  · rcases h.keyword.toStands.eq_of_length hother.stands heq with ⟨hbefore, hkeyword, hafter⟩
    have hbetween := h.digits.length_le hother.areDigits hother.nonempty hafter.symm
    rcases Nat.lt_or_eq_of_le hbetween with hlt | hbetween
    · exact Or.inr (Or.inr ⟨heq, Or.inl hlt⟩)
    · have hsplit := List.append_inj hafter hbetween.symm
      have hprefix :=
        isPrefix_of_endsDigits h.digits.maximal hother.areDigits hsplit.2.symm
      rcases Nat.lt_or_eq_of_le hprefix.length_le with hlt | hlength
      · exact Or.inr (Or.inr ⟨heq, Or.inr ⟨hbetween, hlt⟩⟩)
      · have hdigits := List.append_inj hsplit.2 hlength
        exact Or.inl (RankedCut.ext hbefore hkeyword hsplit.1 hdigits.1 hdigits.2)

theorem not_triedBefore_self : ¬cut.TriedBefore cut := by
  unfold TriedBefore
  omega

theorem isLeftmost_of_triedBefore (h : cut.Fits text)
    (hfirst : ∀ other : RankedCut, other.Fits text → other = cut ∨ cut.TriedBefore other) :
    cut.IsLeftmost text := by
  -- No cut that fits comes before this one.
  have hnot (other : RankedCut) (hother : other.Fits text) : ¬other.TriedBefore cut := by
    rcases hfirst other hother with heq | htried
    · rw [heq]
      exact not_triedBefore_self
    · unfold TriedBefore at htried ⊢
      omega
  refine ⟨⟨h.stands, h.keyword, ?_⟩, ⟨?_, h.areDigits, h.nonempty, ?_⟩⟩
  · intro before' keyword' after' hstands' hkeyword'
    apply Nat.le_of_not_lt
    intro hlt
    rcases hstands'.eq_or_after h.stands (Nat.le_of_lt hlt) with ⟨hbefore, -⟩ | ⟨front, -, hlater⟩
    · rw [hbefore] at hlt
      exact Nat.lt_irrefl _ hlt
    · have hafter :
          after' = (front ++ (cut.keyword ++ cut.between)) ++ (cut.digits ++ cut.tail) := by
        rw [hlater.split, after]
        simp only [List.append_assoc]
      exact hnot _ (fits_of_stands hstands' hkeyword' hafter h.areDigits h.nonempty) (Or.inl hlt)
  · intro c hc
    apply Bool.eq_false_iff.mpr
    intro hdigit
    rcases List.append_of_mem hc with ⟨front, back, hbetween⟩
    have hafter : cut.after = front ++ ([c] ++ (back ++ (cut.digits ++ cut.tail))) := by
      rw [after, hbetween]
      simp only [List.append_assoc, List.cons_append, List.nil_append]
    refine hnot _ (fits_of_stands h.stands h.keyword hafter ?_ (List.cons_ne_nil c []))
      (Or.inr ⟨rfl, Or.inl ?_⟩)
    · exact List.forall_mem_singleton.mpr hdigit
    · rw [hbetween, List.length_append, List.length_cons]
      exact Nat.lt_add_of_pos_right (Nat.succ_pos back.length)
  · intro c hc
    apply Bool.eq_false_iff.mpr
    intro hdigit
    rcases List.head?_eq_some_iff.mp hc with ⟨rest, htail⟩
    have hafter : cut.after = cut.between ++ ((cut.digits ++ [c]) ++ rest) := by
      rw [after, htail]
      simp only [List.append_assoc, List.cons_append, List.nil_append]
    refine hnot _ (fits_of_stands h.stands h.keyword hafter ?_ (List.append_ne_nil_of_left_ne_nil
      h.nonempty [c])) (Or.inr ⟨rfl, Or.inr ⟨rfl, ?_⟩⟩)
    · exact List.forall_mem_append.mpr ⟨h.areDigits, List.forall_mem_singleton.mpr hdigit⟩
    · rw [List.length_append]
      exact Nat.lt_succ_self cut.digits.length

theorem isLeftmost_iff :
    cut.IsLeftmost text ↔
      cut.Fits text ∧ ∀ other : RankedCut, other.Fits text → other = cut ∨ cut.TriedBefore other :=
  ⟨fun h => ⟨h.fits, fun _ hother => h.triedBefore hother⟩,
    fun h => isLeftmost_of_triedBefore h.1 h.2⟩

end RankedCut

/-!
## What a ranked command asks for
-/

/-- Whether a query asks for what the leftmost parts of a ranked command say: the kind of the
keyword, as many products as the digits write, and the month and the year that are named first in
the tail. -/
structure RankedCut.Says (cut : RankedCut) (query : Query) : Prop where
  kind : NamesRanking cut.keyword query.kind
  count : ∃ count, query.count = some count ∧ count.toNat = placeValue cut.digits
  month : FirstNamed NamesMonth cut.tail query.month
  year : FirstNamed NamesYear cut.tail query.year

/-- Whether digits write a number that can be a count. -/
def IsCount (digits : List Char) : Prop :=
  0 < placeValue digits ∧ placeValue digits < UInt32.size

instance (digits : List Char) : Decidable (IsCount digits) :=
  inferInstanceAs (Decidable (_ ∧ _))

theorem count?_eq_ite (digits : List Char) : count? digits =
    if IsCount digits then some (UInt32.ofNat (placeValue digits)) else none := by
  unfold count?
  rw [readDecimal_eq_placeValue]
  rfl

theorem count?_of_isCount {digits : List Char} (h : IsCount digits) :
    count? digits = some (UInt32.ofNat (placeValue digits)) := by
  rw [count?_eq_ite, if_pos h]

theorem count?_eq_none_iff {digits : List Char} : count? digits = none ↔ ¬IsCount digits := by
  constructor
  · intro h hcount
    rw [count?_of_isCount hcount] at h
    cases h
  · intro h
    rw [count?_eq_ite, if_neg h]

theorem count?_eq_some_iff {digits : List Char} {count : UInt32} :
    count? digits = some count ↔ IsCount digits ∧ count.toNat = placeValue digits := by
  constructor
  · intro h
    have hcount : IsCount digits := by
      apply Classical.byContradiction
      intro hnot
      rw [count?_eq_none_iff.mpr hnot] at h
      cases h
    rw [count?_of_isCount hcount] at h
    cases h
    exact ⟨hcount, UInt32.toNat_ofNat_of_lt' hcount.2⟩
  · rintro ⟨hcount, hvalue⟩
    rw [count?_of_isCount hcount, ← hvalue, UInt32.ofNat_toNat]

theorem says_iff {cut : RankedCut} {kind : Kind} (hkind : NamesRanking cut.keyword kind)
    {query : Query} :
    (count? cut.digits).map (fun count =>
        (⟨kind, some count, firstMonth? (words cut.tail), firstYear? (words cut.tail)⟩ : Query)) =
          some query ↔
      IsCount cut.digits ∧ cut.Says query := by
  constructor
  · intro h
    rcases Option.map_eq_some_iff.mp h with ⟨count, hcount, rfl⟩
    rcases count?_eq_some_iff.mp hcount with ⟨hrange, hvalue⟩
    exact ⟨hrange, hkind, ⟨count, rfl, hvalue⟩, firstMonth?_words_eq_iff.mp rfl,
      firstYear?_words_eq_iff.mp rfl⟩
  · rintro ⟨hrange, h⟩
    rcases h.count with ⟨count, hcount, hvalue⟩
    have hsame : query.kind = kind := Option.some.inj
      ((ranking?_eq_some_iff.mpr h.kind).symm.trans (ranking?_eq_some_iff.mpr hkind))
    rw [count?_eq_some_iff.mpr ⟨hrange, hvalue⟩, firstMonth?_words_eq_iff.mpr h.month,
      firstYear?_words_eq_iff.mpr h.year, Option.map_some]
    cases query
    cases hsame
    cases hcount
    rfl

/-!
## The three cases

A text has no ranking keyword, or no digits after the leftmost one, or a leftmost cut.
-/

theorem ranked?_of_no_keyword {text : List Char}
    (h : ∀ before word after, Stands text before word after → ∀ kind, ¬NamesRanking word kind) :
    ranked? text = none := by
  unfold ranked?
  rw [(firstWord?_eq_none_iff fun _ _ => ranking?_eq_some_iff).mpr h]

theorem firstWord?_ranking?_of_standsFirst {text before keyword after : List Char} {kind : Kind}
    (h : StandsFirst (fun word _ => ∃ kind, NamesRanking word kind) text before keyword after)
    (hkind : NamesRanking keyword kind) :
    firstWord? ranking? (pieces text) = some (kind, pieces after) :=
  (firstWord?_eq_some_iff fun _ _ => ranking?_eq_some_iff).mpr
    ⟨before, keyword, after, h, hkind, rfl⟩

theorem ranked?_of_no_digits {text before keyword after : List Char}
    (h : StandsFirst (fun word _ => ∃ kind, NamesRanking word kind) text before keyword after)
    (hnone : ∀ c ∈ after, isDigit c = false) : ranked? text = none := by
  rcases h.holds with ⟨kind, hkind⟩
  unfold ranked?
  simp only [firstWord?_ranking?_of_standsFirst h hkind, join_pieces,
    firstDigits?_eq_none_iff.mpr hnone]

theorem ranked?_of_isLeftmost {text : List Char} {cut : RankedCut} (h : cut.IsLeftmost text)
    {kind : Kind} (hkind : NamesRanking cut.keyword kind) :
    ranked? text = (count? cut.digits).map fun count =>
      ⟨kind, some count, firstMonth? (words cut.tail), firstYear? (words cut.tail)⟩ := by
  have hdigits : firstDigits? cut.after = some (cut.digits, cut.tail) :=
    firstDigits?_eq_some_iff.mpr ⟨cut.between, rfl, h.digits⟩
  unfold ranked?
  simp only [firstWord?_ranking?_of_standsFirst h.keyword hkind, join_pieces, hdigits]

theorem exists_isLeftmost (text : List Char) :
    (∀ before word after, Stands text before word after → ∀ kind, ¬NamesRanking word kind) ∨
      (∃ before keyword after,
        StandsFirst (fun word _ => ∃ kind, NamesRanking word kind) text before keyword after ∧
          ∀ c ∈ after, isDigit c = false) ∨
      ∃ cut : RankedCut, cut.IsLeftmost text := by
  cases hfirst : firstWord? ranking? (pieces text) with
  | none =>
      exact Or.inl ((firstWord?_eq_none_iff fun _ _ => ranking?_eq_some_iff).mp hfirst)
  | some found =>
      right
      rcases (firstWord?_eq_some_iff fun _ _ => ranking?_eq_some_iff).mp hfirst with
        ⟨before, keyword, after, hkeyword, -, -⟩
      cases hdigits : firstDigits? after with
      | none =>
          exact Or.inl ⟨before, keyword, after, hkeyword, firstDigits?_eq_none_iff.mp hdigits⟩
      | some split =>
          rcases firstDigits?_eq_some_iff.mp hdigits with ⟨between, rfl, hrun⟩
          exact Or.inr ⟨⟨before, keyword, between, split.1, split.2⟩, hkeyword, hrun⟩

theorem ranked?_eq_some_iff {text : List Char} {query : Query} :
    ranked? text = some query ↔
      ∃ cut : RankedCut, cut.IsLeftmost text ∧ IsCount cut.digits ∧ cut.Says query := by
  constructor
  · intro h
    rcases exists_isLeftmost text with hnone | ⟨before, keyword, after, hfirst, hnone⟩ | ⟨cut, hcut⟩
    · rw [ranked?_of_no_keyword hnone] at h
      cases h
    · rw [ranked?_of_no_digits hfirst hnone] at h
      cases h
    · rcases hcut.keyword.holds with ⟨kind, hkind⟩
      rw [ranked?_of_isLeftmost hcut hkind] at h
      exact ⟨cut, hcut, (says_iff hkind).mp h⟩
  · rintro ⟨cut, hcut, hsays⟩
    rw [ranked?_of_isLeftmost hcut hsays.2.kind]
    exact (says_iff hsays.2.kind).mpr hsays

/-- A text is a ranked command if there are digits after its leftmost keyword and the first run of
them writes a number from one on that fits 32 bits.  The query has the kind of that keyword, that
number, and the month and the year that are named first in what follows the run.  This keyword and
this run are the ones that are tried first. -/
theorem ranked?_leftmost_parts (text : List Char) :
    (∀ query, ranked? text = some query ↔
      ∃ cut : RankedCut, cut.IsLeftmost text ∧ IsCount cut.digits ∧ cut.Says query) ∧
    (ranked? text = none ↔
      (∀ before word after, Stands text before word after → ∀ kind, ¬NamesRanking word kind) ∨
      (∃ before keyword after,
        StandsFirst (fun word _ => ∃ kind, NamesRanking word kind) text before keyword after ∧
          ∀ c ∈ after, isDigit c = false) ∨
      ∃ cut : RankedCut, cut.IsLeftmost text ∧
        (placeValue cut.digits = 0 ∨ UInt32.size ≤ placeValue cut.digits)) ∧
    ∀ cut : RankedCut, cut.IsLeftmost text ↔
      cut.Fits text ∧
        ∀ other : RankedCut, other.Fits text → other = cut ∨ cut.TriedBefore other := by
  refine ⟨fun query => ranked?_eq_some_iff, ?_, fun cut => RankedCut.isLeftmost_iff⟩
  have hunusable (digits : List Char) :
      ¬IsCount digits ↔ placeValue digits = 0 ∨ UInt32.size ≤ placeValue digits := by
    unfold IsCount
    omega
  constructor
  · intro h
    rcases exists_isLeftmost text with hnone | hnone | ⟨cut, hcut⟩
    · exact Or.inl hnone
    · exact Or.inr (Or.inl hnone)
    · rcases hcut.keyword.holds with ⟨kind, hkind⟩
      rw [ranked?_of_isLeftmost hcut hkind, Option.map_eq_none_iff, count?_eq_none_iff] at h
      exact Or.inr (Or.inr ⟨cut, hcut, (hunusable cut.digits).mp h⟩)
  · rintro (hnone | ⟨before, keyword, after, hfirst, hnone⟩ | ⟨cut, hcut, hvalue⟩)
    · exact ranked?_of_no_keyword hnone
    · exact ranked?_of_no_digits hfirst hnone
    · rcases hcut.keyword.holds with ⟨kind, hkind⟩
      rw [ranked?_of_isLeftmost hcut hkind, Option.map_eq_none_iff, count?_eq_none_iff]
      exact (hunusable cut.digits).mpr hvalue

end Command
end SpokenSales
