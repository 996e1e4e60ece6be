import SpokenSales.Proofs.Text.LowerMap
import SpokenSales.Text.WordChar

/-!
# Word characters in lower case

The table of word characters and the lowercase map agree on what a word is, with the exception of
two capital letters that the table does not know yet while it knows their lowercase letters.
-/

namespace SpokenSales
namespace Text

/-!
## Ascending ranges
-/

def ascendFrom (bound : Nat) : List (Nat × Nat) → Bool
  | [] => true
  | range :: rest =>
      Nat.ble bound range.1 && Nat.ble range.1 range.2 && ascendFrom (range.2 + 1) rest

theorem bound_le_of_ascendFrom {bound : Nat} {ranges : List (Nat × Nat)}
    (h : ascendFrom bound ranges = true) : ∀ range ∈ ranges, bound ≤ range.1 := by
  induction ranges generalizing bound with
  | nil =>
      intro range hrange
      cases hrange
  | cons head rest ih =>
      unfold ascendFrom at h
      simp only [Bool.and_eq_true, Nat.ble_eq] at h
      intro range hrange
      rcases List.mem_cons.mp hrange with heq | hmem
      · rw [heq]
        exact h.1.1
      · have hle := ih h.2 range hmem
        omega

theorem within_of_ascendFrom {bound n : Nat} {ranges : List (Nat × Nat)}
    (h : ascendFrom bound ranges = true) {range : Nat × Nat} (hrange : range ∈ ranges)
    (hfirst : range.1 ≤ n) (hlast : n ≤ range.2) : within n ranges = true := by
  induction ranges generalizing bound with
  | nil =>
      cases hrange
  | cons head rest ih =>
      unfold ascendFrom at h
      simp only [Bool.and_eq_true, Nat.ble_eq] at h
      unfold within
      rcases List.mem_cons.mp hrange with heq | hmem
      · rw [← heq, if_neg (Nat.not_lt_of_le hfirst), if_pos hlast]
      · have habove := bound_le_of_ascendFrom h.2 range hmem
        rw [if_neg (by omega), if_neg (by omega)]
        exact ih h.2 hmem

theorem exists_range_of_within {n : Nat} {ranges : List (Nat × Nat)}
    (h : within n ranges = true) : ∃ range ∈ ranges, range.1 ≤ n ∧ n ≤ range.2 := by
  induction ranges with
  | nil =>
      cases h
  | cons range rest ih =>
      unfold within at h
      split at h
      · cases h
      · rename_i hfirst
        split at h
        · rename_i hlast
          exact ⟨range, List.mem_cons_self, Nat.le_of_not_lt hfirst, hlast⟩
        · rcases ih h with ⟨found, hmem, hfound⟩
          exact ⟨found, List.mem_cons_of_mem range hmem, hfound⟩

theorem wordRanges_ascend : ascendFrom 0 wordRanges = true := by
  decide +kernel

/-!
## Capital letters outside words

Nearly every run of capital letters lies inside one range of word characters.  The few others are
looked at letter by letter.
-/

def CaseRun.isInside (run : CaseRun) (range : Nat × Nat) : Bool :=
  Nat.ble range.1 run.first && Nat.ble run.last range.2

/-- The runs that are found in no range when runs and ranges are gone through in step. -/
def outsiders : List (Nat × Nat) → List CaseRun → List CaseRun
  | [], runs => runs
  | range :: rest, runs =>
      let from? := runs.dropWhile fun run => Nat.blt run.first range.1
      (runs.takeWhile fun run => Nat.blt run.first range.1) ++
        outsiders rest (from?.dropWhile fun run => run.isInside range)

theorem mem_outsiders (ranges : List (Nat × Nat)) {runs : List CaseRun} {run : CaseRun}
    (h : run ∈ runs) :
    run ∈ outsiders ranges runs ∨ ∃ range ∈ ranges, run.isInside range = true := by
  induction ranges generalizing runs with
  | nil =>
      exact Or.inl h
  | cons range rest ih =>
      unfold outsiders
      rw [← List.takeWhile_append_dropWhile (p := fun run => Nat.blt run.first range.1) (l := runs),
        List.mem_append] at h
      rcases h with hbelow | hfrom
      · exact Or.inl (List.mem_append_left _ hbelow)
      · rw [← List.takeWhile_append_dropWhile (p := fun run => run.isInside range)
          (l := runs.dropWhile fun run => Nat.blt run.first range.1), List.mem_append] at hfrom
        rcases hfrom with hinside | habove
        · have hall := List.all_eq_true.mp List.all_takeWhile run hinside
          exact Or.inr ⟨range, List.mem_cons_self, hall⟩
        · rcases ih habove with hout | ⟨range', hrange', hinside⟩
          · exact Or.inl (List.mem_append_right _ hout)
          · exact Or.inr ⟨range', List.mem_cons_of_mem range hrange', hinside⟩

/-- The characters that belong to words only in lower case. -/
def lateLetters : List Char :=
  ['\uA7D2', '\uA7D4']

def isListed (n : Nat) : Bool :=
  wordRanges.any fun range => Nat.ble range.1 n && Nat.ble n range.2

/-- Whether no lowercase letter of a run lies in a range of word characters. -/
def CaseRun.missesWords (run : CaseRun) : Bool :=
  wordRanges.all fun range =>
    Nat.blt range.2 run.target || Nat.blt (run.target + (run.last - run.first)) range.1

/-- Whether a letter of a run is a word character or a late letter, or is none in lower case. -/
def CaseRun.keepsGap (run : CaseRun) (offset : Nat) : Bool :=
  !Nat.beq (offset % run.stride) 0 || isListed (run.first + offset) ||
    (lateLetters.any fun c => Nat.beq c.toNat (run.first + offset)) ||
    !isListed (run.target + offset)

def CaseRun.keepsGaps (run : CaseRun) : Bool :=
  run.missesWords || (List.range (run.last - run.first + 1)).all run.keepsGap

theorem outsiders_eq : outsiders wordRanges caseRuns =
    [⟨0x1F59, 0x1F5F, 2, 0x1F51⟩, ⟨0xA7CC, 0xA7DA, 2, 0xA7CD⟩, ⟨0x16EA0, 0x16EB8, 1, 0x16EBB⟩] := by
  decide +kernel

theorem outsiders_keepGaps : (outsiders wordRanges caseRuns).all CaseRun.keepsGaps = true := by
  rw [outsiders_eq]
  decide +kernel

theorem within_iff_isListed (n : Nat) : within n wordRanges = true ↔ isListed n = true := by
  constructor
  · intro h
    rcases exists_range_of_within h with ⟨range, hrange, hfirst, hlast⟩
    apply List.any_eq_true.mpr
    refine ⟨range, hrange, ?_⟩
    simp only [Bool.and_eq_true, Nat.ble_eq]
    exact ⟨hfirst, hlast⟩
  · intro h
    rcases List.any_eq_true.mp h with ⟨range, hrange, hin⟩
    simp only [Bool.and_eq_true, Nat.ble_eq] at hin
    exact within_of_ascendFrom wordRanges_ascend hrange hin.1 hin.2

theorem isWordChar_or_late_of_keepsGap {run : CaseRun} {c : Char} {offset : Nat}
    (hoffset : c.toNat = run.first + offset) (hstride : offset % run.stride = 0)
    (hword : within (run.target + offset) wordRanges = true) (h : run.keepsGap offset = true) :
    isWordChar c = true ∨ c ∈ lateLetters := by
  have hzero : (!Nat.beq 0 0) = false := rfl
  unfold CaseRun.keepsGap at h
  rw [hstride, hzero, ← hoffset, (within_iff_isListed _).mp hword, Bool.false_or, Bool.not_true,
    Bool.or_false] at h
  rcases Bool.or_eq_true_iff.mp h with hlisted | hlate
  · exact Or.inl ((within_iff_isListed c.toNat).mpr hlisted)
  · rcases List.any_eq_true.mp hlate with ⟨late, hmem, heq⟩
    have hchar : late = c := Char.toNat_inj.mp (Nat.eq_of_beq_eq_true heq)
    rw [hchar] at hmem
    exact Or.inr hmem

theorem isWordChar_or_late_of_keepsGaps {run : CaseRun} {c : Char}
    (hfirst : run.first ≤ c.toNat) (hlast : c.toNat ≤ run.last)
    (hstride : (c.toNat - run.first) % run.stride = 0)
    (hword : within (run.target + (c.toNat - run.first)) wordRanges = true)
    (h : run.keepsGaps = true) : isWordChar c = true ∨ c ∈ lateLetters := by
  have hoffset : c.toNat = run.first + (c.toNat - run.first) := by
    omega
  rcases Bool.or_eq_true_iff.mp h with hmisses | hletters
  · rcases exists_range_of_within hword with ⟨range, hrange, hfirst', hlast'⟩
    have hmiss := List.all_eq_true.mp hmisses range hrange
    simp only [Bool.or_eq_true, Nat.blt_eq] at hmiss
    omega
  · have hin : c.toNat - run.first ∈ List.range (run.last - run.first + 1) :=
      List.mem_range.mpr (by omega)
    exact isWordChar_or_late_of_keepsGap hoffset hstride hword
      (List.all_eq_true.mp hletters _ hin)

theorem isWordChar_lowerChar {c : Char} (hgap : isWordChar c = false) (hlate : c ∉ lateLetters) :
    isWordChar (lowerChar c) = false := by
  apply Bool.eq_false_iff.mpr
  intro hword
  have hneither : ¬(isWordChar c = true ∨ c ∈ lateLetters) := by
    intro heither
    rcases heither with hchar | hmem
    · rw [hgap] at hchar
      cases hchar
    · exact hlate hmem
  apply hneither
  cases h : lowerPoint? c.toNat caseRuns with
  | none =>
      have hself : lowerChar c = c := by
        unfold lowerChar
        rw [h]
      rw [hself] at hword
      exact Or.inl hword
  | some m =>
      rcases lowerPoint?_eq_some h with ⟨run, hrun, hfirst, hlast, hstride, hm⟩
      rcases mem_outsiders wordRanges hrun with houtsider | ⟨range, hrange, hinside⟩
      · unfold isWordChar at hword
        rw [(toNat_lowerChar h).1, hm] at hword
        exact isWordChar_or_late_of_keepsGaps hfirst hlast hstride hword
          (List.all_eq_true.mp outsiders_keepGaps run houtsider)
      · simp only [CaseRun.isInside, Bool.and_eq_true, Nat.ble_eq] at hinside
        exact Or.inl (within_of_ascendFrom wordRanges_ascend hrange (by omega) (by omega))

end Text
end SpokenSales
