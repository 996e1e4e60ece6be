import SpokenSales.Text.Decimal
import SpokenSales.Text.LowerMap

/-!
# Lowercase letters

On ASCII the lowercase map is the familiar one.  Everywhere it leads to letters that it does not
change again.
-/

namespace SpokenSales
namespace Text

theorem toNat_ofNat_of_isValidChar {n : Nat} (h : n.isValidChar) : (Char.ofNat n).toNat = n := by
  unfold Char.ofNat
  rw [dif_pos h]
  rfl

/-!
## ASCII characters

Facts about the 128 ASCII characters are decided one by one.
-/

def isAscii (c : Char) : Bool :=
  c.toNat < 128

theorem forall_ascii {p : Char → Prop} (all : ∀ n ∈ List.range 128, p (Char.ofNat n))
    {c : Char} (hc : isAscii c = true) : p c := by
  have hlt : c.toNat < 128 := by
    simpa [isAscii] using hc
  have hp := all c.toNat (List.mem_range.mpr hlt)
  rwa [Char.ofNat_toNat] at hp

theorem lowerChar_of_isAscii {c : Char} (hc : isAscii c = true) : lowerChar c = c.toLower :=
  forall_ascii (p := fun c => lowerChar c = c.toLower) (by decide +kernel) hc

theorem isAscii_of_isAscii_toLower {c : Char} (h : isAscii c.toLower = true) :
    isAscii c = true := by
  unfold Char.toLower at h
  split at h
  · rename_i hupper
    have hle : c.toNat ≤ 90 := hupper.2
    simp only [isAscii, decide_eq_true_eq]
    omega
  · exact h

theorem isAscii_of_le {c d : Char} (hd : isAscii d = true) (h : c ≤ d) : isAscii c = true := by
  have hle : c.toNat ≤ d.toNat := h
  simp only [isAscii, decide_eq_true_eq] at hd ⊢
  omega

theorem isAscii_of_isDigit {c : Char} (h : isDigit c = true) : isAscii c = true := by
  simp only [isDigit, Bool.and_eq_true, decide_eq_true_eq] at h
  exact isAscii_of_le (by decide) h.2

/-!
## The lowercase map

A character that the map changes lies in a run.  No lowercase letter of a run is an uppercase
letter of any run, so that lowercase letters stay what they are.
-/

theorem lowerPoint?_eq_some {runs : List CaseRun} {n m : Nat} (h : lowerPoint? n runs = some m) :
    ∃ run ∈ runs, run.first ≤ n ∧ n ≤ run.last ∧ (n - run.first) % run.stride = 0 ∧
      m = run.target + (n - run.first) := by
  induction runs with
  | nil =>
      cases h
  | cons run rest ih =>
      unfold lowerPoint? at h
      split at h
      · cases h
      · rename_i hfirst
        split at h
        · rename_i hlast
          split at h
          · rename_i hstride
            cases h
            exact ⟨run, List.mem_cons_self, Nat.le_of_not_lt hfirst, hlast, hstride, rfl⟩
          · cases h
        · rcases ih h with ⟨found, hmem, hfound⟩
          exact ⟨found, List.mem_cons_of_mem run hmem, hfound⟩

/-- No lowercase letter of a run is an uppercase letter of the other runs: each of these ends below
the lowercase letters or interleaves with them, up to one that begins above them. -/
def CaseRun.avoids (run : CaseRun) : List CaseRun → Bool
  | [] => true
  | other :: rest =>
      bif Nat.blt other.last run.target then run.avoids rest
      else Nat.blt (run.target + (run.last - run.first)) other.first ||
        (Nat.beq other.stride 2 && (Nat.beq run.stride 2 || Nat.beq run.first run.last) &&
          Nat.beq ((run.target + other.first) % 2) 1 && run.avoids rest)

/-- The lowercase letters of a run are code points of characters, and not that of `İ`, the one
character besides `Σ` that has a rule of its own. -/
def CaseRun.isSound (run : CaseRun) : Bool :=
  (Nat.blt (run.target + (run.last - run.first)) 0xD800 || Nat.blt 0xDFFF run.target) &&
    Nat.blt (run.target + (run.last - run.first)) 0x110000 &&
    (Nat.blt (run.target + (run.last - run.first)) 0x130 || Nat.blt 0x130 run.target)

theorem caseRuns_avoids : (caseRuns.all fun run => run.avoids caseRuns) = true := by
  decide +kernel

theorem caseRuns_isSound : caseRuns.all CaseRun.isSound = true := by
  decide +kernel

theorem lowerPoint?_of_avoids {run : CaseRun} {runs : List CaseRun} (h : run.avoids runs = true)
    {n : Nat} (hfirst : run.first ≤ n) (hlast : n ≤ run.last)
    (hstride : (n - run.first) % run.stride = 0) :
    lowerPoint? (run.target + (n - run.first)) runs = none := by
  induction runs with
  | nil =>
      rfl
  | cons other rest ih =>
      unfold CaseRun.avoids at h
      unfold lowerPoint?
      cases hbelow : Nat.blt other.last run.target with
      | true =>
          rw [hbelow, cond_true] at h
          rw [Nat.blt_eq] at hbelow
          rw [ih h, if_neg (by omega : ¬run.target + (n - run.first) ≤ other.last)]
          split <;> rfl
      | false =>
          rw [hbelow, cond_false] at h
          rcases Bool.or_eq_true_iff.mp h with habove | hinterleaved
          · rw [Nat.blt_eq] at habove
            rw [if_pos (by omega)]
          · simp only [Bool.and_eq_true, Bool.or_eq_true, Nat.beq_eq] at hinterleaved
            rcases hinterleaved with ⟨⟨⟨htwo, hsame⟩, hodd⟩, hrest⟩
            have hparity : (n - run.first) % 2 = 0 := by
              rcases hsame with hrun | hsingle
              · rw [hrun] at hstride
                exact hstride
              · omega
            split
            · rfl
            · split
              · rw [htwo, if_neg (by omega)]
              · exact ih hrest

theorem lowerPoint?_lowerPoint? {n m : Nat} (h : lowerPoint? n caseRuns = some m) :
    lowerPoint? m caseRuns = none := by
  rcases lowerPoint?_eq_some h with ⟨run, hrun, hfirst, hlast, hstride, hm⟩
  rw [hm]
  exact lowerPoint?_of_avoids (List.all_eq_true.mp caseRuns_avoids run hrun) hfirst hlast hstride

theorem toNat_lowerChar {c : Char} {m : Nat} (h : lowerPoint? c.toNat caseRuns = some m) :
    (lowerChar c).toNat = m ∧ m ≠ 'İ'.toNat := by
  rcases lowerPoint?_eq_some h with ⟨run, hrun, hfirst, hlast, -, hm⟩
  have hsound : run.isSound = true := List.all_eq_true.mp caseRuns_isSound run hrun
  simp only [CaseRun.isSound, Bool.or_eq_true, Bool.and_eq_true, Nat.blt_eq] at hsound
  have hvalid : m.isValidChar := by
    unfold Nat.isValidChar
    omega
  have hdot : m ≠ 0x130 := by
    omega
  refine ⟨?_, hdot⟩
  unfold lowerChar
  rw [h]
  exact toNat_ofNat_of_isValidChar hvalid

theorem lowerChar_lowerChar (c : Char) : lowerChar (lowerChar c) = lowerChar c := by
  cases h : lowerPoint? c.toNat caseRuns with
  | none =>
      have hself : lowerChar c = c := by
        unfold lowerChar
        rw [h]
      rw [hself, hself]
  | some m =>
      have hm := (toNat_lowerChar h).1
      have hnone : lowerPoint? (lowerChar c).toNat caseRuns = none := by
        rw [hm]
        exact lowerPoint?_lowerPoint? h
      generalize lowerChar c = d at hnone
      unfold lowerChar
      rw [hnone]

theorem lowerChar_ne_dottedI {c : Char} (hc : c ≠ 'İ') : lowerChar c ≠ 'İ' := by
  intro hdot
  cases h : lowerPoint? c.toNat caseRuns with
  | none =>
      unfold lowerChar at hdot
      rw [h] at hdot
      exact hc hdot
  | some m =>
      rcases toNat_lowerChar h with ⟨hm, hne⟩
      rw [hdot] at hm
      exact hne hm.symm

end Text
end SpokenSales
