import Mathlib.Data.List.Forall2
import SpokenSales.Proofs.Command.Vocabulary

/-!
# Spelling without regard to case

To ignore case is not the same as to put a text into lower case: the long s counts as an s, but it
is a small letter already and stays what it is.  What is a word of small ASCII letters in lower case
spells this word, and what spells it without a long s is this word in lower case.
-/

namespace SpokenSales

open Text Vocabulary

namespace Text

/-- Whether a character counts as a small ASCII letter if case is ignored.  Besides the letter
itself and its capital, this is the long s for an s, and the Kelvin sign for a k. -/
def isCaseOf (letter c : Char) : Bool :=
  c = letter || c = letter.toUpper || (letter = 's' && c = 'ſ') || (letter = 'k' && c = '\u212A')

def spelled? : List Char → List Char → Option (List Char)
  | [], _ => some []
  | _ :: _, [] => none
  | letter :: word, c :: text =>
      if isCaseOf letter c then (spelled? word text).map fun found => c :: found else none

/-- Whether a text is a word if case is ignored. -/
def Spells (word found : List Char) : Prop :=
  List.Forall₂ (fun letter c => isCaseOf letter c = true) word found

theorem spelled?_eq_some_iff {word text found : List Char} :
    spelled? word text = some found ↔ Spells word found ∧ found <+: text := by
  unfold Spells
  induction word generalizing text found with
  | nil =>
      rw [spelled?, Option.some_inj, List.forall₂_nil_left_iff]
      constructor
      · rintro rfl
        exact ⟨rfl, List.nil_prefix⟩
      · rintro ⟨rfl, -⟩
        rfl
  | cons letter word ih =>
      cases text with
      | nil =>
          rw [spelled?, List.prefix_nil]
          apply iff_of_false
          · intro h
            cases h
          · rintro ⟨hspells, rfl⟩
            cases hspells
      | cons c text =>
          rw [spelled?, Option.ite_none_right_eq_some, Option.map_eq_some_iff]
          simp only [ih]
          constructor
          · rintro ⟨hc, found, ⟨hspells, hprefix⟩, rfl⟩
            exact ⟨.cons hc hspells, List.cons_prefix_cons.mpr ⟨rfl, hprefix⟩⟩
          · rintro ⟨hspells, hprefix⟩
            cases hspells with
            | cons hc hspells =>
                rcases List.cons_prefix_cons.mp hprefix with ⟨rfl, hrest⟩
                exact ⟨hc, _, ⟨hspells, hrest⟩, rfl⟩

/-!
## Letters
-/

theorem of_isCaseOf {letter c : Char} (h : isCaseOf letter c = true) :
    c = letter ∨ c = letter.toUpper ∨ letter = 's' ∧ c = 'ſ' ∨ letter = 'k' ∧ c = '\u212A' := by
  simp only [isCaseOf, Bool.or_eq_true, Bool.and_eq_true, decide_eq_true_eq, or_assoc] at h
  exact h

theorem facts_of_toUpper {letter : Char} (h : isLetter letter = true) :
    isAscii letter.toUpper = true ∧ isWordChar letter.toUpper = true ∧
      letter.toUpper.toLower = letter :=
  forall_ascii (p := fun letter => isLetter letter = true → isAscii letter.toUpper = true ∧
      isWordChar letter.toUpper = true ∧ letter.toUpper.toLower = letter)
    (by decide +kernel) (isAscii_of_isLetter h) h

theorem isWordChar_of_isCaseOf {letter c : Char} (hletter : isLetter letter = true)
    (h : isCaseOf letter c = true) : isWordChar c = true := by
  rcases of_isCaseOf h with rfl | rfl | ⟨-, rfl⟩ | ⟨-, rfl⟩
  · exact isWordChar_of_isLetter hletter
  · exact (facts_of_toUpper hletter).2.1
  · decide +kernel
  · decide +kernel

theorem caseRuns_onto_ascii :
    (caseRuns.all fun run => Nat.ble 128 run.target || Nat.blt run.last 128 ||
      (Nat.beq run.first 0x212A && Nat.beq run.last 0x212A)) = true := by
  decide +kernel

theorem isAscii_or_kelvin_of_isAscii_lowerChar {c : Char} (h : isAscii (lowerChar c) = true) :
    isAscii c = true ∨ c = '\u212A' := by
  cases hpoint : lowerPoint? c.toNat caseRuns with
  | none =>
      have hself : lowerChar c = c := by
        unfold lowerChar
        rw [hpoint]
      rw [hself] at h
      exact Or.inl h
  | some m =>
      rcases lowerPoint?_eq_some hpoint with ⟨run, hrun, hfirst, hlast, -, hm⟩
      have honto := List.all_eq_true.mp caseRuns_onto_ascii run hrun
      simp only [Bool.or_eq_true, Bool.and_eq_true, Nat.ble_eq, Nat.blt_eq, Nat.beq_eq] at honto
      simp only [isAscii, decide_eq_true_eq, (toNat_lowerChar hpoint).1] at h ⊢
      rcases honto with (htarget | hascii) | hkelvin
      · omega
      · exact Or.inl (by omega)
      · have hc : c.toNat = 0x212A := by
          omega
        exact Or.inr (Char.toNat_inj.mp hc)

theorem isCaseOf_lowerChar {c : Char} (h : isLetter (lowerChar c) = true) :
    isCaseOf (lowerChar c) c = true := by
  rcases isAscii_or_kelvin_of_isAscii_lowerChar (isAscii_of_isLetter h) with hascii | rfl
  · rw [lowerChar_of_isAscii hascii] at h ⊢
    exact forall_ascii (p := fun c => isLetter c.toLower = true → isCaseOf c.toLower c = true)
      (by decide +kernel) hascii h
  · decide +kernel

/-!
## Words
-/

theorem Spells.isWord {word found : List Char} (h : Spells word found) (hne : word ≠ [])
    (hletters : ∀ letter ∈ word, isLetter letter = true) : IsWord found := by
  constructor
  · rintro rfl
    exact hne (List.forall₂_nil_right_iff.mp h)
  · clear hne
    induction h with
    | nil =>
        intro c hc
        cases hc
    | cons hc _ ih =>
        rcases List.forall_mem_cons.mp hletters with ⟨hletter, hletters⟩
        exact List.forall_mem_cons.mpr ⟨isWordChar_of_isCaseOf hletter hc, ih hletters⟩

theorem spells_lowercase {text : List Char} (h : ∀ c ∈ lowercase text, isLetter c = true) :
    Spells (lowercase text) text := by
  unfold lowercase at h ⊢
  generalize ([] : List Char) = before at h ⊢
  induction text generalizing before with
  | nil =>
      exact .nil
  | cons c rest ih =>
      rw [lowercaseAfter_cons] at h ⊢
      have hfirst : ∀ d ∈ lowerIn before c rest, isLetter d = true :=
        fun d hd => h d (List.mem_append_left _ hd)
      have hlower : lowerIn before c rest = [lowerChar c] := by
        -- A sigma does not become an ASCII letter, and a dotted I does not become letters only.
        apply lowerIn_eq_lowerChar
        · rintro rfl
          have hsigma := hfirst (lowerSigma before rest) (by simp [lowerIn])
          unfold lowerSigma at hsigma
          split at hsigma
          · exact absurd hsigma (by decide)
          · exact absurd hsigma (by decide)
        · rintro rfl
          exact absurd (hfirst '\u0307' (by simp [lowerIn])) (by decide)
      rw [hlower] at hfirst ⊢
      exact .cons (isCaseOf_lowerChar (hfirst _ List.mem_cons_self))
        (ih _ fun d hd => h d (List.mem_append_right _ hd))

/-!
## The long s
-/

theorem toLower_of_isCaseOf {letter c : Char} (hletter : isLetter letter = true)
    (hk : letter ≠ 'k') (hs : c ≠ 'ſ') (h : isCaseOf letter c = true) :
    isAscii c = true ∧ c.toLower = letter := by
  rcases of_isCaseOf h with rfl | rfl | ⟨-, heq⟩ | ⟨heq, -⟩
  · exact ⟨isAscii_of_isLetter hletter, toLower_of_isLetter hletter⟩
  · exact ⟨(facts_of_toUpper hletter).1, (facts_of_toUpper hletter).2.2⟩
  · exact absurd heq hs
  · exact absurd heq hk

theorem Spells.lowercase_eq {word found : List Char} (h : Spells word found)
    (hletters : ∀ letter ∈ word, isLetter letter = true) (hk : 'k' ∉ word) (hs : 'ſ' ∉ found) :
    lowercase found = word := by
  have hall : (∀ c ∈ found, isAscii c = true) ∧ found.map Char.toLower = word := by
    induction h with
    | nil =>
        exact ⟨List.forall_mem_nil _, rfl⟩
    | cons hc _ ih =>
        rcases List.forall_mem_cons.mp hletters with ⟨hletter, hletters⟩
        rw [List.mem_cons, not_or] at hk hs
        rcases toLower_of_isCaseOf hletter (Ne.symm hk.1) (Ne.symm hs.1) hc with ⟨hascii, hlower⟩
        rcases ih hletters hk.2 hs.2 with ⟨hrest, hmap⟩
        exact ⟨List.forall_mem_cons.mpr ⟨hascii, hrest⟩, by rw [List.map_cons, hlower, hmap]⟩
  rw [lowercase_of_isAscii hall.1, hall.2]

theorem mem_lowercase_of_isLower {text : List Char} {c : Char} (hc : IsLower c) (h : c ∈ text) :
    c ∈ lowercase text := by
  unfold lowercase
  generalize ([] : List Char) = before
  induction text generalizing before with
  | nil =>
      cases h
  | cons d rest ih =>
      rw [lowercaseAfter_cons]
      rcases List.mem_cons.mp h with heq | hmem
      · rw [← heq, lowerIn_eq_lowerChar hc.2.1 hc.2.2, hc.1]
        exact List.mem_append_left _ List.mem_cons_self
      · exact List.mem_append_right _ (ih hmem (d :: before))

end Text
end SpokenSales
