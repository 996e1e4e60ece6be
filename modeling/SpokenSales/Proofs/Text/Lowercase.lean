import SpokenSales.Proofs.Text.LowerMap
import SpokenSales.Text.Lowercase

/-!
# Lowercase texts

Lowercasing looks at the neighbours of a letter only for the form of the small sigma.  Therefore
a text can be cut at any character that case rules neither skip nor give a case, and it can be
cut anywhere if the two forms of the small sigma are taken to be the same.
-/

namespace SpokenSales
namespace Text

/-!
## One character at a time

A text is put into lower case by putting one character after another into lower case.
-/

/-- The lowercase form of a character between `before`, nearest character first, and `after`. -/
def lowerIn (before : List Char) (c : Char) (after : List Char) : List Char :=
  if c = 'Σ' then [lowerSigma before after]
  else if c = 'İ' then ['i', '\u0307']
  else [lowerChar c]

theorem lowercaseAfter_cons (before : List Char) (c : Char) (rest : List Char) :
    lowercaseAfter before (c :: rest) =
      lowerIn before c rest ++ lowercaseAfter (c :: before) rest := by
  conv =>
    lhs
    unfold lowercaseAfter
  unfold lowerIn
  split
  · rfl
  · split <;> rfl

theorem lowerIn_eq_lowerChar {c : Char} (hsigma : c ≠ 'Σ') (hdot : c ≠ 'İ')
    (before after : List Char) : lowerIn before c after = [lowerChar c] := by
  unfold lowerIn
  rw [if_neg hsigma, if_neg hdot]

theorem lowerIn_of_isAscii {c : Char} (hc : isAscii c = true) (before after : List Char) :
    lowerIn before c after = [c.toLower] := by
  rw [lowerIn_eq_lowerChar _ _ before after, lowerChar_of_isAscii hc]
  · intro heq
    rw [heq] at hc
    exact absurd hc (by decide)
  · intro heq
    rw [heq] at hc
    exact absurd hc (by decide)

theorem lowercase_of_isAscii {text : List Char} (h : ∀ c ∈ text, isAscii c = true) :
    lowercase text = text.map Char.toLower := by
  unfold lowercase
  generalize ([] : List Char) = before
  induction text generalizing before with
  | nil =>
      rfl
  | cons c rest ih =>
      rw [lowercaseAfter_cons, lowerIn_of_isAscii (h c List.mem_cons_self), List.map_cons,
        ih fun d hd => h d (List.mem_cons_of_mem c hd)]
      rfl

/-!
## Texts in lower case

A text of which no character changes is its own lowercase form.  Lowercase forms are such texts.
-/

def IsLower (c : Char) : Prop :=
  lowerChar c = c ∧ c ≠ 'Σ' ∧ c ≠ 'İ'

theorem isLower_of_lowerChar_eq {c : Char} (h : lowerChar c = c) (hdot : c ≠ 'İ') : IsLower c := by
  refine ⟨h, ?_, hdot⟩
  intro hsigma
  rw [hsigma] at h
  exact absurd h (by decide)

theorem isLower_of_mem_lowerIn {before after : List Char} {c d : Char}
    (h : d ∈ lowerIn before c after) : IsLower d := by
  unfold lowerIn at h
  split at h
  · rw [List.mem_singleton.mp h]
    unfold lowerSigma
    split
    · exact isLower_of_lowerChar_eq (by decide) (by decide)
    · exact isLower_of_lowerChar_eq (by decide) (by decide)
  · rename_i hsigma
    split at h
    · rcases List.mem_cons.mp h with hi | hdot
      · rw [hi]
        exact isLower_of_lowerChar_eq (by decide) (by decide)
      · rw [List.mem_singleton.mp hdot]
        exact isLower_of_lowerChar_eq (by decide) (by decide)
    · rename_i hdot
      rw [List.mem_singleton.mp h]
      exact isLower_of_lowerChar_eq (lowerChar_lowerChar c) (lowerChar_ne_dottedI hdot)

theorem isLower_of_mem_lowercase {text : List Char} {d : Char} (h : d ∈ lowercase text) :
    IsLower d := by
  unfold lowercase at h
  generalize ([] : List Char) = before at h
  induction text generalizing before with
  | nil =>
      cases h
  | cons c rest ih =>
      rw [lowercaseAfter_cons] at h
      rcases List.mem_append.mp h with hfirst | hrest
      · exact isLower_of_mem_lowerIn hfirst
      · exact ih (c :: before) hrest

theorem lowercase_eq_self {text : List Char} (h : ∀ c ∈ text, IsLower c) :
    lowercase text = text := by
  unfold lowercase
  generalize ([] : List Char) = before
  induction text generalizing before with
  | nil =>
      rfl
  | cons c rest ih =>
      rcases h c List.mem_cons_self with ⟨hself, hsigma, hdot⟩
      rw [lowercaseAfter_cons, lowerIn_eq_lowerChar hsigma hdot, hself,
        ih fun d hd => h d (List.mem_cons_of_mem c hd)]
      rfl

/-!
## Cutting at a caseless character

The search for the neighbours of a sigma stops at a character that is neither cased nor skipped.
-/

/-- Whether a character is neither cased nor skipped by case rules. -/
def isCaseless (c : Char) : Bool :=
  !isCased c && !isCaseIgnorable c

theorem startsCased_cons (c : Char) (text : List Char) :
    startsCased (c :: text) = if isCaseIgnorable c then startsCased text else isCased c := by
  unfold startsCased
  rw [List.dropWhile_cons]
  by_cases hc : isCaseIgnorable c = true
  · rw [if_pos hc, if_pos hc]
  · rw [if_neg hc, if_neg hc]

theorem startsCased_append_caseless {c : Char} (hc : isCaseless c = true)
    (text rest : List Char) : startsCased (text ++ c :: rest) = startsCased text := by
  simp only [isCaseless, Bool.and_eq_true, Bool.not_eq_true'] at hc
  induction text with
  | nil =>
      rw [List.nil_append, startsCased_cons, hc.1, hc.2]
      rfl
  | cons d text ih =>
      rw [List.cons_append, startsCased_cons, startsCased_cons, ih]

theorem lowerIn_append_caseless {b : Char} (hb : isCaseless b = true)
    (before more : List Char) (c : Char) (after : List Char) :
    lowerIn (before ++ b :: more) c after = lowerIn before c after := by
  unfold lowerIn lowerSigma
  rw [startsCased_append_caseless hb]

theorem lowerIn_caseless_append {b : Char} (hb : isCaseless b = true)
    (before : List Char) (c : Char) (after more : List Char) :
    lowerIn before c (after ++ b :: more) = lowerIn before c after := by
  unfold lowerIn lowerSigma
  rw [startsCased_append_caseless hb]

theorem lowercaseAfter_append_caseless {b : Char} (hb : isCaseless b = true)
    (before more text : List Char) :
    lowercaseAfter (before ++ b :: more) text = lowercaseAfter before text := by
  induction text generalizing before with
  | nil =>
      rfl
  | cons c text ih =>
      rw [lowercaseAfter_cons, lowercaseAfter_cons, lowerIn_append_caseless hb,
        ← List.cons_append, ih]

theorem lowercaseAfter_caseless_append {b : Char} (hb : isCaseless b = true)
    (before text rest : List Char) :
    lowercaseAfter before (text ++ b :: rest) =
      lowercaseAfter before text ++ lowercaseAfter (text.reverse ++ before) (b :: rest) := by
  induction text generalizing before with
  | nil =>
      rfl
  | cons c text ih =>
      rw [List.cons_append, lowercaseAfter_cons, lowercaseAfter_cons, lowerIn_caseless_append hb,
        ih, List.append_assoc, List.reverse_cons, List.append_assoc, List.singleton_append]

theorem lowercase_append_caseless {b : Char} (hb : isCaseless b = true)
    (text rest : List Char) :
    lowercase (text ++ b :: rest) = lowercase text ++ lowerChar b :: lowercase rest := by
  have hsigma : b ≠ 'Σ' := by
    intro heq
    rw [heq] at hb
    exact absurd hb (by decide)
  have hdot : b ≠ 'İ' := by
    intro heq
    rw [heq] at hb
    exact absurd hb (by decide)
  have hrest := lowercaseAfter_append_caseless hb [] text.reverse rest
  unfold lowercase
  rw [lowercaseAfter_caseless_append hb, lowercaseAfter_cons, lowerIn_eq_lowerChar hsigma hdot,
    List.append_nil]
  rw [List.nil_append] at hrest
  rw [hrest, List.singleton_append]

/-!
## Cutting anywhere

The two forms of the small sigma are all that a cut can change.
-/

def plainSigma (c : Char) : Char :=
  if c = 'ς' then 'σ' else c

/-- The lowercase form of a text in which every character stands alone. -/
def lowercaseApart (text : List Char) : List Char :=
  text.flatMap fun c => lowerIn [] c []

@[simp] theorem lowercaseApart_append (text rest : List Char) :
    lowercaseApart (text ++ rest) = lowercaseApart text ++ lowercaseApart rest :=
  List.flatMap_append

@[simp] theorem lowercaseApart_cons (c : Char) (rest : List Char) :
    lowercaseApart (c :: rest) = lowerIn [] c [] ++ lowercaseApart rest := rfl

theorem map_plainSigma_lowerIn (before : List Char) (c : Char) (after : List Char) :
    (lowerIn before c after).map plainSigma = (lowerIn [] c []).map plainSigma := by
  unfold lowerIn lowerSigma
  split
  · split <;> rfl
  · rfl

theorem map_plainSigma_lowercase (text : List Char) :
    (lowercase text).map plainSigma = (lowercaseApart text).map plainSigma := by
  unfold lowercase
  generalize ([] : List Char) = before
  induction text generalizing before with
  | nil =>
      rfl
  | cons c rest ih =>
      rw [lowercaseAfter_cons, lowercaseApart_cons, List.map_append, List.map_append,
        map_plainSigma_lowerIn, ih]

theorem lowercaseApart_of_isAscii {text : List Char} (h : ∀ c ∈ text, isAscii c = true) :
    lowercaseApart text = text.map Char.toLower := by
  induction text with
  | nil =>
      rfl
  | cons c rest ih =>
      rw [lowercaseApart_cons, lowerIn_of_isAscii (h c List.mem_cons_self), List.map_cons,
        ih fun d hd => h d (List.mem_cons_of_mem c hd)]
      rfl

end Text
end SpokenSales
