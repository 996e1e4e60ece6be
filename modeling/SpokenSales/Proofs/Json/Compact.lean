import SpokenSales.Proofs.Json.Skip

/-!
# Compact texts

What is written has no control characters, the line breaks among them, since strings escape them.
So a compact text stands on one line, and it is skipped as a value.  A list or an object is compact
if its parts are.
-/

namespace SpokenSales
namespace Json

open Text

/-- Whether a text has no control characters. -/
def OnOneLine (text : List Char) : Prop :=
  ∀ c ∈ text, Quoted.isPlain c = true

instance (text : List Char) : Decidable (OnOneLine text) :=
  List.decidableBAll (fun c => Quoted.isPlain c = true) text

theorem OnOneLine.not_mem_feed {text : List Char} (h : OnOneLine text) : '\n' ∉ text := by
  intro hmem
  exact absurd (h '\n' hmem) (by decide)

theorem OnOneLine.not_mem_return {text : List Char} (h : OnOneLine text) : '\r' ∉ text := by
  intro hmem
  exact absurd (h '\r' hmem) (by decide)

theorem onOneLine_cons {c : Char} {text : List Char} (hc : Quoted.isPlain c = true)
    (h : OnOneLine text) : OnOneLine (c :: text) :=
  List.forall_mem_cons.mpr ⟨hc, h⟩

theorem OnOneLine.append {text more : List Char} (h : OnOneLine text) (hmore : OnOneLine more) :
    OnOneLine (text ++ more) :=
  List.forall_mem_append.mpr ⟨h, hmore⟩

/-!
## Strings and numbers
-/

theorem isPlain_hexDigit {n : Nat} (h : n < 16) : Quoted.isPlain (hexDigit n) = true := by
  have all : ∀ m ∈ List.range 16, Quoted.isPlain (hexDigit m) = true := by decide
  exact all n (List.mem_range.mpr h)

theorem onOneLine_fixedHex (width n : Nat) : OnOneLine (fixedHex width n) := by
  induction width generalizing n with
  | zero =>
      intro c hc
      cases hc
  | succ width ih =>
      rw [fixedHex]
      apply (ih (n / 16)).append
      exact List.forall_mem_singleton.mpr (isPlain_hexDigit (Nat.mod_lt n (by decide)))

theorem onOneLine_escaped (c : Char) : OnOneLine (Quoted.escaped c) := by
  unfold Quoted.escaped
  split
  · decide
  repeat
    split
    · decide
  split
  · rename_i hplain
    exact List.forall_mem_singleton.mpr hplain
  · exact onOneLine_cons (by decide) (onOneLine_cons (by decide) (onOneLine_fixedHex 4 c.toNat))

theorem onOneLine_string (text : List Char) : OnOneLine (string text) := by
  have hinner : OnOneLine (text.flatMap Quoted.escaped) := by
    intro c hc
    rcases List.mem_flatMap.mp hc with ⟨from', -, hescaped⟩
    exact onOneLine_escaped from' c hescaped
  exact onOneLine_cons (by decide) (hinner.append (by decide))

theorem onOneLine_decimal (n : Nat) : OnOneLine (decimal n) := by
  intro c hc
  have hdigit := isDigit_of_mem_decimal hc
  simp only [isDigit, Bool.and_eq_true, decide_eq_true_eq] at hdigit
  exact decide_eq_true (Nat.le_trans (by decide) hdigit.1)

theorem onOneLine_integer (n : Int) : OnOneLine (integer n) := by
  unfold integer
  split
  · exact onOneLine_cons (by decide) (onOneLine_decimal n.natAbs)
  · exact onOneLine_decimal n.natAbs

theorem onOneLine_null : OnOneLine null := by
  decide

/-!
## Lists and objects
-/

theorem onOneLine_commaSeparated {texts : List (List Char)} (h : ∀ text ∈ texts, OnOneLine text) :
    OnOneLine (commaSeparated texts) := by
  fun_induction commaSeparated texts with
  | case1 =>
      intro c hc
      cases hc
  | case2 text =>
      exact h text List.mem_cons_self
  | case3 text rest _ ih =>
      apply (h text List.mem_cons_self).append
      apply onOneLine_cons (by decide)
      exact ih fun other hother => h other (List.mem_cons_of_mem text hother)

theorem onOneLine_array {texts : List (List Char)} (h : ∀ text ∈ texts, OnOneLine text) :
    OnOneLine (array texts) :=
  onOneLine_cons (by decide) ((onOneLine_commaSeparated h).append (by decide))

theorem onOneLine_object {entries : List (String × List Char)}
    (h : ∀ entry ∈ entries, OnOneLine entry.2) : OnOneLine (object entries) := by
  have hmembers : ∀ text ∈ entries.map member, OnOneLine text := by
    intro text htext
    rcases List.mem_map.mp htext with ⟨entry, hentry, rfl⟩
    exact (onOneLine_string entry.1.toList).append (onOneLine_cons (by decide) (h entry hentry))
  exact onOneLine_cons (by decide) ((onOneLine_commaSeparated hmembers).append (by decide))

/-!
## Compact values
-/

structure IsCompact (text : List Char) : Prop where
  skipped : SkippedIn .list text
  oneLine : OnOneLine text

theorem isCompact_null : IsCompact null :=
  ⟨skippedIn_null, onOneLine_null⟩

theorem isCompact_string (text : List Char) : IsCompact (string text) :=
  ⟨skippedIn_string text, onOneLine_string text⟩

theorem isCompact_decimal (n : Nat) : IsCompact (decimal n) :=
  ⟨skippedIn_decimal n, onOneLine_decimal n⟩

theorem isCompact_integer (n : Int) : IsCompact (integer n) :=
  ⟨skippedIn_integer n, onOneLine_integer n⟩

theorem isCompact_array {texts : List (List Char)} (h : ∀ text ∈ texts, IsCompact text) :
    IsCompact (array texts) where
  skipped := skippedIn_array fun text htext => (h text htext).skipped
  oneLine := onOneLine_array fun text htext => (h text htext).oneLine

theorem isCompact_object {entries : List (String × List Char)}
    (h : ∀ entry ∈ entries, IsCompact entry.2) : IsCompact (object entries) where
  skipped := skippedIn_object fun entry hentry => (h entry hentry).skipped
  oneLine := onOneLine_object fun entry hentry => (h entry hentry).oneLine

end Json
end SpokenSales
