import SpokenSales.Command.Interpreter
import SpokenSales.Proofs.Text.Lowercase
import SpokenSales.Proofs.Text.Words

/-!
# What words mean to a command

The vocabulary is spelled with the small letters of ASCII.  Every word that means something is in
the vocabulary or consists of four digits.
-/

namespace SpokenSales

open Text

namespace Vocabulary

def keywords : List String :=
  ["top", "bottom", "all"]

def spokenWords : List (List Char) :=
  (keywords ++ monthNames ++ numberWords.map Prod.fst).map String.toList

/-!
## Spelling
-/

def isLetter (c : Char) : Bool :=
  'a' ≤ c && c ≤ 'z'

theorem isAscii_of_isLetter {c : Char} (h : isLetter c = true) : isAscii c = true := by
  simp only [isLetter, Bool.and_eq_true, decide_eq_true_eq] at h
  exact isAscii_of_le (by decide) h.2

theorem facts_of_isLetter {c : Char} (h : isLetter c = true) :
    c.toLower = c ∧ isWordChar c = true ∧ isDigit c = false :=
  forall_ascii
    (p := fun c => isLetter c = true → c.toLower = c ∧ isWordChar c = true ∧ isDigit c = false)
    (by decide +kernel) (isAscii_of_isLetter h) h

theorem toLower_of_isLetter {c : Char} (h : isLetter c = true) : c.toLower = c :=
  (facts_of_isLetter h).1

theorem isWordChar_of_isLetter {c : Char} (h : isLetter c = true) : isWordChar c = true :=
  (facts_of_isLetter h).2.1

theorem isDigit_of_isLetter {c : Char} (h : isLetter c = true) : isDigit c = false :=
  (facts_of_isLetter h).2.2

theorem spokenWords_all_isLetter :
    (spokenWords.all fun word => !word.isEmpty && word.all isLetter) = true := by
  decide +kernel

theorem isLetter_of_mem_spokenWords {word : List Char} (h : word ∈ spokenWords) :
    word ≠ [] ∧ ∀ c ∈ word, isLetter c = true := by
  have hword := List.all_eq_true.mp spokenWords_all_isLetter word h
  rw [Bool.and_eq_true, Bool.not_eq_true', List.isEmpty_eq_false_iff, List.all_eq_true] at hword
  exact hword

theorem isWord_of_mem_spokenWords {word : List Char} (h : word ∈ spokenWords) : IsWord word := by
  rcases isLetter_of_mem_spokenWords h with ⟨hne, hletters⟩
  exact ⟨hne, fun c hc => isWordChar_of_isLetter (hletters c hc)⟩

theorem isAscii_of_mem_spokenWords {word : List Char} (h : word ∈ spokenWords) :
    ∀ c ∈ word, isAscii c = true := by
  intro c hc
  exact isAscii_of_isLetter ((isLetter_of_mem_spokenWords h).2 c hc)

theorem map_toLower_of_mem_spokenWords {word : List Char} (h : word ∈ spokenWords) :
    word.map Char.toLower = word := by
  conv =>
    rhs
    rw [← List.map_id word]
  apply List.map_congr_left
  intro c hc
  exact toLower_of_isLetter ((isLetter_of_mem_spokenWords h).2 c hc)

theorem lowercase_of_mem_spokenWords {word : List Char} (h : word ∈ spokenWords) :
    lowercase word = word := by
  rw [lowercase_of_isAscii (isAscii_of_mem_spokenWords h), map_toLower_of_mem_spokenWords h]

/-!
## Words of the vocabulary

What a word means is looked up, so that only words of the vocabulary mean something.
-/

theorem mem_of_number?_eq_some {word : List Char} {n : Nat} (h : number? word = some n) :
    word ∈ spokenWords := by
  rcases Option.map_eq_some_iff.mp h with ⟨entry, hentry, -⟩
  have hword : entry.1.toList = word := by
    simpa using List.find?_some hentry
  rw [← hword]
  apply List.mem_map_of_mem
  apply List.mem_append_right
  exact List.mem_map_of_mem (List.mem_of_find?_eq_some hentry)

theorem mem_of_month?_eq_some {word : List Char} {month : UInt32} (h : month? word = some month) :
    word ∈ spokenWords := by
  rcases Option.map_eq_some_iff.mp h with ⟨index, hindex, -⟩
  have hany : (monthNames.any fun name => name.toList = word) = true := by
    rw [← List.findIdx?_isSome, hindex]
    rfl
  rcases List.any_eq_true.mp hany with ⟨name, hname, hword⟩
  rw [← of_decide_eq_true hword]
  apply List.mem_map_of_mem
  apply List.mem_append_left
  exact List.mem_append_right keywords hname

theorem month?_eq_none_of_not_mem {word : List Char} (h : word ∉ spokenWords) :
    month? word = none := by
  apply Option.eq_none_iff_forall_ne_some.mpr
  intro month hmonth
  exact h (mem_of_month?_eq_some hmonth)

theorem number?_eq_none_of_not_mem {word : List Char} (h : word ∉ spokenWords) :
    number? word = none := by
  apply Option.eq_none_iff_forall_ne_some.mpr
  intro n hn
  exact h (mem_of_number?_eq_some hn)

end Vocabulary

namespace Command

open Vocabulary

theorem mem_spokenWords_of_mem_keywords {word : List Char}
    (h : word ∈ keywords.map String.toList) : word ∈ spokenWords := by
  rcases List.mem_map.mp h with ⟨keyword, hkeyword, hword⟩
  rw [← hword]
  apply List.mem_map_of_mem
  apply List.mem_append_left
  exact List.mem_append_left monthNames hkeyword

theorem mem_keywords_of_ranking?_eq_some {word : List Char} {kind : Kind}
    (h : ranking? word = some kind) : word ∈ keywords.map String.toList := by
  unfold ranking? at h
  split at h
  · rename_i htop
    rw [htop]
    decide
  · split at h
    · rename_i hbottom
      rw [hbottom]
      decide
    · cases h

def all? (word : List Char) : Option Unit :=
  if isAll word then some () else none

theorem mem_keywords_of_all?_eq_some {word : List Char} {u : Unit} (h : all? word = some u) :
    word ∈ keywords.map String.toList := by
  unfold all? isAll at h
  split at h
  · rename_i hall
    rw [of_decide_eq_true hall]
    decide
  · cases h

theorem ranking?_eq_none_of_not_mem {word : List Char} (h : word ∉ keywords.map String.toList) :
    ranking? word = none := by
  apply Option.eq_none_iff_forall_ne_some.mpr
  intro kind hkind
  exact h (mem_keywords_of_ranking?_eq_some hkind)

theorem all?_eq_none_of_not_mem {word : List Char} (h : word ∉ keywords.map String.toList) :
    all? word = none := by
  apply Option.eq_none_iff_forall_ne_some.mpr
  intro u hu
  exact h (mem_keywords_of_all?_eq_some hu)

theorem isAll_eq_false_of_not_mem {word : List Char} (h : word ∉ keywords.map String.toList) :
    isAll word = false := by
  have hnone := all?_eq_none_of_not_mem h
  unfold all? at hnone
  split at hnone
  · cases hnone
  · rename_i hall
    exact Bool.eq_false_iff.mpr hall

theorem isDigit_of_year?_eq_some {word : List Char} {year : Int32} (h : year? word = some year) :
    word.length = 4 ∧ ∀ c ∈ word, isDigit c = true := by
  unfold year? at h
  split at h
  · rename_i hdigits
    exact ⟨hdigits.1, List.all_eq_true.mp hdigits.2⟩
  · cases h

end Command
end SpokenSales
