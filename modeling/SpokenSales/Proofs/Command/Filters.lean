import SpokenSales.Proofs.Command.Normal
import SpokenSales.Proofs.Command.Understood
import SpokenSales.Proofs.Text.Occurrence

/-!
# What is named in a command

Months, years and keywords are named by whole words.  Of several months, or of several years, the
leftmost is the one that counts.
-/

namespace SpokenSales
namespace Command

open Text Vocabulary

def NamesMonth (word : List Char) (month : UInt32) : Prop :=
  ∃ i name, monthNames[i]? = some name ∧ word = name.toList ∧ month.toNat = i + 1

/-- Whether a word is exactly four ASCII digits, which write a year. -/
structure NamesYear (word : List Char) (year : Int32) : Prop where
  length : word.length = 4
  digits : ∀ c ∈ word, isDigit c = true
  value : year.toInt = placeValue word

inductive NamesRanking : List Char → Kind → Prop
  | top : NamesRanking "top".toList .top
  | bottom : NamesRanking "bottom".toList .bottom

/-- Whether a text names something, and what the leftmost word that does names. -/
inductive FirstNamed (Names : List Char → α → Prop) (text : List Char) : Option α → Prop
  | absent (h : ∀ before word after, Stands text before word after → ∀ value, ¬Names word value) :
      FirstNamed Names text none
  | found {before word after : List Char} {value : α}
      (h : StandsFirst (fun word _ => ∃ value, Names word value) text before word after)
      (hvalue : Names word value) : FirstNamed Names text (some value)

/-!
## Reading the names
-/

theorem month?_eq_some_iff {word : List Char} {month : UInt32} :
    month? word = some month ↔ NamesMonth word month := by
  constructor
  · intro h
    have hrange := isMonth_of_month?_eq_some h
    rcases Option.map_eq_some_iff.mp h with ⟨i, hi, hmonth⟩
    rcases List.findIdx?_eq_some_iff_getElem.mp hi with ⟨hlt, hname, -⟩
    have htwelve : monthNames.length = 12 := rfl
    refine ⟨i, monthNames[i], List.getElem?_eq_getElem hlt, (of_decide_eq_true hname).symm, ?_⟩
    rw [← hmonth]
    apply UInt32.toNat_ofNat_of_lt'
    have hsize : UInt32.size = 4294967296 := rfl
    omega
  · rintro ⟨i, name, hname, rfl, hmonth⟩
    have all : ∀ i ∈ List.range 12, ∀ name ∈ monthNames[i]?,
        month? name.toList = some (UInt32.ofNat (i + 1)) := by
      decide
    have hlt : i < 12 := (List.getElem?_eq_some_iff.mp hname).1
    rw [all i (List.mem_range.mpr hlt) name hname, ← hmonth, UInt32.ofNat_toNat]

theorem placeValue_lt_of_length {word : List Char} (hlength : word.length = 4)
    (hdigits : ∀ c ∈ word, isDigit c = true) : placeValue word < 10000 := by
  have hlt := readDecimal_lt hdigits
  rw [hlength, readDecimal_eq_placeValue] at hlt
  exact hlt

theorem year?_eq_some_iff {word : List Char} {year : Int32} :
    year? word = some year ↔ NamesYear word year := by
  constructor
  · intro h
    have hdigits := isDigit_of_year?_eq_some h
    have hlt := placeValue_lt_of_length hdigits.1 hdigits.2
    rw [year?, if_pos ⟨hdigits.1, List.all_eq_true.mpr hdigits.2⟩, readDecimal_eq_placeValue] at h
    refine ⟨hdigits.1, hdigits.2, ?_⟩
    rw [← Option.some.inj h]
    exact Int32.toInt_ofNat_of_lt (by omega)
  · intro h
    have hlt := placeValue_lt_of_length h.length h.digits
    rw [year?, if_pos ⟨h.length, List.all_eq_true.mpr h.digits⟩, readDecimal_eq_placeValue,
      Option.some_inj]
    apply Int32.toInt_inj.mp
    rw [h.value]
    exact Int32.toInt_ofNat_of_lt (by omega)

theorem ranking?_eq_some_iff {word : List Char} {kind : Kind} :
    ranking? word = some kind ↔ NamesRanking word kind := by
  constructor
  · intro h
    unfold ranking? at h
    split at h
    · rename_i htop
      cases h
      rw [htop]
      exact .top
    · split at h
      · rename_i hbottom
        cases h
        rw [hbottom]
        exact .bottom
      · cases h
  · intro h
    cases h <;> rfl

theorem NamesRanking.isWord {word : List Char} {kind : Kind} (h : NamesRanking word kind) :
    IsWord word := by
  apply isWord_of_mem_spokenWords
  cases h <;> decide

theorem NamesMonth.isWord {word : List Char} {month : UInt32} (h : NamesMonth word month) :
    IsWord word :=
  isWord_of_mem_spokenWords (mem_of_month?_eq_some (month?_eq_some_iff.mpr h))

theorem NamesYear.isWord {word : List Char} {year : Int32} (h : NamesYear word year) :
    IsWord word := by
  apply isWord_of_isDigit _ h.digits
  exact List.ne_nil_of_length_eq_add_one h.length

/-!
## Searching for names
-/

section

variable {meaning : List Char → Option α} {Names : List Char → α → Prop}
  (h : ∀ word value, meaning word = some value ↔ Names word value) {text : List Char}

include h

theorem firstWord?_eq_none_iff :
    firstWord? meaning (pieces text) = none ↔
      ∀ before word after, Stands text before word after → ∀ value, ¬Names word value := by
  have hnone (word : List Char) : meaning word = none ↔ ∀ value, ¬Names word value := by
    rw [Option.eq_none_iff_forall_ne_some]
    exact forall_congr' fun value => not_congr (h word value)
  rw [firstWord?_eq_search?, search?_pieces_eq_none_iff]
  simp only [Option.map_eq_none_iff, hnone]

theorem firstWord?_eq_some_iff {value : α} {parts : List Piece} :
    firstWord? meaning (pieces text) = some (value, parts) ↔
      ∃ before word after,
        StandsFirst (fun word _ => ∃ value, Names word value) text before word after ∧
          Names word value ∧ parts = pieces after := by
  have hsome (word after : List Char) :
      ((meaning word).map fun value => (value, pieces after)).isSome = true ↔
        ∃ value, Names word value := by
    rw [Option.isSome_map, Option.isSome_iff_exists]
    exact exists_congr (h word)
  rw [firstWord?_eq_search?, search?_pieces_eq_some_iff]
  simp only [standsFirst_congr hsome, Option.map_eq_some_iff, h, Prod.mk.injEq]
  constructor
  · rintro ⟨before, word, after, hfirst, value', hvalue, rfl, hparts⟩
    exact ⟨before, word, after, hfirst, hvalue, hparts.symm⟩
  · rintro ⟨before, word, after, hfirst, hvalue, hparts⟩
    exact ⟨before, word, after, hfirst, value, hvalue, rfl, hparts.symm⟩

theorem findSome?_words_eq_iff {value? : Option α} :
    (words text).findSome? meaning = value? ↔ FirstNamed Names text value? := by
  rw [findSome?_words]
  cases value? with
  | none =>
      rw [Option.map_eq_none_iff, firstWord?_eq_none_iff h]
      constructor
      · exact .absent
      · rintro (habsent | _)
        exact habsent
  | some value =>
      rw [Option.map_eq_some_iff]
      constructor
      · rintro ⟨⟨value', parts⟩, hfound, rfl⟩
        rcases (firstWord?_eq_some_iff h).mp hfound with ⟨before, word, after, hfirst, hvalue, -⟩
        exact .found hfirst hvalue
      · rintro ⟨⟩
        rename_i before word after hfirst hvalue
        exact ⟨(value, pieces after),
          (firstWord?_eq_some_iff h).mpr ⟨before, word, after, hfirst, hvalue, rfl⟩, rfl⟩

end

theorem firstMonth?_words_eq_iff {text : List Char} {month : Option UInt32} :
    firstMonth? (words text) = month ↔ FirstNamed NamesMonth text month :=
  findSome?_words_eq_iff fun _ _ => month?_eq_some_iff

theorem firstYear?_words_eq_iff {text : List Char} {year : Option Int32} :
    firstYear? (words text) = year ↔ FirstNamed NamesYear text year :=
  findSome?_words_eq_iff fun _ _ => year?_eq_some_iff

end Command
end SpokenSales
