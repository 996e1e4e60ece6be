import SpokenSales.Storage.Path

/-!
# The same place

A path leads through the names between its slashes.  Empty names and the name `.` lead nowhere, so
that one place has many paths.
-/

namespace SpokenSales
namespace Storage

def Absolute (path : String) : Prop :=
  ∃ rest, path.toList = '/' :: rest

theorem isAbsolute_iff {path : String} : isAbsolute path = true ↔ Absolute path := by
  unfold isAbsolute Absolute
  rw [decide_eq_true_iff, List.head?_eq_some_iff]

instance (path : String) : Decidable (Absolute path) :=
  decidable_of_iff (isAbsolute path = true) isAbsolute_iff

/-- The names that a path leads through, but for those that lead nowhere. -/
inductive LeadsThrough : List Char → List Name → Prop
  | nowhere {part : List Char} (h : part = [] ∨ part = ['.']) : LeadsThrough part []
  | name {part : List Char} (hslash : '/' ∉ part) (hempty : part ≠ []) (hdot : part ≠ ['.']) :
      LeadsThrough part [part]
  | slash {front rest : List Char} {names others : List Name} (hfront : LeadsThrough front names)
      (hrest : LeadsThrough rest others) : LeadsThrough (front ++ '/' :: rest) (names ++ others)

theorem normalNames_splitOn_append (front rest : List Char) :
    normalNames ((front ++ '/' :: rest).splitOn '/') =
      normalNames (front.splitOn '/') ++ normalNames (rest.splitOn '/') := by
  simp only [List.splitOn_eq_splitOnP]
  rw [@List.splitOnP_append_cons _ (fun c => c == '/') front rest '/' BEq.rfl]
  exact List.filter_append _ _

theorem normalNames_nowhere {part : List Char} (h : part = [] ∨ part = ['.']) :
    normalNames (part.splitOn '/') = [] := by
  rcases h with rfl | rfl <;> rfl

theorem normalNames_name {part : List Char} (hslash : '/' ∉ part) (hempty : part ≠ [])
    (hdot : part ≠ ['.']) : normalNames (part.splitOn '/') = [part] := by
  rw [List.splitOn_eq_singleton hslash]
  apply List.filter_cons_of_pos
  rw [Bool.and_eq_true, Bool.not_eq_true', List.isEmpty_eq_false_iff, bne_iff_ne]
  exact ⟨hempty, hdot⟩

theorem LeadsThrough.normalNames_eq {path : List Char} {names : List Name}
    (h : LeadsThrough path names) : normalNames (path.splitOn '/') = names := by
  induction h with
  | nowhere h =>
      exact normalNames_nowhere h
  | name hslash hempty hdot =>
      exact normalNames_name hslash hempty hdot
  | slash _ _ ihfront ihrest =>
      rw [normalNames_splitOn_append, ihfront, ihrest]

theorem leadsThrough_part {part : List Char} (hslash : '/' ∉ part) :
    LeadsThrough part (normalNames (part.splitOn '/')) := by
  by_cases hnowhere : part = [] ∨ part = ['.']
  · rw [normalNames_nowhere hnowhere]
    exact .nowhere hnowhere
  · rw [not_or] at hnowhere
    rw [normalNames_name hslash hnowhere.1 hnowhere.2]
    exact .name hslash hnowhere.1 hnowhere.2

theorem leadsThrough_normalNames (path : List Char) :
    LeadsThrough path (normalNames (path.splitOn '/')) := by
  -- Induction on the length, since a path is cut at any of its slashes.
  induction hlength : path.length using Nat.strongRecOn generalizing path with
  | ind length ih =>
      by_cases hslash : '/' ∈ path
      · rcases List.append_of_mem hslash with ⟨front, rest, rfl⟩
        rw [List.length_append, List.length_cons] at hlength
        rw [normalNames_splitOn_append]
        exact .slash (ih front.length (by omega) front rfl) (ih rest.length (by omega) rest rfl)
      · exact leadsThrough_part hslash

theorem leadsThrough_iff {path : String} {names : List Name} :
    LeadsThrough path.toList names ↔ components path = names := by
  constructor
  · exact LeadsThrough.normalNames_eq
  · rintro rfl
    exact leadsThrough_normalNames path.toList

/-- Two absolute paths that lead through the same names. -/
structure SamePlace (path other : String) : Prop where
  absolute : Absolute path
  otherAbsolute : Absolute other
  names : ∃ names, LeadsThrough path.toList names ∧ LeadsThrough other.toList names

theorem samePlace_iff {path other : String} : SamePlace path other ↔
    Absolute path ∧ Absolute other ∧ components path = components other := by
  constructor
  · intro h
    rcases h.names with ⟨names, hpath, hother⟩
    rw [leadsThrough_iff] at hpath hother
    exact ⟨h.absolute, h.otherAbsolute, hpath.trans hother.symm⟩
  · rintro ⟨habsolute, hother, hcomponents⟩
    exact ⟨habsolute, hother, _, leadsThrough_iff.mpr rfl, leadsThrough_iff.mpr hcomponents.symm⟩

instance (path other : String) : Decidable (SamePlace path other) :=
  decidable_of_iff _ samePlace_iff.symm

end Storage
end SpokenSales
