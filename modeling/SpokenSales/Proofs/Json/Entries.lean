import SpokenSales.Proofs.Json.Compact

/-!
# The members of an object

An object can be taken apart without knowing what its members mean: every value is kept as the
text that it is.
-/

namespace SpokenSales
namespace Json

def readRaw : Reader (List Char) := fun text =>
  match skipValue (skipSpace text) with
  | .error fault => .error fault
  | .ok rest => .ok ((skipSpace text).take ((skipSpace text).length - rest.length), rest)

def readEntry : MemberReader (List (String × List Char)) := fun key entries =>
  readMember readRaw fun text => entries ++ [(String.ofList key, text)]

/-- The members of an object, in order, if the whole text is an object. -/
def entriesOf (text : List Char) : Except Fault (List (String × List Char)) :=
  readAll (readRecord [] readEntry .ok fun _ => .error (.mismatch .invalidType)) text

theorem readsBack_raw {text : List Char} (h : IsCompact text) :
    ReadsBack readRaw text text where
  starts := h.skipped.starts
  reads := by
    intro rest hrest
    have hstarts : StartsValue text := h.skipped.starts
    have hskip : skipValue (text ++ rest) = .ok rest := h.skipped.skipValue_append .empty hrest
    unfold readRaw
    rw [hstarts.skipSpace_append, hskip]
    simp only [List.length_append, Nat.add_sub_cancel, List.take_left]

theorem ignoresSpace_raw : IgnoresSpace readRaw := by
  intro text
  unfold readRaw
  rw [skipSpace_skipSpace]

theorem takesMember_entry {entry : String × List Char} (h : IsCompact entry.2)
    (entries : List (String × List Char)) :
    TakesMember readEntry entries (.compact entry) (entries ++ [entry]) := by
  have hvalue : ReadsBack readRaw (Member.compact entry).value entry.2 := readsBack_raw h
  refine ⟨entry.1.toList, Member.isNamed_compact entry, ?_⟩
  intro rest hrest
  unfold readEntry
  rw [hvalue.readMember ignoresSpace_raw _ hrest, String.ofList_toList]

theorem takesMembers_entries {entries : List (String × List Char)}
    (h : ∀ entry ∈ entries, IsCompact entry.2) (before : List (String × List Char)) :
    TakesMembers readEntry before (entries.map Member.compact) (before ++ entries) := by
  induction entries generalizing before with
  | nil =>
      rw [List.append_nil]
      exact .nil before
  | cons entry entries ih =>
      rw [List.append_cons]
      apply InTurn.cons
      · exact takesMember_entry (h entry List.mem_cons_self) before
      · exact ih (fun other hother => h other (List.mem_cons_of_mem entry hother)) _

theorem entriesOf_object {entries : List (String × List Char)}
    (h : ∀ entry ∈ entries, IsCompact entry.2) :
    entriesOf (object entries) = .ok entries := by
  have hread : ReadsBack (readRecord [] readEntry .ok fun _ => .error (.mismatch .invalidType))
      (object entries) entries :=
    readsBack_object (takesMembers_entries h []) rfl _
  exact hread.readAll_self

end Json
end SpokenSales
