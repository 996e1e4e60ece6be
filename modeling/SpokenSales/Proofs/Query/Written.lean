import SpokenSales.Proofs.Json.Fields
import SpokenSales.Proofs.Json.Integer
import SpokenSales.Query.Written

/-!
# Queries read back

Each member of a written query is taken into its slot, whether there is something to write or only
null, and at any place that no other member with the same key comes before.
-/

namespace SpokenSales
namespace Query

open Json

/-!
## The values of the members
-/

theorem ofLabel?_label (kind : Kind) : Kind.ofLabel? kind.label.toList = some kind := by
  cases kind <;> decide

theorem readsBack_label {body : List Char} {kind : Kind}
    (h : Quoted.Spells body kind.label.toList) : ReadsBack readKind (quoted body) kind where
  starts := startsValue_quoted body
  reads := by
    intro rest _
    have hlabel : readLabel (body ++ '"' :: rest) = .ok (kind, rest) := by
      unfold readLabel kindOf
      simp only [h.read_append, ofLabel?_label]
    unfold readKind
    rw [quoted_append, skipSpace_cons (by decide)]
    exact hlabel

theorem readsBack_kind (kind : Kind) : ReadsBack readKind (string kind.label.toList) kind :=
  readsBack_label (Quoted.spells_flatMap_escaped kind.label.toList)

theorem readsBack_limit_of {text : List Char} {value : Option Int}
    (h : ReadsBack (readOptional (readInteger 0 (UInt32.size - 1))) text value) :
    ReadsBack readLimit text (value.map fun n => UInt32.ofNat n.toNat) where
  starts := h.starts
  reads := by
    intro rest hrest
    unfold readLimit
    rw [h.reads rest hrest]

theorem readsBack_limit_of_rel {text? : Option (List Char)} {limit : Option UInt32}
    (h : Option.Rel (fun text n => WritesInteger text n.toNat) text? limit) :
    ReadsBack readLimit (text?.getD null) limit := by
  cases h with
  | none =>
      exact readsBack_limit_of (readsBack_null _)
  | @some text n hwrites =>
      have hsize : n.toNat < UInt32.size := n.toNat_lt_size
      have hlimit : UInt32.size < UInt64.size := by decide
      have hread : ReadsBack (readInteger 0 (UInt32.size - 1)) text (n.toNat : Int) :=
        hwrites.readsBack (by omega) (by omega) (by omega)
      have hoptional := readsBack_limit_of (hread.optional hwrites.isNumber.head?_ne)
      simp only [Option.map_some, Int.toNat_natCast, UInt32.ofNat_toNat] at hoptional
      exact hoptional

theorem readsBack_limit (limit : Option UInt32) :
    ReadsBack readLimit (writeOptional (fun n => Text.decimal n.toNat) limit) limit := by
  cases limit with
  | none =>
      exact readsBack_limit_of_rel .none
  | some n =>
      exact readsBack_limit_of_rel (.some (writesInteger_decimal n.toNat))

theorem readsBack_year_of {text : List Char} {value : Option Int}
    (h : ReadsBack (readOptional (readInteger Int32.minValue.toInt Int32.maxValue.toInt)) text
      value) : ReadsBack readYear text (value.map Int32.ofInt) where
  starts := h.starts
  reads := by
    intro rest hrest
    unfold readYear
    rw [h.reads rest hrest]

theorem readsBack_year_of_rel {text? : Option (List Char)} {year : Option Int32}
    (h : Option.Rel (fun text n => WritesInteger text n.toInt) text? year) :
    ReadsBack readYear (text?.getD null) year := by
  cases h with
  | none =>
      exact readsBack_year_of (readsBack_null _)
  | @some text n hwrites =>
      have hmin : -0x8000000000000000 ≤ Int32.minValue.toInt := by decide
      have hmax : Int32.maxValue.toInt < UInt64.size := by decide
      have hread : ReadsBack (readInteger Int32.minValue.toInt Int32.maxValue.toInt) text
          n.toInt :=
        hwrites.readsBack hmin hmax ⟨n.minValue_le_toInt, n.toInt_le⟩
      have hoptional := readsBack_year_of (hread.optional hwrites.isNumber.head?_ne)
      simp only [Option.map_some, Int32.ofInt_toInt] at hoptional
      exact hoptional

theorem readsBack_year (year : Option Int32) :
    ReadsBack readYear (writeOptional (fun n => Text.integer n.toInt) year) year := by
  cases year with
  | none =>
      exact readsBack_year_of_rel .none
  | some n =>
      exact readsBack_year_of_rel (.some (writesInteger_integer n.toInt))

/-!
## The fields of a query
-/

theorem ignoresSpace_kind : IgnoresSpace readKind := by
  intro text
  unfold readKind
  rw [skipSpace_skipSpace]

theorem ignoresSpace_limit : IgnoresSpace readLimit := by
  intro text
  unfold readLimit
  rw [ignoresSpace_optional]

theorem ignoresSpace_year : IgnoresSpace readYear := by
  intro text
  unfold readYear
  rw [ignoresSpace_optional]

def kindField : RecordField Slots :=
  ⟨Kind, "kind", readKind, Slots.kind, fun kind slots => { slots with kind := some kind }⟩

def countField : RecordField Slots :=
  ⟨Option UInt32, "count", readLimit, Slots.count,
    fun count slots => { slots with count := some count }⟩

def monthField : RecordField Slots :=
  ⟨Option UInt32, "month", readLimit, Slots.month,
    fun month slots => { slots with month := some month }⟩

def yearField : RecordField Slots :=
  ⟨Option Int32, "year", readYear, Slots.year,
    fun year slots => { slots with year := some year }⟩

def fields : List (RecordField Slots) :=
  [kindField, countField, monthField, yearField]

def memberNames : List String :=
  ["kind", "count", "month", "year"]

theorem kindField_mem : kindField ∈ fields :=
  List.mem_cons_self

theorem countField_mem : countField ∈ fields :=
  List.mem_cons_of_mem _ List.mem_cons_self

theorem monthField_mem : monthField ∈ fields :=
  List.mem_cons_of_mem _ (List.mem_cons_of_mem _ List.mem_cons_self)

theorem yearField_mem : yearField ∈ fields :=
  List.mem_cons_of_mem _ (List.mem_cons_of_mem _ (List.mem_cons_of_mem _ List.mem_cons_self))

theorem forall_mem_fields {p : RecordField Slots → Prop} (hkind : p kindField)
    (hcount : p countField) (hmonth : p monthField) (hyear : p yearField) :
    ∀ field ∈ fields, p field := by
  unfold fields
  simp only [List.forall_mem_cons]
  exact ⟨hkind, hcount, hmonth, hyear, List.forall_mem_nil _⟩

theorem readsFields : ReadsFields fields readSlot where
  distinct := by
    show memberNames.Nodup
    decide
  ignores := forall_mem_fields ignoresSpace_kind ignoresSpace_limit ignoresSpace_limit
    ignoresSpace_year
  known := by
    apply forall_mem_fields <;> intro slots <;> unfold readSlot
    · exact if_pos rfl
    · rw [if_neg (by decide)]
      exact if_pos rfl
    · rw [if_neg (by decide), if_neg (by decide)]
      exact if_pos rfl
    · rw [if_neg (by decide), if_neg (by decide), if_neg (by decide)]
      exact if_pos rfl
  unknown := by
    intro key hkey slots
    unfold readSlot
    exact (if_neg (hkey _ kindField_mem)).trans ((if_neg (hkey _ countField_mem)).trans
      ((if_neg (hkey _ monthField_mem)).trans (if_neg (hkey _ yearField_mem))))
  slot_fill := by
    apply forall_mem_fields <;> intro value slots <;> rfl
  slot_fill_of_ne := by
    apply forall_mem_fields <;> apply forall_mem_fields <;> intro hne value slots <;>
      first | exact absurd rfl hne | rfl
  ext := by
    intro slots slots' h
    cases slots
    cases slots'
    rw [Slots.mk.injEq]
    exact ⟨h _ kindField_mem, h _ countField_mem, h _ monthField_mem, h _ yearField_mem⟩

theorem complete_slots (query : Query) :
    Slots.complete ⟨some query.kind, some query.count, some query.month, some query.year⟩ =
      .ok query := rfl

end Query
end SpokenSales
