import SpokenSales.Proofs.Catalog.Accepted
import SpokenSales.Proofs.Date.Written
import SpokenSales.Proofs.Json.Fields
import SpokenSales.Proofs.Json.Integer
import SpokenSales.Proofs.Uuid

/-!
# Catalogs read back

The JSON of a list of products gives back the records of the products, and these give back the
products, with the identifiers that they state.
-/

namespace SpokenSales

open Json

/-- The record of a product, which states the identifier. -/
def Product.record (product : Product) : Record :=
  ⟨some product.id, product.name, product.sales, product.date⟩

namespace Record

/-!
## The members of a record
-/

theorem readsBack_id {body text : List Char} {id : Uuid} (hbody : Quoted.Spells body text)
    (h : Uuid.read? text = some id) : ReadsBack readId (quoted body) (some id) := by
  apply ReadsBack.optional
  · exact readsBack_written hbody h .badUuid
  · intro hhead
    cases hhead

theorem readsBack_name {body : List Char} {name : String}
    (h : Quoted.Spells body name.toList) : ReadsBack readName (quoted body) name where
  starts := startsValue_quoted body
  reads := by
    intro rest hrest
    unfold readName
    rw [(readsBack_quoted h).reads rest hrest]
    simp only [String.ofList_toList]

theorem readsBack_sales (sales : UInt64) :
    ReadsBack readSales (Text.decimal sales.toNat) sales := by
  have hlt : sales.toNat < UInt64.size := sales.toNat_lt_size
  have hhigh : (sales.toNat : Int) ≤ UInt64.size - 1 := by
    omega
  have hwritten : ReadsBack (readInteger 0 (UInt64.size - 1)) (Text.decimal sales.toNat)
      sales.toNat :=
    (writesInteger_decimal sales.toNat).readsBack (by decide) (by decide)
      ⟨Int.natCast_nonneg _, hhigh⟩
  refine ⟨hwritten.starts, ?_⟩
  intro rest hrest
  unfold readSales
  rw [hwritten.reads rest hrest]
  simp only [Int.toNat_natCast, UInt64.ofNat_toNat]

theorem readsBack_date {body text : List Char} {date : Date} (hbody : Quoted.Spells body text)
    (h : Date.read? text = some date) : ReadsBack readDate (quoted body) date :=
  readsBack_written hbody h .badDate

/-!
## The fields of a record
-/

def memberNames : List String :=
  ["id", "name", "sales", "date"]

theorem ignoresSpace_id : IgnoresSpace readId :=
  ignoresSpace_optional _

theorem ignoresSpace_name : IgnoresSpace readName := by
  intro text
  unfold readName
  rw [ignoresSpace_string]

theorem ignoresSpace_sales : IgnoresSpace readSales := by
  intro text
  unfold readSales
  rw [ignoresSpace_integer]

theorem ignoresSpace_date : IgnoresSpace readDate :=
  ignoresSpace_written _ _

def idField : RecordField Slots :=
  ⟨Option Uuid, "id", readId, Slots.id, fun id slots => { slots with id := some id }⟩

def nameField : RecordField Slots :=
  ⟨String, "name", readName, Slots.name, fun name slots => { slots with name := some name }⟩

def salesField : RecordField Slots :=
  ⟨UInt64, "sales", readSales, Slots.sales, fun sales slots => { slots with sales := some sales }⟩

def dateField : RecordField Slots :=
  ⟨Date, "date", readDate, Slots.date, fun date slots => { slots with date := some date }⟩

def fields : List (RecordField Slots) :=
  [idField, nameField, salesField, dateField]

theorem idField_mem : idField ∈ fields :=
  List.mem_cons_self

theorem nameField_mem : nameField ∈ fields :=
  List.mem_cons_of_mem _ List.mem_cons_self

theorem salesField_mem : salesField ∈ fields :=
  List.mem_cons_of_mem _ (List.mem_cons_of_mem _ List.mem_cons_self)

theorem dateField_mem : dateField ∈ fields :=
  List.mem_cons_of_mem _ (List.mem_cons_of_mem _ (List.mem_cons_of_mem _ List.mem_cons_self))

theorem forall_mem_fields {p : RecordField Slots → Prop} (hid : p idField) (hname : p nameField)
    (hsales : p salesField) (hdate : p dateField) : ∀ field ∈ fields, p field := by
  unfold fields
  simp only [List.forall_mem_cons]
  exact ⟨hid, hname, hsales, hdate, List.forall_mem_nil _⟩

theorem readsFields : ReadsFields fields readSlot where
  distinct := by
    show memberNames.Nodup
    decide
  ignores := forall_mem_fields ignoresSpace_id ignoresSpace_name ignoresSpace_sales
    ignoresSpace_date
  known := by
    apply forall_mem_fields <;> intro slots <;> unfold readSlot
    · exact if_pos rfl
    · rw [if_neg (by decide)]
      exact if_pos rfl
    · rw [if_neg (by decide), if_neg (by decide)]
      exact if_pos rfl
    · rw [if_neg (by decide), if_neg (by decide), if_neg (by decide)]
      exact if_pos rfl
  unknown := by
    intro key hkey slots
    unfold readSlot
    exact (if_neg (hkey _ idField_mem)).trans ((if_neg (hkey _ nameField_mem)).trans
      ((if_neg (hkey _ salesField_mem)).trans (if_neg (hkey _ dateField_mem))))
  slot_fill := by
    apply forall_mem_fields <;> intro value slots <;> rfl
  slot_fill_of_ne := by
    apply forall_mem_fields <;> apply forall_mem_fields <;> intro hne value slots <;>
      first | exact absurd rfl hne | rfl
  ext := by
    intro slots slots' h
    cases slots
    cases slots'
    rw [Slots.mk.injEq]
    exact ⟨h _ idField_mem, h _ nameField_mem, h _ salesField_mem, h _ dateField_mem⟩

theorem takesMembers (product : Product) :
    TakesMembers readSlot ⟨none, none, none, none⟩ (product.members.map Member.compact)
      ⟨some (some product.id), some product.name, some product.sales, some product.date⟩ := by
  apply InTurn.cons
  · exact readsFields.takesMember idField_mem rfl (Member.isNamed_compact _)
      (readsBack_id (Quoted.spells_flatMap_escaped _) (Uuid.read?_write product.id))
  apply InTurn.cons
  · exact readsFields.takesMember nameField_mem rfl (Member.isNamed_compact _)
      (readsBack_name (Quoted.spells_flatMap_escaped _))
  apply InTurn.cons
  · exact readsFields.takesMember salesField_mem rfl (Member.isNamed_compact _)
      (readsBack_sales product.sales)
  apply InTurn.cons
  · exact readsFields.takesMember dateField_mem rfl (Member.isNamed_compact _)
      (readsBack_date (Quoted.spells_flatMap_escaped _) (Date.read?_write product.date))
  exact InTurn.nil _

theorem complete_slots (product : Product) :
    Slots.complete
      ⟨some (some product.id), some product.name, some product.sales, some product.date⟩ =
        .ok product.record := rfl

theorem readsBack_write (product : Product) : ReadsBack reader product.write product.record :=
  readsBack_object (takesMembers product) (complete_slots product) readPositions

theorem listOfJson_writeList (products : List Product) {spaces : List Char}
    (hspaces : ∀ c ∈ spaces, isSpace c = true) :
    listOfJson (Product.writeList products ++ spaces) = .ok (products.map Product.record) := by
  unfold listOfJson Product.writeList
  apply ReadsBack.readAll
  · apply readsBack_array
    intro product _
    exact readsBack_write product
  · exact hspaces

end Record

namespace Catalog

/-!
## Products of records
-/

theorem productsFrom_record (fresh : Nat → Uuid) (index : Nat) {products : List Product}
    (h : ∀ product ∈ products, product.validate = .ok ()) :
    productsFrom fresh index (products.map Product.record) = .ok products := by
  induction products generalizing index with
  | nil =>
      rfl
  | cons product rest ih =>
      have hmake : Product.make ((product.record.id).getD (fresh index)) product.record.name
          product.record.sales product.record.date = .ok product := by
        have hvalid := h product List.mem_cons_self
        unfold Product.make
        split
        · rfl
        · rename_i heq
          exact absurd (heq.symm.trans hvalid) (fun hne => by cases hne)
      have hrest := ih (index + 1) fun other hother => h other (List.mem_cons_of_mem product hother)
      rw [List.map_cons, productsFrom, hmake]
      simp only [hrest]

theorem ofRecords_record (fresh : Nat → Uuid) {products : List Product} (h : IsCatalog products) :
    ofRecords fresh (products.map Product.record) = .ok products := by
  unfold ofRecords
  rw [productsFrom_record fresh 0 h.valid]
  exact ofProducts_eq_ok_iff.mpr ⟨rfl, h⟩

theorem ofJson_writeList_append (fresh : Nat → Uuid) {products : List Product}
    (h : IsCatalog products) {spaces : List Char} (hspaces : ∀ c ∈ spaces, isSpace c = true) :
    ofJson fresh (Product.writeList products ++ spaces) = .ok products := by
  unfold ofJson
  rw [Record.listOfJson_writeList products hspaces]
  exact ofRecords_record fresh h

end Catalog
end SpokenSales
