import SpokenSales.Cli.Printed
import SpokenSales.Proofs.Catalog.RoundTrip
import SpokenSales.Proofs.Json.Entries
import SpokenSales.Proofs.Query.Written
import SpokenSales.Proofs.Text.Lines

/-!
# Printed answers read back

The JSON of a response keeps to one line.  Its members are skipped by whoever does not know them,
and the products and the query in it are read back although their members stand in another order
than that of their records.
-/

namespace SpokenSales
namespace Cli

open Json

theorem unlines_cons (text : List Char) (texts : List (List Char)) :
    unlines (text :: texts) = text ++ '\n' :: unlines texts := by
  unfold unlines
  rw [List.flatMap_cons, List.append_assoc]
  rfl

theorem consists_unlines {texts : List (List Char)}
    (hfeed : ∀ text ∈ texts, '\n' ∉ text)
    (hreturn : ∀ text ∈ texts, text.getLast? ≠ some '\r') :
    Text.Consists (Text.encode (unlines texts)) (texts.map Text.encode) := by
  induction texts with
  | nil =>
      exact .nil
  | cons text texts ih =>
      have hencoded : Text.encode ['\n'] = [10] := by decide +kernel
      rw [unlines_cons, List.append_cons, Text.encode_append, Text.encode_append, hencoded,
        List.append_assoc]
      apply Text.Consists.feed
      · intro hmem
        exact hfeed text List.mem_cons_self (Text.mem_of_mem_encode (by decide) hmem)
      · intro hlast
        rcases Text.exists_concat_of_getLast?_encode (c := '\r') (by decide) hlast with
          ⟨front, hfront⟩
        apply hreturn text List.mem_cons_self
        rw [hfront, List.getLast?_concat]
      · apply ih
        · intro other hother
          exact hfeed other (List.mem_cons_of_mem text hother)
        · intro other hother
          exact hreturn other (List.mem_cons_of_mem text hother)

/-!
## Products
-/

theorem readsBack_sortedProduct (product : Product) :
    ReadsBack Record.reader (sortedProduct product) product.record := by
  have hmembers : TakesMembers Record.readSlot ⟨none, none, none, none⟩
      ([("date", string product.date.write), ("id", string product.id.write),
        ("name", string product.name.toList),
        ("sales", Text.decimal product.sales.toNat)].map Member.compact)
      ⟨some (some product.id), some product.name, some product.sales, some product.date⟩ := by
    apply InTurn.cons
    · exact Record.readsFields.takesMember Record.dateField_mem rfl (Member.isNamed_compact _)
        (Record.readsBack_date (Quoted.spells_flatMap_escaped _) (Date.read?_write product.date))
    apply InTurn.cons
    · exact Record.readsFields.takesMember Record.idField_mem rfl (Member.isNamed_compact _)
        (Record.readsBack_id (Quoted.spells_flatMap_escaped _) (Uuid.read?_write product.id))
    apply InTurn.cons
    · exact Record.readsFields.takesMember Record.nameField_mem rfl (Member.isNamed_compact _)
        (Record.readsBack_name (Quoted.spells_flatMap_escaped _))
    apply InTurn.cons
    · exact Record.readsFields.takesMember Record.salesField_mem rfl (Member.isNamed_compact _)
        (Record.readsBack_sales _)
    exact InTurn.nil _
  exact readsBack_object hmembers (Record.complete_slots product) Record.readPositions

theorem isCompact_of_mem_members {product : Product} {entry : String × List Char}
    (h : entry ∈ product.members) : IsCompact entry.2 := by
  simp only [Product.members, List.mem_cons, List.not_mem_nil, or_false] at h
  rcases h with rfl | rfl | rfl | rfl
  · exact isCompact_string product.id.write
  · exact isCompact_string product.name.toList
  · exact isCompact_decimal product.sales.toNat
  · exact isCompact_string product.date.write

theorem members_perm (product : Product) :
    product.members.Perm
      [("date", string product.date.write), ("id", string product.id.write),
       ("name", string product.name.toList), ("sales", Text.decimal product.sales.toNat)] :=
  @List.perm_append_comm _ [_, _, _] [_]

theorem isCompact_sortedProduct (product : Product) : IsCompact (sortedProduct product) :=
  isCompact_object fun _ hentry =>
    isCompact_of_mem_members ((members_perm product).mem_iff.mpr hentry)

theorem entriesOf_sortedProduct (product : Product) :
    ∃ entries, entriesOf (sortedProduct product) = .ok entries ∧ product.members.Perm entries :=
  ⟨_, entriesOf_object fun _ hentry =>
    isCompact_of_mem_members ((members_perm product).mem_iff.mpr hentry), members_perm product⟩

theorem entriesOf_write (product : Product) : entriesOf product.write = .ok product.members :=
  entriesOf_object fun _ => isCompact_of_mem_members

theorem ofJson_sortedProducts (fresh : Nat → Uuid) {products : List Product}
    (h : Catalog.IsCatalog products) :
    Catalog.ofJson fresh (array (products.map sortedProduct)) = .ok products := by
  have hlist : Record.listOfJson (array (products.map sortedProduct)) =
      .ok (products.map Product.record) := by
    have hread : ReadsBack (readList Record.reader) (array (products.map sortedProduct))
        (products.map Product.record) :=
      readsBack_array fun product _ => readsBack_sortedProduct product
    exact hread.readAll_self
  unfold Catalog.ofJson
  rw [hlist]
  exact Catalog.ofRecords_record fresh h

/-!
## Queries
-/

theorem ofJson_sortedQuery (query : Query) : Query.ofJson (sortedQuery query) = .ok query := by
  have hmembers : TakesMembers Query.readSlot ⟨none, none, none, none⟩
      ([("count", Query.writeOptional (fun n => Text.decimal n.toNat) query.count),
        ("kind", string query.kind.label.toList),
        ("month", Query.writeOptional (fun n => Text.decimal n.toNat) query.month),
        ("year", Query.writeOptional (fun n => Text.integer n.toInt) query.year)].map
          Member.compact)
      ⟨some query.kind, some query.count, some query.month, some query.year⟩ := by
    apply InTurn.cons
    · exact Query.readsFields.takesMember Query.countField_mem rfl (Member.isNamed_compact _)
        (Query.readsBack_limit _)
    apply InTurn.cons
    · exact Query.readsFields.takesMember Query.kindField_mem rfl (Member.isNamed_compact _)
        (Query.readsBack_kind _)
    apply InTurn.cons
    · exact Query.readsFields.takesMember Query.monthField_mem rfl (Member.isNamed_compact _)
        (Query.readsBack_limit _)
    apply InTurn.cons
    · exact Query.readsFields.takesMember Query.yearField_mem rfl (Member.isNamed_compact _)
        (Query.readsBack_year _)
    exact InTurn.nil _
  have hread : ReadsBack Query.reader (sortedQuery query) query :=
    readsBack_object hmembers (Query.complete_slots query) Query.readPositions
  exact hread.readAll_self

theorem isCompact_writeOptional {write : α → List Char} (h : ∀ value, IsCompact (write value))
    (value : Option α) : IsCompact (Query.writeOptional write value) := by
  cases value with
  | none =>
      exact isCompact_null
  | some value =>
      exact h value

theorem isCompact_sortedQuery (query : Query) : IsCompact (sortedQuery query) := by
  apply isCompact_object
  intro entry hentry
  simp only [List.mem_cons, List.not_mem_nil, or_false] at hentry
  rcases hentry with rfl | rfl | rfl | rfl
  · exact isCompact_writeOptional (fun n => isCompact_decimal n.toNat) query.count
  · exact isCompact_string query.kind.label.toList
  · exact isCompact_writeOptional (fun n => isCompact_decimal n.toNat) query.month
  · exact isCompact_writeOptional (fun n => isCompact_integer n.toInt) query.year

/-!
## Responses
-/

def warningText (warning : Option Warning) : List Char :=
  Query.writeOptional (fun warning => string warning.message.toList) warning

theorem warningText_eq_null_iff {warning : Option Warning} :
    warningText warning = null ↔ warning = none := by
  cases warning with
  | none =>
      exact ⟨fun _ => rfl, fun _ => rfl⟩
  | some warning =>
      constructor
      · intro h
        cases h
      · intro h
        cases h

def responseEntries (response : Response) : List (String × List Char) :=
  [("products", array (response.products.map sortedProduct)),
   ("query", sortedQuery response.query),
   ("warning", warningText response.warning)]

theorem isCompact_of_mem_responseEntries {response : Response} {entry : String × List Char}
    (h : entry ∈ responseEntries response) : IsCompact entry.2 := by
  simp only [responseEntries, List.mem_cons, List.not_mem_nil, or_false] at h
  rcases h with rfl | rfl | rfl
  · apply isCompact_array
    intro text htext
    rcases List.mem_map.mp htext with ⟨product, -, rfl⟩
    exact isCompact_sortedProduct product
  · exact isCompact_sortedQuery response.query
  · exact isCompact_writeOptional (fun _ => isCompact_string _) response.warning

theorem entriesOf_jsonResponse (response : Response) :
    entriesOf (jsonResponse response) = .ok (responseEntries response) :=
  entriesOf_object fun _ => isCompact_of_mem_responseEntries

theorem onOneLine_jsonResponse (response : Response) : OnOneLine (jsonResponse response) :=
  (isCompact_object fun _ => isCompact_of_mem_responseEntries).oneLine

end Cli
end SpokenSales
