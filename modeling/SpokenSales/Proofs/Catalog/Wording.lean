import SpokenSales.Proofs.Catalog.RoundTrip

/-!
# Ways to write a record

The identifier and the date of a record have more than one wording.  A wording is laid out as an
object, with its members in any order and further members anywhere between them, or as the list of
its values.  However it is laid out, the record that it means is read.
-/

namespace SpokenSales

open Json

/-- A record as it is worded, perhaps without an identifier. -/
structure Wording where
  id : Option (List Char)
  name : String
  sales : UInt64
  date : List Char

def Record.IsFurther (part : Member) : Prop :=
  ∃ name, part.IsNamed name ∧ name ∉ memberNames ∧ IsValue part.value

namespace Wording

structure Means (wording : Wording) (record : Record) : Prop where
  id : Option.Rel (fun text id => Uuid.read? text = some id) wording.id record.id
  name : wording.name = record.name
  sales : wording.sales = record.sales
  date : Date.read? wording.date = some record.date

/-!
## Layouts
-/

def IsId (wording : Wording) (value : List Char) : Prop :=
  match wording.id with
  | none => value = null
  | some text => IsString value text

def IsName (wording : Wording) (value : List Char) : Prop :=
  IsString value wording.name.toList

def IsSales (wording : Wording) (value : List Char) : Prop :=
  value = Text.decimal wording.sales.toNat

def IsDate (wording : Wording) (value : List Char) : Prop :=
  IsString value wording.date

/-- Whether a text is a layout of a wording.  An object may leave the identifier out. -/
inductive IsLayout (wording : Wording) : List Char → Prop
  | object {parts further : List Member} {id? : Option Member} {name sales date : Member}
      (order : parts.Perm (id?.toList ++ name :: sales :: date :: further))
      (id_out : id? = none → wording.id = none)
      (id_eq : ∀ id ∈ id?, id.IsNamed "id" ∧ wording.IsId id.value)
      (name_eq : name.IsNamed "name" ∧ wording.IsName name.value)
      (sales_eq : sales.IsNamed "sales" ∧ wording.IsSales sales.value)
      (date_eq : date.IsNamed "date" ∧ wording.IsDate date.value)
      (others : ∀ part ∈ further, Record.IsFurther part) (last : Gap) :
      IsLayout wording (objectText parts last)
  | list {id name sales date : Element} (id_eq : wording.IsId id.value)
      (name_eq : wording.IsName name.value) (sales_eq : wording.IsSales sales.value)
      (date_eq : wording.IsDate date.value) (last : Gap) :
      IsLayout wording (listText [id, name, sales, date] last)

def write (wording : Wording) : List Char :=
  array [(wording.id.map string).getD null, string wording.name.toList,
    Text.decimal wording.sales.toNat, string wording.date]

theorem isLayout_write (wording : Wording) : wording.IsLayout wording.write := by
  have hstring (text : List Char) : IsString (string text) text :=
    ⟨_, rfl, Quoted.spells_flatMap_escaped text⟩
  unfold write
  rw [← listText_compact]
  apply IsLayout.list
  · unfold IsId
    cases wording.id with
    | none =>
        rfl
    | some text =>
        exact hstring text
  · exact hstring wording.name.toList
  · exact rfl
  · exact hstring wording.date

variable {wording : Wording} {record : Record} {value : List Char}

theorem IsId.readsBack (h : wording.IsId value) (hmeans : wording.Means record) :
    ReadsBack Record.readId value record.id := by
  unfold IsId at h
  generalize hstated : record.id = stated
  cases hword : wording.id with
  | none =>
      have hid := hmeans.id
      rw [hword, hstated] at hid
      cases hid
      rw [hword] at h
      rw [h]
      exact readsBack_null _
  | some text =>
      have hid := hmeans.id
      rw [hword, hstated] at hid
      rw [hword] at h
      rcases h with ⟨body, rfl, hbody⟩
      cases hid with
      | some hread =>
          exact Record.readsBack_id hbody hread

theorem IsName.readsBack (h : wording.IsName value) (hmeans : wording.Means record) :
    ReadsBack Record.readName value record.name := by
  rcases h with ⟨body, rfl, hbody⟩
  rw [← hmeans.name]
  exact Record.readsBack_name hbody

theorem IsSales.readsBack (h : wording.IsSales value) (hmeans : wording.Means record) :
    ReadsBack Record.readSales value record.sales := by
  unfold IsSales at h
  rw [h, hmeans.sales]
  exact Record.readsBack_sales record.sales

theorem IsDate.readsBack (h : wording.IsDate value) (hmeans : wording.Means record) :
    ReadsBack Record.readDate value record.date := by
  rcases h with ⟨body, rfl, hbody⟩
  exact Record.readsBack_date hbody hmeans.date

end Wording

namespace Record

/-!
## Lists
-/

theorem readsBack_listText {record : Record} {id name sales date : Element}
    (hid : ReadsBack readId id.value record.id)
    (hname : ReadsBack readName name.value record.name)
    (hsales : ReadsBack readSales sales.value record.sales)
    (hdate : ReadsBack readDate date.value record.date) (last : Gap) :
    ReadsBack reader (listText [id, name, sales, date] last) record where
  starts := ⟨'[', _, rfl, by decide, by decide⟩
  reads := by
    intro rest _
    have hstarts : ∀ element ∈ [id, name, sales, date], StartsValue element.value := by
      simp only [List.forall_mem_cons]
      exact ⟨hid.starts, hname.starts, hsales.starts, hdate.starts, List.forall_mem_nil _⟩
    have hclose : closeList (remainder date.after [] last ']' rest) = .ok rest :=
      closeList_of_skipSpace (skipSpace_remainder_nil (by decide) date.after last rest)
    unfold reader readRecord
    rw [listText_append, skipSpace_cons (by decide)]
    simp only [readPositions, readPosition_listText hstarts, hid.readPosition, hname.readPosition,
      hsales.readPosition, hdate.readPosition, bind, Except.bind, pure, Except.pure,
      List.map_nil, hclose]

end Record

namespace Wording

/-!
## Records
-/

theorem IsLayout.readsBack {wording : Wording} {text : List Char} (h : wording.IsLayout text)
    {record : Record} (hmeans : wording.Means record) : ReadsBack Record.reader text record := by
  cases h with
  | list id_eq name_eq sales_eq date_eq last =>
      exact Record.readsBack_listText (id_eq.readsBack hmeans) (name_eq.readsBack hmeans)
        (sales_eq.readsBack hmeans) (date_eq.readsBack hmeans) last
  | @object parts further id? name sales date order id_out id_eq name_eq sales_eq date_eq others
      last =>
      -- The members of the record are put in front of the further ones, the last of them first.
      have hthree (id : Option (Option Uuid)) :
          LeadEach Record.fields ⟨id, none, none, none⟩ (name :: sales :: date :: further)
            ⟨id, some record.name, some record.sales, some record.date⟩ := by
        have hfurther : LeadEach Record.fields
            ⟨id, some record.name, some record.sales, some record.date⟩ further
            ⟨id, some record.name, some record.sales, some record.date⟩ :=
          leadEach_further others _
        have hdate : LeadEach Record.fields ⟨id, some record.name, some record.sales, none⟩
            (date :: further) _ :=
          LeadEach.fill Record.readsFields Record.dateField_mem hfurther rfl date_eq.1
            (date_eq.2.readsBack hmeans)
        have hsales : LeadEach Record.fields ⟨id, some record.name, none, none⟩
            (sales :: date :: further) _ :=
          LeadEach.fill Record.readsFields Record.salesField_mem hdate rfl sales_eq.1
            (sales_eq.2.readsBack hmeans)
        exact LeadEach.fill Record.readsFields Record.nameField_mem hsales rfl name_eq.1
          (name_eq.2.readsBack hmeans)
      cases id? with
      | none =>
          have hid : record.id = none := by
            have hid := hmeans.id
            rw [id_out rfl] at hid
            generalize record.id = stated at hid
            cases hid
            rfl
          have hcomplete : Record.Slots.complete
              ⟨none, some record.name, some record.sales, some record.date⟩ = .ok record := by
            show Except.ok (Record.mk none record.name record.sales record.date) = _
            rw [← hid]
          exact readsBack_objectText
            (((hthree none).perm order.symm).takesMembers Record.readsFields) hcomplete last _
      | some id =>
          have hid := id_eq id rfl
          have hfour : LeadEach Record.fields ⟨none, none, none, none⟩
              (id :: name :: sales :: date :: further) _ :=
            LeadEach.fill Record.readsFields Record.idField_mem (hthree (some record.id)) rfl hid.1
              (hid.2.readsBack hmeans)
          have hcomplete : Record.Slots.complete
              ⟨some record.id, some record.name, some record.sales, some record.date⟩ =
                .ok record := rfl
          exact readsBack_objectText ((hfour.perm order.symm).takesMembers Record.readsFields)
            hcomplete last _

/-!
## Catalogs
-/

/-- Whether a text is a list of layouts of some wordings, one after another. -/
inductive IsCatalogText (wordings : List Wording) : List Char → Prop
  | mk {elements : List Element}
      (h : List.Forall₂ (fun wording element => wording.IsLayout element.value) wordings elements)
      (before last after : Gap) :
      IsCatalogText wordings (before.text ++ (listText elements last ++ after.text))

theorem isCatalogText_write (wordings : List Wording) :
    IsCatalogText wordings (array (wordings.map write)) := by
  have htext : listText ((wordings.map write).map Element.compact) .empty =
      array (wordings.map write) := listText_compact _
  rw [← htext, ← List.append_nil (listText _ _)]
  refine @IsCatalogText.mk wordings _ ?_ .empty .empty .empty
  rw [List.map_map, List.forall₂_map_right_iff, List.forall₂_same]
  intro wording _
  exact wording.isLayout_write

theorem readsBack_elements {wordings : List Wording} {elements : List Element}
    (h : List.Forall₂ (fun wording element => wording.IsLayout element.value) wordings elements)
    {records : List Record} (hmeans : List.Forall₂ Means wordings records) :
    List.Forall₂ (fun element record => ReadsBack Record.reader element.value record) elements
      records := by
  induction h generalizing records with
  | nil =>
      cases hmeans
      exact .nil
  | cons hlayout _ ih =>
      cases hmeans with
      | cons hfirst hothers =>
          exact .cons (hlayout.readsBack hfirst) (ih hothers)

theorem IsCatalogText.listOfJson {wordings : List Wording} {text : List Char}
    (h : IsCatalogText wordings text) {records : List Record}
    (hmeans : List.Forall₂ Means wordings records) : Record.listOfJson text = .ok records := by
  rcases h with ⟨h, before, last, after⟩
  unfold Record.listOfJson
  rw [(ignoresSpace_list Record.reader).readAll_append]
  exact (readsBack_list (readsBack_elements h hmeans) last).readAll after.spaces

end Wording
end SpokenSales
