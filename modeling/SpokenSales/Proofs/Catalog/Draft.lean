import SpokenSales.Proofs.Catalog.Loading
import SpokenSales.Proofs.Json.Follows

/-!
# Drafts of records

A draft is a record whose date is still a text.  The texts of drafts include the texts of records,
so that each record of a catalog has a date as it was written.
-/

namespace SpokenSales

open Json

/-- A record whose date has been read as a text only. -/
structure Draft where
  id : Option Uuid
  name : String
  sales : UInt64
  date : List Char
deriving DecidableEq, Repr

namespace Draft

structure Slots where
  id : Option (Option Uuid)
  name : Option String
  sales : Option UInt64
  date : Option (List Char)

def readSlot : MemberReader Slots := fun key slots =>
  if key = "id".toList then
    readOnce "id" slots.id Record.readId fun id => { slots with id := some id }
  else if key = "name".toList then
    readOnce "name" slots.name Record.readName fun name => { slots with name := some name }
  else if key = "sales".toList then
    readOnce "sales" slots.sales Record.readSales fun sales => { slots with sales := some sales }
  else if key = "date".toList then
    readOnce "date" slots.date readString fun date => { slots with date := some date }
  else skipMember slots

def Slots.complete (slots : Slots) : Except Mismatch Draft := do
  let name ← required "name" slots.name
  let sales ← required "sales" slots.sales
  let date ← required "date" slots.date
  return ⟨slots.id.join, name, sales, date⟩

def readPositions : Reader Draft := fun text => do
  let (id, text) ← readPosition true Record.readId text
  let (name, text) ← readPosition false Record.readName text
  let (sales, text) ← readPosition false Record.readSales text
  let (date, text) ← readPosition false readString text
  return (⟨id, name, sales, date⟩, text)

def reader : Reader Draft :=
  readRecord ⟨none, none, none, none⟩ readSlot Slots.complete readPositions

def listOfJson (text : List Char) : Except Fault (List Draft) :=
  readAll (readList reader) text

/-!
## Drafts follow records
-/

def WritesDate (date : Date) (written : List Char) : Prop :=
  Date.read? written = some date

/-- Whether a draft is that of a record. -/
structure IsDraftOf (record : Record) (draft : Draft) : Prop where
  id : record.id = draft.id
  name : record.name = draft.name
  sales : record.sales = draft.sales
  date : WritesDate record.date draft.date

structure SlotsAgree (slots : Record.Slots) (drafted : Slots) : Prop where
  id : slots.id = drafted.id
  name : slots.name = drafted.name
  sales : slots.sales = drafted.sales
  date : Option.Rel WritesDate slots.date drafted.date

theorem follows_readDate : Follows WritesDate Record.readDate readString :=
  follows_readWritten Date.read? .badDate

theorem rel_eq_refl (value : Option α) : Option.Rel Eq value value := by
  cases value with
  | none =>
      exact Option.Rel.none
  | some value =>
      exact Option.Rel.some rfl

theorem follows_readSlot (key : List Char) {slots : Record.Slots} {drafted : Slots}
    (h : SlotsAgree slots drafted) :
    Follows SlotsAgree (Record.readSlot key slots) (readSlot key drafted) := by
  rcases slots with ⟨id, name, sales, date⟩
  rcases drafted with ⟨id', name', sales', date'⟩
  rcases h with ⟨hid, hname, hsales, hdate⟩
  cases hid
  cases hname
  cases hsales
  unfold Record.readSlot readSlot
  split
  · apply (Follows.refl Record.readId).readOnce "id" (rel_eq_refl id)
    rintro value _ rfl
    exact ⟨rfl, rfl, rfl, hdate⟩
  · split
    · apply (Follows.refl Record.readName).readOnce "name" (rel_eq_refl name)
      rintro value _ rfl
      exact ⟨rfl, rfl, rfl, hdate⟩
    · split
      · apply (Follows.refl Record.readSales).readOnce "sales" (rel_eq_refl sales)
        rintro value _ rfl
        exact ⟨rfl, rfl, rfl, hdate⟩
      · split
        · apply follows_readDate.readOnce "date" hdate
          intro value value' hvalue
          exact ⟨rfl, rfl, rfl, Option.Rel.some hvalue⟩
        · exact follows_skipMember ⟨rfl, rfl, rfl, hdate⟩

theorem complete_of_slotsAgree {slots : Record.Slots} {drafted : Slots} {record : Record}
    (h : SlotsAgree slots drafted) (hrecord : slots.complete = .ok record) :
    ∃ draft, drafted.complete = .ok draft ∧ IsDraftOf record draft := by
  rcases slots with ⟨id, name, sales, date⟩
  rcases drafted with ⟨id', name', sales', date'⟩
  rcases h with ⟨hid, hname, hsales, hdate⟩
  cases hid
  cases hname
  cases hsales
  unfold Record.Slots.complete at hrecord
  cases hdate with
  | none =>
      cases name <;> cases sales <;> cases hrecord
  | @some day written hday =>
      cases name with
      | none =>
          cases hrecord
      | some name =>
          cases sales with
          | none =>
              cases hrecord
          | some sales =>
              cases hrecord
              exact ⟨⟨id.join, name, sales, written⟩, rfl, rfl, rfl, rfl, hday⟩

theorem follows_readPositions : Follows IsDraftOf Record.readPositions readPositions := by
  unfold Record.readPositions readPositions
  apply ((Follows.refl Record.readId).readPosition true).bind
  rintro id _ rfl
  apply ((Follows.refl Record.readName).readPosition false).bind
  rintro name _ rfl
  apply ((Follows.refl Record.readSales).readPosition false).bind
  rintro sales _ rfl
  apply (follows_readDate.readPosition false).bind
  intro date written hdate
  apply Follows.pure
  exact ⟨rfl, rfl, rfl, hdate⟩

theorem follows_reader : Follows IsDraftOf Record.reader reader := by
  have hstart : SlotsAgree ⟨none, none, none, none⟩ ⟨none, none, none, none⟩ :=
    ⟨rfl, rfl, rfl, Option.Rel.none⟩
  apply follows_readRecord hstart
  · intro key slots drafted hagree
    exact follows_readSlot key hagree
  · intro slots drafted record hagree hrecord
    exact complete_of_slotsAgree hagree hrecord
  · exact follows_readPositions

theorem exists_listOfJson {text : List Char} {records : List Record}
    (h : Record.listOfJson text = .ok records) :
    ∃ drafts, listOfJson text = .ok drafts ∧ List.Forall₂ IsDraftOf records drafts :=
  (follows_reader.readList).readAll h

end Draft
end SpokenSales
