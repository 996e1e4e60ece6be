import SpokenSales.Json.Reader
import SpokenSales.Json.Writer
import SpokenSales.Product

/-!
# Product records in JSON

A record is an object with an id, a name, the sales and a date, or the list of the four.  The id
may be null or left out.  Other members are skipped.
-/

namespace SpokenSales

open Json

/-- A product record as it is written, perhaps without an identifier. -/
structure Record where
  id : Option Uuid
  name : String
  sales : UInt64
  date : Date
deriving DecidableEq, Repr

namespace Record

def readId : Reader (Option Uuid) :=
  readOptional (readWritten Uuid.read? .badUuid)

def readName : Reader String := fun text =>
  match readString text with
  | .error fault => .error fault
  | .ok (name, rest) => .ok (String.ofList name, rest)

def readSales : Reader UInt64 := fun text =>
  match readInteger 0 (UInt64.size - 1) text with
  | .error fault => .error fault
  | .ok (n, rest) => .ok (UInt64.ofNat n.toNat, rest)

def readDate : Reader Date :=
  readWritten Date.read? .badDate

structure Slots where
  id : Option (Option Uuid)
  name : Option String
  sales : Option UInt64
  date : Option Date

def readSlot : MemberReader Slots := fun key slots =>
  if key = "id".toList then
    readOnce "id" slots.id readId fun id => { slots with id := some id }
  else if key = "name".toList then
    readOnce "name" slots.name readName fun name => { slots with name := some name }
  else if key = "sales".toList then
    readOnce "sales" slots.sales readSales fun sales => { slots with sales := some sales }
  else if key = "date".toList then
    readOnce "date" slots.date readDate fun date => { slots with date := some date }
  else skipMember slots

def Slots.complete (slots : Slots) : Except Mismatch Record := do
  let name ← required "name" slots.name
  let sales ← required "sales" slots.sales
  let date ← required "date" slots.date
  return ⟨slots.id.join, name, sales, date⟩

def readPositions : Reader Record := fun text => do
  let (id, text) ← readPosition true readId text
  let (name, text) ← readPosition false readName text
  let (sales, text) ← readPosition false readSales text
  let (date, text) ← readPosition false readDate text
  return (⟨id, name, sales, date⟩, text)

def reader : Reader Record :=
  readRecord ⟨none, none, none, none⟩ readSlot Slots.complete readPositions

def listOfJson (text : List Char) : Except Fault (List Record) :=
  readAll (readList reader) text

end Record

namespace Product

def members (product : Product) : List (String × List Char) :=
  [("id", Json.string product.id.write),
   ("name", Json.string product.name.toList),
   ("sales", Text.decimal product.sales.toNat),
   ("date", Json.string product.date.write)]

def write (product : Product) : List Char :=
  Json.object product.members

def writeList (products : List Product) : List Char :=
  Json.array (products.map write)

end Product
end SpokenSales
