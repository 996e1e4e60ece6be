import SpokenSales.Json.Reader
import SpokenSales.Json.Writer
import SpokenSales.Query.Basic

/-!
# Queries in JSON

A query is an object with a kind, a count, a month and a year, or the list of the four.  Absent
parts are written as null and may be left out of an object.  The kind is a label; reading also
accepts an object with the label as its key and null as its value.
-/

namespace SpokenSales
namespace Query

open Json

def kindOf (label : List Char) : Except Fault Kind :=
  match Kind.ofLabel? label with
  | some kind => .ok kind
  | none => .error (.mismatch .unknownVariant)

def readLabel : Reader Kind := fun text =>
  match Quoted.read text with
  | .error fault => .error fault
  | .ok (label, rest) =>
      match kindOf label with
      | .error fault => .error fault
      | .ok kind => .ok (kind, rest)

/-- Reads the rest of a kind that is written as an object.  Its one key must be a string. -/
def readKindMember : Reader Kind := fun text =>
  match skipSpace text with
  | [] => .error .truncated
  | '"' :: rest =>
      match readLabel rest with
      | .error fault => .error fault
      | .ok (kind, text) =>
          match (skipColon text).bind readNull with
          | .error fault => .error fault
          | .ok text =>
              match skipSpace text with
              | '}' :: rest => .ok (kind, rest)
              | [] => .error .truncated
              | _ => .error .malformed
  | _ => .error .malformed

def readKind : Reader Kind := fun text =>
  match skipSpace text with
  | [] => .error .truncated
  | '"' :: rest => readLabel rest
  | '{' :: rest => readKindMember rest
  | _ => .error .malformed

def readLimit : Reader (Option UInt32) := fun text =>
  match readOptional (readInteger 0 (UInt32.size - 1)) text with
  | .error fault => .error fault
  | .ok (n, rest) => .ok (n.map fun n => UInt32.ofNat n.toNat, rest)

def readYear : Reader (Option Int32) := fun text =>
  match readOptional (readInteger Int32.minValue.toInt Int32.maxValue.toInt) text with
  | .error fault => .error fault
  | .ok (n, rest) => .ok (n.map Int32.ofInt, rest)

structure Slots where
  kind : Option Kind
  count : Option (Option UInt32)
  month : Option (Option UInt32)
  year : Option (Option Int32)

def readSlot : MemberReader Slots := fun key slots =>
  if key = "kind".toList then
    readOnce "kind" slots.kind readKind fun kind => { slots with kind := some kind }
  else if key = "count".toList then
    readOnce "count" slots.count readLimit fun count => { slots with count := some count }
  else if key = "month".toList then
    readOnce "month" slots.month readLimit fun month => { slots with month := some month }
  else if key = "year".toList then
    readOnce "year" slots.year readYear fun year => { slots with year := some year }
  else skipMember slots

def Slots.complete (slots : Slots) : Except Mismatch Query :=
  match required "kind" slots.kind with
  | .error reason => .error reason
  | .ok kind => .ok ⟨kind, slots.count.join, slots.month.join, slots.year.join⟩

def readPositions : Reader Query := fun text => do
  let (kind, text) ← readPosition true readKind text
  let (count, text) ← readPosition false readLimit text
  let (month, text) ← readPosition false readLimit text
  let (year, text) ← readPosition false readYear text
  return (⟨kind, count, month, year⟩, text)

def reader : Reader Query :=
  readRecord ⟨none, none, none, none⟩ readSlot Slots.complete readPositions

def ofJson (text : List Char) : Except Fault Query :=
  readAll reader text

def writeOptional (write : α → List Char) : Option α → List Char
  | none => Json.null
  | some value => write value

def members (query : Query) : List (String × List Char) :=
  [("kind", Json.string query.kind.label.toList),
   ("count", writeOptional (fun n => Text.decimal n.toNat) query.count),
   ("month", writeOptional (fun n => Text.decimal n.toNat) query.month),
   ("year", writeOptional (fun n => Text.integer n.toInt) query.year)]

def write (query : Query) : List Char :=
  Json.object query.members

end Query
end SpokenSales
