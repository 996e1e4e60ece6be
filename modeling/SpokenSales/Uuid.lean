import SpokenSales.Text.Hexadecimal

/-!
# Identifiers

An identifier is a 128-bit value.  It is written as 32 lowercase hexadecimal digits in five
groups with hyphens between them.  Reading accepts either case and four forms: the bare digits,
the grouped digits, those in braces, and those after `urn:uuid:`.
-/

namespace SpokenSales

open Text

structure Uuid where
  value : BitVec 128
deriving DecidableEq, Repr

namespace Uuid

def nil : Uuid := ⟨0#128⟩

def groups : List Nat := [8, 4, 4, 4, 12]

def hyphenate : List Nat → List Char → List Char
  | [], digits => digits
  | [_], digits => digits
  | size :: sizes, digits => digits.take size ++ '-' :: hyphenate sizes (digits.drop size)

def dehyphenate? : List Nat → List Char → Option (List Char)
  | [], _ => none
  | [_], digits => some digits
  | size :: sizes, text =>
      match text.drop size with
      | '-' :: rest => (dehyphenate? sizes rest).map (text.take size ++ ·)
      | _ => none

def ofDigits? (digits : List Char) : Option Uuid :=
  if digits.length = 32 then (readHex? digits).map fun n => ⟨BitVec.ofNat 128 n⟩ else none

def ofGrouped? (text : List Char) : Option Uuid :=
  if text.length = 36 then (dehyphenate? groups text).bind ofDigits? else none

def afterUrn? (text : List Char) : Option (List Char) :=
  if (text.take 9).map Char.toLower = "urn:uuid:".toList then some (text.drop 9) else none

/-- The identifier that a text writes in one of the four forms. -/
def read? (text : List Char) : Option Uuid :=
  match text.length with
  | 32 => ofDigits? text
  | 36 => ofGrouped? text
  | 38 => if text.head? = some '{' ∧ text.getLast? = some '}' then
      ofGrouped? (text.drop 1).dropLast else none
  | 45 => (afterUrn? text).bind ofGrouped?
  | _ => none

def write (id : Uuid) : List Char :=
  hyphenate groups (fixedHex 32 id.value.toNat)

def version4 (random : BitVec 122) : Uuid :=
  ⟨(random.extractLsb' 74 48 ++ 4#4 ++ random.extractLsb' 62 12 ++ 2#2
    ++ random.extractLsb' 0 62).cast (by decide)⟩

def supply (seed : BitVec 122) (index : Nat) : Uuid :=
  version4 (seed + BitVec.ofNat 122 index)

end Uuid
end SpokenSales
