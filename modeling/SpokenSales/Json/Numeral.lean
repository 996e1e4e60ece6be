import SpokenSales.Json.Double
import SpokenSales.Json.Fault
import SpokenSales.Text.Decimal

/-!
# JSON numbers

A numeral has a sign, whole digits without needless zeros, and perhaps a fraction and an
exponent.  Only a numeral without the last two can be an integer.  Minus zero and numbers beyond
64 bits are doubles all the same.
-/

namespace SpokenSales
namespace Json

open Text

structure Numeral where
  negative : Bool
  whole : List Char
  fraction : Option (List Char)
  exponent : Option (Bool × List Char)
deriving DecidableEq, Repr

inductive Number
  | natural (n : Nat)
  /-- The negative of a positive number of at most `2 ^ 63`. -/
  | negative (n : Nat)
  | double
deriving DecidableEq, Repr

namespace Numeral

def digitFault : List Char → Fault
  | [] => .truncated
  | _ :: _ => .malformed

/-- The digits that a text begins with, of which there must be one, and the rest. -/
def digits (text : List Char) : Except Fault (List Char × List Char) :=
  if (text.takeWhile isDigit).isEmpty then .error (digitFault text)
  else .ok (text.takeWhile isDigit, text.dropWhile isDigit)

def readWhole (text : List Char) : Except Fault (List Char × List Char) :=
  match digits text with
  | .error fault => .error fault
  | .ok (found, rest) =>
      if found.head? = some '0' ∧ 1 < found.length then .error .malformed else .ok (found, rest)

def readFraction : List Char → Except Fault (Option (List Char) × List Char)
  | '.' :: rest =>
      match digits rest with
      | .error fault => .error fault
      | .ok (found, rest) => .ok (some found, rest)
  | text => .ok (none, text)

def exponentSign : List Char → Bool × List Char
  | '-' :: rest => (true, rest)
  | '+' :: rest => (false, rest)
  | text => (false, text)

def readMarked (text : List Char) : Except Fault (Option (Bool × List Char) × List Char) :=
  match digits (exponentSign text).2 with
  | .error fault => .error fault
  | .ok (found, rest) => .ok (some ((exponentSign text).1, found), rest)

def readExponent : List Char → Except Fault (Option (Bool × List Char) × List Char)
  | 'e' :: rest => readMarked rest
  | 'E' :: rest => readMarked rest
  | text => .ok (none, text)

def readUnsigned (negative : Bool) (text : List Char) : Except Fault (Numeral × List Char) := do
  let (whole, rest) ← readWhole text
  let (fraction, rest) ← readFraction rest
  let (exponent, rest) ← readExponent rest
  return (⟨negative, whole, fraction, exponent⟩, rest)

def read : List Char → Except Fault (Numeral × List Char)
  | '-' :: rest => readUnsigned true rest
  | text => readUnsigned false text

def skip (text : List Char) : Except Fault (List Char) :=
  match read text with
  | .error _ => .error .malformed
  | .ok (_, rest) => .ok rest

def startsNumber (c : Char) : Bool :=
  c = '-' || isDigit c

/-- Appends digits to a significand as long as it stays below `2 ^ 64`; gives back the digits
that did not fit. -/
def accumulate (significand : Nat) : List Char → Nat × List Char
  | [] => (significand, [])
  | c :: rest =>
      let next := 10 * significand + digitValue c
      if next < UInt64.size then accumulate next rest else (significand, c :: rest)

/-- Whether the numeral is within the range of doubles.  Whole digits that do not fit into the
significand count as powers of ten and fraction digits that do not fit are dropped. -/
def inRange (numeral : Numeral) : Bool :=
  let (wholePart, excess) := accumulate 0 numeral.whole
  let fraction := numeral.fraction.getD []
  let (significand, dropped) := accumulate wholePart fraction
  let scale : Int := (excess.length : Int) - (fraction.length - dropped.length : Nat)
  match numeral.exponent with
  | none => isFinite significand scale
  | some (isNegative, found) =>
      let exponent := readDecimal found
      if 0x80000000 ≤ exponent then isNegative || significand = 0
      else isFinite significand (if isNegative then scale - exponent else scale + exponent)

def isWhole (numeral : Numeral) : Bool :=
  numeral.fraction.isNone && numeral.exponent.isNone

def number (numeral : Numeral) : Except Fault Number :=
  let value := readDecimal numeral.whole
  if numeral.isWhole && !numeral.negative && value < UInt64.size then .ok (.natural value)
  else if numeral.isWhole && numeral.negative && 0 < value && value ≤ 0x8000000000000000 then
    .ok (.negative value)
  else if numeral.inRange then .ok .double
  else .error .malformed

end Numeral

def readNumber (text : List Char) : Except Fault (Number × List Char) := do
  let (numeral, rest) ← Numeral.read text
  let number ← numeral.number
  return (number, rest)

end Json
end SpokenSales
