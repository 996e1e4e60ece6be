import SpokenSales.Date.Basic
import SpokenSales.Text.Blank
import SpokenSales.Text.Decimal

/-!
# Written dates

A date is written as year, month and day with hyphens between them.  Four digits are enough for
the years 0 to 9999; other years are written with a sign and at least four digits.

Reading is more lenient.  White space may stand before each number, before each hyphen and at
the end.  A year may have up to four digits, or any number of them after a sign; month and day
may have one digit or two.
-/

namespace SpokenSales
namespace Date

open Text

def skipBlank (text : List Char) : List Char :=
  text.dropWhile isBlank

/-- Takes at least one and at most `limit` digits off the beginning of a text. -/
def digits? (limit : Nat) (text : List Char) : Option (Nat × List Char) :=
  let found := (text.takeWhile isDigit).take limit
  if found.isEmpty then none else some (readDecimal found, text.drop found.length)

def readYear? (text : List Char) : Option (Int × List Char) :=
  match skipBlank text with
  | '-' :: rest => (digits? rest.length rest).map fun (n, rest) => (-(n : Int), rest)
  | '+' :: rest => (digits? rest.length rest).map fun (n, rest) => ((n : Int), rest)
  | other => (digits? 4 other).map fun (n, rest) => ((n : Int), rest)

def readPart? (text : List Char) : Option (Nat × List Char) :=
  match skipBlank text with
  | '-' :: rest => digits? 2 (skipBlank rest)
  | _ => none

def read? (text : List Char) : Option Date := do
  let (year, rest) ← readYear? text
  let (month, rest) ← readPart? rest
  let (day, rest) ← readPart? rest
  if (skipBlank rest).isEmpty then of? year month day else none

def writeYear (year : Int) : List Char :=
  if year < 0 then '-' :: paddedDecimal 4 year.natAbs
  else if 9999 < year then '+' :: paddedDecimal 4 year.natAbs
  else paddedDecimal 4 year.natAbs

def write (date : Date) : List Char :=
  writeYear date.year ++ '-' :: paddedDecimal 2 date.month ++ '-' :: paddedDecimal 2 date.day

end Date
end SpokenSales
