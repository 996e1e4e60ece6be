import SpokenSales.Command.Filters

/-!
# Ranked commands

`top 3 products in march 2024`: a keyword, somewhere after it a count, and after the count an
optional month and year.  The count is the first run of digits after the first keyword, even
inside a longer word.  What follows the count is read as a text of its own.
-/

namespace SpokenSales
namespace Command

open Text

def count? (digits : List Char) : Option UInt32 :=
  let value := readDecimal digits
  if 0 < value ∧ value < UInt32.size then some (UInt32.ofNat value) else none

/-- The first run of digits of a text and the text after it. -/
def firstDigits? (text : List Char) : Option (List Char × List Char) :=
  let found := text.dropWhile fun c => !isDigit c
  if found.isEmpty then none else some (found.takeWhile isDigit, found.dropWhile isDigit)

def ranked? (text : List Char) : Option Query :=
  match firstWord? ranking? (pieces text) with
  | none => none
  | some (kind, after) =>
      match firstDigits? (join after) with
      | none => none
      | some (digits, tail) =>
          (count? digits).map fun count =>
            ⟨kind, some count, firstMonth? (words tail), firstYear? (words tail)⟩

end Command
end SpokenSales
