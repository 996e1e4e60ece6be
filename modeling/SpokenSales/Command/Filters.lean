import SpokenSales.Query.Basic
import SpokenSales.Text.Decimal
import SpokenSales.Text.Words
import SpokenSales.Vocabulary

/-!
# Months and years in a command

A month is heard as a whole word that is a month name, a year as a whole word of exactly four
ASCII digits.  Of several the first counts.
-/

namespace SpokenSales
namespace Command

open Text

def year? (word : List Char) : Option Int32 :=
  if word.length = 4 ∧ word.all isDigit then some (Int32.ofNat (readDecimal word)) else none

def firstMonth? (heard : List (List Char)) : Option UInt32 :=
  heard.findSome? Vocabulary.month?

def firstYear? (heard : List (List Char)) : Option Int32 :=
  heard.findSome? year?

def ranking? (word : List Char) : Option Kind :=
  if word = "top".toList then some .top
  else if word = "bottom".toList then some .bottom
  else none

def isAll (word : List Char) : Bool :=
  word = "all".toList

end Command
end SpokenSales
