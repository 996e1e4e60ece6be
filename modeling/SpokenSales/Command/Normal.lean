import SpokenSales.Text.Decimal
import SpokenSales.Text.Words
import SpokenSales.Vocabulary

/-!
# The normal form of a command

Before a command is understood it is put into lower case and its number words become digits.
Only whole words count: `three` becomes `3` and `threesome` stays.
-/

namespace SpokenSales
namespace Command

open Text

def inDigits : Piece → List Char
  | .word letters =>
      match Vocabulary.spokenNumber? letters with
      | some n => decimal n
      | none => letters
  | .gap c => [c]

def replaceNumberWords (text : List Char) : List Char :=
  (pieces text).flatMap inDigits

def normalize (text : List Char) : List Char :=
  replaceNumberWords (lowercase text)

end Command
end SpokenSales
