import SpokenSales.Text.Lowercase

/-!
# The spoken vocabulary

The number words and month names that commands may contain, in lower case.
-/

namespace SpokenSales
namespace Vocabulary

def numberWords : List (String × Nat) :=
  [("zero", 0), ("one", 1), ("two", 2), ("three", 3), ("four", 4), ("five", 5), ("six", 6),
   ("seven", 7), ("eight", 8), ("nine", 9), ("ten", 10), ("eleven", 11), ("twelve", 12),
   ("thirteen", 13), ("fourteen", 14), ("fifteen", 15), ("sixteen", 16), ("seventeen", 17),
   ("eighteen", 18), ("nineteen", 19), ("twenty", 20), ("thirty", 30), ("forty", 40),
   ("fifty", 50), ("sixty", 60), ("seventy", 70), ("eighty", 80), ("ninety", 90),
   ("hundred", 100)]

def monthNames : List String :=
  ["january", "february", "march", "april", "may", "june", "july", "august", "september",
   "october", "november", "december"]

def number? (word : List Char) : Option Nat :=
  (numberWords.find? fun entry => entry.1.toList = word).map Prod.snd

/-- The number of a lowercase month name, from 1 to 12. -/
def month? (word : List Char) : Option UInt32 :=
  (monthNames.findIdx? fun name => name.toList = word).map fun index => UInt32.ofNat (index + 1)

def spokenNumber? (word : List Char) : Option Nat :=
  number? (Text.lowercase word)

def spokenMonth? (word : List Char) : Option UInt32 :=
  month? (Text.lowercase word)

end Vocabulary
end SpokenSales
