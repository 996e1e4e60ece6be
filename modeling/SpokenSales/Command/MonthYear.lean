import SpokenSales.Command.Filters
import SpokenSales.Text.Blank

/-!
# Commands that only name a month

`march 2024` or `2024, march`: without any keyword, the first two neighbouring words of which
one is a month and the other a year, with nothing but white space and commas between them.
-/

namespace SpokenSales
namespace Command

open Text

/-- Whether a character may stand between a month and its year. -/
def isSeparator (c : Char) : Bool :=
  isBlank c || c = ','

def monthAndYear? (first second : List Char) : Option (UInt32 × Int32) :=
  match Vocabulary.month? first, year? second with
  | some month, some year => some (month, year)
  | _, _ =>
      match Vocabulary.month? second, year? first with
      | some month, some year => some (month, year)
      | _, _ => none

def nextWord? (separated : Bool) : List Piece → Option (List Char)
  | .gap c :: rest => if isSeparator c then nextWord? true rest else none
  | .word letters :: _ => if separated then some letters else none
  | [] => none

def neighbours? : List Piece → Option (UInt32 × Int32)
  | [] => none
  | .gap _ :: rest => neighbours? rest
  | .word letters :: rest =>
      match (nextWord? false rest).bind (monthAndYear? letters) with
      | some found => some found
      | none => neighbours? rest

def monthYear? (text : List Char) : Option Query :=
  if (words text).any fun word => (ranking? word).isSome || isAll word then none
  else (neighbours? (pieces text)).map fun found => Query.all (some found.1) (some found.2)

end Command
end SpokenSales
