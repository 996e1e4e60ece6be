import SpokenSales.Command.Filters

/-!
# Unlimited commands

`all products of march 2024`: the keyword `all` and after it a year, with an optional month
before or after the year.  A ranking keyword anywhere makes the command a ranked one, even if
that turns out to be unusable.
-/

namespace SpokenSales
namespace Command

open Text

def unlimited? (text : List Char) : Option Query :=
  if (words text).any fun word => (ranking? word).isSome then none
  else
    match firstWord? (fun word => if isAll word then some () else none) (pieces text) with
    | none => none
    | some ((), after) =>
        let heard := after.filterMap Piece.letters?
        (firstYear? heard).map fun year => Query.all (firstMonth? heard) (some year)

end Command
end SpokenSales
