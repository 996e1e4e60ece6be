import SpokenSales.Command.MonthYear
import SpokenSales.Command.Normal
import SpokenSales.Command.Ranked
import SpokenSales.Command.Unlimited

/-!
# Understanding a command

The three shapes of command are tried in a fixed order on the normal form of the text, and the
first that fits gives the query.  A text that has none of the shapes is unrecognized.
-/

namespace SpokenSales
namespace Command

inductive Shape
  | ranked
  | unlimited
  | monthYear
deriving DecidableEq, Repr

namespace Shape

def label : Shape → String
  | ranked => "ranked"
  | unlimited => "all"
  | monthYear => "month_year"

def query? : Shape → List Char → Option Query
  | ranked => ranked?
  | unlimited => unlimited?
  | monthYear => monthYear?

end Shape

def shapes : List Shape :=
  [.ranked, .unlimited, .monthYear]

def recognize? (normal : List Char) : Option (Shape × Query) :=
  shapes.findSome? fun shape => (shape.query? normal).map fun query => (shape, query)

def parse (text : List Char) : Query :=
  match recognize? (normalize text) with
  | some (_, query) => query
  | none => Query.unrecognized

end Command
end SpokenSales
