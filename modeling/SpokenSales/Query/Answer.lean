import SpokenSales.Product
import SpokenSales.Query.Basic

/-!
# Answering a query

The products that pass both filters are sorted and, for a ranked query, cut off after the count.
Sorting is stable: products with the same key keep their order.
-/

namespace SpokenSales
namespace Query

def admits (query : Query) (product : Product) : Bool :=
  (match query.year with
    | none => true
    | some year => product.date.year = year.toInt) &&
  (match query.month with
    | none => true
    | some month => product.date.month = month.toNat)

def before : Kind → Product → Product → Bool
  | .top, a, b => b.sales ≤ a.sales
  | .bottom, a, b => a.sales ≤ b.sales
  | .all, a, b => b.date.rank ≤ a.date.rank
  | .unrecognized, a, b => b.date.rank ≤ a.date.rank

def limit (query : Query) : Nat :=
  match query.count with
  | none => 0
  | some count => count.toNat

def answer (query : Query) (products : List Product) : List Product :=
  let sorted := (products.filter query.admits).mergeSort (before query.kind)
  if query.kind.isRanked then sorted.take query.limit else sorted

end Query

def mostRecentFirst (products : List Product) : List Product :=
  Query.unrecognized.answer products

end SpokenSales
