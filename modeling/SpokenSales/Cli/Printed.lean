import SpokenSales.Assistant
import SpokenSales.Query.Written

/-!
# Printed answers

An answer is printed as rows of text or as one line of JSON.  A row has the name and the sales in
columns and then the date.  In the JSON of a response the members stand in alphabetical order; a
plain listing keeps the order of the record.
-/

namespace SpokenSales
namespace Cli

def padRight (width : Nat) (text : List Char) : List Char :=
  text ++ List.replicate (width - text.length) ' '

def padLeft (width : Nat) (text : List Char) : List Char :=
  List.replicate (width - text.length) ' ' ++ text

def row (product : Product) : List Char :=
  padRight 16 product.name.toList ++ ' ' :: padLeft 6 (Text.decimal product.sales.toNat)
    ++ " sales  ".toList ++ product.date.write

def rows (products : List Product) : List (List Char) :=
  if products.isEmpty then ["No products.".toList] else products.map row

def warningLine (warning : Warning) : List Char :=
  "warning: ".toList ++ warning.message.toList

def unlines (texts : List (List Char)) : List Char :=
  texts.flatMap fun text => text ++ ['\n']

def sortedProduct (product : Product) : List Char :=
  Json.object
    [("date", Json.string product.date.write),
     ("id", Json.string product.id.write),
     ("name", Json.string product.name.toList),
     ("sales", Text.decimal product.sales.toNat)]

def sortedQuery (query : Query) : List Char :=
  Json.object
    [("count", Query.writeOptional (fun n => Text.decimal n.toNat) query.count),
     ("kind", Json.string query.kind.label.toList),
     ("month", Query.writeOptional (fun n => Text.decimal n.toNat) query.month),
     ("year", Query.writeOptional (fun n => Text.integer n.toInt) query.year)]

def jsonResponse (response : Response) : List Char :=
  Json.object
    [("products", Json.array (response.products.map sortedProduct)),
     ("query", sortedQuery response.query),
     ("warning", Query.writeOptional (fun warning => Json.string warning.message.toList)
       response.warning)]

def printResponse (json : Bool) (response : Response) : List Char :=
  if json then unlines [jsonResponse response]
  else unlines ((response.warning.map warningLine).toList ++ rows response.products)

def printListing (json : Bool) (products : List Product) : List Char :=
  if json then unlines [Product.writeList products] else unlines (rows products)

end Cli
end SpokenSales
