import SpokenSales.Catalog.Record
import SpokenSales.Storage.Fault
import SpokenSales.Text.Lines

/-!
# Catalogs

A catalog is a list of valid products with distinct identifiers.  It is made from products or
from the records of a JSON text, and the first offence is reported.
-/

namespace SpokenSales

inductive CatalogError
  | unreadable (path : String) (fault : Storage.Fault)
  | json (fault : Json.Fault)
  | invalid (index : Nat) (fault : ProductError)
  | duplicateId (id : Uuid)
deriving DecidableEq, Repr

namespace CatalogError

def message : CatalogError → String
  | unreadable path fault => s!"failed to read catalog `{path}`: {fault.message}"
  | json fault => s!"invalid catalog JSON: {fault.message}"
  | invalid index fault => s!"invalid catalog record #{index}: {fault.message}"
  | duplicateId id => s!"duplicate product id in catalog: {String.ofList id.write}"

def cause? : CatalogError → Option String
  | unreadable _ fault => some fault.message
  | json fault => some fault.message
  | invalid _ fault => some fault.message
  | duplicateId _ => none

end CatalogError

namespace Catalog

def checkFrom (index : Nat) (seen : List Uuid) : List Product → Except CatalogError Unit
  | [] => .ok ()
  | product :: rest =>
      match product.validate with
      | .error fault => .error (.invalid index fault)
      | .ok () =>
          if product.id ∈ seen then .error (.duplicateId product.id)
          else checkFrom (index + 1) (product.id :: seen) rest

/-- The catalog of some products, unless one is invalid or repeats an identifier. -/
def ofProducts (products : List Product) : Except CatalogError (List Product) :=
  match checkFrom 0 [] products with
  | .error error => .error error
  | .ok () => .ok products

/-- The products of some records from position `index` on.  A record without an identifier gets
the fresh one of its position. -/
def productsFrom (fresh : Nat → Uuid) (index : Nat) :
    List Record → Except CatalogError (List Product)
  | [] => .ok []
  | record :: rest =>
      match Product.make (record.id.getD (fresh index)) record.name record.sales record.date with
      | .error fault => .error (.invalid index fault)
      | .ok product =>
          match productsFrom fresh (index + 1) rest with
          | .error error => .error error
          | .ok products => .ok (product :: products)

def ofRecords (fresh : Nat → Uuid) (records : List Record) : Except CatalogError (List Product) :=
  match productsFrom fresh 0 records with
  | .error error => .error error
  | .ok products => ofProducts products

def ofJson (fresh : Nat → Uuid) (text : List Char) : Except CatalogError (List Product) :=
  match Record.listOfJson text with
  | .error fault => .error (.json fault)
  | .ok records => ofRecords fresh records

/-- The catalog of a file, given its path and what reading it gave. -/
def ofFile (fresh : Nat → Uuid) (path : String) (contents : Except Storage.Fault (List UInt8)) :
    Except CatalogError (List Product) :=
  match contents with
  | .error fault => .error (.unreadable path fault)
  | .ok bytes =>
      match Text.decode? bytes with
      | none => .error (.unreadable path .notText)
      | some text => ofJson fresh text.toList

end Catalog
end SpokenSales
