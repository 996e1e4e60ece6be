import SpokenSales.Date.Written
import SpokenSales.Uuid

/-!
# Products

A product record has an identifier, a name, the units sold and the day of the sale.  The
identifier is not nil and the name is not blank.
-/

namespace SpokenSales

structure Product where
  id : Uuid
  name : String
  sales : UInt64
  date : Date
deriving DecidableEq, Repr

inductive ProductError
  | nilId
  | blankName
deriving DecidableEq, Repr

def ProductError.message : ProductError → String
  | nilId => "product id must not be nil"
  | blankName => "product name must not be blank"

namespace Product

/-- The first fault of a record, the identifier being looked at before the name. -/
def validate (product : Product) : Except ProductError Unit :=
  if product.id = Uuid.nil then .error .nilId
  else if Text.isBlankText product.name.toList then .error .blankName
  else .ok ()

def make (id : Uuid) (name : String) (sales : UInt64) (date : Date) :
    Except ProductError Product :=
  match validate ⟨id, name, sales, date⟩ with
  | .ok () => .ok ⟨id, name, sales, date⟩
  | .error fault => .error fault

end Product
end SpokenSales
