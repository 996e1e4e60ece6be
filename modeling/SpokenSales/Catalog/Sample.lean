import SpokenSales.Product

/-!
# The sample catalog

Nine records to try commands on, each with a fresh identifier.
-/

namespace SpokenSales
namespace Catalog

def sampleRow (name : String) (sales : UInt64) (year : Int) (month day : Nat)
    (valid : IsCalendarDay year month day := by decide) (id : Uuid) : Product :=
  ⟨id, name, sales, ⟨year, month, day, valid⟩⟩

def sampleRows : List (Uuid → Product) :=
  [sampleRow "Notebook" 100 2024 1 10,
   sampleRow "Printer" 150 2024 1 22,
   sampleRow "Desk Chair" 80 2024 3 5,
   sampleRow "Monitor" 200 2024 3 18,
   sampleRow "Paper Ream" 120 2024 5 7,
   sampleRow "Notebook" 140 2025 1 5,
   sampleRow "Printer" 170 2025 1 18,
   sampleRow "Monitor" 230 2025 3 25,
   sampleRow "Desk Chair" 205 2025 11 6]

def sample (fresh : Nat → Uuid) : List Product :=
  sampleRows.mapIdx fun index row => row (fresh index)

end Catalog
end SpokenSales
