import SpokenSales.Storage.Path

/-!
# Entries

What a path can lead to is a file or a directory, and a directory holds further entries under
names of their own.
-/

namespace SpokenSales
namespace Storage

inductive Entry
  | directory (entries : List (Name × Entry))
  | file (bytes : List UInt8)
deriving Repr

namespace Entry

def isDirectory : Entry → Bool
  | directory _ => true
  | file _ => false

def child? (parent : Entry) (name : Name) : Option Entry :=
  match parent with
  | directory entries => entries.lookup name
  | file _ => none

/-- A list of entries with another entry under a name, in the place of an old one if there is
one. -/
def store (name : Name) (entry : Entry) : List (Name × Entry) → List (Name × Entry)
  | [] => [(name, entry)]
  | (other, found) :: rest =>
      if other = name then (name, entry) :: rest else (other, found) :: store name entry rest

def put (parent : Entry) (name : Name) (entry : Entry) : Entry :=
  match parent with
  | directory entries => directory (store name entry entries)
  | file bytes => file bytes

def files : Entry → List (Name × List UInt8)
  | directory entries =>
      entries.filterMap fun
        | (name, file bytes) => some (name, bytes)
        | (_, directory _) => none
  | file _ => []

end Entry
end Storage
end SpokenSales
