/-!
# Paths

A path names a file by the names on the way to it.  Empty names and the name `.` lead nowhere,
so that paths which differ only in them have the same components.
-/

namespace SpokenSales
namespace Storage

/-- A name between two slashes. -/
abbrev Name : Type := List Char

def here : Name := ['.']

def up : Name := ['.', '.']

def names (path : String) : List Name :=
  path.toList.splitOn '/'

def normalNames (path : List Name) : List Name :=
  path.filter fun name => !name.isEmpty && name != here

def components (path : String) : List Name :=
  normalNames (names path)

def isAbsolute (path : String) : Bool :=
  path.toList.head? = some '/'

def byteLength (name : Name) : Nat :=
  (String.ofList name).utf8ByteSize

end Storage
end SpokenSales
