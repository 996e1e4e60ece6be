import SpokenSales.Storage.Position

/-!
# File trees

A tree of directories and files in memory, which answers requests as a file system does.  Names
are looked up one after the other, each in a directory that must exist.
-/

namespace SpokenSales
namespace Storage

/-- The root directory, and the names that lead from it to the working directory. -/
structure Tree where
  root : Entry
  working : List Name

namespace Tree

def longestPath : Nat := 4096

def checkPath (path : String) : Except Fault Unit :=
  if path.toList.contains '\x00' then .error .nulInPath
  else if path.isEmpty then .error .notFound
  else if longestPath ≤ path.utf8ByteSize then .error .nameTooLong
  else .ok ()

def way (tree : Tree) (path : String) : List Name :=
  if isAbsolute path then names path else tree.working ++ names path

def follow (tree : Tree) (path : List Name) : Except Fault Position :=
  (Position.top tree.root).follow path

def replace (tree : Tree) (position : Position) (entry : Entry) : Tree :=
  { tree with root := position.rootWith entry }

def read (tree : Tree) (path : String) : Except Fault (List UInt8) := do
  checkPath path
  let position ← tree.follow (tree.way path)
  match position.entry with
  | .file bytes => .ok bytes
  | .directory _ => .error .isDirectory

/-- Makes a new entry where some names lead to, unless there is one already. -/
def create (tree : Tree) (path : List Name) (entry : Entry) : Except Fault Tree := do
  let parent ← tree.follow path.dropLast
  match path.getLast? with
  | none => .error .alreadyExists
  | some name =>
      parent.checkNew name
      return tree.replace parent (parent.entry.put name entry)

def withoutSlashes (path : List Name) : List Name :=
  (path.reverse.dropWhile List.isEmpty).reverse

def makeDirectory (tree : Tree) (path : List Name) : Except Fault Tree :=
  tree.create (withoutSlashes path) (.directory [])

def leadsToDirectory (tree : Tree) (path : List Name) : Bool :=
  match tree.follow path with
  | .ok position => position.entry.isDirectory
  | .error _ => false

/-- The tree after an attempt to make a directory that may be there already, and how it went. -/
def ensured (tree : Tree) (path : List Name) (fault : Fault) : Tree × Except Fault Unit :=
  if tree.leadsToDirectory path then (tree, .ok ()) else (tree, .error fault)

/-- Makes a directory and the missing ones on the way to it, each by its own path.  The fuel is
the number of names. -/
def makeWay : Nat → Tree → List Name → Tree × Except Fault Unit
  | 0, tree, _ => (tree, .error .notFound)
  | fuel + 1, tree, path =>
      match tree.makeDirectory path with
      | .ok tree => (tree, .ok ())
      | .error .notFound =>
          match makeWay fuel tree (normalNames path).dropLast with
          | (tree, .error fault) => (tree, .error fault)
          | (tree, .ok ()) =>
              match tree.makeDirectory path with
              | .ok tree => (tree, .ok ())
              | .error fault => tree.ensured path fault
      | .error fault => tree.ensured path fault

def makeDirectories (tree : Tree) (path : String) : Tree × Except Fault Unit :=
  match checkPath path with
  | .error fault => (tree, .error fault)
  | .ok () => makeWay ((names path).length + 1) tree (names path)

def createFile (tree : Tree) (path : String) : Except Fault Tree := do
  checkPath path
  match tree.follow (tree.way path) with
  | .ok position =>
      match position.entry with
      | .directory _ => .error .isDirectory
      | .file _ => .ok (tree.replace position (.file []))
  | .error .notFound => tree.create (tree.way path) (.file [])
  | .error fault => .error fault

def append (tree : Tree) (path : String) (bytes : List UInt8) : Except Fault Tree := do
  checkPath path
  match tree.follow (tree.way path) with
  | .ok position =>
      match position.entry with
      | .directory _ => .error .isDirectory
      | .file found => .ok (tree.replace position (.file (found ++ bytes)))
  | .error .notFound => tree.create (tree.way path) (.file bytes)
  | .error fault => .error fault

def filesBelow (tree : Tree) (path : String) : Except Fault (List (String × List UInt8)) := do
  checkPath path
  let position ← tree.follow (tree.way path)
  let found := position.entry.files.map fun file => (String.ofList file.1, file.2)
  return found.mergeSort fun a b => a.1 ≤ b.1

end Tree
end Storage
end SpokenSales
