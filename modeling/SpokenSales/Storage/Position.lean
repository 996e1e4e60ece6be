import SpokenSales.Storage.Entry
import SpokenSales.Storage.Fault

/-!
# Positions

A position in a file tree is an entry together with the directories above it, so that one step
along a path, down to a name or back up, does not have to start over at the root.
-/

namespace SpokenSales
namespace Storage

def longestName : Nat := 255

/-- An entry and the directories above it, nearest first, each with the name that leads from it
towards the entry. -/
structure Position where
  entry : Entry
  above : List (Name × Entry)

namespace Position

def top (root : Entry) : Position :=
  ⟨root, []⟩

def parent (position : Position) : Position :=
  match position.above with
  | [] => position
  | (_, directory) :: rest => ⟨directory, rest⟩

def enter (position : Position) (name : Name) : Except Fault Position :=
  if !position.entry.isDirectory then .error .notDirectory
  else if name.isEmpty || name = here then .ok position
  else if name = up then .ok position.parent
  else if longestName < byteLength name then .error .nameTooLong
  else
    match position.entry.child? name with
    | some entry => .ok ⟨entry, (name, position.entry) :: position.above⟩
    | none => .error .notFound

def follow (position : Position) (path : List Name) : Except Fault Position :=
  path.foldlM enter position

def rootWith (position : Position) (entry : Entry) : Entry :=
  position.above.foldl (fun below step => step.2.put step.1 below) entry

def checkNew (position : Position) (name : Name) : Except Fault Unit :=
  if !position.entry.isDirectory then .error .notDirectory
  else if name.isEmpty || name = here || name = up then .error .alreadyExists
  else if longestName < byteLength name then .error .nameTooLong
  else if (position.entry.child? name).isSome then .error .alreadyExists
  else .ok ()

end Position
end Storage
end SpokenSales
