/-!
# Faults of the file system

The reasons for which a file cannot be read or a directory cannot be made, with the wording and
the number that the operating system gives them.
-/

namespace SpokenSales
namespace Storage

inductive Fault
  | notFound
  | alreadyExists
  | notDirectory
  | isDirectory
  | nameTooLong
  /-- The path contains the character that ends names. -/
  | nulInPath
  | notText
  | other (wording : String)
deriving DecidableEq, Repr

namespace Fault

def message : Fault → String
  | notFound => "No such file or directory (os error 2)"
  | alreadyExists => "File exists (os error 17)"
  | notDirectory => "Not a directory (os error 20)"
  | isDirectory => "Is a directory (os error 21)"
  | nameTooLong => "File name too long (os error 36)"
  | nulInPath => "file name contained an unexpected NUL byte"
  | notText => "stream did not contain valid UTF-8"
  | other wording => wording

end Fault
end Storage
end SpokenSales
