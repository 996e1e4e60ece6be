/-!
# What can be wrong with a JSON text

Reading goes from left to right and stops at the first fault: the text ends too early, it is not
JSON, or it is JSON of another shape than the reader wants.
-/

namespace SpokenSales
namespace Json

inductive Mismatch
  | missingField (name : String)
  | duplicateField (name : String)
  | invalidType
  | invalidValue
  | invalidLength
  | unknownVariant
  | badUuid
  | badDate
deriving DecidableEq, Repr

inductive Fault
  | truncated
  | malformed
  | mismatch (reason : Mismatch)
deriving DecidableEq, Repr

namespace Mismatch

def message : Mismatch → String
  | missingField name => s!"missing field `{name}`"
  | duplicateField name => s!"duplicate field `{name}`"
  | invalidType => "invalid type"
  | invalidValue => "invalid value"
  | invalidLength => "invalid length"
  | unknownVariant => "unknown variant"
  | badUuid => "bad uuid"
  | badDate => "bad date"

end Mismatch

namespace Fault

def message : Fault → String
  | truncated => "the text ends too early"
  | malformed => "the text is not well-formed"
  | mismatch reason => reason.message

end Fault
end Json
end SpokenSales
