import SpokenSales.Log.Event
import SpokenSales.Query.Answer

/-!
# The assistant

The assistant understands a command, answers the query, and warns when there was nothing to
understand.  An unrecognized command is answered with the whole listing.
-/

namespace SpokenSales

inductive Warning
  | unrecognized
deriving DecidableEq, Repr

def Warning.message : Warning → String
  | unrecognized => "Please say a number after 'top'"

structure Response where
  query : Query
  products : List Product
  warning : Option Warning
deriving DecidableEq, Repr

namespace Assistant

def respond (catalog : List Product) (text : String) : Response :=
  let query := Command.parse text.toList
  ⟨query, query.answer catalog, if query.isRecognized then none else some .unrecognized⟩

def understanding (text : String) : Log.Event :=
  let normal := Command.normalize text.toList
  match Command.recognize? normal with
  | some (shape, query) => .understood shape query.kind
  | none => .notUnderstood normal.length

def answering (response : Response) : Log.Event :=
  .answered response.warning.isNone response.query.kind response.products.length

def events (catalog : List Product) (text : String) : List Log.Event :=
  [understanding text, answering (respond catalog text)]

end Assistant
end SpokenSales
