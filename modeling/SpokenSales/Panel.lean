import SpokenSales.Assistant
import SpokenSales.Catalog.Sample
import SpokenSales.Log.Setup

/-!
# The panel

A user interface talks to the program through a panel.  The panel resolves its catalog when it
first needs one and keeps it: from a file if the environment names one that loads, else the
sample.  It sets the log up on request.

A call gets the answers of the file system that it may need, as they are at the time of the call.
It gives back the new state, the reply and the events.
-/

namespace SpokenSales
namespace Panel

structure Item where
  id : String
  name : String
  sales : UInt64
  date : String
deriving DecidableEq, Repr

structure View where
  items : List Item
  kind : String
  message : String
  showWarning : Bool
deriving DecidableEq, Repr

def item (product : Product) : Item :=
  ⟨String.ofList product.id.write, product.name, product.sales, String.ofList product.date.write⟩

def foundMessage (count : Nat) : String :=
  if count = 0 then "No products." else s!"Found {count} product(s)."

def view (response : Response) : View :=
  { items := response.products.map item
    kind := response.query.kind.label
    message :=
      match response.warning with
      | some warning => warning.message
      | none => foundMessage response.products.length
    showWarning := response.warning.isSome }

def listing (catalog : List Product) : View :=
  let products := mostRecentFirst catalog
  { items := products.map item
    kind := Kind.unrecognized.label
    message := foundMessage products.length
    showWarning := false }

/-- What does not change while the program runs: the value of the catalog variable, and the
identifiers for records that have none. -/
structure Setting where
  catalogVariable : Option String
  fresh : Nat → Uuid

def Setting.catalogPath? (setting : Setting) : Option String :=
  match setting.catalogVariable with
  | none => none
  | some raw =>
      let trimmed := String.ofList (Text.trim raw.toList)
      if trimmed.isEmpty then none else some trimmed

structure Answers where
  catalogFile : Except Storage.Fault (List UInt8)
  start : Log.Start

def resolve (setting : Setting) (answers : Answers) : List Product × List Log.Event :=
  match setting.catalogPath? with
  | none => (Catalog.sample setting.fresh, [])
  | some path =>
      match Catalog.ofFile setting.fresh path answers.catalogFile with
      | .ok catalog => (catalog, [.catalogLoaded catalog.length])
      | .error error => (Catalog.sample setting.fresh, [.sampleUsed error])

structure State where
  catalog : Option (List Product)
  log : Option Log.Active

def State.initial : State := ⟨none, none⟩

/-- The catalog of a panel, which is resolved unless that has been done, and the events. -/
def State.obtain (state : State) (setting : Setting) (answers : Answers) :
    List Product × List Log.Event :=
  match state.catalog with
  | some catalog => (catalog, [])
  | none => resolve setting answers

inductive Call
  | version
  | voice (text : String)
  | reset
  | interpret (text : String)
  | openLog (level directory : String)
  | logStatus
  | panic (location : String) (payload : Option String)
deriving DecidableEq, Repr

inductive Reply
  | text (text : String)
  | view (view : View)
  | query (query : Query)
  | status (log : Option Log.Active)
  | done
deriving DecidableEq, Repr

def call (setting : Setting) (answers : Answers) (state : State) :
    Call → State × Reply × List Log.Event
  | .version => (state, .text Log.version, [])
  | .voice text =>
      let (catalog, events) := state.obtain setting answers
      let command := String.ofList (Text.trim text.toList)
      ({ state with catalog := some catalog },
        .view (view (Assistant.respond catalog command)),
        events ++ Assistant.events catalog command)
  | .reset =>
      let (catalog, events) := state.obtain setting answers
      ({ state with catalog := some catalog }, .view (listing catalog), events)
  | .interpret text =>
      (state, .query (Command.parse text.toList), [Assistant.understanding text])
  | .openLog level directory =>
      let decision := Log.request state.log level directory
      let (log, outcome) := Log.settle state.log decision answers.start
      ({ state with log := log },
        .text (match outcome with
          | .ok () => ""
          | .error error => error.message),
        match decision, outcome with
        | .start active, .ok () => [.opened active.level active.directory]
        | _, _ => [])
  | .logStatus => (state, .status state.log, [])
  | .panic location payload => (state, .done, [.panicked location payload])

def written (state : State) (events : List Log.Event) : List Log.Line :=
  match state.log with
  | none => []
  | some active => Log.keep active.level events

end Panel
end SpokenSales
