import SpokenSales.Catalog.Sample
import SpokenSales.Cli.Arguments
import SpokenSales.Cli.Printed
import SpokenSales.Log.Setup

/-!
# Running an invocation

The log is set up if a directory is given for it, then the catalog is loaded, and then the
listing, the command of the arguments, or the commands on the input are answered.  The first
failure ends the run; what was printed before it stays.
-/

namespace SpokenSales
namespace Cli

structure Answers where
  start : Log.Start
  catalogFile : Except Storage.Fault (List UInt8)
  input : List UInt8

inductive Failure
  | log (error : SpokenSales.Log.SetupError)
  | catalog (error : CatalogError)
  | input (fault : Storage.Fault)
deriving DecidableEq, Repr

def Failure.message : Failure → String
  | log error => error.message
  | catalog error => error.message
  | input fault => s!"failed to read stdin: {fault.message}"

/-- What a run prints, how it ends, and what it reports to the log. -/
structure Report where
  output : List Char
  failure : Option Failure
  log : Option Log.Active
  events : List Log.Event

namespace Report

def exitCode (report : Report) : UInt32 :=
  if report.failure.isSome then 1 else 0

def errorOutput (report : Report) : String :=
  match report.failure with
  | some failure => s!"error: {failure.message}\n"
  | none => ""

def written (report : Report) : List Log.Line :=
  match report.log with
  | some active => Log.keep active.level report.events
  | none => []

end Report

def Invocation.logRequest? (invocation : Invocation) : Option Log.Decision :=
  invocation.logDirectory.map fun directory =>
    Log.request none (invocation.logLevel.getD Log.Level.default.label) directory

def openLog (invocation : Invocation) (start : Log.Start) :
    Except Failure (Option Log.Active × List Log.Event) :=
  match invocation.logRequest? with
  | none => .ok (none, [])
  | some decision =>
      match Log.settle none decision start with
      | (_, .error error) => .error (.log error)
      | (none, .ok ()) => .ok (none, [])
      | (some active, .ok ()) => .ok (some active, [.opened active.level active.directory])

def openCatalog (fresh : Nat → Uuid) (invocation : Invocation)
    (file : Except Storage.Fault (List UInt8)) :
    Except Failure (List Product × List Log.Event) :=
  match invocation.catalog with
  | none => .ok (Catalog.sample fresh, [])
  | some path =>
      match Catalog.ofFile fresh path file with
      | .error error => .error (.catalog error)
      | .ok catalog => .ok (catalog, [.catalogLoaded catalog.length])

structure Transcript where
  output : List Char
  failure : Option Failure
  events : List Log.Event

def answerCommand (json : Bool) (catalog : List Product) (text : String) : Transcript :=
  ⟨printResponse json (Assistant.respond catalog text), none, Assistant.events catalog text⟩

/-- Answers the commands on some lines, up to the first line that is no text.  Blank lines are
passed over. -/
def answerLines (json : Bool) (catalog : List Product) : List (List UInt8) → Transcript
  | [] => ⟨[], none, []⟩
  | line :: rest =>
      match Text.decode? line with
      | none => ⟨[], some (.input .notText), []⟩
      | some text =>
          let others := answerLines json catalog rest
          if Text.isBlankText text.toList then others
          else
            let first := answerCommand json catalog text
            ⟨first.output ++ others.output, others.failure, first.events ++ others.events⟩

def Invocation.readsInput (invocation : Invocation) : Bool :=
  !invocation.reset && invocation.words.isEmpty

def answer (invocation : Invocation) (catalog : List Product) (input : List UInt8) : Transcript :=
  if invocation.reset then ⟨printListing invocation.json (mostRecentFirst catalog), none, []⟩
  else if invocation.words.isEmpty then answerLines invocation.json catalog (Text.lines input)
  else answerCommand invocation.json catalog (" ".intercalate invocation.words)

def run (fresh : Nat → Uuid) (invocation : Invocation) (answers : Answers) : Report :=
  match openLog invocation answers.start with
  | .error failure => ⟨[], some failure, none, []⟩
  | .ok (log, logEvents) =>
      match openCatalog fresh invocation answers.catalogFile with
      | .error failure => ⟨[], some failure, log, logEvents⟩
      | .ok (catalog, catalogEvents) =>
          let transcript := answer invocation catalog answers.input
          ⟨transcript.output, transcript.failure, log,
            logEvents ++ catalogEvents ++ transcript.events⟩

end Cli
end SpokenSales
