import SpokenSales.Catalog.Basic
import SpokenSales.Command.Interpreter
import SpokenSales.Log.Level

/-!
# Log events

What the program reports about its own work.  An event tells how much was said and what came of
it, never the words.  Its line is a list of `key=value` entries.
-/

namespace SpokenSales
namespace Log

inductive Event
  | understood (shape : Command.Shape) (kind : Kind)
  /-- A command had no shape; its normal form has this many characters. -/
  | notUnderstood (characters : Nat)
  | answered (recognized : Bool) (kind : Kind) (results : Nat)
  | listening
  | updateIgnored
  | finished (characters : Nat)
  | recognizerFailed
  | catalogLoaded (products : Nat)
  /-- A catalog file could not be used, and the sample stands in for it. -/
  | sampleUsed (reason : CatalogError)
  | opened (level : Level) (directory : String)
  /-- The program panicked; a payload that is no text is absent. -/
  | panicked (location : String) (payload : Option String)
deriving DecidableEq, Repr

structure Line where
  level : Level
  message : String
deriving DecidableEq, Repr

def version : String := "0.1.0"

def payloadLimit : Nat := 160

/-- A text on one line, cut off after a number of characters. -/
def singleLine (limit : Nat) (text : List Char) : List Char :=
  let flat := text.map fun c => if c = '\n' ∨ c = '\r' then ' ' else c
  if limit < flat.length then flat.take limit ++ "...".toList else flat

def payloadText (payload : Option String) : String :=
  match payload with
  | some text => String.ofList (singleLine payloadLimit text.toList)
  | none => "non-string panic payload"

namespace Event

def level : Event → Level
  | understood .. | notUnderstood _ | listening | updateIgnored | finished _ => .debug
  | answered .. | catalogLoaded _ | opened .. => .info
  | recognizerFailed | sampleUsed _ => .warn
  | panicked .. => .error

def message : Event → String
  | understood shape kind =>
      "event=command_parse module=interpreter status=ok"
        ++ s!" matcher={shape.label} kind={kind.label}"
  | notUnderstood characters =>
      s!"event=command_parse module=interpreter status=unmatched input_chars={characters}"
  | answered recognized kind results =>
      "event=command_run module=service status=" ++ (if recognized then "ok" else "unrecognized")
        ++ s!" kind={kind.label} results={results}"
  | listening => "event=transcript_start module=transcript status=ok"
  | updateIgnored =>
      "event=transcript_update module=transcript status=ignored reason=not_listening"
  | finished characters =>
      s!"event=transcript_final module=transcript status=ok chars={characters}"
  | recognizerFailed => "event=transcript_fail module=transcript status=error"
  | catalogLoaded products =>
      s!"event=catalog_load module=catalog status=ok products={products}"
  | sampleUsed reason =>
      s!"event=catalog_load module=ffi status=fallback reason={reason.message}"
  | opened level directory =>
      "event=core_init module=logging status=ok"
        ++ s!" level={level.label} log_dir={directory} version={version}"
  | panicked location payload =>
      "event=panic_captured module=core status=error"
        ++ s!" location={location} payload={payloadText payload}"

def line (event : Event) : Line :=
  ⟨event.level, event.message⟩

end Event

namespace Line

def text (line : Line) : String :=
  s!"{line.level.mark} {line.message}"

end Line

/-- The lines of some events that a log of a level keeps. -/
def keep (threshold : Level) (events : List Event) : List Line :=
  (events.map Event.line).filter fun line => line.level.passes threshold

end Log
end SpokenSales
