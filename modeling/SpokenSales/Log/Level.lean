import SpokenSales.Text.Blank

/-!
# Log levels

Every log line has a level.  A log keeps the lines of its own level and of the graver ones.
-/

namespace SpokenSales
namespace Log

inductive Level
  | trace
  | debug
  | info
  | warn
  | error
deriving DecidableEq, Repr

namespace Level

def gravity : Level → Nat
  | trace => 0
  | debug => 1
  | info => 2
  | warn => 3
  | error => 4

def label : Level → String
  | trace => "trace"
  | debug => "debug"
  | info => "info"
  | warn => "warn"
  | error => "error"

def mark : Level → String
  | trace => "TRACE"
  | debug => "DEBUG"
  | info => "INFO"
  | warn => "WARN"
  | error => "ERROR"

def passes (level threshold : Level) : Bool :=
  threshold.gravity ≤ level.gravity

def default : Level := debug

def ofLabel? (name : List Char) : Option Level :=
  if name = "warning".toList then some warn
  else [trace, debug, info, warn, error].find? fun level => level.label.toList = name

/-- A level name without the white space around it and in lower case. -/
def canonical (name : String) : List Char :=
  (Text.trim name.toList).map Char.toLower

end Level
end Log
end SpokenSales
