import SpokenSales.Log.Level
import SpokenSales.Storage.Fault
import SpokenSales.Storage.Path

/-!
# Setting the log up

The log is opened once.  Asking again for the same level and directory changes nothing, and
asking for others is refused.  A request that fails before the log is open leaves everything as
it was, so that a later one may succeed.

Opening needs the file system: `request` says what to do, and `settle` takes in how it went.
-/

namespace SpokenSales
namespace Log

structure Active where
  level : Level
  directory : String
deriving DecidableEq, Repr

def fileName : String := "salesvoice_rCURRENT.log"

def Active.file (active : Active) : String :=
  s!"{active.directory}/{fileName}"

inductive SetupError
  | unsupportedLevel (name : String)
  | emptyDirectory
  | relativeDirectory (directory : String)
  | directoryNotMade (directory : String) (fault : Storage.Fault)
  | notStarted (wording : String)
  | otherDirectory (active asked : String)
  | otherLevel (active asked : Level)
deriving DecidableEq, Repr

def SetupError.message : SetupError → String
  | unsupportedLevel name =>
      s!"unsupported log level `{name}`; expected trace|debug|info|warn|error"
  | emptyDirectory => "log_dir cannot be empty"
  | relativeDirectory directory => s!"log_dir must be an absolute path, got `{directory}`"
  | directoryNotMade directory fault =>
      s!"failed to create log directory `{directory}`: {fault.message}"
  | notStarted wording => s!"failed to start logger: {wording}"
  | otherDirectory active asked =>
      s!"logging already initialized at `{active}`; refusing to switch to `{asked}`"
  | otherLevel active asked =>
      s!"logging already initialized with level `{active.label}`; "
        ++ s!"refusing to switch to `{asked.label}`"

def askedLevel (name : String) : Except SetupError Level :=
  match Level.ofLabel? (Level.canonical name) with
  | some level => .ok level
  | none => .error (.unsupportedLevel (String.ofList (Level.canonical name)))

def askedDirectory (directory : String) : Except SetupError String :=
  let trimmed := String.ofList (Text.trim directory.toList)
  if trimmed.isEmpty then .error .emptyDirectory
  else if Storage.isAbsolute trimmed then .ok trimmed
  else .error (.relativeDirectory trimmed)

inductive Decision
  | refuse (error : SetupError)
  | keep
  /-- The directory is to be made and the log to be started. -/
  | start (active : Active)
deriving DecidableEq, Repr

def Active.compare (active asked : Active) : Decision :=
  if Storage.components active.directory ≠ Storage.components asked.directory then
    .refuse (.otherDirectory active.directory asked.directory)
  else if active.level ≠ asked.level then .refuse (.otherLevel active.level asked.level)
  else .keep

def request (current : Option Active) (level directory : String) : Decision :=
  match askedLevel level with
  | .error error => .refuse error
  | .ok level =>
      match askedDirectory directory with
      | .error error => .refuse error
      | .ok directory =>
          match current with
          | none => .start ⟨level, directory⟩
          | some active => active.compare ⟨level, directory⟩

inductive Start
  | started
  | directoryNotMade (fault : Storage.Fault)
  | notStarted (wording : String)
deriving DecidableEq, Repr

/-- The log that is open after a decision, and the answer to the request.  How a start went
matters only if there was one. -/
def settle (current : Option Active) (decision : Decision) (start : Start) :
    Option Active × Except SetupError Unit :=
  match decision with
  | .refuse error => (current, .error error)
  | .keep => (current, .ok ())
  | .start active =>
      match start with
      | .started => (some active, .ok ())
      | .directoryNotMade fault => (current, .error (.directoryNotMade active.directory fault))
      | .notStarted wording => (current, .error (.notStarted wording))

end Log
end SpokenSales
