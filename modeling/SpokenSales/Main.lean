import SpokenSales.Cli.Help
import SpokenSales.Cli.Run

/-!
# The program

The command line asks the surroundings what a run needs to know, in the order in which the run
uses it, and prints what the run reports.
-/

namespace SpokenSales

def catalogVariable : String := "SALESVOICE_CATALOG_PATH"

/-- Whether an error has a code, which may be given as a negative number. -/
def hasCode (code found : UInt32) : Bool :=
  found = code || found = 0 - code

def Storage.Fault.ofError : IO.Error → Storage.Fault
  | .noFileOrDirectory .. => .notFound
  | .alreadyExists .. => .alreadyExists
  | .inappropriateType file code details =>
      if hasCode 20 code then .notDirectory
      else if hasCode 21 code then .isDirectory
      else .other (toString (IO.Error.inappropriateType file code details))
  | .invalidArgument file code details =>
      if hasCode 36 code then .nameTooLong
      else .other (toString (IO.Error.invalidArgument file code details))
  | error => .other (toString error)

def ask (path : String) (request : IO α) : IO (Except Storage.Fault α) := do
  if path.toList.contains '\x00' then return .error .nulInPath
  try
    return .ok (← request)
  catch error =>
    return .error (Storage.Fault.ofError error)

/-- Succeeds if a path leads to a directory, which shows when it is read like a file. -/
def expectDirectory (path : String) (fault : Storage.Fault) :
    IO (Except Storage.Fault Unit) := do
  match ← ask path (IO.FS.readBinFile path) with
  | .error .isDirectory => return .ok ()
  | _ => return .error fault

def parentPath (path : String) : String :=
  "/" ++ "/".intercalate ((Storage.components path).dropLast.map String.ofList)

def makeDirectories : Nat → String → IO (Except Storage.Fault Unit)
  | 0, _ => return .error .notFound
  | fuel + 1, path => do
      match ← ask path (IO.FS.createDir path) with
      | .ok () => return .ok ()
      | .error .notFound =>
          match ← makeDirectories fuel (parentPath path) with
          | .error fault => return .error fault
          | .ok () =>
              match ← ask path (IO.FS.createDir path) with
              | .ok () => return .ok ()
              | .error fault => expectDirectory path fault
      | .error fault => expectDirectory path fault

def startLog : Option Log.Decision → IO Log.Start
  | some (.start active) => do
      let size := (Storage.names active.directory).length
      match ← makeDirectories (size + 1) active.directory with
      | .ok () => return .started
      | .error fault => return .directoryNotMade fault
  | _ => return .started

def readCatalog : Option String → IO (Except Storage.Fault (List UInt8))
  | some path => do
      let bytes ← ask path (IO.FS.readBinFile path)
      return bytes.map ByteArray.toList
  | none => return .error .notFound

def readInput (needed : Bool) : IO (List UInt8) := do
  if needed then
    let bytes ← (← IO.getStdin).readBinToEnd
    return bytes.toList
  else
    return []

def writeLog (report : Cli.Report) : IO Unit := do
  match report.log, report.written with
  | some active, line :: lines =>
      let file ← IO.FS.Handle.mk active.file .append
      for entry in line :: lines do
        file.putStrLn entry.text
  | _, _ => return

def randomSeed : IO (BitVec 122) := do
  let bytes ← IO.getRandomBytes 16
  return BitVec.ofNat 122 (bytes.toList.foldl (fun n byte => 256 * n + byte.toNat) 0)

/-- Runs an invocation, prints its report and gives back the exit code. -/
def perform (invocation : Cli.Invocation) : IO UInt32 := do
  let start ← startLog invocation.logRequest?
  let catalogFile ← readCatalog invocation.catalog
  let input ← readInput invocation.readsInput
  let report := Cli.run (Uuid.supply (← randomSeed)) invocation ⟨start, catalogFile, input⟩
  writeLog report
  IO.print (String.ofList report.output)
  IO.eprint report.errorOutput
  return report.exitCode

end SpokenSales

open SpokenSales in
def main (arguments : List String) : IO UInt32 := do
  match Cli.Invocation.read arguments (← IO.getEnv catalogVariable) with
  | .error .help => IO.print Cli.helpText; return 0
  | .error .version => IO.print Cli.versionText; return 0
  | .error .usage => IO.eprint Cli.usageText; return 2
  | .ok invocation => perform invocation
