/-!
# Command-line arguments

Options may stand anywhere among the words of the command.  An option takes its value from the
same argument after an equals sign or from the next argument, which must not look like an option.
Every option and flag may be given once.  After `--` there are only words, and a lone hyphen is a
word.
-/

namespace SpokenSales
namespace Cli

structure Invocation where
  words : List String
  catalog : Option String
  reset : Bool
  json : Bool
  logLevel : Option String
  logDirectory : Option String
deriving DecidableEq, Repr

inductive Stop
  | usage
  | help
  | version
deriving DecidableEq, Repr

inductive Setting
  | catalog
  | logLevel
  | logDirectory
deriving DecidableEq, Repr

inductive Shape
  | word
  | separator
  | stop (reason : Stop)
  | resetFlag
  | jsonFlag
  | setting (setting : Setting) (value : Option String)
deriving DecidableEq, Repr

def looksLikeOption (argument : String) : Bool :=
  argument != "-" && argument.toList.head? = some '-'

def longShape (body : List Char) : Shape :=
  let name := String.ofList (body.takeWhile (· != '='))
  let value := (body.dropWhile (· != '=')).tail?.map String.ofList
  match name, value with
  | "", none => .separator
  | "help", none => .stop .help
  | "version", none => .stop .version
  | "reset", none => .resetFlag
  | "json", none => .jsonFlag
  | "catalog", value => .setting .catalog value
  | "log-level", value => .setting .logLevel value
  | "log-dir", value => .setting .logDirectory value
  | _, _ => .stop .usage

def shape (argument : String) : Shape :=
  match argument.toList with
  | '-' :: '-' :: body => longShape body
  | '-' :: 'h' :: _ => .stop .help
  | '-' :: 'V' :: _ => .stop .version
  | '-' :: _ :: _ => .stop .usage
  | _ => .word

def Invocation.empty : Invocation := ⟨[], none, false, false, none, none⟩

def Invocation.addWord (invocation : Invocation) (word : String) : Invocation :=
  { invocation with words := invocation.words ++ [word] }

/-- The invocation with the value of an option, which is refused if the option has one already.
The names of files and directories must not be empty. -/
def Invocation.set (invocation : Invocation) (setting : Setting) (value : String) :
    Except Stop Invocation :=
  match setting with
  | .catalog =>
      if invocation.catalog.isSome || value.isEmpty then .error .usage
      else .ok { invocation with catalog := some value }
  | .logLevel =>
      if invocation.logLevel.isSome then .error .usage
      else .ok { invocation with logLevel := some value }
  | .logDirectory =>
      if invocation.logDirectory.isSome || value.isEmpty then .error .usage
      else .ok { invocation with logDirectory := some value }

/-- Reads the arguments from the left and stops at the first that decides the matter. -/
def readArguments (invocation : Invocation) : List String → Except Stop Invocation
  | [] => .ok invocation
  | argument :: rest =>
      match shape argument with
      | .word => readArguments (invocation.addWord argument) rest
      | .separator => .ok { invocation with words := invocation.words ++ rest }
      | .stop reason => .error reason
      | .resetFlag =>
          if invocation.reset then .error .usage
          else readArguments { invocation with reset := true } rest
      | .jsonFlag =>
          if invocation.json then .error .usage
          else readArguments { invocation with json := true } rest
      | .setting setting (some value) =>
          match invocation.set setting value with
          | .error reason => .error reason
          | .ok invocation => readArguments invocation rest
      | .setting setting none =>
          match rest with
          | [] => .error .usage
          | value :: rest =>
              if looksLikeOption value then .error .usage
              else
                match invocation.set setting value with
                | .error reason => .error reason
                | .ok invocation => readArguments invocation rest

def Invocation.withEnvironment (invocation : Invocation) (environment : Option String) :
    Except Stop Invocation :=
  match invocation.catalog, environment with
  | none, some value => invocation.set .catalog value
  | _, _ => .ok invocation

def Invocation.read (arguments : List String) (environment : Option String) :
    Except Stop Invocation :=
  match readArguments Invocation.empty arguments with
  | .error reason => .error reason
  | .ok invocation => invocation.withEnvironment environment

end Cli
end SpokenSales
