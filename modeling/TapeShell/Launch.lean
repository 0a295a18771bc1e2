/-
This file starts a shell from its command line and runs the lines of its input.
-/

import TapeShell.Builtin
import TapeShell.Launch.Host
import TapeShell.Run
import TapeShell.Settings
import TapeShell.Tape.Backup

namespace TapeShell.Launch

/-- Later options replace earlier ones. -/
structure Options where
  settings : Option String
  tape : Option String
  deriving DecidableEq, Repr

/-- A fault of the launch ends the program before or while it runs. -/
inductive Failure where
  | missingPath (option : String)
  | unknownArgument (argument : String)
  | fault (cause : Fault)
  | unreadableTape (path : String) (refusal : Refusal)
  | invalidInput
  deriving DecidableEq, Repr

def Failure.message : Failure → String
  | .missingPath option => option ++ " needs a path"
  | .unknownArgument argument =>
      "unknown argument: " ++ argument ++ " (usage: koma [--config PATH] [--tape PATH])"
  | .fault cause => cause.message
  | .unreadableTape path refusal =>
      "reading tape " ++ path ++ "\n\nCaused by:\n    " ++ refusal.message
  | .invalidInput => Refusal.invalidText.message

def readOptions (options : Options) : List String → Except Failure Options
  | [] => .ok options
  | argument :: rest =>
      if argument = "--config" then
        match rest with
        | [] => .error (.missingPath argument)
        | path :: others => readOptions { options with settings := some path } others
      else if argument = "--tape" then
        match rest with
        | [] => .error (.missingPath argument)
        | path :: others => readOptions { options with tape := some path } others
      else .error (.unknownArgument argument)

/-- The environment names the settings if no option does. -/
def Options.ofArguments (arguments : List String) (environment : Option String) :
    Except Failure Options :=
  (readOptions ⟨none, none⟩ arguments).map fun options =>
    { options with settings := options.settings.or environment }

def loadSettings (host : Host) : Option String → Except Failure Settings
  | none => .ok Settings.standard
  | some path =>
      match host.readText path with
      | .error refusal => .error (.fault (.settings (.unreadable path refusal.message)))
      | .ok text => (Settings.parse text).mapError .fault

def standardStore : Except Store.Fault Store := do
  (← Store.fresh.makeDirectory "/home").makeDirectory "/tmp"

/-- A tape is restored into a fresh store. Without one the store has the usual directories. -/
def startStore : Option Tape → Except Fault Store
  | none => standardStore.mapError .store
  | some tape =>
      match tape.restore Store.fresh with
      | (store, .ok _) => .ok store
      | (_, .error fault) => .error fault

/-- The working directory is created if it is not one. -/
def prepareStore (tape : Option Tape) (settings : Settings) : Except Fault Store := do
  let store ← startStore tape
  if store.isDirectory settings.directory then return store
  else (store.makeDirectory settings.directory).mapError .store

def loadTape (host : Host) : Option String → Except Failure (Option Tape)
  | none => .ok none
  | some path =>
      match host.readText path with
      | .error refusal => .error (.unreadableTape path refusal)
      | .ok text => (Tape.parse text).mapError .fault |>.map some

/-- The settings are read before the tape. -/
def prepare (host : Host) (arguments : List String) (environment : Option String) :
    Except Failure Machine := do
  let options ← Options.ofArguments arguments environment
  let settings ← loadSettings host options.settings
  let tape ← loadTape host options.tape
  let store ← (prepareStore tape settings).mapError .fault
  return ⟨Session.ofSettings settings, store⟩

/-- Input is cut at newlines, and a carriage return before a newline belongs to it. -/
def inputLines : List UInt8 → List (List UInt8)
  | [] => []
  | 0x0d :: 0x0a :: rest => [] :: inputLines rest
  | byte :: rest =>
      if byte = 0x0a then [] :: inputLines rest
      else match inputLines rest with
        | [] => [[byte]]
        | line :: others => (byte :: line) :: others

/-- A line that is not text ends the run. -/
def runLines (machine : Machine) : List (List UInt8) → Machine × Transcript × Option Failure
  | [] => (machine, .empty, none)
  | bytes :: rest =>
      match Text.Utf8.decode? bytes with
      | none => (machine, .empty, some .invalidInput)
      | some line =>
          let reply := machine.runLine Catalog.standard line
          let (final, transcript, failure) := runLines reply.machine rest
          (final, reply.transcript.append transcript, failure)

/-- The program leaves what it wrote, the failure that ended it, and a code. -/
structure Exit where
  transcript : Transcript
  failure : Option Failure
  code : Nat
  deriving DecidableEq, Repr

/-- A run that fails exits with one, and else the last status decides. -/
def run (host : Host) (arguments : List String) (environment : Option String)
    (input : List UInt8) : Exit :=
  match prepare host arguments environment with
  | .error failure => ⟨.empty, some failure, 1⟩
  | .ok machine =>
      match runLines machine (inputLines input) with
      | (final, transcript, none) => ⟨transcript, none, (final.session.lastStatus % 256).toNat⟩
      | (_, transcript, some failure) => ⟨transcript, some failure, 1⟩

/-- Every line that was written ends in a newline. -/
def Exit.outputText (result : Exit) : String :=
  String.join (result.transcript.output.map fun line => line ++ "\n")

def Exit.diagnosticsText (result : Exit) : String :=
  String.join (result.transcript.diagnostics.map fun line => line ++ "\n")

def Failure.line (failure : Failure) : String :=
  "Error: " ++ failure.message

end TapeShell.Launch
