/-
This file says what a command is.
-/

import TapeShell.Fault
import TapeShell.Session
import TapeShell.Transcript

namespace TapeShell

/-- A machine is all that a command can change. -/
structure Machine where
  session : Session
  store : Store

/-- What a command wrote stays written even if it ends in a fault. -/
structure Outcome where
  machine : Machine
  transcript : Transcript
  status : Except Fault Int

/-- A command takes its arguments and the lines that were fed to it, if any were. -/
structure Command where
  name : String
  description : String
  usage : String
  category : String
  run : List String → Option (List String) → Machine → Outcome

namespace Status

def success : Int := 0

def failure : Int := 1

def misuse : Int := 2

def notFound : Int := 127

def ofBool (value : Bool) : Int :=
  if value then success else failure

end Status

namespace Machine

def resolve (machine : Machine) (path : String) : String :=
  Path.resolve machine.session.directory path

def readText (machine : Machine) (path : String) : Except Fault String :=
  (machine.store.readText (machine.resolve path)).mapError .store

def readLines (machine : Machine) (path : String) : Except Fault (List String) :=
  (machine.readText path).map Text.lines

/-- The lines come from the files in order, or from the input if no file is named. -/
def inputLines (machine : Machine) (input : Option (List String)) (files : List String) :
    Except Fault (List String) :=
  if files.isEmpty then .ok (input.getD [])
  else (files.mapM machine.readLines).map List.flatten

/-- The machine stays as it is. -/
def reply (machine : Machine) (output diagnostics : List String) (status : Int) : Outcome :=
  ⟨machine, ⟨output, diagnostics⟩, .ok status⟩

/-- The machine stays as it is, and nothing is written. -/
def refuse (machine : Machine) (fault : Fault) : Outcome :=
  ⟨machine, .empty, .error fault⟩

end Machine

end TapeShell
