/-
This file defines the commands that print files and move through the file tree.
-/

import TapeShell.Command

namespace TapeShell.Builtin

/-- This diagnostic names a file that a command cannot use. -/
def fileDiagnostic (command path : String) (fault : Fault) : String :=
  if fault.isAbsence then command ++ ": " ++ path ++ ": No such file or directory"
  else command ++ ": " ++ path ++ ": " ++ fault.message

/-- A file that cannot be read does not stop the files after it. -/
def printFiles (machine : Machine) (paths : List String) : Outcome :=
  let readings := paths.map fun path => (path, machine.readLines path)
  let output := readings.flatMap fun reading => (reading.2.toOption).getD []
  let diagnostics := readings.filterMap fun reading =>
    match reading.2 with
    | .ok _ => none
    | .error fault => some (fileDiagnostic "cat" reading.1 fault)
  machine.reply output diagnostics
    (if diagnostics.isEmpty then Status.success else Status.failure)

def cat : Command where
  name := "cat"
  description := "Print file contents"
  usage := "cat [file...]"
  category := "filesystem"
  run arguments input machine :=
    if arguments.isEmpty then machine.reply (input.getD []) [] Status.success
    else printFiles machine arguments

def pwd : Command where
  name := "pwd"
  description := "Print working directory"
  usage := "pwd"
  category := "filesystem"
  run _ _ machine := machine.reply [machine.session.directory] [] Status.success

/-- Without an argument the home directory is taken as the variable spells it. -/
def cdTarget (machine : Machine) : List String → String
  | directory :: _ => machine.resolve directory
  | [] => (machine.session.valueOf? "HOME").getD Path.root

def cd : Command where
  name := "cd"
  description := "Change directory"
  usage := "cd [dir]"
  category := "filesystem"
  run arguments _ machine :=
    let target := cdTarget machine arguments
    if machine.store.isDirectory target then
      ({ machine with session := machine.session.enter target } : Machine).reply [] []
        Status.success
    else machine.refuse (.command (.notDirectory target))

end TapeShell.Builtin
