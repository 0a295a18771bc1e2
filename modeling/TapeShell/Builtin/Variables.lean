/-
This file defines the command that lists and sets variables.
-/

import TapeShell.Command

namespace TapeShell.Builtin

def isNameStart (character : Char) : Bool :=
  character.isAlpha || character == '_'

def isNamePart (character : Char) : Bool :=
  character.isAlphanum || character == '_'

/-- A name starts with a basic letter or an underscore and goes on with those and digits. -/
def isName (name : String) : Bool :=
  match name.toList with
  | [] => false
  | first :: rest => isNameStart first && rest.all isNamePart

/-- An assignment is cut at its first equals sign. -/
def assignment? (argument : String) : Option (String × String) :=
  match argument.toList.dropWhile fun character => character != '=' with
  | [] => none
  | _ :: value =>
      some (String.ofList (argument.toList.takeWhile fun character => character != '='),
        String.ofList value)

/-- An argument without an equals sign changes nothing. -/
def assign (session : Session) (argument : String) : Session :=
  match assignment? argument with
  | some (name, value) => if isName name then session.setVariable name value else session
  | none => session

def isInvalidAssignment (argument : String) : Bool :=
  match assignment? argument with
  | some (name, _) => !isName name
  | none => false

def listVariables (session : Session) : List String :=
  session.bindings.entries.map fun entry => entry.1 ++ "=" ++ entry.2

def exportVariables : Command where
  name := "export"
  description := "Set environment variables"
  usage := "export [NAME=value...]"
  category := "config"
  run arguments _ machine :=
    if arguments.isEmpty then machine.reply (listVariables machine.session) [] Status.success
    else
      let invalid := arguments.filter isInvalidAssignment
      ({ machine with session := arguments.foldl assign machine.session } : Machine).reply []
        (invalid.map fun argument => "export: '" ++ argument ++ "': not a valid identifier")
        (if invalid.isEmpty then Status.success else Status.misuse)

end TapeShell.Builtin
