/-
This file defines the command that prints the lines with a pattern in them.
-/

import TapeShell.Command
import TapeShell.Text.Lowercase
import TapeShell.Text.Search

namespace TapeShell.Builtin

structure GrepOptions where
  ignoreCase : Bool
  invert : Bool
  count : Bool
  number : Bool
  deriving DecidableEq, Repr

namespace Grep

def noOptions : GrepOptions := ⟨false, false, false, false⟩

def addLetter (options : GrepOptions) (letter : Char) : Option GrepOptions :=
  if letter = 'i' then some { options with ignoreCase := true }
  else if letter = 'v' then some { options with invert := true }
  else if letter = 'c' then some { options with count := true }
  else if letter = 'n' then some { options with number := true }
  else none

/-- The first letter that is no option is the fault. -/
def addLetters (options : GrepOptions) : List Char → Except Char GrepOptions
  | [] => .ok options
  | letter :: rest =>
      match addLetter options letter with
      | none => .error letter
      | some more => addLetters more rest

/-- The options are the words at the start that have a dash and something after it. -/
def readOptions (options : GrepOptions) : List String → Except Char (GrepOptions × List String)
  | [] => .ok (options, [])
  | word :: rest =>
      match word.toList with
      | '-' :: letter :: letters =>
          match addLetters options (letter :: letters) with
          | .error bad => .error bad
          | .ok more => readOptions more rest
      | _ => .ok (options, word :: rest)

def isHit (options : GrepOptions) (pattern line : String) : Bool :=
  if options.ignoreCase then
    Text.occursIn (Text.lowercase pattern).toList (Text.lowercase line).toList
  else Text.occursIn pattern.toList line.toList

/-- The selected lines keep their position, counted from one. -/
def select (options : GrepOptions) (pattern : String) (lines : List String) :
    List (String × Nat) :=
  (lines.zipIdx 1).filter fun entry => isHit options pattern entry.1 != options.invert

def report (options : GrepOptions) (selected : List (String × Nat)) : List String :=
  if options.count then [Text.Decimal.render selected.length]
  else if options.number then
    selected.map fun entry => Text.Decimal.render entry.2 ++ ":" ++ entry.1
  else selected.map Prod.fst

def usage : String := "grep [-i] [-v] [-c] [-n] <pattern> [file...]"

def search (machine : Machine) (input : Option (List String)) (options : GrepOptions)
    (pattern : String) (files : List String) : Outcome :=
  match machine.inputLines input files with
  | .error fault => machine.refuse fault
  | .ok lines =>
      let selected := select options pattern lines
      machine.reply (report options selected) [] (Status.ofBool !selected.isEmpty)

end Grep

def grep : Command where
  name := "grep"
  description := "Print lines containing a pattern"
  usage := Grep.usage
  category := "text"
  run arguments input machine :=
    match Grep.readOptions Grep.noOptions arguments with
    | .error letter =>
        machine.reply [] ["grep: invalid option -- '" ++ String.singleton letter ++ "'",
          "usage: " ++ Grep.usage] Status.misuse
    | .ok (_, []) => machine.reply [] ["usage: " ++ Grep.usage] Status.misuse
    | .ok (options, pattern :: files) => Grep.search machine input options pattern files

end TapeShell.Builtin
