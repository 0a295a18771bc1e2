/-
This file defines the command that prints the first lines.
-/

import TapeShell.Command

namespace TapeShell.Builtin

namespace Head

/-- The number is a word of its own or follows the flag directly, and the last one wins. -/
def readArguments (limit : Nat) (files : List String) : List String → Option (Nat × List String)
  | [] => some (limit, files)
  | word :: rest =>
      match word.toList with
      | ['-', 'n'] =>
          match rest with
          | [] => none
          | number :: others =>
              match Text.Decimal.unsigned? number.toList with
              | none => none
              | some value => readArguments value files others
      | '-' :: 'n' :: number =>
          match Text.Decimal.unsigned? number with
          | none => none
          | some value => readArguments value files rest
      | _ => readArguments limit (files ++ [word]) rest

def usage : String := "head [-n N] [file...]"

end Head

def head : Command where
  name := "head"
  description := "Show first N lines"
  usage := Head.usage
  category := "text"
  run arguments input machine :=
    match Head.readArguments 10 [] arguments with
    | none => machine.reply [] ["usage: " ++ Head.usage] Status.misuse
    | some (limit, files) =>
        match machine.inputLines input files with
        | .error fault => machine.refuse fault
        | .ok lines => machine.reply (lines.take limit) [] Status.success

end TapeShell.Builtin
