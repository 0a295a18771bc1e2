/-
This file defines the command that counts lines, words and bytes.
-/

import TapeShell.Command
import TapeShell.Text.Blank
import TapeShell.Text.Search

namespace TapeShell.Builtin

/-- The lines of a text are its newlines, and its bytes are those of its UTF-8 form. -/
structure Tally where
  lines : Nat
  words : Nat
  bytes : Nat
  deriving DecidableEq, Repr

def Tally.ofText (text : String) : Tally :=
  ⟨Text.occurrences '\n' text, Text.wordCount text.toList, (Text.Utf8.encode text).length⟩

def Tally.add (first second : Tally) : Tally :=
  ⟨first.lines + second.lines, first.words + second.words, first.bytes + second.bytes⟩

def Tally.sum (tallies : List Tally) : Tally :=
  tallies.foldl Tally.add ⟨0, 0, 0⟩

inductive CountMode where
  | lines
  | words
  | bytes
  deriving DecidableEq, Repr

namespace Count

def mode? (word : String) : Option CountMode :=
  if word = "-l" then some .lines
  else if word = "-w" then some .words
  else if word = "-c" then some .bytes
  else none

/-- The last mode wins, wherever it stands. -/
def lastMode? (arguments : List String) : Option CountMode :=
  (arguments.filterMap mode?).getLast?

def files (arguments : List String) : List String :=
  arguments.filter fun argument => (mode? argument).isNone

/-- A column is at least eight characters wide. -/
def column (number : Nat) : String :=
  let digits := Text.Decimal.digits number
  String.ofList (List.replicate (8 - digits.length) ' ' ++ digits)

def render (tally : Tally) : Option CountMode → String
  | some .lines => Text.Decimal.render tally.lines
  | some .words => Text.Decimal.render tally.words
  | some .bytes => Text.Decimal.render tally.bytes
  | none => column tally.lines ++ " " ++ column tally.words ++ " " ++ column tally.bytes

/-- Lines that were fed in count as if each ended in a newline. -/
def tally (machine : Machine) (input : Option (List String)) (files : List String) :
    Except Fault Tally :=
  if files.isEmpty then
    .ok (Tally.ofText (String.join ((input.getD []).map fun line => line ++ "\n")))
  else (files.mapM machine.readText).map fun texts => Tally.sum (texts.map Tally.ofText)

end Count

def wc : Command where
  name := "wc"
  description := "Count lines, words, and bytes"
  usage := "wc [-l|-w|-c] [file...]"
  category := "text"
  run arguments input machine :=
    match Count.tally machine input (Count.files arguments) with
    | .error fault => machine.refuse fault
    | .ok tally =>
        machine.reply [Count.render tally (Count.lastMode? arguments)] [] Status.success

end TapeShell.Builtin
