/-
This file cuts a line into the segments between its semicolons.
-/

import TapeShell.Text.Blank

namespace TapeShell.Segment

/-- The open quotation, if any, after one more character. -/
def nextQuote (quote : Option Char) (character : Char) : Option Char :=
  match quote with
  | some opening => if character = opening then none else quote
  | none => if character = '\'' ∨ character = '"' then some character else none

/-- A semicolon outside quotations ends a piece. The quotes themselves stay. -/
def pieces : Option Char → List Char → List (List Char)
  | _, [] => [[]]
  | quote, character :: rest =>
      if quote = none ∧ character = ';' then [] :: pieces none rest
      else match pieces (nextQuote quote character) rest with
        | [] => [[character]]
        | piece :: others => (character :: piece) :: others

/-- Segments are trimmed, and blank ones are dropped. -/
def ofLine (line : String) : List String :=
  (((pieces none line.toList).map Text.trimBlanks).filter fun segment => !segment.isEmpty).map
    String.ofList

end TapeShell.Segment
