/-
This file skips what a TOML document may hold between its parts.
-/

namespace TapeShell.Toml

/-- A reader takes a part from the start of the text and returns the rest, or refuses the text. -/
abbrev Reader (α : Type) := List Char → Option (α × List Char)

def isSpace (character : Char) : Bool :=
  character == ' ' || character == '\t'

def skipSpaces (text : List Char) : List Char :=
  text.dropWhile isSpace

/-- Control characters other than the tab are not allowed. -/
def isCommentCharacter (character : Char) : Bool :=
  character == '\t' || ('\x20' ≤ character && character != '\x7f')

/-- A line ends at a newline, with or without a carriage return, or at the end of the text. -/
def skipLineEnd? : List Char → Option (List Char)
  | [] => some []
  | '\n' :: rest => some rest
  | '\r' :: '\n' :: rest => some rest
  | _ => none

def skipComment : List Char → List Char
  | '#' :: rest => rest.dropWhile isCommentCharacter
  | text => text

/-- Nothing but spaces and a comment may follow on a line. -/
def skipRestOfLine? (text : List Char) : Option (List Char) :=
  skipLineEnd? (skipComment (skipSpaces text))

/-- Inside an array there may also be line ends and whole lines of comment. -/
def skipFiller? : Bool → List Char → Option (List Char)
  | _, [] => some []
  | _, '\n' :: rest => skipFiller? false rest
  | _, '\r' :: '\n' :: rest => skipFiller? false rest
  | true, character :: rest =>
      if isCommentCharacter character then skipFiller? true rest else none
  | false, character :: rest =>
      if isSpace character then skipFiller? false rest
      else if character = '#' then skipFiller? true rest
      else if character = '\r' then none
      else some (character :: rest)

end TapeShell.Toml
