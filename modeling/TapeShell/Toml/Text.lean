/-
This file reads the four kinds of TOML strings.
-/

import TapeShell.Text.Decimal
import TapeShell.Toml.Blank

namespace TapeShell.Toml

/-- These characters stand for themselves between double quotes. -/
def isBasicCharacter (character : Char) : Bool :=
  isCommentCharacter character && character != '"' && character != '\\'

/-- These characters stand for themselves between single quotes. -/
def isLiteralCharacter (character : Char) : Bool :=
  isCommentCharacter character && character != '\''

def hexValue? (character : Char) : Option Nat :=
  if '0' ≤ character ∧ character ≤ '9' then some (character.toNat - 48)
  else if 'a' ≤ character ∧ character ≤ 'f' then some (character.toNat - 87)
  else if 'A' ≤ character ∧ character ≤ 'F' then some (character.toNat - 55)
  else none

def hexNumber? (digits : List Char) : Option Nat :=
  digits.foldlM (fun value digit => (hexValue? digit).map (value * 16 + ·)) 0

/-- An escape by number names a character and no surrogate. -/
def numbered? (digits : List Char) : Option Char := do
  let number ← hexNumber? digits
  if number < 0xd800 ∨ (0xdfff < number ∧ number < 0x110000) then some (Char.ofNat number)
  else none

def escaped? (letter : Char) : Option Char :=
  if letter = 'b' then some '\x08'
  else if letter = 't' then some '\t'
  else if letter = 'n' then some '\n'
  else if letter = 'f' then some '\x0c'
  else if letter = 'r' then some '\r'
  else if letter = '"' then some '"'
  else if letter = '\\' then some '\\'
  else none

/-- This function puts a character in front of what the rest reads as. -/
def prepend (character : Char) (result : Option (List Char × List Char)) :
    Option (List Char × List Char) :=
  result.map fun (text, rest) => (character :: text, rest)

def prepend? (character : Option Char) (result : Option (List Char × List Char)) :
    Option (List Char × List Char) :=
  character.bind fun found => prepend found result

def readBasic : Reader (List Char)
  | [] => none
  | '"' :: rest => some ([], rest)
  | '\\' :: 'u' :: a :: b :: c :: d :: rest => prepend? (numbered? [a, b, c, d]) (readBasic rest)
  | '\\' :: 'U' :: a :: b :: c :: d :: e :: f :: g :: h :: rest =>
      prepend? (numbered? [a, b, c, d, e, f, g, h]) (readBasic rest)
  | '\\' :: letter :: rest => prepend? (escaped? letter) (readBasic rest)
  | character :: rest =>
      if isBasicCharacter character then prepend character (readBasic rest) else none

def readLiteral : Reader (List Char)
  | [] => none
  | '\'' :: rest => some ([], rest)
  | character :: rest =>
      if isLiteralCharacter character then prepend character (readLiteral rest) else none

/-- Only spaces stand before the end of the line. -/
def atLineEnd (text : List Char) : Bool :=
  match skipSpaces text with
  | '\n' :: _ => true
  | '\r' :: '\n' :: _ => true
  | _ => false

/-- The flag tells that a backslash has ended a line and space is skipped. -/
def readLongBasic : Bool → Reader (List Char)
  | _, [] => none
  | true, '\n' :: rest => readLongBasic true rest
  | true, '\r' :: '\n' :: rest => readLongBasic true rest
  -- Up to two quotes may stand right before the closing ones.
  | _, '"' :: '"' :: '"' :: '"' :: '"' :: rest => some (['"', '"'], rest)
  | _, '"' :: '"' :: '"' :: '"' :: rest => some (['"'], rest)
  | _, '"' :: '"' :: '"' :: rest => some ([], rest)
  | _, '"' :: rest => prepend '"' (readLongBasic false rest)
  | false, '\n' :: rest => prepend '\n' (readLongBasic false rest)
  | false, '\r' :: '\n' :: rest => prepend '\n' (readLongBasic false rest)
  | _, '\\' :: 'u' :: a :: b :: c :: d :: rest =>
      prepend? (numbered? [a, b, c, d]) (readLongBasic false rest)
  | _, '\\' :: 'U' :: a :: b :: c :: d :: e :: f :: g :: h :: rest =>
      prepend? (numbered? [a, b, c, d, e, f, g, h]) (readLongBasic false rest)
  | _, '\\' :: letter :: rest =>
      if atLineEnd (letter :: rest) then readLongBasic true (letter :: rest)
      else prepend? (escaped? letter) (readLongBasic false rest)
  | skipping, character :: rest =>
      if skipping && isSpace character then readLongBasic true rest
      else if isBasicCharacter character then prepend character (readLongBasic false rest)
      else none

def readLongLiteral : Reader (List Char)
  | [] => none
  | '\'' :: '\'' :: '\'' :: '\'' :: '\'' :: rest => some (['\'', '\''], rest)
  | '\'' :: '\'' :: '\'' :: '\'' :: rest => some (['\''], rest)
  | '\'' :: '\'' :: '\'' :: rest => some ([], rest)
  | '\'' :: rest => prepend '\'' (readLongLiteral rest)
  | '\n' :: rest => prepend '\n' (readLongLiteral rest)
  | '\r' :: '\n' :: rest => prepend '\n' (readLongLiteral rest)
  | character :: rest =>
      if isLiteralCharacter character then prepend character (readLongLiteral rest) else none

/-- A line end right after the opening quotes is dropped. -/
def skipFirstLineEnd : List Char → List Char
  | '\n' :: rest => rest
  | '\r' :: '\n' :: rest => rest
  | text => text

/-- The quotes at the start decide the kind of the string. -/
def readText : Reader String := fun text =>
  let characters := match text with
    | '"' :: '"' :: '"' :: rest => readLongBasic false (skipFirstLineEnd rest)
    | '"' :: rest => readBasic rest
    | '\'' :: '\'' :: '\'' :: rest => readLongLiteral (skipFirstLineEnd rest)
    | '\'' :: rest => readLiteral rest
    | _ => none
  characters.map fun (value, rest) => (String.ofList value, rest)

end TapeShell.Toml
