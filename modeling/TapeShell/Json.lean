/-
This file defines JSON values and writes them, on one line or indented.
-/

import TapeShell.Text.Quoted

namespace TapeShell

/-- A number keeps its spelling, and a string without text is one that no text reads as. -/
inductive Json where
  | null
  | boolean (value : Bool)
  | number (literal : List Char)
  | string (text : Option String)
  | array (items : List Json)
  | object (fields : List (Option String × Json))

namespace Json

/-- Quotes, backslashes and control characters are escaped, and nothing else. -/
def escape (character : Char) : List Char :=
  if character = '"' then ['\\', '"']
  else if character = '\\' then ['\\', '\\']
  else if character = '\x08' then ['\\', 'b']
  else if character = '\x0c' then ['\\', 'f']
  else if character = '\n' then ['\\', 'n']
  else if character = '\r' then ['\\', 'r']
  else if character = '\t' then ['\\', 't']
  else if character.toNat < 0x20 then
    ['\\', 'u', '0', '0', Text.hexDigit (character.toNat / 16),
     Text.hexDigit (character.toNat % 16)]
  else [character]

/-- A string without text is written as a lone surrogate. -/
def stringText : Option String → List Char
  | some text => '"' :: text.toList.flatMap escape ++ ['"']
  | none => ['"', '\\', 'u', 'd', '8', '0', '0', '"']

def scalarText : Json → List Char
  | .null => ['n', 'u', 'l', 'l']
  | .boolean true => ['t', 'r', 'u', 'e']
  | .boolean false => ['f', 'a', 'l', 's', 'e']
  | .number literal => literal
  | .string text => stringText text
  | _ => []

mutual

def compactText : Json → List Char
  | .array items => '[' :: compactItems items ++ [']']
  | .object fields => '\x7b' :: compactFields fields ++ ['\x7d']
  | scalar => scalarText scalar

def compactItems : List Json → List Char
  | [] => []
  | [item] => compactText item
  | item :: next :: rest => compactText item ++ ',' :: compactItems (next :: rest)

def compactFields : List (Option String × Json) → List Char
  | [] => []
  | [(key, value)] => stringText key ++ ':' :: compactText value
  | (key, value) :: next :: rest =>
      stringText key ++ ':' :: compactText value ++ ',' :: compactFields (next :: rest)

end

def newline (depth : Nat) : List Char :=
  '\n' :: List.replicate (2 * depth) ' '

mutual

/-- Every item and every field stands on a line of its own, indented by two spaces a level. -/
def prettyText (depth : Nat) : Json → List Char
  | .array [] => ['[', ']']
  | .array (item :: items) =>
      '[' :: prettyItems (depth + 1) (item :: items) ++ newline depth ++ [']']
  | .object [] => ['\x7b', '\x7d']
  | .object (field :: fields) =>
      '\x7b' :: prettyFields (depth + 1) (field :: fields) ++ newline depth ++ ['\x7d']
  | scalar => scalarText scalar

def prettyItems (depth : Nat) : List Json → List Char
  | [] => []
  | [item] => newline depth ++ prettyText depth item
  | item :: next :: rest =>
      newline depth ++ prettyText depth item ++ ',' :: prettyItems depth (next :: rest)

def prettyFields (depth : Nat) : List (Option String × Json) → List Char
  | [] => []
  | [(key, value)] => newline depth ++ stringText key ++ ':' :: ' ' :: prettyText depth value
  | (key, value) :: next :: rest =>
      newline depth ++ stringText key ++ ':' :: ' ' :: prettyText depth value ++
        ',' :: prettyFields depth (next :: rest)

end

def compact (value : Json) : String :=
  String.ofList value.compactText

def pretty (value : Json) : String :=
  String.ofList (value.prettyText 0)

end Json

end TapeShell
