/-
This file reads TOML documents.
-/

import TapeShell.Toml.Number
import TapeShell.Toml.Time

namespace TapeShell.Toml

def isBareCharacter (character : Char) : Bool :=
  character.isAlphanum || character == '-' || character == '_'

/-- One part of a key is bare or quoted on one line. -/
def readKeyPart : Reader String := fun text =>
  match text with
  | '"' :: rest => (readBasic rest).map fun (value, after) => (String.ofList value, after)
  | '\'' :: rest => (readLiteral rest).map fun (value, after) => (String.ofList value, after)
  | _ =>
      match text.takeWhile isBareCharacter with
      | [] => none
      | bare => some (String.ofList bare, text.dropWhile isBareCharacter)

/-- Every part takes at least one character, so the length of the text bounds their number. -/
def readKeyParts : Nat → Reader Key
  | 0, _ => none
  | bound + 1, text => do
      let (part, afterPart) ← readKeyPart (skipSpaces text)
      match skipSpaces afterPart with
      | '.' :: rest => do
          let (parts, after) ← readKeyParts bound rest
          some (part :: parts, after)
      | rest => some ([part], rest)

/-- Keys and nested values are bounded. -/
def depthLimit : Nat := 80

def readKey : Reader Key := fun text => do
  let (key, rest) ← readKeyParts text.length text
  if key.length < depthLimit then some (key, rest) else none

def readWord (word : List Char) (value : Value) : Reader Value := fun text =>
  if word.isPrefixOf text then some (value, text.drop word.length) else none

/-- This function reads a value that holds no other values. -/
def readScalar : Reader Value := fun text =>
  match text with
  | [] => none
  | first :: _ =>
      if first = '"' ∨ first = '\'' then
        (readText text).map fun (value, rest) => (.text value, rest)
      else if first = 't' then readWord ['t', 'r', 'u', 'e'] (.boolean true) text
      else if first = 'f' then readWord ['f', 'a', 'l', 's', 'e'] (.boolean false) text
      else if startsDate text || startsClock text then
        (readMoment text).map fun (value, rest) => (.moment value, rest)
      else readNumber text

def addPair (fields : Fields) (key : Key) (value : Value) : Option Fields := do
  let name ← key.getLast?
  let place ← Section.addField ⟨.inline, fields⟩ key.dropLast name value
  some place.fields

mutual

/-- The depth bounds the nesting of arrays and inline tables. -/
def readValue (depth : Nat) (text : List Char) : Option (Value × List Char) :=
  match depth, text with
  | inner + 1, '[' :: rest =>
      (readItems inner rest.length rest).map fun (items, after) => (.array items, after)
  | inner + 1, '\x7b' :: rest =>
      (readPairs inner rest.length [] rest).map fun (fields, after) =>
        (.table .inline fields, after)
  | 0, '[' :: _ => none
  | 0, '\x7b' :: _ => none
  | _, text => readScalar text
termination_by (depth, 0)

/-- Items are parted by commas, and one more comma may follow the last. -/
def readItems (depth bound : Nat) (text : List Char) : Option (List Value × List Char) :=
  match bound with
  | 0 => none
  | more + 1 => do
      match ← skipFiller? false text with
      | ']' :: rest => some ([], rest)
      | start => do
          let (item, afterItem) ← readValue depth start
          match ← skipFiller? false afterItem with
          | ']' :: rest => some ([item], rest)
          | ',' :: rest => do
              let (items, after) ← readItems depth more rest
              some (item :: items, after)
          | _ => none
termination_by (depth, bound + 1)

/-- Pairs are parted by commas and stand on one line. -/
def readPairs (depth bound : Nat) (fields : Fields) (text : List Char) :
    Option (Fields × List Char) :=
  match bound with
  | 0 => none
  | more + 1 =>
      match skipSpaces text with
      | '\x7d' :: rest => if fields.isEmpty then some ([], rest) else none
      | start => do
          let (key, afterKey) ← readKey start
          let (_, afterMark) ← expect '=' afterKey
          let (value, afterValue) ← readValue depth (skipSpaces afterMark)
          let extended ← addPair fields key value
          match skipSpaces afterValue with
          | '\x7d' :: rest => some (extended, rest)
          | ',' :: rest => readPairs depth more extended rest
          | _ => none
termination_by (depth, bound + 1)

end

/-- A header is a key between brackets on a line of its own. -/
def readHeader (document : Document) (text : List Char) : Option (Document × List Char) :=
  match text with
  | '[' :: '[' :: rest => do
      let (key, afterKey) ← readKey rest
      let (_, afterFirst) ← expect ']' afterKey
      let (_, afterSecond) ← expect ']' afterFirst
      let opened ← document.openElement key
      some (opened, ← skipRestOfLine? afterSecond)
  | '[' :: rest => do
      let (key, afterKey) ← readKey rest
      let (_, afterMark) ← expect ']' afterKey
      let opened ← document.openTable key
      some (opened, ← skipRestOfLine? afterMark)
  | _ => none

def readField (document : Document) (text : List Char) : Option (Document × List Char) := do
  let (key, afterKey) ← readKey text
  let (_, afterMark) ← expect '=' afterKey
  let (value, afterValue) ← readValue (depthLimit - 1) (skipSpaces afterMark)
  let extended ← document.addField key value
  some (extended, ← skipRestOfLine? afterValue)

/-- Every line takes at least one character, so the length of the text bounds their number. -/
def readLines (document : Document) : Nat → List Char → Option Document
  | bound, text =>
      match bound, skipSpaces text with
      | _, [] => some document
      | 0, _ => none
      | more + 1, '[' :: rest => do
          let (opened, after) ← readHeader document ('[' :: rest)
          readLines opened more after
      | more + 1, first :: rest => do
          if first = '#' ∨ first = '\n' ∨ first = '\r' then
            readLines document more (← skipLineEnd? (skipComment (first :: rest)))
          else
            let (extended, after) ← readField document (first :: rest)
            readLines extended more after

def skipMark : List Char → List Char
  | '\ufeff' :: rest => rest
  | text => text

/-- The document may start with a byte order mark. -/
def parse? (text : String) : Option Fields := do
  let characters := skipMark text.toList
  let document ← readLines .empty characters.length characters
  let root ← document.close
  some root.fields

end TapeShell.Toml
