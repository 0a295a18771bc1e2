/-
This file defines the entries of a tape, their order and their JSON form.
-/

import TapeShell.Json.Reader
import TapeShell.Store
import TapeShell.Text.Search

namespace TapeShell.Tape

/-- The size and the content belong to files and may be left out. -/
structure Entry where
  path : String
  kind : Kind
  size : Option UInt64
  created : String
  modified : String
  content : Option String
  deriving DecidableEq, Repr

/-- Directories come before files, shallow paths before deep ones, then paths in order. -/
def Entry.before (left right : Entry) : Bool :=
  if left.kind ≠ right.kind then left.kind == .directory
  else
    let leftDepth := Text.occurrences '/' left.path
    let rightDepth := Text.occurrences '/' right.path
    if leftDepth ≠ rightDepth then decide (leftDepth < rightDepth)
    else decide (left.path ≤ right.path)

/-- Entries of equal rank keep their order. -/
def sortEntries (entries : List Entry) : List Entry :=
  entries.mergeSort Entry.before

def kindText : Kind → String
  | .file => "file"
  | .directory => "directory"

def textJson (text : String) : Json := .string (some text)

def numberJson (number : UInt64) : Json := .number (Text.Decimal.digits number.toNat)

def sizeFields : Option UInt64 → List (Option String × Json)
  | none => []
  | some size => [(some "size", numberJson size)]

def contentFields : Option String → List (Option String × Json)
  | none => []
  | some content => [(some "content", textJson content)]

def Entry.toJson (entry : Entry) : Json :=
  .object ([(some "path", textJson entry.path), (some "type", textJson (kindText entry.kind))] ++
    sizeFields entry.size ++
    [(some "created", textJson entry.created), (some "modified", textJson entry.modified)] ++
    contentFields entry.content)

def kindOfText? (text : String) : Option Kind :=
  if text = "file" then some .file
  else if text = "directory" then some .directory
  else none

/-- A kind is a text, or the only key of an object whose value is null. -/
def kind? : Json → Option Kind
  | .string (some text) => kindOfText? text
  | .object [(some text, .null)] => kindOfText? text
  | _ => none

def Entry.ofJson? (json : Json) : Option Entry := do
  match ← json.record? ["path", "type", "size", "created", "modified", "content"] with
  | [some path, some kind, size, some created, some modified, content] =>
      some ⟨← path.text?, ← kind? kind, ← Json.optional? Json.unsigned? size, ← created.text?,
        ← modified.text?, ← Json.optional? Json.text? content⟩
  | _ => none

def entriesText (entries : List Entry) : String :=
  (Json.array (entries.map Entry.toJson)).compact

def entriesOfBytes? (bytes : List UInt8) : Option (List Entry) := do
  match ← Json.ofBytes? bytes with
  | .array items => items.mapM Entry.ofJson?
  | _ => none

end TapeShell.Tape
