/-
This file defines TOML documents and the rules for adding keys and tables to them.
-/

import TapeShell.Toml.Moment

namespace TapeShell.Toml

/-- A table was opened by a header, implied by a longer header, opened by a dotted key, or written
inline. -/
inductive Origin where
  | header
  | implied
  | dotted
  | inline
  deriving DecidableEq, Repr

/-- A number with a point keeps its spelling. Headers with two brackets make lists of tables. -/
inductive Value where
  | text (value : String)
  | integer (value : Int)
  | float (literal : List Char)
  | boolean (value : Bool)
  | moment (value : Moment)
  | array (items : List Value)
  | table (origin : Origin) (fields : List (String × Value))
  | tables (elements : List (List (String × Value)))

abbrev Fields := List (String × Value)

abbrev Key := List String

def Fields.find? (fields : Fields) (name : String) : Option Value :=
  (List.find? (fun field => field.1 == name) fields).map Prod.snd

/-- A moment that stands in the place of a table counts as a table of one field. -/
def Value.fields? : Value → Option Fields
  | .table _ fields => some fields
  | .moment value => some [("$__toml_private_datetime", .text value.render)]
  | _ => none

/-- A new field goes to the end, and an old one keeps its place. -/
def Fields.put (fields : Fields) (name : String) (value : Value) : Fields :=
  if (fields.find? name).isSome then
    fields.map fun field => if field.1 = name then (name, value) else field
  else fields ++ [(name, value)]

/-- A table with the way it was opened. -/
structure Section where
  origin : Origin
  fields : Fields

/-- This function changes the table at the end of a path, and opens missing ones. -/
def Section.update (byKey : Bool) (change : Section → Option Section) (place : Section)
    (path : Key) : Option Section :=
  match path with
  | [] => change place
  | name :: rest =>
      match place.fields.find? name with
      | none => do
          let child ← Section.update byKey change ⟨if byKey then .dotted else .implied, []⟩ rest
          some { place with fields := place.fields.put name (.table child.origin child.fields) }
      | some (.table origin fields) =>
          -- An inline table is closed, and a dotted key does not enter the table of a header.
          if origin = .inline ∨ (byKey ∧ origin = .header) then none
          else do
            let child ← Section.update byKey change ⟨origin, fields⟩ rest
            some { place with fields := place.fields.put name (.table child.origin child.fields) }
      | some (.tables elements) =>
          match elements.getLast? with
          | none => none
          | some last => do
              let child ← Section.update byKey change ⟨.header, last⟩ rest
              some { place with
                fields := place.fields.put name (.tables (elements.dropLast ++ [child.fields])) }
      | some _ => none

/-- A field is new to its table, and a table that a dotted key reaches was opened by one. -/
def Section.addField (place : Section) (path : Key) (name : String) (value : Value) :
    Option Section :=
  Section.update true (fun inner =>
    if path ≠ [] ∧ inner.origin ≠ .dotted then none
    else if (inner.fields.find? name).isSome then none
    else some { inner with fields := inner.fields ++ [(name, value)] }) place path

/-- The document holds the finished tables and the table that is being filled. -/
structure Document where
  root : Section
  path : Key
  isElement : Bool
  current : Section

def Document.empty : Document :=
  ⟨⟨.header, []⟩, [], false, ⟨.header, []⟩⟩

/-- The table that is being filled goes to its place. -/
def Document.close (document : Document) : Option Section :=
  match document.path.getLast? with
  | none => some document.current
  | some name =>
      Section.update false (fun parent =>
        if document.isElement then
          match parent.fields.find? name with
          | none => some { parent with
              fields := parent.fields.put name (.tables [document.current.fields]) }
          | some (.tables elements) => some { parent with
              fields := parent.fields.put name (.tables (elements ++ [document.current.fields])) }
          | some _ => none
        else some { parent with
          fields := parent.fields.put name
            (.table document.current.origin document.current.fields) })
        document.root document.path.dropLast

/-- This function finds the table at the end of a path. A table that is missing is empty. -/
def Section.locate (place : Section) (path : Key) : Option Section :=
  match path with
  | [] => some place
  | name :: rest =>
      match place.fields.find? name with
      | none => some ⟨.implied, []⟩
      | some (.table origin fields) =>
          if origin = .inline then none else Section.locate ⟨origin, fields⟩ rest
      | some (.tables elements) =>
          match elements.getLast? with
          | none => none
          | some last => Section.locate ⟨.header, last⟩ rest
      | some _ => none

/-- A header opens a table once, and a table that was only implied keeps its fields. -/
def Document.openTable (document : Document) (path : Key) : Option Document := do
  let root ← document.close
  let name ← path.getLast?
  let parent ← root.locate path.dropLast
  match parent.fields.find? name with
  | none => some ⟨root, path, false, ⟨.header, []⟩⟩
  | some (.table .implied fields) => some ⟨root, path, false, ⟨.header, fields⟩⟩
  | some _ => none

/-- A header with two brackets adds a table to a list that holds nothing else. -/
def Document.openElement (document : Document) (path : Key) : Option Document := do
  let root ← document.close
  let name ← path.getLast?
  let parent ← root.locate path.dropLast
  match parent.fields.find? name with
  | none => some ⟨root, path, true, ⟨.header, []⟩⟩
  | some (.tables _) => some ⟨root, path, true, ⟨.header, []⟩⟩
  | some _ => none

def Document.addField (document : Document) (key : Key) (value : Value) : Option Document := do
  let name ← key.getLast?
  let current ← document.current.addField key.dropLast name value
  some { document with current := current }

end TapeShell.Toml
