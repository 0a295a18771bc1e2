/-
This file says what the shell asks of its host, and defines a host that holds a few files in memory.
-/

import TapeShell.Path
import TapeShell.Text.Utf8

namespace TapeShell.Launch

/-- These are the ways in which the host refuses to give a text. -/
inductive Refusal where
  | absent
  | isDirectory
  | notDirectory
  | nameTooLong
  | forbidden
  | invalidText
  | other (text : String)
  deriving DecidableEq, Repr

def Refusal.message : Refusal → String
  | .absent => "No such file or directory (os error 2)"
  | .isDirectory => "Is a directory (os error 21)"
  | .notDirectory => "Not a directory (os error 20)"
  | .nameTooLong => "File name too long (os error 36)"
  | .forbidden => "Permission denied (os error 13)"
  | .invalidText => "stream did not contain valid UTF-8"
  | .other text => text

/-- The host gives the bytes of a file, or says why it cannot. -/
abbrev Host := String → Except Refusal (List UInt8)

def Host.readText (host : Host) (path : String) : Except Refusal String :=
  match host path with
  | .error refusal => .error refusal
  | .ok bytes =>
      match Text.Utf8.decode? bytes with
      | some text => .ok text
      | none => .error .invalidText

namespace Host

/-- Paths count from the directory in which the program starts or from the root. -/
inductive Base where
  | start
  | root
  deriving DecidableEq, Repr

/-- A host file is known by the names on the way to it. -/
structure File where
  base : Base
  names : List String
  content : List UInt8

/-- A walk stands in a directory that is known, in another one, or at a file. -/
inductive Place where
  | directory (base : Base) (names : List String)
  | outside
  | file (content : List UInt8)

/-- Every host has these directories in its root. -/
def usualDirectories : List String :=
  ["dev", "etc", "home", "proc", "tmp", "usr", "var"]

/-- This device is always empty. -/
def nullDevice : File := ⟨.root, ["dev", "null"], []⟩

/-- Names are bounded in bytes, and so are whole paths. -/
def nameLimit : Nat := 255

def pathLimit : Nat := 4095

def byteLength (text : String) : Nat :=
  (Text.Utf8.encode text).length

/-- A directory is known if it is usual or lies on the way to a file. -/
def isKnownDirectory (files : List File) (base : Base) (names : List String) : Bool :=
  (base == .root && usualDirectories.any fun name => names == [name]) ||
    files.any fun file => file.base == base && names.isPrefixOf file.names

/-- This function finds what has these names. -/
def locate (files : List File) (base : Base) (names : List String) : Except Refusal Place :=
  match files.find? fun file => file.base == base && file.names == names with
  | some file => .ok (.file file.content)
  | none =>
      if isKnownDirectory files base names then .ok (.directory base names) else .error .absent

/-- The root is its own parent, and nothing is known of the parent of the start. -/
def Place.up : Base → List String → Place
  | .start, [] => .outside
  | base, names => .directory base names.dropLast

/-- Only a directory can be entered, also by a name that leads nowhere else. -/
def Place.enter (files : List File) (place : Place) (name : String) : Except Refusal Place :=
  match place with
  | .file _ => .error .notDirectory
  | .outside =>
      if name = "" ∨ name = "." ∨ name = ".." then .ok .outside
      else if nameLimit < byteLength name then .error .nameTooLong
      else .error .absent
  | .directory base names =>
      if name = "" ∨ name = "." then .ok place
      else if name = ".." then .ok (Place.up base names)
      else if nameLimit < byteLength name then .error .nameTooLong
      else locate files base (names ++ [name])

def Place.read : Place → Except Refusal (List UInt8)
  | .file content => .ok content
  | _ => .error .isDirectory

def startOf (path : String) : Place :=
  .directory (if path.toList.head? = some '/' then .root else .start) []

/-- The names of a path are followed one by one, the empty ones included. -/
def walk (files : List File) (path : String) : Except Refusal (List UInt8) :=
  if path = "" then .error .absent
  else if pathLimit < byteLength path then .error .nameTooLong
  else do
    let place ← ((path.toList.splitOn '/').map String.ofList).foldlM (Place.enter files)
      (startOf path)
    place.read

/-- This host holds the files in the directory in which the program starts. -/
def ofFiles (files : List (String × List UInt8)) : Host :=
  walk (nullDevice :: files.map fun file => ⟨.start, Path.components file.1, file.2⟩)

end Host

end TapeShell.Launch
