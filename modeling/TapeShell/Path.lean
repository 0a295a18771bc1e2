/-
This file normalizes, resolves and takes apart absolute paths.
-/

namespace TapeShell.Path

def root : String := "/"

/-- The components of a path are the parts between slashes that are not empty. -/
def components (path : String) : List String :=
  ((path.toList.splitOn '/').filter fun part => !part.isEmpty).map String.ofList

def ofComponents (components : List String) : String :=
  "/" ++ "/".intercalate components

def hasDoubleSlash : List Char → Bool
  | '/' :: '/' :: _ => true
  | _ :: rest => hasDoubleSlash rest
  | [] => false

/-- A normal path has one slash before each component, or is the root. -/
def isNormal (path : String) : Bool :=
  path.toList.head? == some '/' && !hasDoubleSlash path.toList &&
    (path == root || path.toList.getLast? != some '/')

/-- A path that is already normal is returned as it stands. -/
def normalize (path : String) : String :=
  if isNormal path then path else ofComponents (components path)

/-- The parent is the text before the last slash, or the root if there is none. -/
def parent (path : String) : String :=
  match path.toList.reverse.dropWhile fun character => character != '/' with
  | [] => root
  | [_] => root
  | _ :: before => String.ofList before.reverse

/-- The ancestors run from the parent up to the root. -/
def ancestors (path : String) : List String :=
  if (parent path).length < path.length then parent path :: ancestors (parent path) else []
termination_by path.length

/-- This text starts every path below a directory. -/
def below (directory : String) : String :=
  if directory = root then root else directory ++ "/"

/-- One component moves from a place to the next one. -/
def follow (place : List String) (component : String) : List String :=
  if component = "." then place
  else if component = ".." then place.dropLast
  else place ++ [component]

/-- A relative path starts from the directory, and no path climbs above the root. -/
def resolve (directory input : String) : String :=
  let whole := if input.toList.head? = some '/' then input else below directory ++ input
  ofComponents ((components whole).foldl follow [])

end TapeShell.Path
