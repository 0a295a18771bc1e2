/-
This file defines the file tree: one table from normal paths to files and directories.
-/

import TapeShell.Path
import TapeShell.Table
import TapeShell.Text.Utf8

namespace TapeShell

inductive Kind where
  | file
  | directory
  deriving DecidableEq, Repr

inductive Node where
  | file (content : List UInt8)
  | directory
  deriving DecidableEq, Repr

def Node.kind : Node → Kind
  | .file _ => .file
  | .directory => .directory

/-- The size of a directory is zero. -/
def Node.size : Node → Nat
  | .file content => content.length
  | .directory => 0

structure Store where
  nodes : Table Node

namespace Store

/-- A reported fault comes from elsewhere and is known by its text alone. -/
inductive Fault where
  | notDirectory (path : String)
  | noSuchDirectory (path : String)
  | isDirectory (path : String)
  | noSuchFile (path : String)
  | noParent (path : String)
  | noSuchPath (path : String)
  | fileExists (path : String)
  | rootRemoval
  | notEmpty (path : String)
  | reported (text : String)
  deriving DecidableEq, Repr

def Fault.message : Fault → String
  | .notDirectory path => "not a directory: " ++ path
  | .noSuchDirectory path => "no such directory: " ++ path
  | .isDirectory path => "is a directory: " ++ path
  | .noSuchFile path => "no such file: " ++ path
  | .noParent path => "parent directory does not exist: " ++ path
  | .noSuchPath path => "no such path: " ++ path
  | .fileExists path => "file exists: " ++ path
  | .rootRemoval => "cannot remove root"
  | .notEmpty path => "directory not empty: " ++ path
  | .reported text => text

/-- The fault says that a path does not exist. -/
def Fault.isAbsence : Fault → Bool
  | .noSuchDirectory _ => true
  | .noSuchFile _ => true
  | .noSuchPath _ => true
  | .reported text => "no such".toList.isPrefixOf text.toList
  | _ => false

/-- A new store holds the root directory only. -/
def fresh : Store := ⟨Table.empty.insert Path.root .directory⟩

def node? (store : Store) (path : String) : Option Node :=
  store.nodes.find? (Path.normalize path)

def contains (store : Store) (path : String) : Bool :=
  (store.node? path).isSome

def isDirectory (store : Store) (path : String) : Bool :=
  store.node? path == some .directory

def size (store : Store) : Nat :=
  store.nodes.size

/-- An empty store holds nothing but the root. -/
def isEmpty (store : Store) : Bool :=
  store.size == 1

def stat (store : Store) (path : String) : Except Fault Node :=
  match store.node? path with
  | some node => .ok node
  | none => .error (.noSuchPath (Path.normalize path))

/-- A child is listed under its name within the directory. -/
structure Child where
  name : String
  node : Node

/-- The name of a direct child follows the start of its directory and has no slash. -/
def childName? (start path : String) : Option String :=
  let name := path.toList.drop start.toList.length
  if name.isEmpty || name.contains '/' then none else some (String.ofList name)

/-- The children lie among the keys that start with the path of the directory. -/
def children (store : Store) (directory : String) : List Child :=
  let start := Path.below directory
  (store.nodes.stretch start).filterMap fun entry =>
    (childName? start entry.1).map fun name => ⟨name, entry.2⟩

def list (store : Store) (path : String) : Except Fault (List Child) :=
  match store.node? path with
  | some .directory => .ok (store.children (Path.normalize path))
  | some (.file _) => .error (.notDirectory (Path.normalize path))
  | none => .error (.noSuchDirectory (Path.normalize path))

def read (store : Store) (path : String) : Except Fault (List UInt8) :=
  match store.node? path with
  | some (.file content) => .ok content
  | some .directory => .error (.isDirectory (Path.normalize path))
  | none => .error (.noSuchFile (Path.normalize path))

def readText (store : Store) (path : String) : Except Fault String :=
  (store.read path).map Text.Utf8.decodeLossy

/-- A file is created or replaced, and its parent is a directory. -/
def write (store : Store) (path : String) (content : List UInt8) : Except Fault Store :=
  let target := Path.normalize path
  if store.nodes.find? target = some .directory then .error (.isDirectory target)
  else match store.nodes.find? (Path.parent target) with
    | some .directory => .ok ⟨store.nodes.insert target (.file content)⟩
    | some (.file _) => .error (.notDirectory (Path.parent target))
    | none => .error (.noParent (Path.parent target))

/-- These paths stay absent until the first ancestor that is stored. -/
def missing (store : Store) (path : String) : List String :=
  (path :: Path.ancestors path).takeWhile fun ancestor => !store.nodes.contains ancestor

/-- A directory is created together with its missing ancestors. -/
def makeDirectory (store : Store) (path : String) : Except Fault Store :=
  let target := Path.normalize path
  match store.nodes.find? target with
  | some .directory => .ok store
  | some (.file _) => .error (.fileExists target)
  | none => .ok ⟨(store.missing target).foldr (fun ancestor nodes =>
      nodes.insert ancestor .directory) store.nodes⟩

/-- Some key starts with the path of the directory. -/
def hasBelow (store : Store) (directory : String) : Bool :=
  !(store.nodes.stretch (Path.below directory)).isEmpty

/-- A directory is removed only if nothing is stored below it. -/
def remove (store : Store) (path : String) : Except Fault Store :=
  let target := Path.normalize path
  if target = Path.root then .error .rootRemoval
  else match store.nodes.find? target with
    | some .directory =>
        if store.hasBelow target then .error (.notEmpty target)
        else .ok ⟨store.nodes.erase target⟩
    | some (.file _) => .ok ⟨store.nodes.erase target⟩
    | none => .error (.noSuchPath target)

end Store

end TapeShell
