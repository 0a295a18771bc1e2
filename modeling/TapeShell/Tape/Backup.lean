/-
This file puts a file tree on a tape and brings it back.
-/

import TapeShell.Store.Walk
import TapeShell.Tape

namespace TapeShell.Tape

def directoryEntry (stamp path : String) : Entry :=
  ⟨path, .directory, none, stamp, stamp, none⟩

def fileEntry (stamp path text : String) : Entry :=
  ⟨path, .file, some (UInt64.ofNat (Text.Utf8.encode text).length), stamp, stamp, some text⟩

/-- Files are taken as text. -/
def entryOf (stamp : String) : String × Node → Entry
  | (path, .directory) => directoryEntry stamp path
  | (path, .file content) => fileEntry stamp path (Text.Utf8.decodeLossy content)

/-- The snapshot lists everything that a walk reaches. -/
def snapshot (stamp : String) (store : Store) : List Entry :=
  store.walk.map (entryOf stamp)

/-- The entries are stamped before the tape itself is. -/
def capture (stamp created label : String) (store : Store) : Tape :=
  ofEntries created label (snapshot stamp store)

/-- The path of a listed child need not be normal, but its normal form lies deeper. -/
theorem countBelow_listed {store : Store} {directory : String} {children : List Store.Child}
    (listed : store.list directory = .ok children) {child : Store.Child}
    (member : child ∈ children) :
    store.countBelow (Path.normalize (Path.below directory ++ child.name)) <
      store.countBelow (Path.normalize directory) := by
  rw [Store.list] at listed
  split at listed
  next =>
    cases listed
    rw [Path.normalize_below directory (Store.mem_children_iff.mp member).1]
    exact Store.countBelow_child member
  next => cases listed
  next => cases listed

/-- The entries below a directory are read through the store, and the first fault ends it. -/
def collect (stamp : String) (store : Store) (directory : String) :
    Except Store.Fault (List Entry) :=
  match _ : store.list directory with
  | .error fault => .error fault
  | .ok children => children.attach.flatMapM fun ⟨child, _⟩ => do
      let path := Path.below directory ++ child.name
      match child.node with
      | .directory => return directoryEntry stamp path :: (← collect stamp store path)
      | .file _ => return [fileEntry stamp path (← store.readText path)]
termination_by store.countBelow (Path.normalize directory)
decreasing_by exact countBelow_listed ‹_› ‹_›

/-- A tape is taken of everything below the root, and stamped after its entries. -/
def ofStore (stamp created label : String) (store : Store) : Except Fault Tape :=
  match collect stamp store Path.root with
  | .error fault => .error (.store fault)
  | .ok entries => .ok (ofEntries created label entries)

def replayEntry (store : Store) (entry : Entry) : Except Store.Fault Store :=
  match entry.kind with
  | .directory => store.makeDirectory entry.path
  | .file => store.write entry.path (Text.Utf8.encode (entry.content.getD ""))

def Stats.count (stats : Stats) (entry : Entry) : Stats :=
  match entry.kind with
  | .directory => { stats with directories := stats.directories + 1 }
  | .file =>
      { stats with
        files := stats.files + 1
        size := stats.size + UInt64.ofNat (Text.Utf8.encode (entry.content.getD "")).length }

/-- The replay stops at the first fault and keeps what it has written. -/
def replay (store : Store) (stats : Stats) : List Entry → Store × Except Store.Fault Stats
  | [] => (store, .ok stats)
  | entry :: rest =>
      match replayEntry store entry with
      | .ok changed => replay changed (stats.count entry) rest
      | .error fault => (store, .error fault)

/-- Files that already exist are overwritten. -/
def restore (tape : Tape) (store : Store) : Store × Except Fault Stats :=
  match tape.entries with
  | .error fault => (store, .error fault)
  | .ok entries =>
      let (changed, result) := replay store .zero entries
      (changed, result.mapError .store)

end TapeShell.Tape
