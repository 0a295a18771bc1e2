/-
This file keeps commands under their names without regard to letter case.
-/

import TapeShell.Command

namespace TapeShell

structure Catalog where
  commands : Table Command

namespace Catalog

/-- Only the letters of the basic alphabet have case here. -/
def foldCase (name : String) : String :=
  name.map Char.toLower

def empty : Catalog := ⟨.empty⟩

/-- A command replaces the one that had its name. -/
def register (catalog : Catalog) (command : Command) : Catalog :=
  ⟨catalog.commands.insert (foldCase command.name) command⟩

def ofList (commands : List Command) : Catalog :=
  commands.foldl register empty

def resolve? (catalog : Catalog) (name : String) : Option Command :=
  catalog.commands.find? (foldCase name)

def size (catalog : Catalog) : Nat :=
  catalog.commands.size

def isEmpty (catalog : Catalog) : Bool :=
  catalog.size == 0

/-- The names are listed as the commands spell them, in ascending order. -/
def listing (catalog : Catalog) : List (String × String) :=
  (catalog.commands.entries.map fun entry => (entry.2.name, entry.2.description)).mergeSort
    fun left right => decide (left.1 ≤ right.1)

/-- The keys with a given start are listed in ascending order. -/
def completions (catalog : Catalog) (start : String) : List String :=
  (catalog.commands.keys.filter fun name =>
    (foldCase start).toList.isPrefixOf name.toList).mergeSort
      fun left right => decide (left ≤ right)

end Catalog

end TapeShell
