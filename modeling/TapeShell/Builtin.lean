/-
This file lists the commands that every shell has.
-/

import TapeShell.Builtin.Basic
import TapeShell.Builtin.Count
import TapeShell.Builtin.Files
import TapeShell.Builtin.Grep
import TapeShell.Builtin.Head
import TapeShell.Builtin.Variables
import TapeShell.Catalog

namespace TapeShell

def Builtin.all : List Command :=
  [Builtin.echo, Builtin.cat, Builtin.pwd, Builtin.cd, Builtin.exportVariables, Builtin.succeed,
   Builtin.fail, Builtin.condition .test, Builtin.condition .bracket, Builtin.grep, Builtin.wc,
   Builtin.head]

def Catalog.standard : Catalog :=
  Catalog.ofList Builtin.all

end TapeShell
