/-
This file defines the session: its working directory, its variables and its last status, and the
settings that it starts from.
-/

import TapeShell.Table
import TapeShell.Text.Decimal

namespace TapeShell

structure Settings where
  prompt : String
  directory : String
  user : String
  host : String
  bindings : Table String

/-- These settings hold where none are given. -/
def Settings.standard : Settings :=
  ⟨"$ ", "/home", "user", "koma", .empty⟩

structure Session where
  directory : String
  bindings : Table String
  lastStatus : Int

namespace Session

def setVariable (session : Session) (name value : String) : Session :=
  { session with bindings := session.bindings.insert name value }

def unsetVariable (session : Session) (name : String) : Session :=
  { session with bindings := session.bindings.erase name }

/-- The question mark names the last status. -/
def valueOf? (session : Session) (name : String) : Option String :=
  if name = "?" then some (Text.Decimal.renderInt session.lastStatus)
  else session.bindings.find? name

/-- The variable for the working directory follows the directory. -/
def enter (session : Session) (directory : String) : Session :=
  ({ session with directory := directory } : Session).setVariable "PWD" directory

def start (directory : String) : Session :=
  (⟨directory, .empty, 0⟩ : Session).enter directory

/-- The variables of the settings come last and may replace the others. -/
def ofSettings (settings : Settings) : Session :=
  settings.bindings.entries.foldl (fun session entry => session.setVariable entry.1 entry.2)
    ((((start settings.directory).setVariable "HOME" settings.directory).setVariable
      "USER" settings.user).setVariable "HOSTNAME" settings.host)

end Session

end TapeShell
