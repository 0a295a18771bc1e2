/-
This file reads settings from a TOML document.
-/

import TapeShell.Fault
import TapeShell.Session
import TapeShell.Toml.Parser

namespace TapeShell.Settings

/-- A setting that is given has to be a text. -/
def textSetting? (fields : Toml.Fields) (name standard : String) : Option String :=
  match fields.find? name with
  | none => some standard
  | some (.text value) => some value
  | some _ => none

def textVariable? : String × Toml.Value → Option (String × String)
  | (name, .text value) => some (name, value)
  | _ => none

/-- The variables are a table of texts. -/
def bindings? (fields : Toml.Fields) : Option (Table String) :=
  match fields.find? "env" with
  | none => some .empty
  | some value => do
      let entries ← value.fields?
      return Table.ofList (← entries.mapM textVariable?)

/-- Other settings are ignored. -/
def ofFields? (fields : Toml.Fields) : Option Settings := do
  some ⟨← textSetting? fields "prompt" standard.prompt,
    ← textSetting? fields "cwd" standard.directory,
    ← textSetting? fields "user" standard.user,
    ← textSetting? fields "hostname" standard.host,
    ← bindings? fields⟩

def parse (text : String) : Except Fault Settings :=
  match (Toml.parse? text).bind ofFields? with
  | some settings => .ok settings
  | none => .error (.settings .malformed)

end TapeShell.Settings
