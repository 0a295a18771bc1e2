/-
This file defines the commands that print their arguments or only set a status.
-/

import TapeShell.Command
import TapeShell.Condition.Parser

namespace TapeShell.Builtin

def echo : Command where
  name := "echo"
  description := "Print arguments"
  usage := "echo [text...]"
  category := "general"
  run arguments _ machine := machine.reply [" ".intercalate arguments] [] Status.success

def succeed : Command where
  name := "true"
  description := "Exit with status 0"
  usage := "true"
  category := "general"
  run _ _ machine := machine.reply [] [] Status.success

def fail : Command where
  name := "false"
  description := "Exit with status 1"
  usage := "false"
  category := "general"
  run _ _ machine := machine.reply [] [] Status.failure

/-- The status of a condition is success if it holds, and misuse if it cannot be read. -/
def conditionStatus (form : Condition.Form) (arguments : List String) : Int × List String :=
  match Condition.evaluate form arguments with
  | .ok value => (Status.ofBool value, [])
  | .error fault => (Status.misuse, [form.name ++ ": " ++ fault.message])

def conditionUsage : Condition.Form → String
  | .test => "test EXPRESSION"
  | .bracket => "[ EXPRESSION ]"

def condition (form : Condition.Form) : Command where
  name := form.name
  description := "Evaluate a conditional expression"
  usage := conditionUsage form
  category := "scripting"
  run arguments _ machine :=
    let (status, diagnostics) := conditionStatus form arguments
    machine.reply [] diagnostics status

end TapeShell.Builtin
