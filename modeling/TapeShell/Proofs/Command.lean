/-
This file says what a stage can do to a machine when it runs one of the usual commands.
-/

import Mathlib.Data.List.Induction
import Mathlib.Data.List.Nodup
import TapeShell.Builtin
import TapeShell.Run

namespace TapeShell

namespace Catalog

/-- The last command is registered last. -/
theorem ofList_append (commands : List Command) (last : Command) :
    ofList (commands ++ [last]) = (ofList commands).register last := by
  simp [ofList]

/-- A key finds the last command whose name has it. -/
theorem find?_ofList (commands : List Command) (key : String) :
    (ofList commands).commands.find? key =
      (commands.filter fun command => foldCase command.name = key).getLast? := by
  induction commands using List.reverseRecOn with
  | nil => rfl
  | append_singleton earlier last inductionHypothesis =>
      rw [ofList_append, register, Table.find?_insert, inductionHypothesis, List.filter_append]
      split
      next same => simp [same]
      next different => simp [different]

/-- What is found under a key was registered under a name with that key. -/
theorem mem_of_find?_ofList {commands : List Command} {key : String} {command : Command}
    (found : (ofList commands).commands.find? key = some command) :
    command ∈ commands ∧ foldCase command.name = key := by
  rw [find?_ofList] at found
  simpa using List.mem_of_getLast? found

/-- A name finds only a command that was listed under that name. -/
theorem mem_of_resolve? {commands : List Command} {name : String} {command : Command}
    (found : (ofList commands).resolve? name = some command) :
    command ∈ commands ∧ foldCase command.name = foldCase name :=
  mem_of_find?_ofList found

/-- Every usual command is found under its name in any letter case. -/
theorem resolve?_standard {command : Command} (member : command ∈ Builtin.all) {name : String}
    (named : foldCase name = foldCase command.name) : standard.resolve? name = some command := by
  have eachListed : ∀ listed ∈ Builtin.all.map Command.name,
      (standard.resolve? listed).map Command.name = some listed := by
    decide +kernel
  have listed := eachListed command.name (List.mem_map_of_mem member)
  rw [resolve?, ← named] at listed
  obtain ⟨found, resolved, sameName⟩ := Option.map_eq_some_iff.mp listed
  have distinct : (Builtin.all.map Command.name).Nodup := by decide
  rw [resolve?, resolved,
    List.inj_on_of_nodup_map distinct (mem_of_resolve? resolved).1 member sameName]

/-- The name of the command is its own key. -/
theorem foldCase_cd : foldCase Builtin.cd.name = "cd" := by decide +kernel

/-- The command that changes the directory is found under its name in any letter case. -/
theorem resolve?_cd {name : String} (named : foldCase name = "cd") :
    standard.resolve? name = some Builtin.cd :=
  resolve?_standard (by simp [Builtin.all]) (named.trans foldCase_cd.symm)

end Catalog

/-- A command keeps the store, and only `cd` changes the directory. -/
inductive Command.Effect (machine : Machine) (name : String) (arguments : List String) :
    Machine → Prop where
  | unchanged : Effect machine name arguments machine
  | assigned (bindings : Table String) :
      Effect machine name arguments
        { machine with session := { machine.session with bindings := bindings } }
  | entered (named : name = "cd")
      (found : machine.store.isDirectory (Builtin.cdTarget machine arguments) = true) :
      Effect machine name arguments
        { machine with session := machine.session.enter (Builtin.cdTarget machine arguments) }

/-- No command changes the store. -/
theorem Command.Effect.store_eq {machine after : Machine} {name : String}
    {arguments : List String} (effect : Effect machine name arguments after) :
    after.store = machine.store := by
  cases effect <;> rfl

namespace Builtin

/-- A still command leaves the machine as it is. -/
def Still (command : Command) : Prop :=
  ∀ arguments input machine, (command.run arguments input machine).machine = machine

/-- A command that changes nothing has the allowed effect under every name. -/
theorem Still.effect {command : Command} (still : Still command) (arguments : List String)
    (input : Option (List String)) (machine : Machine) (name : String) :
    Command.Effect machine name arguments (command.run arguments input machine).machine := by
  rw [still]
  exact .unchanged

/-- Printing files changes nothing. -/
theorem still_cat : Still cat := by
  intro arguments input machine
  simp only [cat]
  split <;> rfl

/-- Testing a condition changes nothing. -/
theorem still_condition (form : Condition.Form) : Still (condition form) := by
  intro arguments input machine
  rfl

/-- A search changes nothing. -/
theorem still_search (machine : Machine) (input : Option (List String)) (options : GrepOptions)
    (pattern : String) (files : List String) :
    (Grep.search machine input options pattern files).machine = machine := by
  rw [Grep.search]
  split <;> rfl

/-- Neither a search nor a usage message changes anything. -/
theorem still_grep : Still grep := by
  intro arguments input machine
  simp only [grep]
  split
  next => rfl
  next => rfl
  next => exact still_search ..

/-- Counting changes nothing. -/
theorem still_wc : Still wc := by
  intro arguments input machine
  simp only [wc]
  split <;> rfl

/-- Printing the first lines changes nothing. -/
theorem still_head : Still head := by
  intro arguments input machine
  simp only [head]
  split
  next => rfl
  next => split <;> rfl

/-- Assignments change nothing but the variables. -/
theorem exists_bindings_foldl_assign (arguments : List String) (session : Session) :
    ∃ bindings, arguments.foldl assign session = { session with bindings := bindings } := by
  induction arguments generalizing session with
  | nil => exact ⟨session.bindings, rfl⟩
  | cons argument arguments inductionHypothesis =>
      obtain ⟨bindings, final⟩ := inductionHypothesis (assign session argument)
      refine ⟨bindings, ?_⟩
      rw [List.foldl_cons, final, assign]
      split
      next => split <;> rfl
      next => rfl

/-- An export changes the variables only. -/
theorem effect_exportVariables (arguments : List String) (input : Option (List String))
    (machine : Machine) (name : String) :
    Command.Effect machine name arguments
      (exportVariables.run arguments input machine).machine := by
  simp only [exportVariables]
  split
  next => exact .unchanged
  next =>
    obtain ⟨bindings, assigned⟩ := exists_bindings_foldl_assign arguments machine.session
    rw [assigned]
    exact .assigned bindings

/-- A change of directory enters a stored directory or does nothing. -/
theorem effect_cd (arguments : List String) (input : Option (List String)) (machine : Machine) :
    Command.Effect machine "cd" arguments (cd.run arguments input machine).machine := by
  simp only [cd]
  split
  next found => exact .entered rfl found
  next => exact .unchanged

/-- Every builtin command is still, sets variables or changes the directory. -/
theorem effect_of_mem {command : Command} (member : command ∈ all) (arguments : List String)
    (input : Option (List String)) (machine : Machine) :
    Command.Effect machine (Catalog.foldCase command.name) arguments
      (command.run arguments input machine).machine := by
  simp only [all, List.mem_cons, List.not_mem_nil, or_false] at member
  rcases member with rfl | rfl | rfl | rfl | rfl | rfl | rfl | rfl | rfl | rfl | rfl | rfl
  · exact .unchanged
  · exact still_cat.effect ..
  · exact .unchanged
  · rw [Catalog.foldCase_cd]
    exact effect_cd arguments input machine
  · exact effect_exportVariables arguments input machine _
  · exact .unchanged
  · exact .unchanged
  · exact (still_condition .test).effect ..
  · exact (still_condition .bracket).effect ..
  · exact still_grep.effect ..
  · exact still_wc.effect ..
  · exact still_head.effect ..

end Builtin

namespace Stage

/-- A stage leaves the machine of its command, or the same one if there is none. -/
theorem machine_run (catalog : Catalog) (flow : Flow) (stage : Stage) :
    (stage.run catalog flow).machine =
      match catalog.resolve? stage.command with
      | none => flow.machine
      | some command => (command.run stage.arguments flow.lines flow.machine).machine := by
  cases found : catalog.resolve? stage.command with
  | none => simp only [run, found]
  | some command =>
      simp only [run, found]
      split <;> rfl

/-- A stage whose command replies passes on the output of the command. -/
theorem run_of_reply {catalog : Catalog} (flow : Flow) (stage : Stage) {command : Command}
    (found : catalog.resolve? stage.command = some command) {next : Machine}
    {output diagnostics : List String} {status : Int}
    (done : command.run stage.arguments flow.lines flow.machine =
      next.reply output diagnostics status) :
    stage.run catalog flow = ⟨next, flow.diagnostics ++ diagnostics, some output, status⟩ := by
  simp only [run, found, done]
  rfl

/-- A stage does what its command does, and nothing if there is no such command. -/
theorem effect_run (flow : Flow) (stage : Stage) :
    Command.Effect flow.machine (Catalog.foldCase stage.command) stage.arguments
      (stage.run .standard flow).machine := by
  rw [machine_run]
  split
  next => exact .unchanged
  next command found =>
    obtain ⟨member, named⟩ := Catalog.mem_of_resolve? found
    rw [← named]
    exact Builtin.effect_of_mem member ..

end Stage

end TapeShell
