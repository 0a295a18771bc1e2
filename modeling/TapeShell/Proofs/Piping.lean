/-
This file shows that a command answers alike whether it reads files itself or is fed their lines.
-/

import TapeShell.Proofs.Selection
import TapeShell.Proofs.Steps

namespace TapeShell

namespace Builtin

section Input

variable {machine : Machine} {files : List String} {input other : Option (List String)}

/-- A search depends on the lines that it is given only. -/
theorem Grep.run_congr (same : machine.inputLines input files = machine.inputLines other [])
    {words : List String} (valid : ∀ word ∈ words, IsValid word) {pattern : String}
    (plain : ¬ IsOption pattern) :
    grep.run (words ++ pattern :: files) input machine =
      grep.run (words ++ [pattern]) other machine := by
  change call machine input words pattern files = call machine other words pattern []
  rw [call_eq_search plain valid, call_eq_search plain valid, search, search, same]

/-- Words that do not start with the flag are files. -/
theorem Head.readArguments_files (plain : ∀ file ∈ files, ¬ ['-', 'n'] <+: file.toList)
    (limit : Nat) (found : List String) :
    readArguments limit found files = some (limit, found ++ files) := by
  induction files generalizing found with
  | nil => simp [readArguments]
  | cons file files inductionHypothesis =>
      rw [List.forall_mem_cons] at plain
      have apart (rest : List Char) : file.toList ≠ '-' :: 'n' :: rest := by
        intro flag
        exact plain.1 (by simp [flag])
      rw [readArguments.eq_def]
      simp only
      split
      next flag => exact absurd flag (apart [])
      next flag => exact absurd flag (apart _)
      next => rw [inductionHypothesis plain.2, List.append_assoc, List.singleton_append]

/-- Behind the number come the files. -/
theorem Head.readArguments_flag (plain : ∀ file ∈ files, ¬ ['-', 'n'] <+: file.toList)
    (limit : Nat) (number : String) :
    readArguments limit [] ("-n" :: number :: files) =
      (Text.Decimal.unsigned? number.toList).map fun value => (value, files) := by
  have flag : "-n".toList = ['-', 'n'] := by decide
  rw [readArguments, flag]
  cases Text.Decimal.unsigned? number.toList with
  | none => rfl
  | some value => simp [readArguments_files plain]

/-- The first lines depend on the lines that are given only. -/
theorem Head.run_congr (same : machine.inputLines input files = machine.inputLines other [])
    (plain : ∀ file ∈ files, ¬ ['-', 'n'] <+: file.toList) (number : String) :
    head.run ("-n" :: number :: files) input machine = head.run ["-n", number] other machine := by
  have short : readArguments 10 [] ["-n", number] =
      (Text.Decimal.unsigned? number.toList).map fun value => (value, []) :=
    readArguments_flag (by simp) 10 number
  simp only [head, readArguments_flag plain, short]
  cases Text.Decimal.unsigned? number.toList with
  | none => rfl
  | some limit => simp only [Option.map_some, same]

end Input

end Builtin

/-- A command that answers alike to files and to their lines can be fed the lines. -/
theorem Stage.run_run_cat (flow : Flow) {files texts : List String}
    (holds : flow.machine.Holds files texts) {name : String} {command : Command}
    (found : Catalog.standard.resolve? name = some command) {long short : List String}
    (same : command.run long flow.lines flow.machine =
      command.run short (some (givenLines flow.lines texts)) flow.machine) :
    run .standard (run .standard flow ⟨"cat", files⟩) ⟨name, short⟩ =
      run .standard flow ⟨name, long⟩ := by
  rw [run_cat flow holds]
  simp only [run, found, same]

namespace Pipeline

/-- Stages that hand on the same flow can stand for each other. -/
theorem run_congr {catalog : Catalog} {machine : Machine} {first second : List Stage}
    (same : ∀ fed, first.foldl (Stage.run catalog) (.start machine fed) =
      second.foldl (Stage.run catalog) (.start machine fed))
    (input : Option String) (output : Option Redirect) :
    (⟨first, input, output⟩ : Pipeline).run catalog machine =
      (⟨second, input, output⟩ : Pipeline).run catalog machine := by
  have alike (fed : Option (List String)) :
      (⟨first, input, output⟩ : Pipeline).runStages catalog machine fed =
        (⟨second, input, output⟩ : Pipeline).runStages catalog machine fed :=
    congrArg (deliver output) (same fed)
  simp only [run, alike]

/-- A command that reads files can be fed their lines, whatever comes behind it. -/
theorem run_cat_command {machine : Machine} {files texts : List String}
    (holds : machine.Holds files texts) {name : String} {command : Command}
    (found : Catalog.standard.resolve? name = some command) {long short : List String}
    (same : ∀ fed, command.run long fed machine =
      command.run short (some (givenLines fed texts)) machine)
    (rest : List Stage) (input : Option String) (output : Option Redirect) :
    (⟨⟨name, long⟩ :: rest, input, output⟩ : Pipeline).run .standard machine =
      (⟨⟨"cat", files⟩ :: ⟨name, short⟩ :: rest, input, output⟩ : Pipeline).run
        .standard machine := by
  apply run_congr
  intro fed
  have fused := Stage.run_run_cat (.start machine fed) holds found (same fed)
  rw [List.foldl_cons, List.foldl_cons, List.foldl_cons, fused]

open Builtin.Grep (IsOption IsValid)

/-- Files are searched and cut as if they were printed to the command. -/
theorem run_cat_files (machine : Machine) (files : List String)
    (readable : ∀ file ∈ files, ∃ text, machine.readText file = .ok text) (rest : List Stage)
    (input : Option String) (output : Option Redirect) :
    (∀ words pattern, (∀ word ∈ words, IsValid word) → ¬ IsOption pattern →
      (⟨⟨"grep", words ++ pattern :: files⟩ :: rest, input, output⟩ : Pipeline).run
          .standard machine =
        (⟨⟨"cat", files⟩ :: ⟨"grep", words ++ [pattern]⟩ :: rest, input, output⟩ : Pipeline).run
          .standard machine) ∧
    ∀ number, (∀ file ∈ files, ¬ ['-', 'n'] <+: file.toList) →
      (⟨⟨"head", "-n" :: number :: files⟩ :: rest, input, output⟩ : Pipeline).run
          .standard machine =
        (⟨⟨"cat", files⟩ :: ⟨"head", ["-n", number]⟩ :: rest, input, output⟩ : Pipeline).run
          .standard machine := by
  obtain ⟨texts, holds⟩ := Machine.exists_holds readable
  have same (fed : Option (List String)) : machine.inputLines fed files =
      machine.inputLines (some (givenLines fed texts)) [] :=
    holds.inputLines_eq fed
  constructor
  · intro words pattern valid plain
    have found : Catalog.standard.resolve? "grep" = some Builtin.grep :=
      Catalog.resolve?_standard (by simp [Builtin.all]) rfl
    exact run_cat_command holds found
      (fun fed => Builtin.Grep.run_congr (same fed) valid plain) rest input output
  · intro number plain
    have found : Catalog.standard.resolve? "head" = some Builtin.head :=
      Catalog.resolve?_standard (by simp [Builtin.all]) rfl
    exact run_cat_command holds found
      (fun fed => Builtin.Head.run_congr (same fed) plain number) rest input output

open Machine (desk holds_desk)

/-- One file is named like an option, and the pattern is a dash. -/
theorem run_cat_files_desk :
    (⟨[⟨"grep", ["-n", "-v", "-", "a", "-v"]⟩], none, none⟩ : Pipeline).run .standard desk =
      (⟨[⟨"cat", ["a", "-v"]⟩, ⟨"grep", ["-n", "-v", "-"]⟩], none, none⟩ : Pipeline).run
        .standard desk ∧
    (⟨[⟨"head", ["-n", "+2", "a", "-v"]⟩], none, none⟩ : Pipeline).run .standard desk =
      (⟨[⟨"cat", ["a", "-v"]⟩, ⟨"head", ["-n", "+2"]⟩], none, none⟩ : Pipeline).run
        .standard desk := by
  obtain ⟨searches, starts⟩ := run_cat_files desk ["a", "-v"] holds_desk.readable [] none none
  exact ⟨searches ["-n", "-v"] "-" (by decide +kernel) (by decide +kernel),
    starts "+2" (by decide +kernel)⟩

end Pipeline

end TapeShell
