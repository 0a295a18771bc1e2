/-
This file says what the text commands are given to read.
-/

import Mathlib.Data.List.Forall2
import TapeShell.Proofs.Command
import TapeShell.Proofs.Tree

namespace TapeShell

/-- A command is given the lines of the texts, or the input if there are none. -/
def givenLines (input : Option (List String)) (texts : List String) : List String :=
  if texts.isEmpty then input.getD [] else texts.flatMap Text.lines

/-- Where files are named, their lines are given. -/
theorem givenLines_of_ne_nil {texts : List String} (some : texts ≠ [])
    (input : Option (List String)) : givenLines input texts = texts.flatMap Text.lines := by
  simp [givenLines, some]

namespace Machine

/-- The files can be read, and these are their texts. -/
def Holds (machine : Machine) : List String → List String → Prop :=
  List.Forall₂ fun file text => machine.readText file = .ok text

section Holds

variable {machine : Machine} {files texts : List String}

/-- Files that can be read hold texts. -/
theorem exists_holds (readable : ∀ file ∈ files, ∃ text, machine.readText file = .ok text) :
    ∃ texts, machine.Holds files texts := by
  induction files with
  | nil => exact ⟨[], .nil⟩
  | cons file files inductionHypothesis =>
      obtain ⟨text, read⟩ := readable file List.mem_cons_self
      obtain ⟨texts, holds⟩ := inductionHypothesis fun other member =>
        readable other (List.mem_cons_of_mem _ member)
      exact ⟨text :: texts, .cons read holds⟩

/-- Files that hold texts can be read. -/
theorem Holds.readable (holds : machine.Holds files texts) :
    ∀ file ∈ files, ∃ text, machine.readText file = .ok text := by
  induction holds with
  | nil => simp
  | cons read rest inductionHypothesis =>
      exact List.forall_mem_cons.mpr ⟨⟨_, read⟩, inductionHypothesis⟩

/-- Each file has its text. -/
theorem Holds.ne_nil (holds : machine.Holds files texts) (named : files ≠ []) : texts ≠ [] := by
  rintro rfl
  cases holds
  exact named rfl

/-- The lines of a file are those of its text. -/
theorem readLines_of_readText {file text : String} (read : machine.readText file = .ok text) :
    machine.readLines file = .ok (Text.lines text) := by
  rw [readLines, read]
  rfl

/-- A loop that succeeds for each file succeeds for all. -/
theorem mapM_of_forall₂ {result : Type} {read : String → Except Fault result}
    {results : List result}
    (each : List.Forall₂ (fun file result => read file = .ok result) files results) :
    files.mapM read = .ok results := by
  induction each with
  | nil => rfl
  | cons first rest inductionHypothesis =>
      rw [List.mapM_cons, first, inductionHypothesis]
      rfl

/-- The files are read as their texts. -/
theorem Holds.mapM_readText (holds : machine.Holds files texts) :
    files.mapM machine.readText = .ok texts :=
  mapM_of_forall₂ holds

/-- The files are read line by line. -/
theorem Holds.mapM_readLines (holds : machine.Holds files texts) :
    files.mapM machine.readLines = .ok (texts.map Text.lines) := by
  apply mapM_of_forall₂
  rw [List.forall₂_map_right_iff]
  exact holds.imp fun _ _ => readLines_of_readText

/-- The files give their lines, or what was fed in if there are none. -/
theorem Holds.inputLines_eq (holds : machine.Holds files texts) (input : Option (List String)) :
    machine.inputLines input files = .ok (givenLines input texts) := by
  rw [inputLines, holds.mapM_readLines]
  cases holds with
  | nil => rfl
  | cons first rest => simp [givenLines, Except.map, List.flatMap_def]

/-- Files that can be read are printed without a diagnostic. -/
theorem Holds.printFiles_eq (holds : machine.Holds files texts) :
    Builtin.printFiles machine files =
      machine.reply (texts.flatMap Text.lines) [] Status.success := by
  have printed : (files.map fun path => (path, machine.readLines path)).flatMap
      (fun reading => reading.2.toOption.getD []) = texts.flatMap Text.lines := by
    induction holds with
    | nil => rfl
    | cons read rest inductionHypothesis =>
        rw [List.map_cons, List.flatMap_cons, inductionHypothesis, readLines_of_readText read]
        rfl
  unfold Builtin.printFiles
  simp only [printed]
  rw [List.filterMap_eq_nil_iff.mpr]
  · rfl
  · intro reading member
    obtain ⟨file, inFiles, rfl⟩ := List.mem_map.mp member
    obtain ⟨text, read⟩ := holds.readable file inFiles
    simp only [readLines_of_readText read]

/-- The files are printed line by line. -/
theorem Holds.run_cat (holds : machine.Holds files texts) (input : Option (List String)) :
    Builtin.cat.run files input machine =
      machine.reply (givenLines input texts) [] Status.success := by
  simp only [Builtin.cat, holds.printFiles_eq]
  cases holds with
  | nil => rfl
  | cons read rest => rfl

end Holds

/-- One file lacks its last newline, and the name of the other looks like an option. -/
def desk : Machine :=
  ⟨.start "/", .after [.write "/a" (Text.Utf8.encode "Xy\r\nb"),
    .write "/-v" (Text.Utf8.encode "x-\n")]⟩

/-- The two files of the desk hold these texts. -/
theorem holds_desk : desk.Holds ["a", "-v"] ["Xy\r\nb", "x-\n"] :=
  .cons (by decide +kernel) (.cons (by decide +kernel) .nil)

end Machine

namespace Stage

/-- Files that can be read are handed to the next stage line by line. -/
theorem run_cat (flow : Flow) {files texts : List String}
    (holds : flow.machine.Holds files texts) :
    run .standard flow ⟨"cat", files⟩ =
      ⟨flow.machine, flow.diagnostics, some (givenLines flow.lines texts), Status.success⟩ := by
  have found : Catalog.standard.resolve? "cat" = some Builtin.cat :=
    Catalog.resolve?_standard (by simp [Builtin.all]) rfl
  rw [run_of_reply flow ⟨"cat", files⟩ found (holds.run_cat flow.lines), List.append_nil]

end Stage

end TapeShell
