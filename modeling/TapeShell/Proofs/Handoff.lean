/-
This file says which lines come through a file as they were.
-/

import TapeShell.Proofs.Lines

namespace TapeShell

namespace Text

/-- One carriage return at the end of a line does not belong to the line. -/
def dropReturn (line : List Char) : List Char :=
  if line.getLast? = some '\r' then line.dropLast else line

/-- Nothing is dropped from a line without a carriage return at its end. -/
theorem dropReturn_eq_self_iff {line : List Char} :
    dropReturn line = line ↔ line.getLast? ≠ some '\r' := by
  unfold dropReturn
  split
  next returned =>
    obtain ⟨front, rfl⟩ := List.getLast?_eq_some_iff.mp returned
    simp
  next kept => simp [kept]

/-- Only the end of a line matters. -/
theorem dropReturn_cons_cons (first second : Char) (rest : List Char) :
    dropReturn (first :: second :: rest) = first :: dropReturn (second :: rest) := by
  simp only [dropReturn, List.getLast?_cons_cons, List.dropLast_cons_cons]
  split <;> rfl

/-- A line that is ended loses one carriage return at most. -/
theorem cutLines_line {line : List Char} (whole : '\n' ∉ line) (rest : List Char) :
    cutLines (line ++ '\n' :: rest) = dropReturn line :: cutLines rest := by
  induction line with
  | nil => exact cutLines_newline rest
  | cons character line inductionHypothesis =>
      rw [List.mem_cons, not_or] at whole
      have solid : character ≠ '\n' := Ne.symm whole.1
      rw [List.cons_append, cutLines_cons solid, inductionHypothesis whole.2]
      -- Only the last character of the line can be the carriage return that is lost.
      cases line with
      | nil => by_cases returned : character = '\r' <;> simp [returned, dropReturn, lead]
      | cons next more =>
          have apart : next ≠ '\n' := by
            rintro rfl
            exact whole.2 List.mem_cons_self
          rw [if_neg (by simp [apart]), dropReturn_cons_cons]
          rfl

/-- A line at the end of a text needs no newline, and it keeps a carriage return. -/
theorem cutLines_of_not_mem {line : List Char} (whole : '\n' ∉ line) (filled : line ≠ []) :
    cutLines line = [line] := by
  induction line with
  | nil => exact absurd rfl filled
  | cons character line inductionHypothesis =>
      rw [List.mem_cons, not_or] at whole
      rw [cutLines_cons (Ne.symm whole.1),
        if_neg (fun returned => whole.2 (List.mem_of_mem_head? returned.2))]
      cases line with
      | nil => rfl
      | cons next more =>
          rw [inductionHypothesis whole.2 (List.cons_ne_nil _ _)]
          rfl

/-- Lines come back unless the last is empty or another ends in a carriage return. -/
theorem cutLines_intercalate_iff {lines : List (List Char)} (whole : ∀ line ∈ lines, '\n' ∉ line) :
    cutLines (['\n'].intercalate lines) = lines ↔
      lines.getLast? ≠ some [] ∧ ∀ line ∈ lines.dropLast, line.getLast? ≠ some '\r' := by
  induction lines with
  | nil => simp [cutLines]
  | cons line rest inductionHypothesis =>
      cases rest with
      | nil =>
          by_cases filled : line = []
          · simp [filled, cutLines]
          · have alone := cutLines_of_not_mem (whole line List.mem_cons_self) filled
            simp [alone, filled]
      | cons next others =>
          have joined : ['\n'].intercalate (line :: next :: others) =
              line ++ '\n' :: ['\n'].intercalate (next :: others) := by
            simp [List.intercalate_cons_cons]
          have shorter := inductionHypothesis fun line inRest =>
            whole line (List.mem_cons_of_mem _ inRest)
          rw [joined, cutLines_line (whole line List.mem_cons_self), List.cons.injEq,
            dropReturn_eq_self_iff, shorter, List.getLast?_cons_cons, List.dropLast_cons_cons,
            List.forall_mem_cons]
          exact and_left_comm

/-- Joined lines are cut as they were, but for an empty end and carriage returns. -/
theorem lines_joinLines_iff {text : List String} (whole : ∀ line ∈ text, '\n' ∉ line.toList) :
    lines (joinLines text) = text ↔
      text.getLast? ≠ some "" ∧ ∀ line ∈ text.dropLast, line.toList.getLast? ≠ some '\r' := by
  have wholeLists : ∀ line ∈ text.map String.toList, '\n' ∉ line := by simpa using whole
  have joined : (joinLines text).toList = ['\n'].intercalate (text.map String.toList) := by
    rw [joinLines, String.toList_intercalate]
    rfl
  have listed : lines (joinLines text) = text ↔
      cutLines (['\n'].intercalate (text.map String.toList)) = text.map String.toList := by
    rw [lines, joined]
    constructor
    · intro cut
      nth_rewrite 2 [← cut]
      simp [Function.comp_def]
    · intro cut
      simp [cut, Function.comp_def]
  rw [listed, cutLines_intercalate_iff wholeLists, List.getLast?_map, ← List.map_dropLast,
    List.forall_mem_map]
  exact and_congr (by simp) Iff.rfl

end Text

open Text (joinLines)

namespace Pipeline

/-- Lines go through a file unless the last is empty or another ends in a carriage return. -/
theorem feed_run_write (catalog : Catalog) (writer reader : Pipeline) (machine later : Machine)
    (target source : String) (writes : writer.output = some ⟨target, .write⟩)
    (reads : reader.input = some source) (input : Option (List String))
    (fed : writer.feed machine = .ok input) (flow : Flow)
    (ran : writer.stages.foldl (Stage.run catalog) (.start machine input) = flow)
    (lines : List String) (said : flow.lines.getD [] = lines)
    (whole : ∀ line ∈ lines, '\n' ∉ line.toList) (written : Store)
    (done : flow.machine.store.writeLines (flow.machine.resolve target) .write lines = .ok written)
    (kept : later.store = (writer.run catalog machine).machine.store)
    (same : Path.components (later.resolve source) =
      Path.components (flow.machine.resolve target)) :
    ∃ handed, reader.feed later = .ok (some handed) ∧
      reader.run catalog later = reader.runStages catalog later (some handed) ∧
      (handed = lines ↔ (lines = [] ∨ lines.getLast? ≠ some "") ∧
        ∀ line ∈ lines.dropLast, line.toList.getLast? ≠ some '\r') := by
  have store : later.store = written := by
    rw [kept]
    exact store_run_of_writeLines writes fed ran (by rw [said]; exact done)
  have content : later.store.readText (later.resolve source) = .ok (joinLines lines) := by
    rw [store, Store.readText, (Store.write_answers done).1 same]
    exact congrArg Except.ok (Text.Utf8.decodeLossy_encode _)
  have handed : reader.feed later = .ok (some (Text.lines (joinLines lines))) := by
    rw [feed, reads]
    simp only [content]
    rfl
  refine ⟨_, handed, by rw [run_eq, handed], ?_⟩
  rw [Text.lines_joinLines_iff whole]
  have lastLine : lines.getLast? ≠ some "" ↔ lines = [] ∨ lines.getLast? ≠ some "" := by
    cases lines <;> simp
  exact and_congr lastLine Iff.rfl

/-- One file starts with an empty line, and the other with a carriage return. -/
def copies : Machine :=
  ⟨.start "/", .after [.write "/a" (Text.Utf8.encode "\nx\r"),
    .write "/b" (Text.Utf8.encode "x\r\r\ny")]⟩

/-- This pipeline prints one file into another. -/
def copyFrom (source : String) : Pipeline :=
  ⟨[⟨"cat", [source]⟩], none, some ⟨"c", .write⟩⟩

/-- These are the lines that arrive at the end of that pipeline. -/
def copyFlow (source : String) : Flow :=
  (copyFrom source).stages.foldl (Stage.run .standard) (.start copies none)

/-- This pipeline reads the copy. -/
def readCopy : Pipeline :=
  ⟨[⟨"cat", []⟩], some "/./c", none⟩

/-- The lines of one file survive a copy, and those of the other do not. -/
theorem feed_run_write_copies :
    readCopy.feed ((copyFrom "a").run .standard copies).machine = .ok (some ["", "x\r"]) ∧
    ∃ handed, readCopy.feed ((copyFrom "b").run .standard copies).machine = .ok (some handed) ∧
      handed ≠ ["x\r", "y"] := by
  constructor
  · have free : (copyFlow "a").machine.store.Writable ((copyFlow "a").machine.resolve "c") := by
      unfold Store.Writable
      decide +kernel
    obtain ⟨handed, fed, -, survives⟩ := feed_run_write .standard (copyFrom "a") readCopy copies
      _ "c" "/./c" rfl rfl none rfl (copyFlow "a") rfl ["", "x\r"] (by decide +kernel)
      (by decide) _ (Store.write_of_writable free _) rfl (by decide +kernel)
    rw [fed, survives.mpr (by decide)]
  · have free : (copyFlow "b").machine.store.Writable ((copyFlow "b").machine.resolve "c") := by
      unfold Store.Writable
      decide +kernel
    obtain ⟨handed, fed, -, survives⟩ := feed_run_write .standard (copyFrom "b") readCopy copies
      _ "c" "/./c" rfl rfl none rfl (copyFlow "b") rfl ["x\r", "y"] (by decide +kernel)
      (by decide) _ (Store.write_of_writable free _) rfl (by decide +kernel)
    exact ⟨handed, fed, mt survives.mp (by decide)⟩

end Pipeline

end TapeShell
