/-
This file shows that output that is appended to a text adds its lines behind the lines of the text.
-/

import TapeShell.Proofs.Append

namespace TapeShell

namespace Text

/-- The character comes in front of the first line. -/
def lead (character : Char) : List (List Char) → List (List Char)
  | [] => [[character]]
  | line :: others => (character :: line) :: others

/-- A newline ends an empty line. -/
theorem cutLines_newline (rest : List Char) : cutLines ('\n' :: rest) = [] :: cutLines rest := by
  rw [cutLines]
  · rw [if_pos rfl]
  · simp

/-- A carriage return before a newline is dropped, and any other character is kept. -/
theorem cutLines_cons {character : Char} (solid : character ≠ '\n') (rest : List Char) :
    cutLines (character :: rest) =
      if character = '\r' ∧ rest.head? = some '\n' then cutLines rest
      else lead character (cutLines rest) := by
  split
  next returned =>
    obtain ⟨rfl, newline⟩ := returned
    obtain ⟨more, rfl⟩ := List.head?_eq_some_iff.mp newline
    rw [cutLines, cutLines_newline]
  next kept =>
    rw [cutLines]
    · rw [if_neg solid]
      cases cutLines rest <;> rfl
    · rintro more rfl rfl
      exact kept ⟨rfl, rfl⟩

/-- A character in front joins the first line only. -/
theorem lead_append {character : Char} {lines : List (List Char)} (some : lines ≠ [])
    (others : List (List Char)) :
    lead character (lines ++ others) = lead character lines ++ others := by
  cases lines with
  | nil => exact absurd rfl some
  | cons line rest => rfl

/-- Text that is not empty has a line. -/
theorem cutLines_ne_nil {text : List Char} (some : text ≠ []) : cutLines text ≠ [] := by
  induction text with
  | nil => exact absurd rfl some
  | cons character rest inductionHypothesis =>
      by_cases newline : character = '\n'
      · subst newline
        rw [cutLines_newline]
        exact List.cons_ne_nil _ _
      · rw [cutLines_cons newline]
        split
        next returned =>
          apply inductionHypothesis
          rintro rfl
          cases returned.2
        next => cases cutLines rest <;> exact List.cons_ne_nil _ _

/-- What stands behind a newline is cut on its own. -/
theorem cutLines_append (front behind : List Char) :
    cutLines (front ++ '\n' :: behind) = cutLines (front ++ ['\n']) ++ cutLines behind := by
  induction front with
  | nil =>
      rw [List.nil_append, List.nil_append, cutLines_newline, cutLines_newline]
      rfl
  | cons character front inductionHypothesis =>
      rw [List.cons_append, List.cons_append]
      by_cases newline : character = '\n'
      · subst newline
        rw [cutLines_newline, cutLines_newline, inductionHypothesis, List.cons_append]
      · have sameHead : (front ++ '\n' :: behind).head? = (front ++ ['\n']).head? := by
          cases front <;> rfl
        rw [cutLines_cons newline, cutLines_cons newline, sameHead, inductionHypothesis]
        split
        next => rfl
        next => exact lead_append (cutLines_ne_nil (by simp)) _

/-- A newline at the end of an unended text adds no line. -/
theorem cutLines_terminated {text : List Char} {last : Char} (ends : text.getLast? = some last)
    (noNewline : last ≠ '\n') (noReturn : last ≠ '\r') :
    cutLines (text ++ ['\n']) = cutLines text := by
  induction text with
  | nil => cases ends
  | cons character rest inductionHypothesis =>
      cases rest with
      | nil =>
          obtain rfl : character = last := by simpa using ends
          rw [List.singleton_append, cutLines_cons noNewline, cutLines_cons noNewline,
            if_neg (fun returned => noReturn returned.1), if_neg (by simp), cutLines_newline]
          rfl
      | cons next more =>
          have shorter := inductionHypothesis (by rwa [List.getLast?_cons_cons] at ends)
          rw [List.cons_append]
          by_cases newline : character = '\n'
          · rw [newline, cutLines_newline, cutLines_newline, shorter]
          · rw [cutLines_cons newline, cutLines_cons newline, shorter]
            rfl

/-- Appended text adds its lines. -/
theorem lines_appendText {old : String} (noReturn : old.toList.getLast? ≠ some '\r')
    (new : String) : lines (appendText old new) = lines old ++ lines new := by
  unfold appendText
  split
  next empty =>
    obtain rfl : old = "" := by simpa using empty
    rfl
  next filled =>
    split
    next empty =>
      obtain rfl : new = "" := by simpa using empty
      exact (List.append_nil _).symm
    next =>
      split
      next terminated =>
        obtain ⟨front, cut⟩ := List.getLast?_eq_some_iff.mp terminated
        rw [lines, String.toList_append, cut, List.append_assoc, List.singleton_append,
          cutLines_append, List.map_append, ← cut]
        rfl
      next unterminated =>
        obtain ⟨last, ends⟩ : ∃ last, old.toList.getLast? = some last := by
          rw [← Option.isSome_iff_exists]
          simpa using filled
        have noNewline : last ≠ '\n' := by
          rintro rfl
          exact unterminated ends
        have keepsReturn : last ≠ '\r' := by
          rintro rfl
          exact noReturn ends
        have newline : (old ++ "\n" ++ new).toList = old.toList ++ '\n' :: new.toList := by simp
        rw [lines, newline, cutLines_append, List.map_append,
          cutLines_terminated ends noNewline keepsReturn]
        rfl

end Text

open Text (joinLines)
open Text.Utf8 (encode)

namespace Store

/-- The file at the path holds the text, which is empty if nothing is there. -/
def HoldsText (store : Store) (path text : String) : Prop :=
  store.read path = .ok (encode text) ∨ store.contains path = false ∧ text = ""

section Append

variable {store : Store} {path : String}

/-- The text that a place holds is the old text there. -/
theorem oldText_of_holdsText {text : String} (holds : store.HoldsText path text) :
    store.oldText path = .ok text := by
  rcases holds with existing | ⟨absent, rfl⟩
  · rw [oldText_of_read existing, Text.Utf8.decodeLossy_encode]
  · have nothing : store.node? path = none := by simpa [contains] using absent
    simp [oldText, readText, read, nothing, Except.map, Fault.isAbsence]

/-- A file can be made in every directory. -/
theorem writable_of_absent (absent : store.contains path = false)
    (inside : store.isDirectory (Path.parent (Path.normalize path)) = true) :
    store.Writable path := by
  have nothing : store.nodes.find? (Path.normalize path) = none := by
    simpa [contains, node?] using absent
  have normal := Path.isNormal_parent (Path.isNormal_normalize path)
  rw [isDirectory, beq_iff_eq, node?, Path.normalize_of_isNormal normal] at inside
  exact ⟨by simp [nothing], inside⟩

end Append

/-- Output is appended where a path can be written, and nothing else changes. -/
theorem writeLines_append (store : Store) (path : String) (lines : List String) :
    (store.contains path = false →
      store.isDirectory (Path.parent (Path.normalize path)) = true → store.Writable path) ∧
    (store.Writable path → ∃ changed, store.writeLines path .append lines = .ok changed ∧
      (∀ other, Path.components other ≠ Path.components path → store.Agrees changed other) ∧
      ∀ old, store.HoldsText path old → old.toList.getLast? ≠ some '\r' →
        ∃ new, changed.read path = .ok (encode new) ∧
          Text.lines new = Text.lines old ++ Text.lines (joinLines lines)) ∧
    (¬ store.Writable path → (∃ fault, store.writeLines path .append lines = .error fault) ∧
      ∀ flow name, flow.machine.store = store → flow.machine.resolve name = path →
        (Pipeline.deliver (some ⟨name, .append⟩) flow).machine.store = store) := by
  refine ⟨writable_of_absent, fun writable => ?_, fun unwritable =>
    ⟨writeLines_of_not_writable unwritable .append lines, ?_⟩⟩
  · obtain ⟨text, found⟩ := exists_oldText writable.1
    have done := write_of_writable writable (encode (appendText text (joinLines lines)))
    refine ⟨_, by rw [writeLines, found]; exact done, fun other => (write_answers done).2, ?_⟩
    intro old holds noReturn
    obtain rfl : text = old := by
      rw [oldText_of_holdsText holds] at found
      cases found
      rfl
    exact ⟨_, (write_answers done).1 rfl, Text.lines_appendText noReturn _⟩
  · rintro flow name rfl rfl
    exact Pipeline.deliver_of_not_writable unwritable

/-- The last line of the file has no end. -/
def shelf : Store :=
  .after [.makeDirectory "/d", .write "/d/a" (encode "x\r\ny")]

/-- Output goes to a file, to a new file and to a path inside a file. -/
theorem writeLines_append_shelf :
    (∃ changed new, shelf.writeLines "/d//a" .append ["p\nq", "", ""] = .ok changed ∧
      changed.read "/d//a" = .ok (encode new) ∧
      Text.lines new = Text.lines "x\r\ny" ++ Text.lines (joinLines ["p\nq", "", ""])) ∧
    (∃ changed new, shelf.writeLines "/d/b" .append ["z"] = .ok changed ∧
      changed.read "/d/b" = .ok (encode new) ∧
      Text.lines new = Text.lines "" ++ Text.lines (joinLines ["z"])) ∧
    ∃ fault, shelf.writeLines "/d/a/b" .append ["z"] = .error fault := by
  have existing : shelf.read "/d//a" = .ok (encode "x\r\ny") := by decide +kernel
  have writable : shelf.Writable "/d//a" := by
    unfold Writable
    decide +kernel
  have absent : shelf.contains "/d/b" = false := by decide +kernel
  have unwritable : ¬ shelf.Writable "/d/a/b" := by
    unfold Writable
    decide +kernel
  refine ⟨?_, ?_, ((writeLines_append shelf "/d/a/b" ["z"]).2.2 unwritable).1⟩
  · obtain ⟨changed, done, -, adds⟩ :=
      (writeLines_append shelf "/d//a" ["p\nq", "", ""]).2.1 writable
    obtain ⟨new, read, added⟩ := adds "x\r\ny" (.inl existing) (by decide)
    exact ⟨changed, new, done, read, added⟩
  · obtain ⟨creates, appends, -⟩ := writeLines_append shelf "/d/b" ["z"]
    obtain ⟨changed, done, -, adds⟩ := appends (creates absent (by decide +kernel))
    obtain ⟨new, read, added⟩ := adds "" (.inr ⟨absent, rfl⟩) (by decide)
    exact ⟨changed, new, done, read, added⟩

end Store

end TapeShell
