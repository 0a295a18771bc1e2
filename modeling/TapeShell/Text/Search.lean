/-
This file looks for one text inside another, and cuts text into lines.
-/

namespace TapeShell.Text

/-- The needle starts at some place of the text. -/
def occursIn (needle : List Char) : List Char → Bool
  | [] => needle.isEmpty
  | character :: rest => needle.isPrefixOf (character :: rest) || occursIn needle rest

/-- This function counts one character. -/
def occurrences (character : Char) (text : String) : Nat :=
  text.toList.count character

/-- No part between two separators holds one. -/
theorem not_mem_of_mem_splitOn {separator : Char} {text part : List Char}
    (member : part ∈ text.splitOn separator) : separator ∉ part := by
  induction text generalizing part with
  | nil => simp_all
  | cons character rest inductionHypothesis =>
      rw [List.splitOn_cons_eq_if_modifyHead] at member
      split at member
      next => rcases List.mem_cons.mp member with rfl | inRest <;> simp_all
      next different =>
        obtain ⟨first, others, found⟩ :=
          List.exists_cons_of_ne_nil (List.splitOn_ne_nil separator rest)
        rw [found] at inductionHypothesis member
        rw [List.modifyHead_cons] at member
        rcases List.mem_cons.mp member with rfl | inOthers
        · have apart : separator ≠ character := fun same => different (by simp [same])
          simpa [apart] using inductionHypothesis List.mem_cons_self
        · exact inductionHypothesis (List.mem_cons_of_mem _ inOthers)

section Order

variable {start left right : List Char}

/-- A common start does not matter for the order of two texts. -/
theorem append_lt_append_iff : start ++ left < start ++ right ↔ left < right := by
  induction start with
  | nil => rfl
  | cons character rest inductionHypothesis =>
      rw [List.cons_append, List.cons_append, List.cons_lt_cons_iff, inductionHypothesis]
      simp

/-- A text is not less than its start. -/
theorem not_lt_of_prefix (starts : start <+: right) : ¬ right < start := by
  obtain ⟨rest, rfl⟩ := starts
  intro less
  have impossible : start ++ rest < start ++ [] := by rwa [List.append_nil]
  exact List.not_lt_nil _ (append_lt_append_iff.mp impossible)

/-- What lies between a start and a text with that start has the same start. -/
theorem prefix_of_between (above : ¬ left < start) (less : left < right)
    (starts : start <+: right) : start <+: left := by
  induction start generalizing left right with
  | nil => exact List.nil_prefix
  | cons character start inductionHypothesis =>
      obtain ⟨rest, rfl⟩ := starts
      cases left with
      | nil => exact absurd (List.nil_lt_cons ..) above
      | cons first left =>
          rw [List.cons_append, List.cons_lt_cons_iff] at less
          rw [List.cons_lt_cons_iff, not_or, not_and] at above
          -- The first characters agree, for otherwise `left` would lie on one side of both texts.
          rcases less with smaller | ⟨rfl, restLess⟩
          · exact absurd smaller above.1
          · exact List.cons_prefix_cons.mpr
              ⟨rfl, inductionHypothesis (above.2 rfl) restLess (List.prefix_append _ _)⟩

end Order

/-- A line ends at a newline, and a carriage return before it is dropped. -/
def cutLines : List Char → List (List Char)
  | [] => []
  | '\r' :: '\n' :: rest => [] :: cutLines rest
  | character :: rest =>
      if character = '\n' then [] :: cutLines rest
      else match cutLines rest with
        | [] => [[character]]
        | line :: others => (character :: line) :: others

def lines (text : String) : List String :=
  (cutLines text.toList).map String.ofList

def joinLines (lines : List String) : String :=
  "\n".intercalate lines

end TapeShell.Text
