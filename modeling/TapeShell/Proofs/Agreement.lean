/-
This file shows that the scanner and the segments follow the same quotations.
-/

import TapeShell.Proofs.Scanner
import TapeShell.Proofs.Segment

namespace TapeShell

namespace Scanner

/-- The quotation in which a mode reads the next character, if no variable is open. -/
def Mode.quote : Mode → Option Char
  | .inside .single => some '\''
  | .inside .double => some '"'
  | _ => none

/-- A scanner that replaces no variable knows only these modes. -/
def Mode.IsPlain : Mode → Prop
  | .inside _ => True
  | .greater => True
  | _ => False

/-- A plain scanner follows the quotations of the segments and cuts where they do. -/
structure Follows (mode : Mode) (character : Char) (next : List Mark × Mode) : Prop where
  plain : next.2.IsPlain
  quote : next.2.quote = Segment.nextQuote mode.quote character
  cuts : Mark.operator .separator ∈ next.1 ↔ mode.quote = none ∧ character = ';'

/-- Outside quotations the scanner cuts at every semicolon. -/
theorem stepBare_follows (character : Char) :
    Follows (.inside .bare) character (stepBare none character) := by
  fun_cases stepBare none character
  all_goals constructor <;> simp_all [Mode.IsPlain, Mode.quote, Segment.nextQuote]

/-- One step of a plain scanner keeps to the quotations of the segments. -/
theorem step_follows (mode : Mode) (plain : mode.IsPlain) (character : Char) :
    Follows mode character (step none mode character) := by
  match mode, plain with
  | .inside .bare, _ => exact stepBare_follows character
  | .inside .single, _ =>
      rw [step, stepInside]
      split
      next closing =>
        subst closing
        constructor <;> simp [Mode.IsPlain, Mode.quote, Segment.nextQuote]
      next other => constructor <;> simp [Mode.IsPlain, Mode.quote, Segment.nextQuote, other]
  | .inside .double, _ =>
      rw [step, stepInside]
      split
      next closing =>
        subst closing
        constructor <;> simp [Mode.IsPlain, Mode.quote, Segment.nextQuote]
      next other => constructor <;> simp [Mode.IsPlain, Mode.quote, Segment.nextQuote, other]
  | .greater, _ =>
      rw [step]
      split
      next again =>
        subst again
        constructor <;> simp [Mode.IsPlain, Mode.quote, Segment.nextQuote]
      next other =>
        have bare := stepBare_follows character
        exact ⟨bare.plain, bare.quote, by simpa [after, Mode.quote] using bare.cuts⟩

/-- The scanner and the segments leave the same quotation open. -/
theorem run_quote (mode : Mode) (plain : mode.IsPlain) (text : List Char) :
    (run none mode text).2.quote = text.foldl Segment.nextQuote mode.quote := by
  induction text generalizing mode with
  | nil => rfl
  | cons character rest inductionHypothesis =>
      have follows := step_follows mode plain character
      rw [List.foldl_cons, ← follows.quote, ← inductionHypothesis _ follows.plain]
      rfl

/-- A plain scanner stays plain over any text. -/
theorem run_plain (mode : Mode) (plain : mode.IsPlain) (text : List Char) :
    (run none mode text).2.IsPlain := by
  induction text generalizing mode with
  | nil => exact plain
  | cons character rest inductionHypothesis =>
      exact inductionHypothesis _ (step_follows mode plain character).plain

/-- Text that closes its quotations and its last operator is scanned on its own. -/
theorem scan_append {first : List Char} (closed : first.foldl Segment.nextQuote none = none)
    {character : Char} (other : character ≠ '>') (rest : List Char) :
    scan none (.inside .bare) (first ++ character :: rest) =
      scan none (.inside .bare) first ++ scan none (.inside .bare) (character :: rest) := by
  have plain := run_plain (.inside .bare) trivial first
  have outside := (run_quote (.inside .bare) trivial first).trans closed
  rw [scan_eq_run, run_append, scan_eq_run none _ first, scan_eq_run none _ (character :: rest)]
  generalize run none (.inside .bare) first = start at plain outside
  match start, plain, outside with
  | (marks, .inside .bare), _, _ => simp [after, finish]
  | (marks, .greater), _, _ => simp [after, finish, run, step, stepInside, other]

/-- Text in which the scanner sees no separator stays in one piece. -/
theorem pieces_run (mode : Mode) (plain : mode.IsPlain) (text rest : List Char)
    (uncut : Mark.operator .separator ∉ (run none mode text).1) :
    Segment.pieces mode.quote (text ++ rest) =
      (Segment.pieces (run none mode text).2.quote rest).modifyHead (text ++ ·) := by
  induction text generalizing mode with
  | nil =>
      rw [show (fun piece : List Char => [] ++ piece) = id from rfl, List.modifyHead_id]
      rfl
  | cons character text inductionHypothesis =>
      have follows := step_follows mode plain character
      have uncutParts := fun member => uncut (List.mem_append.mpr member)
      rw [List.cons_append, Segment.pieces_cons,
        if_neg fun cut => uncutParts (.inl (follows.cuts.mpr cut)), ← follows.quote,
        inductionHypothesis _ follows.plain fun member => uncutParts (.inr member),
        List.modifyHead_modifyHead]
      rfl

namespace ReadsAs

variable {text : String} {denoted : List Token}

/-- A text whose quotations are closed for the scanner leaves none open for the segments. -/
theorem quoteAfter_eq (reads : ReadsAs none text.toList denoted) :
    Segment.quoteAfter text = none := by
  have followed := run_quote (.inside .bare) trivial text.toList
  rw [reads.mode_eq] at followed
  exact followed.symm

/-- A text without a separator stays in one piece with what follows it. -/
theorem pieces_append (reads : ReadsAs none text.toList denoted)
    (uncut : Token.operator .separator ∉ denoted) (rest : List Char) :
    Segment.pieces none (text.toList ++ rest) =
      (Segment.pieces none rest).modifyHead (text.toList ++ ·) := by
  have unmarked : Mark.operator .separator ∉ (run none (.inside .bare) text.toList).1 := by
    rwa [← operator_mem_tokens, reads.denotes.tokens_eq]
  have whole := pieces_run (.inside .bare) trivial text.toList rest unmarked
  rwa [reads.mode_eq] at whole

/-- Trimmed text without a separator is a segment of its own, also before a blank. -/
theorem ofLine_eq (reads : ReadsAs none text.toList denoted)
    (uncut : Token.operator .separator ∉ denoted) (trimmed : Text.Trimmed text.toList)
    (nonempty : text.toList ≠ []) :
    Segment.ofLine text = [text] ∧ Segment.ofLine (text ++ " ") = [text] := by
  constructor
  · have whole := reads.pieces_append uncut []
    rw [List.append_nil] at whole
    rw [Segment.ofLine, whole]
    simp [Segment.pieces, trimmed.trimBlanks_eq, nonempty]
  · have whole := reads.pieces_append uncut [' ']
    have trim := trimmed.trimBlanks_append_blank nonempty (show Text.isBlank ' ' from rfl)
    rw [Segment.ofLine, String.toList_append, show " ".toList = [' '] from rfl, whole,
      show Segment.pieces none [' '] = [[' ']] from rfl]
    simp [trim, nonempty]

end ReadsAs

end Scanner

end TapeShell
