/-
This file shows when references to variables keep the scanner and the segments together.
-/

import TapeShell.Proofs.Agreement
import TapeShell.Proofs.Substitution

namespace TapeShell

namespace Scanner

/-- This quote opens the span. -/
def Span.quote : Span → Option Char
  | .bare => none
  | .single => some '\''
  | .double => some '"'

/-- The segments see this quotation where the scanner is in the mode. -/
def Mode.trail : Mode → Option Char
  | .inside span | .dollar span | .named span _ => span.quote
  | .greater => none
  | .braced span name => name.foldl Segment.nextQuote span.quote

/-- The step keeps to the quotations of the segments and separates only where they cut. -/
structure Keeps (quote : Option Char) (character : Char) (next : List Mark × Mode) : Prop where
  trail : next.2.trail = Segment.nextQuote quote character
  cuts : Mark.operator .separator ∈ next.1 → quote = none ∧ character = ';'

/-- Outside quotations a step keeps the trail of the segments. -/
theorem stepBare_keeps (lookup : Lookup) (character : Char) :
    Keeps none character (stepBare lookup character) := by
  fun_cases stepBare lookup character
  all_goals constructor <;> simp_all [Mode.trail, Span.quote, Segment.nextQuote]

/-- Text that starts outside quotations leaves one of the known quotations open, or none. -/
theorem foldl_nextQuote_eq (text : List Char) :
    ∃ span : Span, text.foldl Segment.nextQuote none = span.quote := by
  have followed := run_quote (.inside .bare) trivial text
  match (run none (.inside .bare) text).2, followed with
  | .inside span, followed => exact ⟨span, by cases span <;> exact followed.symm⟩
  | .greater, followed | .dollar _, followed | .named _ _, followed | .braced _ _, followed =>
      exact ⟨.bare, followed.symm⟩

/-- Only quotation marks change the open quotation. -/
theorem nextQuote_of_ne (span : Span) {character : Char} (notSingle : character ≠ '\'')
    (notDouble : character ≠ '"') : Segment.nextQuote span.quote character = span.quote := by
  cases span <;> simp [Segment.nextQuote, Span.quote, notSingle, notDouble]

/-- Inside quotations a step keeps the trail of the segments. -/
theorem stepInside_keeps (lookup : Lookup) (span : Span) (character : Char) :
    Keeps span.quote character (stepInside lookup span character) := by
  fun_cases stepInside lookup span character with
  | case1 => exact stepBare_keeps lookup character
  | _ => constructor <;> simp_all [Mode.trail, Span.quote, Segment.nextQuote]

/-- Marks without an operator in front change nothing. -/
theorem Keeps.after {quote : Option Char} {character : Char} {next : List Mark × Mode}
    {marks : List Mark} (keeps : Keeps quote character next)
    (silent : Mark.operator .separator ∉ marks) : Keeps quote character (after marks next) where
  trail := keeps.trail
  cuts := by
    intro member
    rcases List.mem_append.mp member with early | late
    · exact absurd early silent
    · exact keeps.cuts late

/-- No value separates. -/
theorem separator_not_mem_expand (lookup : Lookup) (name : List Char) :
    Mark.operator .separator ∉ expand lookup name := by
  rw [expand_eq_glyphs, glyphs]
  simp

/-- The reference that this character closes, if any. -/
def closedReference? : Mode → Char → Option (Span × List Char)
  | .braced span name, character => if character = '\x7d' then some (span, name) else none
  | _, _ => none

/-- The references in braces, each with the span that it stands in. -/
def references (lookup : Lookup) : Mode → List Char → List (Span × List Char)
  | _, [] => []
  | mode, character :: rest =>
      (closedReference? mode character).toList ++
        references lookup (step lookup mode character).2 rest

/-- A neutral reference leaves the quotation that it stands in as it is. -/
def Neutral (reference : Span × List Char) : Prop :=
  reference.2.foldl Segment.nextQuote reference.1.quote = reference.1.quote

instance (reference : Span × List Char) : Decidable (Neutral reference) :=
  inferInstanceAs (Decidable (_ = _))

/-- No quote belongs to a name. -/
theorem isNameCharacter_ne {character : Char} (named : isNameCharacter character = true) :
    character ≠ '\'' ∧ character ≠ '"' := by
  constructor
  · rintro rfl
    revert named
    decide
  · rintro rfl
    revert named
    decide

/-- One step keeps to the quotations of the segments unless it closes a reference that does not. -/
theorem step_keeps (lookup : Lookup) (mode : Mode) (character : Char)
    (neutral : ∀ reference ∈ closedReference? mode character, Neutral reference) :
    Keeps mode.trail character (step lookup mode character) := by
  fun_cases step lookup mode character with
  | case1 span => exact stepInside_keeps lookup span character
  | case2 => exact ⟨rfl, by simp⟩
  | case3 _ => exact (stepBare_keeps lookup character).after (by simp)
  | case4 span =>
      exact ⟨(nextQuote_of_ne span (by decide) (by decide)).symm,
        fun member => absurd member (separator_not_mem_expand lookup _)⟩
  | case5 span _ => exact ⟨(nextQuote_of_ne span (by decide) (by decide)).symm, by simp⟩
  | case6 span _ _ _ named =>
      obtain ⟨notSingle, notDouble⟩ := isNameCharacter_ne named
      exact ⟨(nextQuote_of_ne span notSingle notDouble).symm, by simp⟩
  | case7 span => exact (stepInside_keeps lookup span character).after (by simp)
  | case8 span name _ named =>
      obtain ⟨notSingle, notDouble⟩ := isNameCharacter_ne named
      exact ⟨(nextQuote_of_ne span notSingle notDouble).symm, by simp⟩
  | case9 span name =>
      exact (stepInside_keeps lookup span character).after (separator_not_mem_expand lookup name)
  | case10 span name =>
      -- Here the scanner goes back to `span`, while the segments have read the name on the way.
      have restored : name.foldl Segment.nextQuote span.quote = span.quote :=
        neutral (span, name) rfl
      constructor
      · rw [Mode.trail, Mode.trail, restored, nextQuote_of_ne span (by decide) (by decide)]
      · exact fun member => absurd member (separator_not_mem_expand lookup _)
  | case11 span name => exact ⟨List.foldl_append, by simp⟩

/-- Where every reference is neutral, text in one piece has no separator. -/
theorem separator_not_mem_scan (lookup : Lookup) (mode : Mode) (text : List Char)
    (neutral : ∀ reference ∈ references lookup mode text, Neutral reference)
    (whole : Segment.pieces mode.trail text = [text]) :
    Mark.operator .separator ∉ scan lookup mode text := by
  induction text generalizing mode with
  | nil => cases mode <;> simp [scan, finish, glyphs, separator_not_mem_expand]
  | cons character rest inductionHypothesis =>
      have keeps := step_keeps lookup mode character fun reference found =>
        neutral reference (List.mem_append_left _ (Option.mem_toList.mpr found))
      obtain ⟨uncut, restWhole⟩ := Segment.pieces_tail whole
      rw [← keeps.trail] at restWhole
      intro member
      rcases List.mem_append.mp member with now | later
      · exact uncut (keeps.cuts now)
      · refine inductionHypothesis _ (fun reference found => ?_) restWhole later
        exact neutral reference (List.mem_append_right _ found)

/-- A scanner that replaces no variable reads no reference. -/
theorem references_none (mode : Mode) (plain : mode.IsPlain) (text : List Char) :
    references none mode text = [] := by
  induction text generalizing mode with
  | nil => rfl
  | cons character rest inductionHypothesis =>
      have follows := step_follows mode plain character
      rw [references, inductionHypothesis _ follows.plain, List.append_nil]
      cases mode with
      | braced span name => exact absurd plain id
      | _ => rfl

/-- Which references a text holds does not depend on the values of the variables. -/
theorem references_congr {first second : Lookup} (same : first.isSome = second.isSome)
    (mode : Mode) (text : List Char) :
    references first mode text = references second mode text := by
  induction text generalizing mode with
  | nil => rfl
  | cons character rest inductionHypothesis =>
      rw [references, references, (step_parallel same mode character).1, inductionHypothesis]

end Scanner

end TapeShell
