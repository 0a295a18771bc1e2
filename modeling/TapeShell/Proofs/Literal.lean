/-
This file shows that replacing variables changes how a line is read only where the line refers to
one.
-/

import TapeShell.Session
import TapeShell.Proofs.Conservation

namespace TapeShell

namespace Scanner

/-- A dollar sign before such a character starts a reference. -/
def startsReference (character : Char) : Bool :=
  character == '?' || character == '\x7b' || character == '_' || Text.isAlphanumeric character

/-- A reference starts with a question mark, a brace or a name. -/
theorem startsReference_eq_false_iff (character : Char) :
    startsReference character = false ↔
      character ≠ '?' ∧ character ≠ '\x7b' ∧ isNameCharacter character = false := by
  simp only [startsReference, isNameCharacter, Bool.or_eq_false_iff, beq_eq_false_iff_ne]
  tauto

/-- In literal text no dollar sign outside single quotes starts a reference. -/
def Literal (quote : Option Char) (text : List Char) : Prop :=
  ∀ before next rest, text = before ++ '$' :: next :: rest →
    before.foldl Segment.nextQuote quote ≠ some '\'' → startsReference next = false

/-- The empty text is literal. -/
theorem literal_nil (quote : Option Char) : Literal quote [] := by
  intro before next rest split
  simp at split

/-- A text is literal if its first dollar sign refers to nothing and the rest is literal. -/
theorem literal_cons_iff (quote : Option Char) (character : Char) (text : List Char) :
    Literal quote (character :: text) ↔
      (character = '$' ∧ quote ≠ some '\'' → text.head?.any startsReference = false) ∧
        Literal (Segment.nextQuote quote character) text := by
  constructor
  · intro literal
    constructor
    · rintro ⟨rfl, outside⟩
      cases text with
      | nil => rfl
      | cons next rest => exact literal [] next rest rfl outside
    · rintro before next rest rfl outside
      exact literal (character :: before) next rest rfl outside
  · rintro ⟨first, literal⟩ (_ | ⟨_, before⟩) next rest split outside
    · cases split
      exact first ⟨rfl, outside⟩
    · cases split
      exact literal before next rest rfl outside

instance decidableLiteral : (quote : Option Char) → (text : List Char) →
    Decidable (Literal quote text)
  | quote, [] => .isTrue (literal_nil quote)
  | quote, character :: text =>
      have := decidableLiteral (Segment.nextQuote quote character) text
      decidable_of_iff' _ (literal_cons_iff quote character text)

/-- A dollar sign that starts no reference is a glyph, and the scanner is a plain one. -/
def Mode.literally : Mode → List Mark × Mode
  | .dollar span => ([.glyph '$'], .inside span)
  | mode => ([], mode)

/-- The scanner reads no name. -/
def Mode.IsNameless : Mode → Prop
  | .inside _ | .greater | .dollar _ => True
  | .named _ _ | .braced _ _ => False

/-- Without a name to hold, the mode of a plain scanner is plain. -/
theorem Mode.IsNameless.plain {mode : Mode} (nameless : mode.IsNameless) :
    mode.literally.2.IsPlain := by
  match mode, nameless with
  | .inside _, _ | .greater, _ | .dollar _, _ => trivial

/-- A plain mode holds nothing back. -/
theorem Mode.literally_of_isPlain {mode : Mode} (plain : mode.IsPlain) :
    mode.literally = ([], mode) := by
  match mode, plain with
  | .inside _, _ | .greater, _ => rfl

/-- A scanner mimics a plain one if it differs only in a dollar sign that it holds. -/
structure Mimics (next nextPlain : List Mark × Mode) : Prop where
  nameless : next.2.IsNameless
  marks : nextPlain.1 = next.1 ++ next.2.literally.1
  mode : nextPlain.2 = next.2.literally.2

/-- More marks in front keep the likeness. -/
theorem Mimics.after {next nextPlain : List Mark × Mode} (mimics : Mimics next nextPlain)
    (marks : List Mark) : Mimics (after marks next) (after marks nextPlain) where
  nameless := mimics.nameless
  marks := by simp [Scanner.after, mimics.marks]
  mode := mimics.mode

/-- A plain step mimics itself. -/
theorem Mimics.of_isPlain {next : List Mark × Mode} (plain : next.2.IsPlain) :
    Mimics next next := by
  have settled := Mode.literally_of_isPlain plain
  refine ⟨?_, by simp [settled], by rw [settled]⟩
  match next, plain with
  | (_, .inside _), _ | (_, .greater), _ => trivial

/-- The step leaves a dollar sign open only if it reads one outside single quotes. -/
def HoldsOnly (quote : Option Char) (character : Char) (mode : Mode) : Prop :=
  mode.literally.1 ≠ [] → character = '$' ∧ quote ≠ some '\''

variable (valueOf : String → Option String)

/-- Only a dollar sign outside single quotes is read differently by a scanner that replaces
variables. -/
theorem step_unexpanded (mode : Mode) (plain : mode.IsPlain) {character : Char}
    (quiet : ¬(character = '$' ∧ mode.quote ≠ some '\'')) :
    step (some valueOf) mode character = step none mode character := by
  match mode, plain with
  | .inside .single, _ => rfl
  | .inside .bare, _ | .inside .double, _ | .greater, _ =>
      have other : character ≠ '$' := fun dollar => quiet ⟨dollar, by simp [Mode.quote]⟩
      simp [step, stepInside, stepBare, other]

/-- The scanner holds that dollar sign and a plain one marks it. -/
theorem step_dollar (mode : Mode) (plain : mode.IsPlain) (outside : mode.quote ≠ some '\'') :
    Mimics (step (some valueOf) mode '$') (step none mode '$') := by
  match mode, plain with
  | .inside .single, _ => exact absurd rfl outside
  | .inside .bare, _ | .inside .double, _ | .greater, _ => exact ⟨trivial, rfl, rfl⟩

/-- Without a dollar sign to hold, a step that replaces variables mimics a plain one. -/
theorem step_mimics_of_isPlain (mode : Mode) (plain : mode.IsPlain) (character : Char) :
    Mimics (step (some valueOf) mode character) (step none mode character) ∧
      HoldsOnly mode.quote character (step (some valueOf) mode character).2 := by
  by_cases dollar : character = '$' ∧ mode.quote ≠ some '\''
  · refine ⟨?_, fun _ => dollar⟩
    rw [dollar.1]
    exact step_dollar valueOf mode plain dollar.2
  · have plainNext := (step_follows mode plain character).plain
    rw [step_unexpanded valueOf mode plain dollar]
    refine ⟨.of_isPlain plainNext, fun held => absurd ?_ held⟩
    rw [Mode.literally_of_isPlain plainNext]

/-- A dollar sign that is held and starts no reference is a glyph before the step. -/
theorem step_mimics (mode : Mode) (nameless : mode.IsNameless) (character : Char)
    (lone : mode.literally.1 ≠ [] → startsReference character = false) :
    Mimics (step (some valueOf) mode character)
        (after mode.literally.1 (step none mode.literally.2 character)) ∧
      HoldsOnly mode.literally.2.quote character (step (some valueOf) mode character).2 := by
  match mode, nameless with
  | .inside span, _ => exact step_mimics_of_isPlain valueOf (.inside span) trivial character
  | .greater, _ => exact step_mimics_of_isPlain valueOf .greater trivial character
  | .dollar span, _ =>
      obtain ⟨notStatus, notBrace, unnamed⟩ :=
        (startsReference_eq_false_iff character).mp (lone (by simp [Mode.literally]))
      obtain ⟨mimics, holds⟩ := step_mimics_of_isPlain valueOf (.inside span) trivial character
      rw [step, if_neg notStatus, if_neg notBrace, if_neg (by simp [unnamed])]
      exact ⟨mimics.after _, holds⟩

/-- On literal text a scanner that replaces variables mimics a plain one to the end. -/
theorem run_mimics (mode : Mode) (nameless : mode.IsNameless) (text : List Char)
    (literal : Literal mode.literally.2.quote text)
    (lone : mode.literally.1 ≠ [] → text.head?.any startsReference = false) :
    Mimics (run (some valueOf) mode text)
      (after mode.literally.1 (run none mode.literally.2 text)) := by
  induction text generalizing mode with
  | nil => exact ⟨nameless, by simp [run, after], rfl⟩
  | cons character rest inductionHypothesis =>
      obtain ⟨mimics, holds⟩ := step_mimics valueOf mode nameless character lone
      have follows := step_follows mode.literally.2 nameless.plain character
      obtain ⟨first, following⟩ := (literal_cons_iff _ _ _).mp literal
      have sameMode : (step none mode.literally.2 character).2 =
          (step (some valueOf) mode character).2.literally.2 := mimics.mode
      rw [← follows.quote, sameMode] at following
      have continued := (inductionHypothesis _ mimics.nameless following
        fun held => first (holds held)).after (step (some valueOf) mode character).1
      -- The plain scanner marks the held sign before the step, the other one after it.
      have regrouped : after mode.literally.1 (run none mode.literally.2 (character :: rest)) =
          after (step (some valueOf) mode character).1
            (after (step (some valueOf) mode character).2.literally.1
              (run none (step (some valueOf) mode character).2.literally.2 rest)) := by
        have sameMarks : mode.literally.1 ++ (step none mode.literally.2 character).1 =
            (step (some valueOf) mode character).1 ++
              (step (some valueOf) mode character).2.literally.1 := mimics.marks
        rw [run, sameMode]
        simp only [after, ← List.append_assoc, sameMarks]
      rw [run, regrouped]
      exact continued

/-- Literal text is scanned as if there were no variables. -/
theorem scan_literal {text : List Char} (literal : Literal none text) :
    scan (some valueOf) (.inside .bare) text = scan none (.inside .bare) text := by
  have mimics := run_mimics valueOf (.inside .bare) trivial text literal (absurd rfl)
  have finished (mode : Mode) (nameless : mode.IsNameless) :
      finish (some valueOf) mode = mode.literally.1 ++ finish none mode.literally.2 := by
    match mode, nameless with
    | .inside _, _ | .greater, _ | .dollar _, _ => rfl
  have marks : (run none (.inside .bare) text).1 = _ := mimics.marks
  have mode : (run none (.inside .bare) text).2 = _ := mimics.mode
  rw [scan_eq_run, scan_eq_run, finished _ mimics.nameless, marks, mode, List.append_assoc]

/-- The number of dollar signs in the text of the marks. -/
def dollars (marks : List Mark) : Nat :=
  (marks.flatMap Mark.text).count '$'

/-- The dollar signs add up. -/
theorem dollars_append (first second : List Mark) :
    dollars (first ++ second) = dollars first + dollars second := by
  simp [dollars]

/-- Glyphs have the dollar signs of their text. -/
theorem dollars_glyphs (text : List Char) : dollars (glyphs text) = text.count '$' := by
  induction text with
  | nil => rfl
  | cons character rest inductionHypothesis =>
      rw [List.count_cons, ← inductionHypothesis]
      simp [dollars, glyphs, Mark.text, List.count_cons]

/-- The scanner can still give out the dollar signs that it holds. -/
def Mode.heldDollars : Mode → Nat
  | .inside _ | .greater | .named _ _ => 0
  | .dollar _ => 1
  | .braced _ name => name.count '$' + 1

/-- These dollar signs are marked by a step or held behind it. -/
def stepDollars (next : List Mark × Mode) : Nat :=
  dollars next.1 + next.2.heldDollars

/-- Marks in front add their own dollar signs. -/
theorem stepDollars_after (marks : List Mark) (next : List Mark × Mode) :
    stepDollars (after marks next) = dollars marks + stepDollars next := by
  simp [stepDollars, after, dollars_append, Nat.add_assoc]

/-- Outside quotations a step adds no dollar sign of its own. -/
theorem stepDollars_bare (lookup : Lookup) (character : Char) :
    stepDollars (stepBare lookup character) ≤ [character].count '$' := by
  fun_cases stepBare lookup character
  all_goals simp_all [stepDollars, dollars, Mark.text, Mode.heldDollars, Operator.symbol]

/-- Inside quotations a step adds no dollar sign of its own. -/
theorem stepDollars_inside (lookup : Lookup) (span : Span) (character : Char) :
    stepDollars (stepInside lookup span character) ≤ [character].count '$' := by
  fun_cases stepInside lookup span character with
  | case1 => exact stepDollars_bare lookup character
  | _ => simp_all [stepDollars, dollars, Mark.text, Mode.heldDollars]

/-- No value of a variable holds a dollar sign. -/
def DollarFree : Prop :=
  ∀ name, '$' ∉ ((valueOf name).getD "").toList

variable {valueOf}

/-- Values without dollar signs add none. -/
theorem dollars_expand (dollarFree : DollarFree valueOf) (name : List Char) :
    dollars (expand (some valueOf) name) = 0 := by
  rw [expand, dollars_glyphs]
  exact List.count_eq_zero_of_not_mem (dollarFree _)

/-- Where no value holds a dollar sign, a step gives out no new one. -/
theorem stepDollars_le (dollarFree : DollarFree valueOf) (mode : Mode) (character : Char) :
    stepDollars (step (some valueOf) mode character) ≤
      mode.heldDollars + [character].count '$' := by
  have inside (span : Span) := stepDollars_inside (some valueOf) span character
  fun_cases step (some valueOf) mode character with
  | case1 span => simpa [Mode.heldDollars] using inside span
  | case2 => simp [stepDollars, dollars, Mark.text, Mode.heldDollars, Operator.symbol]
  | case3 _ =>
      rw [stepDollars_after]
      simpa [dollars, Mark.text, Operator.symbol, Mode.heldDollars] using
        stepDollars_bare (some valueOf) character
  | case4 span => simp [stepDollars, dollars_expand dollarFree, Mode.heldDollars]
  | case5 span _ => simp [stepDollars, dollars, Mode.heldDollars]
  | case6 span _ _ _ named => simp [stepDollars, dollars, Mode.heldDollars]
  | case7 span =>
      rw [stepDollars_after]
      exact Nat.add_le_add_left (inside span) 1
  | case8 span name _ named => simp [stepDollars, dollars, Mode.heldDollars]
  | case9 span name =>
      rw [stepDollars_after, dollars_expand dollarFree]
      exact Nat.add_le_add_left (inside span) 0
  | case10 span name => simp [stepDollars, dollars_expand dollarFree, Mode.heldDollars]
  | case11 span name =>
      change 0 + ((name ++ [character]).count '$' + 1) ≤ name.count '$' + 1 + [character].count '$'
      rw [List.count_append]
      omega

/-- A run adds no dollar sign to those of the text. -/
theorem stepDollars_run_le (dollarFree : DollarFree valueOf) (mode : Mode) (text : List Char) :
    stepDollars (run (some valueOf) mode text) ≤ mode.heldDollars + text.count '$' := by
  induction text generalizing mode with
  | nil => simp [run, stepDollars, dollars]
  | cons character rest inductionHypothesis =>
      have stepped := stepDollars_le dollarFree mode character
      have continued := inductionHypothesis (step (some valueOf) mode character).2
      rw [run, stepDollars_after, ← List.singleton_append, List.count_append]
      rw [stepDollars] at stepped
      omega

/-- A scan adds no dollar sign to those of the text. -/
theorem dollars_scan_le (dollarFree : DollarFree valueOf) (mode : Mode) (text : List Char) :
    dollars (scan (some valueOf) mode text) ≤ mode.heldDollars + text.count '$' := by
  have finished (last : Mode) : dollars (finish (some valueOf) last) ≤ last.heldDollars := by
    cases last with
    | named span name => simp [finish, dollars_expand dollarFree]
    | braced span name => simp [finish, dollars_glyphs, Mode.heldDollars]
    | _ => simp [finish, dollars, Mark.text, Operator.symbol, Mode.heldDollars]
  rw [scan_eq_run, dollars_append]
  exact (Nat.add_le_add_left (finished _) _).trans (stepDollars_run_le dollarFree mode text)

/-- A value adds no dollar sign to what follows it. -/
theorem dollars_value_le (dollarFree : DollarFree valueOf) (name : List Char) (span : Span)
    (text : List Char) :
    dollars (expand (some valueOf) name ++ scan (some valueOf) (.inside span) text) ≤
      text.count '$' := by
  have remaining := dollars_scan_le dollarFree (.inside span) text
  rw [dollars_append, dollars_expand dollarFree]
  simpa [Mode.heldDollars] using remaining

/-- A reference starts the text behind a dollar sign. One in braces is closed again. -/
def refers : List Char → Bool
  | [] => false
  | first :: rest =>
      first == '?' || isNameCharacter first || first == '\x7b' && rest.contains '\x7d'

/-- A name between braces takes its dollar sign away. -/
theorem dollars_braced_le (dollarFree : DollarFree valueOf) (span : Span) (name : List Char)
    {text : List Char} (closing : '\x7d' ∈ text) :
    dollars (scan (some valueOf) (.braced span name) text) ≤ text.count '$' := by
  induction text generalizing name with
  | nil => simp at closing
  | cons character rest inductionHypothesis =>
      have fewer : rest.count '$' ≤ (character :: rest).count '$' := List.count_le_count_cons
      by_cases closes : character = '\x7d'
      · rw [scan, step, if_pos closes]
        exact (dollars_value_le dollarFree name span rest).trans fewer
      · have remaining := inductionHypothesis (name ++ [character])
          (List.mem_of_ne_of_mem (Ne.symm closes) closing)
        rw [scan, step, if_neg closes]
        exact remaining.trans fewer

/-- The dollar sign of a reference is lost. -/
theorem dollars_reference_le (dollarFree : DollarFree valueOf) (span : Span) {text : List Char}
    (reference : refers text = true) :
    dollars (scan (some valueOf) (.dollar span) text) ≤ text.count '$' := by
  cases text with
  | nil => simp [refers] at reference
  | cons first rest =>
      have fewer : rest.count '$' ≤ (first :: rest).count '$' := List.count_le_count_cons
      by_cases status : first = '?'
      · rw [scan, step, if_pos status]
        exact (dollars_value_le dollarFree _ span rest).trans fewer
      by_cases brace : first = '\x7b'
      · subst brace
        have closing : '\x7d' ∈ rest := by
          simpa [refers, show isNameCharacter '\x7b' = false by decide] using reference
        rw [scan, step, if_neg status, if_pos rfl]
        exact (dollars_braced_le dollarFree span [] closing).trans fewer
      · have named : isNameCharacter first = true := by
          simpa [refers, status, brace] using reference
        have remaining := dollars_scan_le dollarFree (.named span [first]) rest
        rw [Mode.heldDollars, Nat.zero_add] at remaining
        rw [scan, step, if_neg status, if_neg brace, if_pos named]
        exact remaining.trans fewer

/-- Layout takes no dollar sign away. -/
theorem count_kept (mode : Mode) (plain : mode.IsPlain) (character : Char) :
    (Segment.kept mode.quote character).count '$' = [character].count '$' := by
  by_cases dollar : character = '$'
  · subst dollar
    match mode, plain with
    | .inside .bare, _ | .inside .single, _ | .inside .double, _ | .greater, _ => decide
  · rw [Segment.kept]
    split <;> simp [dollar]

/-- A dollar sign is never layout. -/
theorem count_content (mode : Mode) (plain : mode.IsPlain) (text : List Char) :
    (Segment.content mode.quote text).count '$' = text.count '$' := by
  induction text generalizing mode with
  | nil => rfl
  | cons character rest inductionHypothesis =>
      have follows := step_follows mode plain character
      rw [Segment.content, List.count_append, ← follows.quote, inductionHypothesis _ follows.plain,
        count_kept mode plain, ← List.count_append, List.singleton_append]

/-- A plain scan keeps every dollar sign. -/
theorem dollars_scan_plain (text : List Char) :
    dollars (scan none (.inside .bare) text) = text.count '$' := by
  rw [dollars, text_scan (.inside .bare) trivial]
  exact count_content (.inside .bare) trivial text

/-- Behind literal text a dollar sign outside single quotes is held. -/
theorem run_dollar (valueOf : String → Option String) {before : List Char}
    (literal : Literal none before) (outside : before.foldl Segment.nextQuote none ≠ some '\'') :
    ∃ span, (run (some valueOf) (.inside .bare) (before ++ ['$'])).2 = .dollar span := by
  have mimics := run_mimics valueOf (.inside .bare) trivial before literal (absurd rfl)
  have mode : (run none (.inside .bare) before).2 = _ := mimics.mode
  have quote : (run none (.inside .bare) before).2.quote = before.foldl Segment.nextQuote none :=
    run_quote (.inside .bare) trivial before
  rw [← quote, mode] at outside
  rw [run_append]
  change ∃ span, (step _ _ _).2 = Mode.dollar span
  match (run (some valueOf) (.inside .bare) before).2, mimics.nameless, outside with
  | .inside .bare, _, _ | .greater, _, _ | .dollar .bare, _, _ => exact ⟨.bare, rfl⟩
  | .inside .double, _, _ | .dollar .double, _, _ => exact ⟨.double, rfl⟩
  | .inside .single, _, outside | .dollar .single, _, outside => exact absurd rfl outside

/-- The first reference of a line costs it a dollar sign. -/
theorem dollars_scan_lt (dollarFree : DollarFree valueOf) {before text : List Char}
    (literal : Literal none before) (outside : before.foldl Segment.nextQuote none ≠ some '\'')
    (reference : refers text = true) :
    dollars (scan (some valueOf) (.inside .bare) (before ++ '$' :: text)) <
      (before ++ '$' :: text).count '$' := by
  obtain ⟨span, held⟩ := run_dollar valueOf literal outside
  have early := stepDollars_run_le dollarFree (.inside .bare) (before ++ ['$'])
  have late := dollars_reference_le dollarFree span reference
  have whole : scan (some valueOf) (.inside .bare) (before ++ '$' :: text) =
      (run (some valueOf) (.inside .bare) (before ++ ['$'])).1 ++
        scan (some valueOf) (.dollar span) text := by
    rw [← held, ← scan_run, List.append_assoc, List.singleton_append]
  rw [stepDollars, held] at early
  simp only [Mode.heldDollars, List.count_append, List.count_singleton_self] at early
  rw [whole, dollars_append, List.count_append, List.count_cons_self]
  omega

end Scanner

namespace Token

/-- Literal text is read alike in every session, and a complete reference loses its dollar sign. -/
theorem scanWith_literal (session : Session) (line : String) :
    (Scanner.Literal none line.toList → scanWith session.valueOf? line = scan line) ∧
      ∀ before text, line.toList = before ++ '$' :: text → Scanner.Literal none before →
        before.foldl Segment.nextQuote none ≠ some '\'' → Scanner.refers text = true →
        Scanner.DollarFree session.valueOf? → scanWith session.valueOf? line ≠ scan line := by
  constructor
  · intro literal
    rw [scanWith, scan, Scanner.scan_literal session.valueOf? literal]
  · intro before text split literal outside reference dollarFree same
    have fewer := Scanner.dollars_scan_lt dollarFree literal outside reference
    have all := Scanner.dollars_scan_plain line.toList
    rw [← split, ← all, Scanner.dollars, Scanner.dollars, ← Scanner.text_tokens,
      ← Scanner.text_tokens] at fewer
    rw [scanWith, scan] at same
    rw [same] at fewer
    exact Nat.lt_irrefl _ fewer

/-- The first line has lone dollar signs only, and the second a reference behind them. -/
theorem scanWith_literal_lone :
    Scanner.Literal none "echo $ '$A' $'A'\"$\"$$|wc $".toList ∧
      scanWith ((Session.start "/").setVariable "A" "x y").valueOf?
          "echo $ '$A' $'A'\"$\"$$|wc $" =
        scan "echo $ '$A' $'A'\"$\"$$|wc $" ∧
      Scanner.Literal none "echo '$A' $\"$".toList ∧ Scanner.refers "\x7bA\x7d".toList = true ∧
      Scanner.DollarFree ((Session.start "/").setVariable "A" "x y").valueOf? ∧
      scanWith ((Session.start "/").setVariable "A" "x y").valueOf? "echo '$A' $\"$$\x7bA\x7d" ≠
        scan "echo '$A' $\"$$\x7bA\x7d" := by
  have literal : Scanner.Literal none "echo $ '$A' $'A'\"$\"$$|wc $".toList := by decide +kernel
  have start : Scanner.Literal none "echo '$A' $\"$".toList := by decide +kernel
  have reference : Scanner.refers "\x7bA\x7d".toList = true := by decide +kernel
  have dollarFree : Scanner.DollarFree ((Session.start "/").setVariable "A" "x y").valueOf? := by
    intro name
    simp only [Session.valueOf?, Session.start, Session.enter, Session.setVariable,
      Table.find?_insert, Table.find?_empty]
    split
    · decide +kernel
    · split
      · decide +kernel
      · split <;> decide +kernel
  exact ⟨literal, (scanWith_literal _ _).1 literal, start, reference, dollarFree,
    (scanWith_literal _ _).2 "echo '$A' $\"$".toList "\x7bA\x7d".toList (by decide +kernel) start
      (by decide +kernel) reference dollarFree⟩

end Token

end TapeShell
