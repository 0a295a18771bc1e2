/-
This file shows that a line is read part by part where its words end.
-/

import TapeShell.Proofs.Segmentation

namespace TapeShell

namespace Text

/-- A table contains the points of its ranges only. -/
theorem Ranges.exists_of_contains {ranges : Ranges} {point : Nat}
    (found : ranges.contains point = true) :
    ∃ range ∈ ranges, range.1 ≤ point ∧ point ≤ range.2 := by
  induction ranges with
  | nil => cases found
  | cons range rest inductionHypothesis =>
      rw [contains] at found
      split at found
      next => cases found
      next above =>
        split at found
        next below => exact ⟨range, List.mem_cons_self, Nat.le_of_not_lt above, below⟩
        next =>
          obtain ⟨other, inRest, bounds⟩ := inductionHypothesis found
          exact ⟨other, List.mem_cons_of_mem _ inRest, bounds⟩

/-- No blank belongs to a name. -/
theorem isAlphanumeric_of_isBlank {character : Char} (blank : isBlank character = true) :
    isAlphanumeric character = false := by
  have apart : ∀ range ∈ blankRanges, ∀ offset ≤ range.2 - range.1,
      alphanumericRanges.contains (range.1 + offset) = false := by
    decide +kernel
  obtain ⟨range, member, above, below⟩ := Ranges.exists_of_contains blank
  have known := apart range member (character.toNat - range.1) (by omega)
  rwa [Nat.add_sub_cancel' above] at known

end Text

namespace Scanner

/-- A break ends a word that is not quoted. -/
def isBreak (character : Char) : Bool :=
  Text.isBlank character || ['|', '<', '>', ';'].contains character

/-- A break is a blank or the start of an operator. -/
theorem isBreak_iff (character : Char) :
    isBreak character = true ↔ Text.isBlank character = true ∨ character = '|' ∨
      character = '<' ∨ character = '>' ∨ character = ';' := by
  simp [isBreak]

/-- Every operator starts with a break. -/
theorem isBreak_symbol (kind : Operator) (rest : List Char) :
    ∀ character ∈ (kind.symbol.toList ++ rest).head?, isBreak character = true := by
  cases kind <;> rintro character ⟨⟩ <;> decide

/-- Outside quotations and braces a break is read as one. -/
def Mode.isOutside : Mode → Bool
  | .inside span | .dollar span | .named span _ => span == .bare
  | .greater => true
  | .braced _ _ => false

/-- No break belongs to a name. -/
theorem isNameCharacter_of_isBreak {character : Char} (breaks : isBreak character = true) :
    isNameCharacter character = false := by
  rcases (isBreak_iff character).mp breaks with blank | rfl | rfl | rfl | rfl
  · have notUnderscore := Text.ne_of_isBlank blank (show Text.isBlank '_' = false by decide)
    simp [isNameCharacter, Text.isAlphanumeric_of_isBlank blank, notUnderscore]
  all_goals decide

/-- A break decides what the scanner left open as the end of the line would. -/
theorem scan_break (lookup : Lookup) {mode : Mode} (outside : mode.isOutside = true)
    {character : Char} (breaks : isBreak character = true)
    (apart : mode = .greater → character ≠ '>') (rest : List Char) :
    scan lookup mode (character :: rest) =
      finish lookup mode ++ scan lookup (.inside .bare) (character :: rest) := by
  have unnamed := isNameCharacter_of_isBreak breaks
  have other (symbol : Char) (solid : isBreak symbol = false) : character ≠ symbol := by
    rintro rfl
    rw [breaks] at solid
    cases solid
  match mode, outside with
  | .inside .bare, _ => rfl
  | .greater, _ =>
      simp [scan, step, stepInside, after, finish, apart rfl]
  | .dollar .bare, _ =>
      simp [scan, step, stepInside, after, finish, unnamed, other '?' (by decide),
        other '\x7b' (by decide)]
  | .named .bare name, _ => simp [scan, step, stepInside, after, finish, unnamed]

/-- Text that ends outside quotations is scanned on its own before another break. -/
theorem scan_append_break (lookup : Lookup) {first : List Char}
    (outside : (run lookup (.inside .bare) first).2.isOutside = true) {character : Char}
    (breaks : isBreak character = true)
    (apart : (run lookup (.inside .bare) first).2 = .greater → character ≠ '>')
    (rest : List Char) :
    scan lookup (.inside .bare) (first ++ character :: rest) =
      scan lookup (.inside .bare) first ++ scan lookup (.inside .bare) (character :: rest) := by
  rw [scan_run, scan_break lookup outside breaks apart, scan_eq_run lookup _ first,
    List.append_assoc]

/-- Gaps and operators stand between words. -/
def Mark.separates : Mark → Bool
  | .gap | .operator _ => true
  | .glyph _ | .opened => false

/-- Marks that start with a gap or an operator stand apart from those before them. -/
theorem tokens_append {left right : List Mark}
    (separated : ∀ mark ∈ right.head?, mark.separates = true) :
    tokens (left ++ right) = tokens left ++ tokens right := by
  cases right with
  | nil => simp [tokens, Joined.close]
  | cons mark rest =>
      cases mark with
      | gap => rw [tokens_gap, show tokens (.gap :: rest) = tokens rest from tokens_gap [] rest]
      | operator kind =>
          rw [tokens_operator, show tokens (.operator kind :: rest) = .operator kind :: tokens rest
            from tokens_operator kind [] rest]
      | glyph character => simp [Mark.separates] at separated
      | opened => simp [Mark.separates] at separated

/-- A greater-than sign is an operator, whatever follows it. -/
theorem head?_scan_greater (lookup : Lookup) (rest : List Char) :
    ∀ mark ∈ (scan lookup .greater rest).head?, mark.separates = true := by
  cases rest with
  | nil => simp [scan, finish, Mark.separates]
  | cons character rest =>
      rw [scan, step]
      split <;> simp [after, Mark.separates]

/-- The first mark of a break stands between words. -/
theorem head?_scan_break (lookup : Lookup) {character : Char} (breaks : isBreak character = true)
    (rest : List Char) :
    ∀ mark ∈ (scan lookup (.inside .bare) (character :: rest)).head?, mark.separates = true := by
  rw [scan, step, stepInside]
  rcases (isBreak_iff character).mp breaks with blank | rfl | rfl | rfl | rfl
  · rw [stepBare_blank lookup blank]
    simp [Mark.separates]
  · simp [stepBare, Mark.separates]
  · simp [stepBare, Mark.separates]
  · simpa [stepBare] using head?_scan_greater lookup rest
  · simp [stepBare, Mark.separates]

/-- The mode that a text leaves does not depend on the values of variables. -/
theorem run_mode_congr {first second : Lookup} (same : first.isSome = second.isSome) (mode : Mode)
    (text : List Char) : (run first mode text).2 = (run second mode text).2 := by
  induction text generalizing mode with
  | nil => rfl
  | cons character rest inductionHypothesis =>
      simp only [run, after, (step_parallel same mode character).1, inductionHypothesis]

/-- The mode that a text leaves if variables are replaced. -/
def modeAfter (text : List Char) : Mode :=
  (run (some fun _ => none) (.inside .bare) text).2

/-- The values of variables do not matter for the mode. -/
theorem mode_run (valueOf : String → Option String) (text : List Char) :
    (run (some valueOf) (.inside .bare) text).2 = modeAfter text := by
  apply run_mode_congr
  rfl

/-- No break of the text stands outside quotations and braces. -/
def unbroken : Mode → List Char → Bool
  | _, [] => true
  | mode, character :: rest =>
      !(mode.isOutside && isBreak character) &&
        unbroken (step (some fun _ => none) mode character).2 rest

/-- A joining step adds to a word and to nothing else. -/
structure Joining (next : List Mark × Mode) : Prop where
  together : ∀ mark ∈ next.1, mark.separates = false
  inWord : next.2 ≠ .greater

/-- More marks of one word in front keep the step within the word. -/
theorem Joining.after {marks : List Mark} {next : List Mark × Mode} (joining : Joining next)
    (together : ∀ mark ∈ marks, mark.separates = false) : Joining (after marks next) where
  together mark member := (List.mem_append.mp member).elim (together mark) (joining.together mark)
  inWord := joining.inWord

/-- The value of a variable belongs to the word around it. -/
theorem separates_of_mem_expand {lookup : Lookup} {name : List Char} {mark : Mark}
    (member : mark ∈ expand lookup name) : mark.separates = false := by
  rw [expand_eq_glyphs, glyphs] at member
  obtain ⟨character, -, rfl⟩ := List.mem_map.mp member
  rfl

/-- Outside quotations only a break ends a word. -/
theorem stepBare_joining (lookup : Lookup) {character : Char} (solid : isBreak character = false) :
    Joining (stepBare lookup character) := by
  have other := mt (isBreak_iff character).mpr (by simp [solid])
  fun_cases stepBare lookup character
  all_goals constructor <;> simp_all [Mark.separates]

/-- A quoted break does not end a word. -/
theorem stepInside_joining (lookup : Lookup) {span : Span} {character : Char}
    (solid : (span == .bare && isBreak character) = false) :
    Joining (stepInside lookup span character) := by
  fun_cases stepInside lookup span character with
  | case1 => exact stepBare_joining lookup (by simpa using solid)
  | _ => constructor <;> simp [Mark.separates]

/-- A step that meets no break stays within the word. -/
theorem step_joining (lookup : Lookup) {mode : Mode} (inWord : mode ≠ .greater) {character : Char}
    (solid : (mode.isOutside && isBreak character) = false) :
    Joining (step lookup mode character) := by
  fun_cases step lookup mode character with
  | case1 span => exact stepInside_joining lookup solid
  | case2 | case3 => exact absurd rfl inWord
  | case4 span => exact ⟨fun mark => separates_of_mem_expand, by simp⟩
  | case5 | case6 | case8 | case11 => exact ⟨by simp, by simp⟩
  | case7 span => exact (stepInside_joining lookup solid).after (by simp [Mark.separates])
  | case9 span name =>
      exact (stepInside_joining lookup solid).after fun mark => separates_of_mem_expand
  | case10 span name => exact ⟨fun mark => separates_of_mem_expand, by simp⟩

/-- Text without a break is one word at most. -/
theorem scan_unbroken (valueOf : String → Option String) {mode : Mode} (inWord : mode ≠ .greater)
    {text : List Char} (whole : unbroken mode text = true) :
    ∀ mark ∈ scan (some valueOf) mode text, mark.separates = false := by
  induction text generalizing mode with
  | nil =>
      rw [scan]
      cases mode with
      | greater => exact absurd rfl inWord
      | named span name =>
          rw [finish]
          exact fun mark => separates_of_mem_expand
      | _ => simp [finish, glyphs, Mark.separates]
  | cons character rest inductionHypothesis =>
      rw [unbroken, Bool.and_eq_true, Bool.not_eq_true'] at whole
      have joining := step_joining (some valueOf) inWord whole.1
      have sameMode := (step_parallel (show (some valueOf : Lookup).isSome =
        (some fun _ => none : Lookup).isSome from rfl) mode character).1
      rw [← sameMode] at whole
      intro mark member
      rcases List.mem_append.mp member with now | later
      · exact joining.together mark now
      · exact inductionHypothesis joining.inWord whole.2 mark later

/-- An unbroken text leaves no greater-than sign open. -/
theorem run_unbroken {mode : Mode} (inWord : mode ≠ .greater) {text : List Char}
    (whole : unbroken mode text = true) : (run (some fun _ => none) mode text).2 ≠ .greater := by
  induction text generalizing mode with
  | nil => exact inWord
  | cons character rest inductionHypothesis =>
      rw [unbroken, Bool.and_eq_true, Bool.not_eq_true'] at whole
      exact inductionHypothesis (step_joining _ inWord whole.1).inWord whole.2

/-- Marks without gaps and operators are at most one word. -/
theorem tokens_of_together {marks : List Mark}
    (together : ∀ mark ∈ marks, mark.separates = false) :
    tokens marks = [] ∨ ∃ text, tokens marks = [.word text] := by
  have alone : (marks.foldr join (none, [])).2 = [] := by
    induction marks with
    | nil => rfl
    | cons mark rest inductionHypothesis =>
        obtain ⟨here, there⟩ := List.forall_mem_cons.mp together
        cases mark with
        | glyph character => exact inductionHypothesis there
        | opened => exact inductionHypothesis there
        | gap => cases here
        | operator kind => cases here
  rw [tokens]
  generalize marks.foldr join (none, []) = joined at alone
  rcases joined with ⟨_ | word, following⟩
  · exact .inl alone
  · obtain rfl : following = [] := alone
    exact .inr ⟨_, rfl⟩

end Scanner

namespace Token

section Reading

variable (lookup : Scanner.Lookup)

/-- Nothing is read from the empty text. -/
theorem reading_nil : reading lookup [] = [] := rfl

/-- Blanks before a text add no token. -/
theorem reading_blanks {blanks : List Char}
    (areBlank : ∀ character ∈ blanks, Text.isBlank character = true) (rest : List Char) :
    reading lookup (blanks ++ rest) = reading lookup rest := by
  induction blanks with
  | nil => rfl
  | cons blank blanks inductionHypothesis =>
      obtain ⟨isBlank, others⟩ := List.forall_mem_cons.mp areBlank
      rw [List.cons_append, reading_blank lookup isBlank, inductionHypothesis others]

/-- An operator is a token of its own, unless the next character makes it another one. -/
theorem reading_operator (kind : Operator) {rest : List Char}
    (apart : kind = .writeTo → rest.head? ≠ some '>') :
    reading lookup (kind.symbol.toList ++ rest) = .operator kind :: reading lookup rest := by
  have marks : Scanner.scan lookup (.inside .bare) (kind.symbol.toList ++ rest) =
      .operator kind :: Scanner.scan lookup (.inside .bare) rest := by
    cases kind with
    | writeTo =>
        cases rest with
        | nil => rfl
        | cons character rest =>
            have other : character ≠ '>' := by simpa using apart rfl
            simp [Operator.symbol, Scanner.scan, Scanner.step, Scanner.stepInside,
              Scanner.stepBare, Scanner.after, other]
    | _ => rfl
  rw [reading, marks]
  exact Scanner.tokens_operator kind [] _

/-- Where a break follows a text that ends outside quotations, the two sides are read apart. -/
theorem reading_append {first rest : List Char}
    (outside : rest ≠ [] → (Scanner.run lookup (.inside .bare) first).2.isOutside = true)
    (breaks : ∀ character ∈ rest.head?, Scanner.isBreak character = true)
    (apart : (Scanner.run lookup (.inside .bare) first).2 = .greater → rest.head? ≠ some '>') :
    reading lookup (first ++ rest) = reading lookup first ++ reading lookup rest := by
  cases rest with
  | nil => rw [List.append_nil, reading_nil, List.append_nil]
  | cons character rest =>
      have isBreak := breaks character rfl
      rw [reading, Scanner.scan_append_break lookup (outside (List.cons_ne_nil _ _)) isBreak
        (by simpa using apart)]
      exact Scanner.tokens_append (Scanner.head?_scan_break _ isBreak rest)

end Reading

/-- An unbroken text is read as one word or as nothing. -/
theorem reading_unbroken (valueOf : String → Option String) {text : List Char}
    (whole : Scanner.unbroken (.inside .bare) text = true) :
    reading (some valueOf) text = [] ∨ ∃ word, reading (some valueOf) text = [.word word] :=
  Scanner.tokens_of_together (Scanner.scan_unbroken valueOf (by simp) whole)

end Token

end TapeShell
