/-
This file reads a line in parts and says which tokens the marks of each part become.
-/

import TapeShell.Token.Scanner

namespace TapeShell

/-- This is the operator of a token, if it is one. -/
def Token.operator? : Token → Option Operator
  | .word _ => none
  | .operator kind => some kind

/-- Only an operator is one. -/
theorem Token.operator?_eq_some (token : Token) (kind : Operator) :
    token.operator? = some kind ↔ token = .operator kind := by
  cases token <;> simp [operator?]

namespace Scanner

/-- A part of a line gives its marks and the mode behind it. -/
def run (lookup : Lookup) : Mode → List Char → List Mark × Mode
  | mode, [] => ([], mode)
  | mode, character :: rest =>
      after (step lookup mode character).1 (run lookup (step lookup mode character).2 rest)

/-- A scan is a run whose last mode is then finished. -/
theorem scan_eq_run (lookup : Lookup) (mode : Mode) (text : List Char) :
    scan lookup mode text = (run lookup mode text).1 ++ finish lookup (run lookup mode text).2 := by
  induction text generalizing mode with
  | nil => rfl
  | cons character rest inductionHypothesis =>
      rw [scan, inductionHypothesis]
      simp only [run, after, List.append_assoc]

/-- The second part of a line starts in the mode that the first part leaves. -/
theorem run_append (lookup : Lookup) (mode : Mode) (first second : List Char) :
    run lookup mode (first ++ second) =
      after (run lookup mode first).1 (run lookup (run lookup mode first).2 second) := by
  induction first generalizing mode with
  | nil => rfl
  | cons character rest inductionHypothesis =>
      simp only [List.cons_append, run, inductionHypothesis, after, List.append_assoc]

/-- The rest of a line is scanned in the mode that its start leaves. -/
theorem scan_run (lookup : Lookup) (mode : Mode) (first second : List Char) :
    scan lookup mode (first ++ second) =
      (run lookup mode first).1 ++ scan lookup (run lookup mode first).2 second := by
  simp only [scan_eq_run, run_append, after, List.append_assoc]

/-- This is the operator of a mark, if it is one. -/
def Mark.operator? : Mark → Option Operator
  | .operator kind => some kind
  | _ => none

/-- Only the mark of an operator is one. -/
theorem Mark.operator?_eq_some (mark : Mark) (kind : Operator) :
    mark.operator? = some kind ↔ mark = .operator kind := by
  cases mark <;> simp [operator?]

/-- Closing adds at most a word. -/
@[simp]
theorem operators_close (joined : Joined) :
    joined.close.filterMap Token.operator? = joined.2.filterMap Token.operator? := by
  rcases joined with ⟨word | word, tokens⟩ <;> rfl

/-- Joining neither makes, moves nor drops an operator. -/
theorem operators_foldr_join (marks : List Mark) (joined : Joined) :
    (marks.foldr join joined).2.filterMap Token.operator? =
      marks.filterMap Mark.operator? ++ joined.2.filterMap Token.operator? := by
  induction marks with
  | nil => rfl
  | cons mark rest inductionHypothesis =>
      cases mark with
      | glyph character => exact inductionHypothesis
      | opened => exact inductionHypothesis
      | gap => exact (operators_close _).trans inductionHypothesis
      | operator kind =>
          exact congrArg (kind :: ·) ((operators_close _).trans inductionHypothesis)

/-- The operators of a line are those that the scanner marked. -/
theorem operators_tokens (marks : List Mark) :
    (tokens marks).filterMap Token.operator? = marks.filterMap Mark.operator? := by
  rw [tokens, operators_close, operators_foldr_join]
  exact List.append_nil _

/-- The tokens hold the operators that the scanner marked. -/
theorem operator_mem_tokens (kind : Operator) (marks : List Mark) :
    Token.operator kind ∈ tokens marks ↔ Mark.operator kind ∈ marks := by
  have inTokens : Token.operator kind ∈ tokens marks ↔
      kind ∈ (tokens marks).filterMap Token.operator? := by
    simp [List.mem_filterMap, Token.operator?_eq_some]
  have inMarks : Mark.operator kind ∈ marks ↔ kind ∈ marks.filterMap Mark.operator? := by
    simp [List.mem_filterMap, Mark.operator?_eq_some]
  rw [inTokens, inMarks, operators_tokens]

/-- A fragment stands directly before what follows, and no fragment leaves it as it is. -/
def lead : Option (List Char) → Joined → Joined
  | none, joined => joined
  | some word, joined => (some (word ++ joined.1.getD []), joined.2)

/-- These marks add one fragment of a word and nothing else. -/
def Spells (fragment : Option (List Char)) (marks : List Mark) : Prop :=
  ∀ joined, marks.foldr join joined = lead fragment joined

/-- No marks spell no word. -/
theorem spells_nil : Spells none [] := fun _ => rfl

/-- An opened quotation spells an empty word. -/
theorem spells_opened : Spells (some []) [.opened] := fun _ => rfl

/-- Fragments that touch each other are one fragment. -/
theorem Spells.append {first second : Option (List Char)} {left right : List Mark}
    (spellsFirst : Spells first left) (spellsSecond : Spells second right) :
    Spells (Option.merge (· ++ ·) first second) (left ++ right) := by
  intro joined
  rw [List.foldr_append, spellsSecond, spellsFirst]
  cases first <;> cases second <;> simp [lead, Option.merge]

/-- Text that is not empty is a fragment, and empty text is none. -/
def fragment (text : List Char) : Option (List Char) :=
  if text.isEmpty then none else some text

/-- The glyphs of a text spell that text. -/
theorem spells_glyphs (text : List Char) : Spells (fragment text) (glyphs text) := by
  induction text with
  | nil => exact spells_nil
  | cons character rest inductionHypothesis =>
      intro joined
      change join (.glyph character) ((glyphs rest).foldr join joined) = _
      rw [inductionHypothesis]
      cases rest <;> rfl

/-- Marks denote the tokens that they become if no word follows directly. -/
def Denotes (denoted : List Token) (marks : List Mark) : Prop :=
  ∀ following, (marks.foldr join (none, following)).close = denoted ++ following

/-- A spelled word becomes one token. -/
theorem Spells.denotes {word : List Char} {marks : List Mark} (spells : Spells (some word) marks) :
    Denotes [.word (String.ofList word)] marks := by
  intro following
  rw [spells]
  simp [lead, Joined.close]

/-- Marks have the tokens that they denote. -/
theorem Denotes.tokens_eq {denoted : List Token} {marks : List Mark}
    (denotes : Denotes denoted marks) : tokens marks = denoted := by
  rw [tokens, denotes, List.append_nil]

/-- A gap keeps the tokens on its two sides apart. -/
theorem Denotes.gap {first second : List Token} {left right : List Mark}
    (denotesFirst : Denotes first left) (denotesSecond : Denotes second right) :
    Denotes (first ++ second) (left ++ .gap :: right) := by
  intro following
  rw [List.foldr_append, List.foldr_cons, join, denotesSecond, denotesFirst, List.append_assoc]

/-- An operator between gaps stands between the tokens on its two sides. -/
theorem Denotes.operator {first second : List Token} {left right : List Mark} (kind : Operator)
    (denotesFirst : Denotes first left) (denotesSecond : Denotes second right) :
    Denotes (first ++ .operator kind :: second)
      (left ++ .gap :: .operator kind :: .gap :: right) := by
  intro following
  rw [List.foldr_append, List.foldr_cons, List.foldr_cons, List.foldr_cons, join, join, join,
    denotesSecond, Joined.close, Joined.close, denotesFirst, List.append_assoc, List.cons_append]

/-- What follows the marks stands behind their tokens. -/
theorem foldr_join_following (marks : List Mark) (following : List Token) :
    marks.foldr join (none, following) =
      ((marks.foldr join (none, [])).1, (marks.foldr join (none, [])).2 ++ following) := by
  have close_following (joined : Joined) :
      Joined.close (joined.1, joined.2 ++ following) = joined.close ++ following := by
    rcases joined with ⟨_ | word, tokens⟩ <;> rfl
  induction marks with
  | nil => rfl
  | cons mark rest inductionHypothesis =>
      rw [List.foldr_cons, List.foldr_cons, inductionHypothesis]
      cases mark <;> simp [join, close_following]

/-- Marks denote their tokens. -/
theorem denotes_tokens (marks : List Mark) : Denotes (tokens marks) marks := by
  intro following
  rw [foldr_join_following, tokens]
  rcases marks.foldr join (none, []) with ⟨_ | word, tokens⟩ <;> rfl

/-- A gap ends a word. -/
theorem tokens_gap (left right : List Mark) :
    tokens (left ++ .gap :: right) = tokens left ++ tokens right :=
  ((denotes_tokens left).gap (denotes_tokens right)).tokens_eq

/-- An operator ends a word and stands for itself. -/
theorem tokens_operator (kind : Operator) (left right : List Mark) :
    tokens (left ++ .operator kind :: right) = tokens left ++ .operator kind :: tokens right := by
  rw [tokens, List.foldr_append, List.foldr_cons, join, denotes_tokens left]
  rfl

/-- Only gaps leave no token. -/
theorem tokens_eq_nil (marks : List Mark) : tokens marks = [] ↔ ∀ mark ∈ marks, mark = .gap := by
  have close_eq_nil (joined : Joined) : joined.close = [] ↔ joined = (none, []) := by
    rcases joined with ⟨_ | word, tokens⟩ <;> simp [Joined.close]
  rw [tokens, close_eq_nil]
  induction marks with
  | nil => simp
  | cons mark rest inductionHypothesis =>
      cases mark <;> simp [join, close_eq_nil, inductionHypothesis]

/-- The text is read as these tokens, and all its quotations are closed. -/
structure ReadsAs (lookup : Lookup) (text : List Char) (denoted : List Token) : Prop where
  mode_eq : (run lookup (.inside .bare) text).2 = .inside .bare
  denotes : Denotes denoted (run lookup (.inside .bare) text).1

namespace ReadsAs

variable {lookup : Lookup} {left right : List Char} {first second : List Token}

/-- A text that is read as tokens is scanned as them. -/
theorem tokens_scan (reads : ReadsAs lookup left first) :
    tokens (scan lookup (.inside .bare) left) = first := by
  rw [scan_eq_run, reads.mode_eq, finish, List.append_nil, reads.denotes.tokens_eq]

/-- Text that starts where another text ended is read as it is on its own. -/
theorem run_append (reads : ReadsAs lookup left first) (rest : List Char) :
    run lookup (.inside .bare) (left ++ rest) =
      after (run lookup (.inside .bare) left).1 (run lookup (.inside .bare) rest) := by
  rw [Scanner.run_append, reads.mode_eq]

/-- A blank is a gap. -/
theorem run_blank (text : List Char) :
    run lookup (.inside .bare) (' ' :: text) = after [.gap] (run lookup (.inside .bare) text) :=
  rfl

/-- A blank keeps two texts apart. -/
theorem blank (readsFirst : ReadsAs lookup left first) (readsSecond : ReadsAs lookup right second) :
    ReadsAs lookup (left ++ ' ' :: right) (first ++ second) where
  mode_eq := by
    rw [readsFirst.run_append, run_blank]
    exact readsSecond.mode_eq
  denotes := by
    rw [readsFirst.run_append, run_blank]
    exact readsFirst.denotes.gap readsSecond.denotes

/-- The blank after an operator ends it. -/
theorem run_symbol (kind : Operator) (text : List Char) :
    run lookup (.inside .bare) (kind.symbol.toList ++ ' ' :: text) =
      after [.operator kind, .gap] (run lookup (.inside .bare) text) := by
  cases kind <;> rfl

/-- An operator with a blank on each side stands between two texts. -/
theorem operator (kind : Operator) (readsFirst : ReadsAs lookup left first)
    (readsSecond : ReadsAs lookup right second) :
    ReadsAs lookup (left ++ ' ' :: (kind.symbol.toList ++ ' ' :: right))
      (first ++ .operator kind :: second) where
  mode_eq := by
    rw [readsFirst.run_append, run_blank, run_symbol]
    exact readsSecond.mode_eq
  denotes := by
    rw [readsFirst.run_append, run_blank, run_symbol]
    exact readsFirst.denotes.operator kind readsSecond.denotes

end ReadsAs

end Scanner

end TapeShell
