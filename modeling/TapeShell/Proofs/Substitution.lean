/-
This file shows that the values of variables do not change where the tokens of a line stand.
-/

import Mathlib.Data.List.Forall2
import TapeShell.Session
import TapeShell.Proofs.Scanner

namespace TapeShell

/-- Tokens are alike if both are words or both are the same operator. -/
inductive Token.Alike : Token → Token → Prop where
  | word (left right : String) : Alike (.word left) (.word right)
  | operator (kind : Operator) : Alike (.operator kind) (.operator kind)

namespace Scanner

/-- Parallel marks differ in the values of variables only. -/
inductive Parallel (first second : Lookup) : List Mark → List Mark → Prop where
  | same (marks : List Mark) : Parallel first second marks marks
  | value (name : List Char) : Parallel first second (expand first name) (expand second name)
  | append {left right left' right' : List Mark} (start : Parallel first second left right)
      (rest : Parallel first second left' right') :
      Parallel first second (left ++ left') (right ++ right')

/-- What a step reads outside the names of variables does not depend on their values. -/
theorem stepInside_congr {first second : Lookup} (same : first.isSome = second.isSome)
    (span : Span) (character : Char) :
    stepInside first span character = stepInside second span character := by
  cases span <;> simp only [stepInside, stepBare, same]

/-- Two scanners that read the same character stay in the same mode. -/
theorem step_parallel {first second : Lookup} (same : first.isSome = second.isSome) (mode : Mode)
    (character : Char) :
    (step first mode character).2 = (step second mode character).2 ∧
      Parallel first second (step first mode character).1 (step second mode character).1 := by
  have inside := stepInside_congr same
  cases mode with
  | inside span =>
      rw [step, step, inside]
      exact ⟨rfl, .same _⟩
  | greater =>
      rw [step, step, show stepBare first character = stepBare second character from
        inside .bare character]
      exact ⟨rfl, .same _⟩
  | dollar span =>
      rw [step, step, inside]
      split
      · exact ⟨rfl, .value _⟩
      · exact ⟨rfl, .same _⟩
  | named span name =>
      rw [step, step, inside]
      split
      · exact ⟨rfl, .same _⟩
      · exact ⟨rfl, (Parallel.value name).append (.same _)⟩
  | braced span name =>
      rw [step, step]
      split
      · exact ⟨rfl, .value name⟩
      · exact ⟨rfl, .same _⟩

/-- The end of a line is read in parallel. -/
theorem finish_parallel (first second : Lookup) (mode : Mode) :
    Parallel first second (finish first mode) (finish second mode) := by
  cases mode with
  | named span name => exact .value name
  | _ => exact .same _

/-- Two scans of one line run in parallel. -/
theorem scan_parallel {first second : Lookup} (same : first.isSome = second.isSome) (mode : Mode)
    (text : List Char) : Parallel first second (scan first mode text) (scan second mode text) := by
  induction text generalizing mode with
  | nil => exact finish_parallel first second mode
  | cons character rest inductionHypothesis =>
      obtain ⟨sameMode, parallel⟩ := step_parallel same mode character
      rw [scan, scan, sameMode]
      exact parallel.append (inductionHypothesis _)

/-- The text that replaces a variable. -/
def valueText (lookup : Lookup) (name : List Char) : List Char :=
  match lookup with
  | none => []
  | some valueOf => ((valueOf (String.ofList name)).getD "").toList

/-- A reference is replaced by the glyphs of its value. -/
theorem expand_eq_glyphs (lookup : Lookup) (name : List Char) :
    expand lookup name = glyphs (valueText lookup name) := by
  cases lookup <;> rfl

/-- Glyphs are no operators. -/
theorem operators_glyphs (text : List Char) : (glyphs text).filterMap Mark.operator? = [] := by
  induction text with
  | nil => rfl
  | cons character rest inductionHypothesis => exact inductionHypothesis

/-- No value brings an operator with it. -/
theorem Parallel.operators_eq {first second : Lookup} {left right : List Mark}
    (parallel : Parallel first second left right) :
    left.filterMap Mark.operator? = right.filterMap Mark.operator? := by
  induction parallel with
  | same marks => rfl
  | value name => rw [expand_eq_glyphs, expand_eq_glyphs, operators_glyphs, operators_glyphs]
  | append start rest startEqual restEqual =>
      rw [List.filterMap_append, List.filterMap_append, startEqual, restEqual]

/-- Alike results have alike tokens, and a word reaches the left end of both or of neither. -/
structure Joined.Alike (left right : Joined) : Prop where
  word : left.1.isSome = right.1.isSome
  tokens : List.Forall₂ Token.Alike left.2 right.2

namespace Joined.Alike

variable {left right : Joined}

/-- A word that reaches the left end of both is closed in both. -/
theorem close (alike : Alike left right) : List.Forall₂ Token.Alike left.close right.close := by
  rcases left with ⟨_ | leftWord, leftTokens⟩ <;> rcases right with ⟨_ | rightWord, rightTokens⟩
  · exact alike.tokens
  · cases alike.word
  · cases alike.word
  · exact .cons (.word _ _) alike.tokens

/-- One more mark keeps the likeness. -/
theorem join (mark : Mark) (alike : Alike left right) :
    Alike (Scanner.join mark left) (Scanner.join mark right) := by
  cases mark with
  | glyph character => exact ⟨rfl, alike.tokens⟩
  | opened => exact ⟨rfl, alike.tokens⟩
  | gap => exact ⟨rfl, alike.close⟩
  | operator kind => exact ⟨rfl, .cons (.operator kind) alike.close⟩

/-- A word in front keeps the likeness. -/
theorem lead {first second : Option (List Char)} (same : first.isSome = second.isSome)
    (alike : Alike left right) : Alike (Scanner.lead first left) (Scanner.lead second right) := by
  rcases first with _ | first <;> rcases second with _ | second
  · exact alike
  · cases same
  · cases same
  · exact ⟨rfl, alike.tokens⟩

end Joined.Alike

/-- Values that are empty together leave every token in its place. -/
theorem Parallel.foldr_join {first second : Lookup} {left right : List Mark}
    (parallel : Parallel first second left right)
    (emptyTogether : ∀ name, valueText first name = [] ↔ valueText second name = [])
    {joined joined' : Joined} (alike : Joined.Alike joined joined') :
    Joined.Alike (left.foldr join joined) (right.foldr join joined') := by
  induction parallel generalizing joined joined' with
  | same marks =>
      induction marks with
      | nil => exact alike
      | cons mark rest inductionHypothesis => exact inductionHypothesis.join mark
  | value name =>
      -- Only whether a value is empty counts: it decides if there is a word at all.
      have sameFragment : (fragment (valueText first name)).isSome =
          (fragment (valueText second name)).isSome := by
        by_cases empty : valueText first name = []
        · simp [fragment, empty, (emptyTogether name).mp empty]
        · simp [fragment, empty, mt (emptyTogether name).mpr empty]
      rw [expand_eq_glyphs, expand_eq_glyphs, spells_glyphs, spells_glyphs]
      exact alike.lead sameFragment
  | append start rest startAlike restAlike =>
      rw [List.foldr_append, List.foldr_append]
      exact startAlike (restAlike alike)

end Scanner

namespace Session

/-- A session lacks a variable that is not set or whose value is empty. -/
def Lacks (session : Session) (name : String) : Prop :=
  (session.valueOf? name).getD "" = ""

/-- A variable has no text exactly if the session lacks it. -/
theorem valueText_eq_nil (session : Session) (name : List Char) :
    Scanner.valueText (some session.valueOf?) name = [] ↔ session.Lacks (String.ofList name) :=
  String.toList_eq_nil_iff

/-- Sessions that lack the same variables read the same operators and words. -/
theorem scanWith_alike (line : String) (first second : Session) :
    (Token.scanWith first.valueOf? line).filterMap Token.operator? =
        (Token.scanWith second.valueOf? line).filterMap Token.operator? ∧
      ((∀ name, first.Lacks name ↔ second.Lacks name) →
        List.Forall₂ Token.Alike (Token.scanWith first.valueOf? line)
          (Token.scanWith second.valueOf? line)) := by
  have bothLookUp : (some first.valueOf? : Scanner.Lookup).isSome =
      (some second.valueOf? : Scanner.Lookup).isSome := rfl
  have parallel := Scanner.scan_parallel bothLookUp (.inside .bare) line.toList
  constructor
  · rw [Token.scanWith, Token.scanWith, Scanner.operators_tokens, Scanner.operators_tokens]
    exact parallel.operators_eq
  · intro lackTogether
    have emptyTogether (name : List Char) :
        Scanner.valueText (some first.valueOf?) name = [] ↔
          Scanner.valueText (some second.valueOf?) name = [] := by
      rw [valueText_eq_nil, valueText_eq_nil]
      exact lackTogether _
    exact (parallel.foldr_join emptyTogether ⟨rfl, .nil⟩).close

/-- The value is an ordinary word. -/
def harmless : Session := (start "/").setVariable "A" "x"

/-- The value looks like quotes, operators and another variable. -/
def hostile : Session := (start "/").setVariable "A" "'; b | \"c > $A"

/-- Values with operators and quotes give the same operators and words. -/
theorem scanWith_alike_hostile :
    (∀ name, harmless.Lacks name ↔ hostile.Lacks name) ∧
      List.Forall₂ Token.Alike
        (Token.scanWith harmless.valueOf? "echo $A\"$\x7bA\x7d\" > $A '$A' | wc $B")
        (Token.scanWith hostile.valueOf? "echo $A\"$\x7bA\x7d\" > $A '$A' | wc $B") := by
  have lackTogether (name : String) : harmless.Lacks name ↔ hostile.Lacks name := by
    simp only [Lacks, valueOf?, harmless, hostile, setVariable, Table.find?_insert]
    by_cases isStatus : name = "?"
    · simp only [isStatus, if_true]
    · by_cases isChanged : "A" = name
      · subst isChanged
        simp
      · simp only [isStatus, isChanged, if_false]
  exact ⟨lackTogether, (scanWith_alike _ harmless hostile).2 lackTogether⟩

end Session

end TapeShell
