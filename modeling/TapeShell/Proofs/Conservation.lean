/-
This file shows that scanning drops the layout of a line and nothing else.
-/

import TapeShell.Proofs.Agreement

namespace TapeShell

namespace Segment

/-- A quote that opens or closes a quotation is layout, and so is a blank outside quotations. -/
def isLayout (quote : Option Char) (character : Char) : Bool :=
  nextQuote quote character != quote || quote.isNone && Text.isBlank character

/-- What one character adds to the text of its line. -/
def kept (quote : Option Char) (character : Char) : List Char :=
  if isLayout quote character then [] else [character]

/-- The text of a line is the line without its layout. -/
def content : Option Char → List Char → List Char
  | _, [] => []
  | quote, character :: rest =>
      kept quote character ++ content (nextQuote quote character) rest

end Segment

namespace Scanner

/-- This is the part of the line that a mark stands for. -/
def Mark.text : Mark → List Char
  | .glyph character => [character]
  | .opened | .gap => []
  | .operator kind => kind.symbol.toList

/-- This is the text of the open word and of the tokens behind it. -/
def Joined.text (joined : Joined) : List Char :=
  joined.1.getD [] ++ joined.2.flatMap fun token => token.text.toList

/-- Closing the open word changes no text. -/
theorem Joined.text_close (joined : Joined) :
    (joined.close.flatMap fun token => token.text.toList) = joined.text := by
  rcases joined with ⟨_ | word, tokens⟩ <;> simp [close, text, Token.text]

/-- A mark adds its own text in front and takes nothing away. -/
theorem Joined.text_join (mark : Mark) (joined : Joined) :
    Joined.text (join mark joined) = mark.text ++ joined.text := by
  cases mark with
  | glyph character => rfl
  | opened => rfl
  | gap => exact joined.text_close
  | operator kind => exact congrArg (kind.symbol.toList ++ ·) joined.text_close

/-- The tokens have the text of the marks. -/
theorem text_tokens (marks : List Mark) :
    ((tokens marks).flatMap fun token => token.text.toList) = marks.flatMap Mark.text := by
  rw [tokens, Joined.text_close]
  induction marks with
  | nil => rfl
  | cons mark rest inductionHypothesis =>
      rw [List.foldr_cons, Joined.text_join, inductionHypothesis, List.flatMap_cons]

/-- The text that a plain scanner has read but not yet marked. -/
def Mode.held : Mode → List Char
  | .greater => ['>']
  | _ => []

/-- The text of a step is what it marks and what its next mode holds. -/
def stepText (next : List Mark × Mode) : List Char :=
  next.1.flatMap Mark.text ++ next.2.held

/-- Outside quotations every character but a quote and a blank is given out. -/
theorem stepText_bare (character : Char) :
    stepText (stepBare none character) = Segment.kept none character := by
  -- No operator is blank, so none of them is layout.
  have solid : Text.isBlank '|' = false ∧ Text.isBlank '<' = false ∧ Text.isBlank ';' = false ∧
      Text.isBlank '>' = false := by decide
  fun_cases stepBare none character
  all_goals simp_all [stepText, Mark.text, Mode.held, Operator.symbol, Segment.kept,
    Segment.isLayout, Segment.nextQuote]

/-- Inside a quotation nothing but its own quote is layout. -/
theorem stepText_quoted (span : Span) (quote character : Char) :
    stepText (if character = quote then ([], .inside .bare)
      else ([.glyph character], .inside span)) = Segment.kept (some quote) character := by
  split
  next closing =>
    simp [stepText, Mode.held, Segment.kept, Segment.isLayout, Segment.nextQuote, closing]
  next other =>
    simp [stepText, Mark.text, Mode.held, Segment.kept, Segment.isLayout, Segment.nextQuote, other]

/-- A step of a plain scanner gives out what was held and what the character adds. -/
theorem stepText_eq (mode : Mode) (plain : mode.IsPlain) (character : Char) :
    stepText (step none mode character) = mode.held ++ Segment.kept mode.quote character := by
  match mode, plain with
  | .inside .bare, _ => exact stepText_bare character
  | .inside .single, _ => exact stepText_quoted .single '\'' character
  | .inside .double, _ =>
      have unexpanded : step none (.inside .double) character =
          if character = '"' then ([], .inside .bare)
          else ([.glyph character], .inside .double) := by
        simp [step, stepInside]
      rw [unexpanded]
      exact stepText_quoted .double '"' character
  | .greater, _ =>
      rw [step]
      split
      next again =>
        subst again
        decide
      next => exact congrArg ('>' :: ·) (stepText_bare character)

/-- A plain scan marks what is held and then the text of the line. -/
theorem text_scan (mode : Mode) (plain : mode.IsPlain) (text : List Char) :
    (scan none mode text).flatMap Mark.text =
      mode.held ++ Segment.content mode.quote text := by
  induction text generalizing mode with
  | nil =>
      match mode, plain with
      | .inside _, _ => rfl
      | .greater, _ => rfl
  | cons character rest inductionHypothesis =>
      have follows := step_follows mode plain character
      calc (scan none mode (character :: rest)).flatMap Mark.text
        _ = (step none mode character).1.flatMap Mark.text ++
              ((step none mode character).2.held ++
                Segment.content (step none mode character).2.quote rest) := by
            rw [scan, List.flatMap_append, inductionHypothesis _ follows.plain]
        _ = stepText (step none mode character) ++
              Segment.content (Segment.nextQuote mode.quote character) rest := by
            rw [← List.append_assoc, follows.quote, stepText]
        _ = mode.held ++ Segment.content mode.quote (character :: rest) := by
            rw [stepText_eq mode plain, List.append_assoc, Segment.content]

end Scanner

namespace Token

/-- The texts of the tokens are the line without its quotes and its blanks outside them. -/
theorem join_text_scan (line : String) :
    String.join ((scan line).map text) = String.ofList (Segment.content none line.toList) := by
  rw [← String.toList_inj, String.toList_join, String.toList_ofList, List.flatMap_map]
  exact (Scanner.text_tokens _).trans (Scanner.text_scan (.inside .bare) trivial line.toList)

example : Segment.content none "a 'b\" '>> \"c;' ".toList = "ab\" >>c;' ".toList := by
  decide +kernel

end Token

end TapeShell
