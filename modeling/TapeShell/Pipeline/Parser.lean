/-
This file reads tokens as a pipeline.
-/

import TapeShell.Pipeline
import TapeShell.Token.Scanner

namespace TapeShell.Pipeline

inductive SyntaxFault where
  | emptyCommand
  | emptyStage
  | missingTarget (operator : Operator)
  | unexpectedSeparator
  deriving DecidableEq, Repr

def SyntaxFault.message : SyntaxFault → String
  | .emptyCommand => "syntax error: empty command"
  | .emptyStage => "syntax error near unexpected token '|'"
  | .missingTarget operator => "syntax error: missing file name after '" ++ operator.symbol ++ "'"
  | .unexpectedSeparator => "syntax error near unexpected token ';'"

/-- The draft holds the finished stages, the words of the open stage and the last redirections. -/
structure Draft where
  stages : List Stage
  words : List String
  input : Option String
  output : Option Redirect

def Draft.empty : Draft := ⟨[], [], none, none⟩

/-- The first word of a stage is its command. -/
def Draft.close? (draft : Draft) : Option Draft :=
  match draft.words with
  | [] => none
  | command :: arguments =>
      some { draft with stages := draft.stages ++ [⟨command, arguments⟩], words := [] }

def Draft.finish (draft : Draft) : Except SyntaxFault Pipeline :=
  match draft.close? with
  | some closed => .ok ⟨closed.stages, closed.input, closed.output⟩
  | none => .error (if draft.stages.isEmpty then .emptyCommand else .emptyStage)

/-- Redirections may stand anywhere, and the last one of a kind counts. -/
def read (draft : Draft) : List Token → Except SyntaxFault Pipeline
  | [] => draft.finish
  | .word text :: rest => read { draft with words := draft.words ++ [text] } rest
  | .operator .pipe :: rest =>
      match draft.close? with
      | none => .error .emptyStage
      | some closed => read closed rest
  | .operator .readFrom :: .word path :: rest => read { draft with input := some path } rest
  | .operator .writeTo :: .word path :: rest =>
      read { draft with output := some ⟨path, .write⟩ } rest
  | .operator .appendTo :: .word path :: rest =>
      read { draft with output := some ⟨path, .append⟩ } rest
  | .operator .separator :: _ => .error .unexpectedSeparator
  | .operator operator :: _ => .error (.missingTarget operator)

def ofTokens (tokens : List Token) : Except SyntaxFault Pipeline :=
  read .empty tokens

/-- This function reads one segment of a line without replacing variables. -/
def ofLine (line : String) : Except SyntaxFault Pipeline :=
  ofTokens (Token.scan line)

end TapeShell.Pipeline
