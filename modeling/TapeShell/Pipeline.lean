/-
This file defines pipelines and writes them as command lines.
-/

import TapeShell.Token
import TapeShell.Text.Blank

namespace TapeShell

structure Stage where
  command : String
  arguments : List String
  deriving DecidableEq, Repr

inductive OutputMode where
  | write
  | append
  deriving DecidableEq, Repr

def OutputMode.operator : OutputMode → Operator
  | .write => .writeTo
  | .append => .appendTo

structure Redirect where
  path : String
  mode : OutputMode
  deriving DecidableEq, Repr

/-- The input feeds the first stage, and the output takes what the last stage wrote. -/
structure Pipeline where
  stages : List Stage
  input : Option String
  output : Option Redirect
  deriving DecidableEq, Repr

/-- A compound pipeline has more than one stage or a redirection. -/
def Pipeline.isCompound (pipeline : Pipeline) : Bool :=
  pipeline.stages.length > 1 || pipeline.input.isSome || pipeline.output.isSome

namespace Word

def isSpecial (character : Char) : Bool :=
  Text.isBlank character || ['|', '<', '>', ';', '\'', '"', '$'].contains character

/-- A plain word reads as itself without quotes. -/
def isPlain (word : List Char) : Bool :=
  !word.isEmpty && !word.any isSpecial

def quotePart (part : List Char) : List Char :=
  if part.isEmpty then [] else ['\''] ++ part ++ ['\'']

/-- The parts of a word stand in single quotes, with its own single quotes in double ones. -/
def quote (word : List Char) : List Char :=
  if word.isEmpty then ['\'', '\'']
  else List.intercalate ['"', '\'', '"'] ((word.splitOn '\'').map quotePart)

def render (word : String) : String :=
  if isPlain word.toList then word else String.ofList (quote word.toList)

end Word

def Stage.render (stage : Stage) : String :=
  " ".intercalate (Word.render stage.command :: stage.arguments.map Word.render)

def Redirect.render (redirect : Redirect) : String :=
  " " ++ redirect.mode.operator.symbol ++ " " ++ Word.render redirect.path

def Pipeline.renderInput : Option String → String
  | none => ""
  | some path => " < " ++ Word.render path

def Pipeline.renderOutput : Option Redirect → String
  | none => ""
  | some redirect => redirect.render

def Pipeline.render (pipeline : Pipeline) : String :=
  " | ".intercalate (pipeline.stages.map Stage.render) ++
    renderInput pipeline.input ++ renderOutput pipeline.output

end TapeShell
