/-
This file defines the words and operators of a command line.
-/

namespace TapeShell

inductive Operator where
  | pipe
  | readFrom
  | writeTo
  | appendTo
  | separator
  deriving DecidableEq, Repr

def Operator.symbol : Operator → String
  | .pipe => "|"
  | .readFrom => "<"
  | .writeTo => ">"
  | .appendTo => ">>"
  | .separator => ";"

/-- The quotes of a word are already removed. -/
inductive Token where
  | word (text : String)
  | operator (kind : Operator)
  deriving DecidableEq, Repr

def Token.text : Token → String
  | .word text => text
  | .operator kind => kind.symbol

end TapeShell
