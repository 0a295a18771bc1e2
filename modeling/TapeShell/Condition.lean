/-
This file defines the conditions of the test command, their value and their printed form.
-/

import TapeShell.Text.Decimal
import TapeShell.Text.Quoted

namespace TapeShell

inductive TextCheck where
  | nonEmpty
  | empty
  deriving DecidableEq, Repr

inductive TextRelation where
  | same
  | different
  deriving DecidableEq, Repr

inductive NumberRelation where
  | equal
  | notEqual
  | less
  | lessOrEqual
  | greater
  | greaterOrEqual
  deriving DecidableEq, Repr

/-- A group is written between parentheses. -/
inductive Condition where
  | text (value : String)
  | check (kind : TextCheck) (value : String)
  | relate (left : String) (relation : TextRelation) (right : String)
  | compare (left : Int64) (relation : NumberRelation) (right : Int64)
  | negation (inner : Condition)
  | both (left right : Condition)
  | either (left right : Condition)
  | group (inner : Condition)
  deriving DecidableEq, Repr

/-- A connective joins two conditions. -/
inductive Connective where
  | both
  | either
  deriving DecidableEq, Repr

def Connective.word : Connective → String
  | .both => "-a"
  | .either => "-o"

/-- A conjunction binds its parts more than a disjunction. -/
def Connective.strength : Connective → Nat
  | .both => 1
  | .either => 0

def Connective.join : Connective → Condition → Condition → Condition
  | .both => .both
  | .either => .either

def TextCheck.word : TextCheck → String
  | .nonEmpty => "-n"
  | .empty => "-z"

def TextCheck.holds : TextCheck → String → Bool
  | .nonEmpty, value => !value.isEmpty
  | .empty, value => value.isEmpty

def TextRelation.word : TextRelation → String
  | .same => "="
  | .different => "!="

def TextRelation.holds : TextRelation → String → String → Bool
  | .same, left, right => left == right
  | .different, left, right => left != right

def NumberRelation.word : NumberRelation → String
  | .equal => "-eq"
  | .notEqual => "-ne"
  | .less => "-lt"
  | .lessOrEqual => "-le"
  | .greater => "-gt"
  | .greaterOrEqual => "-ge"

def NumberRelation.label : NumberRelation → String
  | .equal => "Eq"
  | .notEqual => "Ne"
  | .less => "Lt"
  | .lessOrEqual => "Le"
  | .greater => "Gt"
  | .greaterOrEqual => "Ge"

def NumberRelation.holds : NumberRelation → Int64 → Int64 → Bool
  | .equal, left, right => left == right
  | .notEqual, left, right => left != right
  | .less, left, right => decide (left < right)
  | .lessOrEqual, left, right => decide (left ≤ right)
  | .greater, left, right => decide (right < left)
  | .greaterOrEqual, left, right => decide (right ≤ left)

namespace Condition

def holds : Condition → Bool
  | .text value => !value.isEmpty
  | .check kind value => kind.holds value
  | .relate left relation right => relation.holds left right
  | .compare left relation right => relation.holds left right
  | .negation inner => !inner.holds
  | .both left right => left.holds && right.holds
  | .either left right => left.holds || right.holds
  | .group inner => inner.holds

def render : Condition → String
  | .text value => Text.quoted value
  | .check kind value => kind.word ++ " " ++ Text.quoted value
  | .relate left relation right =>
      Text.quoted left ++ " " ++ relation.word ++ " " ++ Text.quoted right
  | .compare left relation right =>
      Text.Decimal.renderInt left.toInt ++ " " ++ relation.label ++ " " ++
        Text.Decimal.renderInt right.toInt
  | .negation inner => "! " ++ inner.render
  | .both left right => "(" ++ left.render ++ " -a " ++ right.render ++ ")"
  | .either left right => "(" ++ left.render ++ " -o " ++ right.render ++ ")"
  | .group inner => "( " ++ inner.render ++ " )"

end Condition

end TapeShell
