/-
This file reads the arguments of the test command as a condition.

    either   :=  both ( "-o" both )*
    both     :=  negation ( "-a" negation )*
    negation :=  "!" negation  |  primary
    primary  :=  word relation word  |  "(" either ")"  |  check word  |  word

A relation between two words is read wherever one fits, and a word before a connective with an
operand is an operand.
-/

import TapeShell.Condition
import TapeShell.Text.Blank

namespace TapeShell.Condition

inductive Fault where
  | missingBracket
  | unclosedGroup
  | missingOperand (word : String)
  | unexpectedArgument (word : String)
  | notAnInteger (word : String)
  deriving DecidableEq, Repr

def Fault.message : Fault → String
  | .missingBracket => "missing ]"
  | .unclosedGroup => "missing ')'"
  | .missingOperand word => "argument expected after '" ++ word ++ "'"
  | .unexpectedArgument word => "unexpected argument '" ++ word ++ "'"
  | .notAnInteger word => "integer expression expected: " ++ word

def textCheck? (word : String) : Option TextCheck :=
  if word = "-n" then some .nonEmpty
  else if word = "-z" then some .empty
  else none

def textRelation? (word : String) : Option TextRelation :=
  if word = "=" then some .same
  else if word = "!=" then some .different
  else none

def numberRelation? (word : String) : Option NumberRelation :=
  if word = "-eq" then some .equal
  else if word = "-ne" then some .notEqual
  else if word = "-lt" then some .less
  else if word = "-le" then some .lessOrEqual
  else if word = "-gt" then some .greater
  else if word = "-ge" then some .greaterOrEqual
  else none

/-- Blanks around an integer do not matter. -/
def integer? (word : String) : Option Int64 :=
  Text.Decimal.signed? (Text.trimBlanks word.toList)

def integer (word : String) : Except Fault Int64 :=
  match integer? word with
  | some number => .ok number
  | none => .error (.notAnInteger word)

/-- This function reads one comparison, if the middle word is a relation. -/
def comparison? (left middle right : String) : Option (Except Fault Condition) :=
  match textRelation? middle with
  | some relation => some (.ok (.relate left relation right))
  | none =>
      (numberRelation? middle).map fun relation => do
        let leftNumber ← integer left
        let rightNumber ← integer right
        return .compare leftNumber relation rightNumber

def isConnective (word : String) : Bool :=
  word == "-a" || word == "-o"

def isRelation (word : String) : Bool :=
  (textRelation? word).isSome || (numberRelation? word).isSome

/-- Such a sign comes next and has an operand behind it. -/
def signFollows (isSign : String → Bool) : List String → Bool
  | word :: _ :: _ => isSign word
  | _ => false

def connectiveFollows (words : List String) : Bool :=
  signFollows isConnective words

def relationFollows (words : List String) : Bool :=
  signFollows isRelation words

/-- A reading leaves no more words than it was promised. -/
structure Reading (limit : Nat) where
  condition : Condition
  rest : List String
  bounded : rest.length ≤ limit

def Reading.widen {small large : Nat} (fits : small ≤ large) (reading : Reading small) :
    Reading large :=
  ⟨reading.condition, reading.rest, Nat.le_trans reading.bounded fits⟩

/-- A word that starts no longer form is a text of its own. -/
def readText (first : String) (rest : List String) : Reading rest.length :=
  match textCheck? first, rest with
  | some kind, value :: remaining =>
      if connectiveFollows (value :: remaining) then
        ⟨.text first, value :: remaining, Nat.le_refl _⟩
      else ⟨.check kind value, remaining, Nat.le_succ _⟩
  | _, rest => ⟨.text first, rest, Nat.le_refl _⟩

mutual

/-- What stands on either side of a connective is read by the next stronger rule. -/
def readOperand (connective : Connective) (first : String) (rest : List String) :
    Except Fault (Reading rest.length) :=
  match connective with
  | .both => readNegation first rest
  | .either => readChain .both first rest
termination_by 8 * rest.length + 5 - 2 * connective.strength
decreasing_by all_goals simp only [Connective.strength]; omega

/-- A chain is any number of operands with the connective between them. -/
def readChain (connective : Connective) (first : String) (rest : List String) :
    Except Fault (Reading rest.length) :=
  match readOperand connective first rest with
  | .error fault => .error fault
  | .ok ⟨left, remaining, bounded⟩ =>
      (continueChain connective left remaining).map (Reading.widen bounded)
termination_by 8 * rest.length + 6 - 2 * connective.strength
decreasing_by all_goals cases connective <;> simp only [Connective.strength] <;> omega

/-- What was read so far is the left side of the next connective. -/
def continueChain (connective : Connective) (left : Condition) (words : List String) :
    Except Fault (Reading words.length) :=
  match words with
  | [] => .ok ⟨left, [], Nat.le_refl _⟩
  | word :: rest =>
      if word = connective.word then
        match rest with
        | [] => .error (.missingOperand connective.word)
        | next :: more =>
            match readOperand connective next more with
            | .error fault => .error fault
            | .ok ⟨right, remaining, bounded⟩ =>
                (continueChain connective (connective.join left right) remaining).map
                  (Reading.widen (by simp only [List.length_cons]; omega))
      else .ok ⟨left, word :: rest, Nat.le_refl _⟩
termination_by 8 * words.length
decreasing_by
  all_goals cases connective <;> simp only [Connective.strength, List.length_cons] <;> omega

def readNegation (first : String) (rest : List String) : Except Fault (Reading rest.length) :=
  match rest with
  | [] => readPrimary first []
  | next :: more =>
      if first = "!" ∧ !relationFollows (next :: more) ∧ !connectiveFollows (next :: more) then
        match readNegation next more with
        | .error fault => .error fault
        | .ok ⟨inner, remaining, bounded⟩ =>
            .ok ⟨.negation inner, remaining, Nat.le_succ_of_le bounded⟩
      else readPrimary first (next :: more)
termination_by 8 * rest.length + 2

def readPrimary (first : String) (rest : List String) : Except Fault (Reading rest.length) :=
  match rest with
  | [] => .ok (readText first [])
  | [next] => if first = "(" then readGroup next [] else .ok (readText first [next])
  | middle :: right :: remaining =>
      match comparison? first middle right with
      | some result => result.map fun condition =>
          ⟨condition, remaining, by simp only [List.length_cons]; omega⟩
      | none =>
          if first = "(" then readGroup middle (right :: remaining)
          else .ok (readText first (middle :: right :: remaining))
termination_by 8 * rest.length + 1

/-- A group ends in a parenthesis of its own. -/
def readGroup (first : String) (rest : List String) :
    Except Fault (Reading (first :: rest).length) :=
  match readChain .either first rest with
  | .error fault => .error fault
  | .ok ⟨inner, [], _⟩ => .error .unclosedGroup
  | .ok ⟨inner, word :: remaining, bounded⟩ =>
      if word = ")" then
        .ok ⟨.group inner, remaining, by simp only [List.length_cons] at bounded ⊢; omega⟩
      else .error .unclosedGroup
termination_by 8 * rest.length + 7
decreasing_by simp only [Connective.strength]; omega

end

/-- No arguments are no condition, and no argument may be left over. -/
def ofArguments : List String → Except Fault (Option Condition)
  | [] => .ok none
  | first :: rest =>
      match readChain .either first rest with
      | .error fault => .error fault
      | .ok ⟨condition, [], _⟩ => .ok (some condition)
      | .ok ⟨_, extra :: _, _⟩ => .error (.unexpectedArgument extra)

/-- The bracket form ends in a bracket of its own. -/
inductive Form where
  | test
  | bracket
  deriving DecidableEq, Repr

def Form.name : Form → String
  | .test => "test"
  | .bracket => "["

def Form.operands (form : Form) (arguments : List String) : Except Fault (List String) :=
  match form with
  | .test => .ok arguments
  | .bracket =>
      if arguments.getLast? = some "]" then .ok arguments.dropLast else .error .missingBracket

/-- No condition is a false one. -/
def evaluate (form : Form) (arguments : List String) : Except Fault Bool := do
  let operands ← form.operands arguments
  let condition ← ofArguments operands
  return condition.any holds

end TapeShell.Condition
