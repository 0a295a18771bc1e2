/-
This file writes and reads whole numbers in decimal.
-/

namespace TapeShell.Text.Decimal

def digit (value : Nat) : Char :=
  Char.ofNat (48 + value)

def digitValue? (character : Char) : Option Nat :=
  if '0' ≤ character ∧ character ≤ '9' then some (character.toNat - 48) else none

/-- The most significant digit comes first, and zero is one digit. -/
def digits (number : Nat) : List Char :=
  if number < 10 then [digit number]
  else digits (number / 10) ++ [digit (number % 10)]

def render (number : Nat) : String :=
  String.ofList (digits number)

def renderInt : Int → String
  | .ofNat number => render number
  | .negSucc number => "-" ++ render (number + 1)

/-- This function reads digits after the value of the digits before them. -/
def readDigits (value : Nat) : List Char → Option Nat
  | [] => some value
  | character :: rest => do readDigits (value * 10 + (← digitValue? character)) rest

/-- A number has at least one digit and nothing else. -/
def natural? : List Char → Option Nat
  | [] => none
  | characters => readDigits 0 characters

/-- An unsigned number may carry a plus sign and fits in 64 bits. -/
def unsigned? (text : List Char) : Option Nat := do
  let number ← match text with
    | '+' :: rest => natural? rest
    | characters => natural? characters
  if number < UInt64.size then some number else none

/-- A signed number may carry either sign and fits in 64 bits. -/
def signed? (text : List Char) : Option Int64 := do
  let number : Int ← match text with
    | '-' :: rest => (natural? rest).map fun size => -(size : Int)
    | '+' :: rest => (natural? rest).map fun size => (size : Int)
    | characters => (natural? characters).map fun size => (size : Int)
  if Int64.minValue.toInt ≤ number ∧ number ≤ Int64.maxValue.toInt then some (Int64.ofInt number)
  else none

end TapeShell.Text.Decimal
