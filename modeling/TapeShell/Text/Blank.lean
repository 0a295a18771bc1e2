/-
This file looks code points up in tables of ranges, says which characters are blank, and trims and
counts words by them.
-/

namespace TapeShell.Text

/-- A table lists ranges in ascending order with both ends included. -/
abbrev Ranges := List (Nat × Nat)

/-- The search stops at the first range that starts above the point. -/
def Ranges.contains : Ranges → Nat → Bool
  | [], _ => false
  | (first, last) :: rest, point =>
      if point < first then false
      else if point ≤ last then true
      else Ranges.contains rest point

/-- These points are the white space of every script. -/
def blankRanges : Ranges :=
  [(0x09, 0x0d), (0x20, 0x20), (0x85, 0x85), (0xa0, 0xa0), (0x1680, 0x1680), (0x2000, 0x200a),
   (0x2028, 0x2029), (0x202f, 0x202f), (0x205f, 0x205f), (0x3000, 0x3000)]

def isBlank (character : Char) : Bool :=
  blankRanges.contains character.toNat

/-- This function drops the blank characters at both ends. -/
def trimBlanks (text : List Char) : List Char :=
  ((text.dropWhile isBlank).reverse.dropWhile isBlank).reverse

def trim (text : String) : String :=
  String.ofList (trimBlanks text.toList)

/-- A word ends where a character that is not blank meets a blank or the end. -/
def wordCount : List Char → Nat
  | [] => 0
  | [last] => if isBlank last then 0 else 1
  | first :: second :: rest =>
      (if !isBlank first && isBlank second then 1 else 0) + wordCount (second :: rest)

end TapeShell.Text
