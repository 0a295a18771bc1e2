/-
This file reads TOML integers and floats.
-/

import TapeShell.Toml
import TapeShell.Toml.Text

namespace TapeShell.Toml

/-- Digits may be parted by single underscores, which are left out. -/
def readDigitTail (isDigit : Char → Bool) : Reader (List Char)
  | '_' :: character :: rest =>
      if isDigit character then prepend character (readDigitTail isDigit rest) else none
  | ['_'] => none
  | character :: rest =>
      if isDigit character then prepend character (readDigitTail isDigit rest)
      else some ([], character :: rest)
  | [] => some ([], [])

def readDigits (isDigit : Char → Bool) : Reader (List Char)
  | character :: rest =>
      if isDigit character then prepend character (readDigitTail isDigit rest) else none
  | [] => none

/-- A whole number other than zero has no leading zero. -/
def readWhole : Reader (List Char)
  | '0' :: rest => some (['0'], rest)
  | text => readDigits Char.isDigit text

def readSign : List Char → Option Char × List Char
  | '+' :: rest => (some '+', rest)
  | '-' :: rest => (some '-', rest)
  | text => (none, text)

def readFraction : Reader (List Char)
  | '.' :: rest => readDigits Char.isDigit rest
  | text => some ([], text)

def isExponentMark (character : Char) : Bool :=
  character == 'e' || character == 'E'

/-- A missing exponent is zero. -/
def readExponent : Reader Int
  | mark :: rest =>
      if isExponentMark mark then do
        let (sign, unsigned) := readSign rest
        let (digits, after) ← readDigits Char.isDigit unsigned
        let size ← Text.Decimal.natural? digits
        some (if sign = some '-' then -(size : Int) else size, after)
      else some (0, mark :: rest)
  | [] => some (0, [])

/-- A decimal is too large if it is rounded beyond double precision. -/
def isTooLarge (digits : List Char) (places : Nat) (exponent : Int) : Bool :=
  let significant := digits.dropWhile (· == '0')
  let scale := exponent - places
  let magnitude := (significant.length : Int) + scale
  if significant.isEmpty || magnitude < 300 then false
  else if 320 < magnitude then true
  else
    let number := (Text.Decimal.natural? significant).getD 0
    let bound := (Nat.pow 2 54 - 1) * Nat.pow 2 970
    if 0 ≤ scale then decide (bound ≤ number * Nat.pow 10 scale.toNat)
    else decide (bound * Nat.pow 10 (-scale).toNat ≤ number)

/-- An integer fits in 64 bits. -/
def integerValue? (number : Int) : Option Value :=
  if Int64.minValue.toInt ≤ number ∧ number ≤ Int64.maxValue.toInt then some (.integer number)
  else none

def isRadixDigit (radix : Nat) (character : Char) : Bool :=
  match hexValue? character with
  | some value => decide (value < radix)
  | none => false

def readRadix (radix : Nat) (text : List Char) : Option (Value × List Char) := do
  let (digits, rest) ← readDigits (isRadixDigit radix) text
  let value ← integerValue?
    (digits.foldl (fun value digit => value * radix + (hexValue? digit).getD 0) 0 : Nat)
  some (value, rest)

def wholeValue? (sign : Option Char) (digits : List Char) : Option Value := do
  let size ← Text.Decimal.natural? digits
  integerValue? (if sign = some '-' then -(size : Int) else size)

/-- A point or an exponent makes a number a float. -/
def continuesAsFloat : List Char → Bool
  | mark :: _ => mark == '.' || isExponentMark mark
  | [] => false

/-- This function reads a decimal after its sign. A negative float may be as large as it likes. -/
def readDecimal (sign : Option Char) (text : List Char) : Option (Value × List Char) := do
  let (whole, afterWhole) ← readWhole text
  if continuesAsFloat afterWhole then
    let (fraction, afterFraction) ← readFraction afterWhole
    let (exponent, rest) ← readExponent afterFraction
    if sign ≠ some '-' ∧ isTooLarge (whole ++ fraction) fraction.length exponent then none
    else some (.float (text.take (text.length - rest.length)), rest)
  else
    let value ← wholeValue? sign whole
    some (value, afterWhole)

/-- This function reads a number in any of its forms. -/
def readNumber (text : List Char) : Option (Value × List Char) :=
  match text with
  | '0' :: 'x' :: rest => readRadix 16 rest
  | '0' :: 'o' :: rest => readRadix 8 rest
  | '0' :: 'b' :: rest => readRadix 2 rest
  | _ =>
      let (sign, unsigned) := readSign text
      match unsigned with
      | 'i' :: 'n' :: 'f' :: rest => some (.float ['i', 'n', 'f'], rest)
      | 'n' :: 'a' :: 'n' :: rest => some (.float ['n', 'a', 'n'], rest)
      | _ => readDecimal sign unsigned

end TapeShell.Toml
