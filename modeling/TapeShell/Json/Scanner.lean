/-
This file scans bytes into the symbols of JSON, one byte at a time.
-/

import TapeShell.Json
import TapeShell.Text.Decimal
import TapeShell.Text.Utf8

namespace TapeShell.Json

inductive Symbol where
  | openBracket
  | closeBracket
  | openBrace
  | closeBrace
  | comma
  | colon
  | scalar (value : Json)

namespace Scanner

/-- A string is made of raw bytes and of the numbers of its escapes. -/
inductive Piece where
  | byte (value : UInt8)
  | unit (value : Nat)

/-- The scanner keeps what it has read of a symbol, the newest first. -/
inductive Mode where
  | between
  | literal (read : List Char)
  | number (read : List Char)
  | string (read : List Piece)
  | escape (read : List Piece)
  | unit (read : List Piece) (left : Nat) (value : Nat)

/-- A surrogate needs its partner, and the two make one character. -/
def pieceBytes : List Piece → Option (List UInt8)
  | [] => some []
  | .byte value :: rest => (pieceBytes rest).map (value :: ·)
  | .unit high :: .unit low :: rest =>
      if 0xd800 ≤ high ∧ high < 0xdc00 ∧ 0xdc00 ≤ low ∧ low < 0xe000 then
        (pieceBytes rest).map
          (String.utf8EncodeChar
            (Char.ofNat ((high - 0xd800) * 0x400 + (low - 0xdc00) + 0x10000)) ++ ·)
      else if 0xd800 ≤ high ∧ high < 0xe000 then none
      else (pieceBytes (.unit low :: rest)).map (String.utf8EncodeChar (Char.ofNat high) ++ ·)
  | .unit value :: rest =>
      if 0xd800 ≤ value ∧ value < 0xe000 then none
      else (pieceBytes rest).map (String.utf8EncodeChar (Char.ofNat value) ++ ·)

/-- This is the text that the pieces of a string stand for, if there is one. -/
def pieceText (pieces : List Piece) : Option String :=
  (pieceBytes pieces).bind Text.Utf8.decode?

def literalValue? (letters : List Char) : Option Json :=
  if letters = ['n', 'u', 'l', 'l'] then some .null
  else if letters = ['t', 'r', 'u', 'e'] then some (.boolean true)
  else if letters = ['f', 'a', 'l', 's', 'e'] then some (.boolean false)
  else none

/-- This function drops the digits at the start, of which there is at least one. -/
def afterDigits? (characters : List Char) : Option (List Char) :=
  match characters with
  | first :: rest => if first.isDigit then some (rest.dropWhile Char.isDigit) else none
  | [] => none

def afterWhole? : List Char → Option (List Char)
  | '0' :: rest => some rest
  | characters => afterDigits? characters

def afterFraction? : List Char → Option (List Char)
  | '.' :: rest => afterDigits? rest
  | characters => some characters

def afterSign : List Char → List Char
  | '+' :: rest => rest
  | '-' :: rest => rest
  | characters => characters

def afterExponent? : List Char → Option (List Char)
  | 'e' :: rest => afterDigits? (afterSign rest)
  | 'E' :: rest => afterDigits? (afterSign rest)
  | characters => some characters

def afterMinus : List Char → List Char
  | '-' :: rest => rest
  | characters => characters

/-- A number may be negative, has no leading zero, and may have a fraction and an exponent. -/
def isNumber (characters : List Char) : Bool :=
  (((afterWhole? (afterMinus characters)).bind afterFraction?).bind afterExponent?) == some []

def numberValue? (characters : List Char) : Option Json :=
  if isNumber characters then some (.number characters) else none

def isSpace (byte : UInt8) : Bool :=
  byte == 0x20 || byte == 0x0a || byte == 0x0d || byte == 0x09

def character (byte : UInt8) : Char := Char.ofNat byte.toNat

def isNumberByte (byte : UInt8) : Bool :=
  (character byte).isDigit || ['-', '+', '.', 'e', 'E'].contains (character byte)

/-- This step reads a byte that belongs to no earlier symbol. -/
def start (byte : UInt8) : Option (List Symbol × Mode) :=
  let first := character byte
  if isSpace byte then some ([], .between)
  else if first = '[' then some ([.openBracket], .between)
  else if first = ']' then some ([.closeBracket], .between)
  else if first = '\x7b' then some ([.openBrace], .between)
  else if first = '\x7d' then some ([.closeBrace], .between)
  else if first = ',' then some ([.comma], .between)
  else if first = ':' then some ([.colon], .between)
  else if first = '"' then some ([], .string [])
  else if first.isDigit || first == '-' then some ([], .number [first])
  else if first.isLower then some ([], .literal [first])
  else none

/-- This symbol comes before those of the step that follows it. -/
def after (value : Option Json) (next : Option (List Symbol × Mode)) :
    Option (List Symbol × Mode) := do
  let scalar ← value
  let (symbols, mode) ← next
  return (.scalar scalar :: symbols, mode)

/-- These letters follow a backslash. -/
def escaped? (letter : Char) : Option UInt8 :=
  if letter = '"' ∨ letter = '\\' ∨ letter = '/' then some (UInt8.ofNat letter.toNat)
  else if letter = 'b' then some 0x08
  else if letter = 'f' then some 0x0c
  else if letter = 'n' then some 0x0a
  else if letter = 'r' then some 0x0d
  else if letter = 't' then some 0x09
  else none

def hexValue? (letter : Char) : Option Nat :=
  if '0' ≤ letter ∧ letter ≤ '9' then some (letter.toNat - 48)
  else if 'a' ≤ letter ∧ letter ≤ 'f' then some (letter.toNat - 87)
  else if 'A' ≤ letter ∧ letter ≤ 'F' then some (letter.toNat - 55)
  else none

def step : Mode → UInt8 → Option (List Symbol × Mode)
  | .between, byte => start byte
  | .literal read, byte =>
      if (character byte).isLower then some ([], .literal (character byte :: read))
      else after (literalValue? read.reverse) (start byte)
  | .number read, byte =>
      if isNumberByte byte then some ([], .number (character byte :: read))
      else after (numberValue? read.reverse) (start byte)
  | .string read, byte =>
      if character byte = '"' then some ([.scalar (.string (pieceText read.reverse))], .between)
      else if character byte = '\\' then some ([], .escape read)
      else if byte < 0x20 then none
      else some ([], .string (.byte byte :: read))
  | .escape read, byte =>
      if character byte = 'u' then some ([], .unit read 3 0)
      else (escaped? (character byte)).map fun value => ([], .string (.byte value :: read))
  | .unit read left value, byte =>
      (hexValue? (character byte)).map fun digit =>
        match left with
        | 0 => ([], .string (.unit (value * 16 + digit) :: read))
        | more + 1 => ([], .unit read more (value * 16 + digit))

/-- The end of the bytes may end a literal or a number, but not a string. -/
def finish : Mode → Option (List Symbol)
  | .between => some []
  | .literal read => (literalValue? read.reverse).map fun value => [.scalar value]
  | .number read => (numberValue? read.reverse).map fun value => [.scalar value]
  | _ => none

def scan : Mode → List UInt8 → Option (List Symbol)
  | mode, [] => finish mode
  | mode, byte :: rest =>
      match step mode byte with
      | none => none
      | some (symbols, next) => (scan next rest).map (symbols ++ ·)

end Scanner

end TapeShell.Json
