/-
This file writes bytes in base 64 and reads them back.
-/

namespace TapeShell.Base64

def symbol (value : Nat) : Char :=
  if value < 26 then Char.ofNat (65 + value)
  else if value < 52 then Char.ofNat (71 + value)
  else if value < 62 then Char.ofNat (value - 4)
  else if value = 62 then '+'
  else '/'

def value? (character : Char) : Option Nat :=
  if 'A' ≤ character ∧ character ≤ 'Z' then some (character.toNat - 65)
  else if 'a' ≤ character ∧ character ≤ 'z' then some (character.toNat - 71)
  else if '0' ≤ character ∧ character ≤ '9' then some (character.toNat + 4)
  else if character = '+' then some 62
  else if character = '/' then some 63
  else none

/-- Three bytes make four symbols, and a shorter last group is padded. -/
def encodeBytes : List UInt8 → List Char
  | [] => []
  | [first] =>
      [symbol (first.toNat / 4), symbol (first.toNat % 4 * 16), '=', '=']
  | [first, second] =>
      [symbol (first.toNat / 4), symbol (first.toNat % 4 * 16 + second.toNat / 16),
       symbol (second.toNat % 16 * 4), '=']
  | first :: second :: third :: rest =>
      symbol (first.toNat / 4) :: symbol (first.toNat % 4 * 16 + second.toNat / 16) ::
        symbol (second.toNat % 16 * 4 + third.toNat / 64) :: symbol (third.toNat % 64) ::
        encodeBytes rest

def encode (bytes : List UInt8) : String :=
  String.ofList (encodeBytes bytes)

/-- The bits behind a padding are zero. -/
def decodeLast (first second third : Char) : Option (List UInt8) := do
  let a ← value? first
  let b ← value? second
  if third = '=' then
    if b % 16 = 0 then some [UInt8.ofNat (a * 4 + b / 16)] else none
  else
    let c ← value? third
    if c % 4 = 0 then some [UInt8.ofNat (a * 4 + b / 16), UInt8.ofNat (b % 16 * 16 + c / 4)]
    else none

/-- Symbols come in fours, and only the last four may be padded. -/
def decode? : List Char → Option (List UInt8)
  | [] => some []
  | [first, second, third, '='] => decodeLast first second third
  | first :: second :: third :: fourth :: rest => do
      let a ← value? first
      let b ← value? second
      let c ← value? third
      let d ← value? fourth
      let bytes ← decode? rest
      some (UInt8.ofNat (a * 4 + b / 16) :: UInt8.ofNat (b % 16 * 16 + c / 4) ::
        UInt8.ofNat (c % 4 * 64 + d) :: bytes)
  | _ => none

end TapeShell.Base64
