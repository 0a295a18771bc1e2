/-
This file writes text as UTF-8 bytes and reads bytes back, strictly or with replacements.
-/

namespace TapeShell.Text.Utf8

def encode (text : String) : List UInt8 :=
  text.toList.flatMap String.utf8EncodeChar

/-- This function reads the bytes that follow a lead byte, up to one that does not fit. -/
def readTail : Nat → UInt8 → UInt8 → Nat → List UInt8 → Option Char × List UInt8
  | 0, _, _, value, rest => (some (Char.ofNat value), rest)
  | _ + 1, _, _, _, [] => (none, [])
  | count + 1, low, high, value, byte :: rest =>
      if low ≤ byte ∧ byte ≤ high then
        readTail count 0x80 0xbf (value * 64 + (byte.toNat - 0x80)) rest
      else (none, byte :: rest)

/-- A lead byte tells how many bytes follow and which bits it holds. -/
structure Lead where
  following : Nat
  low : UInt8
  high : UInt8
  value : Nat

def Lead.ofByte? (byte : UInt8) : Option Lead :=
  if byte < 0x80 then some ⟨0, 0x80, 0xbf, byte.toNat⟩
  else if byte < 0xc2 then none
  else if byte < 0xe0 then some ⟨1, 0x80, 0xbf, byte.toNat - 0xc0⟩
  else if byte = 0xe0 then some ⟨2, 0xa0, 0xbf, 0⟩
  else if byte = 0xed then some ⟨2, 0x80, 0x9f, 0xd⟩
  else if byte < 0xf0 then some ⟨2, 0x80, 0xbf, byte.toNat - 0xe0⟩
  else if byte = 0xf0 then some ⟨3, 0x90, 0xbf, 0⟩
  else if byte < 0xf4 then some ⟨3, 0x80, 0xbf, byte.toNat - 0xf0⟩
  else if byte = 0xf4 then some ⟨3, 0x80, 0x8f, 4⟩
  else none

/-- One character is read, or else the longest start of one that cannot be completed. -/
def readCharacter (byte : UInt8) (rest : List UInt8) : Option Char × List UInt8 :=
  match Lead.ofByte? byte with
  | none => (none, rest)
  | some lead => readTail lead.following lead.low lead.high lead.value rest

/-- No bytes are added. -/
theorem readTail_length (count : Nat) (low high : UInt8) (value : Nat) (bytes : List UInt8) :
    (readTail count low high value bytes).2.length ≤ bytes.length := by
  induction count generalizing low high value bytes with
  | zero => simp [readTail]
  | succ count inductionHypothesis =>
      cases bytes with
      | nil => simp [readTail]
      | cons byte rest =>
          simp only [readTail]
          split
          · exact Nat.le_succ_of_le (inductionHypothesis _ _ _ _)
          · exact Nat.le_refl _

/-- No bytes are added behind the first one. -/
theorem readCharacter_length (byte : UInt8) (rest : List UInt8) :
    (readCharacter byte rest).2.length ≤ rest.length := by
  unfold readCharacter
  split
  · exact Nat.le_refl _
  · exact readTail_length ..

/-- A missing character stands for one part of the bytes that is not UTF-8. -/
def characters : List UInt8 → List (Option Char)
  | [] => []
  | byte :: rest =>
      have : (readCharacter byte rest).2.length ≤ rest.length := readCharacter_length byte rest
      (readCharacter byte rest).1 :: characters (readCharacter byte rest).2
termination_by bytes => bytes.length

/-- Every part that is not UTF-8 becomes one replacement character. -/
def decodeLossy (bytes : List UInt8) : String :=
  String.ofList ((characters bytes).map fun character => character.getD '\ufffd')

/-- Bytes that are not UTF-8 are refused. -/
def decode? (bytes : List UInt8) : Option String :=
  ((characters bytes).mapM id).map String.ofList

end TapeShell.Text.Utf8
