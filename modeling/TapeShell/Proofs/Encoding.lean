/-
This file shows that base 64 is read back and that a digest matches the bytes it was made from.
-/

import TapeShell.Proofs.Segment
import TapeShell.Tape

namespace TapeShell

namespace Base64

/-- A symbol is read as its value. -/
theorem value?_symbol {value : Nat} (small : value < 64) : value? (symbol value) = some value := by
  have all : ∀ value < 64, value? (symbol value) = some value := by decide
  exact all value small

/-- No symbol is the padding sign. -/
theorem symbol_ne_pad {value : Nat} (small : value < 64) : symbol value ≠ '=' := by
  have all : ∀ value < 64, symbol value ≠ '=' := by decide
  exact all value small

/-- No symbol is blank. -/
theorem isBlank_symbol {value : Nat} (small : value < 64) :
    Text.isBlank (symbol value) = false := by
  have all : ∀ value < 64, Text.isBlank (symbol value) = false := by decide
  exact all value small

/-- Four symbols of which the last is no padding make three bytes. -/
theorem decode?_four {a b c d : Nat} (smallA : a < 64) (smallB : b < 64) (smallC : c < 64)
    (smallD : d < 64) (rest : List Char) :
    decode? (symbol a :: symbol b :: symbol c :: symbol d :: rest) =
      (decode? rest).map fun bytes =>
        UInt8.ofNat (a * 4 + b / 16) :: UInt8.ofNat (b % 16 * 16 + c / 4) ::
          UInt8.ofNat (c % 4 * 64 + d) :: bytes := by
  have noPad := symbol_ne_pad smallD
  rw [decode?.eq_3 _ _ _ _ _ fun last _ => noPad last, value?_symbol smallA, value?_symbol smallB,
    value?_symbol smallC, value?_symbol smallD]
  cases decode? rest <;> rfl

/-- Two symbols and the padding are the last byte. -/
theorem decodeLast_pad {a b : Nat} (smallA : a < 64) (smallB : b < 64) (zero : b % 16 = 0) :
    decodeLast (symbol a) (symbol b) '=' = some [UInt8.ofNat (a * 4 + b / 16)] := by
  rw [decodeLast, value?_symbol smallA, value?_symbol smallB]
  simp [zero]

/-- Three symbols are the last two bytes. -/
theorem decodeLast_symbol {a b c : Nat} (smallA : a < 64) (smallB : b < 64) (smallC : c < 64)
    (zero : c % 4 = 0) :
    decodeLast (symbol a) (symbol b) (symbol c) =
      some [UInt8.ofNat (a * 4 + b / 16), UInt8.ofNat (b % 16 * 16 + c / 4)] := by
  rw [decodeLast, value?_symbol smallA, value?_symbol smallB, value?_symbol smallC]
  simp [symbol_ne_pad smallC, zero]

/-- A byte is known by its number. -/
theorem ofNat_eq (byte : UInt8) {number : Nat} (same : number = byte.toNat) :
    UInt8.ofNat number = byte := by
  rw [same, UInt8.ofNat_toNat]

/-- Bytes are read back from their symbols. -/
theorem decode?_encodeBytes (bytes : List UInt8) : decode? (encodeBytes bytes) = some bytes := by
  induction bytes using encodeBytes.induct with
  | case1 => rfl
  | case2 first =>
      have bound := first.toNat_lt
      rw [encodeBytes, decode?, decodeLast_pad (by omega) (by omega) (by omega),
        ofNat_eq first (by omega)]
  | case3 first second =>
      have firstBound := first.toNat_lt
      have secondBound := second.toNat_lt
      rw [encodeBytes, decode?, decodeLast_symbol (by omega) (by omega) (by omega) (by omega),
        ofNat_eq first (by omega), ofNat_eq second (by omega)]
  | case4 first second third rest inductionHypothesis =>
      have firstBound := first.toNat_lt
      have secondBound := second.toNat_lt
      have thirdBound := third.toNat_lt
      rw [encodeBytes, decode?_four (by omega) (by omega) (by omega) (by omega),
        inductionHypothesis, ofNat_eq first (by omega),
        ofNat_eq second (by omega), ofNat_eq third (by omega)]
      rfl

/-- Bytes are written without blanks. -/
theorem isBlank_of_mem_encodeBytes {bytes : List UInt8} {character : Char}
    (member : character ∈ encodeBytes bytes) : Text.isBlank character = false := by
  have pad : Text.isBlank '=' = false := by decide
  induction bytes using encodeBytes.induct with
  | case1 => cases member
  | case2 first =>
      have bound := first.toNat_lt
      simp only [encodeBytes, List.mem_cons, List.not_mem_nil, or_false, or_self] at member
      rcases member with rfl | rfl | rfl
      · exact isBlank_symbol (by omega)
      · exact isBlank_symbol (by omega)
      · exact pad
  | case3 first second =>
      have firstBound := first.toNat_lt
      have secondBound := second.toNat_lt
      simp only [encodeBytes, List.mem_cons, List.not_mem_nil, or_false] at member
      rcases member with rfl | rfl | rfl | rfl
      · exact isBlank_symbol (by omega)
      · exact isBlank_symbol (by omega)
      · exact isBlank_symbol (by omega)
      · exact pad
  | case4 first second third rest inductionHypothesis =>
      have firstBound := first.toNat_lt
      have secondBound := second.toNat_lt
      have thirdBound := third.toNat_lt
      simp only [encodeBytes, List.mem_cons] at member
      rcases member with rfl | rfl | rfl | rfl | later
      · exact isBlank_symbol (by omega)
      · exact isBlank_symbol (by omega)
      · exact isBlank_symbol (by omega)
      · exact isBlank_symbol (by omega)
      · exact inductionHypothesis later

/-- Nothing is trimmed from bytes in base 64, and the bytes are read back. -/
theorem decode?_encode (bytes : List UInt8) :
    decode? (Text.trimBlanks (encode bytes).toList) = some bytes := by
  have trimmed : Text.Trimmed (encodeBytes bytes) :=
    .of_forall fun _ => isBlank_of_mem_encodeBytes
  rw [encode, String.toList_ofList, trimmed.trimBlanks_eq, decode?_encodeBytes]

end Base64

namespace Sha256

/-- A digit of base 16 has no capital. -/
theorem toLower_hexDigit {value : Nat} (small : value < 16) :
    (Text.hexDigit value).toLower = Text.hexDigit value := by
  have all : ∀ value < 16, (Text.hexDigit value).toLower = Text.hexDigit value := by decide
  exact all value small

/-- A digest is written in lower case. -/
theorem map_toLower_digest (bytes : List UInt8) :
    (digest bytes).map Char.toLower = digest bytes := by
  have lower : ∀ word, (hexWord word).map Char.toLower = hexWord word := by
    intro word
    rw [hexWord, List.map_map]
    exact List.map_congr_left fun _ _ => toLower_hexDigit (Nat.mod_lt _ (by decide))
  apply String.toList_inj.mp
  rw [String.toList_map, digest, String.toList_ofList, List.map_flatMap]
  simp only [lower]

end Sha256

namespace Tape

/-- Every value below sixteen has a digit of base 16. -/
theorem isHexDigit_hexDigit {value : Nat} (small : value < 16) :
    isHexDigit (Text.hexDigit value) = true := by
  have all : ∀ value < 16, isHexDigit (Text.hexDigit value) = true := by decide
  exact all value small

/-- A digest looks like one. -/
theorem isDigest_digest (bytes : List UInt8) : isDigest (Sha256.digest bytes) = true := by
  have digits : ∀ word, (Sha256.hexWord word).all isHexDigit = true := by
    intro word
    simp [Sha256.hexWord, isHexDigit_hexDigit, Nat.mod_lt]
  have size : ∀ word, (Sha256.hexWord word).length = 8 := by simp [Sha256.hexWord]
  rw [isDigest, Sha256.digest, String.toList_ofList]
  simp [digits, size]

/-- The digest of bytes matches them. -/
theorem checksumMatches_digest (bytes : List UInt8) :
    checksumMatches (Sha256.digest bytes) bytes = true := by
  simp [checksumMatches, Sha256.map_toLower_digest]

end Tape

end TapeShell
