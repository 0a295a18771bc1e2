/-
This file says how the symbols of JSON are spelled, and shows that they are scanned back.
-/

import TapeShell.Json.Reader
import TapeShell.Proofs.Decimal
import TapeShell.Proofs.Utf8

namespace TapeShell.Json

/-- These characters may stand behind a number or a word. -/
def Delimits (character : Char) : Prop :=
  character = ',' ∨ character = ']' ∨ character = '\x7d' ∨ character = '\n'

/-- The text is empty or starts with a character that delimits. -/
def Delimited (text : List Char) : Prop :=
  ∀ character ∈ text.head?, Delimits character

theorem delimited_nil : Delimited [] := nofun

/-- A character that delimits makes the text delimited. -/
theorem delimited_cons {character : Char} (delimits : Delimits character) (rest : List Char) :
    Delimited (character :: rest) := by
  intro first member
  cases member
  exact delimits

/-- The text is made of these symbols, with space that delimits them. -/
inductive Spelled : List Char → List Symbol → Prop where
  | nil : Spelled [] []
  | space {text : List Char} {symbols : List Symbol} (spelled : Spelled text symbols) :
      Spelled (' ' :: text) symbols
  | newline {text : List Char} {symbols : List Symbol} (spelled : Spelled text symbols) :
      Spelled ('\n' :: text) symbols
  | openBracket {text : List Char} {symbols : List Symbol} (spelled : Spelled text symbols) :
      Spelled ('[' :: text) (.openBracket :: symbols)
  | closeBracket {text : List Char} {symbols : List Symbol} (spelled : Spelled text symbols) :
      Spelled (']' :: text) (.closeBracket :: symbols)
  | openBrace {text : List Char} {symbols : List Symbol} (spelled : Spelled text symbols) :
      Spelled ('\x7b' :: text) (.openBrace :: symbols)
  | closeBrace {text : List Char} {symbols : List Symbol} (spelled : Spelled text symbols) :
      Spelled ('\x7d' :: text) (.closeBrace :: symbols)
  | comma {text : List Char} {symbols : List Symbol} (spelled : Spelled text symbols) :
      Spelled (',' :: text) (.comma :: symbols)
  | colon {text : List Char} {symbols : List Symbol} (spelled : Spelled text symbols) :
      Spelled (':' :: text) (.colon :: symbols)
  | string (value : String) {text : List Char} {symbols : List Symbol}
      (spelled : Spelled text symbols) :
      Spelled (stringText (some value) ++ text) (.scalar (.string (some value)) :: symbols)
  | number (value : Nat) {text : List Char} {symbols : List Symbol} (delimited : Delimited text)
      (spelled : Spelled text symbols) :
      Spelled (Text.Decimal.digits value ++ text)
        (.scalar (.number (Text.Decimal.digits value)) :: symbols)
  | null {text : List Char} {symbols : List Symbol} (delimited : Delimited text)
      (spelled : Spelled text symbols) :
      Spelled (scalarText .null ++ text) (.scalar .null :: symbols)
  | boolean (value : Bool) {text : List Char} {symbols : List Symbol} (delimited : Delimited text)
      (spelled : Spelled text symbols) :
      Spelled (scalarText (.boolean value) ++ text) (.scalar (.boolean value) :: symbols)

namespace Scanner

/-- A byte and its character have the same number. -/
theorem toNat_character (byte : UInt8) : (character byte).toNat = byte.toNat := by
  have small : byte.toNat < 256 := byte.toNat_lt
  have valid : byte.toNat.isValidChar := .inl (by omega)
  rw [character, Char.ofNat, dif_pos valid]
  rfl

/-- A basic character is that of its byte. -/
theorem character_ofNat {letter : Char} (ascii : letter.toNat < 0x80) :
    character (UInt8.ofNat letter.toNat) = letter := by
  rw [character, Text.Utf8.toNat_ofNat (by omega), Char.ofNat_toNat]

/-- These are the bytes of a text. -/
def bytesOf (text : List Char) : List UInt8 :=
  text.flatMap String.utf8EncodeChar

@[simp]
theorem bytesOf_nil : bytesOf [] = [] := rfl

@[simp]
theorem bytesOf_cons (letter : Char) (text : List Char) :
    bytesOf (letter :: text) = String.utf8EncodeChar letter ++ bytesOf text := rfl

@[simp]
theorem bytesOf_append (first second : List Char) :
    bytesOf (first ++ second) = bytesOf first ++ bytesOf second :=
  List.flatMap_append ..

/-- A basic character is one byte. -/
theorem bytesOf_ascii {letter : Char} (ascii : letter.toNat < 0x80) (text : List Char) :
    bytesOf (letter :: text) = UInt8.ofNat letter.toNat :: bytesOf text := by
  rw [bytesOf_cons, Text.Utf8.encodeChar_ascii ascii, List.singleton_append]

/-- One byte is one step. -/
theorem scan_cons (mode : Mode) (byte : UInt8) (rest : List UInt8) {symbols : List Symbol}
    {next : Mode} (stepped : step mode byte = some (symbols, next)) :
    scan mode (byte :: rest) = (scan next rest).map (symbols ++ ·) := by
  rw [scan, stepped]

/-- A step without a symbol only changes the mode. -/
theorem scan_silent {mode next : Mode} {byte : UInt8} (stepped : step mode byte = some ([], next))
    (rest : List UInt8) : scan mode (byte :: rest) = scan next rest := by
  rw [scan_cons mode byte rest stepped]
  simp

section Strings

/-- Whatever follows these pieces, they stand for these bytes. -/
def Carries (pieces : List Piece) (bytes : List UInt8) : Prop :=
  ∀ more, pieceBytes (pieces ++ more) = (pieceBytes more).map (bytes ++ ·)

/-- No pieces carry no bytes. -/
theorem carries_nil : Carries [] [] := by
  intro more
  simp

/-- Pieces side by side carry their bytes side by side. -/
theorem Carries.append {left right : List Piece} {leftBytes rightBytes : List UInt8}
    (carriesLeft : Carries left leftBytes) (carriesRight : Carries right rightBytes) :
    Carries (left ++ right) (leftBytes ++ rightBytes) := by
  intro more
  rw [List.append_assoc, carriesLeft, carriesRight, Option.map_map]
  simp [Function.comp_def]

/-- Bytes carry themselves. -/
theorem carries_bytes (bytes : List UInt8) : Carries (bytes.map .byte) bytes := by
  induction bytes with
  | nil => exact carries_nil
  | cons byte rest inductionHypothesis =>
      intro more
      rw [List.map_cons, List.cons_append, pieceBytes, inductionHypothesis, Option.map_map]
      rfl

/-- An escape of a low number is no surrogate, so what follows it does not matter. -/
theorem carries_unit {value : Nat} (low : value < 0xd800) :
    Carries [.unit value] (String.utf8EncodeChar (Char.ofNat value)) := by
  have noSurrogate : ¬ (0xd800 ≤ value ∧ value < 0xe000) := by omega
  intro more
  rw [List.singleton_append]
  cases more with
  | nil => simp [pieceBytes, noSurrogate]
  | cons piece rest =>
      cases piece with
      | byte second => simp [pieceBytes, noSurrogate]
      | unit second => rw [pieceBytes, if_neg (by omega), if_neg noSurrogate]

/-- These bytes stand for themselves between quotes. -/
def IsRaw (byte : UInt8) : Prop :=
  0x20 ≤ byte.toNat ∧ byte.toNat ≠ 0x22 ∧ byte.toNat ≠ 0x5c

/-- A raw byte belongs to the string. -/
theorem step_raw {byte : UInt8} (raw : IsRaw byte) (read : List Piece) :
    step (.string read) byte = some ([], .string (.byte byte :: read)) := by
  obtain ⟨printable, noQuote, noBackslash⟩ := raw
  have quote : character byte ≠ '"' := by
    intro same
    have number := toNat_character byte
    rw [same] at number
    exact noQuote number.symm
  have backslash : character byte ≠ '\\' := by
    intro same
    have number := toNat_character byte
    rw [same] at number
    exact noBackslash number.symm
  have high : ¬ byte < 0x20 := by
    rw [UInt8.lt_iff_toNat_lt]
    exact Nat.not_lt.mpr printable
  rw [step, if_neg quote, if_neg backslash, if_neg high]

/-- Raw bytes belong to the string. -/
theorem scan_raw {bytes : List UInt8} (raw : ∀ byte ∈ bytes, IsRaw byte) (read : List Piece)
    (rest : List UInt8) :
    scan (.string read) (bytes ++ rest) =
      scan (.string ((bytes.map .byte).reverse ++ read)) rest := by
  induction bytes generalizing read with
  | nil => rfl
  | cons byte bytes inductionHypothesis =>
      obtain ⟨first, others⟩ := List.forall_mem_cons.mp raw
      rw [List.cons_append, scan_silent (step_raw first read), inductionHypothesis others]
      simp

/-- A character that needs no escape is written in raw bytes. -/
theorem isRaw_of_mem_encodeChar {letter : Char} (printable : ¬ letter.toNat < 0x20)
    (noQuote : letter ≠ '"') (noBackslash : letter ≠ '\\') {byte : UInt8}
    (member : byte ∈ String.utf8EncodeChar letter) : IsRaw byte := by
  by_cases ascii : letter.toNat < 0x80
  · rw [Text.Utf8.encodeChar_ascii ascii, List.mem_singleton] at member
    have same : byte.toNat = letter.toNat := by rw [member, Text.Utf8.toNat_ofNat (by omega)]
    rw [IsRaw, same]
    refine ⟨Nat.not_lt.mp printable, fun quote => noQuote ?_, fun backslash => noBackslash ?_⟩
    · exact Char.toNat_inj.mp quote
    · exact Char.toNat_inj.mp backslash
  · have high := Text.Utf8.high_of_mem_encodeChar (Nat.not_lt.mp ascii) member
    exact ⟨by omega, by omega, by omega⟩

/-- A backslash and one letter stand for one byte. -/
theorem scan_short {letter : Char} {byte : UInt8} (ascii : letter.toNat < 0x80)
    (found : escaped? letter = some byte) (read : List Piece) (rest : List UInt8) :
    scan (.string read) (bytesOf ['\\', letter] ++ rest) =
      scan (.string (.byte byte :: read)) rest := by
  have backslash : step (.string read) 0x5c = some ([], .escape read) := rfl
  have noUnit : letter ≠ 'u' := by
    rintro rfl
    cases found
  have short : step (.escape read) (UInt8.ofNat letter.toNat) =
      some ([], .string (.byte byte :: read)) := by
    rw [step, character_ofNat ascii, if_neg noUnit, found]
    rfl
  have split : bytesOf ['\\', letter] ++ rest = 0x5c :: UInt8.ofNat letter.toNat :: rest := by
    rw [bytesOf_ascii (by decide), bytesOf_ascii ascii]
    rfl
  rw [split, scan_silent backslash, scan_silent short]

/-- A digit of base 16 is read as its value. -/
theorem hexValue?_hexDigit {value : Nat} (small : value < 16) :
    hexValue? (Text.hexDigit value) = some value := by
  have all : ∀ value < 16, hexValue? (Text.hexDigit value) = some value := by decide
  exact all value small

/-- A digit of base 16 is a basic character. -/
theorem hexDigit_ascii {value : Nat} (small : value < 16) : (Text.hexDigit value).toNat < 0x80 := by
  have all : ∀ value < 16, (Text.hexDigit value).toNat < 0x80 := by decide
  exact all value small

/-- A control character is written with two digits that count. -/
theorem scan_control {value : Nat} (small : value < 0x100) (read : List Piece)
    (rest : List UInt8) :
    scan (.string read) (bytesOf ['\\', 'u', '0', '0', Text.hexDigit (value / 16),
        Text.hexDigit (value % 16)] ++ rest) =
      scan (.string (.unit value :: read)) rest := by
  have high : value / 16 < 16 := by omega
  have low : value % 16 < 16 := by omega
  have whole : value / 16 * 16 + value % 16 = value := by omega
  have first : step (.string read) 0x5c = some ([], .escape read) := rfl
  have second : step (.escape read) 0x75 = some ([], .unit read 3 0) := rfl
  have third : step (.unit read 3 0) 0x30 = some ([], .unit read 2 0) := rfl
  have fourth : step (.unit read 2 0) 0x30 = some ([], .unit read 1 0) := rfl
  have fifth : step (.unit read 1 0) (UInt8.ofNat (Text.hexDigit (value / 16)).toNat) =
      some ([], .unit read 0 (value / 16)) := by
    rw [step, character_ofNat (hexDigit_ascii high), hexValue?_hexDigit high]
    simp
  have sixth : step (.unit read 0 (value / 16)) (UInt8.ofNat (Text.hexDigit (value % 16)).toNat) =
      some ([], .string (.unit value :: read)) := by
    rw [step, character_ofNat (hexDigit_ascii low), hexValue?_hexDigit low]
    simp [whole]
  have split : bytesOf ['\\', 'u', '0', '0', Text.hexDigit (value / 16),
        Text.hexDigit (value % 16)] ++ rest =
      0x5c :: 0x75 :: 0x30 :: 0x30 :: UInt8.ofNat (Text.hexDigit (value / 16)).toNat ::
        UInt8.ofNat (Text.hexDigit (value % 16)).toNat :: rest := by
    rw [bytesOf_ascii (by decide), bytesOf_ascii (by decide), bytesOf_ascii (by decide),
      bytesOf_ascii (by decide), bytesOf_ascii (hexDigit_ascii high),
      bytesOf_ascii (hexDigit_ascii low)]
    rfl
  rw [split, scan_silent first, scan_silent second, scan_silent third, scan_silent fourth,
    scan_silent fifth, scan_silent sixth]

/-- The escape of a character is read as pieces that stand for the character. -/
theorem scan_escape (letter : Char) :
    ∃ pieces, Carries pieces (String.utf8EncodeChar letter) ∧ ∀ read rest,
      scan (.string read) (bytesOf (escape letter) ++ rest) =
        scan (.string (pieces.reverse ++ read)) rest := by
  unfold escape
  split
  next quote =>
    subst quote
    exact ⟨[.byte 0x22], carries_bytes [0x22], scan_short (by decide) rfl⟩
  next noQuote =>
    split
    next backslash =>
      subst backslash
      exact ⟨[.byte 0x5c], carries_bytes [0x5c], scan_short (by decide) rfl⟩
    next noBackslash =>
      split
      next same =>
        subst same
        exact ⟨[.byte 0x08], carries_bytes [0x08], scan_short (by decide) rfl⟩
      split
      next same =>
        subst same
        exact ⟨[.byte 0x0c], carries_bytes [0x0c], scan_short (by decide) rfl⟩
      split
      next same =>
        subst same
        exact ⟨[.byte 0x0a], carries_bytes [0x0a], scan_short (by decide) rfl⟩
      split
      next same =>
        subst same
        exact ⟨[.byte 0x0d], carries_bytes [0x0d], scan_short (by decide) rfl⟩
      split
      next same =>
        subst same
        exact ⟨[.byte 0x09], carries_bytes [0x09], scan_short (by decide) rfl⟩
      split
      next control =>
        have carries := carries_unit (show letter.toNat < 0xd800 by omega)
        rw [Char.ofNat_toNat] at carries
        exact ⟨[.unit letter.toNat], carries, scan_control (by omega)⟩
      next printable =>
        refine ⟨_, carries_bytes _, fun read rest => ?_⟩
        rw [bytesOf_cons, bytesOf_nil, List.append_nil]
        exact scan_raw (fun _ => isRaw_of_mem_encodeChar printable noQuote noBackslash) read rest

/-- An escaped text carries the bytes of the text. -/
theorem scan_escapes (text : List Char) :
    ∃ pieces, Carries pieces (bytesOf text) ∧ ∀ read rest,
      scan (.string read) (bytesOf (text.flatMap escape) ++ rest) =
        scan (.string (pieces.reverse ++ read)) rest := by
  induction text with
  | nil => exact ⟨[], carries_nil, fun _ _ => rfl⟩
  | cons letter text inductionHypothesis =>
      obtain ⟨first, carriesFirst, scanFirst⟩ := scan_escape letter
      obtain ⟨others, carriesOthers, scanOthers⟩ := inductionHypothesis
      refine ⟨first ++ others, carriesFirst.append carriesOthers, ?_⟩
      intro read rest
      rw [List.flatMap_cons, bytesOf_append, List.append_assoc, scanFirst, scanOthers]
      simp

/-- A string is one symbol. -/
theorem scan_string (value : String) (rest : List UInt8) :
    scan .between (bytesOf (stringText (some value)) ++ rest) =
      (scan .between rest).map (.scalar (.string (some value)) :: ·) := by
  obtain ⟨pieces, carries, scanned⟩ := scan_escapes value.toList
  have text : pieceText pieces = some value := by
    have bytes := carries []
    rw [List.append_nil] at bytes
    have back : Text.Utf8.decode? (bytesOf value.toList) = some value :=
      Text.Utf8.decode?_encode value
    rw [pieceText, bytes]
    simpa [pieceBytes] using back
  have opening : step .between 0x22 = some ([], .string []) := rfl
  have closing : step (.string pieces.reverse) 0x22 =
      some ([.scalar (.string (some value))], .between) := by
    rw [← text, ← pieces.reverse_reverse, List.reverse_reverse]
    rfl
  have split : bytesOf (stringText (some value)) ++ rest =
      0x22 :: (bytesOf (value.toList.flatMap escape) ++ 0x22 :: rest) := by
    rw [stringText, bytesOf_append]
    simp [bytesOf_ascii (show ('"' : Char).toNat < 0x80 by decide)]
  rw [split, scan_silent opening, scanned, List.append_nil, scan_cons _ _ _ closing]
  rfl

end Strings

section Words

/-- A delimiter ends what was read before it. -/
theorem scan_delimited {mode : Mode} {value : Json} (finished : finish mode = some [.scalar value])
    (ends : ∀ character, Delimits character →
      step mode (UInt8.ofNat character.toNat) =
        after (some value) (start (UInt8.ofNat character.toNat)))
    {text : List Char} (delimited : Delimited text) :
    scan mode (bytesOf text) = (scan .between (bytesOf text)).map (.scalar value :: ·) := by
  cases text with
  | nil =>
      rw [bytesOf_nil, scan, scan, finished]
      rfl
  | cons character rest =>
      have delimits : Delimits character := delimited character rfl
      have ascii : character.toNat < 0x80 := by
        rcases delimits with rfl | rfl | rfl | rfl <;> decide
      have stepped := ends character delimits
      rw [bytesOf_ascii ascii, scan, scan, stepped, step]
      cases start (UInt8.ofNat character.toNat) with
      | none => rfl
      | some result =>
          simp only [after, bind, Option.bind, pure, Option.map_map]
          rfl

/-- A mode that collects letters collects all of these. -/
theorem scan_letters {mode : List Char → Mode} {letters : List Char}
    (collects : ∀ letter ∈ letters, letter.toNat < 0x80 ∧ ∀ read,
      step (mode read) (UInt8.ofNat letter.toNat) = some ([], mode (letter :: read)))
    (read : List Char) (rest : List UInt8) :
    scan (mode read) (bytesOf letters ++ rest) = scan (mode (letters.reverse ++ read)) rest := by
  induction letters generalizing read with
  | nil => rfl
  | cons letter letters inductionHypothesis =>
      obtain ⟨⟨ascii, stepped⟩, others⟩ := List.forall_mem_cons.mp collects
      rw [bytesOf_ascii ascii, List.cons_append, scan_silent (stepped read),
        inductionHypothesis others]
      simp

/-- A digit starts a number. -/
theorem start_digit {digit : Char} (isDigit : digit.isDigit = true) :
    start (UInt8.ofNat digit.toNat) = some ([], .number [digit]) := by
  have bounds := Text.Decimal.bounds_of_isDigit isDigit
  have space : isSpace (UInt8.ofNat digit.toNat) = false := by
    simp [isSpace, Text.Utf8.ofNat_eq_iff (show digit.toNat < 256 by omega)]
    omega
  have differs {other : Char} (noDigit : other.isDigit = false) : digit ≠ other := by
    rintro rfl
    rw [isDigit] at noDigit
    cases noDigit
  rw [start, character_ofNat (by omega)]
  simp [space, isDigit, differs]

/-- A digit continues a number. -/
theorem step_digit {digit : Char} (isDigit : digit.isDigit = true) :
    digit.toNat < 0x80 ∧ ∀ read,
      step (.number read) (UInt8.ofNat digit.toNat) = some ([], .number (digit :: read)) := by
  have bounds := Text.Decimal.bounds_of_isDigit isDigit
  refine ⟨by omega, fun read => ?_⟩
  rw [step, isNumberByte, character_ofNat (by omega), isDigit]
  rfl

/-- Digits are a number. -/
theorem isNumber_digits (number : Nat) : isNumber (Text.Decimal.digits number) = true := by
  have digit := @Text.Decimal.isDigit_of_mem_digits number
  rcases Nat.eq_zero_or_pos number with rfl | positive
  · decide +kernel
  · have noZero := Text.Decimal.head?_digits_ne_zero positive
    cases text : Text.Decimal.digits number with
    | nil => exact absurd text (Text.Decimal.digits_ne_nil number)
    | cons first rest =>
        rw [text] at digit noZero
        have firstDigit : first.isDigit = true := digit List.mem_cons_self
        have dropped : rest.dropWhile Char.isDigit = [] := by
          rw [List.dropWhile_eq_nil_iff]
          exact fun other member => digit (List.mem_cons_of_mem first member)
        have noSign : afterMinus (first :: rest) = first :: rest := by
          apply afterMinus.eq_2
          rintro _ ⟨rfl, rfl⟩
          cases firstDigit
        have whole : afterWhole? (first :: rest) = some [] := by
          rw [afterWhole?.eq_2 _ (by simpa using noZero), afterDigits?, if_pos firstDigit, dropped]
        rw [isNumber, noSign, whole]
        rfl

/-- A number is one symbol before anything that delimits it. -/
theorem scan_number (value : Nat) {text : List Char} (delimited : Delimited text) :
    scan .between (bytesOf (Text.Decimal.digits value ++ text)) =
      (scan .between (bytesOf text)).map
        (.scalar (.number (Text.Decimal.digits value)) :: ·) := by
  have digit : ∀ character ∈ Text.Decimal.digits value, character.isDigit = true :=
    fun _ => Text.Decimal.isDigit_of_mem_digits
  have read : numberValue? (Text.Decimal.digits value) =
      some (.number (Text.Decimal.digits value)) := by
    rw [numberValue?, if_pos (isNumber_digits value)]
  cases digits : Text.Decimal.digits value with
  | nil => exact absurd digits (Text.Decimal.digits_ne_nil value)
  | cons first rest =>
      rw [digits] at digit read
      obtain ⟨firstDigit, others⟩ := List.forall_mem_cons.mp digit
      have opening : step .between (UInt8.ofNat first.toNat) = some ([], .number [first]) :=
        start_digit firstDigit
      have reversed : (rest.reverse ++ [first]).reverse = first :: rest := by simp
      rw [List.cons_append, bytesOf_ascii (step_digit firstDigit).1, bytesOf_append,
        scan_silent opening, scan_letters fun letter member => step_digit (others letter member)]
      refine scan_delimited ?_ ?_ delimited
      · rw [finish, reversed, read]
        rfl
      · intro character delimits
        have other : isNumberByte (UInt8.ofNat character.toNat) = false := by
          rcases delimits with rfl | rfl | rfl | rfl <;> decide
        rw [step, other, if_neg (by decide), reversed, read]

/-- A small letter continues a literal. -/
theorem step_lower {letter : Char} (lower : letter.isLower = true) :
    letter.toNat < 0x80 ∧ ∀ read,
      step (.literal read) (UInt8.ofNat letter.toNat) = some ([], .literal (letter :: read)) := by
  have bounds : 97 ≤ letter.toNat ∧ letter.toNat ≤ 122 := by
    change (decide (97 ≤ letter.val) && decide (letter.val ≤ 122)) = true at lower
    simpa [UInt32.le_iff_toNat_le] using lower
  refine ⟨by omega, fun read => ?_⟩
  rw [step, character_ofNat (by omega), if_pos lower]

/-- A word is spelled with small letters, and a delimiter ends it. -/
theorem scan_word {first : Char} {rest : List Char} {value : Json}
    (opening : step .between (UInt8.ofNat first.toNat) = some ([], .literal [first]))
    (lower : (first :: rest).all Char.isLower = true)
    (found : literalValue? (first :: rest) = some value) {text : List Char}
    (delimited : Delimited text) :
    scan .between (bytesOf (first :: rest ++ text)) =
      (scan .between (bytesOf text)).map (.scalar value :: ·) := by
  obtain ⟨firstLower, others⟩ := List.forall_mem_cons.mp (List.all_eq_true.mp lower)
  have reversed : (rest.reverse ++ [first]).reverse = first :: rest := by simp
  rw [List.cons_append, bytesOf_ascii (step_lower firstLower).1, bytesOf_append,
    scan_silent opening, scan_letters fun letter member => step_lower (others letter member)]
  refine scan_delimited ?_ ?_ delimited
  · rw [finish, reversed, found]
    rfl
  · intro character delimits
    have other : (Scanner.character (UInt8.ofNat character.toNat)).isLower = false := by
      rcases delimits with rfl | rfl | rfl | rfl <;> decide
    rw [step, other, if_neg (by decide), reversed, found]

end Words

/-- What is spelled is scanned. -/
theorem scan_spelled {text : List Char} {symbols : List Symbol} (spelled : Spelled text symbols) :
    scan .between (bytesOf text) = some symbols := by
  induction spelled with
  | nil => rfl
  | space _ inductionHypothesis
  | newline _ inductionHypothesis =>
      rw [bytesOf_ascii (by decide), scan_silent rfl, inductionHypothesis]
  | openBracket _ inductionHypothesis
  | closeBracket _ inductionHypothesis
  | openBrace _ inductionHypothesis
  | closeBrace _ inductionHypothesis
  | comma _ inductionHypothesis
  | colon _ inductionHypothesis =>
      rw [bytesOf_ascii (by decide), scan_cons _ _ _ rfl, inductionHypothesis]
      rfl
  | string value _ inductionHypothesis =>
      rw [bytesOf_append, scan_string, inductionHypothesis]
      rfl
  | number value delimited _ inductionHypothesis =>
      rw [scan_number value delimited, inductionHypothesis]
      rfl
  | null delimited _ inductionHypothesis =>
      rw [scalarText, scan_word rfl rfl rfl delimited, inductionHypothesis]
      rfl
  | boolean value delimited _ inductionHypothesis =>
      cases value with
      | false =>
          rw [scalarText, scan_word rfl rfl rfl delimited, inductionHypothesis]
          rfl
      | true =>
          rw [scalarText, scan_word rfl rfl rfl delimited, inductionHypothesis]
          rfl

end Scanner

end TapeShell.Json
