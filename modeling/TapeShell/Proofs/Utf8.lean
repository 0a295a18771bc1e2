/-
This file shows that text is read back from its UTF-8 bytes, and that a character is read from no
others.
-/

import TapeShell.Text.Utf8

namespace TapeShell

/-- A list is read back if each of its items is. -/
theorem mapM_map_eq_some {α β : Type} {write : α → β} {read? : β → Option α}
    (back : ∀ item, read? (write item) = some item) (items : List α) :
    (items.map write).mapM read? = some items := by
  induction items with
  | nil => rfl
  | cons item rest inductionHypothesis => simp [back, inductionHypothesis]

end TapeShell

namespace TapeShell.Text.Utf8

/-- A character is no surrogate. -/
theorem toNat_valid (character : Char) :
    character.toNat < 0xd800 ∨ 0xdfff < character.toNat ∧ character.toNat < 0x110000 :=
  character.valid

/-- A small character is one byte. -/
theorem encodeChar_ascii {character : Char} (small : character.toNat < 0x80) :
    String.utf8EncodeChar character = [UInt8.ofNat character.toNat] := by
  unfold String.utf8EncodeChar
  simp only [Char.toNat] at *
  rw [if_pos (by omega)]

/-- A character of eleven bits is two bytes. -/
theorem encodeChar_two {character : Char} (low : 0x80 ≤ character.toNat)
    (high : character.toNat < 0x800) :
    String.utf8EncodeChar character =
      [UInt8.ofNat (character.toNat / 64 + 0xc0), UInt8.ofNat (character.toNat % 64 + 0x80)] := by
  have lead : character.toNat / 64 % 32 = character.toNat / 64 := by omega
  unfold String.utf8EncodeChar
  simp only [Char.toNat] at *
  rw [if_neg (by omega), if_pos (by omega), lead]

/-- A character of sixteen bits is three bytes. -/
theorem encodeChar_three {character : Char} (low : 0x800 ≤ character.toNat)
    (high : character.toNat < 0x10000) :
    String.utf8EncodeChar character =
      [UInt8.ofNat (character.toNat / 4096 + 0xe0), UInt8.ofNat (character.toNat / 64 % 64 + 0x80),
        UInt8.ofNat (character.toNat % 64 + 0x80)] := by
  have lead : character.toNat / 4096 % 16 = character.toNat / 4096 := by omega
  unfold String.utf8EncodeChar
  simp only [Char.toNat] at *
  rw [if_neg (by omega), if_neg (by omega), if_pos (by omega), lead]

/-- Any other character is four bytes. -/
theorem encodeChar_four {character : Char} (low : 0x10000 ≤ character.toNat) :
    String.utf8EncodeChar character =
      [UInt8.ofNat (character.toNat / 262144 + 0xf0),
        UInt8.ofNat (character.toNat / 4096 % 64 + 0x80),
        UInt8.ofNat (character.toNat / 64 % 64 + 0x80),
        UInt8.ofNat (character.toNat % 64 + 0x80)] := by
  have valid := toNat_valid character
  have lead : character.toNat / 262144 % 8 = character.toNat / 262144 := by omega
  unfold String.utf8EncodeChar
  simp only [Char.toNat] at *
  rw [if_neg (by omega), if_neg (by omega), if_neg (by omega), lead]

/-- A small number is that of its byte. -/
theorem toNat_ofNat {number : Nat} (small : number < 256) : (UInt8.ofNat number).toNat = number :=
  UInt8.toNat_ofNat_of_lt' small

/-- Bytes are compared as numbers. -/
theorem ofNat_lt_iff {number : Nat} {bound : UInt8} (small : number < 256) :
    UInt8.ofNat number < bound ↔ number < bound.toNat := by
  rw [UInt8.lt_iff_toNat_lt, toNat_ofNat small]

/-- Bytes are equal as numbers. -/
theorem ofNat_eq_iff {number : Nat} {byte : UInt8} (small : number < 256) :
    UInt8.ofNat number = byte ↔ number = byte.toNat := by
  rw [← UInt8.toNat_inj, toNat_ofNat small]

/-- A byte that follows a lead adds six bits. -/
theorem readTail_following {count value bits : Nat} {low high : UInt8} (small : bits < 64)
    (above : low.toNat ≤ bits + 0x80) (below : bits + 0x80 ≤ high.toNat) (rest : List UInt8) :
    readTail (count + 1) low high value (UInt8.ofNat (bits + 0x80) :: rest) =
      readTail count 0x80 0xbf (value * 64 + bits) rest := by
  have byte : (UInt8.ofNat (bits + 0x80)).toNat = bits + 0x80 := toNat_ofNat (by omega)
  have fits : low ≤ UInt8.ofNat (bits + 0x80) ∧ UInt8.ofNat (bits + 0x80) ≤ high := by
    rw [UInt8.le_iff_toNat_le, UInt8.le_iff_toNat_le, byte]
    exact ⟨above, below⟩
  rw [readTail, if_pos fits, byte, Nat.add_sub_cancel]

/-- The first byte tells how many follow and within which bounds. -/
theorem ofByte?_ofNat {number : Nat} (small : number < 256) :
    Lead.ofByte? (UInt8.ofNat number) =
      if number < 0x80 then some ⟨0, 0x80, 0xbf, number⟩
      else if number < 0xc2 then none
      else if number < 0xe0 then some ⟨1, 0x80, 0xbf, number - 0xc0⟩
      else if number = 0xe0 then some ⟨2, 0xa0, 0xbf, 0⟩
      else if number = 0xed then some ⟨2, 0x80, 0x9f, 0xd⟩
      else if number < 0xf0 then some ⟨2, 0x80, 0xbf, number - 0xe0⟩
      else if number = 0xf0 then some ⟨3, 0x90, 0xbf, 0⟩
      else if number < 0xf4 then some ⟨3, 0x80, 0xbf, number - 0xf0⟩
      else if number = 0xf4 then some ⟨3, 0x80, 0x8f, 4⟩
      else none := by
  simp [Lead.ofByte?, ofNat_lt_iff small, ofNat_eq_iff small, toNat_ofNat small]

/-- The first byte of two is recognized. -/
theorem ofByte?_two {value : Nat} (low : 0x80 ≤ value) (high : value < 0x800) :
    Lead.ofByte? (UInt8.ofNat (value / 64 + 0xc0)) = some ⟨1, 0x80, 0xbf, value / 64⟩ := by
  rw [ofByte?_ofNat (by omega), if_neg (by omega), if_neg (by omega), if_pos (by omega),
    Nat.add_sub_cancel]

/-- The lead of three bytes leaves out short forms and surrogates. -/
theorem ofByte?_three {value : Nat} (low : 0x800 ≤ value) (high : value < 0x10000)
    (valid : value < 0xd800 ∨ 0xdfff < value) :
    ∃ least most : UInt8,
      Lead.ofByte? (UInt8.ofNat (value / 4096 + 0xe0)) = some ⟨2, least, most, value / 4096⟩ ∧
        least.toNat ≤ value / 64 % 64 + 0x80 ∧ value / 64 % 64 + 0x80 ≤ most.toNat := by
  rw [ofByte?_ofNat (by omega), if_neg (by omega), if_neg (by omega), if_neg (by omega)]
  by_cases first : value / 4096 = 0
  · refine ⟨0xa0, 0xbf, ?_, ?_, ?_⟩
    · rw [if_pos (by omega), first]
    · change 0xa0 ≤ _
      omega
    · change _ ≤ 0xbf
      omega
  · rw [if_neg (by omega)]
    by_cases surrogate : value / 4096 = 0xd
    · refine ⟨0x80, 0x9f, ?_, ?_, ?_⟩
      · rw [if_pos (by omega), surrogate]
      · change 0x80 ≤ _
        omega
      · change _ ≤ 0x9f
        omega
    · refine ⟨0x80, 0xbf, ?_, ?_, ?_⟩
      · rw [if_neg (by omega), if_pos (by omega), Nat.add_sub_cancel]
      · change 0x80 ≤ _
        omega
      · change _ ≤ 0xbf
        omega

/-- The lead of four bytes leaves out short forms and what lies beyond the last character. -/
theorem ofByte?_four {value : Nat} (low : 0x10000 ≤ value) (high : value < 0x110000) :
    ∃ least most : UInt8,
      Lead.ofByte? (UInt8.ofNat (value / 262144 + 0xf0)) = some ⟨3, least, most, value / 262144⟩ ∧
        least.toNat ≤ value / 4096 % 64 + 0x80 ∧ value / 4096 % 64 + 0x80 ≤ most.toNat := by
  rw [ofByte?_ofNat (by omega), if_neg (by omega), if_neg (by omega), if_neg (by omega),
    if_neg (by omega), if_neg (by omega), if_neg (by omega)]
  by_cases first : value / 262144 = 0
  · refine ⟨0x90, 0xbf, ?_, ?_, ?_⟩
    · rw [if_pos (by omega), first]
    · change 0x90 ≤ _
      omega
    · change _ ≤ 0xbf
      omega
  · rw [if_neg (by omega)]
    by_cases last : value / 262144 = 4
    · refine ⟨0x80, 0x8f, ?_, ?_, ?_⟩
      · rw [if_neg (by omega), if_pos (by omega), last]
      · change 0x80 ≤ _
        omega
      · change _ ≤ 0x8f
        omega
    · refine ⟨0x80, 0xbf, ?_, ?_, ?_⟩
      · rw [if_pos (by omega), Nat.add_sub_cancel]
      · change 0x80 ≤ _
        omega
      · change _ ≤ 0xbf
        omega

/-- A character is read back from its bytes, whatever follows them. -/
theorem characters_encodeChar (character : Char) (rest : List UInt8) :
    characters (String.utf8EncodeChar character ++ rest) = some character :: characters rest := by
  have valid := toNat_valid character
  have back : Char.ofNat character.toNat = character := Char.ofNat_toNat character
  by_cases one : character.toNat < 0x80
  · rw [encodeChar_ascii one, List.singleton_append, characters, readCharacter,
      ofByte?_ofNat (by omega), if_pos one]
    simp only [readTail, back]
  · by_cases two : character.toNat < 0x800
    · have whole : character.toNat / 64 * 64 + character.toNat % 64 = character.toNat := by omega
      rw [encodeChar_two (by omega) two, List.cons_append, List.singleton_append, characters,
        readCharacter, ofByte?_two (by omega) two]
      simp only
      rw [readTail_following (by omega) (by simp) (by simp; omega), whole, readTail, back]
    · by_cases three : character.toNat < 0x10000
      · obtain ⟨least, most, lead, above, below⟩ :=
          ofByte?_three (by omega) three (valid.imp_right And.left)
        have whole : (character.toNat / 4096 * 64 + character.toNat / 64 % 64) * 64 +
            character.toNat % 64 = character.toNat := by omega
        rw [encodeChar_three (by omega) three, List.cons_append, List.cons_append,
          List.singleton_append, characters, readCharacter, lead]
        simp only
        rw [readTail_following (by omega) above below,
          readTail_following (by omega) (by simp) (by simp; omega), whole, readTail, back]
      · have low : 0x10000 ≤ character.toNat := by omega
        obtain ⟨least, most, lead, above, below⟩ := ofByte?_four low (by omega)
        have whole : ((character.toNat / 262144 * 64 + character.toNat / 4096 % 64) * 64 +
            character.toNat / 64 % 64) * 64 + character.toNat % 64 = character.toNat := by omega
        rw [encodeChar_four (by omega), List.cons_append, List.cons_append, List.cons_append,
          List.singleton_append, characters, readCharacter, lead]
        simp only
        rw [readTail_following (by omega) above below,
          readTail_following (by omega) (by simp) (by simp; omega),
          readTail_following (by omega) (by simp) (by simp; omega), whole, readTail, back]

/-- Text is read back from its bytes, whatever follows them. -/
theorem characters_append (text : List Char) (rest : List UInt8) :
    characters (text.flatMap String.utf8EncodeChar ++ rest) =
      text.map some ++ characters rest := by
  induction text with
  | nil => rfl
  | cons character text inductionHypothesis =>
      rw [List.flatMap_cons, List.append_assoc, characters_encodeChar, inductionHypothesis,
        List.map_cons, List.cons_append]

/-- Encoded characters are read one by one. -/
theorem characters_flatMap (text : List Char) :
    characters (text.flatMap String.utf8EncodeChar) = text.map some := by
  have whole := characters_append text []
  rwa [characters, List.append_nil, List.append_nil] at whole

/-- Text is read back from its bytes. -/
theorem decode?_encode (text : String) : decode? (encode text) = some text := by
  have back : ∀ character : Char, id (some character) = some character := fun _ => rfl
  have whole : (text.toList.map some).mapM id = some text.toList :=
    mapM_map_eq_some back text.toList
  rw [decode?, encode, characters_flatMap, whole, Option.map_some, String.ofList_toList]

/-- Bytes of text need no replacement. -/
theorem decodeLossy_encode (text : String) : decodeLossy (encode text) = text := by
  rw [decodeLossy, encode, characters_flatMap]
  simp [Function.comp_def]

/-- A large character has no small byte. -/
theorem high_of_mem_encodeChar {character : Char} (high : 0x80 ≤ character.toNat) {byte : UInt8}
    (member : byte ∈ String.utf8EncodeChar character) : 0x80 ≤ byte.toNat := by
  have valid := toNat_valid character
  by_cases two : character.toNat < 0x800
  · rw [encodeChar_two high two] at member
    simp only [List.mem_cons, List.not_mem_nil, or_false] at member
    rcases member with rfl | rfl <;> rw [toNat_ofNat (by omega)] <;> omega
  · by_cases three : character.toNat < 0x10000
    · rw [encodeChar_three (by omega) three] at member
      simp only [List.mem_cons, List.not_mem_nil, or_false] at member
      rcases member with rfl | rfl | rfl <;> rw [toNat_ofNat (by omega)] <;> omega
    · rw [encodeChar_four (by omega)] at member
      simp only [List.mem_cons, List.not_mem_nil, or_false] at member
      rcases member with rfl | rfl | rfl | rfl <;> rw [toNat_ofNat (by omega)] <;> omega

/-- A valid code is that of its character. -/
theorem toNat_char {code : Nat} (valid : code.isValidChar) : (Char.ofNat code).toNat = code := by
  rw [Char.ofNat, dif_pos valid]
  rfl

section Inverse

variable {first second third fourth : Nat}

/-- Two bytes in order are those of their character. -/
theorem encodeChar_of_two (low : 0xc2 ≤ first) (high : first < 0xe0) (above : 0x80 ≤ second)
    (below : second ≤ 0xbf) :
    String.utf8EncodeChar (Char.ofNat ((first - 0xc0) * 64 + (second - 0x80))) =
      [UInt8.ofNat first, UInt8.ofNat second] := by
  generalize found : (first - 0xc0) * 64 + (second - 0x80) = code
  have valid : code.isValidChar := .inl (by omega)
  have lead : code / 64 + 0xc0 = first := by omega
  have last : code % 64 + 0x80 = second := by omega
  rw [encodeChar_two (by rw [toNat_char valid]; omega) (by rw [toNat_char valid]; omega),
    toNat_char valid, lead, last]

/-- Three bytes in order are those of their character. -/
theorem encodeChar_of_three (low : 0xe0 ≤ first) (high : first < 0xf0) (above : 0x80 ≤ second)
    (below : second ≤ 0xbf) (long : first = 0xe0 → 0xa0 ≤ second)
    (scalar : first = 0xed → second ≤ 0x9f) (thirdAbove : 0x80 ≤ third)
    (thirdBelow : third ≤ 0xbf) :
    String.utf8EncodeChar
        (Char.ofNat (((first - 0xe0) * 64 + (second - 0x80)) * 64 + (third - 0x80))) =
      [UInt8.ofNat first, UInt8.ofNat second, UInt8.ofNat third] := by
  generalize found : ((first - 0xe0) * 64 + (second - 0x80)) * 64 + (third - 0x80) = code
  have valid : code < 0xd800 ∨ 0xdfff < code ∧ code < 0x110000 := by omega
  have lead : code / 4096 + 0xe0 = first := by omega
  have middle : code / 64 % 64 + 0x80 = second := by omega
  have last : code % 64 + 0x80 = third := by omega
  rw [encodeChar_three (by rw [toNat_char valid]; omega) (by rw [toNat_char valid]; omega),
    toNat_char valid, lead, middle, last]

/-- Four bytes in order are those of their character. -/
theorem encodeChar_of_four (low : 0xf0 ≤ first) (high : first ≤ 0xf4) (above : 0x80 ≤ second)
    (below : second ≤ 0xbf) (long : first = 0xf0 → 0x90 ≤ second)
    (inside : first = 0xf4 → second ≤ 0x8f) (thirdAbove : 0x80 ≤ third) (thirdBelow : third ≤ 0xbf)
    (fourthAbove : 0x80 ≤ fourth) (fourthBelow : fourth ≤ 0xbf) :
    String.utf8EncodeChar (Char.ofNat ((((first - 0xf0) * 64 + (second - 0x80)) * 64 +
        (third - 0x80)) * 64 + (fourth - 0x80))) =
      [UInt8.ofNat first, UInt8.ofNat second, UInt8.ofNat third, UInt8.ofNat fourth] := by
  generalize found : (((first - 0xf0) * 64 + (second - 0x80)) * 64 + (third - 0x80)) * 64 +
    (fourth - 0x80) = code
  have valid : code < 0xd800 ∨ 0xdfff < code ∧ code < 0x110000 := by omega
  have lead : code / 262144 + 0xf0 = first := by omega
  have middle : code / 4096 % 64 + 0x80 = second := by omega
  have next : code / 64 % 64 + 0x80 = third := by omega
  have last : code % 64 + 0x80 = fourth := by omega
  rw [encodeChar_four (by rw [toNat_char valid]; omega), toNat_char valid, lead, middle, next, last]

end Inverse

section Reading

variable {bytes remaining : List UInt8} {character : Char}

/-- A byte that was accepted behind a lead stands there and lies within its bounds. -/
theorem readTail_eq_some {count value : Nat} {low high : UInt8}
    (read : readTail (count + 1) low high value bytes = (some character, remaining)) :
    ∃ number rest, bytes = UInt8.ofNat number :: rest ∧ low.toNat ≤ number ∧
      number ≤ high.toNat ∧
      readTail count 0x80 0xbf (value * 64 + (number - 0x80)) rest =
        (some character, remaining) := by
  cases bytes with
  | nil => cases read
  | cons byte rest =>
      rw [readTail] at read
      split at read
      next fits =>
        refine ⟨byte.toNat, rest, by rw [UInt8.ofNat_toNat], ?_, ?_, read⟩
        · exact UInt8.le_iff_toNat_le.mp fits.1
        · exact UInt8.le_iff_toNat_le.mp fits.2
      next => cases read

/-- Where no byte is to follow, the character is complete. -/
theorem of_readTail_zero {value : Nat} {low high : UInt8}
    (read : readTail 0 low high value bytes = (some character, remaining)) :
    Char.ofNat value = character ∧ bytes = remaining := by
  rwa [readTail, Prod.mk.injEq, Option.some.injEq] at read

/-- A lead byte says how many bytes follow, and which second byte fits. -/
theorem ofByte?_eq_some {first : Nat} (small : first < 256) {lead : Lead}
    (found : Lead.ofByte? (UInt8.ofNat first) = some lead) :
    first < 0x80 ∧ lead.following = 0 ∧ lead.value = first ∨
    (0x80 ≤ lead.low.toNat ∧ lead.high.toNat ≤ 0xbf) ∧
      (0xc2 ≤ first ∧ first < 0xe0 ∧ lead.following = 1 ∧ lead.value = first - 0xc0 ∨
        0xe0 ≤ first ∧ first < 0xf0 ∧ lead.following = 2 ∧ lead.value = first - 0xe0 ∧
          (first = 0xe0 → 0xa0 ≤ lead.low.toNat) ∧ (first = 0xed → lead.high.toNat ≤ 0x9f) ∨
        0xf0 ≤ first ∧ first ≤ 0xf4 ∧ lead.following = 3 ∧ lead.value = first - 0xf0 ∧
          (first = 0xf0 → 0x90 ≤ lead.low.toNat) ∧ (first = 0xf4 → lead.high.toNat ≤ 0x8f)) := by
  rw [ofByte?_ofNat small] at found
  repeat' split at found
  all_goals simp only [Option.some.injEq, reduceCtorEq] at found
  all_goals subst found
  all_goals simp
  all_goals omega

/-- A character that was read stands there in its own bytes. -/
theorem eq_append_of_readCharacter {byte : UInt8}
    (read : readCharacter byte bytes = (some character, remaining)) :
    byte :: bytes = String.utf8EncodeChar character ++ remaining := by
  obtain ⟨first, small, rfl⟩ : ∃ first, first < 256 ∧ UInt8.ofNat first = byte :=
    ⟨byte.toNat, UInt8.toNat_lt byte, UInt8.ofNat_toNat⟩
  unfold readCharacter at read
  cases found : Lead.ofByte? (UInt8.ofNat first) with
  | none =>
      rw [found] at read
      cases read
  | some lead =>
      simp only [found] at read
      have bounds := ofByte?_eq_some small found
      rcases bounds with ⟨ascii, none, value⟩ | ⟨⟨above, below⟩, ⟨least, most, one, value⟩ |
        ⟨least, most, two, value, long, scalar⟩ | ⟨least, most, three, value, long, inside⟩⟩
      · rw [none, value] at read
        obtain ⟨same, left⟩ := of_readTail_zero read
        have code : (Char.ofNat first).toNat = first := toNat_char (.inl (by omega))
        rw [← same, ← left, encodeChar_ascii (by rwa [code]), code]
        rfl
      · rw [one, value] at read
        obtain ⟨second, rest, rfl, secondAbove, secondBelow, read⟩ := readTail_eq_some read
        obtain ⟨same, left⟩ := of_readTail_zero read
        rw [← same, ← left, encodeChar_of_two least most (by omega) (by omega)]
        rfl
      · rw [two, value] at read
        obtain ⟨second, rest, rfl, secondAbove, secondBelow, read⟩ := readTail_eq_some read
        obtain ⟨third, rest, rfl, thirdAbove, thirdBelow, read⟩ := readTail_eq_some read
        obtain ⟨same, left⟩ := of_readTail_zero read
        rw [← same, ← left, encodeChar_of_three least most (by omega) (by omega) (by omega)
          (by omega) thirdAbove thirdBelow]
        rfl
      · rw [three, value] at read
        obtain ⟨second, rest, rfl, secondAbove, secondBelow, read⟩ := readTail_eq_some read
        obtain ⟨third, rest, rfl, thirdAbove, thirdBelow, read⟩ := readTail_eq_some read
        obtain ⟨fourth, rest, rfl, fourthAbove, fourthBelow, read⟩ := readTail_eq_some read
        obtain ⟨same, left⟩ := of_readTail_zero read
        rw [← same, ← left, encodeChar_of_four least most (by omega) (by omega) (by omega)
          (by omega) thirdAbove thirdBelow fourthAbove fourthBelow]
        rfl

/-- A character that stands at the start of the bytes is read. -/
theorem readCharacter_of_append {byte : UInt8}
    (whole : byte :: bytes = String.utf8EncodeChar character ++ remaining) :
    readCharacter byte bytes = (some character, remaining) := by
  have first : (characters (byte :: bytes)).head? = some (some character) := by
    rw [whole, characters_encodeChar, List.head?_cons]
  rw [characters, List.head?_cons, Option.some.injEq] at first
  have stands := eq_append_of_readCharacter (Prod.ext first rfl)
  rw [whole, List.append_cancel_left_eq] at stands
  exact Prod.ext first stands.symm

end Reading

end TapeShell.Text.Utf8
