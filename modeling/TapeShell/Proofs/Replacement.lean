/-
This file says which parts of a file are replaced when it is read as text, and what that adds to the
number of its bytes.
-/

import TapeShell.Proofs.Append
import TapeShell.Proofs.Tally

namespace TapeShell

namespace Text.Utf8

/-- These bytes are the first ones of some character. -/
def Starts (bytes : List UInt8) : Prop :=
  ∃ character, bytes <+: String.utf8EncodeChar character

/-- The first byte is broken, with the bytes behind it that could belong to its character. -/
structure IsBroken (part rest : List UInt8) : Prop where
  nonempty : part ≠ []
  unread : ∀ character, ¬ String.utf8EncodeChar character <+: part ++ rest
  starts : 1 < part.length → Starts part
  longest : ∀ next ∈ rest.head?, ¬ Starts (part ++ [next])

/-- The bytes are characters and these broken parts. -/
inductive Divided : List UInt8 → List (List UInt8) → Prop where
  | done : Divided [] []
  | character (character : Char) {rest : List UInt8} {parts : List (List UInt8)}
      (behind : Divided rest parts) : Divided (String.utf8EncodeChar character ++ rest) parts
  | broken {part rest : List UInt8} {parts : List (List UInt8)} (isBroken : IsBroken part rest)
      (behind : Divided rest parts) : Divided (part ++ rest) (part :: parts)

section Reading

variable {count value : Nat} {low high byte : UInt8} {bytes rest remaining part : List UInt8}

/-- The front of a start is a start. -/
theorem Starts.front (starts : Starts bytes) (inFront : part <+: bytes) : Starts part := by
  obtain ⟨character, start⟩ := starts
  exact ⟨character, inFront.trans start⟩

/-- Bytes that are within their bounds complete a character. -/
theorem exists_readTail (count : Nat) {low high : UInt8} (inOrder : low ≤ high) (value : Nat) :
    ∃ bytes character, readTail count low high value bytes = (some character, []) := by
  induction count generalizing low high value with
  | zero => exact ⟨[], _, rfl⟩
  | succ count inductionHypothesis =>
      have usual : (0x80 : UInt8) ≤ 0xbf := by decide
      obtain ⟨bytes, character, read⟩ :=
        inductionHypothesis usual (value * 64 + (low.toNat - 0x80))
      refine ⟨low :: bytes, character, ?_⟩
      rw [readTail, if_pos ⟨UInt8.le_refl low, inOrder⟩, read]

/-- The bytes before a refused one are the start of a character. -/
theorem readTail_eq_none (inOrder : low ≤ high)
    (unread : readTail count low high value bytes = (none, remaining)) :
    ∃ taken, bytes = taken ++ remaining ∧
      (∃ more character, readTail count low high value (taken ++ more) = (some character, [])) ∧
      ∀ next ∈ remaining.head?, ∀ more,
        (readTail count low high value (taken ++ next :: more)).1 = none := by
  induction count generalizing low high value bytes with
  | zero => cases unread
  | succ count inductionHypothesis =>
      obtain ⟨completion, complete⟩ := exists_readTail (count + 1) inOrder value
      cases bytes with
      | nil =>
          cases unread
          exact ⟨[], rfl, ⟨completion, complete⟩, by simp⟩
      | cons byte rest =>
          rw [readTail] at unread
          split at unread
          next fits =>
            have usual : (0x80 : UInt8) ≤ 0xbf := by decide
            obtain ⟨taken, rfl, completes, fails⟩ := inductionHypothesis usual unread
            refine ⟨byte :: taken, rfl, ?_, fun next member more => ?_⟩
            · obtain ⟨more, character, read⟩ := completes
              exact ⟨more, character, by rw [List.cons_append, readTail, if_pos fits, read]⟩
            · rw [List.cons_append, readTail, if_pos fits]
              exact fails next member more
          next misfit =>
            cases unread
            refine ⟨[], rfl, ⟨completion, complete⟩, fun next member more => ?_⟩
            obtain rfl : byte = next := by simpa using member
            rw [List.nil_append, readTail, if_neg misfit]

/-- The bounds of a second byte are in order. -/
theorem inOrder_of_ofByte? {lead : Lead} (found : Lead.ofByte? byte = some lead) :
    lead.low ≤ lead.high := by
  unfold Lead.ofByte? at found
  repeat' split at found
  all_goals cases found
  all_goals dsimp only
  all_goals decide

/-- A byte that is refused whatever follows continues no start. -/
theorem not_starts_of_refused (taken : List UInt8) {next : UInt8}
    (refused : ∀ more, (readCharacter byte (taken ++ next :: more)).1 = none) :
    ¬ Starts (byte :: taken ++ [next]) := by
  rintro ⟨character, more, whole⟩
  have stands : byte :: (taken ++ next :: more) = String.utf8EncodeChar character ++ [] := by
    simp [← whole]
  have read := congrArg Prod.fst (readCharacter_of_append stands)
  rw [refused more] at read
  cases read

/-- What is passed over where no character is read is a broken part. -/
theorem isBroken_of_readCharacter (unread : readCharacter byte rest = (none, remaining)) :
    ∃ part, byte :: rest = part ++ remaining ∧ IsBroken part remaining := by
  have noCharacter : ∀ character, ¬ String.utf8EncodeChar character <+: byte :: rest := by
    rintro character ⟨more, whole⟩
    rw [readCharacter_of_append whole.symm] at unread
    cases unread
  unfold readCharacter at unread
  split at unread
  next noLead =>
    cases unread
    refine ⟨[byte], rfl, by simp, noCharacter, by simp, fun next _ => ?_⟩
    apply not_starts_of_refused []
    intro more
    simp only [readCharacter, noLead]
  next lead found =>
    obtain ⟨taken, rfl, ⟨more, character, read⟩, fails⟩ :=
      readTail_eq_none (inOrder_of_ofByte? found) unread
    refine ⟨byte :: taken, rfl, by simp, noCharacter, fun _ => ?_, fun next member => ?_⟩
    · have completed : readCharacter byte (taken ++ more) = (some character, []) := by
        simp only [readCharacter, found, read]
      exact ⟨character, more, by simpa using eq_append_of_readCharacter completed⟩
    · apply not_starts_of_refused taken
      intro more
      simp only [readCharacter, found]
      exact fails next member more

end Reading

section Broken

variable {bytes part rest other otherRest : List UInt8} {parts : List (List UInt8)}

/-- No broken part goes on with the byte behind it. -/
theorem IsBroken.not_longer {next : UInt8} {more : List UInt8} (broken : IsBroken part rest)
    (longer : IsBroken (part ++ next :: more) otherRest) : rest.head? ≠ some next := by
  intro follows
  have starts : Starts (part ++ next :: more) := by
    apply longer.starts
    have long := List.length_pos_iff.mpr broken.nonempty
    rw [List.length_append, List.length_cons]
    omega
  refine broken.longest next follows (starts.front ?_)
  exact (List.prefix_append_right_inj part).mpr ⟨more, rfl⟩

/-- Bytes start with one broken part at most. -/
theorem IsBroken.unique (broken : IsBroken part rest) (otherBroken : IsBroken other otherRest)
    (same : part ++ rest = other ++ otherRest) : part = other ∧ rest = otherRest := by
  rcases List.append_eq_append_iff.mp same with ⟨tail, rfl, rfl⟩ | ⟨tail, rfl, rfl⟩
  · cases tail with
    | nil => simp
    | cons next more => exact absurd rfl (broken.not_longer otherBroken)
  · cases tail with
    | nil => simp
    | cons next more => exact absurd rfl (otherBroken.not_longer broken)

/-- A broken part is replaced by one character. -/
theorem IsBroken.decodeLossy_append (broken : IsBroken part rest) :
    decodeLossy (part ++ rest) = "\ufffd" ++ decodeLossy rest := by
  obtain ⟨byte, tail, rfl⟩ := List.exists_cons_of_ne_nil broken.nonempty
  rw [List.cons_append, decodeLossy_cons]
  cases read : readCharacter byte (tail ++ rest) with
  | mk character remaining =>
      cases character with
      | some character =>
          have stands := eq_append_of_readCharacter read
          exact absurd ⟨remaining, stands.symm⟩ (broken.unread character)
      | none =>
          obtain ⟨other, whole, otherBroken⟩ := isBroken_of_readCharacter read
          obtain ⟨-, rfl⟩ := broken.unique otherBroken whole
          rfl

/-- A broken part is shorter than the longest character. -/
theorem IsBroken.length_le (broken : IsBroken part rest) : part.length ≤ 3 := by
  by_contra long
  obtain ⟨character, start⟩ := broken.starts (by omega)
  have most : (String.utf8EncodeChar character).length ≤ 4 := by
    rw [String.length_utf8EncodeChar]
    exact character.utf8Size_le_four
  have whole : part = String.utf8EncodeChar character :=
    start.eq_of_length (by have := start.length_le; omega)
  exact broken.unread character (whole ▸ List.prefix_append part rest)

/-- All bytes can be divided. -/
theorem exists_divided (bytes : List UInt8) : ∃ parts, Divided bytes parts := by
  induction bytes using characters.induct with
  | case1 => exact ⟨[], .done⟩
  | case2 byte rest shorter inductionHypothesis =>
      obtain ⟨parts, behind⟩ := inductionHypothesis
      cases read : readCharacter byte rest with
      | mk character remaining =>
          rw [read] at behind
          cases character with
          | some character =>
              rw [eq_append_of_readCharacter read]
              exact ⟨parts, .character character behind⟩
          | none =>
              obtain ⟨part, whole, broken⟩ := isBroken_of_readCharacter read
              rw [whole]
              exact ⟨part :: parts, .broken broken behind⟩

/-- Bytes that end within their first character are one broken part. -/
theorem divided_of_ended {byte : UInt8} (ended : readCharacter byte rest = (none, [])) :
    Divided (byte :: rest) [byte :: rest] := by
  obtain ⟨part, whole, broken⟩ := isBroken_of_readCharacter ended
  have divided := Divided.broken broken .done
  rw [List.append_nil] at whole divided
  rwa [whole]

/-- Text has no broken parts. -/
theorem divided_encode (text : String) : Divided (encode text) [] := by
  rw [encode]
  induction text.toList with
  | nil => exact .done
  | cons character rest inductionHypothesis =>
      rw [List.flatMap_cons]
      exact .character character inductionHypothesis

/-- Every broken part is written as three bytes, and everything else stays. -/
theorem Divided.length_encode (divided : Divided bytes parts) :
    (encode (decodeLossy bytes)).length + parts.flatten.length =
      bytes.length + 3 * parts.length := by
  induction divided with
  | done => simp [decodeLossy, characters, encode]
  | @character character rest parts behind inductionHypothesis =>
      rw [← encode_singleton, decodeLossy_encode_append, encode_append, List.length_append,
        List.length_append]
      omega
  | @broken part rest parts isBroken behind inductionHypothesis =>
      have replacement : (encode "\ufffd").length = 3 := by decide
      rw [isBroken.decodeLossy_append, encode_append, List.length_append, List.length_append,
        List.flatten_cons, List.length_append, List.length_cons, replacement]
      omega

/-- A broken part has three bytes at most. -/
theorem Divided.length_le (divided : Divided bytes parts) : ∀ part ∈ parts, part.length ≤ 3 := by
  induction divided with
  | done => simp
  | character character behind inductionHypothesis => exact inductionHypothesis
  | broken isBroken behind inductionHypothesis =>
      exact List.forall_mem_cons.mpr ⟨isBroken.length_le, inductionHypothesis⟩

/-- Parts have three bytes each if they are three times as long as they are many. -/
theorem length_flatten_eq_iff (short : ∀ part ∈ parts, part.length ≤ 3) :
    parts.flatten.length = 3 * parts.length ↔ ∀ part ∈ parts, part.length = 3 := by
  have least : parts.flatten.length ≤ 3 * parts.length ∧
      (parts.flatten.length = 3 * parts.length ↔ ∀ part ∈ parts, part.length = 3) := by
    induction parts with
    | nil => simp
    | cons part parts inductionHypothesis =>
        obtain ⟨first, others⟩ := List.forall_mem_cons.mp short
        obtain ⟨bound, rest⟩ := inductionHypothesis others
        rw [List.forall_mem_cons, ← rest, List.flatten_cons, List.length_append, List.length_cons]
        omega
  exact least.2

end Broken

section Files

variable {contents : List (List UInt8)} {parts : List (List (List UInt8))}

/-- The contents of all files can be divided. -/
theorem exists_forall₂_divided (contents : List (List UInt8)) :
    ∃ parts, List.Forall₂ Divided contents parts := by
  induction contents with
  | nil => exact ⟨[], .nil⟩
  | cons content contents inductionHypothesis =>
      obtain ⟨broken, first⟩ := exists_divided content
      obtain ⟨parts, rest⟩ := inductionHypothesis
      exact ⟨broken :: parts, .cons first rest⟩

/-- Text has no broken parts. -/
theorem forall₂_divided_text (texts : List String) :
    List.Forall₂ Divided (texts.map encode) (texts.map fun _ => []) := by
  induction texts with
  | nil => exact .nil
  | cons text texts inductionHypothesis => exact .cons (divided_encode text) inductionHypothesis

/-- A broken part of any file has three bytes at most. -/
theorem length_le_of_forall₂ (divided : List.Forall₂ Divided contents parts) :
    ∀ part ∈ parts.flatten, part.length ≤ 3 := by
  induction divided with
  | nil => simp
  | cons first rest inductionHypothesis =>
      rw [List.flatten_cons, List.forall_mem_append]
      exact ⟨first.length_le, inductionHypothesis⟩

end Files

end Text.Utf8

open Text.Utf8 (Divided decodeLossy encode)

/-- The sizes of the nodes add up to this. -/
def Node.totalSize : List Node → Nat
  | [] => 0
  | node :: nodes => node.size + totalSize nodes

namespace Machine

/-- The arguments name files, and these are their contents. -/
def Stores (machine : Machine) : List String → List (List UInt8) → Prop :=
  List.Forall₂ fun file content =>
    machine.store.stat (machine.resolve file) = .ok (.file content)

variable {machine : Machine} {files : List String} {contents : List (List UInt8)}

/-- A file is read as its decoded content. -/
theorem readText_of_stat {file : String} {content : List UInt8}
    (stated : machine.store.stat (machine.resolve file) = .ok (.file content)) :
    machine.readText file = .ok (decodeLossy content) := by
  rw [Store.stat] at stated
  split at stated
  next node found =>
    cases stated
    simp [readText, Store.readText, Store.read, found, Except.map, Except.mapError]
  next => cases stated

/-- A file is read as what its content is decoded to. -/
theorem Stores.holds (stores : machine.Stores files contents) :
    machine.Holds files (contents.map decodeLossy) := by
  rw [Holds, List.forall₂_map_right_iff]
  exact stores.imp fun _ _ => readText_of_stat

end Machine

namespace Builtin.Tally

variable {contents : List (List UInt8)} {parts : List (List (List UInt8))}

/-- Of files that are read as text, every broken part counts as three bytes. -/
theorem bytes_ofTexts_decoded (divided : List.Forall₂ Divided contents parts) :
    (ofTexts (contents.map decodeLossy)).bytes + parts.flatten.flatten.length =
      Node.totalSize (contents.map .file) + 3 * parts.flatten.length := by
  induction divided with
  | nil => rfl
  | @cons content broken contents parts first rest inductionHypothesis =>
      have counted := first.length_encode
      rw [List.map_cons, ofTexts_cons, List.map_cons, Node.totalSize, List.flatten_cons,
        List.flatten_append, List.length_append, List.length_append]
      change (encode (decodeLossy content)).length + (ofTexts _).bytes + _ =
        content.length + _ + _
      omega

end Builtin.Tally

namespace Pipeline

/-- The printed number is the size of the files with each broken part as three bytes. -/
theorem prints_bytes (machine : Machine) (files : List String) (contents : List (List UInt8))
    (named : files ≠ []) (stores : machine.Stores files contents)
    (plain : ∀ file ∈ files, file ≠ "-l" ∧ file ≠ "-w" ∧ file ≠ "-c") :
    ∃ total, (countFiles "-c" files).Prints machine total ∧
      (∃ parts, List.Forall₂ Divided contents parts) ∧
      (∀ parts, List.Forall₂ Divided contents parts →
        total + parts.flatten.flatten.length =
            Node.totalSize (contents.map .file) + 3 * parts.flatten.length ∧
          (total = Node.totalSize (contents.map .file) ↔
            ∀ part ∈ parts.flatten, part.length = 3)) ∧
      ∀ texts : List String, contents = texts.map encode →
        total = Node.totalSize (contents.map .file) := by
  have noModes : ∀ file ∈ files, Builtin.Count.mode? file = none := by
    intro file member
    simp [Builtin.Count.mode?, plain file member]
  have flagged : Builtin.Count.mode? "-c" = some .bytes := by decide
  have sameSize (parts : List (List (List UInt8))) (divided : List.Forall₂ Divided contents parts) :
      (Builtin.Tally.ofTexts (contents.map decodeLossy)).bytes =
          Node.totalSize (contents.map .file) ↔ ∀ part ∈ parts.flatten, part.length = 3 := by
    have counted := Builtin.Tally.bytes_ofTexts_decoded divided
    rw [← Text.Utf8.length_flatten_eq_iff (Text.Utf8.length_le_of_forall₂ divided)]
    omega
  refine ⟨_, prints_countFiles named stores.holds noModes flagged,
    Text.Utf8.exists_forall₂_divided contents,
    fun parts divided => ⟨Builtin.Tally.bytes_ofTexts_decoded divided, sameSize parts divided⟩,
    fun texts isText => (sameSize (texts.map fun _ => []) ?_).mpr (by simp)⟩
  rw [isText]
  exact Text.Utf8.forall₂_divided_text texts

/-- One file is a byte that starts no character, and another ends inside one. -/
theorem prints_bytes_attic :
    attic.Stores ["b", "c"] [[0xff], [0x61, 0xef, 0xbf]] ∧
      Node.totalSize [.file [0xff], .file [0x61, 0xef, 0xbf]] = 4 ∧
      (countFiles "-c" ["b", "c"]).Prints attic 7 := by
  have stores : attic.Stores ["b", "c"] [[0xff], [0x61, 0xef, 0xbf]] :=
    .cons (by decide +kernel) (.cons (by decide +kernel) .nil)
  have lone : Divided [0xff] [[0xff]] := Text.Utf8.divided_of_ended (by decide)
  have cut : Divided [0x61, 0xef, 0xbf] [[0xef, 0xbf]] :=
    .character 'a' (Text.Utf8.divided_of_ended (by decide))
  obtain ⟨total, prints, -, counts, -⟩ :=
    prints_bytes attic ["b", "c"] _ (by simp) stores (by decide +kernel)
  have counted := (counts [[[0xff]], [[0xef, 0xbf]]] (.cons lone (.cons cut .nil))).1
  change total + 3 = 4 + 6 at counted
  obtain rfl : total = 7 := by omega
  exact ⟨stores, rfl, prints⟩

/-- For a file of one byte that is no text, three bytes are counted. -/
theorem prints_bytes_binary :
    attic.store.stat (attic.resolve "b") = .ok (.file [0xff]) ∧ (Node.file [0xff]).size = 1 ∧
      (countFiles "-c" ["b"]).Prints attic 3 ∧ ¬ (countFiles "-c" ["b"]).Prints attic 1 := by
  have stated : attic.store.stat (attic.resolve "b") = .ok (.file [0xff]) := by decide +kernel
  have holds : attic.Holds ["b"] [decodeLossy [0xff]] :=
    .cons (Machine.readText_of_stat stated) .nil
  have printed : (countFiles "-c" ["b"]).Prints attic
      ((Builtin.Tally.ofTexts [decodeLossy [0xff]]).number .bytes) :=
    prints_countFiles (by simp) holds (by decide) (by decide)
  have three : (Builtin.Tally.ofTexts [decodeLossy [0xff]]).number .bytes = 3 := by decide +kernel
  rw [three] at printed
  refine ⟨stated, rfl, printed, fun wrong => ?_⟩
  rw [Prints] at printed wrong
  have same : Text.Decimal.render 3 = Text.Decimal.render 1 := by
    rw [printed] at wrong
    simpa using wrong
  exact absurd same (by decide +kernel)

end Pipeline

end TapeShell
