/-
This file says what becomes of the bytes of a file that output is appended to.
-/

import TapeShell.Proofs.Answers
import TapeShell.Proofs.Frame
import TapeShell.Proofs.Utf8

namespace TapeShell

namespace Text.Utf8

/-- Text is encoded part by part. -/
theorem encode_append (first second : String) :
    encode (first ++ second) = encode first ++ encode second := by
  simp [encode]

/-- A single character is encoded as its bytes. -/
theorem encode_singleton (character : Char) :
    encode (String.singleton character) = String.utf8EncodeChar character := by
  simp [encode]

/-- The first character is read, or replaced, and then the others are. -/
theorem decodeLossy_cons (byte : UInt8) (rest : List UInt8) :
    decodeLossy (byte :: rest) =
      String.singleton ((readCharacter byte rest).1.getD '\ufffd') ++
        decodeLossy (readCharacter byte rest).2 := by
  apply String.toList_injective
  rw [decodeLossy, characters]
  simp [decodeLossy]

/-- Text in front of other bytes needs no replacement. -/
theorem decodeLossy_encode_append (text : String) (rest : List UInt8) :
    decodeLossy (encode text ++ rest) = text ++ decodeLossy rest := by
  apply String.toList_injective
  rw [decodeLossy, encode, characters_append]
  simp [decodeLossy, Function.comp_def]

/-- These bytes are text, but for a replacement character that may be broken off at their end. -/
def Durable (bytes : List UInt8) : Prop :=
  ∃ text, encode text <+: bytes ∧ bytes <+: encode (text ++ "\ufffd")

/-- The bytes of a text are durable. -/
theorem durable_encode (text : String) : Durable (encode text) :=
  ⟨text, List.prefix_rfl, by rw [encode_append]; exact List.prefix_append _ _⟩

/-- Bytes that come first in what they are read as are text, up to a broken end. -/
theorem durable_of_kept (bytes after : List UInt8)
    (kept : bytes <+: encode (decodeLossy bytes) ++ after) : Durable bytes := by
  induction bytes using characters.induct with
  | case1 => exact durable_encode ""
  | case2 byte rest shorter inductionHypothesis =>
      rw [decodeLossy_cons, encode_append, encode_singleton, List.append_assoc] at kept
      cases read : (readCharacter byte rest).1 with
      | none =>
          rw [read, Option.getD_none] at kept
          rcases List.prefix_or_prefix_of_prefix kept (List.prefix_append _ _) with
            broken | ⟨more, whole⟩
          · exact ⟨"", List.nil_prefix, broken⟩
          · -- A whole replacement character would have been read.
            rw [readCharacter_of_append whole.symm] at read
            cases read
      | some character =>
          have whole : byte :: rest =
              String.utf8EncodeChar character ++ (readCharacter byte rest).2 :=
            eq_append_of_readCharacter (Prod.ext read rfl)
          rw [read, Option.getD_some, whole, List.prefix_append_right_inj] at kept
          obtain ⟨text, start, stop⟩ := inductionHypothesis kept
          refine ⟨String.singleton character ++ text, ?_, ?_⟩
          · rw [encode_append, encode_singleton, whole]
            exact (List.prefix_append_right_inj _).mpr start
          · rw [String.append_assoc, encode_append, encode_singleton, whole]
            exact (List.prefix_append_right_inj _).mpr stop

/-- A replacement character that is broken off is replaced as a whole. -/
theorem replacement_of_broken {byte : UInt8} {rest : List UInt8}
    (broken : byte :: rest <+: encode "\ufffd") :
    (readCharacter byte rest).1.getD '\ufffd' = '\ufffd' := by
  have replacement : encode "\ufffd" = [0xef, 0xbf, 0xbd] := by decide
  rw [replacement, List.cons_prefix_cons] at broken
  obtain ⟨rfl, following⟩ := broken
  simp only [List.prefix_cons_iff, List.prefix_nil] at following
  rcases following with rfl | ⟨_, rfl, rfl | ⟨_, rfl, rfl⟩⟩ <;> decide

/-- Durable bytes come back in front when they are decoded and encoded again. -/
theorem prefix_of_durable {bytes : List UInt8} (durable : Durable bytes) :
    bytes <+: encode (decodeLossy bytes) := by
  obtain ⟨text, ⟨tail, rfl⟩, stop⟩ := durable
  rw [encode_append, List.prefix_append_right_inj] at stop
  rw [decodeLossy_encode_append, encode_append, List.prefix_append_right_inj]
  cases tail with
  | nil => exact List.nil_prefix
  | cons byte rest =>
      rw [decodeLossy_cons, replacement_of_broken stop, encode_append]
      exact stop.trans (List.prefix_append _ _)

/-- Bytes that are read and written again stay in front exactly if they are durable. -/
theorem prefix_iff_durable (bytes after : List UInt8) :
    bytes <+: encode (decodeLossy bytes) ++ after ↔ Durable bytes :=
  ⟨durable_of_kept bytes after, fun durable =>
    (prefix_of_durable durable).trans (List.prefix_append _ _)⟩

end Text.Utf8

open Text (joinLines)
open Text.Utf8 (encode decodeLossy)

/-- Appended text comes behind the old text. -/
theorem exists_appendText (old new : String) : ∃ after, appendText old new = old ++ after := by
  unfold appendText
  split
  next empty =>
    obtain rfl : old = "" := by simpa using empty
    exact ⟨new, by simp⟩
  next =>
    split
    next => exact ⟨"", by simp⟩
    next =>
      split
      next => exact ⟨new, rfl⟩
      next => exact ⟨"\n" ++ new, by rw [String.append_assoc]⟩

namespace Store

variable {store written : Store} {path : String} {old : List UInt8} {lines : List String}

/-- The old text of a file is its decoded content. -/
theorem oldText_of_read (existing : store.read path = .ok old) :
    store.oldText path = .ok (decodeLossy old) := by
  simp [oldText, readText, existing, Except.map]

/-- The old content is decoded, and it is encoded again together with the lines. -/
theorem read_writeLines_append (existing : store.read path = .ok old)
    (done : store.writeLines path .append lines = .ok written) :
    written.read path = .ok (encode (appendText (decodeLossy old) (joinLines lines))) := by
  rw [writeLines, oldText_of_read existing] at done
  exact (write_answers done).1 rfl

end Store

namespace Pipeline

variable {catalog : Catalog} {pipeline : Pipeline} {machine : Machine} {path : String}
  {input : Option (List String)} {written : Store}

/-- Output that can be written is what a run leaves in the store. -/
theorem store_run_of_writeLines {redirect : Redirect} (output : pipeline.output = some redirect)
    (fed : pipeline.feed machine = .ok input) {flow : Flow}
    (ran : pipeline.stages.foldl (Stage.run catalog) (.start machine input) = flow)
    (done : flow.machine.store.writeLines (flow.machine.resolve redirect.path) redirect.mode
      (flow.lines.getD []) = .ok written) :
    (pipeline.run catalog machine).machine.store = written := by
  rw [run_eq, fed]
  change (deliver pipeline.output
    (pipeline.stages.foldl (Stage.run catalog) (.start machine input))).machine.store = written
  rw [ran, output, deliver, done]

/-- Appended output leaves the old bytes in front of it exactly if they are durable. -/
theorem read_run_append (catalog : Catalog) (pipeline : Pipeline) (machine : Machine)
    (path : String) (output : pipeline.output = some ⟨path, .append⟩) (input : Option (List String))
    (fed : pipeline.feed machine = .ok input) (flow : Flow)
    (ran : pipeline.stages.foldl (Stage.run catalog) (.start machine input) = flow)
    (old : List UInt8) (existing : flow.machine.store.read (flow.machine.resolve path) = .ok old)
    (written : Store)
    (done : flow.machine.store.writeLines (flow.machine.resolve path) .append
      (flow.lines.getD []) = .ok written) :
    (catalog = .standard → machine.store.read (flow.machine.resolve path) = .ok old) ∧
    ∃ new, (pipeline.run catalog machine).machine.store.read (flow.machine.resolve path) = .ok new ∧
      encode (decodeLossy old) <+: new ∧
      (old <+: new ↔ ∃ text, encode text <+: old ∧ old <+: encode (text ++ "\ufffd")) := by
  constructor
  · rintro rfl
    rw [← ran, store_foldl_run] at existing
    rwa [← ran]
  · obtain ⟨after, appended⟩ :=
      exists_appendText (decodeLossy old) (joinLines (flow.lines.getD []))
    have content := Store.read_writeLines_append existing done
    rw [appended, Text.Utf8.encode_append] at content
    rw [store_run_of_writeLines output fed ran done]
    exact ⟨_, content, List.prefix_append _ _, Text.Utf8.prefix_iff_durable old (encode after)⟩

/-- One file holds a byte that is no text, and another a broken replacement character. -/
def attic : Machine :=
  ⟨.start "/", .after [.write "/b" [0xff], .write "/c" [0x61, 0xef, 0xbf]]⟩

/-- This pipeline appends one line to the file. -/
def echoTo (path : String) : Pipeline :=
  ⟨[⟨"echo", ["x"]⟩], none, some ⟨path, .append⟩⟩

/-- The file ends in the first two bytes of a replacement character. -/
theorem read_run_append_broken :
    attic.store.read "/c" = .ok [0x61, 0xef, 0xbf] ∧
      ∃ new, ((echoTo "c").run .standard attic).machine.store.read "/c" = .ok new ∧
        [0x61, 0xef, 0xbf] <+: new := by
  obtain ⟨flow, ran⟩ : ∃ flow,
      (echoTo "c").stages.foldl (Stage.run .standard) (.start attic none) = flow := ⟨_, rfl⟩
  have target : flow.machine.resolve "c" = "/c" := by
    rw [← ran]
    decide +kernel
  have existing : flow.machine.store.read (flow.machine.resolve "c") = .ok [0x61, 0xef, 0xbf] := by
    rw [← ran]
    decide +kernel
  have writable : flow.machine.store.Writable (flow.machine.resolve "c") := by
    rw [← ran]
    unfold Store.Writable
    decide +kernel
  obtain ⟨content, done⟩ := Store.writeLines_of_writable writable .append (flow.lines.getD [])
  obtain ⟨before, new, read, -, kept⟩ :=
    read_run_append .standard (echoTo "c") attic "c" rfl none rfl flow ran _ existing _ done
  rw [target] at before read
  exact ⟨before rfl, new, read, kept.mpr ⟨"a", by decide, by decide⟩⟩

/-- A byte that is no text does not survive output that is appended to its file. -/
theorem read_run_append_binary :
    attic.store.read "/b" = .ok [0xff] ∧
      ((echoTo "b").run .standard attic).machine.store.read "/b" =
        .ok [0xef, 0xbf, 0xbd, 0x0a, 0x78] ∧
      ¬ ([0xff] : List UInt8) <+: [0xef, 0xbf, 0xbd, 0x0a, 0x78] := by
  exact ⟨by decide +kernel, by decide +kernel, by decide⟩

end Pipeline

end TapeShell
