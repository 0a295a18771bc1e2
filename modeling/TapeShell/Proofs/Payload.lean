/-
This file shows that the entries on a tape are read back unchanged and in a stable order.
-/

import TapeShell.Proofs.Encoding
import TapeShell.Proofs.JsonText
import Mathlib.Data.Bool.Basic
import Mathlib.Data.List.Nodup
import Mathlib.Data.Prod.Lex
import Mathlib.Data.String.Basic

namespace TapeShell.Tape

section Order

/-- Entries are ordered by their kind, then by the slashes in their path, then by the path. -/
def Entry.rank (entry : Entry) : Bool ×ₗ Nat ×ₗ String :=
  toLex (isFile entry, toLex (Text.occurrences '/' entry.path, entry.path))

/-- A directory counts for less than a file. -/
theorem isFile_lt_iff (left right : Entry) :
    isFile left < isFile right ↔ left.kind = .directory ∧ right.kind = .file := by
  unfold isFile
  cases left.kind <;> cases right.kind <;> decide

/-- Entries of one kind count the same. -/
theorem isFile_eq_iff (left right : Entry) :
    isFile left = isFile right ↔ left.kind = right.kind := by
  unfold isFile
  cases left.kind <;> cases right.kind <;> decide

/-- An entry comes before another if its rank is not larger. -/
theorem Entry.before_iff (left right : Entry) :
    Entry.before left right = true ↔ left.rank ≤ right.rank := by
  rw [Entry.rank, Entry.rank, Prod.Lex.toLex_le_toLex, Prod.Lex.toLex_le_toLex, isFile_lt_iff,
    isFile_eq_iff, Entry.before]
  dsimp only
  by_cases kinds : left.kind = right.kind
  · have noFirst : ¬ (left.kind = .directory ∧ right.kind = .file) := by
      rw [kinds]
      rintro ⟨directory, file⟩
      rw [directory] at file
      cases file
    rw [if_neg (not_not.mpr kinds), or_iff_right noFirst, and_iff_right kinds]
    by_cases slashes : Text.occurrences '/' left.path = Text.occurrences '/' right.path
    · rw [if_neg (not_not.mpr slashes), decide_eq_true_iff]
      simp [slashes]
    · rw [if_pos slashes, decide_eq_true_iff]
      simp [slashes]
  · rw [if_pos kinds]
    cases leftKind : left.kind <;> cases rightKind : right.kind <;> simp_all

/-- The second list is the first in order of rank, with equal ranks in their old order. -/
structure StableSort (entries sorted : List Entry) : Prop where
  permutation : sorted.Perm entries
  ordered : sorted.Pairwise fun left right => left.rank ≤ right.rank
  stable : ∀ rank, sorted.filter (fun entry => decide (entry.rank = rank)) =
    entries.filter fun entry => decide (entry.rank = rank)

/-- The order of entries is transitive. -/
theorem Entry.before_trans (first second third : Entry) (left : Entry.before first second = true)
    (right : Entry.before second third = true) : Entry.before first third = true := by
  rw [Entry.before_iff] at *
  exact left.trans right

/-- Of two entries one comes before the other. -/
theorem Entry.before_total (left right : Entry) :
    (Entry.before left right || Entry.before right left) = true := by
  rw [Bool.or_eq_true, Entry.before_iff, Entry.before_iff]
  exact le_total left.rank right.rank

/-- The sorted entries have ascending ranks. -/
theorem pairwise_sortEntries (entries : List Entry) :
    (sortEntries entries).Pairwise fun left right => left.rank ≤ right.rank :=
  (List.pairwise_mergeSort Entry.before_trans Entry.before_total entries).imp
    fun {left right} => (Entry.before_iff left right).mp

/-- Entries of one rank keep their order. -/
theorem filter_sortEntries (entries : List Entry) (rank : Bool ×ₗ Nat ×ₗ String) :
    (sortEntries entries).filter (fun entry => decide (entry.rank = rank)) =
      entries.filter fun entry => decide (entry.rank = rank) := by
  have equal : (entries.filter fun entry => decide (entry.rank = rank)).Pairwise
      fun left right => Entry.before left right = true := by
    refine List.Pairwise.imp_mem.mpr (List.pairwise_of_forall fun left right inLeft inRight => ?_)
    have leftRank : left.rank = rank := by simpa using List.of_mem_filter inLeft
    have rightRank : right.rank = rank := by simpa using List.of_mem_filter inRight
    exact (Entry.before_iff left right).mpr (le_of_eq (leftRank.trans rightRank.symm))
  have kept : (entries.filter fun entry => decide (entry.rank = rank)).Sublist
      (sortEntries entries) :=
    List.sublist_mergeSort Entry.before_trans Entry.before_total equal List.filter_sublist
  have inside := kept.filter fun entry => decide (entry.rank = rank)
  rw [List.filter_filter] at inside
  have permutation := (List.mergeSort_perm entries Entry.before).filter
    fun entry => decide (entry.rank = rank)
  simp only [Bool.and_self] at inside
  exact (inside.eq_of_length permutation.length_eq.symm).symm

/-- Sorting is a stable sort by rank. -/
theorem stableSort_sortEntries (entries : List Entry) :
    StableSort entries (sortEntries entries) where
  permutation := List.mergeSort_perm entries Entry.before
  ordered := pairwise_sortEntries entries
  stable := filter_sortEntries entries

/-- Sorted entries stay as they are. -/
theorem sortEntries_sortEntries (entries : List Entry) :
    sortEntries (sortEntries entries) = sortEntries entries := by
  apply List.mergeSort_of_pairwise
  exact (pairwise_sortEntries entries).imp fun {left right} => (Entry.before_iff left right).mpr

end Order

section Fields

/-- A text can be written and read. -/
theorem plain_textJson (text : String) : (textJson text).Plain := .string text

/-- A number can be written and read. -/
theorem plain_numberJson (number : UInt64) : (numberJson number).Plain := .number number.toNat

/-- A text is read from its JSON form. -/
theorem text?_textJson (text : String) : (textJson text).text? = some text := rfl

/-- A number is read from its JSON form. -/
theorem unsigned?_numberJson (number : UInt64) : (numberJson number).unsigned? = some number := by
  have small : number.toNat < UInt64.size := number.toNat_lt
  rw [numberJson, Json.unsigned?, Text.Decimal.natural?_digits]
  simp [small]

/-- A kind is read from its name. -/
theorem kind?_kindText (kind : Kind) : kind? (textJson (kindText kind)) = some kind := by
  cases kind <;> rfl

/-- A number that may be left out is read back. -/
theorem optional?_number (number : Option UInt64) :
    Json.optional? Json.unsigned? (number.map numberJson) = some number := by
  cases number with
  | none => rfl
  | some number =>
      change (numberJson number).unsigned?.map some = _
      rw [unsigned?_numberJson, Option.map_some]

/-- A text that may be left out is read back. -/
theorem optional?_text (text : Option String) :
    Json.optional? Json.text? (text.map textJson) = some text := by
  cases text <;> rfl

/-- A field that is left out is read as absent. -/
theorem record?_toJson (entry : Entry) :
    entry.toJson.record? ["path", "type", "size", "created", "modified", "content"] =
      some [some (textJson entry.path), some (textJson (kindText entry.kind)),
        entry.size.map numberJson, some (textJson entry.created), some (textJson entry.modified),
        entry.content.map textJson] := by
  obtain ⟨path, kind, size, created, modified, content⟩ := entry
  cases size <;> cases content <;>
    simp [Entry.toJson, Json.record?, sizeFields, contentFields, Json.field?, Json.fieldValues]

/-- An entry is read back from its JSON form. -/
theorem Entry.ofJson?_toJson (entry : Entry) : Entry.ofJson? entry.toJson = some entry := by
  rw [Entry.ofJson?, record?_toJson]
  simp [text?_textJson, kind?_kindText, optional?_number, optional?_text]

/-- The JSON form of an entry can be written and read. -/
theorem Entry.plain_toJson (entry : Entry) : entry.toJson.Plain := by
  obtain ⟨path, kind, size, created, modified, content⟩ := entry
  refine .object ?_ ?_ <;> cases size <;> cases content <;>
    simp [sizeFields, contentFields, plain_textJson, plain_numberJson]

/-- Entries are read back from their text. -/
theorem entriesOfBytes?_entriesText (entries : List Entry) :
    entriesOfBytes? (Text.Utf8.encode (entriesText entries)) = some entries := by
  have plain : (Json.array (entries.map Entry.toJson)).Plain := by
    refine .array fun item member => ?_
    obtain ⟨entry, _, rfl⟩ := List.mem_map.mp member
    exact entry.plain_toJson
  rw [entriesOfBytes?, entriesText, Json.ofBytes?_compact plain]
  exact mapM_map_eq_some Entry.ofJson?_toJson entries

end Fields

/-- A new tape gives its entries back in order. -/
theorem entries_ofEntries_eq (created label : String) (entries : List Entry) :
    (ofEntries created label entries).entries = .ok (sortEntries entries) := by
  rw [Tape.entries]
  simp only [ofEntries, Base64.decode?_encode, checksumMatches_digest,
    entriesOfBytes?_entriesText, sortEntries_sortEntries]
  rfl

/-- The entries of a tape come back in stable order, and its checksum matches. -/
theorem entries_ofEntries (created label : String) (entries : List Entry) :
    isDigest (ofEntries created label entries).checksum = true ∧
      ∃ sorted, StableSort entries sorted ∧
        (ofEntries created label entries).entries = .ok sorted := by
  refine ⟨isDigest_digest _, sortEntries entries, stableSort_sortEntries entries, ?_⟩
  exact entries_ofEntries_eq created label entries

end TapeShell.Tape
