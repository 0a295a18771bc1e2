/-
This file says which tapes can be restored, and what they leave in a new store.
-/

import TapeShell.Proofs.Ancestry
import TapeShell.Proofs.Backup

namespace TapeShell

namespace Store

/-- The directories of the store are exactly these places. -/
def HasDirectories (store : Store) (isPlace : String → Prop) : Prop :=
  ∀ path, store.nodes.find? path = some .directory ↔ isPlace path

/-- No file is stored. -/
def Fileless (store : Store) : Prop :=
  ∀ path content, store.nodes.find? path ≠ some (.file content)

/-- A new store holds no file. -/
theorem fresh_fileless : fresh.Fileless := by
  intro path content found
  rw [find?_fresh] at found
  split at found <;> cases found

/-- Where no file is stored, a directory can be made anywhere. -/
theorem makeDirectory_of_fileless {store : Store} (grown : store.Grown)
    (fileless : store.Fileless) {isPlace : String → Prop} (places : store.HasDirectories isPlace)
    (path : String) :
    ∃ changed, store.makeDirectory path = .ok changed ∧ changed.Grown ∧ changed.Fileless ∧
      changed.HasDirectories fun place => isPlace place ∨
        place ∈ Path.normalize path :: Path.ancestors (Path.normalize path) := by
  obtain ⟨changed, done⟩ : ∃ changed, store.makeDirectory path = .ok changed := by
    rw [makeDirectory]
    split
    next => exact ⟨_, rfl⟩
    next content found => exact absurd found (fileless _ content)
    next => exact ⟨_, rfl⟩
  have found := find?_makeDirectory done
  refine ⟨changed, done, grown.makeDirectory done, fun place content => ?_, fun place => ?_⟩
  · rw [found]
    split
    next => simp
    next => exact fileless place content
  · simp only [← places place, found, mem_missing_iff grown (Path.isNormal_normalize path)]
    cases stored : store.nodes.find? place with
    | none => simp [Table.contains, stored, -List.mem_cons]
    | some node =>
        cases node with
        | directory => simp
        | file content => exact absurd stored (fileless place content)

end Store

namespace Tape

/-- The root, the directories of the entries and everything above them. -/
def Spanned (entries : List Entry) (path : String) : Prop :=
  path = Path.root ∨ ∃ entry ∈ entries, entry.kind = .directory ∧
    path ∈ Path.normalize entry.path :: Path.ancestors (Path.normalize entry.path)

/-- A file fits where no directory has its place and its parent is a directory. -/
def Fits (isPlace : String → Prop) (entry : Entry) : Prop :=
  ¬ isPlace (Path.normalize entry.path) ∧ isPlace (Path.parent (Path.normalize entry.path))

/-- Every file fits into the directories of the entries. -/
def Consistent (entries : List Entry) : Prop :=
  ∀ entry ∈ entries, entry.kind = .file → Fits (Spanned entries) entry

instance (entries : List Entry) : DecidablePred (Spanned entries) := fun path =>
  inferInstanceAs (Decidable (path = Path.root ∨ ∃ entry ∈ entries, entry.kind = .directory ∧
    path ∈ Path.normalize entry.path :: Path.ancestors (Path.normalize entry.path)))

instance (isPlace : String → Prop) [DecidablePred isPlace] : DecidablePred (Fits isPlace) :=
  fun entry => inferInstanceAs (Decidable (¬ isPlace (Path.normalize entry.path) ∧
    isPlace (Path.parent (Path.normalize entry.path))))

instance : DecidablePred Consistent := fun entries =>
  inferInstanceAs (Decidable (∀ entry ∈ entries, entry.kind = .file → Fits (Spanned entries) entry))

/-- The last file that goes to a path. -/
def lastFile? (entries : List Entry) (path : String) : Option Entry :=
  (entries.filter fun entry => isFile entry && Path.normalize entry.path == path).getLast?

/-- Directories alone are always restored, each with its ancestors. -/
theorem replay_directories {entries : List Entry}
    (directories : ∀ entry ∈ entries, entry.kind = .directory) :
    ∃ base, replay .fresh .zero entries = (base, .ok (entries.foldl Stats.count .zero)) ∧
      base.Grown ∧ base.Fileless ∧ base.HasDirectories (Spanned entries) := by
  induction entries using List.reverseRecOn with
  | nil =>
      refine ⟨.fresh, rfl, Store.fresh_grown, Store.fresh_fileless, fun path => ?_⟩
      rw [Store.find?_fresh]
      simp [Spanned, eq_comm]
  | append_singleton earlier entry inductionHypothesis =>
      have isDirectory := directories entry (by simp)
      obtain ⟨base, done, grown, fileless, places⟩ :=
        inductionHypothesis fun other member => directories other (List.mem_append_left _ member)
      obtain ⟨changed, made, changedGrown, changedFileless, changedPlaces⟩ :=
        Store.makeDirectory_of_fileless grown fileless places entry.path
      refine ⟨changed, ?_, changedGrown, changedFileless, fun path => ?_⟩
      · rw [replay_append done, replay, replayEntry, isDirectory, List.foldl_append]
        simp only [made]
        rfl
      · rw [changedPlaces path]
        simp [Spanned, or_assoc, or_and_right, exists_or, isDirectory]

section Files

variable {isPlace : String → Prop} {store : Store} {entry : Entry}

/-- The entry of a file leaves the bytes of its text. -/
theorem Entry.node_file (isFile : entry.kind = .file) :
    entry.node = .file (Text.Utf8.encode (entry.content.getD "")) := by
  rw [Entry.node, isFile]

/-- A file is written exactly if it fits. -/
theorem replayEntry_file (places : store.HasDirectories isPlace) (isFile : entry.kind = .file)
    (changed : Store) :
    replayEntry store entry = .ok changed ↔
      Fits isPlace entry ∧
        changed = ⟨store.nodes.insert (Path.normalize entry.path) entry.node⟩ := by
  rw [replayEntry, isFile, Fits, ← places, ← places, Entry.node_file isFile]
  simp only [Store.write]
  split
  next taken => simp [taken]
  next free =>
    split
    next inside => simp [free, inside, eq_comm]
    next outside => simp [outside]
    next outside => simp [outside]

/-- A file that fits leaves the directories as they are. -/
theorem hasDirectories_insert (places : store.HasDirectories isPlace)
    (isFile : entry.kind = .file) (fits : Fits isPlace entry) :
    (⟨store.nodes.insert (Path.normalize entry.path) entry.node⟩ : Store).HasDirectories
      isPlace := by
  intro path
  rw [Table.find?_insert, Entry.node_file isFile]
  split
  next same => simp [← same, fits.1]
  next => exact places path

/-- The files are put into a table one after another. -/
def placeFiles (nodes : Table Node) (entries : List Entry) : Table Node :=
  entries.foldl (fun nodes entry => nodes.insert (Path.normalize entry.path) entry.node) nodes

/-- Files are restored exactly if each of them fits, and none of them changes what fits. -/
theorem replay_files_iff {entries : List Entry} (files : ∀ entry ∈ entries, entry.kind = .file)
    (places : store.HasDirectories isPlace) (stats counted : Stats) (restored : Store) :
    replay store stats entries = (restored, .ok counted) ↔
      (∀ entry ∈ entries, Fits isPlace entry) ∧
        restored = ⟨placeFiles store.nodes entries⟩ ∧
          counted = entries.foldl Stats.count stats := by
  -- The store changes from file to file, but its directories and so the places stay the same.
  induction entries generalizing store stats with
  | nil => simp [replay, placeFiles, eq_comm]
  | cons entry rest inductionHypothesis =>
      obtain ⟨isFile, restFiles⟩ := List.forall_mem_cons.mp files
      rw [replay, List.forall_mem_cons]
      split
      next changed written =>
        obtain ⟨fits, rfl⟩ := (replayEntry_file places isFile changed).mp written
        rw [inductionHypothesis restFiles (hasDirectories_insert places isFile fits)]
        simp [fits, placeFiles]
      next fault refused =>
        have unfit : ¬ Fits isPlace entry := by
          intro fits
          rw [(replayEntry_file places isFile _).mpr ⟨fits, rfl⟩] at refused
          cases refused
        simp [unfit]

/-- Of the files for one path the last one stays. -/
theorem find?_placeFiles (nodes : Table Node) {entries : List Entry}
    (files : ∀ entry ∈ entries, entry.kind = .file) (path : String) :
    (placeFiles nodes entries).find? path =
      ((lastFile? entries path).map Entry.node).or (nodes.find? path) := by
  induction entries using List.reverseRecOn with
  | nil => rfl
  | append_singleton earlier entry inductionHypothesis =>
      have isFile : Tape.isFile entry = true := by
        simp [Tape.isFile, files entry (by simp)]
      have before := inductionHypothesis fun other member =>
        files other (List.mem_append_left _ member)
      rw [placeFiles, List.foldl_append, lastFile?, List.filter_append]
      change ((placeFiles nodes earlier).insert _ _).find? path = _
      rw [Table.find?_insert]
      by_cases same : Path.normalize entry.path = path
      · simp [same, isFile]
      · rw [if_neg same, before, lastFile?]
        simp [same]

end Files

section Order

variable {entries : List Entry}

/-- Only files are kept among the files. -/
theorem kind_of_mem_files (entries : List Entry) :
    ∀ entry ∈ entries.filter isFile, entry.kind = .file := by
  intro entry member
  simpa [isFile] using List.of_mem_filter member

/-- The other entries are directories. -/
theorem kind_of_mem_directories (entries : List Entry) :
    ∀ entry ∈ entries.filter (fun entry => !isFile entry), entry.kind = .directory := by
  intro entry member
  have notFile := List.of_mem_filter member
  cases kind : entry.kind with
  | directory => rfl
  | file => simp [isFile, kind] at notFile

/-- What comes behind a file is a file. -/
theorem isFile_of_rank_le {left right : Entry} (ordered : left.rank ≤ right.rank)
    (file : isFile left = true) : isFile right = true := by
  rw [Entry.rank, Entry.rank, Prod.Lex.toLex_le_toLex, file] at ordered
  rcases ordered with above | ⟨same, -⟩
  · exact absurd above (by simp)
  · exact same.symm

/-- In order of rank all directories come before all files. -/
theorem eq_directories_append_files
    (ordered : entries.Pairwise fun left right => left.rank ≤ right.rank) :
    entries = entries.filter (fun entry => !isFile entry) ++ entries.filter isFile := by
  induction entries with
  | nil => rfl
  | cons entry rest inductionHypothesis =>
      obtain ⟨first, restOrdered⟩ := List.pairwise_cons.mp ordered
      cases file : isFile entry with
      | false =>
          rw [List.filter_cons_of_pos (by simp [file]), List.filter_cons_of_neg (by simp [file]),
            List.cons_append, ← inductionHypothesis restOrdered]
      | true =>
          have files : ∀ other ∈ entry :: rest, isFile other = true := by
            rintro other (_ | ⟨_, member⟩)
            · exact file
            · exact isFile_of_rank_le (first other member) file
          rw [List.filter_eq_nil_iff.mpr (by simpa using files), List.nil_append,
            List.filter_eq_self.mpr files]

/-- The files do not matter for the directories. -/
theorem spanned_filter :
    Spanned (entries.filter fun entry => !isFile entry) = Spanned entries := by
  funext path
  refine propext (or_congr_right (exists_congr fun entry => ⟨?_, ?_⟩))
  · rintro ⟨member, above⟩
    exact ⟨List.mem_of_mem_filter member, above⟩
  · rintro ⟨member, isDirectory, above⟩
    exact ⟨List.mem_filter.mpr ⟨member, by simp [isFile, isDirectory]⟩, isDirectory, above⟩

/-- A tape is consistent if each of its files fits. -/
theorem consistent_iff :
    Consistent entries ↔ ∀ entry ∈ entries.filter isFile, Fits (Spanned entries) entry := by
  simp only [Consistent, List.mem_filter, isFile, beq_iff_eq, and_imp]

/-- The size grows by the bytes of all files. -/
theorem size_foldl_count (entries : List Entry) (stats : Stats) :
    (entries.foldl Stats.count stats).size = stats.size +
      UInt64.ofNat ((entries.filter isFile).flatMap fun entry =>
        Text.Utf8.encode (entry.content.getD "")).length := by
  induction entries generalizing stats with
  | nil => simp
  | cons entry entries inductionHypothesis =>
      rw [List.foldl_cons, inductionHypothesis]
      cases kind : entry.kind with
      | directory => simp [Stats.count, isFile, kind]
      | file => simp [Stats.count, isFile, kind, UInt64.ofNat_add, UInt64.add_assoc]

end Order

section Restore

variable {tape : Tape} {entries : List Entry}

/-- The entries of a tape come in the order of their ranks. -/
theorem ordered_of_entries (decoded : tape.entries = .ok entries) :
    entries.Pairwise fun left right => left.rank ≤ right.rank := by
  rw [Tape.entries] at decoded
  split at decoded
  next => cases decoded
  next =>
    split at decoded
    next => cases decoded
    next =>
      split at decoded
      next =>
        split at decoded
        next => cases decoded
        next =>
          cases decoded
          exact pairwise_sortEntries _
      next => cases decoded

/-- A tape that can be decoded is restored as its entries are replayed. -/
theorem restore_eq_ok_iff (decoded : tape.entries = .ok entries) (store restored : Store)
    (stats : Stats) :
    tape.restore store = (restored, .ok stats) ↔
      replay store .zero entries = (restored, .ok stats) := by
  simp only [restore, decoded]
  generalize replay store .zero entries = result
  rcases result with ⟨changed, _ | counted⟩ <;> simp [Except.mapError]

/-- A tape is restored by making its directories and then placing its files. -/
theorem restore_fresh_eq_ok_iff (decoded : tape.entries = .ok entries) :
    ∃ base : Store, base.Fileless ∧ base.HasDirectories (Spanned entries) ∧
      ∀ restored stats, tape.restore .fresh = (restored, .ok stats) ↔
        Consistent entries ∧ restored = ⟨placeFiles base.nodes (entries.filter isFile)⟩ ∧
          stats = entries.foldl Stats.count .zero := by
  have parts := eq_directories_append_files (ordered_of_entries decoded)
  obtain ⟨base, done, -, fileless, places⟩ :=
    replay_directories (kind_of_mem_directories entries)
  rw [spanned_filter] at places
  refine ⟨base, fileless, places, fun restored stats => ?_⟩
  have counted : entries.foldl Stats.count .zero = (entries.filter isFile).foldl Stats.count
      ((entries.filter fun entry => !isFile entry).foldl Stats.count .zero) := by
    rw [← List.foldl_append, ← parts]
  -- Only the replayed list is split, since the places and the counts are those of all entries.
  rw [restore_eq_ok_iff decoded, counted, consistent_iff]
  conv => lhs; rw [parts]
  rw [replay_append done, replay_files_iff (kind_of_mem_files entries) places]

/-- Directories do not matter for the last file. -/
theorem lastFile?_filter (path : String) :
    lastFile? (entries.filter isFile) path = lastFile? entries path := by
  rw [lastFile?, List.filter_filter, lastFile?]
  congr 2
  funext entry
  cases isFile entry <;> simp

/-- The last file under a path is a file of the tape with that path. -/
theorem of_lastFile? {path : String} {entry : Entry} (last : lastFile? entries path = some entry) :
    entry ∈ entries ∧ entry.kind = .file ∧ Path.normalize entry.path = path := by
  have member := List.mem_filter.mp (List.mem_of_getLast? last)
  simpa [isFile] using member

/-- A tape is restored into a new store exactly if its files fit into its directories. -/
theorem restore_fresh_consistent (tape : Tape) {entries : List Entry}
    (decoded : tape.entries = .ok entries) :
    ((∃ restored stats, tape.restore .fresh = (restored, .ok stats)) ↔ Consistent entries) ∧
      ∀ restored stats, tape.restore .fresh = (restored, .ok stats) →
        (∀ path, restored.nodes.find? path = some .directory ↔ Spanned entries path) ∧
        (∀ path content, restored.nodes.find? path = some (.file content) ↔
          ∃ entry, lastFile? entries path = some entry ∧
            content = Text.Utf8.encode (entry.content.getD "")) ∧
        stats.directories = UInt64.ofNat (entries.filter fun entry => !isFile entry).length ∧
        stats.files = UInt64.ofNat (entries.filter isFile).length ∧
        stats.size = UInt64.ofNat ((entries.filter isFile).flatMap fun entry =>
          Text.Utf8.encode (entry.content.getD "")).length := by
  obtain ⟨base, fileless, places, restores⟩ := restore_fresh_eq_ok_iff decoded
  refine ⟨⟨fun ⟨restored, stats, done⟩ => ((restores restored stats).mp done).1,
    fun consistent => ⟨_, _, (restores _ _).mpr ⟨consistent, rfl, rfl⟩⟩⟩, ?_⟩
  intro restored stats done
  obtain ⟨consistent, rfl, rfl⟩ := (restores restored stats).mp done
  have lookup (path : String) := find?_placeFiles base.nodes (kind_of_mem_files entries) path
  simp only [lastFile?_filter] at lookup
  refine ⟨fun path => ?_, fun path content => ?_, ?_, ?_, ?_⟩
  · cases last : lastFile? entries path with
    | none =>
        rw [lookup, last]
        exact places path
    | some entry =>
        obtain ⟨member, isFile, rfl⟩ := of_lastFile? last
        have unplaced := (consistent entry member isFile).1
        simp [lookup, last, Entry.node_file isFile, unplaced]
  · cases last : lastFile? entries path with
    | none =>
        rw [lookup, last]
        simpa using fileless path content
    | some entry =>
        obtain ⟨-, isFile, -⟩ := of_lastFile? last
        simp [lookup, last, Entry.node_file isFile, eq_comm]
  · have total := List.length_eq_length_filter_add isFile (l := entries)
    have others : entries.length - (entries.filter isFile).length =
        (entries.filter fun entry => !isFile entry).length := by omega
    rw [directories_foldl_count, others]
    exact UInt64.zero_add _
  · exact (files_foldl_count _ _).trans (UInt64.zero_add _)
  · exact (size_foldl_count _ _).trans (UInt64.zero_add _)

/-- One path is spelled twice, one file is empty, and one directory is only implied. -/
def untidy : List Entry :=
  [⟨"//a/b/", .directory, none, "", "", none⟩, ⟨"c", .file, none, "", "", none⟩,
    ⟨"a/b/x", .file, none, "", "", some "old"⟩, ⟨"/a//b/x", .file, none, "", "", some "é"⟩]

/-- The file has the place of a directory. -/
def clash : List Entry :=
  [⟨"//a/b/", .directory, none, "", "", none⟩, ⟨"a", .file, none, "", "", none⟩]

/-- The untidy tape is restored, and the clash is refused. -/
theorem restore_fresh_consistent_untidy :
    (ofEntries "" "" untidy).entries = .ok untidy ∧ (ofEntries "" "" clash).entries = .ok clash ∧
      (∃ restored stats, (ofEntries "" "" untidy).restore .fresh = (restored, .ok stats) ∧
        restored.nodes.find? "/a" = some .directory ∧
        restored.nodes.find? "/a/b/x" = some (.file [0xc3, 0xa9]) ∧
        restored.nodes.find? "/c" = some (.file []) ∧
        stats.directories = 1 ∧ stats.files = 3 ∧ stats.size = 5) ∧
      ¬ ∃ restored stats, (ofEntries "" "" clash).restore .fresh = (restored, .ok stats) := by
  have decoded : (ofEntries "" "" untidy).entries = .ok untidy := by
    rw [entries_ofEntries_eq, sortEntries, List.mergeSort_of_pairwise (by decide +kernel)]
  have decodedClash : (ofEntries "" "" clash).entries = .ok clash := by
    rw [entries_ofEntries_eq, sortEntries, List.mergeSort_of_pairwise (by decide +kernel)]
  obtain ⟨restored, stats, done⟩ :=
    (restore_fresh_consistent (ofEntries "" "" untidy) decoded).1.mpr (by decide +kernel)
  obtain ⟨directories, files, directoryCount, fileCount, size⟩ :=
    (restore_fresh_consistent (ofEntries "" "" untidy) decoded).2 restored stats done
  refine ⟨decoded, decodedClash, ⟨restored, stats, done, ?_, ?_, ?_, directoryCount, fileCount,
    size.trans (by decide +kernel)⟩, ?_⟩
  · exact (directories "/a").mpr (by decide +kernel)
  · exact (files "/a/b/x" _).mpr
      ⟨⟨"/a//b/x", .file, none, "", "", some "é"⟩, by decide +kernel, by decide +kernel⟩
  · exact (files "/c" _).mpr
      ⟨⟨"c", .file, none, "", "", none⟩, by decide +kernel, by decide +kernel⟩
  · rw [(restore_fresh_consistent (ofEntries "" "" clash) decodedClash).1]
    decide +kernel

end Restore

end Tape

end TapeShell
