/-
This file shows that a tape can be restored again without a change.
-/

import TapeShell.Proofs.Consistency

namespace TapeShell

namespace Store

/-- This is the kind of what is stored under a normal path. -/
def kind? (store : Store) (path : String) : Option Kind :=
  (store.nodes.find? path).map Node.kind

/-- The kind is a directory where one is stored. -/
theorem kind?_eq_directory {store : Store} {path : String} :
    store.kind? path = some .directory ↔ store.nodes.find? path = some .directory := by
  unfold kind?
  cases store.nodes.find? path with
  | none => simp
  | some node => cases node <;> simp [Node.kind]

/-- The kind is a file where one is stored. -/
theorem kind?_eq_file {store : Store} {path : String} :
    store.kind? path = some .file ↔ ∃ content, store.nodes.find? path = some (.file content) := by
  unfold kind?
  cases store.nodes.find? path with
  | none => simp
  | some node => cases node <;> simp [Node.kind]

/-- A store has its own directories. -/
theorem hasDirectories_self (store : Store) :
    store.HasDirectories fun path => store.nodes.find? path = some .directory :=
  fun _ => Iff.rfl

/-- Whatever is stored stays stored with its kind. -/
def Retains (before after : Store) : Prop :=
  ∀ path kind, before.kind? path = some kind → after.kind? path = some kind

/-- A store retains itself. -/
theorem Retains.refl (store : Store) : store.Retains store :=
  fun _ _ => id

/-- Directories are made where nothing is, and files are written where no directory is. -/
theorem Effect.retains {store changed : Store} {change : Change}
    (effect : Effect store change changed) (adds : ∀ path, change ≠ .remove path) :
    store.Retains changed := by
  cases effect with
  | present => exact .refl store
  | created target absent =>
      intro path kind there
      unfold kind? at there ⊢
      rw [find?_foldr_insert]
      split
      next missing =>
        rw [absent_of_mem_missing missing] at there
        cases there
      next => exact there
  | written target content free inside =>
      intro path kind there
      unfold kind? at there ⊢
      rw [Table.find?_insert]
      split
      next same =>
        rw [same] at free
        cases found : store.nodes.find? path with
        | none =>
            rw [found] at there
            cases there
        | some node =>
            rw [found] at there free
            cases node with
            | directory => exact absurd rfl free
            | file old => exact there
      next => exact there
  | removed target => exact absurd rfl (adds target)

end Store

namespace Tape

/-- The store has what the entry asks for, except perhaps for the content of a file. -/
structure Entry.Settled (store : Store) (entry : Entry) : Prop where
  kind : store.kind? (Path.normalize entry.path) = some entry.kind
  inside : entry.kind = .file →
    store.kind? (Path.parent (Path.normalize entry.path)) = some .directory

section Step

variable {store changed : Store} {entry : Entry}

/-- An entry that is replayed keeps the kinds of what was stored. -/
theorem retains_of_replayEntry (done : replayEntry store entry = .ok changed) :
    store.Retains changed := by
  rw [replayEntry_eq_attempt] at done
  exact (Store.effect_of_attempt done).retains entry.change_ne_remove

/-- A settled entry stays settled in what retains the store. -/
theorem Entry.Settled.retained (settled : entry.Settled store) (retains : store.Retains changed) :
    entry.Settled changed where
  kind := retains _ _ settled.kind
  inside isFile := retains _ _ (settled.inside isFile)

/-- An entry that was replayed is settled. -/
theorem settled_of_replayEntry (done : replayEntry store entry = .ok changed) :
    entry.Settled changed := by
  have retains := retains_of_replayEntry done
  cases kind : entry.kind with
  | directory =>
      rw [replayEntry, kind] at done
      have made := Store.isDirectory_makeDirectory done
      rw [Store.isDirectory, Store.node?, beq_iff_eq] at made
      refine ⟨?_, fun isFile => ?_⟩
      · rw [kind]
        exact Store.kind?_eq_directory.mpr made
      · rw [kind] at isFile
        cases isFile
  | file =>
      obtain ⟨fits, rfl⟩ := (replayEntry_file store.hasDirectories_self kind changed).mp done
      refine ⟨?_, fun _ => retains _ _ (Store.kind?_eq_directory.mpr fits.2)⟩
      rw [kind, Store.kind?_eq_file, Table.find?_insert, if_pos rfl, Entry.node_file kind]
      exact ⟨_, rfl⟩

/-- A directory that is settled is left as it is. -/
theorem replayEntry_of_settled_directory (settled : entry.Settled store)
    (kind : entry.kind = .directory) : replayEntry store entry = .ok store := by
  have there := settled.kind
  rw [kind, Store.kind?_eq_directory] at there
  rw [replayEntry, kind]
  simp only [Store.makeDirectory, there]

/-- A file that is settled can be written. -/
theorem replayEntry_of_settled_file (settled : entry.Settled store) (kind : entry.kind = .file) :
    replayEntry store entry =
      .ok ⟨store.nodes.insert (Path.normalize entry.path) entry.node⟩ := by
  have there := settled.kind
  rw [kind, Store.kind?_eq_file] at there
  obtain ⟨content, found⟩ := there
  apply (replayEntry_file store.hasDirectories_self kind _).mpr
  refine ⟨⟨?_, Store.kind?_eq_directory.mp (settled.inside kind)⟩, rfl⟩
  simp [found]

/-- An entry changes nothing that is stored, except for the file that it writes. -/
theorem find?_replayEntry (done : replayEntry store entry = .ok changed) {path : String}
    {node : Node} (found : store.nodes.find? path = some node)
    (other : entry.kind = .file → Path.normalize entry.path ≠ path) :
    changed.nodes.find? path = some node := by
  cases kind : entry.kind with
  | directory =>
      rw [replayEntry, kind] at done
      rw [Store.find?_makeDirectory done, if_neg, found]
      intro missing
      rw [Store.absent_of_mem_missing missing] at found
      cases found
  | file =>
      obtain ⟨-, rfl⟩ := (replayEntry_file store.hasDirectories_self kind changed).mp done
      rw [Table.find?_insert, if_neg (other kind)]
      exact found

end Step

section Run

variable {store restored : Store} {stats counted : Stats} {entries : List Entry}

/-- The last entry is replayed where the others lead. -/
theorem replay_append_eq_ok_iff {entry : Entry} :
    replay store stats (entries ++ [entry]) = (restored, .ok counted) ↔
      ∃ changed earlier, replay store stats entries = (changed, .ok earlier) ∧
        replayEntry changed entry = .ok restored ∧ counted = earlier.count entry := by
  induction entries generalizing store stats with
  | nil =>
      rw [List.nil_append, replay, replay]
      cases replayed : replayEntry store entry <;> simp [replay, replayed, eq_comm]
  | cons first rest inductionHypothesis =>
      rw [List.cons_append, replay, replay]
      cases replayEntry store first with
      | ok changed => exact inductionHypothesis
      | error fault => simp

/-- A replay that succeeds has counted every entry. -/
theorem counted_of_replay (done : replay store stats entries = (restored, .ok counted)) :
    counted = entries.foldl Stats.count stats := by
  induction entries using List.reverseRecOn generalizing restored counted with
  | nil =>
      cases done
      rfl
  | append_singleton earlier entry inductionHypothesis =>
      obtain ⟨changed, before, replayed, -, rfl⟩ := replay_append_eq_ok_iff.mp done
      rw [List.foldl_append, inductionHypothesis replayed]
      rfl

/-- When all entries were replayed, all of them are settled. -/
theorem settled_of_replay (done : replay store stats entries = (restored, .ok counted)) :
    ∀ entry ∈ entries, entry.Settled restored := by
  induction entries using List.reverseRecOn generalizing restored counted with
  | nil => simp
  | append_singleton earlier last inductionHypothesis =>
      obtain ⟨changed, before, replayed, lastReplayed, -⟩ := replay_append_eq_ok_iff.mp done
      intro entry member
      rcases List.mem_append.mp member with inEarlier | isLast
      · exact (inductionHypothesis replayed entry inEarlier).retained
          (retains_of_replayEntry lastReplayed)
      · rw [List.mem_singleton.mp isLast]
        exact settled_of_replayEntry lastReplayed

/-- A file at the end is the last one under its path. -/
theorem lastFile?_append (entries : List Entry) (entry : Entry) (path : String) :
    lastFile? (entries ++ [entry]) path =
      if entry.kind = .file ∧ Path.normalize entry.path = path then some entry
      else lastFile? entries path := by
  unfold lastFile?
  rw [List.filter_append]
  split
  next here => simp [isFile, here]
  next other =>
    rw [not_and] at other
    by_cases file : entry.kind = .file
    · simp [isFile, file, other file]
    · simp [isFile, file]

/-- When all entries were replayed, the last content of every file is there. -/
theorem find?_of_replay (done : replay store stats entries = (restored, .ok counted))
    (path : String) (file : Entry) (last : lastFile? entries path = some file) :
    restored.nodes.find? path = some file.node := by
  -- From the end on, the first file for the path decides, and what follows it leaves it alone.
  induction entries using List.reverseRecOn generalizing restored counted with
  | nil => cases last
  | append_singleton earlier entry inductionHypothesis =>
      obtain ⟨changed, before, replayed, lastReplayed, -⟩ := replay_append_eq_ok_iff.mp done
      rw [lastFile?_append] at last
      split at last
      next here =>
        cases last
        obtain ⟨-, rfl⟩ :=
          (replayEntry_file changed.hasDirectories_self here.1 restored).mp lastReplayed
        rw [Table.find?_insert, if_pos here.2]
      next other =>
        exact find?_replayEntry lastReplayed (inductionHypothesis replayed last) (not_and.mp other)

/-- Where all entries are settled, a replay writes the files and does nothing else. -/
theorem replay_of_settled (stats : Stats) (settled : ∀ entry ∈ entries, entry.Settled store) :
    replay store stats entries =
      (⟨placeFiles store.nodes (entries.filter isFile)⟩,
        .ok (entries.foldl Stats.count stats)) := by
  induction entries generalizing store stats with
  | nil => rfl
  | cons entry rest inductionHypothesis =>
      obtain ⟨first, others⟩ := List.forall_mem_cons.mp settled
      rw [replay]
      cases kind : entry.kind with
      | directory =>
          rw [replayEntry_of_settled_directory first kind]
          simp only
          rw [inductionHypothesis _ others, List.filter_cons_of_neg (by simp [isFile, kind])]
          rfl
      | file =>
          -- The file gets another content, but no kind changes, so the rest stays settled.
          have written := replayEntry_of_settled_file first kind
          have stillSettled := fun entry member =>
            (others entry member).retained (retains_of_replayEntry written)
          rw [written]
          simp only
          rw [inductionHypothesis _ stillSettled, List.filter_cons_of_pos (by simp [isFile, kind])]
          rfl

/-- Files that are there with their last content are written without a change. -/
theorem placeFiles_eq_self (present : ∀ path file, lastFile? entries path = some file →
    store.nodes.find? path = some file.node) :
    placeFiles store.nodes (entries.filter isFile) = store.nodes := by
  ext path
  rw [find?_placeFiles store.nodes (kind_of_mem_files entries), lastFile?_filter]
  cases last : lastFile? entries path with
  | none => rfl
  | some file =>
      rw [present path file last]
      rfl

end Run

/-- A tape that was restored can be restored again and changes nothing. -/
theorem restore_restore (tape : Tape) {store restored : Store} {stats : Stats}
    (done : tape.restore store = (restored, .ok stats)) :
    tape.restore restored = (restored, .ok stats) ∧
      ∃ entries, tape.entries = .ok entries ∧ (∀ entry ∈ entries, entry.Settled restored) ∧
        ∀ path file, lastFile? entries path = some file →
          restored.nodes.find? path = some file.node := by
  cases decoded : tape.entries with
  | error fault =>
      simp only [restore, decoded] at done
      cases done
  | ok entries =>
      rw [restore_eq_ok_iff decoded] at done
      have settled := settled_of_replay done
      have present := find?_of_replay done
      refine ⟨?_, entries, rfl, settled, present⟩
      rw [restore_eq_ok_iff decoded, replay_of_settled .zero settled, placeFiles_eq_self present,
        counted_of_replay done]

/-- One directory lies in a file, and one file of the tape is there with another content. -/
def furnished : Store :=
  .after [.write "/f" [120], .makeDirectory "/f/d", .write "/c" [120], .makeDirectory "/a",
    .write "/a/y" []]

/-- The untidy tape is restored twice into the furnished store. -/
theorem restore_restore_furnished :
    ∃ restored,
      (ofEntries "" "" untidy).restore furnished = (restored, .ok ⟨3, 1, 5⟩) ∧
      (ofEntries "" "" untidy).restore restored = (restored, .ok ⟨3, 1, 5⟩) ∧
      restored.nodes.find? "/f/d" = some .directory ∧
      restored.nodes.find? "/c" = some (.file []) ∧
      restored.nodes.find? "/a/b/x" = some (.file [0xc3, 0xa9]) := by
  have decoded : (ofEntries "" "" untidy).entries = .ok untidy := by
    rw [entries_ofEntries_eq, sortEntries, List.mergeSort_of_pairwise (by decide +kernel)]
  have counted : (replay furnished .zero untidy).2 = .ok ⟨3, 1, 5⟩ := by decide +kernel
  have done : (ofEntries "" "" untidy).restore furnished =
      ((replay furnished .zero untidy).1, .ok ⟨3, 1, 5⟩) := by
    rw [restore_eq_ok_iff decoded, ← counted]
  refine ⟨_, done, (restore_restore _ done).1, ?_, ?_, ?_⟩
  · decide +kernel
  · decide +kernel
  · decide +kernel

end Tape

end TapeShell
