/-
This file shows that a file tree comes back from the tape that was taken of it.
-/

import TapeShell.Proofs.Envelope
import TapeShell.Proofs.Walk
import TapeShell.Tape.Backup

namespace TapeShell

/-- A file on a tape is text, and what is not text is replaced. -/
def Node.asText : Node → Node
  | .directory => .directory
  | .file content => .file (Text.Utf8.encode (Text.Utf8.decodeLossy content))

namespace Tape

section Collect

variable {store : Store} {directory : String}

/-- A loop whose every round succeeds collects what the rounds have found. -/
theorem flatMapM_eq_ok {α β ε : Type} {items : List α} {read : α → Except ε (List β)}
    (found : α → List β) (each : ∀ item ∈ items, read item = .ok (found item)) :
    items.flatMapM read = .ok (items.flatMap found) := by
  induction items with
  | nil => rfl
  | cons item items inductionHypothesis =>
      obtain ⟨first, others⟩ := List.forall_mem_cons.mp each
      rw [List.flatMapM_cons, first, inductionHypothesis others]
      rfl

/-- No stored path is refused, so the collection is the walk. -/
theorem collect_eq (grounded : store.Grounded) (stamp : String)
    (stored : store.nodes.find? directory = some .directory) :
    collect stamp store directory = .ok ((store.walkFrom directory).map (entryOf stamp)) := by
  induction directory using store.walkInduction with
  | step directory inductionHypothesis =>
      have listed := Store.list_of_stored (grounded.normal directory _ stored) stored
      rw [collect]
      -- The listing is matched together with its equation, so it cannot be rewritten in place.
      split
      next fault failed =>
        rw [listed] at failed
        cases failed
      next children succeeded =>
        rw [listed] at succeeded
        cases succeeded
        rw [Store.walkFrom_eq, List.map_flatMap, flatMapM_eq_ok fun child =>
          (store.walkChild directory child.val).map (entryOf stamp)]
        · simp
        · rintro ⟨⟨name, node⟩, member⟩ _
          have childStored := store.nodes.find?_eq_some_iff.mpr (Store.mem_children_iff.mp member).2
          cases node with
          | directory =>
              have deeper := inductionHypothesis _ member childStored
              simp [deeper, Store.walkChild, entryOf]
          | file content =>
              have text := Store.readText_of_stored (grounded.normal _ _ childStored) childStored
              simp [text, Store.walkChild, entryOf]

/-- A grounded store is always taken on a tape. -/
theorem ofStore_eq (grounded : store.Grounded) (stamp created label : String) :
    ofStore stamp created label store = .ok (capture stamp created label store) := by
  rw [ofStore, collect_eq grounded stamp grounded.rooted]
  rfl

end Collect

section Replay

/-- This is what an entry leaves in a store. -/
def Entry.node (entry : Entry) : Node :=
  match entry.kind with
  | .directory => .directory
  | .file => .file (Text.Utf8.encode (entry.content.getD ""))

/-- The entries are put into a table one after another. -/
def place (nodes : Table Node) (entries : List Entry) : Table Node :=
  entries.foldl (fun nodes entry => nodes.insert entry.path entry.node) nodes

variable {nodes : Table Node} {entries : List Entry} {entry : Entry}

/-- The last entry is placed last. -/
theorem place_append (nodes : Table Node) (entries : List Entry) (entry : Entry) :
    place nodes (entries ++ [entry]) = (place nodes entries).insert entry.path entry.node := by
  simp [place]

/-- A path that no entry has keeps what is stored there. -/
theorem find?_place_of_not_mem {path : String} (absent : path ∉ entries.map Entry.path) :
    (place nodes entries).find? path = nodes.find? path := by
  induction entries using List.reverseRecOn with
  | nil => rfl
  | append_singleton earlier entry inductionHypothesis =>
      rw [List.map_append, List.mem_append, not_or] at absent
      rw [place_append, Table.find?_insert, if_neg, inductionHypothesis absent.1]
      rintro rfl
      exact absent.2 List.mem_cons_self

/-- A path that one entry has holds what the entry leaves. -/
theorem find?_place_of_mem (nodes : Table Node) (distinct : (entries.map Entry.path).Nodup)
    (member : entry ∈ entries) : (place nodes entries).find? entry.path = some entry.node := by
  induction entries using List.reverseRecOn with
  | nil => cases member
  | append_singleton earlier last inductionHypothesis =>
      rw [List.map_append, List.map_singleton, List.nodup_append_comm, List.singleton_append,
        List.nodup_cons] at distinct
      rw [place_append, Table.find?_insert]
      rcases List.mem_append.mp member with inEarlier | isLast
      · rw [if_neg, inductionHypothesis distinct.2 inEarlier]
        intro same
        exact distinct.1 (same ▸ List.mem_map_of_mem inEarlier)
      · rw [List.mem_singleton.mp isLast, if_pos rfl]

/-- A new entry in a directory that is there is put into the store. -/
theorem replayEntry_eq {store : Store} (normal : Path.isNormal entry.path = true)
    (absent : store.nodes.find? entry.path = none)
    (inside : store.nodes.find? (Path.parent entry.path) = some .directory) :
    replayEntry store entry = .ok ⟨store.nodes.insert entry.path entry.node⟩ := by
  have normalized := Path.normalize_of_isNormal normal
  cases kind : entry.kind with
  | directory =>
      have alone : store.missing entry.path = [entry.path] := by
        rw [Store.missing_of_inside normal inside]
        simp [Table.contains, absent]
      simp [replayEntry, kind, Store.makeDirectory, normalized, absent, alone, Entry.node]
  | file => simp [replayEntry, kind, Store.write, normalized, absent, inside, Entry.node]

/-- What follows entries that were all replayed is replayed from where they lead. -/
theorem replay_append {store changed : Store} {stats counted : Stats}
    (done : replay store stats entries = (changed, .ok counted)) (more : List Entry) :
    replay store stats (entries ++ more) = replay changed counted more := by
  induction entries generalizing store stats with
  | nil =>
      cases done
      rfl
  | cons first rest inductionHypothesis =>
      rw [List.cons_append, replay]
      rw [replay] at done
      split at done
      next => exact inductionHypothesis done
      next => cases done

/-- The entries describe a tree without its root, and they are in order. -/
structure Restorable (entries : List Entry) : Prop where
  normal : ∀ entry ∈ entries, Path.isNormal entry.path = true
  notRoot : ∀ entry ∈ entries, entry.path ≠ Path.root
  distinct : (entries.map Entry.path).Nodup
  ordered : entries.Pairwise fun left right => left.rank ≤ right.rank
  parented : ∀ entry ∈ entries, Path.parent entry.path = Path.root ∨
    ∃ other ∈ entries, other.path = Path.parent entry.path ∧ other.kind = .directory

/-- A directory comes before everything that lies in it. -/
theorem rank_lt_of_parent {other : Entry} (normal : Path.isNormal entry.path = true)
    (notRoot : entry.path ≠ Path.root) (parent : other.path = Path.parent entry.path)
    (directory : other.kind = .directory) : other.rank < entry.rank := by
  rw [Entry.rank, Entry.rank, Prod.Lex.toLex_lt_toLex, Prod.Lex.toLex_lt_toLex, isFile_lt_iff,
    isFile_eq_iff, parent, directory]
  cases kind : entry.kind with
  | file => exact .inl ⟨rfl, rfl⟩
  | directory =>
      by_cases top : Path.parent entry.path = Path.root
      · rw [top]
        exact .inr ⟨rfl, .inr (Path.root_before normal notRoot top)⟩
      · have shallow := Path.occurrences_parent normal notRoot top
        exact .inr ⟨rfl, .inl (by omega)⟩

/-- In order of rank an entry comes after everything of a lower rank. -/
theorem not_mem_of_rank_lt {other : Entry} {earlier later : List Entry}
    (ordered : (earlier ++ entry :: later).Pairwise fun left right => left.rank ≤ right.rank)
    (lower : other.rank < entry.rank) : other ∉ entry :: later := by
  have behind := (List.pairwise_cons.mp (List.pairwise_append.mp ordered).2.1).1
  intro member
  rcases List.mem_cons.mp member with rfl | inLater
  · exact lt_irrefl _ lower
  · exact not_lt_of_ge (behind other inLater) lower

namespace Restorable

variable {earlier later : List Entry}

/-- The directory of an entry is the root or stands on the tape before it. -/
theorem parent_earlier (restorable : Restorable (earlier ++ entry :: later)) :
    Path.parent entry.path = Path.root ∨
      ∃ other ∈ earlier, other.path = Path.parent entry.path ∧ other.kind = .directory := by
  have listed : entry ∈ earlier ++ entry :: later := by simp
  rcases restorable.parented entry listed with top | ⟨other, member, parent, directory⟩
  · exact .inl top
  · have lower := rank_lt_of_parent (restorable.normal entry listed)
      (restorable.notRoot entry listed) parent directory
    have notLater := not_mem_of_rank_lt restorable.ordered lower
    exact .inr ⟨other, (List.mem_append.mp member).resolve_right notLater, parent, directory⟩

/-- An entry is not there before its turn. -/
theorem find?_place_self (restorable : Restorable (earlier ++ entry :: later)) :
    (place Store.fresh.nodes earlier).find? entry.path = none := by
  have listed : entry ∈ earlier ++ entry :: later := by simp
  have distinct := restorable.distinct
  rw [List.map_append, List.map_cons, List.nodup_middle, List.nodup_cons] at distinct
  rw [find?_place_of_not_mem (mt (List.mem_append_left _) distinct.1), Store.find?_fresh,
    if_neg (restorable.notRoot entry listed).symm]

/-- The parent of an entry is there before its turn. -/
theorem find?_place_parent (restorable : Restorable (earlier ++ entry :: later)) :
    (place Store.fresh.nodes earlier).find? (Path.parent entry.path) = some .directory := by
  have distinct := restorable.distinct
  rw [List.map_append, List.nodup_append] at distinct
  rcases restorable.parent_earlier with top | ⟨other, member, parent, directory⟩
  · rw [top, find?_place_of_not_mem, Store.find?_fresh, if_pos rfl]
    intro member
    obtain ⟨other, inEarlier, isRoot⟩ := List.mem_map.mp member
    exact restorable.notRoot other (List.mem_append_left _ inEarlier) isRoot
  · rw [← parent, find?_place_of_mem _ distinct.1 member, Entry.node, directory]

/-- No entry is refused on its turn, so the entries are placed one after another. -/
theorem replay_prefix (restorable : Restorable entries) (isPrefix : earlier <+: entries) :
    replay Store.fresh .zero earlier =
      (⟨place Store.fresh.nodes earlier⟩, .ok (earlier.foldl Stats.count .zero)) := by
  induction earlier using List.reverseRecOn with
  | nil => rfl
  | append_singleton earlier entry inductionHypothesis =>
      have done := inductionHypothesis ((List.prefix_append _ _).trans isPrefix)
      obtain ⟨later, whole⟩ := isPrefix
      rw [List.append_assoc, List.singleton_append] at whole
      subst whole
      have stepped : replayEntry ⟨place Store.fresh.nodes earlier⟩ entry =
          .ok ⟨(place Store.fresh.nodes earlier).insert entry.path entry.node⟩ :=
        replayEntry_eq (restorable.normal entry (by simp)) restorable.find?_place_self
          restorable.find?_place_parent
      rw [replay_append done [entry], replay, stepped, place_append, List.foldl_append]
      rfl

end Restorable

end Replay

section Snapshot

variable {store : Store} (stamp : String)

/-- The snapshot of a tree holds an entry for each stored path but the root. -/
theorem mem_snapshot_iff (grounded : store.Grounded) (parented : store.Parented) {entry : Entry} :
    entry ∈ snapshot stamp store ↔ ∃ path node,
      (store.nodes.find? path = some node ∧ path ≠ Path.root) ∧
        entryOf stamp (path, node) = entry := by
  simp only [snapshot, List.mem_map, Prod.exists, Store.mem_walk_iff grounded parented]

/-- An entry keeps its path. -/
@[simp]
theorem path_entryOf (path : String) (node : Node) :
    (entryOf stamp (path, node)).path = path := by
  cases node <;> rfl

/-- An entry leaves what it was made of, as text. -/
@[simp]
theorem node_entryOf (path : String) (node : Node) :
    (entryOf stamp (path, node)).node = node.asText := by
  cases node <;> rfl

/-- The snapshot has the paths of the walk in their order. -/
theorem map_path_snapshot (store : Store) :
    (snapshot stamp store).map Entry.path = store.walk.map Prod.fst := by
  rw [snapshot, List.map_map]
  exact List.map_congr_left fun (path, node) _ => path_entryOf stamp path node

/-- Sorting the snapshot adds and drops no entry. -/
theorem mem_sorted_iff (grounded : store.Grounded) (parented : store.Parented) {entry : Entry} :
    entry ∈ sortEntries (snapshot stamp store) ↔ ∃ path node,
      (store.nodes.find? path = some node ∧ path ≠ Path.root) ∧
        entryOf stamp (path, node) = entry := by
  rw [(stableSort_sortEntries _).permutation.mem_iff, mem_snapshot_iff stamp grounded parented]

/-- No two entries of the sorted snapshot share a path. -/
theorem nodup_path_sorted (store : Store) :
    ((sortEntries (snapshot stamp store)).map Entry.path).Nodup := by
  rw [((stableSort_sortEntries _).permutation.map Entry.path).nodup_iff, map_path_snapshot]
  exact store.nodup_walkFrom Path.root

/-- A tree is put on the tape in an order in which it can be restored. -/
theorem restorable_snapshot (grounded : store.Grounded) (parented : store.Parented) :
    Restorable (sortEntries (snapshot stamp store)) where
  normal entry member := by
    obtain ⟨path, node, ⟨stored, -⟩, rfl⟩ := (mem_sorted_iff stamp grounded parented).mp member
    simpa using grounded.normal path node stored
  notRoot entry member := by
    obtain ⟨path, node, ⟨-, notRoot⟩, rfl⟩ := (mem_sorted_iff stamp grounded parented).mp member
    simpa using notRoot
  distinct := nodup_path_sorted stamp store
  ordered := pairwise_sortEntries _
  parented entry member := by
    obtain ⟨path, node, ⟨stored, notRoot⟩, rfl⟩ :=
      (mem_sorted_iff stamp grounded parented).mp member
    rw [path_entryOf]
    by_cases top : Path.parent path = Path.root
    · exact .inl top
    · refine .inr ⟨entryOf stamp (Path.parent path, .directory), ?_, rfl, rfl⟩
      exact (mem_sorted_iff stamp grounded parented).mpr
        ⟨_, _, ⟨parented path node stored notRoot, top⟩, rfl⟩

/-- The sorted snapshot has every stored path but the root. -/
theorem mem_path_sorted_iff (grounded : store.Grounded) (parented : store.Parented)
    (path : String) :
    path ∈ (sortEntries (snapshot stamp store)).map Entry.path ↔
      path ≠ Path.root ∧ store.nodes.contains path = true := by
  rw [List.mem_map]
  constructor
  · rintro ⟨entry, member, rfl⟩
    obtain ⟨path, node, ⟨stored, notRoot⟩, rfl⟩ :=
      (mem_sorted_iff stamp grounded parented).mp member
    rw [path_entryOf, Table.contains, stored]
    exact ⟨notRoot, rfl⟩
  · rintro ⟨notRoot, there⟩
    obtain ⟨node, stored⟩ := Option.isSome_iff_exists.mp there
    exact ⟨_, (mem_sorted_iff stamp grounded parented).mpr ⟨path, node, ⟨stored, notRoot⟩, rfl⟩,
      path_entryOf stamp path node⟩

/-- The paths of a tape are those of the tree, each once, without the root. -/
theorem count_path_sorted (grounded : store.Grounded) (parented : store.Parented)
    (path : String) :
    ((sortEntries (snapshot stamp store)).map Entry.path).count path =
      if path ≠ Path.root ∧ store.nodes.contains path = true then 1 else 0 := by
  rw [(nodup_path_sorted stamp store).count]
  simp only [mem_path_sorted_iff stamp grounded parented]

/-- What was placed is the tree again, with every file as text. -/
theorem find?_place_sorted (grounded : store.Grounded) (parented : store.Parented)
    (path : String) :
    (place Store.fresh.nodes (sortEntries (snapshot stamp store))).find? path =
      (store.nodes.find? path).map Node.asText := by
  have listed := mem_path_sorted_iff stamp grounded parented path
  by_cases isRoot : path = Path.root
  · rw [find?_place_of_not_mem (mt listed.mp fun there => there.1 isRoot), Store.find?_fresh,
      if_pos isRoot.symm, isRoot, grounded.rooted]
    rfl
  · cases stored : store.nodes.find? path with
    | none =>
        have absent : ¬ store.nodes.contains path = true := by simp [Table.contains, stored]
        rw [find?_place_of_not_mem (mt listed.mp fun there => absent there.2), Store.find?_fresh,
          if_neg (Ne.symm isRoot)]
        rfl
    | some node =>
        have member := (mem_sorted_iff stamp grounded parented).mpr
          ⟨path, node, ⟨stored, isRoot⟩, rfl⟩
        have placed := find?_place_of_mem Store.fresh.nodes (nodup_path_sorted stamp store) member
        rw [path_entryOf, node_entryOf] at placed
        rw [placed, Option.map_some]

end Snapshot

section Counts

/-- The count of files grows by the number of files. -/
theorem files_foldl_count (entries : List Entry) (stats : Stats) :
    (entries.foldl Stats.count stats).files =
      stats.files + UInt64.ofNat (entries.filter isFile).length := by
  induction entries generalizing stats with
  | nil => simp
  | cons entry entries inductionHypothesis =>
      rw [List.foldl_cons, inductionHypothesis]
      cases kind : entry.kind with
      | directory => simp [Stats.count, isFile, kind]
      | file =>
          simp [Stats.count, isFile, kind, UInt64.ofNat_add, UInt64.add_assoc, UInt64.add_comm]

/-- The count of directories grows by the number of other entries. -/
theorem directories_foldl_count (entries : List Entry) (stats : Stats) :
    (entries.foldl Stats.count stats).directories =
      stats.directories + UInt64.ofNat (entries.length - (entries.filter isFile).length) := by
  induction entries generalizing stats with
  | nil => simp
  | cons entry entries inductionHypothesis =>
      have bound := List.length_filter_le isFile entries
      rw [List.foldl_cons, inductionHypothesis]
      cases kind : entry.kind with
      | directory =>
          have one : entries.length + 1 - (entries.filter isFile).length =
              entries.length - (entries.filter isFile).length + 1 := by omega
          simp [Stats.count, isFile, kind, UInt64.ofNat_add, UInt64.add_assoc, UInt64.add_comm, one]
      | file => simp [Stats.count, isFile, kind]

end Counts

/-- A tree comes back from its tape, with the text of every file. -/
theorem restore_ofStore (stamp created label : String) {store : Store}
    (grounded : store.Grounded) (parented : store.Parented) :
    ∃ tape entries restored stats,
      ofStore stamp created label store = .ok tape ∧ parse tape.render = .ok tape ∧
      tape.entries = .ok entries ∧
      (∀ path, (entries.map Entry.path).count path =
        if path ≠ Path.root ∧ store.nodes.contains path = true then 1 else 0) ∧
      tape.restore Store.fresh = (restored, .ok stats) ∧
      (∀ path, restored.nodes.find? path = (store.nodes.find? path).map Node.asText) ∧
      (∀ path text, store.nodes.find? path = some (.file (Text.Utf8.encode text)) →
        restored.nodes.find? path = some (.file (Text.Utf8.encode text))) ∧
      stats.files = tape.stats.files ∧ stats.directories = tape.stats.directories := by
  have restorable := restorable_snapshot stamp grounded parented
  have found := find?_place_sorted stamp grounded parented
  refine ⟨capture stamp created label store, sortEntries (snapshot stamp store),
    ⟨place Store.fresh.nodes (sortEntries (snapshot stamp store))⟩,
    (sortEntries (snapshot stamp store)).foldl Stats.count .zero,
    ofStore_eq grounded stamp created label, parse_render_of_format rfl,
    entries_ofEntries_eq created label _, count_path_sorted stamp grounded parented, ?_, found,
    ?_, ?_, ?_⟩
  · rw [restore, capture, entries_ofEntries_eq]
    simp only [restorable.replay_prefix (List.prefix_refl _)]
    rfl
  · intro path text stored
    rw [found, stored, Option.map_some, Node.asText, Text.Utf8.decodeLossy_encode]
  · exact (files_foldl_count _ _).trans (UInt64.zero_add _)
  · exact (directories_foldl_count _ _).trans (UInt64.zero_add _)

/-- One directory lies in another, one name holds a space, and one file is not UTF-8. -/
def cabinet : Store :=
  Store.after [.makeDirectory "/a/b", .write "/a/b/x y" [0x68, 0xff], .write "/c" [0xc3, 0xa9]]

/-- The cabinet comes back from its tape, with the broken text replaced. -/
theorem restore_ofStore_cabinet :
    cabinet.Grounded ∧ cabinet.Parented ∧ ∃ tape restored stats,
      ofStore "first" "later" "" cabinet = .ok tape ∧ parse tape.render = .ok tape ∧
      tape.restore Store.fresh = (restored, .ok stats) ∧
      restored.nodes.find? "/a/b" = some .directory ∧
      restored.nodes.find? "/a/b/x y" = some (.file [0x68, 0xef, 0xbf, 0xbd]) ∧
      restored.nodes.find? "/c" = some (.file [0xc3, 0xa9]) := by
  have grounded : cabinet.Grounded := Store.after_grounded _
  have inside : ∀ entry ∈ cabinet.nodes.entries, entry.1 ≠ Path.root →
      cabinet.nodes.find? (Path.parent entry.1) = some .directory := by
    decide +kernel
  have parented : cabinet.Parented := fun path node stored =>
    inside (path, node) (cabinet.nodes.find?_eq_some_iff.mp stored)
  obtain ⟨tape, _, restored, stats, taken, readBack, _, _, done, found, _⟩ :=
    restore_ofStore "first" "later" "" grounded parented
  refine ⟨grounded, parented, tape, restored, stats, taken, readBack, done, ?_, ?_, ?_⟩
  · rw [found]
    decide +kernel
  · rw [found]
    decide +kernel
  · rw [found]
    decide +kernel

end Tape

end TapeShell
