/-
This file shows that a tape has its entries in one order, in which every directory comes before what
lies in it.
-/

import TapeShell.Proofs.Repetition

namespace TapeShell

namespace Store

/-- What is retained twice is retained. -/
theorem Retains.trans {first second third : Store} (before : first.Retains second)
    (after : second.Retains third) : first.Retains third :=
  fun path kind there => after path kind (before path kind there)

end Store

namespace Tape

section Order

variable {entries others : List Entry}

/-- Entries have the same rank exactly if they agree in kind and path. -/
theorem Entry.rank_eq_iff (left right : Entry) :
    left.rank = right.rank ↔ left.kind = right.kind ∧ left.path = right.path := by
  rw [Entry.rank, Entry.rank, toLex_inj, Prod.mk.injEq, toLex_inj, Prod.mk.injEq, isFile_eq_iff]
  constructor
  · rintro ⟨kinds, -, paths⟩
    exact ⟨kinds, paths⟩
  · rintro ⟨kinds, paths⟩
    exact ⟨kinds, congrArg _ paths, paths⟩

/-- No two entries have the same kind and the same path. -/
def Distinct (entries : List Entry) : Prop :=
  (entries.map fun entry => (entry.kind, entry.path)).Nodup

/-- Entries of different rank are sorted in one way only. -/
theorem sortEntries_perm (distinct : Distinct entries) (permuted : entries.Perm others) :
    sortEntries others = sortEntries entries := by
  have sorted := List.mergeSort_perm entries Entry.before
  have otherSorted := List.mergeSort_perm others Entry.before
  refine List.Perm.eq_of_pairwise ?_ (pairwise_sortEntries others)
    (pairwise_sortEntries entries) (otherSorted.trans (permuted.symm.trans sorted.symm))
  intro left right inLeft inRight below above
  have same := (Entry.rank_eq_iff left right).mp (le_antisymm below above)
  refine List.inj_on_of_nodup_map distinct ?_ (sorted.mem_iff.mp inRight)
    (Prod.ext same.1 same.2)
  exact permuted.mem_iff.mpr (otherSorted.mem_iff.mp inLeft)

end Order

section Turn

variable {entries earlier later : List Entry} {entry other : Entry} {store before : Store}
  {stats counted : Stats}

/-- The entry is the directory in which the other one lies. -/
def Entry.Houses (directory entry : Entry) : Prop :=
  directory.kind = .directory ∧ directory.path = Path.parent entry.path

/-- The entry stands for the root. -/
def Entry.IsRoot (entry : Entry) : Prop :=
  entry.kind = .directory ∧ entry.path = Path.root

/-- The parent of the entry is there, and replaying the entry changes nothing but its own path. -/
structure Entry.Housed (store : Store) (entry : Entry) : Prop where
  inside : store.isDirectory (Path.parent entry.path) = true
  alone : ∀ changed, replayEntry store entry = .ok changed →
    ∀ path, path ≠ entry.path → changed.nodes.find? path = store.nodes.find? path

/-- A replay retains what was stored before it. -/
theorem retains_of_replay (done : replay store stats entries = (before, .ok counted)) :
    store.Retains before := by
  induction entries using List.reverseRecOn generalizing before counted with
  | nil =>
      cases done
      exact .refl store
  | append_singleton earlier entry inductionHypothesis =>
      obtain ⟨changed, _, replayed, lastReplayed, -⟩ := replay_append_eq_ok_iff.mp done
      exact (inductionHypothesis replayed).trans (retains_of_replayEntry lastReplayed)

/-- An entry whose directory is stored is housed. -/
theorem housed_of_inside (normal : Path.isNormal entry.path = true)
    (inside : store.nodes.find? (Path.parent entry.path) = some .directory) :
    entry.Housed store where
  inside := by
    rw [Store.isDirectory, Store.node?, Path.normalize_of_isNormal (Path.isNormal_parent normal),
      inside]
    rfl
  alone changed done path other := by
    cases kind : entry.kind with
    | directory =>
        rw [replayEntry, kind] at done
        rw [Store.find?_makeDirectory done, if_neg]
        intro missing
        rw [Path.normalize_of_isNormal normal, Store.missing_of_inside normal inside] at missing
        split at missing
        next => cases missing
        next => exact other (List.mem_singleton.mp missing)
    | file =>
        obtain ⟨-, rfl⟩ := (replayEntry_file store.hasDirectories_self kind changed).mp done
        rw [Table.find?_insert, Path.normalize_of_isNormal normal, if_neg (Ne.symm other)]

/-- The entry for a directory ranks before everything in it. -/
theorem rank_lt_of_houses (normal : Path.isNormal entry.path = true) (notRoot : ¬ entry.IsRoot)
    (houses : other.Houses entry) : other.rank < entry.rank := by
  by_cases top : entry.path = Path.root
  · have file : entry.kind = .file := by
      cases kind : entry.kind with
      | file => rfl
      | directory => exact absurd ⟨kind, top⟩ notRoot
    rw [Entry.rank, Entry.rank, Prod.Lex.toLex_lt_toLex, isFile_lt_iff]
    exact .inl ⟨houses.1, file⟩
  · exact rank_lt_of_parent normal top houses.2 houses.1

/-- An entry other than the root comes after the directory in which it lies. -/
theorem earlier_of_houses (normal : ∀ entry ∈ entries, Path.isNormal entry.path = true)
    (sorted : sortEntries entries = earlier ++ entry :: later) (notRoot : ¬ entry.IsRoot)
    (listed : other ∈ entries) (houses : other.Houses entry) :
    other ∈ earlier ∧ other ∉ entry :: later := by
  have permuted : (sortEntries entries).Perm entries := List.mergeSort_perm entries Entry.before
  have ordered := pairwise_sortEntries entries
  rw [sorted] at permuted ordered
  have entryNormal := normal entry (permuted.mem_iff.mp (by simp))
  have notLater := not_mem_of_rank_lt ordered (rank_lt_of_houses entryNormal notRoot houses)
  exact ⟨(List.mem_append.mp (permuted.mem_iff.mpr listed)).resolve_right notLater, notLater⟩

/-- On the turn of an entry, the directory in which it lies was replayed. -/
theorem housed_of_replay (normal : ∀ entry ∈ entries, Path.isNormal entry.path = true)
    (sorted : sortEntries entries = earlier ++ entry :: later) (listed : other ∈ entries)
    (houses : other.Houses entry) (rooted : store.isDirectory Path.root = true)
    (done : replay store stats earlier = (before, .ok counted)) : entry.Housed before := by
  have entryListed : entry ∈ entries := by
    rw [← (List.mergeSort_perm entries Entry.before).mem_iff, ← sortEntries, sorted]
    simp
  apply housed_of_inside (normal entry entryListed)
  by_cases isRoot : entry.IsRoot
  · -- The root lies in itself, and it was there from the start.
    rw [Store.isDirectory, Store.node?, Path.normalize_of_isNormal Path.isNormal_root,
      beq_iff_eq, ← Store.kind?_eq_directory] at rooted
    rw [isRoot.2, Path.parent_root, ← Store.kind?_eq_directory]
    exact retains_of_replay done _ _ rooted
  · have inEarlier := (earlier_of_houses normal sorted isRoot listed houses).1
    have settled := (settled_of_replay done other inEarlier).kind
    rwa [houses.1, Store.kind?_eq_directory, Path.normalize_of_isNormal (normal other listed),
      houses.2] at settled

end Turn

/-- Distinct entries have one arrangement, in which each but the root follows its directory. -/
theorem sortEntries_arranged (entries : List Entry) :
    (sortEntries entries).Perm entries ∧
    (sortEntries entries).Pairwise (fun left right => left.rank ≤ right.rank) ∧
    (Distinct entries → ∀ others, entries.Perm others →
      sortEntries others = sortEntries entries ∧
        ∀ created label otherCreated otherLabel,
          (ofEntries otherCreated otherLabel others).data =
              (ofEntries created label entries).data ∧
            (ofEntries otherCreated otherLabel others).checksum =
              (ofEntries created label entries).checksum ∧
            (ofEntries otherCreated otherLabel others).stats =
              (ofEntries created label entries).stats) ∧
    (∀ created label, (ofEntries created label entries).entries = .ok (sortEntries entries)) ∧
    ((∀ entry ∈ entries, Path.normalize entry.path = entry.path) →
      ∀ earlier entry later, sortEntries entries = earlier ++ entry :: later →
        ∀ other ∈ entries, other.Houses entry →
          (entry.IsRoot ∨ other ∈ earlier ∧ other ∉ entry :: later) ∧
          ∀ store : Store, store.isDirectory Path.root = true →
            ∀ stats before counted, replay store stats earlier = (before, .ok counted) →
              entry.Housed before) := by
  refine ⟨List.mergeSort_perm entries Entry.before, pairwise_sortEntries entries,
    fun distinct others reordered => ?_,
    fun created label => entries_ofEntries_eq created label entries,
    fun normalized earlier entry later sorted => ?_⟩
  · have same := sortEntries_perm distinct reordered
    refine ⟨same, fun created label otherCreated otherLabel => ?_⟩
    simp only [ofEntries, same, and_self]
  · have normal : ∀ entry ∈ entries, Path.isNormal entry.path = true := by
      intro entry member
      rw [← normalized entry member]
      exact Path.isNormal_normalize entry.path
    intro other listed houses
    refine ⟨or_iff_not_imp_left.mpr fun notRoot => ?_, fun store rooted stats before counted => ?_⟩
    · exact earlier_of_houses normal sorted notRoot listed houses
    · exact housed_of_replay normal sorted listed houses rooted

/-- The root has as many slashes as the directory in it. -/
def gathered : List Entry :=
  [⟨"/", .directory, none, "", "", none⟩, ⟨"/a", .directory, none, "", "", none⟩,
    ⟨"/a/b", .directory, none, "", "", none⟩, ⟨"/a/b/x", .file, none, "", "", some "x"⟩]

/-- The entries are gathered in reverse, and the third one finds its directory. -/
theorem sortEntries_arranged_gathered :
    sortEntries gathered.reverse = gathered ∧
      (ofEntries "now" "copy" gathered).data = (ofEntries "" "" gathered.reverse).data ∧
      ∃ before, replay .fresh .zero (gathered.take 2) = (before, .ok ⟨0, 2, 0⟩) ∧
        (⟨"/a/b", .directory, none, "", "", none⟩ : Entry).Housed before := by
  obtain ⟨-, -, reorders, -, houses⟩ := sortEntries_arranged gathered.reverse
  have distinct : Distinct gathered.reverse := by
    unfold Distinct
    decide +kernel
  obtain ⟨same, tapes⟩ := reorders distinct gathered (List.reverse_perm gathered)
  have sorted : sortEntries gathered = gathered := List.mergeSort_of_pairwise (by decide +kernel)
  rw [sorted] at same
  have counted : (replay .fresh .zero (gathered.take 2)).2 = .ok ⟨0, 2, 0⟩ := by decide +kernel
  have done : replay .fresh .zero (gathered.take 2) = (_, .ok ⟨0, 2, 0⟩) := Prod.ext rfl counted
  refine ⟨same.symm, (tapes "" "" "now" "copy").1, _, done, ?_⟩
  exact (houses (by decide +kernel) (gathered.take 2) _ _ same.symm
    ⟨"/a", .directory, none, "", "", none⟩ (by decide) ⟨rfl, by decide +kernel⟩).2 .fresh
    (by decide +kernel) _ _ _ done

end Tape

end TapeShell
