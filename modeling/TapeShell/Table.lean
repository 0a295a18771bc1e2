/-
This file defines finite maps from text to values, kept in ascending order of their keys.
-/

import TapeShell.Text.Search

namespace TapeShell

/-- The keys of a table are strictly ascending, so every key occurs once. -/
structure Table (α : Type) where
  entries : List (String × α)
  ascending : entries.Pairwise fun left right => left.1 < right.1

namespace Table

variable {α : Type}

def empty : Table α := ⟨[], List.Pairwise.nil⟩

def lookupIn (key : String) (entries : List (String × α)) : Option α :=
  (entries.find? fun entry => entry.1 == key).map Prod.snd

def find? (table : Table α) (key : String) : Option α :=
  lookupIn key table.entries

def contains (table : Table α) (key : String) : Bool :=
  (table.find? key).isSome

def keys (table : Table α) : List String :=
  table.entries.map Prod.fst

def size (table : Table α) : Nat :=
  table.entries.length

/-- A value replaces the one that was stored under its key. -/
def insertEntry (key : String) (value : α) : List (String × α) → List (String × α)
  | [] => [(key, value)]
  | entry :: rest =>
      if key < entry.1 then (key, value) :: entry :: rest
      else if key = entry.1 then (key, value) :: rest
      else entry :: insertEntry key value rest

/-- Only the new entry is added. -/
theorem mem_insertEntry {key : String} {value : α} {entry : String × α}
    {entries : List (String × α)} (member : entry ∈ insertEntry key value entries) :
    entry = (key, value) ∨ entry ∈ entries := by
  induction entries with
  | nil => simpa [insertEntry] using member
  | cons first rest inductionHypothesis =>
      simp only [insertEntry] at member
      split at member
      · simpa using member
      · split at member
        · rcases List.mem_cons.mp member with isNew | inRest
          · exact .inl isNew
          · exact .inr (List.mem_cons_of_mem _ inRest)
        · rcases List.mem_cons.mp member with isFirst | inRest
          · exact .inr (isFirst ▸ List.mem_cons_self)
          · exact (inductionHypothesis inRest).imp_right (List.mem_cons_of_mem _)

/-- Different keys are in one order or the other. -/
theorem key_lt_of_not_lt {left right : String} (notBelow : ¬ left < right)
    (different : left ≠ right) : right < left :=
  Decidable.byContradiction fun notAbove =>
    different (String.le_antisymm (String.not_lt.mp notAbove) (String.not_lt.mp notBelow))

/-- An insertion keeps the order of the keys. -/
theorem ascending_insertEntry (key : String) (value : α) {entries : List (String × α)}
    (ascending : entries.Pairwise fun left right => left.1 < right.1) :
    (insertEntry key value entries).Pairwise fun left right => left.1 < right.1 := by
  induction entries with
  | nil => simp [insertEntry]
  | cons first rest inductionHypothesis =>
      obtain ⟨firstBelow, restAscending⟩ := List.pairwise_cons.mp ascending
      simp only [insertEntry]
      split
      next keyBelow =>
        refine List.pairwise_cons.mpr ⟨fun entry member => ?_, ascending⟩
        rcases List.mem_cons.mp member with isFirst | inRest
        · exact isFirst ▸ keyBelow
        · exact String.lt_trans keyBelow (firstBelow entry inRest)
      next keyNotBelow =>
        split
        next same =>
          exact List.pairwise_cons.mpr
            ⟨fun entry inRest => same ▸ firstBelow entry inRest, restAscending⟩
        next different =>
          refine List.pairwise_cons.mpr
            ⟨fun entry member => ?_, inductionHypothesis restAscending⟩
          rcases mem_insertEntry member with isNew | inRest
          · exact isNew ▸ key_lt_of_not_lt keyNotBelow different
          · exact firstBelow entry inRest

def insert (table : Table α) (key : String) (value : α) : Table α :=
  ⟨insertEntry key value table.entries, ascending_insertEntry key value table.ascending⟩

def erase (table : Table α) (key : String) : Table α :=
  ⟨table.entries.filter fun entry => entry.1 != key, table.ascending.filter _⟩

/-- These entries follow one another from the first key that starts with `start`. -/
def stretch (table : Table α) (start : String) : List (String × α) :=
  (table.entries.dropWhile fun entry => entry.1 < start).takeWhile fun entry =>
    start.toList.isPrefixOf entry.1.toList

@[simp]
theorem lookupIn_nil (key : String) : lookupIn key ([] : List (String × α)) = none := rfl

/-- The first entry with the key is found. -/
theorem lookupIn_cons (key : String) (entry : String × α) (rest : List (String × α)) :
    lookupIn key (entry :: rest) = if entry.1 = key then some entry.2 else lookupIn key rest := by
  by_cases same : entry.1 = key <;> simp [lookupIn, same]

/-- An insertion is found under its key and hides no other. -/
theorem lookupIn_insertEntry (key other : String) (value : α) (entries : List (String × α)) :
    lookupIn other (insertEntry key value entries) =
      if key = other then some value else lookupIn other entries := by
  induction entries with
  | nil => simp [insertEntry, lookupIn_cons]
  | cons entry rest inductionHypothesis =>
      rw [insertEntry]
      split
      · rw [lookupIn_cons]
      · split
        next same => by_cases found : key = other <;> simp [lookupIn_cons, ← same, found]
        next different =>
          rw [lookupIn_cons, inductionHypothesis, lookupIn_cons]
          by_cases found : key = other
          · simp [found, show entry.1 ≠ other from fun equal => different (found.trans equal.symm)]
          · simp [found]

/-- What was filtered out is not found, and everything else is. -/
theorem lookupIn_filter (key other : String) (entries : List (String × α)) :
    lookupIn other (entries.filter fun entry => entry.1 != key) =
      if key = other then none else lookupIn other entries := by
  induction entries with
  | nil => simp
  | cons entry rest inductionHypothesis =>
      by_cases same : entry.1 = key
      · by_cases found : key = other <;> simp_all [lookupIn_cons]
      · by_cases found : key = other
        · have apart : entry.1 ≠ other := fun equal => same (equal.trans found.symm)
          simp_all [lookupIn_cons]
        · simp_all [lookupIn_cons]

@[simp]
theorem find?_empty (key : String) : (empty : Table α).find? key = none := rfl

/-- An insertion changes what is found under its key only. -/
theorem find?_insert (table : Table α) (key other : String) (value : α) :
    (table.insert key value).find? other = if key = other then some value else table.find? other :=
  lookupIn_insertEntry key other value table.entries

/-- A removal changes what is found under its key only. -/
theorem find?_erase (table : Table α) (key other : String) :
    (table.erase key).find? other = if key = other then none else table.find? other :=
  lookupIn_filter key other table.entries

/-- Exactly the entries are found. -/
theorem lookupIn_eq_some_iff {key : String} {value : α} {entries : List (String × α)}
    (ascending : entries.Pairwise fun left right => left.1 < right.1) :
    lookupIn key entries = some value ↔ (key, value) ∈ entries := by
  induction entries with
  | nil => simp
  | cons entry rest inductionHypothesis =>
      obtain ⟨below, restAscending⟩ := List.pairwise_cons.mp ascending
      rw [lookupIn_cons, List.mem_cons]
      split
      next same =>
        constructor
        · intro found
          exact .inl (Prod.ext same.symm (Option.some.inj found).symm)
        · rintro (isFirst | inRest)
          · rw [← isFirst]
          · -- A later entry has a larger key.
            have larger := below _ inRest
            rw [same] at larger
            exact absurd larger (String.lt_irrefl key)
      next different =>
        rw [inductionHypothesis restAscending]
        constructor
        · exact .inr
        · rintro (isFirst | inRest)
          · exact absurd (congrArg Prod.fst isFirst).symm different
          · exact inRest

/-- A table finds exactly its entries. -/
theorem find?_eq_some_iff (table : Table α) {key : String} {value : α} :
    table.find? key = some value ↔ (key, value) ∈ table.entries :=
  lookupIn_eq_some_iff table.ascending

/-- The keys are those that the table contains. -/
theorem mem_keys_iff (table : Table α) {key : String} :
    key ∈ table.keys ↔ table.contains key = true := by
  rw [contains, Option.isSome_iff_exists, keys]
  simp [find?_eq_some_iff]

section Stretch

variable {entries : List (String × α)} {start : String}

/-- Before the first key that is not less than `start`, no key starts with it. -/
theorem filter_dropWhile_lt (entries : List (String × α)) (start : String) :
    ((entries.dropWhile fun entry => entry.1 < start).filter fun entry =>
      start.toList.isPrefixOf entry.1.toList) =
        entries.filter fun entry => start.toList.isPrefixOf entry.1.toList := by
  induction entries with
  | nil => rfl
  | cons entry rest inductionHypothesis =>
      rw [List.dropWhile_cons]
      split
      next below =>
        have apart : ¬ start.toList.isPrefixOf entry.1.toList = true := by
          rw [List.isPrefixOf_iff_prefix]
          intro starts
          exact Text.not_lt_of_prefix starts (String.lt_iff.mp (of_decide_eq_true below))
        rw [inductionHypothesis, List.filter_cons, if_neg apart]
      next => rfl

/-- From the first key on that is not less than `start`, none is. -/
theorem not_lt_of_mem_dropWhile {entry : String × α}
    (ascending : entries.Pairwise fun left right => left.1 < right.1)
    (member : entry ∈ entries.dropWhile fun entry => entry.1 < start) : ¬ entry.1 < start := by
  induction entries with
  | nil => cases member
  | cons first rest inductionHypothesis =>
      obtain ⟨less, restAscending⟩ := List.pairwise_cons.mp ascending
      rw [List.dropWhile_cons] at member
      split at member
      next => exact inductionHypothesis restAscending member
      next notBelow =>
        intro below
        rcases List.mem_cons.mp member with rfl | inRest
        · exact notBelow (decide_eq_true below)
        · exact notBelow (decide_eq_true (String.lt_trans (less entry inRest) below))

/-- Among keys that are not less than `start`, those that start with it come first. -/
theorem takeWhile_eq_filter (ascending : entries.Pairwise fun left right => left.1 < right.1)
    (above : ∀ entry ∈ entries, ¬ entry.1 < start) :
    (entries.takeWhile fun entry => start.toList.isPrefixOf entry.1.toList) =
      entries.filter fun entry => start.toList.isPrefixOf entry.1.toList := by
  induction entries with
  | nil => rfl
  | cons entry rest inductionHypothesis =>
      obtain ⟨less, restAscending⟩ := List.pairwise_cons.mp ascending
      obtain ⟨entryAbove, restAbove⟩ := List.forall_mem_cons.mp above
      rw [List.takeWhile_cons, List.filter_cons]
      split
      next => rw [inductionHypothesis restAscending restAbove]
      next apart =>
        symm
        rw [List.filter_eq_nil_iff]
        intro later member starts
        rw [List.isPrefixOf_iff_prefix] at apart starts
        exact apart (Text.prefix_of_between (mt String.lt_iff.mpr entryAbove)
          (String.lt_iff.mp (less later member)) starts)

/-- The stretch leaves out no entry whose key starts with the text. -/
theorem stretch_eq_filter (table : Table α) (start : String) :
    table.stretch start =
      table.entries.filter fun entry => start.toList.isPrefixOf entry.1.toList := by
  have ascending : (table.entries.dropWhile fun entry => entry.1 < start).Pairwise
      fun left right => left.1 < right.1 :=
    table.ascending.sublist (List.dropWhile_sublist _)
  calc table.stretch start
      = (table.entries.dropWhile fun entry => entry.1 < start).filter fun entry =>
          start.toList.isPrefixOf entry.1.toList :=
        takeWhile_eq_filter ascending fun _ => not_lt_of_mem_dropWhile table.ascending
    _ = table.entries.filter fun entry => start.toList.isPrefixOf entry.1.toList :=
        filter_dropWhile_lt table.entries start

/-- A stretch holds the entries whose keys have the start. -/
theorem mem_stretch_iff (table : Table α) {entry : String × α} :
    entry ∈ table.stretch start ↔
      table.find? entry.1 = some entry.2 ∧ start.toList <+: entry.1.toList := by
  rw [stretch_eq_filter, List.mem_filter, List.isPrefixOf_iff_prefix, find?_eq_some_iff]

end Stretch

/-- An ascending list holds nothing twice. -/
theorem nodup_of_ascending {β : Type} (key : β → String) {items : List β}
    (ascending : items.Pairwise fun left right => key left < key right) : items.Nodup := by
  apply ascending.imp
  rintro item _ less rfl
  exact String.lt_irrefl (key item) less

/-- A table is known by what it finds. -/
@[ext]
theorem ext_find? {first second : Table α} (same : ∀ key, first.find? key = second.find? key) :
    first = second := by
  have alike : ∀ entry, entry ∈ first.entries ↔ entry ∈ second.entries := by
    rintro ⟨key, value⟩
    rw [← first.find?_eq_some_iff, ← second.find?_eq_some_iff, same]
  have permuted : first.entries.Perm second.entries :=
    (List.perm_ext_iff_of_nodup (nodup_of_ascending Prod.fst first.ascending)
      (nodup_of_ascending Prod.fst second.ascending)).mpr alike
  have equal : first.entries = second.entries := by
    refine List.Perm.eq_of_pairwise ?_ first.ascending second.ascending permuted
    intro left right _ _ less greater
    exact absurd (String.lt_trans less greater) (String.lt_irrefl _)
  cases first
  cases second
  congr

/-- Values under different keys can be stored in either order. -/
theorem insert_comm (table : Table α) {key other : String} (apart : key ≠ other)
    (value otherValue : α) :
    (table.insert key value).insert other otherValue =
      (table.insert other otherValue).insert key value := by
  ext place
  simp only [find?_insert]
  by_cases here : key = place
  · simp [here, show other ≠ place from fun same => apart (here.trans same.symm)]
  · simp [here]

def ofList (entries : List (String × α)) : Table α :=
  entries.foldl (fun table entry => table.insert entry.1 entry.2) empty

end Table

end TapeShell
