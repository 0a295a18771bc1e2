/-
This file says what a directory lists and when it can be removed.
-/

import TapeShell.Proofs.Walk

namespace TapeShell

namespace Store

variable {store : Store} {directory path : String}

/-- A child is what the store finds under its name in the directory, however that is spelled. -/
theorem mem_children_normalize_iff {child : Child} :
    child ∈ store.children (Path.normalize directory) ↔
      Path.IsName child.name ∧
        store.node? (Path.below directory ++ child.name) = some child.node := by
  rw [mem_children_iff]
  refine and_congr_right fun valid => ?_
  rw [node?, Path.normalize_below directory valid, Table.find?_eq_some_iff]

/-- The store holds something below the directory, at any depth. -/
def Occupied (store : Store) (directory : String) : Prop :=
  ∃ path, store.contains path = true ∧ Path.components directory <+: Path.components path ∧
    Path.components directory ≠ Path.components path

/-- Below a directory lies what its path with a slash starts. -/
theorem below_prefix_iff (normal : Path.isNormal path = true)
    (notRoot : Path.normalize directory ≠ Path.root) :
    (Path.below (Path.normalize directory)).toList <+: path.toList ↔
      Path.components directory <+: Path.components path ∧
        Path.components directory ≠ Path.components path := by
  have start : (Path.below (Path.normalize directory)).toList =
      (Path.normalize directory).toList ++ ['/'] := by
    rw [Path.below, if_neg notRoot, String.toList_append]
    rfl
  constructor
  · rw [start]
    rintro ⟨rest, text⟩
    rw [List.append_assoc, List.singleton_append] at text
    have parts : Path.components path =
        Path.components directory ++ Path.components (String.ofList rest) := by
      rw [← Path.components_normalize directory, ← String.ofList_toList (s := path), ← text,
        Path.components_append_slash, String.ofList_toList]
    refine ⟨⟨_, parts.symm⟩, fun same => ?_⟩
    rw [← Path.components_normalize directory,
      Path.components_inj (Path.isNormal_normalize directory) normal] at same
    have longer := congrArg List.length text
    rw [same] at longer
    simp at longer
  · rintro ⟨⟨rest, parts⟩, different⟩
    cases rest with
    | nil => exact absurd (by rw [← parts, List.append_nil]) different
    | cons name more =>
        rw [Path.normalize_eq, Path.below_ofComponents fun _ => Path.isName_of_mem_components,
          ← Path.ofComponents_components normal, ← parts,
          Path.toList_ofComponents_of_ne_nil (by simp), Path.trail_append, Path.trail_cons]
        exact ⟨name.toList ++ Path.trail more, by simp⟩

/-- What the table holds below a directory is what the store holds below it. -/
theorem hasBelow_iff_occupied (grounded : store.Grounded)
    (notRoot : Path.normalize directory ≠ Path.root) :
    store.hasBelow (Path.normalize directory) = true ↔ store.Occupied directory := by
  rw [hasBelow_iff]
  constructor
  · rintro ⟨path, node, found, starts⟩
    have normal := grounded.normal path node found
    refine ⟨path, ?_, (below_prefix_iff normal notRoot).mp starts⟩
    rw [contains, node?, Path.normalize_of_isNormal normal, found]
    rfl
  · rintro ⟨path, there, inside⟩
    rw [← Path.components_normalize path] at inside
    obtain ⟨node, found⟩ := Option.isSome_iff_exists.mp there
    exact ⟨Path.normalize path, node, found,
      (below_prefix_iff (Path.isNormal_normalize path) notRoot).mpr inside⟩

/-- A directory lists its names once and in order, and can be removed exactly if it is empty. -/
theorem list_after (changes : List Change) {path : String}
    (directory : (after changes).isDirectory path = true) :
    (∃ children, (after changes).list path = .ok children ∧
      (children.Pairwise fun left right => left.name < right.name) ∧
      (∀ name, name ∈ children.map Child.name ↔
        Path.IsName name ∧ (after changes).contains (Path.below path ++ name) = true) ∧
      ∀ child ∈ children, (after changes).stat (Path.below path ++ child.name) = .ok child.node) ∧
    (Path.normalize path ≠ Path.root →
      ((after changes).remove path = .error (.notEmpty (Path.normalize path)) ↔
        (after changes).Occupied path) ∧
      ((∃ changed, (after changes).remove path = .ok changed) ↔
        ¬ (after changes).Occupied path)) ∧
    (after changes).nodes.stretch (Path.below (Path.normalize path)) =
      (after changes).nodes.entries.filter fun entry =>
        (Path.below (Path.normalize path)).toList.isPrefixOf entry.1.toList := by
  have found : (after changes).nodes.find? (Path.normalize path) = some .directory := by
    simpa [isDirectory, node?] using directory
  have grounded := after_grounded changes
  generalize after changes = store at *
  refine ⟨⟨store.children (Path.normalize path), ?_, ascending_children _ _, ?_, ?_⟩, ?_,
    Table.stretch_eq_filter _ _⟩
  · rw [list, node?, found]
  · intro name
    simp only [List.mem_map, mem_children_normalize_iff, contains, Option.isSome_iff_exists]
    constructor
    · rintro ⟨child, ⟨valid, stored⟩, rfl⟩
      exact ⟨valid, child.node, stored⟩
    · rintro ⟨valid, node, stored⟩
      exact ⟨⟨name, node⟩, ⟨valid, stored⟩, rfl⟩
  · intro child listed
    rw [stat, (mem_children_normalize_iff.mp listed).2]
  · intro notRoot
    rw [← hasBelow_iff_occupied grounded notRoot, remove]
    simp only [notRoot, found, if_false]
    cases store.hasBelow (Path.normalize path) <;> simp

/-- In the order of the table other paths stand between a directory and what lies below it. -/
def neighbourhood : List Change :=
  [.makeDirectory "/a/b/c", .makeDirectory "/a-b", .write "/a.b" [120], .write "/a/b.c" [],
    .makeDirectory "/ab", .makeDirectory "/a-b/c", .remove "/a-b/c"]

/-- One directory of the neighbourhood is occupied, and another can be removed. -/
theorem list_after_neighbourhood :
    (after neighbourhood).isDirectory "a//" = true ∧
      (after neighbourhood).isDirectory "/a-b" = true ∧
      (∃ children, (after neighbourhood).list "a//" = .ok children ∧
        (children.Pairwise fun left right => left.name < right.name) ∧
        "b" ∈ children.map Child.name ∧ "b/c" ∉ children.map Child.name) ∧
      (after neighbourhood).remove "a//" = .error (.notEmpty "/a") ∧
      ∃ changed, (after neighbourhood).remove "/a-b" = .ok changed := by
  have crowded : (after neighbourhood).isDirectory "a//" = true := by decide +kernel
  have cleared : (after neighbourhood).isDirectory "/a-b" = true := by decide +kernel
  have occupied : (after neighbourhood).Occupied "a//" :=
    ⟨"/a/b/c", by decide +kernel, by decide +kernel, by decide +kernel⟩
  have empty : ¬ (after neighbourhood).Occupied "/a-b" := by
    rw [← hasBelow_iff_occupied (after_grounded _) (by decide +kernel)]
    decide +kernel
  have removal := ((list_after neighbourhood crowded).2.1 (by decide +kernel)).1.mpr occupied
  rw [show Path.normalize "a//" = "/a" by decide +kernel] at removal
  obtain ⟨children, listed, ascending, names, -⟩ := (list_after neighbourhood crowded).1
  refine ⟨crowded, cleared, ⟨children, listed, ascending, ?_, ?_⟩, removal, ?_⟩
  · exact (names "b").mpr ⟨by simp [Path.IsName], by decide +kernel⟩
  · exact fun member => ((names "b/c").mp member).1.2 (by decide)
  · exact ((list_after neighbourhood cleared).2.1 (by decide +kernel)).2.mpr empty

end Store

end TapeShell
