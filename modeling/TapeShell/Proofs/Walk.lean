/-
This file says what a walk through a file tree lists.
-/

import Mathlib.Data.List.Nodup
import TapeShell.Proofs.Tree
import TapeShell.Store.Walk

namespace TapeShell

namespace Store

variable {store : Store} {directory : String} {child : Child} {entry : String × Node}

/-- What holds of a directory if it holds of all its children holds of every directory. -/
@[elab_as_elim]
theorem walkInduction (store : Store) {motive : String → Prop}
    (step : ∀ directory, (∀ child ∈ store.children directory,
      motive (Path.below directory ++ child.name)) → motive directory)
    (directory : String) : motive directory :=
  step directory fun child _ => walkInduction store step (Path.below directory ++ child.name)
termination_by store.countBelow directory
decreasing_by exact countBelow_child ‹_›

/-- A walk is made of the walks of the children. -/
theorem mem_walkFrom_iff :
    entry ∈ store.walkFrom directory ↔
      ∃ child ∈ store.children directory, entry ∈ store.walkChild directory child := by
  rw [walkFrom_eq, List.mem_flatMap]

/-- The walk of a child is the child itself and what lies below it. -/
theorem mem_walkChild_iff :
    entry ∈ store.walkChild directory child ↔
      entry = (Path.below directory ++ child.name, child.node) ∨
        child.node = .directory ∧ entry ∈ store.walkFrom (Path.below directory ++ child.name) := by
  by_cases isDirectory : child.node = .directory <;> simp [walkChild, isDirectory]

/-- A walk lists what is stored. -/
theorem stored_of_mem_walkFrom (member : entry ∈ store.walkFrom directory) :
    store.nodes.find? entry.1 = some entry.2 := by
  induction directory using store.walkInduction with
  | step directory inductionHypothesis =>
      obtain ⟨child, inChildren, inChild⟩ := mem_walkFrom_iff.mp member
      rcases mem_walkChild_iff.mp inChild with rfl | ⟨-, deeper⟩
      · exact store.nodes.find?_eq_some_iff.mpr (mem_children_iff.mp inChildren).2
      · exact inductionHypothesis child inChildren deeper

/-- No walk lists the root. -/
theorem ne_root_of_mem_walkFrom (member : entry ∈ store.walkFrom directory) :
    entry.1 ≠ Path.root := by
  induction directory using store.walkInduction with
  | step directory inductionHypothesis =>
      obtain ⟨child, inChildren, inChild⟩ := mem_walkFrom_iff.mp member
      rcases mem_walkChild_iff.mp inChild with rfl | ⟨-, deeper⟩
      · exact Path.below_append_ne_root directory (mem_children_iff.mp inChildren).1
      · exact inductionHypothesis child inChildren deeper

/-- The walk stays below its directory. -/
theorem below_prefix_of_mem_walkFrom (member : entry ∈ store.walkFrom directory) :
    (Path.below directory).toList <+: entry.1.toList := by
  induction directory using store.walkInduction with
  | step directory inductionHypothesis =>
      obtain ⟨child, inChildren, inChild⟩ := mem_walkFrom_iff.mp member
      rcases mem_walkChild_iff.mp inChild with rfl | ⟨-, deeper⟩
      · rw [String.toList_append]
        exact List.prefix_append _ _
      · have inside := inductionHypothesis child inChildren deeper
        exact (Path.prefix_below_below directory (mem_children_iff.mp inChildren).1).trans inside

/-- What lies below a directory of a walk belongs to the walk. -/
theorem mem_walkFrom_of_mem {path : String}
    (member : (path, Node.directory) ∈ store.walkFrom directory)
    (deeper : entry ∈ store.walkFrom path) : entry ∈ store.walkFrom directory := by
  induction directory using store.walkInduction with
  | step directory inductionHypothesis =>
      obtain ⟨child, inChildren, inChild⟩ := mem_walkFrom_iff.mp member
      refine mem_walkFrom_iff.mpr ⟨child, inChildren, mem_walkChild_iff.mpr (.inr ?_)⟩
      rcases mem_walkChild_iff.mp inChild with same | ⟨isDirectory, inside⟩
      · obtain ⟨rfl, isDirectory⟩ := Prod.mk.inj same
        exact ⟨isDirectory.symm, deeper⟩
      · exact ⟨isDirectory, inductionHypothesis child inChildren inside⟩

/-- In a tree the walk reaches everything but the root. -/
theorem mem_walk_of_stored (grounded : store.Grounded) (parented : store.Parented) {path : String}
    {node : Node} (stored : store.nodes.find? path = some node) (notRoot : path ≠ Path.root) :
    (path, node) ∈ store.walk := by
  have normal := grounded.normal path node stored
  induction path, normal using Path.normalInduction generalizing node with
  | top => exact absurd rfl notRoot
  | child path normal _ inductionHypothesis =>
      obtain ⟨-, name, valid, text⟩ := Path.exists_child normal notRoot
      have listed : (path, node) ∈ store.walkFrom (Path.parent path) := by
        refine mem_walkFrom_iff.mpr ⟨⟨name, node⟩, mem_children_iff.mpr ⟨valid, ?_⟩,
          mem_walkChild_iff.mpr (.inl ?_)⟩
        · rw [← text]
          exact store.nodes.find?_eq_some_iff.mp stored
        · rw [← text]
      by_cases top : Path.parent path = Path.root
      · rwa [top] at listed
      · have above := inductionHypothesis (parented path node stored notRoot) top
        exact mem_walkFrom_of_mem above listed

/-- In a tree the walk lists exactly what is stored, but for the root. -/
theorem mem_walk_iff (grounded : store.Grounded) (parented : store.Parented) :
    entry ∈ store.walk ↔ store.nodes.find? entry.1 = some entry.2 ∧ entry.1 ≠ Path.root :=
  ⟨fun member => ⟨stored_of_mem_walkFrom member, ne_root_of_mem_walkFrom member⟩,
    fun ⟨stored, notRoot⟩ => mem_walk_of_stored grounded parented stored notRoot⟩

section Nodup

/-- This is the name by which a path goes down from a directory. -/
def firstName (directory path : String) : List Char :=
  (path.toList.drop (Path.below directory).toList.length).takeWhile (· ≠ '/')

/-- The first name ends at the first slash. -/
theorem firstName_eq {name : String} (valid : Path.IsName name) {path : String} {rest : List Char}
    (text : path.toList = (Path.below directory).toList ++ (name.toList ++ rest))
    (ends : rest.takeWhile (· ≠ '/') = []) : firstName directory path = name.toList := by
  have noSlash : ∀ character ∈ name.toList, decide (character ≠ '/') = true := by
    intro character member
    rw [decide_eq_true_iff]
    rintro rfl
    exact valid.2 member
  rw [firstName, text, List.drop_left, List.takeWhile_append_of_pos noSlash, ends, List.append_nil]

/-- Everything in the walk of a child goes down by the name of the child. -/
theorem firstName_of_mem_walkChild (listed : child ∈ store.children directory)
    (member : entry ∈ store.walkChild directory child) :
    firstName directory entry.1 = child.name.toList := by
  have valid := (mem_children_iff.mp listed).1
  rcases mem_walkChild_iff.mp member with rfl | ⟨-, deeper⟩
  · apply firstName_eq valid
    · rw [String.toList_append, List.append_nil]
    · rfl
  · obtain ⟨rest, text⟩ := below_prefix_of_mem_walkFrom deeper
    rw [Path.below_below directory valid, String.toList_append, String.toList_append] at text
    apply firstName_eq valid
    · rw [← text, List.append_assoc, List.append_assoc]
    · simp

/-- The children are listed in ascending order of their names. -/
theorem ascending_children (store : Store) (directory : String) :
    (store.children directory).Pairwise fun left right => left.name < right.name := by
  have ascending : (store.nodes.stretch (Path.below directory)).Pairwise
      fun left right => left.1 < right.1 := by
    rw [Table.stretch_eq_filter]
    exact store.nodes.ascending.filter _
  rw [children, List.pairwise_filterMap]
  refine ascending.imp_of_mem ?_
  rintro ⟨leftPath, leftNode⟩ ⟨rightPath, rightNode⟩ inLeft inRight lower left isLeft right isRight
  rw [Option.map_eq_some_iff] at isLeft isRight
  obtain ⟨leftName, leftNamed, rfl⟩ := isLeft
  obtain ⟨rightName, rightNamed, rfl⟩ := isRight
  obtain ⟨-, rfl⟩ :=
    (childName?_eq_some_iff ((Table.mem_stretch_iff _).mp inLeft).2).mp leftNamed
  obtain ⟨-, rfl⟩ :=
    (childName?_eq_some_iff ((Table.mem_stretch_iff _).mp inRight).2).mp rightNamed
  rw [String.lt_iff, String.toList_append, String.toList_append] at lower
  exact String.lt_iff.mpr (Text.append_lt_append_iff.mp lower)

/-- The walk lists no path twice. -/
theorem nodup_walkFrom (store : Store) (directory : String) :
    ((store.walkFrom directory).map Prod.fst).Nodup := by
  induction directory using store.walkInduction with
  | step directory inductionHypothesis =>
      rw [walkFrom_eq, List.map_flatMap, List.nodup_flatMap]
      constructor
      · intro child listed
        have valid := (mem_children_iff.mp listed).1
        rw [walkChild, List.map_cons, List.nodup_cons]
        split
        next =>
          refine ⟨fun member => ?_, inductionHypothesis child listed⟩
          obtain ⟨entry, deeper, same⟩ := List.mem_map.mp member
          have inside := below_prefix_of_mem_walkFrom deeper
          rw [same] at inside
          exact Path.not_below_prefix_self directory valid inside
        next => simp
      · -- The first name of a path below the directory tells which child it belongs to.
        refine (List.Pairwise.and_mem.mp (ascending_children store directory)).imp ?_
        rintro left right ⟨inLeft, inRight, less⟩ path leftMember rightMember
        obtain ⟨leftEntry, leftWalk, rfl⟩ := List.mem_map.mp leftMember
        obtain ⟨rightEntry, rightWalk, same⟩ := List.mem_map.mp rightMember
        have leftName := firstName_of_mem_walkChild inLeft leftWalk
        have rightName := firstName_of_mem_walkChild inRight rightWalk
        rw [same, leftName] at rightName
        rw [String.toList_inj.mp rightName] at less
        exact String.lt_irrefl _ less

end Nodup

section Reading

variable {path : String} {content : List UInt8}

/-- A stored directory lists its children. -/
theorem list_of_stored (normal : Path.isNormal path = true)
    (stored : store.nodes.find? path = some .directory) :
    store.list path = .ok (store.children path) := by
  rw [list, node?, Path.normalize_of_isNormal normal, stored]

/-- A stored file is read as its decoded content. -/
theorem readText_of_stored (normal : Path.isNormal path = true)
    (stored : store.nodes.find? path = some (.file content)) :
    store.readText path = .ok (Text.Utf8.decodeLossy content) := by
  rw [readText, read, node?, Path.normalize_of_isNormal normal, stored]
  rfl

end Reading

end Store

end TapeShell
