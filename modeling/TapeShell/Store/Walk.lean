/-
This file walks through a file tree from a directory down.
-/

import TapeShell.Path.Components
import TapeShell.Store

namespace TapeShell.Store

/-- A child is named by what follows the start, if that is a name. -/
theorem childName?_eq_some_iff {start path name : String} (starts : start.toList <+: path.toList) :
    childName? start path = some name ↔ Path.IsName name ∧ path = start ++ name := by
  obtain ⟨rest, text⟩ := starts
  have whole : path = start ++ String.ofList rest := by
    apply String.toList_inj.mp
    rw [String.toList_append, String.toList_ofList, text]
  rw [childName?, ← text, List.drop_left]
  constructor
  · intro named
    split at named
    next => cases named
    next valid =>
      cases named
      simp only [Bool.or_eq_true, List.isEmpty_iff, List.contains_iff_mem, not_or] at valid
      exact ⟨by simpa [Path.IsName] using valid, whole⟩
  · rintro ⟨valid, isChild⟩
    rw [isChild, String.append_right_inj] at whole
    subst whole
    rw [if_neg]
    simpa [Path.IsName] using valid

/-- A child is stored under the path of its directory with one more name. -/
theorem mem_children_iff {store : Store} {directory : String} {child : Child} :
    child ∈ store.children directory ↔
      Path.IsName child.name ∧
        (Path.below directory ++ child.name, child.node) ∈ store.nodes.entries := by
  simp only [children, List.mem_filterMap, Option.map_eq_some_iff, Table.mem_stretch_iff,
    ← Table.find?_eq_some_iff]
  constructor
  · rintro ⟨⟨path, node⟩, ⟨stored, starts⟩, name, named, rfl⟩
    obtain ⟨valid, rfl⟩ := (childName?_eq_some_iff starts).mp named
    exact ⟨valid, stored⟩
  · rintro ⟨valid, stored⟩
    have starts : (Path.below directory).toList <+:
        (Path.below directory ++ child.name).toList := by
      rw [String.toList_append]
      exact List.prefix_append _ _
    exact ⟨(_, child.node), ⟨stored, starts⟩, child.name,
      (childName?_eq_some_iff starts).mpr ⟨valid, rfl⟩, rfl⟩

/-- This many paths are stored below a directory. -/
def countBelow (store : Store) (directory : String) : Nat :=
  (store.nodes.keys.filter fun key => (Path.below directory).toList.isPrefixOf key.toList).length

/-- Less lies below a child than below its directory, because the child itself is left out. -/
theorem countBelow_child {store : Store} {directory : String} {child : Child}
    (member : child ∈ store.children directory) :
    store.countBelow (Path.below directory ++ child.name) < store.countBelow directory := by
  obtain ⟨valid, stored⟩ := mem_children_iff.mp member
  have key : Path.below directory ++ child.name ∈ store.nodes.keys.filter fun key =>
      (Path.below directory).toList.isPrefixOf key.toList := by
    refine List.mem_filter.mpr ⟨List.mem_map_of_mem stored, ?_⟩
    rw [String.toList_append, List.isPrefixOf_iff_prefix]
    exact List.prefix_append _ _
  have smaller : store.nodes.keys.filter (fun key =>
      (Path.below (Path.below directory ++ child.name)).toList.isPrefixOf key.toList) =
      (store.nodes.keys.filter fun key =>
        (Path.below directory).toList.isPrefixOf key.toList).filter fun key =>
          (Path.below (Path.below directory ++ child.name)).toList.isPrefixOf key.toList := by
    rw [List.filter_filter]
    apply List.filter_congr
    intro key _
    rw [Bool.eq_iff_iff, Bool.and_eq_true]
    simp only [List.isPrefixOf_iff_prefix]
    exact ⟨fun starts => ⟨starts, (Path.prefix_below_below directory valid).trans starts⟩, And.left⟩
  rw [countBelow, countBelow, smaller, List.length_filter_lt_length_iff_exists]
  refine ⟨_, key, ?_⟩
  rw [List.isPrefixOf_iff_prefix]
  exact Path.not_below_prefix_self directory valid

/-- The walk lists what lies below a directory, each directory before its own children. -/
def walkFrom (store : Store) (directory : String) : List (String × Node) :=
  (store.children directory).attach.flatMap fun ⟨child, _⟩ =>
    let path := Path.below directory ++ child.name
    (path, child.node) :: if child.node = .directory then walkFrom store path else []
termination_by store.countBelow directory
decreasing_by exact countBelow_child ‹_›

def walk (store : Store) : List (String × Node) :=
  store.walkFrom Path.root

/-- This part of a walk belongs to one child. -/
def walkChild (store : Store) (directory : String) (child : Child) : List (String × Node) :=
  let path := Path.below directory ++ child.name
  (path, child.node) :: if child.node = .directory then store.walkFrom path else []

/-- A walk is made of the walks of the children. -/
theorem walkFrom_eq (store : Store) (directory : String) :
    store.walkFrom directory = (store.children directory).flatMap (store.walkChild directory) := by
  rw [walkFrom, List.flatMap_subtype fun _ _ => rfl, List.unattach_attach]
  rfl

end TapeShell.Store
