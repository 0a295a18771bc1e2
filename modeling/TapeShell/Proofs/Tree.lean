/-
This file says when a table of paths is a tree, and which changes keep it one.
-/

import Mathlib.Data.List.Induction
import Mathlib.Data.List.TakeWhile
import TapeShell.Path.Components
import TapeShell.Store

namespace TapeShell.Store

/-- A change is one call that may alter a store. -/
inductive Change where
  | makeDirectory (path : String)
  | write (path : String) (content : List UInt8)
  | remove (path : String)

/-- A change is tried on a store. -/
def Change.attempt (store : Store) : Change → Except Fault Store
  | .makeDirectory path => store.makeDirectory path
  | .write path content => store.write path content
  | .remove path => store.remove path

/-- A change that fails leaves the store as it was. -/
def apply (store : Store) (change : Change) : Store :=
  match change.attempt store with
  | .ok changed => changed
  | .error _ => store

/-- A history starts with a new store. -/
def after (changes : List Change) : Store :=
  changes.foldl apply fresh

/-- The last change comes last. -/
theorem after_append (changes : List Change) (change : Change) :
    after (changes ++ [change]) = (after changes).apply change := by
  simp [after]

/-- Stored paths are normal, and the root is a directory. -/
structure Grounded (store : Store) : Prop where
  normal : ∀ path node, store.nodes.find? path = some node → Path.isNormal path = true
  rooted : store.nodes.find? Path.root = some .directory

/-- Everything but the root lies in a directory that is stored too. -/
def Parented (store : Store) : Prop :=
  ∀ path node, store.nodes.find? path = some node → path ≠ Path.root →
    store.nodes.find? (Path.parent path) = some .directory

/-- A file stands somewhere above the path. -/
def FileAbove (store : Store) (path : String) : Prop :=
  ∃ ancestor ∈ Path.ancestors (Path.normalize path), ∃ content,
    store.nodes.find? ancestor = some (.file content)

/-- These are the stores that a change can lead to. -/
inductive Effect (store : Store) : Change → Store → Prop where
  | present (path : String)
      (found : store.nodes.find? (Path.normalize path) = some .directory) :
      Effect store (.makeDirectory path) store
  | created (path : String) (absent : store.nodes.find? (Path.normalize path) = none) :
      Effect store (.makeDirectory path)
        ⟨(store.missing (Path.normalize path)).foldr
          (fun ancestor nodes => nodes.insert ancestor .directory) store.nodes⟩
  | written (path : String) (content : List UInt8)
      (free : store.nodes.find? (Path.normalize path) ≠ some .directory)
      (inside : store.nodes.find? (Path.parent (Path.normalize path)) = some .directory) :
      Effect store (.write path content)
        ⟨store.nodes.insert (Path.normalize path) (.file content)⟩
  | removed (path : String) (node : Node) (notRoot : Path.normalize path ≠ Path.root)
      (found : store.nodes.find? (Path.normalize path) = some node)
      (empty : node = .directory → store.hasBelow (Path.normalize path) = false) :
      Effect store (.remove path) ⟨store.nodes.erase (Path.normalize path)⟩

/-- A change that succeeds has its effect. -/
theorem effect_of_attempt {store changed : Store} {change : Change}
    (done : change.attempt store = .ok changed) : Effect store change changed := by
  cases change with
  | makeDirectory path =>
      simp only [Change.attempt, makeDirectory] at done
      split at done
      next found =>
        cases done
        exact .present path found
      next => cases done
      next absent =>
        cases done
        exact .created path absent
  | write path content =>
      simp only [Change.attempt, write] at done
      split at done
      next => cases done
      next free =>
        split at done
        next inside =>
          cases done
          exact .written path content free inside
        next => cases done
        next => cases done
  | remove path =>
      simp only [Change.attempt, remove] at done
      split at done
      next => cases done
      next notRoot =>
        split at done
        next found =>
          split at done
          next => cases done
          next empty =>
            cases done
            exact .removed path .directory notRoot found fun _ => by simpa using empty
        next content found =>
          cases done
          exact .removed path (.file content) notRoot found nofun
        next => cases done

/-- A change has its effect or leaves the store as it was. -/
theorem effect_or_eq (store : Store) (change : Change) :
    Effect store change (store.apply change) ∨ store.apply change = store := by
  rw [apply]
  split
  next changed done => exact .inl (effect_of_attempt done)
  next => exact .inr rfl

/-- Directories are stored under each of the paths. -/
theorem find?_foldr_insert (nodes : Table Node) (paths : List String) (path : String) :
    (paths.foldr (fun ancestor nodes => nodes.insert ancestor .directory) nodes).find? path =
      if path ∈ paths then some .directory else nodes.find? path := by
  induction paths with
  | nil => simp
  | cons first rest inductionHypothesis =>
      rw [List.foldr_cons, Table.find?_insert, inductionHypothesis]
      by_cases isFirst : first = path
      · simp [isFirst]
      · simp [isFirst, Ne.symm isFirst]

section Missing

variable {store : Store} {path target : String}

/-- What is missing is the path, if it is absent, and what its parent misses. -/
theorem missing_eq (normal : Path.isNormal path = true) (notRoot : path ≠ Path.root) :
    store.missing path =
      if store.nodes.contains path then [] else path :: store.missing (Path.parent path) := by
  rw [missing, Path.ancestors_eq normal notRoot, List.takeWhile_cons]
  cases store.nodes.contains path <;> rfl

/-- In a directory that is stored, nothing but the path itself can be missing. -/
theorem missing_of_inside (normal : Path.isNormal path = true)
    (inside : store.nodes.find? (Path.parent path) = some .directory) :
    store.missing path = if store.nodes.contains path then [] else [path] := by
  have parentThere : store.missing (Path.parent path) = [] := by
    simp [missing, Table.contains, inside]
  by_cases isRoot : path = Path.root
  · rw [isRoot, Path.parent_root] at inside parentThere
    rw [isRoot, parentThere, if_pos (by simp [Table.contains, inside])]
  · rw [missing_eq normal isRoot, parentThere]

/-- The root is never missing. -/
theorem missing_root (grounded : store.Grounded) : store.missing Path.root = [] := by
  simp [missing, Table.contains, grounded.rooted]

/-- What is missing is absent. -/
theorem absent_of_mem_missing (member : path ∈ store.missing target) :
    store.nodes.find? path = none := by
  have absent := List.mem_takeWhile_imp member
  simpa [Table.contains] using absent

/-- What is missing has a normal path. -/
theorem isNormal_of_mem_missing (normal : Path.isNormal target = true)
    (member : path ∈ store.missing target) : Path.isNormal path = true := by
  rcases List.mem_cons.mp ((List.takeWhile_sublist _).subset member) with rfl | above
  · exact normal
  · exact Path.isNormal_of_mem_ancestors normal above

/-- An absent path is missing. -/
theorem self_mem_missing (absent : store.nodes.find? target = none) :
    target ∈ store.missing target := by
  simp [missing, Table.contains, absent]

/-- Above a missing path there is a missing one or the first one that is stored. -/
theorem parent_of_mem_missing (grounded : store.Grounded) (normal : Path.isNormal target = true)
    (member : path ∈ store.missing target) :
    Path.parent path ∈ Path.ancestors target ∧
      (Path.parent path ∈ store.missing target ∨
        store.nodes.contains (Path.parent path) = true) := by
  induction target, normal using Path.normalInduction with
  | top =>
      rw [missing_root grounded] at member
      cases member
  | child target normal notRoot inductionHypothesis =>
      rw [missing_eq normal notRoot] at member ⊢
      rw [Path.ancestors_eq normal notRoot]
      split at member
      next => cases member
      next absent =>
        rw [if_neg absent]
        rcases List.mem_cons.mp member with rfl | above
        · refine ⟨List.mem_cons_self, ?_⟩
          by_cases stored : store.nodes.contains (Path.parent path) = true
          · exact .inr stored
          · left
            apply List.mem_cons_of_mem
            apply self_mem_missing
            simpa [Table.contains] using stored
        · obtain ⟨inAncestors, next⟩ := inductionHypothesis above
          exact ⟨List.mem_cons_of_mem _ inAncestors, next.imp_left (List.mem_cons_of_mem _)⟩

end Missing

/-- A new store finds the root only. -/
theorem find?_fresh (path : String) :
    fresh.nodes.find? path = if Path.root = path then some .directory else none := by
  rw [fresh, Table.find?_insert]
  rfl

/-- A new store is grounded. -/
theorem fresh_grounded : fresh.Grounded where
  normal path node found := by
    rw [find?_fresh] at found
    split at found
    next isRoot =>
      rw [← isRoot]
      exact Path.isNormal_root
    next => cases found
  rooted := by rw [find?_fresh, if_pos rfl]

/-- A new store has everything in its directory. -/
theorem fresh_parented : fresh.Parented := by
  intro path node found notRoot
  rw [find?_fresh, if_neg (Ne.symm notRoot)] at found
  cases found

namespace Effect

variable {store changed : Store} {change : Change}

/-- Every change keeps the paths normal and the root in place. -/
theorem grounded (effect : Effect store change changed) (grounded : store.Grounded) :
    changed.Grounded := by
  cases effect with
  | present path found => exact grounded
  | created path absent =>
      refine ⟨fun stored node found => ?_, ?_⟩
      · rw [find?_foldr_insert] at found
        split at found
        next missing => exact isNormal_of_mem_missing (Path.isNormal_normalize path) missing
        next => exact grounded.normal stored node found
      · rw [find?_foldr_insert, grounded.rooted, ite_self]
  | written path content free inside =>
      refine ⟨fun stored node found => ?_, ?_⟩
      · rw [Table.find?_insert] at found
        split at found
        next same => exact same ▸ Path.isNormal_normalize path
        next => exact grounded.normal stored node found
      · have notRoot : Path.normalize path ≠ Path.root := by
          intro same
          rw [same] at free
          exact free grounded.rooted
        rw [Table.find?_insert, if_neg notRoot]
        exact grounded.rooted
  | removed path node notRoot found empty =>
      refine ⟨fun stored kept found => ?_, ?_⟩
      · rw [Table.find?_erase] at found
        split at found
        next => cases found
        next => exact grounded.normal stored kept found
      · rw [Table.find?_erase, if_neg notRoot]
        exact grounded.rooted

end Effect

section Parented

variable {store changed : Store} {path : String} {node : Node}

/-- Below a directory lies whatever has its path with a slash as its start. -/
theorem hasBelow_iff {directory : String} :
    store.hasBelow directory = true ↔ ∃ path node,
      store.nodes.find? path = some node ∧ (Path.below directory).toList <+: path.toList := by
  rw [hasBelow, Bool.not_eq_true', List.isEmpty_eq_false_iff_exists_mem]
  simp only [Table.mem_stretch_iff, Prod.exists]

/-- What lies directly in a directory is stored below it. -/
theorem hasBelow_parent (grounded : store.Grounded)
    (found : store.nodes.find? path = some node) (notRoot : path ≠ Path.root) :
    store.hasBelow (Path.parent path) = true := by
  obtain ⟨-, name, -, child⟩ := Path.exists_child (grounded.normal path node found) notRoot
  refine hasBelow_iff.mpr ⟨path, node, found, ?_⟩
  rw [child, String.toList_append, ← child]
  exact List.prefix_append _ _

/-- Everything above a stored path is a directory. -/
theorem directory_of_mem_ancestors (parented : store.Parented) (normal : Path.isNormal path = true)
    (found : store.nodes.find? path = some node) {ancestor : String}
    (above : ancestor ∈ Path.ancestors path) : store.nodes.find? ancestor = some .directory := by
  induction path, normal using Path.normalInduction generalizing node with
  | top => simp at above
  | child path normal notRoot inductionHypothesis =>
      have inDirectory := parented path node found notRoot
      rw [Path.ancestors_eq normal notRoot] at above
      rcases List.mem_cons.mp above with rfl | higher
      · exact inDirectory
      · exact inductionHypothesis inDirectory higher

/-- A stored path has no file above it. -/
theorem absent_of_fileAbove (parented : store.Parented) (above : store.FileAbove path) :
    store.nodes.find? (Path.normalize path) = none := by
  obtain ⟨ancestor, isAncestor, content, isFile⟩ := above
  cases found : store.nodes.find? (Path.normalize path) with
  | none => rfl
  | some node =>
      have isDirectory :=
        directory_of_mem_ancestors parented (Path.isNormal_normalize path) found isAncestor
      rw [isFile] at isDirectory
      cases isDirectory

/-- Every change keeps the tree, unless it makes a directory below a file. -/
theorem Effect.parented {change : Change} (effect : Effect store change changed)
    (grounded : store.Grounded) (parented : store.Parented)
    (clear : ∀ path, change = .makeDirectory path → ¬ store.FileAbove path) :
    changed.Parented := by
  cases effect with
  | present path found => exact parented
  | created path absent =>
      have noFile := clear path rfl
      intro stored node found notRoot
      rw [find?_foldr_insert] at found ⊢
      split at found
      next missing =>
        obtain ⟨isAncestor, next⟩ :=
          parent_of_mem_missing grounded (Path.isNormal_normalize path) missing
        split
        next => rfl
        next notMissing =>
          obtain ⟨above, isStored⟩ :=
            Option.isSome_iff_exists.mp (next.resolve_left notMissing)
          cases above with
          | directory => exact isStored
          | file content => exact absurd ⟨_, isAncestor, content, isStored⟩ noFile
      next => rw [parented stored node found notRoot, ite_self]
  | written path content free inside =>
      intro stored node found notRoot
      rw [Table.find?_insert] at found ⊢
      have inDirectory : store.nodes.find? (Path.parent stored) = some .directory := by
        split at found
        next same => exact same ▸ inside
        next => exact parented stored node found notRoot
      have apart : Path.normalize path ≠ Path.parent stored := by
        intro same
        rw [same] at free
        exact free inDirectory
      rw [if_neg apart]
      exact inDirectory
  | removed path removed notRoot found empty =>
      intro stored node kept notTop
      rw [Table.find?_erase] at kept ⊢
      split at kept
      next => cases kept
      next =>
        have inDirectory := parented stored node kept notTop
        have apart : Path.normalize path ≠ Path.parent stored := by
          intro same
          rw [same, inDirectory] at found
          have nothing := empty (Option.some.inj found).symm
          rw [same, hasBelow_parent grounded kept notTop] at nothing
          cases nothing
        rw [if_neg apart]
        exact inDirectory

/-- A directory that is made below a file breaks the tree. -/
theorem not_parented_of_fileAbove (parented : store.Parented) (above : store.FileAbove path) :
    ¬ (store.apply (.makeDirectory path)).Parented := by
  have absent := absent_of_fileAbove parented above
  have done : store.apply (.makeDirectory path) =
      ⟨(store.missing (Path.normalize path)).foldr
        (fun ancestor nodes => nodes.insert ancestor .directory) store.nodes⟩ := by
    simp [apply, Change.attempt, makeDirectory, absent]
  obtain ⟨ancestor, isAncestor, content, isFile⟩ := above
  rw [done]
  intro stillParented
  have stored := find?_foldr_insert store.nodes (store.missing (Path.normalize path))
    (Path.normalize path)
  rw [if_pos (self_mem_missing absent)] at stored
  have isDirectory :=
    directory_of_mem_ancestors stillParented (Path.isNormal_normalize path) stored isAncestor
  rw [find?_foldr_insert, if_neg, isFile] at isDirectory
  · cases isDirectory
  · intro missing
    rw [absent_of_mem_missing missing] at isFile
    cases isFile

end Parented

/-- Every change keeps a store grounded. -/
theorem apply_grounded {store : Store} (grounded : store.Grounded) (change : Change) :
    (store.apply change).Grounded := by
  rcases effect_or_eq store change with effect | unchanged
  · exact effect.grounded grounded
  · rw [unchanged]
    exact grounded

/-- Whatever was done to a store, its paths are normal and its root is a directory. -/
theorem after_grounded (changes : List Change) : (after changes).Grounded := by
  induction changes using List.reverseRecOn with
  | nil => exact fresh_grounded
  | append_singleton earlier change inductionHypothesis =>
      rw [after_append]
      exact apply_grounded inductionHypothesis change

/-- Changes keep the tree exactly if none makes a directory below a file. -/
theorem after_parented_iff (changes : List Change) :
    (∀ earlier, earlier <+: changes → (after earlier).Parented) ↔
      ∀ earlier path, earlier ++ [.makeDirectory path] <+: changes →
        ¬ (after earlier).FileAbove path := by
  constructor
  · intro parented earlier path isPrefix above
    have before := parented earlier ((List.prefix_append _ _).trans isPrefix)
    have later := parented _ isPrefix
    rw [after_append] at later
    exact not_parented_of_fileAbove before above later
  · intro clear earlier isPrefix
    induction earlier using List.reverseRecOn with
    | nil => exact fresh_parented
    | append_singleton earlier change inductionHypothesis =>
        have before := inductionHypothesis ((List.prefix_append _ _).trans isPrefix)
        rw [after_append]
        rcases effect_or_eq (after earlier) change with effect | unchanged
        · apply effect.parented (after_grounded earlier) before
          rintro path rfl
          exact clear earlier path isPrefix
        · rw [unchanged]
          exact before

/-- The directory that is made last lies in a file. -/
theorem not_parented_directory_in_file :
    ¬ (after [.write "/f" [120], .makeDirectory "/f/d"]).Parented := by
  intro parented
  have stored : (after [.write "/f" [120], .makeDirectory "/f/d"]).nodes.find? "/f/d" =
      some .directory := by
    decide +kernel
  have inDirectory := parented "/f/d" .directory stored (by decide)
  revert inDirectory
  decide +kernel

end TapeShell.Store
