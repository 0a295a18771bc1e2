/-
This file follows the calls that change a store in place, and shows that they come to an end.
-/

import TapeShell.Proofs.Ancestry

namespace TapeShell.Store

/-- A call works on a store in place, and what it has stored stays even if it fails. -/
inductive Call (store : Store) : Change → Store → Except Fault Unit → Prop where
  | present (path : String)
      (found : store.nodes.find? (Path.normalize path) = some .directory) :
      Call store (.makeDirectory path) store (.ok ())
  | taken (path : String) (content : List UInt8)
      (found : store.nodes.find? (Path.normalize path) = some (.file content)) :
      Call store (.makeDirectory path) store (.error (.fileExists (Path.normalize path)))
  | placed (path : String) (absent : store.nodes.find? (Path.normalize path) = none)
      (inside : store.nodes.contains (Path.parent (Path.normalize path)) = true) :
      Call store (.makeDirectory path) ⟨store.nodes.insert (Path.normalize path) .directory⟩
        (.ok ())
  | climbed (path : String) (between : Store)
      (absent : store.nodes.find? (Path.normalize path) = none)
      (outside : store.nodes.contains (Path.parent (Path.normalize path)) = false)
      (above : Call store (.makeDirectory (Path.parent (Path.normalize path))) between (.ok ())) :
      Call store (.makeDirectory path) ⟨between.nodes.insert (Path.normalize path) .directory⟩
        (.ok ())
  | broken (path : String) (between : Store) (fault : Fault)
      (absent : store.nodes.find? (Path.normalize path) = none)
      (outside : store.nodes.contains (Path.parent (Path.normalize path)) = false)
      (above : Call store (.makeDirectory (Path.parent (Path.normalize path))) between
        (.error fault)) :
      Call store (.makeDirectory path) between (.error fault)
  | overDirectory (path : String) (content : List UInt8)
      (found : store.nodes.find? (Path.normalize path) = some .directory) :
      Call store (.write path content) store (.error (.isDirectory (Path.normalize path)))
  | insideFile (path : String) (content held : List UInt8)
      (free : store.nodes.find? (Path.normalize path) ≠ some .directory)
      (above : store.nodes.find? (Path.parent (Path.normalize path)) = some (.file held)) :
      Call store (.write path content) store
        (.error (.notDirectory (Path.parent (Path.normalize path))))
  | unhoused (path : String) (content : List UInt8)
      (free : store.nodes.find? (Path.normalize path) ≠ some .directory)
      (above : store.nodes.find? (Path.parent (Path.normalize path)) = none) :
      Call store (.write path content) store
        (.error (.noParent (Path.parent (Path.normalize path))))
  | written (path : String) (content : List UInt8)
      (free : store.nodes.find? (Path.normalize path) ≠ some .directory)
      (above : store.nodes.find? (Path.parent (Path.normalize path)) = some .directory) :
      Call store (.write path content)
        ⟨store.nodes.insert (Path.normalize path) (.file content)⟩ (.ok ())
  | atRoot (path : String) (isRoot : Path.normalize path = Path.root) :
      Call store (.remove path) store (.error .rootRemoval)
  | occupied (path : String) (notRoot : Path.normalize path ≠ Path.root)
      (found : store.nodes.find? (Path.normalize path) = some .directory)
      (filled : store.hasBelow (Path.normalize path) = true) :
      Call store (.remove path) store (.error (.notEmpty (Path.normalize path)))
  | nothing (path : String) (notRoot : Path.normalize path ≠ Path.root)
      (absent : store.nodes.find? (Path.normalize path) = none) :
      Call store (.remove path) store (.error (.noSuchPath (Path.normalize path)))
  | removed (path : String) (node : Node) (notRoot : Path.normalize path ≠ Path.root)
      (found : store.nodes.find? (Path.normalize path) = some node)
      (empty : node = .directory → store.hasBelow (Path.normalize path) = false) :
      Call store (.remove path) ⟨store.nodes.erase (Path.normalize path)⟩ (.ok ())

section Call

variable {store left : Store} {change : Change} {answer : Except Fault Unit}

/-- A parent that is not stored can be made. -/
theorem makeDirectory_parent {path : String}
    (outside : store.nodes.contains (Path.parent (Path.normalize path)) = false) :
    store.makeDirectory (Path.parent (Path.normalize path)) =
      .ok ⟨(store.missing (Path.parent (Path.normalize path))).foldr
        (fun ancestor nodes => nodes.insert ancestor .directory) store.nodes⟩ := by
  have normal := Path.isNormal_parent (Path.isNormal_normalize path)
  have absent : store.nodes.find? (Path.parent (Path.normalize path)) = none := by
    simpa [Table.contains] using outside
  simp only [makeDirectory, Path.normalize_of_isNormal normal, absent]

/-- An absent directory is made in what making its parent leaves. -/
theorem makeDirectory_of_absent (grounded : store.Grounded) {path : String}
    (absent : store.nodes.find? (Path.normalize path) = none) :
    store.makeDirectory path =
      .ok ⟨((store.missing (Path.parent (Path.normalize path))).foldr
        (fun ancestor nodes => nodes.insert ancestor .directory) store.nodes).insert
          (Path.normalize path) .directory⟩ := by
  have notRoot : Path.normalize path ≠ Path.root := by
    intro isRoot
    rw [isRoot, grounded.rooted] at absent
    cases absent
  have missing : store.missing (Path.normalize path) =
      Path.normalize path :: store.missing (Path.parent (Path.normalize path)) := by
    rw [missing_eq (Path.isNormal_normalize path) notRoot, if_neg]
    simp [Table.contains, absent]
  simp only [makeDirectory, absent, missing, List.foldr_cons]

/-- A call ends as the change does, and leaves the store as it was if it fails. -/
theorem Call.attempt_eq (call : Call store change left answer) (grounded : store.Grounded) :
    answer = .ok () ∧ change.attempt store = .ok left ∨
      ∃ fault, answer = .error fault ∧ change.attempt store = .error fault ∧ left = store := by
  induction call with
  | present path found => exact .inl ⟨rfl, by simp [Change.attempt, makeDirectory, found]⟩
  | taken path content found =>
      exact .inr ⟨_, rfl, by simp [Change.attempt, makeDirectory, found], rfl⟩
  | placed path absent inside =>
      refine .inl ⟨rfl, (makeDirectory_of_absent grounded absent).trans ?_⟩
      simp [missing, inside]
  | climbed path between absent outside above inductionHypothesis =>
      refine .inl ⟨rfl, (makeDirectory_of_absent grounded absent).trans ?_⟩
      rcases inductionHypothesis with ⟨-, done⟩ | ⟨fault, failed, -⟩
      · rw [Change.attempt, makeDirectory_parent outside] at done
        cases done
        rfl
      · cases failed
  | broken path between fault absent outside above inductionHypothesis =>
      -- The parent is made only if it is absent, and then nothing can stand in its way.
      rcases inductionHypothesis with ⟨done, -⟩ | ⟨other, -, failed, -⟩
      · cases done
      · rw [Change.attempt, makeDirectory_parent outside] at failed
        cases failed
  | overDirectory path content found =>
      exact .inr ⟨_, rfl, by simp [Change.attempt, write, found], rfl⟩
  | insideFile path content held free above =>
      exact .inr ⟨_, rfl, by simp [Change.attempt, write, free, above], rfl⟩
  | unhoused path content free above =>
      exact .inr ⟨_, rfl, by simp [Change.attempt, write, free, above], rfl⟩
  | written path content free above =>
      exact .inl ⟨rfl, by simp [Change.attempt, write, free, above]⟩
  | atRoot path isRoot => exact .inr ⟨_, rfl, by simp [Change.attempt, remove, isRoot], rfl⟩
  | occupied path notRoot found filled =>
      exact .inr ⟨_, rfl, by simp [Change.attempt, remove, notRoot, found, filled], rfl⟩
  | nothing path notRoot absent =>
      exact .inr ⟨_, rfl, by simp [Change.attempt, remove, notRoot, absent], rfl⟩
  | removed path node notRoot found empty =>
      refine .inl ⟨rfl, ?_⟩
      cases node with
      | directory => simp [Change.attempt, remove, notRoot, found, empty rfl]
      | file content => simp [Change.attempt, remove, notRoot, found]

end Call

section Termination

variable {store : Store} {path : String}

/-- A path that is stored is answered at once. -/
theorem call_of_contains (there : store.nodes.contains (Path.normalize path) = true) :
    ∃ left answer, Call store (.makeDirectory path) left answer := by
  obtain ⟨node, found⟩ := Option.isSome_iff_exists.mp there
  cases node with
  | directory => exact ⟨_, _, .present path found⟩
  | file content => exact ⟨_, _, .taken path content found⟩

/-- A call ends if the call for the parent does. -/
theorem call_of_parent
    (above : ∃ left answer,
      Call store (.makeDirectory (Path.parent (Path.normalize path))) left answer) :
    ∃ left answer, Call store (.makeDirectory path) left answer := by
  cases there : store.nodes.contains (Path.normalize path) with
  | true => exact call_of_contains there
  | false =>
      have absent : store.nodes.find? (Path.normalize path) = none := by
        simpa [Table.contains] using there
      cases inside : store.nodes.contains (Path.parent (Path.normalize path)) with
      | true => exact ⟨_, _, .placed path absent inside⟩
      | false =>
          obtain ⟨between, answer, call⟩ := above
          cases answer with
          | ok done => exact ⟨_, _, .climbed path between absent inside call⟩
          | error fault => exact ⟨_, _, .broken path between fault absent inside call⟩

/-- Where something above the path is stored, the calls for its parents come to an end. -/
theorem call_of_mem_ancestors {target place : String} (normal : Path.isNormal target = true)
    (same : Path.normalize path = target) (member : place ∈ target :: Path.ancestors target)
    (there : store.nodes.contains place = true) :
    ∃ left answer, Call store (.makeDirectory path) left answer := by
  induction target, normal using Path.normalInduction generalizing path with
  | top =>
      rw [Path.ancestors_root, List.mem_singleton] at member
      rw [member, ← same] at there
      exact call_of_contains there
  | child target normal notRoot inductionHypothesis =>
      rw [Path.ancestors_eq normal notRoot] at member
      rcases List.mem_cons.mp member with rfl | above
      · exact call_of_contains (same ▸ there)
      · apply call_of_parent
        rw [same]
        exact inductionHypothesis (Path.normalize_of_isNormal (Path.isNormal_parent normal)) above

/-- What is stored above the parent is stored above the path. -/
theorem stored_of_parent
    (above : ∃ place ∈ Path.normalize (Path.parent (Path.normalize path)) ::
      Path.ancestors (Path.normalize (Path.parent (Path.normalize path))),
        store.nodes.contains place = true) :
    ∃ place ∈ Path.normalize path :: Path.ancestors (Path.normalize path),
      store.nodes.contains place = true := by
  have normal := Path.isNormal_normalize path
  rw [Path.normalize_of_isNormal (Path.isNormal_parent normal)] at above
  obtain ⟨place, member, there⟩ := above
  exact ⟨place, Path.mem_ancestors_of_parent normal member, there⟩

/-- A call that ends has met something that was stored. -/
theorem Call.stored {change : Change} {left : Store} {answer : Except Fault Unit}
    (call : Call store change left answer) (makes : change = .makeDirectory path) :
    ∃ place ∈ Path.normalize path :: Path.ancestors (Path.normalize path),
      store.nodes.contains place = true := by
  induction call generalizing path with
  | present _ found =>
      cases makes
      exact ⟨_, List.mem_cons_self, by simp [Table.contains, found]⟩
  | taken _ _ found =>
      cases makes
      exact ⟨_, List.mem_cons_self, by simp [Table.contains, found]⟩
  | placed _ _ inside =>
      cases makes
      exact ⟨_, Path.mem_ancestors_of_parent (Path.isNormal_normalize _) List.mem_cons_self,
        inside⟩
  | climbed _ _ _ _ _ inductionHypothesis =>
      cases makes
      exact stored_of_parent (inductionHypothesis rfl)
  | broken _ _ _ _ _ _ inductionHypothesis =>
      cases makes
      exact stored_of_parent (inductionHypothesis rfl)
  | _ => cases makes

/-- Making a directory ends exactly if the path or something above it is stored. -/
theorem exists_call_iff (store : Store) (path : String) :
    (∃ left answer, Call store (.makeDirectory path) left answer) ↔
      ∃ place ∈ Path.normalize path :: Path.ancestors (Path.normalize path),
        store.nodes.contains place = true := by
  constructor
  · rintro ⟨left, answer, call⟩
    exact call.stored rfl
  · rintro ⟨place, member, there⟩
    exact call_of_mem_ancestors (Path.isNormal_normalize path) rfl member there

/-- A write looks at the path and at its parent, and each answer has its exit. -/
theorem exists_call_write (store : Store) (path : String) (content : List UInt8) :
    ∃ left answer, Call store (.write path content) left answer := by
  by_cases found : store.nodes.find? (Path.normalize path) = some .directory
  · exact ⟨_, _, .overDirectory path content found⟩
  · cases above : store.nodes.find? (Path.parent (Path.normalize path)) with
    | none => exact ⟨_, _, .unhoused path content found above⟩
    | some node =>
        cases node with
        | directory => exact ⟨_, _, .written path content found above⟩
        | file held => exact ⟨_, _, .insideFile path content held found above⟩

/-- A removal looks at the path and, if that is a directory, below it. -/
theorem exists_call_remove (store : Store) (path : String) :
    ∃ left answer, Call store (.remove path) left answer := by
  by_cases isRoot : Path.normalize path = Path.root
  · exact ⟨_, _, .atRoot path isRoot⟩
  · cases found : store.nodes.find? (Path.normalize path) with
    | none => exact ⟨_, _, .nothing path isRoot found⟩
    | some node =>
        by_cases filled : node = .directory ∧ store.hasBelow (Path.normalize path) = true
        · obtain ⟨rfl, filled⟩ := filled
          exact ⟨_, _, .occupied path isRoot found filled⟩
        · refine ⟨_, _, .removed path node isRoot found fun isDirectory => ?_⟩
          exact Bool.eq_false_iff.mpr fun below => filled ⟨isDirectory, below⟩

/-- In a store with a root, every call comes to an end. -/
theorem exists_call (grounded : store.Grounded) (change : Change) :
    ∃ left answer, Call store change left answer := by
  cases change with
  | makeDirectory path =>
      refine (exists_call_iff store path).mpr ⟨Path.root, ?_, ?_⟩
      · rw [Path.mem_ancestors_iff (Path.isNormal_normalize path) Path.isNormal_root,
          Path.components_root]
        exact List.nil_prefix
      · rw [Table.contains, grounded.rooted]
        rfl
  | write path content => exact exists_call_write store path content
  | remove path => exact exists_call_remove store path

end Termination

section Outcome

variable {store : Store}

/-- A call succeeds exactly as the change does. -/
theorem call_ok_iff (grounded : store.Grounded) (change : Change) (left : Store) :
    Call store change left (.ok ()) ↔ change.attempt store = .ok left := by
  constructor
  · intro call
    rcases call.attempt_eq grounded with ⟨-, done⟩ | ⟨fault, failed, -⟩
    · exact done
    · cases failed
  · intro done
    obtain ⟨other, answer, call⟩ := exists_call grounded change
    rcases call.attempt_eq grounded with ⟨rfl, same⟩ | ⟨fault, -, failed, -⟩
    · rw [done] at same
      cases same
      exact call
    · rw [done] at failed
      cases failed

/-- A call fails exactly as the change does, and leaves the store as it was. -/
theorem call_error_iff (grounded : store.Grounded) (change : Change) (left : Store)
    (fault : Fault) :
    Call store change left (.error fault) ↔
      change.attempt store = .error fault ∧ left = store := by
  constructor
  · intro call
    rcases call.attempt_eq grounded with ⟨done, -⟩ | ⟨other, same, failed, unchanged⟩
    · cases done
    · cases same
      exact ⟨failed, unchanged⟩
  · rintro ⟨failed, rfl⟩
    obtain ⟨other, answer, call⟩ := exists_call grounded change
    rcases call.attempt_eq grounded with ⟨-, done⟩ | ⟨otherFault, rfl, same, rfl⟩
    · rw [failed] at done
      cases done
    · rw [failed] at same
      cases same
      exact call

end Outcome

/-- After any changes, every directory is made or refused in finitely many calls. -/
theorem after_call (changes : List Change) :
    (∀ key ∈ (after changes).nodes.keys, Path.isNormal key = true) ∧
      (after changes).nodes.find? Path.root = some .directory ∧
      ∀ path, (∃ left answer, Call (after changes) (.makeDirectory path) left answer) ∧
        ∀ left, Call (after changes) (.makeDirectory path) left (.ok ()) →
          (after changes).makeDirectory path = .ok left ∧ left.isDirectory path = true := by
  have grounded := after_grounded changes
  refine ⟨fun key member => ?_, grounded.rooted, fun path => ⟨exists_call grounded _, ?_⟩⟩
  · rw [Table.mem_keys_iff] at member
    obtain ⟨node, found⟩ := Option.isSome_iff_exists.mp member
    exact grounded.normal key node found
  · intro left call
    have done : (after changes).makeDirectory path = .ok left :=
      (call_ok_iff grounded _ left).mp call
    exact ⟨done, isDirectory_makeDirectory done⟩

/-- A directory stays where the file that it lay in was removed. -/
def orphaned : List Change :=
  [.write "/f" [120], .makeDirectory "/f/d", .remove "/f"]

/-- A directory is made where its parents were removed. -/
theorem after_call_orphaned :
    (after orphaned).contains "/f" = false ∧ (after orphaned).contains "/f/d" = true ∧
      ∃ left, Call (after orphaned) (.makeDirectory "f//e/g") left (.ok ()) ∧
        (after orphaned).makeDirectory "f//e/g" = .ok left ∧
        left.isDirectory "f//e/g" = true := by
  have absent : (after orphaned).nodes.find? (Path.normalize "f//e/g") = none := by decide +kernel
  have call := (call_ok_iff (after_grounded orphaned) (.makeDirectory "f//e/g") _).mpr
    (makeDirectory_of_absent (after_grounded orphaned) absent)
  exact ⟨by decide +kernel, by decide +kernel, _, call, ((after_call orphaned).2.2 _).2 _ call⟩

end TapeShell.Store
