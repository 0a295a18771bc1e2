/-
This file shows that a store that is only added to holds the ancestors of everything it holds.
-/

import TapeShell.Proofs.Tree
import TapeShell.Tape.Backup

namespace TapeShell

namespace Store

/-- Everything but the root lies in something that is stored too. -/
def Connected (store : Store) : Prop :=
  ∀ path node, store.nodes.find? path = some node → path ≠ Path.root →
    store.nodes.contains (Path.parent path) = true

/-- A grown store has normal paths and a root, and holds the parent of everything it holds. -/
structure Grown (store : Store) : Prop where
  grounded : store.Grounded
  connected : store.Connected

/-- A new store has grown. -/
theorem fresh_grown : fresh.Grown where
  grounded := fresh_grounded
  connected := by
    intro path node found notRoot
    rw [find?_fresh, if_neg (Ne.symm notRoot)] at found
    cases found

section Grown

variable {store changed : Store} {path target : String}

/-- What is made or written lies in something that is stored. -/
theorem Effect.connected {change : Change} (effect : Effect store change changed)
    (grown : store.Grown) (adds : ∀ path, change ≠ .remove path) : changed.Connected := by
  cases effect with
  | present path found => exact grown.connected
  | created path absent =>
      intro stored node found notRoot
      rw [find?_foldr_insert] at found
      rw [Table.contains, find?_foldr_insert]
      split
      next => rfl
      next parentStored =>
        split at found
        next missing =>
          have above :=
            parent_of_mem_missing grown.grounded (Path.isNormal_normalize path) missing
          exact above.2.resolve_left parentStored
        next => exact grown.connected stored node found notRoot
  | written path content free inside =>
      intro stored node found notRoot
      rw [Table.contains, Table.find?_insert]
      split
      next => rfl
      next =>
        rw [Table.find?_insert] at found
        split at found
        next same =>
          rw [← same, inside]
          rfl
        next => exact grown.connected stored node found notRoot
  | removed path => exact absurd rfl (adds path)

/-- Everything above a stored path is stored. -/
theorem contains_of_mem_ancestors (connected : store.Connected)
    (normal : Path.isNormal target = true) (there : store.nodes.contains target = true)
    (above : path ∈ Path.ancestors target) : store.nodes.contains path = true := by
  induction target, normal using Path.normalInduction with
  | top => simp at above
  | child target normal notRoot inductionHypothesis =>
      obtain ⟨node, found⟩ := Option.isSome_iff_exists.mp there
      have parentThere := connected target node found notRoot
      rw [Path.ancestors_eq normal notRoot] at above
      rcases List.mem_cons.mp above with rfl | higher
      · exact parentThere
      · exact inductionHypothesis parentThere higher

/-- The missing paths are the path and its ancestors as far as they are not stored. -/
theorem mem_missing_iff (grown : store.Grown) (normal : Path.isNormal target = true) :
    path ∈ store.missing target ↔
      path ∈ target :: Path.ancestors target ∧ store.nodes.contains path = false := by
  constructor
  · intro member
    refine ⟨(List.takeWhile_sublist _).subset member, ?_⟩
    rw [Table.contains, absent_of_mem_missing member]
    rfl
  · rintro ⟨member, absent⟩
    induction target, normal using Path.normalInduction with
    | top =>
        rw [Path.ancestors_root, List.mem_singleton] at member
        rw [member, Table.contains, grown.grounded.rooted] at absent
        cases absent
    | child target normal notRoot inductionHypothesis =>
        rw [missing_eq normal notRoot]
        split
        next there =>
          -- Above a stored path nothing is missing.
          rcases List.mem_cons.mp member with rfl | above
          · rw [there] at absent
            cases absent
          · rw [contains_of_mem_ancestors grown.connected normal there above] at absent
            cases absent
        next =>
          rw [Path.ancestors_eq normal notRoot] at member
          rcases List.mem_cons.mp member with rfl | above
          · exact List.mem_cons_self
          · exact List.mem_cons_of_mem _ (inductionHypothesis above)

/-- A directory is made with its missing ancestors, and nothing else changes. -/
theorem find?_makeDirectory (done : store.makeDirectory target = .ok changed) (path : String) :
    changed.nodes.find? path =
      if path ∈ store.missing (Path.normalize target) then some .directory
      else store.nodes.find? path := by
  have effect : Effect store (.makeDirectory target) changed := effect_of_attempt done
  cases effect with
  | present _ found =>
      have nothing : store.missing (Path.normalize target) = [] := by
        simp [missing, Table.contains, found]
      rw [nothing, if_neg List.not_mem_nil]
  | created _ absent => exact find?_foldr_insert ..

/-- A directory that is made is there afterwards. -/
theorem isDirectory_makeDirectory (done : store.makeDirectory target = .ok changed) :
    changed.isDirectory target = true := by
  have effect : Effect store (.makeDirectory target) changed := effect_of_attempt done
  rw [isDirectory, node?, beq_iff_eq]
  cases effect with
  | present _ found => exact found
  | created _ absent => rw [find?_foldr_insert, if_pos (self_mem_missing absent)]

/-- The directories afterwards are those from before and those that were missing on the way. -/
theorem isDirectory_makeDirectory_iff (grown : store.Grown)
    (done : store.makeDirectory target = .ok changed) (normal : Path.isNormal path = true) :
    changed.isDirectory path = true ↔
      store.isDirectory path = true ∨
        store.contains path = false ∧ Path.components path <+: Path.components target := by
  have missing : path ∈ store.missing (Path.normalize target) ↔
      store.nodes.contains path = false ∧ Path.components path <+: Path.components target := by
    rw [mem_missing_iff grown (Path.isNormal_normalize target),
      Path.mem_ancestors_iff (Path.isNormal_normalize target) normal,
      Path.components_normalize, and_comm]
  have known : store.contains path = store.nodes.contains path := by
    rw [contains, node?, Path.normalize_of_isNormal normal, Table.contains]
  rw [isDirectory, node?, isDirectory, node?, Path.normalize_of_isNormal normal, beq_iff_eq,
    beq_iff_eq, find?_makeDirectory done, known, ← missing]
  split
  next isMissing => simp [isMissing]
  next notMissing => simp [notMissing]

/-- A store that is added to stays grown. -/
theorem Grown.attempt {change : Change} (grown : store.Grown)
    (done : change.attempt store = .ok changed) (adds : ∀ path, change ≠ .remove path) :
    changed.Grown := by
  have effect := effect_of_attempt done
  exact ⟨effect.grounded grown.grounded, effect.connected grown adds⟩

/-- Making a directory keeps a grown store grown. -/
theorem Grown.makeDirectory (grown : store.Grown) (done : store.makeDirectory path = .ok changed) :
    changed.Grown := by
  have attempted : (Change.makeDirectory path).attempt store = .ok changed := done
  exact grown.attempt attempted (by simp)

end Grown

end Store

namespace Tape

/-- The change that an entry asks for. -/
def Entry.change (entry : Entry) : Store.Change :=
  match entry.kind with
  | .directory => .makeDirectory entry.path
  | .file => .write entry.path (Text.Utf8.encode (entry.content.getD ""))

/-- Replaying an entry is one change. -/
theorem replayEntry_eq_attempt (store : Store) (entry : Entry) :
    replayEntry store entry = entry.change.attempt store := by
  unfold replayEntry Entry.change
  cases entry.kind <;> rfl

/-- No entry removes anything. -/
theorem Entry.change_ne_remove (entry : Entry) (path : String) : entry.change ≠ .remove path := by
  unfold Entry.change
  cases entry.kind <;> simp

/-- A replay only adds to the store, however far it gets. -/
theorem replay_grown {store : Store} (grown : store.Grown) (stats : Stats)
    (entries : List Entry) : (replay store stats entries).1.Grown := by
  induction entries generalizing store stats with
  | nil => exact grown
  | cons entry rest inductionHypothesis =>
      rw [replay]
      cases done : replayEntry store entry with
      | error fault => exact grown
      | ok changed =>
          rw [replayEntry_eq_attempt] at done
          exact inductionHypothesis (grown.attempt done entry.change_ne_remove) _

/-- A restored tape keeps a grown store grown, also if it stops at a fault. -/
theorem restore_grown (tape : Tape) {store : Store} (grown : store.Grown) :
    (tape.restore store).1.Grown := by
  unfold restore
  cases tape.entries with
  | error fault => exact grown
  | ok entries => exact replay_grown grown .zero entries

end Tape

end TapeShell
