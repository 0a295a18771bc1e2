/-
This file says which answers of a store a change affects.
-/

import TapeShell.Proofs.Call

namespace TapeShell.Store

/-- Two stores give the same answers about a path. -/
def Agrees (first second : Store) (path : String) : Prop :=
  first.read path = second.read path ∧ first.stat path = second.stat path ∧
    first.contains path = second.contains path

section Answers

variable {store changed : Store} {path other : String}

/-- All answers come from what is found under the path. -/
theorem agrees_of_node? (same : changed.node? path = store.node? path) :
    store.Agrees changed path := by
  simp [Agrees, read, stat, contains, same]

/-- After a write, every spelling of the path finds the new file. -/
theorem node?_write {content : List UInt8} (done : store.write path content = .ok changed)
    (other : String) :
    changed.node? other =
      if Path.components path = Path.components other then some (.file content)
      else store.node? other := by
  have effect : Effect store (.write path content) changed := effect_of_attempt done
  cases effect
  simp only [node?, Table.find?_insert, Path.normalize_inj]

/-- After a directory is made, the missing places hold directories. -/
theorem node?_makeDirectory (done : store.makeDirectory path = .ok changed) (other : String) :
    changed.node? other =
      if Path.normalize other ∈ store.missing (Path.normalize path) then some .directory
      else store.node? other :=
  find?_makeDirectory done (Path.normalize other)

/-- After a removal, no spelling of the path finds anything. -/
theorem node?_remove (done : store.remove path = .ok changed) (other : String) :
    changed.node? other =
      if Path.components path = Path.components other then none else store.node? other := by
  have effect : Effect store (.remove path) changed := effect_of_attempt done
  cases effect
  simp only [node?, Table.find?_erase, Path.normalize_inj]

/-- What was written is read under every spelling of the path, and nothing else is affected. -/
theorem write_answers {content : List UInt8} (done : store.write path content = .ok changed) :
    (Path.components other = Path.components path → changed.read other = .ok content) ∧
      (Path.components other ≠ Path.components path → store.Agrees changed other) := by
  have found := node?_write done other
  constructor
  · intro same
    rw [if_pos same.symm] at found
    rw [read, found]
  · intro different
    rw [if_neg (Ne.symm different)] at found
    exact agrees_of_node? found

/-- Answers differ on the path of the directory only, where nothing was stored. -/
theorem makeDirectory_answers (done : store.makeDirectory path = .ok changed)
    (differs : ¬ store.Agrees changed other) :
    Path.components other <+: Path.components path ∧ store.contains other = false ∧
      changed.isDirectory other = true := by
  have found := node?_makeDirectory done other
  split at found
  next missing =>
    have onPath := (List.takeWhile_sublist _).subset missing
    rw [Path.mem_ancestors_iff (Path.isNormal_normalize path) (Path.isNormal_normalize other),
      Path.components_normalize, Path.components_normalize] at onPath
    refine ⟨onPath, ?_, ?_⟩
    · rw [contains, node?, absent_of_mem_missing missing]
      rfl
    · rw [isDirectory, found]
      rfl
  next => exact absurd (agrees_of_node? found) differs

/-- What was removed is absent under every spelling of the path, and nothing else is affected. -/
theorem remove_answers (done : store.remove path = .ok changed) :
    (Path.components other = Path.components path →
      store.contains other = true ∧ changed.contains other = false) ∧
      (Path.components other ≠ Path.components path → store.Agrees changed other) := by
  have found := node?_remove done other
  constructor
  · intro same
    rw [if_pos same.symm] at found
    have effect : Effect store (.remove path) changed := effect_of_attempt done
    cases effect with
    | removed _ node notRoot there empty =>
        refine ⟨?_, by simp [contains, found]⟩
        rw [contains, node?, Path.normalize_inj.mpr same, there]
        rfl
  · intro different
    rw [if_neg (Ne.symm different)] at found
    exact agrees_of_node? found

end Answers

/-- A change has its effect in every spelling of the path, and no other answer changes. -/
theorem after_answers (changes : List Change) (path other : String) :
    (∀ change left fault, Call (after changes) change left (.error fault) ↔
      change.attempt (after changes) = .error fault ∧ left = after changes) ∧
    (∀ change left, Call (after changes) change left (.ok ()) ↔
      change.attempt (after changes) = .ok left) ∧
    (∀ content changed, (after changes).write path content = .ok changed →
      (Path.components other = Path.components path → changed.read other = .ok content) ∧
      (Path.components other ≠ Path.components path → (after changes).Agrees changed other)) ∧
    (∀ changed, (after changes).makeDirectory path = .ok changed →
      changed.isDirectory path = true ∧
      (¬ (after changes).Agrees changed other →
        Path.components other <+: Path.components path ∧
          (after changes).contains other = false ∧ changed.isDirectory other = true)) ∧
    ∀ changed, (after changes).remove path = .ok changed →
      (Path.components other = Path.components path →
        (after changes).contains other = true ∧ changed.contains other = false) ∧
      (Path.components other ≠ Path.components path → (after changes).Agrees changed other) := by
  have grounded := after_grounded changes
  refine ⟨call_error_iff grounded, call_ok_iff grounded, ?_, ?_, ?_⟩
  · intro content changed done
    exact write_answers done
  · intro changed done
    exact ⟨isDirectory_makeDirectory done, makeDirectory_answers done⟩
  · intro changed done
    exact remove_answers done

/-- One file lies in a directory. -/
def hall : List Change :=
  [.makeDirectory "/a", .write "/a/x" [120]]

/-- A result that succeeds has a value. -/
theorem exists_ok_of_isOk {result : Except Fault Store} (succeeds : result.isOk = true) :
    ∃ changed, result = .ok changed := by
  cases result with
  | ok changed => exact ⟨changed, rfl⟩
  | error fault => cases succeeds

/-- Each of the three changes succeeds in the hall, and a fourth is refused. -/
theorem after_answers_hall :
    (∃ changed, (after hall).write "a//x/" [121] = .ok changed ∧
      changed.read "/a/x" = .ok [121] ∧ (after hall).Agrees changed "/a") ∧
    (∃ changed, (after hall).makeDirectory "/b//c" = .ok changed ∧
      changed.isDirectory "/b//c" = true ∧ (after hall).Agrees changed "/a") ∧
    (∃ changed, (after hall).remove "//a/x" = .ok changed ∧
      changed.contains "a/x" = false ∧ (after hall).Agrees changed "/a") ∧
    ∃ fault, (after hall).makeDirectory "a/x" = .error fault ∧
      Call (after hall) (.makeDirectory "a/x") (after hall) (.error fault) := by
  refine ⟨?_, ?_, ?_, ?_⟩
  · obtain ⟨changed, done⟩ : ∃ changed, (after hall).write "a//x/" [121] = .ok changed :=
      exists_ok_of_isOk (by decide +kernel)
    have here := ((after_answers hall "a//x/" "/a/x").2.2.1 [121] changed done).1
    have elsewhere := ((after_answers hall "a//x/" "/a").2.2.1 [121] changed done).2
    exact ⟨changed, done, here (by decide +kernel), elsewhere (by decide +kernel)⟩
  · obtain ⟨changed, done⟩ : ∃ changed, (after hall).makeDirectory "/b//c" = .ok changed :=
      exists_ok_of_isOk (by decide +kernel)
    obtain ⟨made, onPath⟩ := (after_answers hall "/b//c" "/a").2.2.2.1 changed done
    refine ⟨changed, done, made, ?_⟩
    by_contra differs
    exact absurd (onPath differs).1 (by decide +kernel)
  · obtain ⟨changed, done⟩ : ∃ changed, (after hall).remove "//a/x" = .ok changed :=
      exists_ok_of_isOk (by decide +kernel)
    have here := ((after_answers hall "//a/x" "a/x").2.2.2.2 changed done).1
    have elsewhere := ((after_answers hall "//a/x" "/a").2.2.2.2 changed done).2
    exact ⟨changed, done, (here (by decide +kernel)).2, elsewhere (by decide +kernel)⟩
  · have call : Call (after hall) (.makeDirectory "a/x") (after hall) _ :=
      .taken "a/x" [120] (by decide +kernel)
    exact ⟨_, (((after_answers hall "" "").1 _ _ _).mp call).1, call⟩

end TapeShell.Store
