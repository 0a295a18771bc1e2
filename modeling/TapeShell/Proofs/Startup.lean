/-
This file says when the working directory of the settings exists at the start.
-/

import TapeShell.Launch
import TapeShell.Path.Resolution
import TapeShell.Proofs.Ancestry

namespace TapeShell

namespace Session

/-- Variables do not move the session. -/
theorem directory_foldl_setVariable (entries : List (String × String)) (session : Session) :
    (entries.foldl (fun session entry => session.setVariable entry.1 entry.2) session).directory =
      session.directory := by
  induction entries generalizing session with
  | nil => rfl
  | cons entry rest inductionHypothesis => exact inductionHypothesis _

/-- A session starts in the directory of its settings. -/
theorem directory_ofSettings (settings : Settings) :
    (ofSettings settings).directory = settings.directory :=
  directory_foldl_setVariable ..

end Session

namespace Launch

/-- The place that relative paths count from at the start. -/
def workplace (settings : Settings) : String :=
  Path.resolve (Session.ofSettings settings).directory "."

/-- The standard store has grown. -/
theorem standardStore_grown {start : Store} (made : standardStore = .ok start) :
    start.Grown := by
  unfold standardStore at made
  cases home : Store.fresh.makeDirectory "/home" with
  | error fault =>
      rw [home] at made
      cases made
  | ok first =>
      rw [home] at made
      exact (Store.fresh_grown.makeDirectory home).makeDirectory made

/-- The store that the start begins with was only added to. -/
theorem startStore_grown {tape : Option Tape} {start : Store}
    (started : startStore tape = .ok start) : start.Grown := by
  cases tape with
  | none =>
      cases made : standardStore with
      | error fault =>
          rw [startStore, made] at started
          cases started
      | ok store =>
          rw [startStore, made] at started
          cases started
          exact standardStore_grown made
  | some tape =>
      have restored := tape.restore_grown Store.fresh_grown
      rcases result : tape.restore Store.fresh with ⟨store, _ | stats⟩
      · simp only [startStore, result] at started
        cases started
      · simp only [startStore, result] at started
        cases started
        rwa [result] at restored

/-- The working directory is made, or it is there already. -/
theorem prepareStore_eq {tape : Option Tape} {settings : Settings} {store : Store}
    (prepared : prepareStore tape settings = .ok store) :
    ∃ start, startStore tape = .ok start ∧ start.makeDirectory settings.directory = .ok store := by
  unfold prepareStore at prepared
  cases started : startStore tape with
  | error fault =>
      rw [started] at prepared
      cases prepared
  | ok start =>
      rw [started] at prepared
      refine ⟨start, rfl, ?_⟩
      by_cases there : start.isDirectory settings.directory = true
      · have found : start.nodes.find? (Path.normalize settings.directory) = some .directory :=
          beq_iff_eq.mp there
        have same : start = store := by
          simpa [there, bind, Except.bind, pure, Except.pure] using prepared
        rw [← same]
        simp only [Store.makeDirectory, found]
      · have made : (start.makeDirectory settings.directory).mapError Fault.store = .ok store := by
          simpa [there, bind, Except.bind] using prepared
        cases result : start.makeDirectory settings.directory with
        | error fault =>
            rw [result] at made
            cases made
        | ok changed =>
            rw [result] at made
            cases made
            rfl

/-- The start is a directory exactly if it was one or lies on the path that is made. -/
theorem prepareStore_workplace {tape : Option Tape} {settings : Settings} {store : Store}
    (prepared : prepareStore tape settings = .ok store) :
    ∃ start, startStore tape = .ok start ∧
      (store.isDirectory (workplace settings) = true ↔
        start.isDirectory (workplace settings) = true ∨
          start.contains (workplace settings) = false ∧
            Path.components (workplace settings) <+: Path.components settings.directory) ∧
      ((∀ name ∈ Path.components settings.directory, Path.IsProper name) →
        store.isDirectory (workplace settings) = true) := by
  obtain ⟨start, started, made⟩ := prepareStore_eq prepared
  have normal : Path.isNormal (workplace settings) = true := (Path.isCanonical_resolve ..).1
  refine ⟨start, started, ?_, ?_⟩
  · exact Store.isDirectory_makeDirectory_iff (startStore_grown started) made normal
  · intro proper
    have there := Store.isDirectory_makeDirectory made
    have spelled : workplace settings = Path.normalize settings.directory := by
      rw [workplace, Session.directory_ofSettings, Path.resolve_dot_of_isProper proper]
    rw [Store.isDirectory, Store.node?] at there ⊢
    rwa [Path.normalize_of_isNormal normal, spelled]

/-- The working directory is spelled without its first slash and with a double one. -/
theorem prepareStore_workplace_untidy :
    ∃ store, prepareStore none ⟨"", "a//b", "", "", .empty⟩ = .ok store ∧
      (∀ name ∈ Path.components "a//b", Path.IsProper name) ∧
      store.isDirectory (workplace ⟨"", "a//b", "", "", .empty⟩) = true ∧
      workplace ⟨"", "a//b", "", "", .empty⟩ = "/a/b" := by
  have succeeds : (prepareStore none ⟨"", "a//b", "", "", .empty⟩).isOk = true := by
    decide +kernel
  cases prepared : prepareStore none ⟨"", "a//b", "", "", .empty⟩ with
  | error fault =>
      rw [prepared] at succeeds
      cases succeeds
  | ok store =>
      have proper : ∀ name ∈ Path.components "a//b", Path.IsProper name := by decide +kernel
      obtain ⟨start, -, -, there⟩ := prepareStore_workplace prepared
      exact ⟨store, rfl, proper, there proper, by decide +kernel⟩

/-- The working directory is made as it is spelled, with its dots as a name. -/
theorem not_isDirectory_workplace_dotted :
    ∃ store, prepareStore none ⟨"", "/a/../b", "", "", .empty⟩ = .ok store ∧
      workplace ⟨"", "/a/../b", "", "", .empty⟩ = "/b" ∧
      store.isDirectory (workplace ⟨"", "/a/../b", "", "", .empty⟩) = false := by
  have answer : (prepareStore none ⟨"", "/a/../b", "", "", .empty⟩).map
      (fun store => store.isDirectory (workplace ⟨"", "/a/../b", "", "", .empty⟩)) =
        .ok false := by
    decide +kernel
  cases prepared : prepareStore none ⟨"", "/a/../b", "", "", .empty⟩ with
  | error fault =>
      rw [prepared] at answer
      cases answer
  | ok store =>
      rw [prepared] at answer
      exact ⟨store, rfl, by decide +kernel, Except.ok.inj answer⟩

end Launch

end TapeShell
