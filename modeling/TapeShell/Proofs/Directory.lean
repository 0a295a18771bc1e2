/-
This file says when the working directory of a session is canonical.
-/

import TapeShell.Proofs.Frame

namespace TapeShell

/-- A moment is a stage and the flow that it is about to take. -/
structure Moment where
  flow : Flow
  stage : Stage

namespace Moment

/-- This is the machine behind the stage. -/
def after (moment : Moment) : Machine :=
  (moment.stage.run .standard moment.flow).machine

/-- The home directory as the variable spells it. -/
def home (moment : Moment) : String :=
  (moment.flow.machine.session.valueOf? "HOME").getD Path.root

/-- The stage goes home to a directory that is not canonical. -/
structure Strays (moment : Moment) : Prop where
  named : Catalog.foldCase moment.stage.command = "cd"
  homeward : moment.stage.arguments = []
  found : moment.flow.machine.store.isDirectory moment.home = true
  astray : ¬ Path.IsCanonical moment.home

instance (moment : Moment) : Decidable moment.Strays :=
  decidable_of_iff
    (Catalog.foldCase moment.stage.command = "cd" ∧ moment.stage.arguments = [] ∧
      moment.flow.machine.store.isDirectory moment.home = true ∧ ¬ Path.IsCanonical moment.home)
    ⟨fun ⟨named, homeward, found, astray⟩ => ⟨named, homeward, found, astray⟩,
      fun strays => ⟨strays.named, strays.homeward, strays.found, strays.astray⟩⟩

end Moment

/-- The moments of the stages, one after another. -/
def Flow.moments (flow : Flow) : List Stage → List Moment
  | [] => []
  | stage :: rest => ⟨flow, stage⟩ :: (stage.run .standard flow).moments rest

/-- No stage runs if the segment or its input cannot be read. -/
def Step.moments (step : Step) : List Moment :=
  match Pipeline.ofTokens step.tokens with
  | .error _ => []
  | .ok pipeline =>
      match pipeline.feed step.machine with
      | .error _ => []
      | .ok input => (Flow.start step.machine input).moments pipeline.stages

/-- The moments of a session, from its first stage to its last. -/
def Machine.moments (machine : Machine) (lines : List String) : List Moment :=
  (machine.steps .standard (lines.flatMap Segment.ofLine)).flatMap Step.moments

namespace Moment

variable {moment : Moment}

/-- A command that goes home ends there. -/
theorem directory_after (named : Catalog.foldCase moment.stage.command = "cd")
    (homeward : moment.stage.arguments = [])
    (found : moment.flow.machine.store.isDirectory moment.home = true) :
    moment.after.session.directory = moment.home := by
  have entered : Builtin.cd.run [] moment.flow.lines moment.flow.machine =
      ({ moment.flow.machine with
        session := moment.flow.machine.session.enter moment.home } : Machine).reply [] []
          Status.success :=
    if_pos found
  rw [after, Stage.machine_run, Catalog.resolve?_cd named, homeward]
  simp only [entered]
  rfl

/-- A stage that starts in a canonical directory leaves it only by straying home. -/
theorem isCanonical_after_iff
    (before : Path.IsCanonical moment.flow.machine.session.directory) :
    Path.IsCanonical moment.after.session.directory ↔ ¬ moment.Strays := by
  constructor
  · intro canonical strays
    rw [directory_after strays.named strays.homeward strays.found] at canonical
    exact strays.astray canonical
  · intro straight
    have effect := Stage.effect_run moment.flow moment.stage
    unfold after
    generalize (moment.stage.run .standard moment.flow).machine = left at effect
    cases effect with
    | unchanged => exact before
    | assigned bindings => exact before
    | entered named found =>
        cases arguments : moment.stage.arguments with
        | nil =>
            rw [arguments] at found
            by_contra astray
            exact straight ⟨named, arguments, found, astray⟩
        | cons directory rest => exact Path.isCanonical_resolve _ directory

end Moment

/-- Each moment starts in the directory that the moment before it left. -/
inductive Linked : String → List Moment → String → Prop where
  | nil (directory : String) : Linked directory [] directory
  | cons (moment : Moment) {rest : List Moment} {last : String}
      (linked : Linked moment.after.session.directory rest last) :
      Linked moment.flow.machine.session.directory (moment :: rest) last

namespace Linked

/-- Two linked parts of a history link its ends. -/
theorem append {start middle last : String} {first second : List Moment}
    (before : Linked start first middle) (after : Linked middle second last) :
    Linked start (first ++ second) last := by
  induction before with
  | nil directory => exact after
  | cons moment linked inductionHypothesis => exact .cons moment (inductionHypothesis after)

/-- The moments of a pipeline lead from its first directory to its last. -/
theorem of_flow (flow : Flow) (stages : List Stage) :
    Linked flow.machine.session.directory (flow.moments stages)
      (stages.foldl (Stage.run .standard) flow).machine.session.directory := by
  induction stages generalizing flow with
  | nil => exact .nil _
  | cons stage stages inductionHypothesis =>
      exact .cons ⟨flow, stage⟩ (inductionHypothesis _)

/-- The moments of a step lead from its first directory to its last. -/
theorem of_step (step : Step) :
    Linked step.machine.session.directory step.moments
      (step.after .standard).session.directory := by
  unfold Step.moments
  cases read : Pipeline.ofTokens step.tokens with
  | error fault =>
      rw [Step.after_of_unread .standard read]
      exact .nil _
  | ok pipeline =>
      simp only
      cases fed : pipeline.feed step.machine with
      | error fault =>
          rw [Step.after_of_unfed .standard read fed]
          exact .nil _
      | ok input =>
          rw [Step.session_after read fed]
          exact of_flow (.start step.machine input) pipeline.stages

/-- The working directory of a session changes at its moments only. -/
theorem of_lines (machine : Machine) (lines : List String) :
    Linked machine.session.directory (machine.moments lines)
      (machine.afterLines .standard lines).session.directory := by
  rw [Machine.afterLines_eq, Machine.moments]
  generalize lines.flatMap Segment.ofLine = segments
  induction segments generalizing machine with
  | nil => exact .nil _
  | cons segment rest inductionHypothesis =>
      rw [Machine.runSegments_cons, Machine.steps, List.flatMap_cons]
      have following :=
        inductionHypothesis (machine.runSegment .standard segment).keepStatus.machine
      rw [Reply.directory_keepStatus] at following
      exact (of_step ⟨machine, segment⟩).append following

/-- The directory is canonical throughout if and only if no moment strays. -/
theorem isCanonical_iff {first last : String} {moments : List Moment}
    (linked : Linked first moments last) (canonical : Path.IsCanonical first) :
    ((∀ moment ∈ moments, Path.IsCanonical moment.after.session.directory) ↔
        ∀ moment ∈ moments, ¬ moment.Strays) ∧
      ((∀ moment ∈ moments, ¬ moment.Strays) → Path.IsCanonical last) := by
  induction linked with
  | nil directory => simpa using canonical
  | cons moment linked inductionHypothesis =>
      have first := Moment.isCanonical_after_iff canonical
      simp only [List.forall_mem_cons]
      by_cases strays : moment.Strays
      · -- Both sides fail at this moment already.
        simp [first, strays]
      · obtain ⟨throughout, atEnd⟩ := inductionHypothesis (first.mpr strays)
        exact ⟨and_congr first throughout, fun straight => atEnd straight.2⟩

end Linked

/-- The working directory is stored as one. -/
def Machine.Housed (machine : Machine) : Prop :=
  machine.store.isDirectory machine.session.directory = true

/-- A stage leaves the machine in a stored directory. -/
theorem Stage.housed_run {flow : Flow} (housed : flow.machine.Housed) (stage : Stage) :
    (stage.run .standard flow).machine.Housed := by
  have effect := Stage.effect_run flow stage
  generalize (stage.run .standard flow).machine = left at effect
  cases effect with
  | unchanged => exact housed
  | assigned bindings => exact housed
  | entered named found => exact found

/-- So do all stages of a pipeline. -/
theorem Pipeline.housed_foldl_run (flow : Flow) (housed : flow.machine.Housed)
    (stages : List Stage) :
    (stages.foldl (Stage.run .standard) flow).machine.Housed := by
  induction stages generalizing flow with
  | nil => exact housed
  | cons stage stages inductionHypothesis =>
      exact inductionHypothesis _ (stage.housed_run housed)

/-- The stages leave a directory, and no output removes it. -/
theorem Step.housed_after (step : Step) (housed : step.machine.Housed) :
    (step.after .standard).Housed := by
  cases read : Pipeline.ofTokens step.tokens with
  | error fault => rwa [after_of_unread .standard read]
  | ok pipeline =>
      cases fed : pipeline.feed step.machine with
      | error fault => rwa [after_of_unfed .standard read fed]
      | ok input =>
          have reached :=
            Pipeline.housed_foldl_run (.start step.machine input) housed pipeline.stages
          rw [Machine.Housed, Pipeline.store_foldl_run] at reached
          rw [Machine.Housed, session_after read fed]
          exact step.extends_after.isDirectory reached

namespace Machine

/-- A session stays in canonical directories exactly if it never goes home to another one. -/
theorem afterLines_directory {machine : Machine}
    (canonical : Path.resolve machine.session.directory "." = machine.session.directory)
    (housed : machine.store.isDirectory machine.session.directory = true)
    (lines : List String) :
    (machine.afterLines .standard lines).store.isDirectory
        (machine.afterLines .standard lines).session.directory = true ∧
      ((∀ moment ∈ machine.moments lines, Path.IsCanonical moment.after.session.directory) ↔
        ∀ moment ∈ machine.moments lines, ¬ moment.Strays) ∧
      ((∀ moment ∈ machine.moments lines, ¬ moment.Strays) →
        Path.IsCanonical (machine.afterLines .standard lines).session.directory) := by
  constructor
  · apply afterLines_keeps (motive := Housed)
    · intro reached segment before
      rw [Housed, Reply.store_keepStatus, Reply.directory_keepStatus]
      exact Step.housed_after ⟨reached, segment⟩ before
    · exact housed
  · exact (Linked.of_lines machine lines).isCanonical_iff (Path.isCanonical_iff.mpr canonical)

/-- The session goes home within a pipeline and moves on by dots. -/
theorem afterLines_directory_lobby :
    (Path.resolve lobby.session.directory "." = lobby.session.directory ∧
        lobby.store.isDirectory lobby.session.directory = true) ∧
      (∀ moment ∈ lobby.moments ["export HOME=/home", "CD | cd ./.."], ¬ moment.Strays) ∧
      (lobby.moments ["export HOME=/home", "CD | cd ./.."]).length = 3 ∧
      Path.IsCanonical (lobby.afterLines .standard
        ["export HOME=/home", "CD | cd ./.."]).session.directory := by
  have start : Path.resolve lobby.session.directory "." = lobby.session.directory ∧
      lobby.store.isDirectory lobby.session.directory = true := by
    decide +kernel
  have straight : ∀ moment ∈ lobby.moments ["export HOME=/home", "CD | cd ./.."],
      ¬ moment.Strays := by
    decide +kernel
  obtain ⟨-, -, canonical⟩ :=
    afterLines_directory start.1 start.2 ["export HOME=/home", "CD | cd ./.."]
  exact ⟨start, straight, by decide +kernel, canonical straight⟩

/-- The home directory is named without its slash. -/
theorem not_isCanonical_relative_home :
    (Path.resolve lobby.session.directory "." = lobby.session.directory ∧
        lobby.store.isDirectory lobby.session.directory = true) ∧
      (lobby.afterLines .standard ["export HOME=home ; cd"]).session.directory = "home" ∧
      ¬ Path.IsCanonical (lobby.afterLines .standard
        ["export HOME=home ; cd"]).session.directory := by
  decide +kernel

end Machine

end TapeShell
