/-
This file follows a session from one segment to the next.
-/

import TapeShell.Proofs.Sequence

namespace TapeShell

/-- A step is a segment and the machine that it runs on. -/
structure Step where
  machine : Machine
  segment : String

namespace Step

/-- A step is scanned with the variables of its machine. -/
def tokens (step : Step) : List Token :=
  Token.scanWith step.machine.session.valueOf? step.segment

/-- This is the machine that a step leaves. -/
def after (catalog : Catalog) (step : Step) : Machine :=
  (step.machine.runSegment catalog step.segment).machine

end Step

namespace Reply

@[simp]
theorem store_keepStatus (reply : Reply) :
    reply.keepStatus.machine.store = reply.machine.store := rfl

@[simp]
theorem directory_keepStatus (reply : Reply) :
    reply.keepStatus.machine.session.directory = reply.machine.session.directory := rfl

end Reply

namespace Machine

/-- Every segment runs on the machine that the segments before it leave. -/
def steps (catalog : Catalog) (machine : Machine) : List String → List Step
  | [] => []
  | segment :: rest =>
      ⟨machine, segment⟩ ::
        (machine.runSegment catalog segment).keepStatus.machine.steps catalog rest

/-- The lines of a session run one after another. -/
def afterLines (catalog : Catalog) (machine : Machine) (lines : List String) : Machine :=
  lines.foldl (fun machine line => (machine.runLine catalog line).machine) machine

/-- The lines of a session run as all of their segments do. -/
theorem afterLines_eq (catalog : Catalog) (machine : Machine) (lines : List String) :
    machine.afterLines catalog lines =
      (machine.runSegments catalog (lines.flatMap Segment.ofLine)).1 := by
  induction lines generalizing machine with
  | nil => rfl
  | cons line lines inductionHypothesis =>
      rw [List.flatMap_cons, runSegments_append, ← inductionHypothesis, afterLines,
        List.foldl_cons, runLine_eq]
      rfl

/-- What every segment keeps is kept by the session. -/
theorem afterLines_keeps {catalog : Catalog} {motive : Machine → Prop}
    (kept : ∀ machine segment, motive machine →
      motive (machine.runSegment catalog segment).keepStatus.machine)
    {machine : Machine} (start : motive machine) (lines : List String) :
    motive (machine.afterLines catalog lines) := by
  rw [afterLines_eq]
  generalize lines.flatMap Segment.ofLine = segments
  induction segments generalizing machine with
  | nil => exact start
  | cons segment rest inductionHypothesis =>
      rw [runSegments_cons]
      exact inductionHypothesis (kept machine segment start)

end Machine

/-- The first stage takes this flow. -/
def Flow.start (machine : Machine) (input : Option (List String)) : Flow :=
  ⟨machine, [], input, Status.success⟩

namespace Pipeline

/-- The lines that the input feeds to the first stage, if there is an input. -/
def feed (pipeline : Pipeline) (machine : Machine) :
    Except Store.Fault (Option (List String)) :=
  match pipeline.input with
  | none => .ok none
  | some path =>
      (machine.store.readText (machine.resolve path)).map fun text => some (Text.lines text)

/-- A pipeline is not fed exactly if its input cannot be read. -/
theorem feed_eq_error_iff {pipeline : Pipeline} {machine : Machine} {fault : Store.Fault} :
    pipeline.feed machine = .error fault ↔
      ∃ path, pipeline.input = some path ∧
        machine.store.readText (machine.resolve path) = .error fault := by
  unfold feed
  cases pipeline.input with
  | none => simp
  | some path =>
      simp only [Option.some.injEq, exists_eq_left']
      cases machine.store.readText (machine.resolve path) <;> simp [Except.map]

/-- Nothing runs if the input cannot be read. -/
theorem run_eq (catalog : Catalog) (pipeline : Pipeline) (machine : Machine) :
    pipeline.run catalog machine =
      match pipeline.feed machine with
      | .ok input => pipeline.runStages catalog machine input
      | .error fault =>
          ⟨machine, ⟨[], [redirectDiagnostic (pipeline.input.getD "") fault]⟩, Status.failure⟩ := by
  unfold run feed
  cases pipeline.input with
  | none => rfl
  | some path =>
      simp only
      cases machine.store.readText (machine.resolve path) <;> rfl

end Pipeline

namespace Step

variable (catalog : Catalog) {step : Step} {pipeline : Pipeline}

/-- A step that cannot be read changes nothing. -/
theorem after_of_unread {fault : Pipeline.SyntaxFault}
    (unread : Pipeline.ofTokens step.tokens = .error fault) :
    step.after catalog = step.machine := by
  unfold tokens at unread
  rw [after, Machine.runSegment, unread]

/-- A step that cannot be fed changes nothing. -/
theorem after_of_unfed {fault : Store.Fault} (read : Pipeline.ofTokens step.tokens = .ok pipeline)
    (unfed : pipeline.feed step.machine = .error fault) : step.after catalog = step.machine := by
  unfold tokens at read
  rw [after, Machine.runSegment, read]
  simp only [Pipeline.run_eq, unfed]

/-- A step that is fed runs its stages and delivers their output. -/
theorem after_of_fed {input : Option (List String)}
    (read : Pipeline.ofTokens step.tokens = .ok pipeline)
    (fed : pipeline.feed step.machine = .ok input) :
    step.after catalog = (Pipeline.deliver pipeline.output
      (pipeline.stages.foldl (Stage.run catalog) (.start step.machine input))).machine := by
  unfold tokens at read
  rw [after, Machine.runSegment, read]
  simp only [Pipeline.run_eq, fed]
  rfl

end Step

end TapeShell
