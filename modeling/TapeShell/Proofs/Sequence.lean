/-
This file shows that the parts of a line run one after another.
-/

import TapeShell.Builtin
import TapeShell.Run
import TapeShell.Proofs.RoundTrip

namespace TapeShell

namespace Transcript

/-- Nothing more is written. -/
@[simp]
theorem append_empty (transcript : Transcript) : transcript.append empty = transcript := by
  simp [append, empty]

/-- Transcripts are joined in any grouping. -/
theorem append_assoc (first second third : Transcript) :
    (first.append second).append third = first.append (second.append third) := by
  simp [append]

end Transcript

namespace Reply

/-- What follows starts where the reply ended, adds to what was written and decides the status. -/
def followedBy (reply : Reply) (next : Machine → Reply) : Reply :=
  let following := next reply.machine
  ⟨following.machine, reply.transcript.append following.transcript, following.status⟩

/-- The status of the reply becomes the last status of its session. -/
def keepStatus (reply : Reply) : Reply :=
  { reply with machine := reply.machine.setStatus reply.status }

/-- The status of a run of segments is the last one that it leaves. -/
def ofRun (result : Machine × Transcript) : Reply :=
  ⟨result.1, result.2, result.1.session.lastStatus⟩

end Reply

namespace Machine

/-- A line is run segment by segment. -/
theorem runLine_eq (catalog : Catalog) (machine : Machine) (line : String) :
    machine.runLine catalog line =
      Reply.ofRun (machine.runSegments catalog (Segment.ofLine line)) := by
  rw [runLine]
  generalize machine.runSegments catalog (Segment.ofLine line) = result
  rfl

/-- The first segment leaves its status to the others. -/
theorem runSegments_cons (catalog : Catalog) (machine : Machine) (segment : String)
    (rest : List String) :
    machine.runSegments catalog (segment :: rest) =
      let reply := (machine.runSegment catalog segment).keepStatus
      ((reply.machine.runSegments catalog rest).1,
        reply.transcript.append (reply.machine.runSegments catalog rest).2) := by
  rw [runSegments]
  generalize machine.runSegment catalog segment = reply
  generalize ran : (reply.machine.setStatus reply.status).runSegments catalog rest = result
  simp only [Reply.keepStatus, ran]

/-- A line that is one segment runs as that segment. -/
theorem runLine_of_segment (catalog : Catalog) (machine : Machine) {line segment : String}
    (single : Segment.ofLine line = [segment]) :
    machine.runLine catalog line = (machine.runSegment catalog segment).keepStatus := by
  rw [runLine_eq, single, runSegments_cons]
  simp only [runSegments, Transcript.append_empty]
  rfl

/-- Segments that stand behind others start on the machine that those leave. -/
theorem runSegments_append (catalog : Catalog) (machine : Machine) (first second : List String) :
    machine.runSegments catalog (first ++ second) =
      (((machine.runSegments catalog first).1.runSegments catalog second).1,
        (machine.runSegments catalog first).2.append
          ((machine.runSegments catalog first).1.runSegments catalog second).2) := by
  induction first generalizing machine with
  | nil => rfl
  | cons segment rest inductionHypothesis =>
      simp only [List.cons_append, runSegments_cons, inductionHypothesis, Transcript.append_assoc]

/-- A semicolon outside quotations runs one line and then the other. -/
theorem runLine_semicolon (catalog : Catalog) (machine : Machine) (first second : String)
    (closed : Segment.quoteAfter first = none) :
    machine.runLine catalog (first ++ ";" ++ second) =
      (machine.runLine catalog first).followedBy fun next => next.runLine catalog second := by
  have segments := Segment.ofLine_append first second closed
  rw [runLine_eq, segments, runSegments_append, runLine_eq, Reply.followedBy]
  simp only [runLine_eq, Reply.ofRun]

/-- The first line quotes a semicolon and ends in a blank segment. -/
theorem runLine_semicolon_quoted :
    Segment.quoteAfter "echo 'a;b' ; " = none ∧
      runLine .standard ⟨.start "/", .fresh⟩ ("echo 'a;b' ; " ++ ";" ++ "echo $? > 'c") =
        (runLine .standard ⟨.start "/", .fresh⟩ "echo 'a;b' ; ").followedBy
          fun next => next.runLine .standard "echo $? > 'c" :=
  ⟨by decide +kernel, runLine_semicolon _ _ _ _ (by decide +kernel)⟩

/-- The pipelines run one after another, and each leaves its status to the next. -/
def runPipelines (catalog : Catalog) (machine : Machine) (first : Pipeline) :
    List Pipeline → Reply
  | [] => (first.run catalog machine).keepStatus
  | second :: rest =>
      (first.run catalog machine).keepStatus.followedBy fun next =>
        next.runPipelines catalog second rest

/-- A rendered pipeline runs as that pipeline, whatever the variables are. -/
theorem runSegment_render (catalog : Catalog) (machine : Machine) (pipeline : Pipeline)
    (staged : pipeline.stages ≠ []) :
    machine.runSegment catalog pipeline.render = pipeline.run catalog machine := by
  have reads := (pipeline.presents_render staged).reads (some machine.session.valueOf?)
  rw [runSegment, Token.scanWith, reads.tokens_scan, Pipeline.ofTokens_tokens pipeline staged]

/-- The segments of rendered pipelines run as the pipelines. -/
theorem runSegments_render (catalog : Catalog) (machine : Machine) (first : Pipeline)
    (rest : List Pipeline) (staged : ∀ pipeline ∈ first :: rest, pipeline.stages ≠ []) :
    Reply.ofRun (machine.runSegments catalog ((first :: rest).map Pipeline.render)) =
      machine.runPipelines catalog first rest := by
  induction rest generalizing machine first with
  | nil =>
      have firstStaged := staged first List.mem_cons_self
      rw [List.map_cons, List.map_nil, runSegments_cons, runSegment_render _ _ _ firstStaged]
      simp only [runSegments, Transcript.append_empty]
      rfl
  | cons second rest inductionHypothesis =>
      obtain ⟨firstStaged, restStaged⟩ := List.forall_mem_cons.mp staged
      rw [List.map_cons, runSegments_cons, runSegment_render _ _ _ firstStaged, runPipelines,
        Reply.followedBy, ← inductionHypothesis _ second restStaged]
      rfl

end Machine

namespace Presents

variable {text : String} {denoted : List Token}

/-- A blank opens no quotation. -/
theorem quoteAfter_blank (presents : Presents text denoted) :
    Segment.quoteAfter (text ++ " ") = none := by
  have closed := (presents.reads none).quoteAfter_eq
  rw [Segment.quoteAfter] at closed
  simp [Segment.quoteAfter, closed, Segment.nextQuote]

/-- What is presented is one segment, also with a blank behind it. -/
theorem ofLine_eq (presents : Presents text denoted) :
    Segment.ofLine text = [text] ∧ Segment.ofLine (text ++ " ") = [text] :=
  (presents.reads none).ofLine_eq presents.uncut presents.trimmed presents.nonempty

end Presents

namespace Pipeline

/-- Rendered pipelines with semicolons between them are the segments of their line. -/
theorem ofLine_intercalate (first : Pipeline) (rest : List Pipeline)
    (staged : ∀ pipeline ∈ first :: rest, pipeline.stages ≠ []) :
    Segment.ofLine (" ; ".intercalate ((first :: rest).map render)) =
      (first :: rest).map render := by
  induction rest generalizing first with
  | nil =>
      have presents := first.presents_render (staged first List.mem_cons_self)
      simpa using presents.ofLine_eq.1
  | cons second rest inductionHypothesis =>
      obtain ⟨firstStaged, restStaged⟩ := List.forall_mem_cons.mp staged
      have presents := first.presents_render firstStaged
      have spaced : " " ++ ";" ++ " " = " ; " := by decide
      have cut : " ; ".intercalate ((first :: second :: rest).map render) =
          first.render ++ " " ++ ";" ++
            (" " ++ " ; ".intercalate ((second :: rest).map render)) := by
        rw [List.map_cons, List.map_cons, String.intercalate_cons_cons, ← List.map_cons]
        nth_rewrite 1 [← spaced]
        simp only [String.append_assoc]
      rw [cut, Segment.ofLine_append _ _ presents.quoteAfter_blank, presents.ofLine_eq.2,
        Segment.ofLine_blank, inductionHypothesis second restStaged]
      rfl

end Pipeline

namespace Machine

/-- A line of rendered pipelines runs the pipelines themselves, one after another. -/
theorem runLine_render (catalog : Catalog) (machine : Machine) (first : Pipeline)
    (rest : List Pipeline) (staged : ∀ pipeline ∈ first :: rest, pipeline.stages ≠ []) :
    machine.runLine catalog (" ; ".intercalate ((first :: rest).map Pipeline.render)) =
      machine.runPipelines catalog first rest := by
  rw [runLine_eq, Pipeline.ofLine_intercalate first rest staged,
    runSegments_render catalog machine first rest staged]

/-- Two printed pipelines run as the pipelines do. -/
theorem runLine_render_awkward :
    (∀ pipeline ∈ [Pipeline.awkward, ⟨[⟨"echo", ["$?"]⟩], none, none⟩], pipeline.stages ≠ []) ∧
      runLine .standard ⟨.start "/", .fresh⟩
          (Pipeline.awkward.render ++ " ; " ++ "echo '$?'") =
        runPipelines .standard ⟨.start "/", .fresh⟩ Pipeline.awkward
          [⟨[⟨"echo", ["$?"]⟩], none, none⟩] := by
  have staged : ∀ pipeline ∈ [Pipeline.awkward, ⟨[⟨"echo", ["$?"]⟩], none, none⟩],
      pipeline.stages ≠ [] := by decide
  refine ⟨staged, ?_⟩
  have line := runLine_render .standard ⟨.start "/", .fresh⟩ Pipeline.awkward _ staged
  have text : Pipeline.render ⟨[⟨"echo", ["$?"]⟩], none, none⟩ = "echo '$?'" := by decide +kernel
  rwa [List.map_cons, List.map_cons, List.map_nil, String.intercalate_cons_cons,
    String.intercalate_singleton, text] at line

end Machine

end TapeShell
