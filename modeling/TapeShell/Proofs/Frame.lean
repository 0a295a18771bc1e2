/-
This file says which files a session can touch.
-/

import TapeShell.Path.Resolution
import TapeShell.Proofs.Command
import TapeShell.Proofs.Grammar
import TapeShell.Proofs.Steps
import TapeShell.Proofs.Tree

namespace TapeShell

namespace Store

/-- Every stored path stays stored with its kind, and no directory is new. -/
structure Extends (before after : Store) : Prop where
  kept : ∀ path node, before.nodes.find? path = some node →
    ∃ changed, after.nodes.find? path = some changed ∧ changed.kind = node.kind
  directories : ∀ path, after.nodes.find? path = some .directory →
    before.nodes.find? path = some .directory

/-- A store extends itself. -/
theorem Extends.refl (store : Store) : store.Extends store where
  kept _ node found := ⟨node, found, rfl⟩
  directories _ found := found

/-- Two extensions are one. -/
theorem Extends.trans {first second third : Store} (before : first.Extends second)
    (after : second.Extends third) : first.Extends third where
  kept path node found := by
    obtain ⟨changed, there, sameKind⟩ := before.kept path node found
    obtain ⟨final, stillThere, stillSameKind⟩ := after.kept path changed there
    exact ⟨final, stillThere, stillSameKind.trans sameKind⟩
  directories path found := before.directories path (after.directories path found)

/-- A directory stays one when the store is extended. -/
theorem Extends.isDirectory {before after : Store} (extended : before.Extends after) {path : String}
    (found : before.isDirectory path = true) : after.isDirectory path = true := by
  rw [Store.isDirectory, Store.node?, beq_iff_eq] at found ⊢
  obtain ⟨changed, there, sameKind⟩ := extended.kept _ _ found
  rw [there]
  cases changed with
  | directory => rfl
  | file content => cases sameKind

/-- The file at the path is new or has new content, and nothing else differs. -/
structure Rewrites (path : String) (before after : Store) : Prop where
  file : ∃ content, after.nodes.find? path = some (.file content)
  free : before.nodes.find? path ≠ some .directory
  others : ∀ other, other ≠ path → after.nodes.find? other = before.nodes.find? other

/-- A store that is rewritten in one place is extended. -/
theorem Rewrites.extends {path : String} {before after : Store}
    (rewrites : Rewrites path before after) : before.Extends after := by
  obtain ⟨content, written⟩ := rewrites.file
  constructor
  · intro other node found
    by_cases same : other = path
    · subst same
      cases node with
      | directory => exact absurd found rewrites.free
      | file old => exact ⟨.file content, written, rfl⟩
    · exact ⟨node, (rewrites.others other same).trans found, rfl⟩
  · intro other found
    by_cases same : other = path
    · rw [same, written] at found
      cases found
    · rwa [← rewrites.others other same]

/-- A path can be written if it is no directory and lies in one. -/
def Writable (store : Store) (path : String) : Prop :=
  store.nodes.find? (Path.normalize path) ≠ some .directory ∧
    store.nodes.find? (Path.parent (Path.normalize path)) = some .directory

section Writable

variable {store : Store} {path : String}

/-- A writable path is written. -/
theorem write_of_writable (writable : store.Writable path) (content : List UInt8) :
    store.write path content = .ok ⟨store.nodes.insert (Path.normalize path) (.file content)⟩ := by
  obtain ⟨free, inside⟩ := writable
  simp only [write, if_neg free, inside]

/-- Any other path is refused. -/
theorem write_of_not_writable (unwritable : ¬ store.Writable path) (content : List UInt8) :
    ∃ fault, store.write path content = .error fault := by
  cases result : store.write path content with
  | error fault => exact ⟨fault, rfl⟩
  | ok changed =>
      simp only [write] at result
      split at result
      next => cases result
      next free =>
        split at result
        next inside => exact absurd ⟨free, inside⟩ unwritable
        next => cases result
        next => cases result

/-- What is no directory has a text to append to, which is empty if nothing is there. -/
theorem exists_oldText (free : store.nodes.find? (Path.normalize path) ≠ some .directory) :
    ∃ text, store.oldText path = .ok text := by
  cases found : store.nodes.find? (Path.normalize path) with
  | none => exact ⟨"", by simp [oldText, readText, read, node?, found, Except.map, Fault.isAbsence]⟩
  | some node =>
      cases node with
      | directory => exact absurd found free
      | file content =>
          exact ⟨Text.Utf8.decodeLossy content, by
            simp [oldText, readText, read, node?, found, Except.map]⟩

/-- Lines go to every writable path, in both modes. -/
theorem writeLines_of_writable (writable : store.Writable path) (mode : OutputMode)
    (lines : List String) :
    ∃ content, store.writeLines path mode lines =
      .ok ⟨store.nodes.insert (Path.normalize path) (.file content)⟩ := by
  cases mode with
  | write => exact ⟨_, write_of_writable writable _⟩
  | append =>
      obtain ⟨text, old⟩ := exists_oldText writable.1
      simp only [writeLines, old]
      exact ⟨_, write_of_writable writable _⟩

/-- Lines are refused by any other path. -/
theorem writeLines_of_not_writable (unwritable : ¬ store.Writable path) (mode : OutputMode)
    (lines : List String) : ∃ fault, store.writeLines path mode lines = .error fault := by
  cases mode with
  | write => exact write_of_not_writable unwritable _
  | append =>
      rw [writeLines]
      cases store.oldText path with
      | error fault => exact ⟨fault, rfl⟩
      | ok old => exact write_of_not_writable unwritable _

/-- Storing a file rewrites no other place. -/
theorem rewrites_insert (free : store.nodes.find? path ≠ some .directory) (content : List UInt8) :
    Rewrites path store ⟨store.nodes.insert path (.file content)⟩ where
  file := ⟨content, by rw [Table.find?_insert, if_pos rfl]⟩
  free := free
  others other different := by rw [Table.find?_insert, if_neg (Ne.symm different)]

end Writable

end Store

/-- A resolved path is normal. -/
theorem Machine.normalize_resolve (machine : Machine) (path : String) :
    Path.normalize (machine.resolve path) = machine.resolve path :=
  (Path.isCanonical_resolve machine.session.directory path).normalize_eq

namespace Pipeline

/-- The stages of a pipeline leave the store as it is. -/
theorem store_foldl_run (stages : List Stage) (flow : Flow) :
    (stages.foldl (Stage.run .standard) flow).machine.store = flow.machine.store := by
  induction stages generalizing flow with
  | nil => rfl
  | cons stage stages inductionHypothesis =>
      rw [List.foldl_cons, inductionHypothesis]
      exact (Stage.effect_run flow stage).store_eq

/-- The delivery of the output leaves the session as it is. -/
theorem session_deliver (output : Option Redirect) (flow : Flow) :
    (deliver output flow).machine.session = flow.machine.session := by
  unfold deliver
  cases output with
  | none => rfl
  | some redirect =>
      simp only
      split <;> rfl

section Deliver

variable {redirect : Redirect} {flow : Flow}

/-- Output that can be delivered rewrites its target only. -/
theorem deliver_of_writable
    (writable : flow.machine.store.Writable (flow.machine.resolve redirect.path)) :
    Store.Rewrites (flow.machine.resolve redirect.path) flow.machine.store
      (deliver (some redirect) flow).machine.store := by
  obtain ⟨content, written⟩ :=
    Store.writeLines_of_writable writable redirect.mode (flow.lines.getD [])
  have free := writable.1
  rw [Machine.normalize_resolve] at written free
  simp only [deliver, written]
  exact Store.rewrites_insert free content

/-- Output that cannot be delivered leaves the store as it was. -/
theorem deliver_of_not_writable
    (unwritable : ¬ flow.machine.store.Writable (flow.machine.resolve redirect.path)) :
    (deliver (some redirect) flow).machine.store = flow.machine.store := by
  obtain ⟨fault, failed⟩ :=
    Store.writeLines_of_not_writable unwritable redirect.mode (flow.lines.getD [])
  simp only [deliver, failed]

end Deliver

end Pipeline

namespace Step

/-- The last output redirection of the segment. -/
def redirect? (step : Step) : Option Redirect :=
  Pipeline.lastTarget Pipeline.outputTarget? step.tokens

/-- The file that the output goes to. Its path counts from the directory that the stages left. -/
def target? (step : Step) : Option String :=
  step.redirect?.map fun redirect => (step.after .standard).resolve redirect.path

/-- A silent segment writes to no file. -/
inductive Silent (step : Step) : Prop where
  | unread (fault : Pipeline.SyntaxFault) (refused : Pipeline.ofTokens step.tokens = .error fault)
  | undirected (absent : step.redirect? = none)
  | unfed (path : String) (fault : Store.Fault)
      (input : Pipeline.lastTarget Pipeline.inputTarget? step.tokens = some path)
      (failed : step.machine.store.readText (step.machine.resolve path) = .error fault)
  | unwritten (target : String) (content : List UInt8) (fault : Store.Fault)
      (output : step.target? = some target)
      (failed : step.machine.store.write target content = .error fault)

/-- The segment leaves the store as it is, or it rewrites the file at its target. -/
structure Framed (step : Step) : Prop where
  silent : step.Silent → (step.after .standard).store = step.machine.store
  loud : ¬ step.Silent → ∃ target, step.target? = some target ∧
    Store.Rewrites target step.machine.store (step.after .standard).store

section Framed

variable {step : Step} {pipeline : Pipeline}

/-- A segment that is read has the input and the output that its tokens name. -/
theorem describes (read : Pipeline.ofTokens step.tokens = .ok pipeline) :
    Pipeline.Describes step.tokens pipeline := by
  have justified := Pipeline.ofTokens_justified step.tokens
  rw [read] at justified
  exact justified.2

/-- The stages alone decide the session. -/
theorem session_after {input : Option (List String)}
    (read : Pipeline.ofTokens step.tokens = .ok pipeline)
    (fed : pipeline.feed step.machine = .ok input) :
    (step.after .standard).session = (pipeline.stages.foldl (Stage.run .standard)
      (.start step.machine input)).machine.session := by
  rw [after_of_fed .standard read fed, Pipeline.session_deliver]

/-- A step with a writable target is not silent. -/
theorem not_silent {input : Option (List String)} {target : String}
    (read : Pipeline.ofTokens step.tokens = .ok pipeline)
    (fed : pipeline.feed step.machine = .ok input) (output : step.target? = some target)
    (writable : step.machine.store.Writable target) : ¬ step.Silent := by
  intro silent
  cases silent with
  | unread fault refused =>
      rw [read] at refused
      cases refused
  | undirected absent =>
      rw [target?, absent] at output
      cases output
  | unfed path fault source failed =>
      rw [← (describes read).input] at source
      rw [Pipeline.feed_eq_error_iff.mpr ⟨path, source, failed⟩] at fed
      cases fed
  | unwritten other content fault same failed =>
      rw [output, Option.some.injEq] at same
      rw [← same, Store.write_of_writable writable] at failed
      cases failed

/-- A segment whose input can be read touches at most its target. -/
theorem framed_of_fed {input : Option (List String)}
    (read : Pipeline.ofTokens step.tokens = .ok pipeline)
    (fed : pipeline.feed step.machine = .ok input) : step.Framed := by
  have redirection : step.redirect? = pipeline.output := (describes read).output.symm
  have ran := after_of_fed .standard read fed
  have sameStore : (pipeline.stages.foldl (Stage.run .standard)
      (.start step.machine input)).machine.store = step.machine.store :=
    Pipeline.store_foldl_run ..
  have sameSession := session_after read fed
  -- Of the stages only the flow that they leave matters from here on.
  generalize pipeline.stages.foldl (Stage.run .standard) (.start step.machine input) = flow
    at ran sameStore sameSession
  cases output : pipeline.output with
  | none =>
      rw [output] at redirection ran
      refine ⟨fun _ => ?_, fun loud => absurd (.undirected redirection) loud⟩
      rw [ran]
      exact sameStore
  | some redirect =>
      rw [output] at redirection ran
      have directed : step.target? = some (flow.machine.resolve redirect.path) := by
        rw [target?, redirection, Option.map_some, Machine.resolve, sameSession]
        rfl
      by_cases writable : step.machine.store.Writable (flow.machine.resolve redirect.path)
      · refine ⟨fun silent => absurd silent (not_silent read fed directed writable), fun _ =>
          ⟨_, directed, ?_⟩⟩
        rw [← sameStore] at writable ⊢
        rw [ran]
        exact Pipeline.deliver_of_writable writable
      · obtain ⟨fault, failed⟩ := Store.write_of_not_writable writable []
        refine ⟨fun _ => ?_, fun loud => absurd (.unwritten _ [] fault directed failed) loud⟩
        rw [← sameStore] at writable ⊢
        rw [ran]
        exact Pipeline.deliver_of_not_writable writable

/-- Whatever the segment is, it touches at most its target. -/
theorem framed (step : Step) : step.Framed := by
  cases read : Pipeline.ofTokens step.tokens with
  | error fault =>
      refine ⟨fun _ => ?_, fun loud => absurd (.unread fault read) loud⟩
      rw [after_of_unread .standard read]
  | ok pipeline =>
      cases fed : pipeline.feed step.machine with
      | error fault =>
          obtain ⟨path, source, failed⟩ := Pipeline.feed_eq_error_iff.mp fed
          rw [(describes read).input] at source
          refine ⟨fun _ => ?_, fun loud => absurd (.unfed path fault source failed) loud⟩
          rw [after_of_unfed .standard read fed]
      | ok input => exact framed_of_fed read fed

/-- Every step extends the store. -/
theorem extends_after (step : Step) : step.machine.store.Extends (step.after .standard).store := by
  by_cases silent : step.Silent
  · rw [step.framed.silent silent]
    exact .refl _
  · obtain ⟨target, -, rewrites⟩ := step.framed.loud silent
    exact rewrites.extends

end Framed

end Step

namespace Machine

/-- Every path stays, and a segment writes at most the file of its last redirection. -/
theorem afterLines_frame (machine : Machine) (lines : List String) :
    machine.store.Extends (machine.afterLines .standard lines).store ∧
      ∀ step ∈ machine.steps .standard (lines.flatMap Segment.ofLine), step.Framed := by
  constructor
  · apply afterLines_keeps (motive := fun reached => machine.store.Extends reached.store)
    · intro reached segment before
      rw [Reply.store_keepStatus]
      exact before.trans (Step.extends_after ⟨reached, segment⟩)
    · exact .refl _
  · intro step _
    exact step.framed

/-- This machine stands in the root and has one more directory. -/
def lobby : Machine := ⟨.start "/", .after [.makeDirectory "/home"]⟩

/-- The first segment leaves the directory, and the second one cannot write its output. -/
theorem afterLines_frame_lobby :
    lobby.store.Extends (lobby.afterLines .standard
        ["cd home | echo x > /f > f ; echo y > ."]).store ∧
      ⟨lobby, "cd home | echo x > /f > f"⟩ ∈ lobby.steps .standard
        (["cd home | echo x > /f > f ; echo y > ."].flatMap Segment.ofLine) ∧
      Store.Rewrites "/home/f" lobby.store
        (Step.after .standard ⟨lobby, "cd home | echo x > /f > f"⟩).store := by
  have segments : ["cd home | echo x > /f > f ; echo y > ."].flatMap Segment.ofLine =
      ["cd home | echo x > /f > f", "echo y > ."] := by
    decide +kernel
  obtain ⟨extended, framed⟩ := afterLines_frame lobby ["cd home | echo x > /f > f ; echo y > ."]
  rw [segments] at framed ⊢
  have member : ⟨lobby, "cd home | echo x > /f > f"⟩ ∈
      lobby.steps .standard ["cd home | echo x > /f > f", "echo y > ."] := List.mem_cons_self
  have read : Pipeline.ofTokens (Step.tokens ⟨lobby, "cd home | echo x > /f > f"⟩) =
      .ok ⟨[⟨"cd", ["home"]⟩, ⟨"echo", ["x"]⟩], none, some ⟨"f", .write⟩⟩ := by
    decide +kernel
  have directed : Step.target? ⟨lobby, "cd home | echo x > /f > f"⟩ = some "/home/f" := by
    decide +kernel
  have writable : lobby.store.Writable "/home/f" := by
    unfold Store.Writable
    decide +kernel
  obtain ⟨target, same, rewrites⟩ :=
    (framed _ member).loud (Step.not_silent read rfl directed writable)
  rw [directed, Option.some.injEq] at same
  exact ⟨extended, member, same ▸ rewrites⟩

end Machine

end TapeShell
