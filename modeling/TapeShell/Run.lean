/-
This file runs pipelines and command lines.
-/

import TapeShell.Catalog
import TapeShell.Pipeline.Parser
import TapeShell.Segment

namespace TapeShell

/-- The reply of a run always has a status. -/
structure Reply where
  machine : Machine
  transcript : Transcript
  status : Int

/-- This diagnostic names the file of a redirection that cannot be used. -/
def redirectDiagnostic (path : String) (fault : Store.Fault) : String :=
  if fault.isAbsence then "koma: " ++ path ++ ": No such file or directory"
  else "koma: " ++ path ++ ": " ++ (Fault.store fault).message

/-- The flow is what one stage hands to the next. -/
structure Flow where
  machine : Machine
  diagnostics : List String
  lines : Option (List String)
  status : Int

namespace Stage

/-- A stage that names no command writes nothing, and a fault keeps what was written before. -/
def run (catalog : Catalog) (flow : Flow) (stage : Stage) : Flow :=
  match catalog.resolve? stage.command with
  | none =>
      ⟨flow.machine, flow.diagnostics ++ ["koma: " ++ stage.command ++ ": command not found"],
        some [], Status.notFound⟩
  | some command =>
      let outcome := command.run stage.arguments flow.lines flow.machine
      match outcome.status with
      | .ok status =>
          ⟨outcome.machine, flow.diagnostics ++ outcome.transcript.diagnostics,
            some outcome.transcript.output, status⟩
      | .error fault =>
          ⟨outcome.machine, flow.diagnostics ++ outcome.transcript.diagnostics ++
            [stage.command ++ ": " ++ fault.message], some outcome.transcript.output,
            Status.failure⟩

end Stage

/-- The text goes on a new line unless one is empty or the old one ends in a newline. -/
def appendText (old new : String) : String :=
  if old.isEmpty then new
  else if new.isEmpty then old
  else if old.toList.getLast? = some '\n' then old ++ new
  else old ++ "\n" ++ new

/-- A file that does not exist counts as an empty one. -/
def Store.oldText (store : Store) (path : String) : Except Store.Fault String :=
  match store.readText path with
  | .ok text => .ok text
  | .error fault => if fault.isAbsence then .ok "" else .error fault

def Store.writeLines (store : Store) (path : String) (mode : OutputMode) (lines : List String) :
    Except Store.Fault Store :=
  match mode with
  | .write => store.write path (Text.Utf8.encode (Text.joinLines lines))
  | .append =>
      match store.oldText path with
      | .error fault => .error fault
      | .ok old => store.write path (Text.Utf8.encode (appendText old (Text.joinLines lines)))

namespace Pipeline

/-- The output is printed or goes to its file, seen from where the stages left. -/
def deliver (output : Option Redirect) (flow : Flow) : Reply :=
  match output with
  | none => ⟨flow.machine, ⟨flow.lines.getD [], flow.diagnostics⟩, flow.status⟩
  | some redirect =>
      match flow.machine.store.writeLines (flow.machine.resolve redirect.path) redirect.mode
          (flow.lines.getD []) with
      | .ok store =>
          ⟨{ flow.machine with store := store }, ⟨[], flow.diagnostics⟩, flow.status⟩
      | .error fault =>
          ⟨flow.machine, ⟨[], flow.diagnostics ++ [redirectDiagnostic redirect.path fault]⟩,
            Status.failure⟩

def runStages (catalog : Catalog) (pipeline : Pipeline) (machine : Machine)
    (input : Option (List String)) : Reply :=
  deliver pipeline.output
    (pipeline.stages.foldl (Stage.run catalog) ⟨machine, [], input, Status.success⟩)

/-- No stage runs if the input cannot be read. -/
def run (catalog : Catalog) (pipeline : Pipeline) (machine : Machine) : Reply :=
  match pipeline.input with
  | none => pipeline.runStages catalog machine none
  | some path =>
      match machine.store.readText (machine.resolve path) with
      | .ok text => pipeline.runStages catalog machine (some (Text.lines text))
      | .error fault => ⟨machine, ⟨[], [redirectDiagnostic path fault]⟩, Status.failure⟩

end Pipeline

namespace Machine

def setStatus (machine : Machine) (status : Int) : Machine :=
  { machine with session := { machine.session with lastStatus := status } }

/-- A segment is read only when it runs, so that it sees the variables of the moment. -/
def runSegment (catalog : Catalog) (machine : Machine) (segment : String) : Reply :=
  match Pipeline.ofTokens (Token.scanWith machine.session.valueOf? segment) with
  | .ok pipeline => pipeline.run catalog machine
  | .error fault => ⟨machine, ⟨[], ["koma: " ++ fault.message]⟩, Status.misuse⟩

/-- Every segment runs, and each leaves its status to the next. -/
def runSegments (catalog : Catalog) (machine : Machine) : List String → Machine × Transcript
  | [] => (machine, .empty)
  | segment :: rest =>
      let reply := machine.runSegment catalog segment
      let (final, transcript) := (reply.machine.setStatus reply.status).runSegments catalog rest
      (final, reply.transcript.append transcript)

/-- The status of a line is the last one set, also by an earlier line. -/
def runLine (catalog : Catalog) (machine : Machine) (line : String) : Reply :=
  let (final, transcript) := machine.runSegments catalog (Segment.ofLine line)
  ⟨final, transcript, final.session.lastStatus⟩

end Machine

end TapeShell
