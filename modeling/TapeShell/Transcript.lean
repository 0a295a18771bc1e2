/-
This file records what a command writes.
-/

import TapeShell.Text.Search

namespace TapeShell

/-- Output and diagnostics are kept apart, each line by line. -/
structure Transcript where
  output : List String
  diagnostics : List String
  deriving DecidableEq, Repr

namespace Transcript

def empty : Transcript := ⟨[], []⟩

def say (transcript : Transcript) (line : String) : Transcript :=
  { transcript with output := transcript.output ++ [line] }

def warn (transcript : Transcript) (line : String) : Transcript :=
  { transcript with diagnostics := transcript.diagnostics ++ [line] }

def append (first second : Transcript) : Transcript :=
  ⟨first.output ++ second.output, first.diagnostics ++ second.diagnostics⟩

def outputText (transcript : Transcript) : String :=
  Text.joinLines transcript.output

def diagnosticsText (transcript : Transcript) : String :=
  Text.joinLines transcript.diagnostics

end Transcript

end TapeShell
