/-
This file is the command line of the shell.
-/

import TapeShell.Launch

namespace TapeShell.Main

partial def readAll (stream : IO.FS.Stream) (bytes : ByteArray) : IO ByteArray := do
  let chunk ← stream.read 65536
  if chunk.isEmpty then return bytes else readAll stream (bytes ++ chunk)

def refusal : IO.Error → Launch.Refusal
  | .noFileOrDirectory .. => .absent
  | .permissionDenied .. => .forbidden
  | .invalidArgument _ 4294967260 _ => .nameTooLong
  | .inappropriateType _ 21 _ => .isDirectory
  | .inappropriateType .. => .notDirectory
  | problem => .other problem.toString

def readFile (path : String) : IO (Except Launch.Refusal (List UInt8)) := do
  try
    let bytes ← IO.FS.readBinFile path
    return .ok bytes.toList
  catch problem => return .error (refusal problem)

/-- Only the files that the options name are read. -/
def readHost (paths : List String) : IO Launch.Host := do
  let files ← paths.mapM fun path => do return (path, ← readFile path)
  return fun path => (files.lookup path).getD (.error .absent)

def namedFiles (arguments : List String) (environment : Option String) : List String :=
  match Launch.Options.ofArguments arguments environment with
  | .ok options => options.settings.toList ++ options.tape.toList
  | .error _ => []

end TapeShell.Main

def main (arguments : List String) : IO UInt32 := do
  let environment ← IO.getEnv "KOMA_CONFIG"
  let host ← TapeShell.Main.readHost (TapeShell.Main.namedFiles arguments environment)
  let input ← TapeShell.Main.readAll (← IO.getStdin) ByteArray.empty
  let result := TapeShell.Launch.run host arguments environment input.toList
  IO.print result.outputText
  IO.eprint result.diagnosticsText
  match result.failure with
  | some failure => IO.eprintln failure.line
  | none => pure ()
  return UInt32.ofNat result.code
