/-
This file gathers the faults of every part of the shell and words them for the user.
-/

import TapeShell.Store

namespace TapeShell

/-- A reported fault comes from elsewhere and is known by its text alone. -/
inductive CommandFault where
  | notDirectory (path : String)
  | reported (text : String)
  deriving DecidableEq, Repr

def CommandFault.message : CommandFault → String
  | .notDirectory path => path ++ ": not a directory"
  | .reported text => text

/-- Settings are refused as a whole, or their file cannot be read. -/
inductive SettingsFault where
  | malformed
  | unreadable (path reason : String)
  | reported (text : String)
  deriving DecidableEq, Repr

def SettingsFault.message : SettingsFault → String
  | .malformed => "shell config"
  | .unreadable path reason => path ++ ": " ++ reason
  | .reported text => text

inductive TapeFault where
  | unsupportedFormat (format : String)
  | unsupportedCompression (compression : String)
  | invalidEncoding
  | checksumMismatch
  | reported (text : String)
  deriving DecidableEq, Repr

def TapeFault.message : TapeFault → String
  | .unsupportedFormat format => "unsupported format: " ++ format
  | .unsupportedCompression compression => "unsupported compression: " ++ compression
  | .invalidEncoding => "invalid data encoding"
  | .checksumMismatch => "checksum mismatch"
  | .reported text => text

/-- The host reports whether a file is absent, and words the rest itself. -/
inductive HostFault where
  | absent (text : String)
  | other (text : String)
  deriving DecidableEq, Repr

def HostFault.message : HostFault → String
  | .absent text => text
  | .other text => text

inductive Fault where
  | store (cause : Store.Fault)
  | command (cause : CommandFault)
  | settings (cause : SettingsFault)
  | tape (cause : TapeFault)
  | host (cause : HostFault)
  | json
  deriving DecidableEq, Repr

def Fault.message : Fault → String
  | .store cause => "VFS error: " ++ cause.message
  | .command cause => cause.message
  | .settings cause => "config error: " ++ cause.message
  | .tape cause => "tape error: " ++ cause.message
  | .host cause => "I/O error: " ++ cause.message
  | .json => "JSON error"

/-- The fault says that a path does not exist. -/
def Fault.isAbsence : Fault → Bool
  | .store cause => cause.isAbsence
  | .host (.absent _) => true
  | _ => false

end TapeShell
