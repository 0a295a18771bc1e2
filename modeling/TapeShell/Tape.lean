/-
This file defines tapes: backups of a file tree as one JSON document.
-/

import TapeShell.Base64
import TapeShell.Fault
import TapeShell.Sha256
import TapeShell.Tape.Entry
import TapeShell.Text.Blank

namespace TapeShell

namespace Tape

/-- A tape has the size of its entries, and a restoration that of the content. -/
structure Stats where
  files : UInt64
  directories : UInt64
  size : UInt64
  deriving DecidableEq, Repr

def Stats.zero : Stats := ⟨0, 0, 0⟩

end Tape

/-- The data are the entries as text in base 64, and the checksum is that of the text. -/
structure Tape where
  format : String
  version : String
  created : String
  label : String
  compression : String
  checksum : String
  stats : Tape.Stats
  data : String
  deriving DecidableEq, Repr

namespace Tape

def formatName : String := "kmt"

def currentVersion : String := "1.0"

def noCompression : String := "none"

def isFile (entry : Entry) : Bool :=
  entry.kind == .file

/-- The entries are sorted before they go on the tape. -/
def ofEntries (created label : String) (entries : List Entry) : Tape :=
  let sorted := sortEntries entries
  let bytes := Text.Utf8.encode (entriesText sorted)
  let files := (sorted.filter isFile).length
  { format := formatName
    version := currentVersion
    created := created
    label := label
    compression := noCompression
    checksum := Sha256.digest bytes
    stats := ⟨UInt64.ofNat files, UInt64.ofNat (sorted.length - files), UInt64.ofNat bytes.length⟩
    data := Base64.encode bytes }

def Stats.toJson (stats : Stats) : Json :=
  .object [(some "files", numberJson stats.files),
    (some "directories", numberJson stats.directories), (some "size", numberJson stats.size)]

def Stats.ofJson? (json : Json) : Option Stats := do
  match ← json.record? ["files", "directories", "size"] with
  | [some files, some directories, some size] =>
      some ⟨← files.unsigned?, ← directories.unsigned?, ← size.unsigned?⟩
  | _ => none

def checksumJson (checksum : String) : Json :=
  .object [(some "uncompressed", textJson checksum)]

def checksumOfJson? (json : Json) : Option String := do
  match ← json.record? ["uncompressed"] with
  | [some checksum] => checksum.text?
  | _ => none

def toJson (tape : Tape) : Json :=
  .object [(some "format", textJson tape.format), (some "version", textJson tape.version),
    (some "created", textJson tape.created), (some "label", textJson tape.label),
    (some "compression", textJson tape.compression),
    (some "checksum", checksumJson tape.checksum), (some "stats", tape.stats.toJson),
    (some "data", textJson tape.data)]

def ofJson? (json : Json) : Option Tape := do
  match ← json.record? ["format", "version", "created", "label", "compression", "checksum",
      "stats", "data"] with
  | [some format, some version, some created, some label, some compression, some checksum,
      some stats, some data] =>
      some ⟨← format.text?, ← version.text?, ← created.text?, ← label.text?,
        ← compression.text?, ← checksumOfJson? checksum, ← Stats.ofJson? stats, ← data.text?⟩
  | _ => none

def render (tape : Tape) : String :=
  tape.toJson.pretty

/-- Only one format is read. -/
def parse (text : String) : Except Fault Tape :=
  match (Json.ofBytes? (Text.Utf8.encode text)).bind ofJson? with
  | none => .error .json
  | some tape =>
      if tape.format = formatName then .ok tape
      else .error (.tape (.unsupportedFormat tape.format))

def isHexDigit (character : Char) : Bool :=
  character.isDigit || ('a' ≤ character ∧ character ≤ 'f') || ('A' ≤ character ∧ character ≤ 'F')

/-- A checksum that is no digest is a placeholder and is not compared. -/
def isDigest (checksum : String) : Bool :=
  checksum.toList.length == 64 && checksum.toList.all isHexDigit

/-- The case of the digits does not matter. -/
def checksumMatches (checksum : String) (bytes : List UInt8) : Bool :=
  !isDigest checksum || checksum.map Char.toLower == Sha256.digest bytes

def entries (tape : Tape) : Except Fault (List Entry) :=
  if tape.compression ≠ noCompression then
    .error (.tape (.unsupportedCompression tape.compression))
  else match Base64.decode? (Text.trimBlanks tape.data.toList) with
    | none => .error (.tape .invalidEncoding)
    | some bytes =>
        if checksumMatches tape.checksum bytes then
          match entriesOfBytes? bytes with
          | none => .error .json
          | some entries => .ok (sortEntries entries)
        else .error (.tape .checksumMismatch)

end Tape

end TapeShell
