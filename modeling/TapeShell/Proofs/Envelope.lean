/-
This file shows that a tape is read back from its text.
-/

import TapeShell.Proofs.Payload

namespace TapeShell.Tape

/-- The counts are read back from their JSON form. -/
theorem Stats.ofJson?_toJson (stats : Stats) : Stats.ofJson? stats.toJson = some stats := by
  have record : stats.toJson.record? ["files", "directories", "size"] =
      some [some (numberJson stats.files), some (numberJson stats.directories),
        some (numberJson stats.size)] := by
    simp [Stats.toJson, Json.record?, Json.field?, Json.fieldValues]
  rw [Stats.ofJson?, record]
  simp [unsigned?_numberJson]

/-- A checksum is read back from its JSON form. -/
theorem checksumOfJson?_checksumJson (checksum : String) :
    checksumOfJson? (checksumJson checksum) = some checksum := by
  have record : (checksumJson checksum).record? ["uncompressed"] =
      some [some (textJson checksum)] := by
    simp [checksumJson, Json.record?, Json.field?, Json.fieldValues]
  rw [checksumOfJson?, record]
  simp [text?_textJson]

/-- A tape is read back from its JSON form. -/
theorem ofJson?_toJson (tape : Tape) : ofJson? tape.toJson = some tape := by
  have record : tape.toJson.record? ["format", "version", "created", "label", "compression",
      "checksum", "stats", "data"] =
      some [some (textJson tape.format), some (textJson tape.version),
        some (textJson tape.created), some (textJson tape.label),
        some (textJson tape.compression), some (checksumJson tape.checksum),
        some tape.stats.toJson, some (textJson tape.data)] := by
    simp [toJson, Json.record?, Json.field?, Json.fieldValues]
  rw [ofJson?, record]
  simp [text?_textJson, checksumOfJson?_checksumJson, Stats.ofJson?_toJson]

/-- The JSON form of the counts can be written and read. -/
theorem Stats.plain_toJson (stats : Stats) : stats.toJson.Plain := by
  refine .object ?_ ?_ <;> simp [plain_numberJson]

/-- The JSON form of a checksum can be written and read. -/
theorem plain_checksumJson (checksum : String) : (checksumJson checksum).Plain := by
  refine .object ?_ ?_ <;> simp [plain_textJson]

/-- The JSON form of a tape can be written and read. -/
theorem plain_toJson (tape : Tape) : tape.toJson.Plain := by
  refine .object ?_ ?_ <;> simp [plain_textJson, plain_checksumJson, Stats.plain_toJson]

/-- Every field of a tape comes back from its text. -/
theorem ofBytes?_render (tape : Tape) :
    (Json.ofBytes? (Text.Utf8.encode tape.render)).bind ofJson? = some tape := by
  rw [render, Json.ofBytes?_pretty tape.plain_toJson]
  exact ofJson?_toJson tape

/-- A tape of the known format is read back from its text. -/
theorem parse_render_of_format {tape : Tape} (format : tape.format = formatName) :
    parse tape.render = .ok tape := by
  rw [parse, ofBytes?_render]
  exact if_pos format

/-- The fault names the format that was found. -/
theorem message_unsupportedFormat (format : String) :
    (Fault.tape (.unsupportedFormat format)).message =
      "tape error: unsupported format: " ++ format := by
  have texts : "tape error: " ++ "unsupported format: " = "tape error: unsupported format: " := by
    decide
  rw [← texts, String.append_assoc]
  rfl

/-- Every tape of the known format is read back, and any other format is refused. -/
theorem parse_render (tape : Tape) :
    parse tape.render =
        (if tape.format = "kmt" then .ok tape
        else .error (.tape (.unsupportedFormat tape.format))) ∧
      (Fault.tape (.unsupportedFormat tape.format)).message =
        "tape error: unsupported format: " ++ tape.format := by
  refine ⟨?_, message_unsupportedFormat tape.format⟩
  rw [parse, ofBytes?_render]
  rfl

end TapeShell.Tape
