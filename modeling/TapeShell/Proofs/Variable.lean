/-
This file shows that a variable carries every text unchanged from where it is set to where it is
printed.
-/

import TapeShell.Proofs.Boundary
import TapeShell.Proofs.Command
import TapeShell.Proofs.Sequence

namespace TapeShell

namespace Builtin

variable {name : String}

/-- A basic letter or digit is a small character. -/
theorem toNat_lt_of_isAlphanum {character : Char} (alphanumeric : character.isAlphanum = true) :
    character.toNat < 128 := by
  change (decide (65 ≤ character.val ∧ character.val ≤ 90) ||
    decide (97 ≤ character.val) && decide (character.val ≤ 122) ||
    decide (48 ≤ character.val) && decide (character.val ≤ 57)) = true at alphanumeric
  simp [UInt32.le_iff_toNat_le] at alphanumeric
  omega

/-- A reference reads on through every character of a name that can be set. -/
theorem isNameCharacter_of_isNamePart {character : Char} (part : isNamePart character = true) :
    Scanner.isNameCharacter character = true := by
  have basic : ∀ point < 128, (Char.ofNat point).isAlphanum = true →
      Text.isAlphanumeric (Char.ofNat point) = true := by
    decide +kernel
  rw [isNamePart, Bool.or_eq_true] at part
  rw [Scanner.isNameCharacter, Bool.or_eq_true]
  refine part.imp_left fun alphanumeric => ?_
  have known := basic character.toNat (toNat_lt_of_isAlphanum alphanumeric)
  rw [Char.ofNat_toNat] at known
  exact known alphanumeric

/-- No blank belongs to a name. -/
theorem isBlank_of_isNamePart {character : Char} (part : isNamePart character = true) :
    Text.isBlank character = false := by
  cases blank : Text.isBlank character with
  | false => rfl
  | true =>
      have unnamed := Scanner.isNameCharacter_of_isBreak
        ((Scanner.isBreak_iff character).mpr (.inl blank))
      rw [isNameCharacter_of_isNamePart part] at unnamed
      cases unnamed

/-- All characters of a name belong to names. -/
theorem isNamePart_of_mem (valid : isName name = true) {character : Char}
    (member : character ∈ name.toList) : isNamePart character = true := by
  rw [isName] at valid
  split at valid
  next => cases valid
  next first rest text =>
    rw [text] at member
    rw [Bool.and_eq_true, List.all_eq_true] at valid
    rcases List.mem_cons.mp member with rfl | inRest
    · rw [isNameStart, Bool.or_eq_true] at valid
      rw [isNamePart, Bool.or_eq_true]
      exact valid.1.imp_left fun letter => Bool.or_eq_true_iff.mpr (.inl letter)
    · exact valid.2 character inRest

/-- A name is not empty. -/
theorem ne_nil_of_isName (valid : isName name = true) : name.toList ≠ [] := by
  intro empty
  rw [isName, empty] at valid
  cases valid

/-- A name holds no other character. -/
theorem not_mem_of_isName (valid : isName name = true) {character : Char}
    (other : isNamePart character = false) : character ∉ name.toList := by
  intro member
  rw [isNamePart_of_mem valid member] at other
  cases other

/-- The first equals sign ends the name, and the value keeps all others. -/
theorem assignment?_eq (valid : isName name = true) (value : String) :
    assignment? (name ++ "=" ++ value) = some (name, value) := by
  have characters : (name ++ "=" ++ value).toList = name.toList ++ '=' :: value.toList := by simp
  have noEquals : ∀ character ∈ name.toList, (character != '=') = true := by
    intro character member
    rw [bne_iff_ne]
    rintro rfl
    exact not_mem_of_isName valid (by decide) member
  rw [assignment?, characters, List.dropWhile_append_of_pos noEquals,
    List.takeWhile_append_of_pos noEquals]
  simp

/-- One valid assignment sets its variable and says nothing. -/
theorem run_exportVariables (valid : isName name = true) (value : String)
    (input : Option (List String)) (machine : Machine) :
    exportVariables.run [name ++ "=" ++ value] input machine =
      ({ machine with session := machine.session.setVariable name value } : Machine).reply [] []
        Status.success := by
  simp [exportVariables, assign, isInvalidAssignment, assignment?_eq valid, valid]

end Builtin

namespace Scanner

/-- A fragment of a word is one token on its own, and no fragment is none. -/
theorem Spells.tokens_eq {added : Option (List Char)} {marks : List Mark}
    (spells : Spells added marks) :
    tokens marks = (added.map fun word => .word (String.ofList word)).toList := by
  rw [tokens, spells]
  cases added <;> simp [lead, Joined.close]

/-- An opened quotation and a text spell the text. -/
theorem merge_opened (text : List Char) :
    Option.merge (· ++ ·) (some []) (fragment text) = some text := by
  cases text <;> simp [fragment, Option.merge]

variable {name : List Char}

/-- The name of a reference goes on as far as it can. -/
theorem run_named (lookup : Lookup) (span : Span) (start : List Char)
    (named : ∀ character ∈ name, isNameCharacter character = true) :
    run lookup (.named span start) name = ([], .named span (start ++ name)) := by
  induction name generalizing start with
  | nil => simp [run]
  | cons character rest inductionHypothesis =>
      obtain ⟨here, there⟩ := List.forall_mem_cons.mp named
      rw [run, step, if_pos here, inductionHypothesis _ there]
      simp [after]

/-- The name of a reference in braces goes on to the closing brace. -/
theorem run_braced (lookup : Lookup) (span : Span) (start : List Char) (unclosed : '\x7d' ∉ name) :
    run lookup (.braced span start) (name ++ ['\x7d']) =
      (expand lookup (start ++ name), .inside span) := by
  induction name generalizing start with
  | nil => simp [run, step, after]
  | cons character rest inductionHypothesis =>
      obtain ⟨other, restUnclosed⟩ := not_or.mp (mt List.mem_cons.mpr unclosed)
      rw [List.cons_append, run, step, if_neg (Ne.symm other), inductionHypothesis _ restUnclosed]
      simp [after]

/-- A dollar sign before a name starts a reference inside no quotes and inside double quotes. -/
theorem run_reference (valueOf : String → Option String) {span : Span} (expands : span ≠ .single)
    (nonempty : name ≠ []) (named : ∀ character ∈ name, isNameCharacter character = true) :
    run (some valueOf) (.inside span) ('$' :: name) = ([], .named span name) := by
  obtain ⟨first, rest, rfl⟩ := List.exists_cons_of_ne_nil nonempty
  obtain ⟨firstNamed, restNamed⟩ := List.forall_mem_cons.mp named
  have other (symbol : Char) (unnamed : isNameCharacter symbol = false) : first ≠ symbol := by
    rintro rfl
    rw [firstNamed] at unnamed
    cases unnamed
  have opening : step (some valueOf) (.inside span) '$' = ([], .dollar span) := by
    cases span with
    | single => exact absurd rfl expands
    | _ => rfl
  rw [run, opening, run, step, if_neg (other '?' (by decide)), if_neg (other '\x7b' (by decide)),
    if_pos firstNamed, run_named _ _ _ restNamed]
  rfl

end Scanner

/-- These are the ways to write a reference to a variable. -/
inductive Reference where
  | quoted
  | braced
  | bare

namespace Reference

/-- This stands before the name. -/
def opening : Reference → String
  | .quoted => "\"$"
  | .braced => "$\x7b"
  | .bare => "$"

/-- This stands behind the name. -/
def closing : Reference → String
  | .quoted => "\""
  | .braced => "\x7d"
  | .bare => ""

/-- A reference is the name between these. -/
def text (name : String) (reference : Reference) : String :=
  reference.opening ++ name ++ reference.closing

/-- Only quotes make a word of an empty value. -/
def words (value : String) : Reference → List String
  | .quoted => [value]
  | .braced | .bare => if value = "" then [] else [value]

variable {name : String} (valueOf : String → Option String)

/-- The marks of a reference are those of the value, and quotes open a word before it. -/
theorem scan_text (valid : Builtin.isName name = true) (reference : Reference) :
    Scanner.scan (some valueOf) (.inside .bare) (reference.text name).toList =
      match reference with
      | .quoted => .opened :: Scanner.expand (some valueOf) name.toList
      | .braced | .bare => Scanner.expand (some valueOf) name.toList := by
  have named : ∀ character ∈ name.toList, Scanner.isNameCharacter character = true :=
    fun character member =>
      Builtin.isNameCharacter_of_isNamePart (Builtin.isNamePart_of_mem valid member)
  have nonempty := Builtin.ne_nil_of_isName valid
  cases reference with
  | quoted =>
      have characters : (text name .quoted).toList = '"' :: ('$' :: name.toList ++ ['"']) := by
        simp [text, opening, closing]
      have inside := Scanner.run_reference valueOf (show Scanner.Span.double ≠ .single by decide)
        nonempty named
      have closing : Scanner.run (some valueOf) (.named .double name.toList) ['"'] =
          (Scanner.expand (some valueOf) name.toList, .inside .bare) := by
        simp [Scanner.run, Scanner.step, Scanner.stepInside, Scanner.after,
          show Scanner.isNameCharacter '"' = false by decide]
      have whole : Scanner.run (some valueOf) (.inside .double) ('$' :: name.toList ++ ['"']) =
          (Scanner.expand (some valueOf) name.toList, .inside .bare) := by
        rw [Scanner.run_append, inside, closing]
        rfl
      rw [characters, Scanner.scan_eq_run]
      change Scanner.Mark.opened :: (Scanner.run (some valueOf) (.inside .double) _).1 ++
        Scanner.finish _ (Scanner.run (some valueOf) (.inside .double) _).2 = _
      rw [whole]
      simp [Scanner.finish]
  | braced =>
      have characters : (text name .braced).toList =
          '$' :: '\x7b' :: (name.toList ++ ['\x7d']) := by
        simp [text, opening, closing]
      have closing := Scanner.run_braced (some valueOf) .bare []
        (Builtin.not_mem_of_isName valid (show Builtin.isNamePart '\x7d' = false by decide))
      rw [characters, Scanner.scan_eq_run]
      change (Scanner.run (some valueOf) (.braced .bare []) _).1 ++
        Scanner.finish _ (Scanner.run (some valueOf) (.braced .bare []) _).2 = _
      rw [closing]
      simp [Scanner.finish]
  | bare =>
      have characters : (text name .bare).toList = '$' :: name.toList := by
        simp [text, opening, closing]
      rw [characters, Scanner.scan_eq_run, Scanner.run_reference valueOf (by decide) nonempty named]
      rfl

/-- A reference is read as its value, whatever characters the value holds. -/
theorem reading_text (valid : Builtin.isName name = true) {value : String}
    (found : valueOf name = some value) (reference : Reference) :
    Token.reading (some valueOf) (reference.text name).toList =
      (reference.words value).map .word := by
  have marks : Scanner.expand (some valueOf) name.toList = Scanner.glyphs value.toList := by
    simp [Scanner.expand, found]
  have spells := Scanner.spells_glyphs value.toList
  rw [Token.reading, scan_text valueOf valid, marks]
  cases reference with
  | quoted =>
      have opened : Scanner.Spells (some value.toList)
          (.opened :: Scanner.glyphs value.toList) := by
        have joined := Scanner.spells_opened.append spells
        rwa [Scanner.merge_opened] at joined
      rw [opened.tokens_eq]
      simp [words]
  | braced | bare =>
      rw [spells.tokens_eq, words, Scanner.fragment]
      split <;> simp_all

/-- Words with blanks between them are the value again, also if there are none. -/
theorem intercalate_words (value : String) (reference : Reference) :
    " ".intercalate (reference.words value) = value := by
  cases reference with
  | quoted => simp [words]
  | braced | bare =>
      rw [words]
      split <;> simp_all

/-- A reference holds neither blanks nor semicolons. -/
theorem solid_text (valid : Builtin.isName name = true) (reference : Reference) {character : Char}
    (member : character ∈ (reference.text name).toList) :
    Text.isBlank character = false ∧ character ≠ ';' := by
  have ends : (reference.opening ++ reference.closing).toList.all
      (fun character => !Text.isBlank character && character != ';') = true := by
    cases reference <;> decide +kernel
  rw [text, String.toList_append, String.toList_append, List.append_assoc] at member
  rw [String.toList_append, List.all_append, Bool.and_eq_true] at ends
  rcases List.mem_append.mp member with front | rest
  · simpa using List.all_eq_true.mp ends.1 character front
  rcases List.mem_append.mp rest with inName | back
  · have part := Builtin.isNamePart_of_mem valid inName
    refine ⟨Builtin.isBlank_of_isNamePart part, ?_⟩
    rintro rfl
    exact absurd part (by decide)
  · simpa using List.all_eq_true.mp ends.2 character back

/-- Every reference is some text. -/
theorem text_ne_nil (reference : Reference) : (reference.text name).toList ≠ [] := by
  cases reference <;> simp [text, opening]

end Reference

namespace Pipeline

/-- This pipeline runs one command on its arguments. -/
def call (command : String) (arguments : List String) : Pipeline :=
  ⟨[⟨command, arguments⟩], none, none⟩

/-- A single stage runs its command. -/
theorem run_call {catalog : Catalog} {name : String} {command : Command}
    (found : catalog.resolve? name = some command) {arguments : List String}
    {machine next : Machine} {output diagnostics : List String} {status : Int}
    (done : command.run arguments none machine = next.reply output diagnostics status) :
    (call name arguments).run catalog machine = ⟨next, ⟨output, diagnostics⟩, status⟩ := by
  simp [run, call, runStages, deliver, Stage.run, found, done, Machine.reply]

end Pipeline

namespace Machine

variable {name : String} (machine : Machine)

/-- A valid assignment ends well, writes nothing and sets its variable. -/
theorem runLine_export (valid : Builtin.isName name = true) (value : String) :
    machine.runLine .standard (Pipeline.call "export" [name ++ "=" ++ value]).render =
      ⟨({ machine with session := machine.session.setVariable name value } : Machine).setStatus
        Status.success, .empty, Status.success⟩ := by
  have staged : (Pipeline.call "export" [name ++ "=" ++ value]).stages ≠ [] :=
    List.cons_ne_nil _ _
  have single :=
    ((Pipeline.call "export" [name ++ "=" ++ value]).presents_render staged).ofLine_eq.1
  have found : Catalog.standard.resolve? "export" = some Builtin.exportVariables :=
    Catalog.resolve?_standard (by simp [Builtin.all]) rfl
  rw [runLine_of_segment _ _ single, runSegment_render _ _ _ staged,
    Pipeline.run_call found (Builtin.run_exportVariables valid value none machine)]
  rfl

end Machine

namespace Reference

variable {name : String}

/-- This line prints what the reference stands for. -/
def echoLine (name : String) (reference : Reference) : String :=
  "echo " ++ reference.text name

/-- The line is the command, a blank and the reference. -/
theorem toList_echoLine (reference : Reference) :
    (reference.echoLine name).toList = "echo".toList ++ ' ' :: (reference.text name).toList := by
  rw [echoLine, String.toList_append]
  rfl

/-- The name of the command is printed as it is. -/
theorem render_echo : Word.render "echo" = "echo" := by decide

/-- The line is one segment. -/
theorem ofLine_echoLine (valid : Builtin.isName name = true) (reference : Reference) :
    Segment.ofLine (reference.echoLine name) = [reference.echoLine name] := by
  apply Segment.ofLine_of_not_mem
  · intro member
    rw [toList_echoLine] at member
    rcases List.mem_append.mp member with inCommand | inRest
    · exact absurd inCommand (by decide)
    · rcases List.mem_cons.mp inRest with isBlank | inText
      · exact absurd isBlank (by decide)
      · exact (solid_text valid reference inText).2 rfl
  · have solid : Text.Trimmed (reference.text name).toList :=
      .of_forall fun character member => (solid_text valid reference member).1
    have trimmed := (Word.trimmed_render "echo").around solid (Word.render_ne_nil "echo")
      reference.text_ne_nil [' ']
    simpa [render_echo, toList_echoLine] using trimmed
  · simp [toList_echoLine]

/-- The line is read as the command on the value. -/
theorem scanWith_echoLine (valueOf : String → Option String) (valid : Builtin.isName name = true)
    {value : String} (found : valueOf name = some value) (reference : Reference) :
    Token.scanWith valueOf (reference.echoLine name) =
      (Pipeline.call "echo" (reference.words value)).tokens := by
  -- The name of the command needs no quotes, so it is read as its rendered form is.
  have command := Word.readsAs_render (some valueOf) "echo"
  rw [render_echo] at command
  have apart : Token.reading (some valueOf) ("echo".toList ++ ' ' :: (reference.text name).toList) =
      [.word "echo"] ++ Token.reading (some valueOf) (' ' :: (reference.text name).toList) := by
    rw [← command.tokens_scan]
    apply Token.reading_append
    · rw [command.mode_eq]
      exact fun _ => rfl
    · rintro character ⟨⟩
      decide
    · rw [command.mode_eq]
      exact nofun
  change Token.reading _ _ = _
  rw [toList_echoLine, apart, Token.reading_blank _ (by decide), reading_text _ valid found]
  simp [Pipeline.tokens, Pipeline.call, Pipeline.stageTokens, Pipeline.inputTokens,
    Pipeline.outputTokens, Stage.tokens, Stage.words]

end Reference

namespace Machine

variable {name : String} (machine : Machine)

/-- The value of a variable is printed as one line. -/
theorem runLine_echoLine (valid : Builtin.isName name = true) {value : String}
    (found : machine.session.valueOf? name = some value) (reference : Reference) :
    machine.runLine .standard (reference.echoLine name) =
      ⟨machine.setStatus Status.success, ⟨[value], []⟩, Status.success⟩ := by
  have resolved : Catalog.standard.resolve? "echo" = some Builtin.echo :=
    Catalog.resolve?_standard (by simp [Builtin.all]) rfl
  have done : Builtin.echo.run (reference.words value) none machine =
      machine.reply [value] [] Status.success := by
    simp only [Builtin.echo, Reference.intercalate_words]
  have staged : (Pipeline.call "echo" (reference.words value)).stages ≠ [] := List.cons_ne_nil _ _
  rw [runLine_of_segment _ _ (Reference.ofLine_echoLine valid reference), runSegment,
    Reference.scanWith_echoLine _ valid found, Pipeline.ofTokens_tokens _ staged]
  simp only [Pipeline.run_call resolved done]
  rfl

/-- A variable carries every text, and every reference prints it as one line. -/
theorem runLine_echo_export (machine : Machine) {name : String} (valid : Builtin.isName name = true)
    (value : String) (reference : Reference) :
    let setting := machine.runLine .standard
      (Pipeline.call "export" [name ++ "=" ++ value]).render
    let printing := setting.machine.runLine .standard (reference.echoLine name)
    setting.status = 0 ∧ setting.transcript = ⟨[], []⟩ ∧
      printing.status = 0 ∧ printing.transcript = ⟨[value], []⟩ := by
  have notStatus : name ≠ "?" := by
    rintro rfl
    exact absurd valid (by decide)
  have found : (({ machine with session := machine.session.setVariable name value } :
      Machine).setStatus Status.success).session.valueOf? name = some value := by
    rw [Session.valueOf?, if_neg notStatus]
    exact (Table.find?_insert ..).trans (if_pos rfl)
  rw [runLine_export machine valid value]
  dsimp only
  rw [runLine_echoLine _ valid found reference]
  exact ⟨rfl, rfl, rfl, rfl⟩

/-- The value holds quotes, operators, a reference, a newline and blanks at its ends. -/
theorem runLine_echo_export_awkward :
    Builtin.isName "_n1" = true ∧
      (∀ reference : Reference,
        let setting := runLine .standard ⟨.start "/", .fresh⟩
          (Pipeline.call "export" ["_n1=" ++ " it's \"$_n1\"; a=b |\n> c "]).render
        let printing := setting.machine.runLine .standard (reference.echoLine "_n1")
        setting.status = 0 ∧ setting.transcript = ⟨[], []⟩ ∧
          printing.status = 0 ∧ printing.transcript = ⟨[" it's \"$_n1\"; a=b |\n> c "], []⟩) ∧
      ((runLine .standard ⟨.start "/", .fresh⟩
        (Pipeline.call "export" ["_n1="]).render).machine.runLine .standard
          "echo $_n1").transcript = ⟨[""], []⟩ := by
  have valid : Builtin.isName "_n1" = true := by decide
  refine ⟨valid, fun reference => ?_, ?_⟩
  · exact runLine_echo_export ⟨.start "/", .fresh⟩ valid " it's \"$_n1\"; a=b |\n> c " reference
  · exact (runLine_echo_export ⟨.start "/", .fresh⟩ valid "" .bare).2.2.2

end Machine

end TapeShell
