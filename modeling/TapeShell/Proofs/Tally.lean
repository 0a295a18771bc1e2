/-
This file compares the counts of files with the counts of what the files are printed as.
-/

import TapeShell.Proofs.Input
import TapeShell.Proofs.Lines

namespace TapeShell

namespace Text

/-- Every line of the text is written with a newline. -/
def relined (text : List Char) : List Char :=
  (cutLines text).flatMap fun line => line ++ ['\n']

/-- The text has a last character, and that is no newline. -/
def isUnended (text : List Char) : Bool :=
  text.getLast?.any fun last => last != '\n'

/-- Each character of the text but the last stands with the one after it. -/
def neighbours (text : List Char) : List (Char × Char) :=
  text.zip text.tail

section Relined

variable {character next : Char} {more : List Char}

/-- A newline stays. -/
theorem relined_newline (rest : List Char) : relined ('\n' :: rest) = '\n' :: relined rest := by
  rw [relined, cutLines_newline]
  rfl

/-- A carriage return before a newline is lost. -/
theorem relined_returned (rest : List Char) :
    relined ('\r' :: '\n' :: rest) = relined ('\n' :: rest) := by
  rw [relined, cutLines_cons (by decide), if_pos ⟨rfl, rfl⟩]
  rfl

/-- The last line is given a newline. -/
theorem relined_last (solid : character ≠ '\n') : relined [character] = [character, '\n'] := by
  rw [relined, cutLines_cons solid, if_neg (by simp)]
  rfl

/-- A character in the middle of a line stays. -/
theorem relined_other (solid : character ≠ '\n') (kept : ¬ (character = '\r' ∧ next = '\n')) :
    relined (character :: next :: more) = character :: relined (next :: more) := by
  -- The text behind the character has a first line, which the character joins.
  obtain ⟨line, others, cut⟩ :=
    List.exists_cons_of_ne_nil (cutLines_ne_nil (List.cons_ne_nil next more))
  rw [relined, cutLines_cons solid, if_neg (by simpa using kept), relined, cut]
  rfl

/-- A text is empty, ends a line, is one character or starts with one that stays. -/
theorem linesInduction {motive : List Char → Prop} (empty : motive [])
    (newline : ∀ rest, motive rest → motive ('\n' :: rest))
    (returned : ∀ rest, motive ('\n' :: rest) → motive ('\r' :: '\n' :: rest))
    (last : ∀ character, character ≠ '\n' → motive [character])
    (other : ∀ character next more, character ≠ '\n' → ¬ (character = '\r' ∧ next = '\n') →
      motive (next :: more) → motive (character :: next :: more)) (text : List Char) :
    motive text := by
  induction text with
  | nil => exact empty
  | cons character rest inductionHypothesis =>
      by_cases solid : character = '\n'
      · rw [solid]
        exact newline rest inductionHypothesis
      · cases rest with
        | nil => exact last character solid
        | cons next more =>
            by_cases lost : character = '\r' ∧ next = '\n'
            · obtain ⟨rfl, rfl⟩ := lost
              exact returned more inductionHypothesis
            · exact other character next more solid lost inductionHypothesis

/-- A newline does not end the text behind it. -/
theorem isUnended_newline (rest : List Char) : isUnended ('\n' :: rest) = isUnended rest := by
  cases rest with
  | nil => rfl
  | cons next more => simp [isUnended]

/-- Only the end of a text tells whether it is ended. -/
theorem isUnended_cons_cons (character next : Char) (more : List Char) :
    isUnended (character :: next :: more) = isUnended (next :: more) := by
  simp [isUnended]

/-- A newline in front makes no pair. -/
theorem count_neighbours_newline (rest : List Char) :
    (neighbours ('\n' :: rest)).count ('\r', '\n') = (neighbours rest).count ('\r', '\n') := by
  cases rest <;> simp [neighbours]

/-- A carriage return before a newline makes a pair. -/
theorem count_neighbours_cons_cons (character next : Char) (more : List Char) :
    (neighbours (character :: next :: more)).count ('\r', '\n') =
      (neighbours (next :: more)).count ('\r', '\n') +
        if character = '\r' ∧ next = '\n' then 1 else 0 := by
  simp [neighbours, List.count_cons]

end Relined

/-- A measure that adds up counts each lost carriage return and each newline that was given. -/
theorem measure_relined (measure : List Char → Nat)
    (additive : ∀ front behind, measure (front ++ behind) = measure front + measure behind)
    (text : List Char) :
    measure (relined text) + (neighbours text).count ('\r', '\n') * measure ['\r'] =
      measure text + (isUnended text).toNat * measure ['\n'] := by
  have leading (character : Char) (rest : List Char) :
      measure (character :: rest) = measure [character] + measure rest :=
    additive [character] rest
  -- Each case takes one character off the text and settles what it adds to either side.
  induction text using linesInduction with
  | empty => simp [relined, cutLines, neighbours, isUnended]
  | newline rest inductionHypothesis =>
      rw [relined_newline, count_neighbours_newline, isUnended_newline, leading '\n' rest,
        leading '\n' (relined rest)]
      omega
  | returned rest inductionHypothesis =>
      rw [relined_returned, count_neighbours_cons_cons, if_pos ⟨rfl, rfl⟩, isUnended_cons_cons,
        leading '\r' ('\n' :: rest), Nat.add_mul]
      omega
  | last character solid =>
      have unended : isUnended [character] = true := by simpa [isUnended] using solid
      have single : neighbours [character] = [] := rfl
      rw [relined_last solid, unended, single, leading character ['\n']]
      simp
  | other character next more solid kept inductionHypothesis =>
      rw [relined_other solid kept, count_neighbours_cons_cons, if_neg kept, isUnended_cons_cons,
        Nat.add_zero, leading character (relined (next :: more)),
        leading character (next :: more)]
      omega

/-- A character that is not blank ends a word if a blank or nothing comes next. -/
theorem wordCount_cons (character : Char) (rest : List Char) :
    wordCount (character :: rest) =
      (if !isBlank character && rest.head?.all isBlank then 1 else 0) + wordCount rest := by
  cases rest with
  | nil => cases blank : isBlank character <;> simp [wordCount, blank]
  | cons next more => rfl

/-- Printing does not change whether a text starts with a blank. -/
theorem head?_relined (text : List Char) :
    (relined text).head?.all isBlank = text.head?.all isBlank := by
  induction text using linesInduction with
  | empty => rfl
  | newline rest => rw [relined_newline]; rfl
  | returned rest =>
      rw [relined_returned, relined_newline]
      change isBlank '\n' = isBlank '\r'
      decide
  | last character solid => rw [relined_last solid]; rfl
  | other character next more solid kept => rw [relined_other solid kept]; rfl

/-- The ends of lines part words as they did before. -/
theorem wordCount_relined (text : List Char) : wordCount (relined text) = wordCount text := by
  have blankNewline : isBlank '\n' = true := by decide
  have blankReturn : isBlank '\r' = true := by decide
  induction text using linesInduction with
  | empty => rfl
  | newline rest inductionHypothesis =>
      rw [relined_newline, wordCount_cons, wordCount_cons, inductionHypothesis, blankNewline]
      rfl
  | returned rest inductionHypothesis =>
      rw [relined_returned, inductionHypothesis, wordCount_cons '\r', blankReturn]
      simp
  | last character solid =>
      rw [relined_last solid, wordCount_cons, wordCount_cons character]
      simp [blankNewline, wordCount]
  | other character next more solid kept inductionHypothesis =>
      rw [relined_other solid kept, wordCount_cons, wordCount_cons character, inductionHypothesis,
        head?_relined]

/-- A printed text ends in a blank or is empty. -/
theorem getLast?_relined (text : List Char) : (relined text).getLast?.all isBlank = true := by
  rcases List.eq_nil_or_concat (cutLines text) with empty | ⟨lines, line, cut⟩
  · rw [relined, empty]
    rfl
  · have last : (relined text).getLast? = some '\n' := by simp [relined, cut]
    rw [last]
    decide

/-- A blank at the end parts the words before it from those behind it. -/
theorem wordCount_append {front : List Char} (ended : front.getLast?.all isBlank = true)
    (behind : List Char) : wordCount (front ++ behind) = wordCount front + wordCount behind := by
  induction front with
  | nil => simp [wordCount]
  | cons character rest inductionHypothesis =>
      rw [List.cons_append, wordCount_cons, wordCount_cons]
      cases rest with
      | nil =>
          have blank : isBlank character = true := ended
          simp [blank, wordCount]
      | cons next more =>
          rw [List.getLast?_cons_cons] at ended
          rw [inductionHypothesis ended, Nat.add_assoc]
          rfl

/-- So many texts have a last line without a newline. -/
def unendedTexts (texts : List String) : Nat :=
  texts.countP fun text => isUnended text.toList

/-- So often a carriage return stands before a newline. -/
def returnedLines (texts : List String) : Nat :=
  (texts.flatMap fun text => neighbours text.toList).count ('\r', '\n')

/-- The texts are printed line by line, and each line is given a newline. -/
def printed (texts : List String) : List Char :=
  texts.flatMap fun text => relined text.toList

/-- The lines of all texts are printed one after another. -/
theorem toList_join_lines (texts : List String) :
    (String.join ((texts.flatMap lines).map fun line => line ++ "\n")).toList = printed texts := by
  simp [String.toList_join, printed, lines, relined, List.flatMap_map, List.flatMap_assoc]

/-- Printing takes a carriage return per pair and adds a newline per unended text. -/
theorem measure_printed (measure : List Char → Nat)
    (additive : ∀ front behind, measure (front ++ behind) = measure front + measure behind)
    (texts : List String) :
    measure (printed texts) + returnedLines texts * measure ['\r'] =
      measure (texts.flatMap String.toList) + unendedTexts texts * measure ['\n'] := by
  induction texts with
  | nil => simp [printed, returnedLines, unendedTexts]
  | cons text texts inductionHypothesis =>
      have first := measure_relined measure additive text.toList
      have returned : returnedLines (text :: texts) =
          (neighbours text.toList).count ('\r', '\n') + returnedLines texts := by
        simp [returnedLines]
      have unended : unendedTexts (text :: texts) =
          (isUnended text.toList).toNat + unendedTexts texts := by
        cases ends : isUnended text.toList <;> simp [unendedTexts, ends, Nat.add_comm]
      have parts : printed (text :: texts) = relined text.toList ++ printed texts := rfl
      rw [parts, returned, unended, List.flatMap_cons, additive, additive, Nat.add_mul, Nat.add_mul]
      omega

end Text

namespace Builtin

open Text (unendedTexts returnedLines)

namespace Tally

/-- Tallies add up from any start. -/
theorem foldl_add (tallies : List Tally) (start : Tally) :
    tallies.foldl Tally.add start = start.add (Tally.sum tallies) := by
  induction tallies generalizing start with
  | nil => rfl
  | cons tally tallies inductionHypothesis =>
      rw [sum, List.foldl_cons, List.foldl_cons, inductionHypothesis, inductionHypothesis]
      simp [add, Nat.add_assoc]

/-- The first tally is added to the others. -/
theorem sum_cons (tally : Tally) (tallies : List Tally) :
    Tally.sum (tally :: tallies) = tally.add (Tally.sum tallies) := by
  rw [sum, List.foldl_cons, foldl_add]
  simp [add]

/-- The texts are counted one by one. -/
def ofTexts (texts : List String) : Tally :=
  Tally.sum (texts.map ofText)

/-- The tally of the first text is added to the others. -/
theorem ofTexts_cons (text : String) (texts : List String) :
    ofTexts (text :: texts) = (ofText text).add (ofTexts texts) := by
  rw [ofTexts, List.map_cons, sum_cons, ofTexts]

/-- The lines and the bytes of texts are those of all their characters. -/
theorem lines_bytes_ofTexts (texts : List String) :
    (ofTexts texts).lines = (texts.flatMap String.toList).count '\n' ∧
      (ofTexts texts).bytes =
        ((texts.flatMap String.toList).flatMap String.utf8EncodeChar).length := by
  induction texts with
  | nil => exact ⟨rfl, rfl⟩
  | cons text texts inductionHypothesis =>
      rw [ofTexts_cons, List.flatMap_cons, List.count_append, List.flatMap_append,
        List.length_append, ← inductionHypothesis.1, ← inductionHypothesis.2]
      exact ⟨rfl, rfl⟩

/-- No word runs from one text into the next. -/
theorem words_ofTexts (texts : List String) :
    (ofTexts texts).words = Text.wordCount (Text.printed texts) := by
  induction texts with
  | nil => rfl
  | cons text texts inductionHypothesis =>
      have parts : Text.printed (text :: texts) =
          Text.relined text.toList ++ Text.printed texts := rfl
      rw [ofTexts_cons, parts, Text.wordCount_append (Text.getLast?_relined _),
        Text.wordCount_relined, ← inductionHypothesis]
      rfl

/-- This is the number that the mode asks for. -/
def number (tally : Tally) : CountMode → Nat
  | .lines => tally.lines
  | .words => tally.words
  | .bytes => tally.bytes

/-- The tally of what texts are printed as. -/
def ofPrinted (texts : List String) : Tally :=
  ofText (String.join ((texts.flatMap Text.lines).map fun line => line ++ "\n"))

/-- Printing changes no number of words. -/
theorem words_ofPrinted (texts : List String) :
    (ofPrinted texts).words = (ofTexts texts).words := by
  rw [words_ofTexts, ← Text.toList_join_lines]
  rfl

/-- Printing ends the lines that were not. -/
theorem lines_ofPrinted (texts : List String) :
    (ofPrinted texts).lines = (ofTexts texts).lines + unendedTexts texts := by
  have counted : (ofPrinted texts).lines = (Text.printed texts).count '\n' :=
    congrArg (List.count '\n') (Text.toList_join_lines texts)
  have measured : (Text.printed texts).count '\n' + returnedLines texts * 0 =
      (texts.flatMap String.toList).count '\n' + unendedTexts texts * 1 :=
    Text.measure_printed (List.count '\n') (fun _ _ => List.count_append) texts
  rw [counted, (lines_bytes_ofTexts texts).1]
  omega

/-- Printing drops the carriage return of a pair and ends the last lines. -/
theorem bytes_ofPrinted (texts : List String) :
    (ofPrinted texts).bytes + returnedLines texts =
      (ofTexts texts).bytes + unendedTexts texts := by
  have counted : (ofPrinted texts).bytes =
      ((Text.printed texts).flatMap String.utf8EncodeChar).length :=
    congrArg (fun text => (text.flatMap String.utf8EncodeChar).length)
      (Text.toList_join_lines texts)
  have measured : ((Text.printed texts).flatMap String.utf8EncodeChar).length +
        returnedLines texts * 1 =
      ((texts.flatMap String.toList).flatMap String.utf8EncodeChar).length +
        unendedTexts texts * 1 :=
    Text.measure_printed (fun text => (text.flatMap String.utf8EncodeChar).length)
      (fun _ _ => by simp) texts
  rw [counted, (lines_bytes_ofTexts texts).2]
  omega

end Tally

section Run

variable {machine : Machine} {input : Option (List String)} {files texts : List String}

/-- Files are counted as their texts. -/
theorem Count.tally_of_holds (holds : machine.Holds files texts) (named : files ≠ [])
    (input : Option (List String)) :
    tally machine input files = .ok (Tally.ofTexts texts) := by
  rw [tally, holds.mapM_readText, if_neg (by simpa using named)]
  rfl

/-- A flag in front of files says which number is printed. -/
theorem run_wc {flag : String} {mode : CountMode} (flagged : Count.mode? flag = some mode)
    (plain : ∀ file ∈ files, Count.mode? file = none) {tally : Tally}
    (counted : Count.tally machine input files = .ok tally) :
    wc.run (flag :: files) input machine =
      machine.reply [Text.Decimal.render (tally.number mode)] [] Status.success := by
  have noModes : files.filterMap Count.mode? = [] := List.filterMap_eq_nil_iff.mpr plain
  have last : Count.lastMode? (flag :: files) = some mode := by
    rw [Count.lastMode?, List.filterMap_cons_some flagged, noModes]
    rfl
  have named : Count.files (flag :: files) = files := by
    rw [Count.files, List.filter_cons_of_neg (by simp [flagged]), List.filter_eq_self]
    intro file member
    rw [plain file member]
    rfl
  simp only [wc, named, counted, last]
  cases mode <;> rfl

end Run

end Builtin

/-- The counting command is found under its name. -/
theorem Catalog.resolve?_wc : standard.resolve? "wc" = some Builtin.wc :=
  resolve?_standard (by simp [Builtin.all]) rfl

namespace Pipeline

/-- The pipeline prints a number and nothing else. -/
def Prints (pipeline : Pipeline) (machine : Machine) (number : Nat) : Prop :=
  pipeline.run .standard machine =
    ⟨machine, ⟨[Text.Decimal.render number], []⟩, Status.success⟩

/-- This pipeline counts the files. -/
def countFiles (flag : String) (files : List String) : Pipeline :=
  ⟨[⟨"wc", flag :: files⟩], none, none⟩

/-- This pipeline counts what the files are printed as. -/
def countPrinted (flag : String) (files : List String) : Pipeline :=
  ⟨[⟨"cat", files⟩, ⟨"wc", [flag]⟩], none, none⟩

section Prints

open Builtin (Count.mode? Tally.ofTexts Tally.ofPrinted)

variable {machine : Machine} {files texts : List String} {flag : String}
  {mode : Builtin.CountMode}

/-- A pipeline prints what its last stage hands on. -/
theorem prints_of_flow {stages : List Stage} {number : Nat}
    (ran : stages.foldl (Stage.run .standard) (.start machine none) =
      ⟨machine, [], some [Text.Decimal.render number], Status.success⟩) :
    (⟨stages, none, none⟩ : Pipeline).Prints machine number := by
  change deliver none (stages.foldl (Stage.run .standard) (.start machine none)) = _
  rw [ran]
  rfl

/-- Counting files prints the number of their texts. -/
theorem prints_countFiles (named : files ≠ []) (holds : machine.Holds files texts)
    (plain : ∀ file ∈ files, Count.mode? file = none) (flagged : Count.mode? flag = some mode) :
    (countFiles flag files).Prints machine ((Tally.ofTexts texts).number mode) := by
  have counted := Builtin.run_wc flagged plain (Builtin.Count.tally_of_holds holds named none)
  exact prints_of_flow
    (Stage.run_of_reply (.start machine none) ⟨"wc", flag :: files⟩ Catalog.resolve?_wc counted)

/-- Counting printed files prints the number of what is printed. -/
theorem prints_countPrinted (named : files ≠ []) (holds : machine.Holds files texts)
    (flagged : Count.mode? flag = some mode) :
    (countPrinted flag files).Prints machine ((Tally.ofPrinted texts).number mode) := by
  have fed := Stage.run_cat (.start machine none) holds
  rw [givenLines_of_ne_nil (holds.ne_nil named)] at fed
  have counted : Builtin.wc.run [flag] (some (texts.flatMap Text.lines)) machine =
      machine.reply [Text.Decimal.render ((Tally.ofPrinted texts).number mode)] []
        Status.success :=
    Builtin.run_wc flagged (by simp) rfl
  apply prints_of_flow
  rw [List.foldl_cons, fed]
  exact Stage.run_of_reply ⟨machine, [], some (texts.flatMap Text.lines), Status.success⟩
    ⟨"wc", [flag]⟩ Catalog.resolve?_wc counted

end Prints

open Builtin.Tally (ofTexts)

/-- Printed files have the same words, and lines and bytes that differ by their ends. -/
theorem prints_count (machine : Machine) (files texts : List String) (named : files ≠ [])
    (holds : machine.Holds files texts)
    (plain : ∀ file ∈ files, file ≠ "-l" ∧ file ≠ "-w" ∧ file ≠ "-c") :
    ((countFiles "-w" files).Prints machine (ofTexts texts).words ∧
      (countPrinted "-w" files).Prints machine (ofTexts texts).words) ∧
    ((countFiles "-l" files).Prints machine (ofTexts texts).lines ∧
      (countPrinted "-l" files).Prints machine
        ((ofTexts texts).lines + Text.unendedTexts texts)) ∧
    (countFiles "-c" files).Prints machine (ofTexts texts).bytes ∧
      ∃ total, (countPrinted "-c" files).Prints machine total ∧
        total + Text.returnedLines texts = (ofTexts texts).bytes + Text.unendedTexts texts := by
  have noModes : ∀ file ∈ files, Builtin.Count.mode? file = none := by
    intro file member
    simp [Builtin.Count.mode?, plain file member]
  have words : Builtin.Count.mode? "-w" = some .words := by decide
  have lines : Builtin.Count.mode? "-l" = some .lines := by decide
  have bytes : Builtin.Count.mode? "-c" = some .bytes := by decide
  have directWords := prints_countFiles named holds noModes words
  have directLines := prints_countFiles named holds noModes lines
  have directBytes := prints_countFiles named holds noModes bytes
  have printedWords := prints_countPrinted named holds words
  have printedLines := prints_countPrinted named holds lines
  have printedBytes := prints_countPrinted named holds bytes
  rw [Builtin.Tally.number, Builtin.Tally.words_ofPrinted] at printedWords
  rw [Builtin.Tally.number, Builtin.Tally.lines_ofPrinted] at printedLines
  exact ⟨⟨directWords, printedWords⟩, ⟨directLines, printedLines⟩, directBytes, _, printedBytes,
    Builtin.Tally.bytes_ofPrinted texts⟩

open Machine (desk holds_desk)

/-- One file has a carriage return and a line without an end. -/
theorem prints_count_desk :
    ((countFiles "-w" ["a", "-v"]).Prints desk 3 ∧
      (countPrinted "-w" ["a", "-v"]).Prints desk 3) ∧
    ((countFiles "-l" ["a", "-v"]).Prints desk 2 ∧
      (countPrinted "-l" ["a", "-v"]).Prints desk 3) ∧
    (countFiles "-c" ["a", "-v"]).Prints desk 8 ∧
      ∃ total, (countPrinted "-c" ["a", "-v"]).Prints desk total ∧ total + 1 = 9 := by
  have counted : ofTexts ["Xy\r\nb", "x-\n"] = ⟨2, 3, 8⟩ := by decide +kernel
  have unended : Text.unendedTexts ["Xy\r\nb", "x-\n"] = 1 := by decide +kernel
  have returned : Text.returnedLines ["Xy\r\nb", "x-\n"] = 1 := by decide +kernel
  have counts := prints_count desk ["a", "-v"] ["Xy\r\nb", "x-\n"] (by simp) holds_desk
    (by decide +kernel)
  rwa [counted, unended, returned] at counts

end Pipeline

end TapeShell
