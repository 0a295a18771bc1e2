/-
This file says which lines a search for a pattern selects, and how the options bear on what is
printed of them.
-/

import TapeShell.Proofs.Input

namespace TapeShell

/-- A needle occurs where the text has it as a part. -/
theorem Text.occursIn_iff {needle text : List Char} :
    occursIn needle text = true ↔ needle <:+: text := by
  induction text with
  | nil => simp [occursIn]
  | cons character rest inductionHypothesis =>
      simp [occursIn, inductionHypothesis, List.infix_cons_iff]

namespace Builtin.Grep

/-- A dash with something after it is read as an option. -/
def IsOption (word : String) : Prop :=
  word.toList.head? = some '-' ∧ 1 < word.toList.length

instance (word : String) : Decidable (IsOption word) :=
  inferInstanceAs (Decidable (_ ∧ _))

/-- These letters are options. -/
def knownLetters : List Char :=
  ['i', 'v', 'c', 'n']

/-- Every letter of a valid option is known. -/
def IsValid (word : String) : Prop :=
  IsOption word ∧ word.toList.tail.all knownLetters.contains = true

instance (word : String) : Decidable (IsValid word) :=
  inferInstanceAs (Decidable (_ ∧ _))

/-- These are the letters of all option words. -/
def lettersOf (words : List String) : List Char :=
  words.flatMap fun word => word.toList.tail

/-- The second words give one letter more than the first words do. -/
def AddsLetter (letter : Char) (words more : List String) : Prop :=
  letter ∉ lettersOf words ∧
    ∀ other, other ∈ lettersOf more ↔ other = letter ∨ other ∈ lettersOf words

/-- The pattern stands somewhere in the line. -/
def Fits (letters : List Char) (pattern line : String) : Prop :=
  if 'i' ∈ letters then (Text.lowercase pattern).toList <:+: (Text.lowercase line).toList
  else pattern.toList <:+: line.toList

/-- Either the number of the selected lines is printed or each of them is. -/
def printed (letters : List Char) (selected : List (String × Nat)) : List String :=
  if 'c' ∈ letters then [Text.Decimal.render selected.length]
  else selected.map fun entry =>
    if 'n' ∈ letters then Text.Decimal.render entry.2 ++ ":" ++ entry.1 else entry.1

/-- The selected lines decide what is printed and whether the search succeeds. -/
def answer (machine : Machine) (letters : List Char) (selected : List (String × Nat)) : Outcome :=
  machine.reply (printed letters selected) []
    (if selected.isEmpty then Status.failure else Status.success)

/-- The command takes its options first, then the pattern and then the files. -/
def call (machine : Machine) (input : Option (List String)) (words : List String)
    (pattern : String) (files : List String) : Outcome :=
  grep.run (words ++ pattern :: files) input machine

/-- The options that the letters ask for, however often and in whatever order. -/
def ofLetters (letters : List Char) : GrepOptions :=
  ⟨letters.contains 'i', letters.contains 'v', letters.contains 'c', letters.contains 'n'⟩

section Options

variable {letters : List Char} {words : List String} {pattern : String}

/-- An option word is a dash and at least one letter. -/
theorem isOption_iff {word : String} :
    IsOption word ↔ ∃ letter letters, word.toList = '-' :: letter :: letters := by
  unfold IsOption
  rcases word.toList with _ | ⟨first, _ | ⟨second, rest⟩⟩ <;> simp

/-- The order and the number of the letters do not matter. -/
theorem ofLetters_congr {others : List Char} (same : ∀ letter, letter ∈ others ↔ letter ∈ letters) :
    ofLetters others = ofLetters letters := by
  simp [ofLetters, same]

/-- A known letter sets its option. -/
theorem addLetter_ofLetters {letter : Char} (known : letter ∈ knownLetters) :
    addLetter (ofLetters letters) letter = some (ofLetters (letters ++ [letter])) := by
  simp only [knownLetters, List.mem_cons, List.not_mem_nil, or_false] at known
  rcases known with rfl | rfl | rfl | rfl <;> simp [addLetter, ofLetters]

/-- Known letters set their options. -/
theorem addLetters_ofLetters {more : List Char} (known : ∀ letter ∈ more, letter ∈ knownLetters) :
    addLetters (ofLetters letters) more = .ok (ofLetters (letters ++ more)) := by
  induction more generalizing letters with
  | nil => rw [List.append_nil, addLetters]
  | cons letter more inductionHypothesis =>
      rw [List.forall_mem_cons] at known
      rw [addLetters, addLetter_ofLetters known.1]
      simp only [inductionHypothesis known.2, List.append_assoc, List.singleton_append]

/-- What is no option ends the options. -/
theorem readOptions_of_not_isOption (options : GrepOptions) (plain : ¬ IsOption pattern)
    (files : List String) :
    readOptions options (pattern :: files) = .ok (options, pattern :: files) := by
  rw [readOptions]
  split
  next letter letters read => exact absurd (isOption_iff.mpr ⟨letter, letters, read⟩) plain
  next => rfl

/-- The letters add up over the option words. -/
theorem readOptions_ofLetters (letters : List Char) (valid : ∀ word ∈ words, IsValid word)
    (plain : ¬ IsOption pattern) (files : List String) :
    readOptions (ofLetters letters) (words ++ pattern :: files) =
      .ok (ofLetters (letters ++ lettersOf words), pattern :: files) := by
  induction words generalizing letters with
  | nil =>
      rw [List.nil_append, readOptions_of_not_isOption _ plain]
      simp [lettersOf]
  | cons word words inductionHypothesis =>
      rw [List.forall_mem_cons] at valid
      obtain ⟨option, all⟩ := valid.1
      obtain ⟨letter, more, spelled⟩ := isOption_iff.mp option
      have known : ∀ other ∈ letter :: more, other ∈ knownLetters := by
        simpa [spelled] using all
      rw [List.cons_append, readOptions, spelled]
      simp only [addLetters_ofLetters known, inductionHypothesis _ valid.2]
      simp [lettersOf, spelled]

/-- A line is a hit if it fits the pattern under the letters. -/
theorem isHit_ofLetters (line : String) :
    isHit (ofLetters letters) pattern line = true ↔ Fits letters pattern line := by
  by_cases ignored : 'i' ∈ letters <;>
    simp [isHit, ofLetters, Fits, ignored, Text.occursIn_iff]

/-- The lines that fit are selected, or the others if the choice is inverted. -/
theorem mem_select_ofLetters {lines : List String} {entry : String × Nat} :
    entry ∈ select (ofLetters letters) pattern lines ↔
      entry ∈ lines.zipIdx 1 ∧ (Fits letters pattern entry.1 ↔ 'v' ∉ letters) := by
  rw [select, List.mem_filter, bne_iff_ne, ne_eq, Bool.eq_iff_iff, isHit_ofLetters]
  by_cases inverted : 'v' ∈ letters <;> simp [ofLetters, inverted]

/-- What is reported is printed as the letters say. -/
theorem report_ofLetters (selected : List (String × Nat)) :
    report (ofLetters letters) selected = printed letters selected := by
  by_cases counted : 'c' ∈ letters <;> by_cases numbered : 'n' ∈ letters <;>
    simp [report, printed, ofLetters, counted, numbered]

end Options

section Call

variable {machine : Machine} {files texts words more : List String} {pattern : String}

/-- A call with valid options is a search. -/
theorem call_eq_search (plain : ¬ IsOption pattern) (valid : ∀ word ∈ words, IsValid word)
    (input : Option (List String)) :
    call machine input words pattern files =
      search machine input (ofLetters (lettersOf words)) pattern files := by
  have read : readOptions noOptions (words ++ pattern :: files) =
      .ok (ofLetters (lettersOf words), pattern :: files) :=
    readOptions_ofLetters [] valid plain files
  simp only [call, grep, read]

/-- A search in files that can be read answers with the selected lines. -/
theorem call_eq_answer (holds : machine.Holds files texts) (plain : ¬ IsOption pattern)
    (valid : ∀ word ∈ words, IsValid word) (input : Option (List String)) :
    call machine input words pattern files =
      answer machine (lettersOf words)
        (select (ofLetters (lettersOf words)) pattern (givenLines input texts)) := by
  rw [call_eq_search plain valid, search, holds.inputLines_eq]
  simp only [report_ofLetters, answer]
  generalize select (ofLetters (lettersOf words)) pattern (givenLines input texts) = selected
  cases selected <;> rfl

/-- The selected lines keep their order and their numbers. -/
theorem select_sublist (options : GrepOptions) (pattern : String) (lines : List String) :
    (select options pattern lines).Sublist (lines.zipIdx 1) :=
  List.filter_sublist

/-- Every line is selected either directly or inversely. -/
theorem perm_select (options : GrepOptions) (lines : List String) :
    (select { options with invert := false } pattern lines ++
      select { options with invert := true } pattern lines).Perm (lines.zipIdx 1) := by
  have divided := List.filter_append_perm (fun entry => isHit options pattern entry.1)
    (lines.zipIdx 1)
  simpa [select, isHit] using divided

/-- One more letter sets one more option. -/
theorem AddsLetter.ofLetters_eq {letter : Char} (adds : AddsLetter letter words more) :
    ofLetters (lettersOf more) = ofLetters (letter :: lettersOf words) :=
  ofLetters_congr (by simpa using adds.2)

/-- An inverted choice selects all other lines. -/
theorem AddsLetter.perm_select (adds : AddsLetter 'v' words more) (pattern : String)
    (lines : List String) :
    (select (ofLetters (lettersOf words)) pattern lines ++
      select (ofLetters (lettersOf more)) pattern lines).Perm (lines.zipIdx 1) := by
  have direct : ofLetters (lettersOf words) =
      { ofLetters (lettersOf words) with invert := false } := by
    simp [ofLetters, adds.1]
  have inverse : ofLetters (lettersOf more) =
      { ofLetters (lettersOf words) with invert := true } := by
    rw [adds.ofLetters_eq]
    simp [ofLetters]
  rw [direct, inverse]
  exact Grep.perm_select ..

/-- Lines are selected whether or not they are counted. -/
theorem AddsLetter.select_eq (adds : AddsLetter 'c' words more) (lines : List String) :
    select (ofLetters (lettersOf more)) pattern lines =
      select (ofLetters (lettersOf words)) pattern lines := by
  rw [adds.ofLetters_eq]
  simp [select, isHit, ofLetters]

end Call

/-- The letters decide what a search selects, and `v` selects exactly the other lines. -/
theorem call_partition (machine : Machine) (input : Option (List String))
    (files texts : List String) (holds : machine.Holds files texts) (pattern : String)
    (plain : ¬ IsOption pattern) (words : List String) (valid : ∀ word ∈ words, IsValid word) :
    ∃ selected, selected.Sublist ((givenLines input texts).zipIdx 1) ∧
      (∀ entry ∈ (givenLines input texts).zipIdx 1, entry ∈ selected ↔
        (Fits (lettersOf words) pattern entry.1 ↔ 'v' ∉ lettersOf words)) ∧
      call machine input words pattern files = answer machine (lettersOf words) selected ∧
      ∀ more, (∀ word ∈ more, IsValid word) →
        ((∀ letter, letter ∈ lettersOf more ↔ letter ∈ lettersOf words) →
          call machine input more pattern files = call machine input words pattern files) ∧
        (AddsLetter 'v' words more → ∃ others,
          others.Sublist ((givenLines input texts).zipIdx 1) ∧
          (selected ++ others).Perm ((givenLines input texts).zipIdx 1) ∧
          selected.length + others.length = (givenLines input texts).length ∧
          call machine input more pattern files = answer machine (lettersOf more) others) ∧
        (AddsLetter 'c' words more →
          (call machine input more pattern files).transcript.output =
            [Text.Decimal.render
              (call machine input words pattern files).transcript.output.length] ∧
          (call machine input more pattern files).status =
            (call machine input words pattern files).status) := by
  have answered := call_eq_answer holds plain valid input
  -- The letter `v` turns the choice around, and `c` changes only what is printed of it.
  refine ⟨_, select_sublist _ pattern _, fun entry member => ?_, answered, fun more validMore =>
    ⟨fun same => ?_, fun adds => ?_, fun adds => ?_⟩⟩
  · rw [mem_select_ofLetters]
    exact and_iff_right member
  · rw [call_eq_search plain valid, call_eq_search plain validMore, ofLetters_congr same]
  · have divided := adds.perm_select pattern (givenLines input texts)
    refine ⟨_, select_sublist _ pattern _, divided, ?_,
      call_eq_answer holds plain validMore input⟩
    rw [← List.length_append, divided.length_eq, List.length_zipIdx]
  · have counted : 'c' ∈ lettersOf more := (adds.2 'c').mpr (.inl rfl)
    rw [call_eq_answer holds plain validMore, answered, adds.select_eq]
    simp [answer, Machine.reply, printed, counted, adds.1]

open Machine (desk holds_desk)

/-- The same letters stand in one word or in two, and the last pattern is a dash. -/
theorem call_partition_desk :
    (∃ selected others, selected.length + others.length = 3 ∧
      call desk none ["-ni", "-i"] "x" ["a", "-v"] = answer desk ['n', 'i', 'i'] selected ∧
      call desk none ["-v", "-in"] "x" ["a", "-v"] = answer desk ['v', 'i', 'n'] others) ∧
    call desk none ["-i", "-n"] "x" ["a", "-v"] = call desk none ["-ni", "-i"] "x" ["a", "-v"] ∧
    (call desk (some ["p-q", "r"]) ["-c"] "-" []).transcript.output =
      [Text.Decimal.render
        (call desk (some ["p-q", "r"]) [] "-" []).transcript.output.length] := by
  have joined : lettersOf ["-ni", "-i"] = ['n', 'i', 'i'] := by decide +kernel
  have inverse : lettersOf ["-v", "-in"] = ['v', 'i', 'n'] := by decide +kernel
  have apart : lettersOf ["-i", "-n"] = ['i', 'n'] := by decide +kernel
  have counted : lettersOf ["-c"] = ['c'] := by decide +kernel
  obtain ⟨selected, -, -, direct, further⟩ := call_partition desk none ["a", "-v"] _ holds_desk "x"
    (by decide +kernel) ["-ni", "-i"] (by decide +kernel)
  obtain ⟨_, -, -, -, counts⟩ := call_partition desk (some ["p-q", "r"]) [] [] .nil "-"
    (by decide +kernel) [] (by decide +kernel)
  rw [joined] at direct
  refine ⟨?_, (further ["-i", "-n"] (by decide +kernel)).1 ?_,
    ((counts ["-c"] (by decide +kernel)).2.2 ?_).1⟩
  · have adds : AddsLetter 'v' ["-ni", "-i"] ["-v", "-in"] := by
      rw [AddsLetter, joined, inverse]
      simp [or_comm]
    obtain ⟨others, -, -, total, answered⟩ := (further ["-v", "-in"] (by decide +kernel)).2.1 adds
    rw [inverse] at answered
    exact ⟨selected, others, total, direct, answered⟩
  · intro letter
    rw [joined, apart]
    simp [or_comm]
  · rw [AddsLetter, counted]
    simp [lettersOf]

end Builtin.Grep

end TapeShell
