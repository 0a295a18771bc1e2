/-
This file says which target a redirection gets when the word behind it holds variables.
-/

import TapeShell.Proofs.Boundary
import TapeShell.Proofs.Grammar

namespace TapeShell

/-- A later redirection replaces an earlier one of the same direction. -/
def Operator.replaces : Operator → Operator → Bool
  | .readFrom, .readFrom => true
  | .writeTo, .writeTo | .writeTo, .appendTo => true
  | .appendTo, .writeTo | .appendTo, .appendTo => true
  | _, _ => false

namespace Pipeline

/-- The pipeline takes its input or its output where the redirection says. -/
def Records (pipeline : Pipeline) (path : String) : Operator → Prop
  | .readFrom => pipeline.input = some path
  | .writeTo => pipeline.output = some ⟨path, .write⟩
  | .appendTo => pipeline.output = some ⟨path, .append⟩
  | .pipe | .separator => False

/-- No redirection among these tokens replaces one that stands before them. -/
def Lasting (kind : Operator) (tokens : List Token) : Prop :=
  ∀ later, .operator later ∈ tokens → later.replaces kind = false

/-- The operator of a redirection is one of the tokens. -/
theorem operator_mem_of_mem_redirections {tokens : List Token} {redirection : Operator × String}
    (member : redirection ∈ redirections tokens) : .operator redirection.1 ∈ tokens := by
  fun_induction redirections tokens with
  | case1 => cases member
  | case2 kind path rest redirects inductionHypothesis =>
      rcases List.mem_cons.mp member with rfl | later
      · exact List.mem_cons_self
      · exact List.mem_cons_of_mem _ (List.mem_cons_of_mem _ (inductionHypothesis later))
  | case3 kind path rest plain inductionHypothesis =>
      exact List.mem_cons_of_mem _ (List.mem_cons_of_mem _ (inductionHypothesis member))
  | case4 token rest free inductionHypothesis =>
      exact List.mem_cons_of_mem _ (inductionHypothesis member)

/-- Without a redirection of one direction there is no target for it. -/
theorem lastTarget_eq_none {Target : Type} {target? : Operator × String → Option Target}
    {tokens : List Token}
    (none : ∀ kind, .operator kind ∈ tokens → ∀ path, target? (kind, path) = none) :
    lastTarget target? tokens = Option.none := by
  rw [lastTarget, List.getLast?_eq_none_iff, List.filterMap_eq_nil_iff]
  rintro ⟨kind, path⟩ member
  exact none kind (operator_mem_of_mem_redirections member) path

/-- A redirection counts if the tokens behind it hold no target of its direction. -/
theorem Targeted.lastTarget_of_last {Target : Type} {target? : Operator × String → Option Target}
    {before rest : List Token} (targeted : Targeted before) {kind : Operator}
    (redirects : kind.redirects = true) {path : String} {target : Target}
    (found : target? (kind, path) = some target)
    (last : ∀ later, .operator later ∈ rest → ∀ path, target? (later, path) = none) :
    lastTarget target? (before ++ .operator kind :: .word path :: rest) = some target := by
  have complete : Targeted [.operator kind, .word path] :=
    (Targeted.nil.cons (by simp)).cons (by simp)
  rw [targeted.lastTarget_append, show .operator kind :: .word path :: rest =
    [.operator kind, .word path] ++ rest from rfl, complete.lastTarget_append,
    lastTarget_eq_none last, lastTarget_redirection target? redirects, found]
  rfl

/-- A redirection that keeps the input gives none. -/
theorem inputTarget?_eq_none {later : Operator} (kept : later.replaces .readFrom = false)
    (path : String) : inputTarget? (later, path) = none := by
  cases later with
  | readFrom => cases kept
  | _ => rfl

/-- A redirection that keeps the output takes none. -/
theorem outputTarget?_eq_none {later kind : Operator} (writes : kind = .writeTo ∨ kind = .appendTo)
    (kept : later.replaces kind = false) (path : String) : outputTarget? (later, path) = none := by
  cases later with
  | writeTo | appendTo => rcases writes with rfl | rfl <;> cases kept
  | _ => rfl

/-- The last redirection of a direction gives its target to the pipeline. -/
theorem records_of_ofTokens {before rest : List Token} {kind : Operator} {path : String}
    {pipeline : Pipeline} (redirects : kind.redirects = true) (lasting : Lasting kind rest)
    (read : ofTokens (before ++ .operator kind :: .word path :: rest) = .ok pipeline) :
    pipeline.Records path kind := by
  have justified := ofTokens_justified (before ++ .operator kind :: .word path :: rest)
  rw [read] at justified
  obtain ⟨grammatical, describes⟩ := justified
  have targeted : Targeted before := grammatical.targeted.left
  cases kind with
  | readFrom =>
      exact describes.input.trans (targeted.lastTarget_of_last redirects rfl fun later member =>
        inputTarget?_eq_none (lasting later member))
  | writeTo =>
      exact describes.output.trans (targeted.lastTarget_of_last redirects rfl fun later member =>
        outputTarget?_eq_none (.inl rfl) (lasting later member))
  | appendTo =>
      exact describes.output.trans (targeted.lastTarget_of_last redirects rfl fun later member =>
        outputTarget?_eq_none (.inr rfl) (lasting later member))
  | pipe | separator => cases redirects

/-- The fault of a redirection that no word follows is its missing target. -/
theorem faultAt_untargeted {kind : Operator} (redirects : kind.redirects = true)
    (before : List Token) {after : List Token}
    (missing : ∀ path rest, after ≠ .word path :: rest) :
    faultAt before (.operator kind) after = some (.missingTarget kind) := by
  cases kind with
  | readFrom | writeTo | appendTo =>
      rcases after with _ | ⟨path | other, rest⟩
      · rfl
      · exact absurd rfl (missing path rest)
      · rfl
  | pipe | separator => cases redirects

/-- A redirection without a word behind it is rejected. -/
theorem ofTokens_untargeted {before after : List Token} {kind : Operator}
    (redirects : kind.redirects = true) (missing : ∀ path rest, after ≠ .word path :: rest) :
    ∃ fault, ofTokens (before ++ .operator kind :: after) = .error fault ∧
      (Faultless before (.operator kind :: after) → fault = .missingTarget kind) := by
  have justified := ofTokens_justified (before ++ .operator kind :: after)
  cases read : ofTokens (before ++ .operator kind :: after) with
  | ok pipeline =>
      rw [read] at justified
      obtain ⟨path, rest, following⟩ := justified.1.targeted before kind after rfl redirects
      exact absurd following (missing path rest)
  | error fault =>
      rw [read] at justified
      refine ⟨fault, rfl, fun faultless => ?_⟩
      exact justified.unique (.token rfl faultless (faultAt_untargeted redirects before missing))

end Pipeline

/-- A redirection is an operator outside quotations and one word behind it. -/
structure Redirection where
  before : String
  kind : Operator
  gap : String
  word : String
  after : String
  redirects : kind.redirects = true
  outside : (Scanner.modeAfter before.toList).isOutside = true
  apart : Scanner.modeAfter before.toList = .greater → kind = .readFrom
  blank : ∀ character ∈ gap.toList, Text.isBlank character = true
  nonempty : word ≠ ""
  whole : Scanner.unbroken (.inside .bare) word.toList = true
  ended : after ≠ "" → (Scanner.modeAfter word.toList).isOutside = true
  breaks : ∀ character ∈ after.toList.head?, Scanner.isBreak character = true

namespace Redirection

variable (redirection : Redirection) (valueOf : String → Option String)

/-- The whole segment that the redirection stands in. -/
def segment : String :=
  redirection.before ++ redirection.kind.symbol ++ redirection.gap ++ redirection.word ++
    redirection.after

/-- The tokens of the word: one word or nothing. -/
def expansion : List Token :=
  Token.scanWith valueOf redirection.word

/-- The target expands to nothing or to one word. -/
theorem expansion_cases :
    redirection.expansion valueOf = [] ∨ ∃ text, redirection.expansion valueOf = [.word text] :=
  Token.reading_unbroken valueOf redirection.whole

/-- Neither a blank nor the start of a word continues the operator. -/
theorem head?_ne_greater :
    (redirection.gap.toList ++ (redirection.word.toList ++ redirection.after.toList)).head? ≠
      some '>' := by
  intro continued
  cases gap : redirection.gap.toList with
  | cons character rest =>
      rw [gap] at continued
      obtain rfl : character = '>' := by simpa using continued
      exact absurd (redirection.blank '>' (by simp [gap])) (by decide)
  | nil =>
      rw [gap] at continued
      cases word : redirection.word.toList with
      | nil => exact redirection.nonempty (String.toList_eq_nil_iff.mp word)
      | cons character rest =>
          rw [word] at continued
          obtain rfl : character = '>' := by simpa using continued
          have whole := redirection.whole
          rw [word] at whole
          cases whole

/-- Each part of the segment is read on its own, whatever the values of variables are. -/
theorem scanWith_segment :
    Token.scanWith valueOf redirection.segment =
      Token.scanWith valueOf redirection.before ++ .operator redirection.kind ::
        (redirection.expansion valueOf ++ Token.scanWith valueOf redirection.after) := by
  have target : Token.reading (some valueOf)
      (redirection.word.toList ++ redirection.after.toList) =
        redirection.expansion valueOf ++ Token.scanWith valueOf redirection.after := by
    apply Token.reading_append _ _ redirection.breaks
    · rw [Scanner.mode_run]
      exact fun left => absurd left (Scanner.run_unbroken (by simp) redirection.whole)
    · rw [Scanner.mode_run]
      intro following
      exact redirection.ended (fun empty => following (String.toList_eq_nil_iff.mpr empty))
  have characters : redirection.segment.toList = redirection.before.toList ++
      (redirection.kind.symbol.toList ++ (redirection.gap.toList ++
        (redirection.word.toList ++ redirection.after.toList))) := by
    simp [segment, String.toList_append]
  change Token.reading (some valueOf) redirection.segment.toList = _
  rw [characters, Token.reading_append,
    Token.reading_operator _ _ fun _ => redirection.head?_ne_greater,
    Token.reading_blanks _ redirection.blank, target]
  · rfl
  · rw [Scanner.mode_run]
    exact fun _ => redirection.outside
  · exact Scanner.isBreak_symbol redirection.kind _
  · rw [Scanner.mode_run]
    intro left
    rw [redirection.apart left]
    simp [Operator.symbol]

/-- A redirection goes to what its word stands for, or to the next word if that is nothing. -/
theorem ofTokens_segment (redirection : Redirection) (valueOf : String → Option String) :
    let following := Token.scanWith valueOf redirection.after
    let result := Pipeline.ofTokens (Token.scanWith valueOf redirection.segment)
    (∀ text, redirection.expansion valueOf = [.word text] →
      Pipeline.Lasting redirection.kind following →
        ∀ pipeline, result = .ok pipeline → pipeline.Records text redirection.kind) ∧
    (∀ next others, redirection.expansion valueOf = [] → following = .word next :: others →
      Pipeline.Lasting redirection.kind others →
        ∀ pipeline, result = .ok pipeline → pipeline.Records next redirection.kind) ∧
    (redirection.expansion valueOf = [] → (∀ next others, following ≠ .word next :: others) →
      ∃ fault, result = .error fault ∧
        (Pipeline.Faultless (Token.scanWith valueOf redirection.before)
          (.operator redirection.kind :: following) → fault = .missingTarget redirection.kind)) ∧
    (redirection.expansion valueOf = [] ∨
      ∃ text, redirection.expansion valueOf = [.word text]) := by
  have tokens := redirection.scanWith_segment valueOf
  refine ⟨?_, ?_, ?_, redirection.expansion_cases valueOf⟩
  · intro text expansion lasting pipeline read
    rw [tokens, expansion] at read
    exact Pipeline.records_of_ofTokens redirection.redirects lasting read
  · intro next others expansion following lasting pipeline read
    rw [tokens, expansion, following] at read
    exact Pipeline.records_of_ofTokens redirection.redirects lasting read
  · intro expansion missing
    rw [tokens, expansion]
    exact Pipeline.ofTokens_untargeted redirection.redirects missing

/-- This redirection has another word behind its own. -/
def beforeArgument : Redirection where
  before := "echo hi "
  kind := .writeTo
  gap := " "
  word := "$E"
  after := " b"
  redirects := rfl
  outside := by decide +kernel
  apart := by decide +kernel
  blank := List.all_eq_true.mp (by decide +kernel)
  nonempty := by decide
  whole := by decide +kernel
  ended := by decide +kernel
  breaks := by
    rintro character ⟨⟩
    decide

/-- This redirection has a pipe behind its word. -/
def beforePipe : Redirection :=
  { beforeArgument with
    after := "|wc b"
    ended := by decide +kernel
    breaks := by
      rintro character ⟨⟩
      decide }

/-- A value with a blank is one target, and without a value the next word is it. -/
theorem ofTokens_segment_spaced :
    let spaced := fun name => if name = "E" then some "x > y" else none
    let unset : String → Option String := fun _ => none
    beforeArgument.segment = "echo hi > $E b" ∧ beforePipe.segment = "echo hi > $E|wc b" ∧
      Pipeline.ofTokens (Token.scanWith spaced beforeArgument.segment) =
        .ok ⟨[⟨"echo", ["hi", "b"]⟩], none, some ⟨"x > y", .write⟩⟩ ∧
      Pipeline.Records ⟨[⟨"echo", ["hi", "b"]⟩], none, some ⟨"x > y", .write⟩⟩ "x > y" .writeTo ∧
      Pipeline.ofTokens (Token.scanWith unset beforeArgument.segment) =
        .ok ⟨[⟨"echo", ["hi"]⟩], none, some ⟨"b", .write⟩⟩ ∧
      Pipeline.Records ⟨[⟨"echo", ["hi"]⟩], none, some ⟨"b", .write⟩⟩ "b" .writeTo ∧
      Pipeline.ofTokens (Token.scanWith unset beforePipe.segment) =
        .error (.missingTarget .writeTo) := by
  intro spaced unset
  have read : Pipeline.ofTokens (Token.scanWith spaced beforeArgument.segment) =
      .ok ⟨[⟨"echo", ["hi", "b"]⟩], none, some ⟨"x > y", .write⟩⟩ := by decide +kernel
  have readUnset : Pipeline.ofTokens (Token.scanWith unset beforeArgument.segment) =
      .ok ⟨[⟨"echo", ["hi"]⟩], none, some ⟨"b", .write⟩⟩ := by decide +kernel
  have lasting : Pipeline.Lasting .writeTo (Token.scanWith spaced " b") := by
    rw [show Token.scanWith spaced " b" = [.word "b"] by decide +kernel]
    simp [Pipeline.Lasting]
  have missing : ∀ next others, Token.scanWith unset "|wc b" ≠ .word next :: others := by
    rw [show Token.scanWith unset "|wc b" = [.operator .pipe, .word "wc", .word "b"] by
      decide +kernel]
    simp
  have faultless : Pipeline.Faultless (Token.scanWith unset "echo hi ")
      (.operator .writeTo :: Token.scanWith unset "|wc b") := by
    rw [show Token.scanWith unset "echo hi " = [.word "echo"] ++ [.word "hi"] by decide +kernel]
    exact ((Pipeline.Faultless.nil _).snoc rfl).snoc rfl
  obtain ⟨fault, rejected, cause⟩ :=
    (ofTokens_segment beforePipe unset).2.2.1 (by decide +kernel) missing
  rw [cause faultless, show beforePipe.kind = .writeTo from rfl] at rejected
  refine ⟨by decide +kernel, by decide +kernel, read, ?_, readUnset, ?_, rejected⟩
  · exact (ofTokens_segment beforeArgument spaced).1 "x > y" (by decide +kernel) lasting _ read
  · exact (ofTokens_segment beforeArgument unset).2.1 "b" [] (by decide +kernel)
      (by decide +kernel) (by simp [Pipeline.Lasting]) _ readUnset

/-- The argument of a command becomes the target if the variable before it has no value. -/
theorem ofTokens_argument_as_target :
    beforeArgument.segment = "echo hi > $E b" ∧
      beforeArgument.expansion (Session.start "/home").valueOf? = [] ∧
      Pipeline.ofTokens (Token.scanWith (Session.start "/home").valueOf? "echo hi > $E b") =
        .ok ⟨[⟨"echo", ["hi"]⟩], none, some ⟨"b", .write⟩⟩ := by
  decide +kernel

end Redirection

end TapeShell
