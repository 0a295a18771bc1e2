/-
This file gives the grammar of a pipeline and shows that reading follows it.
-/

import TapeShell.Proofs.RoundTrip

namespace TapeShell

/-- These operators take the next token as their target. -/
def Operator.redirects : Operator → Bool
  | .readFrom | .writeTo | .appendTo => true
  | .pipe | .separator => false

/-- A stage is known by its tokens. -/
theorem Stage.tokens_injective : Function.Injective Stage.tokens := by
  intro first second same
  have words_eq := List.map_injective_iff.mpr (fun _ _ => Token.word.inj) same
  rcases first with ⟨command, arguments⟩
  rcases second with ⟨otherCommand, otherArguments⟩
  cases words_eq
  rfl

namespace Pipeline

/-- Every redirection is directly followed by a word. -/
def Targeted (tokens : List Token) : Prop :=
  ∀ before kind after, tokens = before ++ .operator kind :: after → kind.redirects = true →
    ∃ path rest, after = .word path :: rest

/-- The redirections in order, each with its target. -/
def redirections : List Token → List (Operator × String)
  | [] => []
  | .operator kind :: .word path :: rest =>
      if kind.redirects then (kind, path) :: redirections rest else redirections rest
  | _ :: rest => redirections rest

/-- The tokens that stay when each redirection is deleted together with its target. -/
def unredirected : List Token → List Token
  | [] => []
  | .operator kind :: .word path :: rest =>
      if kind.redirects then unredirected rest
      else .operator kind :: .word path :: unredirected rest
  | token :: rest => token :: unredirected rest

/-- The groups of words between the pipes. -/
def groups (tokens : List Token) : List (List Token) :=
  (unredirected tokens).splitOn (.operator .pipe)

/-- The group that is still open at the end. -/
def openGroup (tokens : List Token) : List Token :=
  (groups tokens).getLast (List.splitOn_ne_nil _ _)

/-- This redirection gives the input. -/
def inputTarget? : Operator × String → Option String
  | (.readFrom, path) => some path
  | _ => none

/-- This redirection takes the output. -/
def outputTarget? : Operator × String → Option Redirect
  | (.writeTo, path) => some ⟨path, .write⟩
  | (.appendTo, path) => some ⟨path, .append⟩
  | _ => none

/-- Of the redirections of one kind the last one counts. -/
def lastTarget {Target : Type} (target? : Operator × String → Option Target)
    (tokens : List Token) : Option Target :=
  ((redirections tokens).filterMap target?).getLast?

/-- These tokens are the text of a pipeline. -/
structure Grammatical (tokens : List Token) : Prop where
  unseparated : .operator .separator ∉ tokens
  targeted : Targeted tokens
  staged : ∀ group ∈ groups tokens, group ≠ []

/-- The stages are the groups, and the redirections are the last ones. -/
structure Describes (tokens : List Token) (pipeline : Pipeline) : Prop where
  stages : pipeline.stages.map Stage.tokens = groups tokens
  input : pipeline.input = lastTarget inputTarget? tokens
  output : pipeline.output = lastTarget outputTarget? tokens

/-- The fault of a token that stands between `before` and `after`. -/
def faultAt (before : List Token) : Token → List Token → Option SyntaxFault
  | .word _, _ => none
  | .operator .pipe, _ => if openGroup before = [] then some .emptyStage else none
  | .operator .separator, _ => some .unexpectedSeparator
  | .operator _, .word _ :: _ => none
  | .operator kind, _ => some (.missingTarget kind)

/-- No token before `after` has a fault. -/
def Faultless (before after : List Token) : Prop :=
  ∀ first token rest, before = first ++ token :: rest → faultAt first token (rest ++ after) = none

/-- The leftmost fault counts, and the end has a fault only if no token has one. -/
inductive FirstFault (tokens : List Token) : SyntaxFault → Prop where
  | token {before after : List Token} {token : Token} {fault : SyntaxFault}
      (split : tokens = before ++ token :: after) (faultless : Faultless before (token :: after))
      (found : faultAt before token after = some fault) : FirstFault tokens fault
  | emptyCommand (faultless : Faultless tokens []) (unfinished : openGroup tokens = [])
      (unpiped : .operator .pipe ∉ tokens) : FirstFault tokens .emptyCommand
  | emptyStage (faultless : Faultless tokens []) (unfinished : openGroup tokens = [])
      (piped : .operator .pipe ∈ tokens) : FirstFault tokens .emptyStage

/-- A word is no redirection. -/
@[simp]
theorem unredirected_word (text : String) (rest : List Token) :
    unredirected (.word text :: rest) = .word text :: unredirected rest := by
  rw [unredirected]
  simp

/-- A word adds no redirection. -/
@[simp]
theorem redirections_word (text : String) (rest : List Token) :
    redirections (.word text :: rest) = redirections rest := by
  rw [redirections]
  simp

/-- Another operator stays among the tokens. -/
theorem unredirected_operator {kind : Operator} (plain : kind.redirects = false)
    (rest : List Token) :
    unredirected (.operator kind :: rest) = .operator kind :: unredirected rest := by
  rcases rest with _ | ⟨_ | _, rest⟩ <;> simp [unredirected, plain]

/-- Another operator adds no redirection. -/
theorem redirections_operator {kind : Operator} (plain : kind.redirects = false)
    (rest : List Token) : redirections (.operator kind :: rest) = redirections rest := by
  rcases rest with _ | ⟨_ | _, rest⟩ <;> simp [redirections, plain]

/-- A redirection is dropped with its target. -/
theorem unredirected_redirection {kind : Operator} (redirects : kind.redirects = true)
    (path : String) (rest : List Token) :
    unredirected (.operator kind :: .word path :: rest) = unredirected rest := by
  rw [unredirected, if_pos redirects]

/-- A redirection is listed with its target. -/
theorem redirections_redirection {kind : Operator} (redirects : kind.redirects = true)
    (path : String) (rest : List Token) :
    redirections (.operator kind :: .word path :: rest) = (kind, path) :: redirections rest := by
  rw [redirections, if_pos redirects]

/-- The only redirection is the last one. -/
theorem lastTarget_redirection {Target : Type} (target? : Operator × String → Option Target)
    {kind : Operator} (redirects : kind.redirects = true) (path : String) :
    lastTarget target? [.operator kind, .word path] = target? (kind, path) := by
  rw [lastTarget, redirections_redirection redirects, redirections, List.filterMap_cons]
  cases target? (kind, path) <;> rfl

/-- A redirection with a target has no fault. -/
theorem faultAt_redirection {kind : Operator} (redirects : kind.redirects = true)
    (before : List Token) (path : String) (after : List Token) :
    faultAt before (.operator kind) (.word path :: after) = none := by
  match kind, redirects with
  | .readFrom, _ | .writeTo, _ | .appendTo, _ => rfl

/-- Deleting redirections keeps the other operators. -/
theorem operator_mem_unredirected {kind : Operator} (plain : kind.redirects = false)
    (tokens : List Token) : .operator kind ∈ unredirected tokens ↔ .operator kind ∈ tokens := by
  fun_induction unredirected tokens with
  | case1 => rfl
  | case2 other path rest redirects inductionHypothesis =>
      have different : kind ≠ other := by
        rintro rfl
        simp [plain] at redirects
      simp [inductionHypothesis, different]
  | case3 other path rest redirects inductionHypothesis => simp [inductionHypothesis]
  | case4 token rest free inductionHypothesis => simp [inductionHypothesis]

namespace Targeted

variable {tokens : List Token}

/-- No redirection lacks a target where there is none. -/
theorem nil : Targeted [] := by
  intro before kind after split
  simp at split

/-- The tail of a list has the targets of its own redirections. -/
theorem tail {token : Token} (targeted : Targeted (token :: tokens)) : Targeted tokens := by
  intro before kind after split redirects
  exact targeted (token :: before) kind after (by rw [split, List.cons_append]) redirects

/-- A first redirection is followed by its target. -/
theorem head {kind : Operator} (targeted : Targeted (.operator kind :: tokens))
    (redirects : kind.redirects = true) : ∃ path rest, tokens = .word path :: rest :=
  targeted [] kind tokens rfl redirects

/-- A token may be added in front if it has its target, should it need one. -/
theorem cons {token : Token}
    (head : ∀ kind, token = .operator kind → kind.redirects = true →
      ∃ path rest, tokens = .word path :: rest) (targeted : Targeted tokens) :
    Targeted (token :: tokens) := by
  intro before kind after split redirects
  cases before with
  | nil =>
      rw [List.nil_append, List.cons.injEq] at split
      obtain ⟨rfl, rfl⟩ := split
      exact head kind rfl redirects
  | cons first before =>
      rw [List.cons_append, List.cons.injEq] at split
      exact targeted before kind after split.2 redirects

/-- Every redirection of the first part has its target there. -/
theorem append {second : List Token} (targeted : Targeted tokens)
    (targetedSecond : Targeted second) : Targeted (tokens ++ second) := by
  intro before kind after split redirects
  rcases List.append_eq_append_iff.mp split with
    ⟨between, rfl, second_eq⟩ | ⟨between, rfl, after_eq⟩
  · exact targetedSecond between kind after second_eq redirects
  · cases between with
    | nil => exact targetedSecond [] kind after after_eq.symm redirects
    | cons token between =>
        rw [List.cons_append, List.cons.injEq] at after_eq
        obtain ⟨rfl, rfl⟩ := after_eq
        obtain ⟨path, rest, rfl⟩ := targeted before kind between rfl redirects
        exact ⟨path, rest ++ second, rfl⟩

/-- Targeted tokens are words, other operators and redirections with their targets. -/
@[elab_as_elim]
theorem induction {motive : (tokens : List Token) → Targeted tokens → Prop} (nil : motive [] nil)
    (word : ∀ text rest (targeted : Targeted (.word text :: rest)), motive rest targeted.tail →
      motive (.word text :: rest) targeted)
    (operator : ∀ kind rest (targeted : Targeted (.operator kind :: rest)),
      kind.redirects = false → motive rest targeted.tail →
        motive (.operator kind :: rest) targeted)
    (redirection : ∀ kind path rest (targeted : Targeted (.operator kind :: .word path :: rest)),
      kind.redirects = true → motive rest targeted.tail.tail →
        motive (.operator kind :: .word path :: rest) targeted)
    {tokens : List Token} (targeted : Targeted tokens) : motive tokens targeted := by
  fun_induction unredirected tokens with
  | case1 => exact nil
  | case2 kind path rest redirects inductionHypothesis =>
      exact redirection kind path rest _ redirects (inductionHypothesis targeted.tail.tail)
  | case3 kind path rest plain inductionHypothesis =>
      have following := word path rest targeted.tail (inductionHypothesis _)
      exact operator kind _ _ (by simpa using plain) following
  | case4 token rest free inductionHypothesis =>
      have following := inductionHypothesis targeted.tail
      cases token with
      | word text => exact word text rest _ following
      | operator kind =>
          refine operator kind rest _ ?_ following
          by_contra redirects
          obtain ⟨path, others, rest_eq⟩ := targeted.head (by simpa using redirects)
          exact free kind path others rfl rest_eq

/-- What follows complete redirections is read on its own. -/
theorem unredirected_append (targeted : Targeted tokens) (after : List Token) :
    unredirected (tokens ++ after) = unredirected tokens ++ unredirected after := by
  induction targeted using Targeted.induction with
  | nil => rfl
  | word text rest _ inductionHypothesis => simp [inductionHypothesis]
  | operator kind rest _ plain inductionHypothesis =>
      simp [unredirected_operator plain, inductionHypothesis]
  | redirection kind path rest _ redirects inductionHypothesis =>
      simp [unredirected_redirection redirects, inductionHypothesis]

/-- Redirections with targets are listed part by part. -/
theorem redirections_append (targeted : Targeted tokens) (after : List Token) :
    redirections (tokens ++ after) = redirections tokens ++ redirections after := by
  induction targeted using Targeted.induction with
  | nil => rfl
  | word text rest _ inductionHypothesis => simp [inductionHypothesis]
  | operator kind rest _ plain inductionHypothesis =>
      simp [redirections_operator plain, inductionHypothesis]
  | redirection kind path rest _ redirects inductionHypothesis =>
      simp [redirections_redirection redirects, inductionHypothesis]

/-- What stands before an operator ends in no open redirection. -/
theorem left {kind : Operator} {after : List Token}
    (targeted : Targeted (tokens ++ .operator kind :: after)) : Targeted tokens := by
  intro before other rest split redirects
  subst split
  rw [List.append_assoc, List.cons_append] at targeted
  obtain ⟨path, others, rest_eq⟩ := targeted before other _ rfl redirects
  cases rest with
  | nil => cases rest_eq
  | cons token rest =>
      rw [List.cons_append, List.cons.injEq] at rest_eq
      exact ⟨path, rest, by rw [rest_eq.1]⟩

/-- A pipe separates the groups of its two sides. -/
theorem groups_append {after : List Token}
    (targeted : Targeted (tokens ++ .operator .pipe :: after)) :
    groups (tokens ++ .operator .pipe :: after) = groups tokens ++ groups after := by
  rw [groups, targeted.left.unredirected_append, unredirected_operator rfl,
    List.splitOn_append_cons_self]
  rfl

/-- Of two parts the second one has the last redirections. -/
theorem lastTarget_append {Target : Type} (target? : Operator × String → Option Target)
    (targeted : Targeted tokens) (after : List Token) :
    lastTarget target? (tokens ++ after) =
      (lastTarget target? after).or (lastTarget target? tokens) := by
  rw [lastTarget, targeted.redirections_append, List.filterMap_append, List.getLast?_append]
  rfl

end Targeted

namespace Faultless

variable {before after : List Token} {token : Token}

/-- No token is no fault. -/
theorem nil (after : List Token) : Faultless [] after := by
  intro first token rest split
  simp at split

/-- One more token without a fault leaves the tokens without a fault. -/
theorem snoc (faultless : Faultless before (token :: after))
    (sound : faultAt before token after = none) : Faultless (before ++ [token]) after := by
  intro first other rest split
  rcases List.eq_nil_or_concat rest with rfl | ⟨rest, last, rfl⟩
  · obtain ⟨rfl, same⟩ := List.append_inj' split rfl
    obtain rfl : token = other := by simpa using same
    exact sound
  · rw [List.concat_eq_append, ← List.cons_append, ← List.append_assoc] at split
    obtain ⟨rfl, same⟩ := List.append_inj' split rfl
    obtain rfl : token = last := by simpa using same
    have earlier := faultless first other rest rfl
    simpa using earlier

/-- A separator is always a fault. -/
theorem unseparated (faultless : Faultless before []) : .operator .separator ∉ before := by
  intro member
  obtain ⟨first, rest, split⟩ := List.append_of_mem member
  cases faultless first _ rest split

/-- A fault lies behind all tokens without one. -/
theorem length_le {first rest : List Token} {fault : SyntaxFault} (faultless : Faultless first rest)
    (split : first ++ rest = before ++ token :: after)
    (found : faultAt before token after = some fault) : first.length ≤ before.length := by
  rcases List.append_eq_append_iff.mp split with ⟨between, rfl, _⟩ | ⟨between, rfl, rest_eq⟩
  · simp
  · cases between with
    | nil => simp
    | cons head between =>
        rw [List.cons_append, List.cons.injEq] at rest_eq
        obtain ⟨rfl, rfl⟩ := rest_eq
        rw [faultless before token between rfl] at found
        cases found

/-- Tokens that are all without a fault have no token with one. -/
theorem faultAt_ne (faultless : Faultless (before ++ token :: after) []) (fault : SyntaxFault) :
    faultAt before token after ≠ some fault := by
  intro found
  have bound := faultless.length_le (List.append_nil _) found
  rw [List.length_append, List.length_cons] at bound
  omega

end Faultless

/-- At most one fault is the leftmost one. -/
theorem FirstFault.unique {tokens : List Token} {first second : SyntaxFault}
    (isFirst : FirstFault tokens first) (isSecond : FirstFault tokens second) : first = second := by
  cases isFirst with
  | token split faultless found =>
      subst split
      cases isSecond with
      -- Neither token can lie before the other, so they are the same one.
      | token otherSplit otherFaultless otherFound =>
          have before := faultless.length_le otherSplit otherFound
          have behind := otherFaultless.length_le otherSplit.symm found
          obtain ⟨rfl, rest_eq⟩ := List.append_inj otherSplit (Nat.le_antisymm before behind)
          rw [List.cons.injEq] at rest_eq
          obtain ⟨rfl, rfl⟩ := rest_eq
          rw [found] at otherFound
          exact Option.some.inj otherFound
      | emptyCommand otherFaultless => exact absurd found (otherFaultless.faultAt_ne _)
      | emptyStage otherFaultless => exact absurd found (otherFaultless.faultAt_ne _)
  | emptyCommand faultless unfinished unpiped =>
      cases isSecond with
      | token split _ found =>
          subst split
          exact absurd found (faultless.faultAt_ne _)
      | emptyCommand => rfl
      | emptyStage _ _ piped => exact absurd piped unpiped
  | emptyStage faultless unfinished piped =>
      cases isSecond with
      | token split _ found =>
          subst split
          exact absurd found (faultless.faultAt_ne _)
      | emptyCommand _ _ unpiped => exact absurd piped unpiped
      | emptyStage => rfl

/-- The open group is a group. -/
theorem openGroup_mem (tokens : List Token) : openGroup tokens ∈ groups tokens :=
  List.getLast_mem _

namespace Grammatical

variable {tokens : List Token}

/-- A grammatical line has no fault. -/
theorem faultless (grammatical : Grammatical tokens) : Faultless tokens [] := by
  intro first token rest split
  rw [List.append_nil]
  subst split
  match token with
  | .word text => rfl
  | .operator .pipe =>
      -- The group that this pipe closes is one of the groups of the whole line.
      have member := List.mem_append_left (groups rest) (openGroup_mem first)
      rw [← grammatical.targeted.groups_append] at member
      simp [faultAt, grammatical.staged _ member]
  | .operator .separator => exact absurd (by simp) grammatical.unseparated
  | .operator .readFrom | .operator .writeTo | .operator .appendTo =>
      obtain ⟨path, others, rfl⟩ := grammatical.targeted first _ rest rfl rfl
      exact faultAt_redirection rfl first path others

/-- Tokens of a pipeline have no fault. -/
theorem not_firstFault (grammatical : Grammatical tokens) (fault : SyntaxFault) :
    ¬FirstFault tokens fault := by
  have unfinished := grammatical.staged _ (openGroup_mem tokens)
  intro isFirst
  cases isFirst with
  | token split _ found =>
      subst split
      exact grammatical.faultless.faultAt_ne _ found
  | emptyCommand _ finished => exact unfinished finished
  | emptyStage _ finished => exact unfinished finished

end Grammatical

/-- The tokens that a draft was read from, but for its redirections. -/
def Draft.tokens (draft : Draft) : List Token :=
  (draft.stages.flatMap fun stage => stage.tokens ++ [.operator .pipe]) ++ draft.words.map .word

/-- No word is a pipe. -/
theorem pipe_not_mem_words (words : List String) :
    Token.operator .pipe ∉ words.map Token.word := by
  simp

/-- A draft has one group for each finished stage and one that is open. -/
theorem Draft.splitOn_tokens (draft : Draft) :
    draft.tokens.splitOn (.operator .pipe) =
      draft.stages.map Stage.tokens ++ [draft.words.map .word] := by
  rcases draft with ⟨stages, words, input, output⟩
  induction stages with
  | nil => exact List.splitOn_eq_singleton (pipe_not_mem_words words)
  | cons stage stages inductionHypothesis =>
      have first := List.splitOn_append_cons_self_of_not_mem (pipe_not_mem_words stage.words)
        (Draft.tokens ⟨stages, words, input, output⟩)
      rw [inductionHypothesis] at first
      simpa [Draft.tokens, Stage.tokens] using first

/-- The draft holds what the tokens before `after` say, and none of them has a fault. -/
structure Consumed (before after : List Token) (draft : Draft) : Prop where
  targeted : Targeted before
  faultless : Faultless before after
  remaining : unredirected before = draft.tokens
  input : draft.input = lastTarget inputTarget? before
  output : draft.output = lastTarget outputTarget? before

namespace Consumed

variable {before after : List Token} {draft : Draft}

/-- Nothing is consumed at the start. -/
theorem empty (tokens : List Token) : Consumed [] tokens .empty :=
  ⟨.nil, .nil tokens, rfl, rfl, rfl⟩

/-- The groups so far are the stages and the open words. -/
theorem groups_eq (consumed : Consumed before after draft) :
    groups before = draft.stages.map Stage.tokens ++ [draft.words.map .word] := by
  rw [groups, consumed.remaining, draft.splitOn_tokens]

/-- The open group is the words that wait for their stage. -/
theorem openGroup_eq (consumed : Consumed before after draft) :
    openGroup before = draft.words.map .word := by
  simp only [openGroup, consumed.groups_eq, List.getLast_append_singleton]

/-- More tokens are consumed with all their targets. -/
theorem append {more : List Token} {next : Draft} (consumed : Consumed before (more ++ after) draft)
    (targeted : Targeted more) (faultless : Faultless (before ++ more) after)
    (remaining : next.tokens = draft.tokens ++ unredirected more)
    (input : next.input = (lastTarget inputTarget? more).or draft.input)
    (output : next.output = (lastTarget outputTarget? more).or draft.output) :
    Consumed (before ++ more) after next where
  targeted := consumed.targeted.append targeted
  faultless := faultless
  remaining := by
    rw [consumed.targeted.unredirected_append, consumed.remaining, remaining]
  input := by rw [consumed.targeted.lastTarget_append, ← consumed.input, input]
  output := by rw [consumed.targeted.lastTarget_append, ← consumed.output, output]

/-- A word joins the open group. -/
theorem word {text : String} (consumed : Consumed before (.word text :: after) draft) :
    Consumed (before ++ [.word text]) after { draft with words := draft.words ++ [text] } := by
  have targeted : Targeted [.word text] := Targeted.nil.cons (by simp)
  apply consumed.append targeted (consumed.faultless.snoc rfl)
  · simp [Draft.tokens, unredirected]
  · rfl
  · rfl

/-- A pipe closes a group that is not empty. -/
theorem pipe {closed : Draft} (consumed : Consumed before (.operator .pipe :: after) draft)
    (closes : draft.close? = some closed) :
    Consumed (before ++ [.operator .pipe]) after closed := by
  have targeted : Targeted [.operator .pipe] := Targeted.nil.cons (by simp [Operator.redirects])
  rcases draft with ⟨stages, _ | ⟨command, arguments⟩, input, output⟩
  · cases closes
  · cases closes
    have sound : faultAt before (.operator .pipe) after = none := by
      simp [faultAt, consumed.openGroup_eq]
    apply consumed.append targeted (consumed.faultless.snoc sound)
    · simp [Draft.tokens, Stage.tokens, Stage.words, unredirected]
    · rfl
    · rfl

/-- A redirection leaves the groups as they are. -/
theorem redirection {kind : Operator} {path : String} {next : Draft}
    (consumed : Consumed before (.operator kind :: .word path :: after) draft)
    (redirects : kind.redirects = true) (remaining : next.tokens = draft.tokens)
    (input : next.input = (inputTarget? (kind, path)).or draft.input)
    (output : next.output = (outputTarget? (kind, path)).or draft.output) :
    Consumed (before ++ [.operator kind, .word path]) after next := by
  have targeted : Targeted [.operator kind, .word path] :=
    (Targeted.nil.cons (by simp)).cons (by simp)
  have sound := faultAt_redirection redirects before path after
  have faultless := (consumed.faultless.snoc sound).snoc rfl
  rw [List.append_assoc] at faultless
  apply consumed.append targeted faultless
  · rw [unredirected_redirection redirects, remaining, unredirected, List.append_nil]
  · rw [lastTarget_redirection inputTarget? redirects, input]
  · rw [lastTarget_redirection outputTarget? redirects, output]

end Consumed

/-- The grammar bears out what was read. -/
def Justified (tokens : List Token) : Except SyntaxFault Pipeline → Prop
  | .ok pipeline => Grammatical tokens ∧ Describes tokens pipeline
  | .error fault => FirstFault tokens fault

/-- At the end the open group is the last stage. -/
theorem Consumed.finish {tokens : List Token} {draft : Draft}
    (consumed : Consumed tokens [] draft) : Justified tokens draft.finish := by
  have groups_eq := consumed.groups_eq
  have openGroup_eq := consumed.openGroup_eq
  rcases draft with ⟨stages, _ | ⟨command, arguments⟩, input, output⟩
  · cases stages with
    | nil =>
        refine .emptyCommand consumed.faultless openGroup_eq ?_
        rw [← operator_mem_unredirected rfl, consumed.remaining]
        exact List.not_mem_nil
    | cons stage stages =>
        refine .emptyStage consumed.faultless openGroup_eq ?_
        rw [← operator_mem_unredirected rfl, consumed.remaining]
        simp [Draft.tokens]
  · have stages_eq :
        groups tokens = (stages ++ [Stage.mk command arguments]).map Stage.tokens := by
      rw [groups_eq, List.map_append]
      rfl
    constructor
    · refine ⟨consumed.faultless.unseparated, consumed.targeted, ?_⟩
      intro group member
      rw [stages_eq] at member
      obtain ⟨stage, _, rfl⟩ := List.mem_map.mp member
      exact List.cons_ne_nil _ _
    · exact ⟨stages_eq.symm, consumed.input, consumed.output⟩

/-- Reading on from a draft is justified by all tokens, those before it and those after it. -/
theorem Consumed.read {before after : List Token} {draft : Draft}
    (consumed : Consumed before after draft) :
    Justified (before ++ after) (read draft after) := by
  -- Each step moves the tokens that it reads from `after` to `before` and keeps `Consumed`.
  fun_induction Pipeline.read draft after generalizing before with
  | case1 draft =>
      rw [List.append_nil]
      exact consumed.finish
  | case2 draft text rest inductionHypothesis =>
      have justified := inductionHypothesis consumed.word
      rwa [List.append_assoc] at justified
  | case3 draft rest unfinished =>
      refine .token rfl consumed.faultless ?_
      rcases draft with ⟨stages, _ | ⟨command, arguments⟩, input, output⟩
      · simp [faultAt, consumed.openGroup_eq]
      · cases unfinished
  | case4 draft rest closed closes inductionHypothesis =>
      have justified := inductionHypothesis (consumed.pipe closes)
      rwa [List.append_assoc] at justified
  | case5 draft path rest inductionHypothesis =>
      have justified := inductionHypothesis (consumed.redirection rfl rfl rfl rfl)
      rwa [List.append_assoc] at justified
  | case6 draft path rest inductionHypothesis =>
      have justified := inductionHypothesis (consumed.redirection rfl rfl rfl rfl)
      rwa [List.append_assoc] at justified
  | case7 draft path rest inductionHypothesis =>
      have justified := inductionHypothesis (consumed.redirection rfl rfl rfl rfl)
      rwa [List.append_assoc] at justified
  | case8 draft rest => exact .token rfl consumed.faultless rfl
  | case9 draft operator rest =>
      refine .token rfl consumed.faultless ?_
      cases operator <;> rcases rest with _ | ⟨_ | _, rest⟩ <;> simp_all [faultAt]

/-- Tokens describe at most one pipeline. -/
theorem Describes.unique {tokens : List Token} {first second : Pipeline}
    (describesFirst : Describes tokens first) (describesSecond : Describes tokens second) :
    first = second := by
  have stages_eq := List.map_injective_iff.mpr Stage.tokens_injective
    (describesFirst.stages.trans describesSecond.stages.symm)
  have input_eq := describesFirst.input.trans describesSecond.input.symm
  have output_eq := describesFirst.output.trans describesSecond.output.symm
  rcases first with ⟨stages, input, output⟩
  rcases second with ⟨otherStages, otherInput, otherOutput⟩
  cases stages_eq
  cases input_eq
  cases output_eq
  rfl

/-- What is read from all tokens is justified by them. -/
theorem ofTokens_justified (tokens : List Token) : Justified tokens (ofTokens tokens) := by
  have justified := (Consumed.empty tokens).read
  rwa [List.nil_append] at justified

/-- Reading gives the pipeline that the tokens describe, or else the leftmost fault. -/
theorem ofTokens_grammar (tokens : List Token) :
    ((∃ pipeline, ofTokens tokens = .ok pipeline) ↔ Grammatical tokens) ∧
      (∀ pipeline, ofTokens tokens = .ok pipeline ↔
        Grammatical tokens ∧ Describes tokens pipeline) ∧
      ∀ fault, ofTokens tokens = .error fault ↔ FirstFault tokens fault := by
  have justified := ofTokens_justified tokens
  cases result : ofTokens tokens with
  | ok pipeline =>
      rw [result] at justified
      obtain ⟨grammatical, describes⟩ := justified
      refine ⟨by simp [grammatical], fun other => ⟨?_, ?_⟩, fun fault => ⟨nofun, ?_⟩⟩
      · rintro ⟨⟩
        exact ⟨grammatical, describes⟩
      · rintro ⟨_, otherDescribes⟩
        rw [describes.unique otherDescribes]
      · intro isFirst
        exact absurd isFirst (grammatical.not_firstFault fault)
  | error fault =>
      rw [result] at justified
      have ungrammatical : ¬Grammatical tokens :=
        fun grammatical => grammatical.not_firstFault fault justified
      refine ⟨by simp [ungrammatical], by simp [ungrammatical], fun other => ⟨?_, ?_⟩⟩
      · rintro ⟨⟩
        exact justified
      · intro isFirst
        rw [FirstFault.unique justified isFirst]

end Pipeline

end TapeShell
