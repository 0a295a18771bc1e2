/-
This file shows that a rendered pipeline is read back unchanged.
-/

import TapeShell.Pipeline.Parser
import TapeShell.Proofs.Quotation

namespace TapeShell

/-- A trimmed string presents the tokens that it is read as, whatever the variables are. -/
structure Presents (text : String) (denoted : List Token) : Prop where
  reads : ∀ lookup, Scanner.ReadsAs lookup text.toList denoted
  uncut : Token.operator .separator ∉ denoted
  trimmed : Text.Trimmed text.toList
  nonempty : text.toList ≠ []

namespace Presents

variable {left right : String} {first second : List Token}

/-- A rendered word presents that word. -/
theorem word (text : String) : Presents (Word.render text) [.word text] :=
  ⟨fun lookup => Word.readsAs_render lookup text, by simp, Word.trimmed_render text,
    Word.render_ne_nil text⟩

/-- A blank joins two presentations. -/
theorem blank (presentsFirst : Presents left first) (presentsSecond : Presents right second) :
    Presents (left ++ " " ++ right) (first ++ second) where
  reads lookup := by
    have reads := (presentsFirst.reads lookup).blank (presentsSecond.reads lookup)
    simpa using reads
  uncut := by simp [presentsFirst.uncut, presentsSecond.uncut]
  trimmed := by
    have trimmed := presentsFirst.trimmed.around presentsSecond.trimmed presentsFirst.nonempty
      presentsSecond.nonempty " ".toList
    simpa using trimmed
  nonempty := by simp [presentsFirst.nonempty]

/-- An operator between blanks joins two presentations. -/
theorem operator {kind : Operator} (uncut : kind ≠ .separator)
    (presentsFirst : Presents left first) (presentsSecond : Presents right second) :
    Presents (left ++ (" " ++ kind.symbol ++ " ") ++ right)
      (first ++ .operator kind :: second) where
  reads lookup := by
    have reads := (presentsFirst.reads lookup).operator kind (presentsSecond.reads lookup)
    simpa using reads
  uncut := by simp [presentsFirst.uncut, presentsSecond.uncut, uncut.symm]
  trimmed := by
    have trimmed := presentsFirst.trimmed.around presentsSecond.trimmed presentsFirst.nonempty
      presentsSecond.nonempty (" " ++ kind.symbol ++ " ").toList
    simpa using trimmed
  nonempty := by simp [presentsFirst.nonempty]

end Presents

namespace Stage

/-- The words of a stage are its command and its arguments. -/
def words (stage : Stage) : List String :=
  stage.command :: stage.arguments

/-- Every word of a stage is one token. -/
def tokens (stage : Stage) : List Token :=
  stage.words.map .word

/-- Rendered words with blanks between them present the words. -/
theorem presents_words (command : String) (arguments : List String) :
    Presents (" ".intercalate ((command :: arguments).map Word.render))
      ((command :: arguments).map .word) := by
  induction arguments generalizing command with
  | nil => simpa using Presents.word command
  | cons argument rest inductionHypothesis =>
      have presents := (Presents.word command).blank (inductionHypothesis argument)
      rwa [List.map_cons, List.map_cons, String.intercalate_cons_cons]

/-- A printed stage presents its tokens. -/
theorem presents_render (stage : Stage) : Presents stage.render stage.tokens :=
  presents_words stage.command stage.arguments

end Stage

namespace Pipeline

/-- These tokens redirect the input. -/
def inputTokens : Option String → List Token
  | none => []
  | some path => [.operator .readFrom, .word path]

/-- These tokens redirect the output. -/
def outputTokens : Option Redirect → List Token
  | none => []
  | some redirect => [.operator redirect.mode.operator, .word redirect.path]

/-- Pipes stand between the stages. -/
def stageTokens (stages : List Stage) : List Token :=
  List.intercalate [.operator .pipe] (stages.map Stage.tokens)

/-- The redirections come after the stages, the input before the output. -/
def tokens (pipeline : Pipeline) : List Token :=
  stageTokens pipeline.stages ++ inputTokens pipeline.input ++ outputTokens pipeline.output

/-- Rendered stages with pipes between them present the stages. -/
theorem presents_stages (stage : Stage) (rest : List Stage) :
    Presents (" | ".intercalate ((stage :: rest).map Stage.render))
      (stageTokens (stage :: rest)) := by
  induction rest generalizing stage with
  | nil => simpa [stageTokens] using stage.presents_render
  | cons next rest inductionHypothesis =>
      have presents := stage.presents_render.operator (show Operator.pipe ≠ .separator by decide)
        (inductionHypothesis next)
      have spaced : " " ++ Operator.pipe.symbol ++ " " = " | " := by decide
      rw [spaced] at presents
      simpa [stageTokens] using presents

/-- The printed input adds its tokens. -/
theorem presents_input {text : String} {denoted : List Token} (input : Option String)
    (presents : Presents text denoted) :
    Presents (text ++ renderInput input) (denoted ++ inputTokens input) := by
  cases input with
  | none => simpa [renderInput, inputTokens] using presents
  | some path =>
      have whole := presents.operator (show Operator.readFrom ≠ .separator by decide) (.word path)
      have spaced : " " ++ Operator.readFrom.symbol ++ " " = " < " := by decide
      rw [spaced] at whole
      rwa [renderInput, ← String.append_assoc]

/-- The printed output adds its tokens. -/
theorem presents_output {text : String} {denoted : List Token} (output : Option Redirect)
    (presents : Presents text denoted) :
    Presents (text ++ renderOutput output) (denoted ++ outputTokens output) := by
  cases output with
  | none => simpa [renderOutput, outputTokens] using presents
  | some redirect =>
      have uncut : redirect.mode.operator ≠ .separator := by cases redirect.mode <;> decide
      have whole := presents.operator uncut (.word redirect.path)
      rwa [renderOutput, Redirect.render, ← String.append_assoc]

/-- A rendered pipeline is read as its tokens. -/
theorem presents_render (pipeline : Pipeline) (staged : pipeline.stages ≠ []) :
    Presents pipeline.render pipeline.tokens := by
  obtain ⟨stage, rest, stages_eq⟩ := List.exists_cons_of_ne_nil staged
  rw [render, tokens, stages_eq]
  exact presents_output _ (presents_input _ (presents_stages stage rest))

/-- Words join the stage that is open. -/
theorem read_words (draft : Draft) (words : List String) (rest : List Token) :
    read draft (words.map .word ++ rest) =
      read { draft with words := draft.words ++ words } rest := by
  induction words generalizing draft with
  | nil => simp
  | cons word words inductionHypothesis =>
      rw [List.map_cons, List.cons_append, read, inductionHypothesis]
      simp

/-- The last stage stays open until a pipe or the end. -/
theorem read_stages (finished : List Stage) (input : Option String) (output : Option Redirect)
    (stages : List Stage) (staged : stages ≠ []) (rest : List Token) :
    read ⟨finished, [], input, output⟩ (stageTokens stages ++ rest) =
      read ⟨finished ++ stages.dropLast, (stages.getLast staged).words, input, output⟩ rest := by
  induction stages generalizing finished with
  | nil => exact absurd rfl staged
  | cons stage others inductionHypothesis =>
      cases others with
      | nil =>
          have reading := read_words ⟨finished, [], input, output⟩ stage.words rest
          simpa [stageTokens, Stage.tokens] using reading
      | cons next others =>
          -- The pipe closes this stage, and the others are read on a draft without open words.
          have opening : stageTokens (stage :: next :: others) ++ rest =
              stage.words.map .word ++
                .operator .pipe :: (stageTokens (next :: others) ++ rest) := by
            simp [stageTokens, Stage.tokens]
          rw [opening, read_words, read]
          have closing : Draft.close? ⟨finished, [] ++ stage.words, input, output⟩ =
              some ⟨finished ++ [stage], [], input, output⟩ := rfl
          rw [closing]
          simp only
          rw [inductionHypothesis (finished ++ [stage]) (List.cons_ne_nil _ _)]
          simp

/-- Redirections at the end leave the open stage as it is. -/
theorem read_redirections (draft : Draft) (fresh : draft.input = none ∧ draft.output = none)
    (input : Option String) (output : Option Redirect) :
    read draft (inputTokens input ++ outputTokens output) =
      Draft.finish { draft with input := input, output := output } := by
  rcases draft with ⟨stages, words, oldInput, oldOutput⟩
  obtain ⟨rfl, rfl⟩ := fresh
  rcases input with _ | path <;> rcases output with _ | ⟨target, _ | _⟩ <;> rfl

/-- The tokens of a pipeline are read as that pipeline. -/
theorem ofTokens_tokens (pipeline : Pipeline) (staged : pipeline.stages ≠ []) :
    ofTokens pipeline.tokens = .ok pipeline := by
  rw [ofTokens, tokens, List.append_assoc, Draft.empty, read_stages _ _ _ _ staged,
    read_redirections _ ⟨rfl, rfl⟩]
  have stages_eq := List.dropLast_append_getLast staged
  simp only [Draft.finish, Draft.close?, Stage.words, List.nil_append]
  rw [stages_eq]

/-- A finished draft has at least the stage that was open. -/
theorem stages_of_finish {draft : Draft} {pipeline : Pipeline}
    (finished : draft.finish = .ok pipeline) : pipeline.stages ≠ [] := by
  rcases draft with ⟨stages, _ | ⟨command, arguments⟩, input, output⟩
  · cases finished
  · cases finished
    exact List.append_ne_nil_of_right_ne_nil _ (List.cons_ne_nil _ _)

/-- Reading never gives a pipeline without stages. -/
theorem stages_of_read (draft : Draft) (denoted : List Token) {pipeline : Pipeline}
    (accepted : read draft denoted = .ok pipeline) : pipeline.stages ≠ [] := by
  fun_induction read draft denoted with
  | case1 draft => exact stages_of_finish accepted
  | case2 draft text rest inductionHypothesis => exact inductionHypothesis accepted
  | case3 draft rest unfinished => cases accepted
  | case4 draft rest closed found inductionHypothesis => exact inductionHypothesis accepted
  | case5 draft path rest inductionHypothesis => exact inductionHypothesis accepted
  | case6 draft path rest inductionHypothesis => exact inductionHypothesis accepted
  | case7 draft path rest inductionHypothesis => exact inductionHypothesis accepted
  | case8 draft rest => cases accepted
  | case9 draft operator rest => cases accepted

/-- A printed pipeline with a stage is read back. -/
theorem ofLine_render_of_stages {pipeline : Pipeline} (staged : pipeline.stages ≠ []) :
    ofLine pipeline.render = .ok pipeline := by
  rw [ofLine, Token.scan, ((pipeline.presents_render staged).reads none).tokens_scan,
    ofTokens_tokens pipeline staged]

/-- A pipeline is read back from its printed text. -/
theorem ofLine_render (pipeline : Pipeline) :
    (pipeline.stages ≠ [] → ofLine pipeline.render = .ok pipeline) ∧
      ∀ line, ofLine line = .ok pipeline →
        pipeline.stages ≠ [] ∧ ofLine pipeline.render = .ok pipeline := by
  refine ⟨ofLine_render_of_stages, fun line accepted => ?_⟩
  have staged := stages_of_read .empty (Token.scan line) accepted
  exact ⟨staged, ofLine_render_of_stages staged⟩

/-- The words of this pipeline are empty or hold quotes, operators and blanks. -/
def awkward : Pipeline :=
  ⟨[⟨"", ["it's", "$HOME;|", "'"]⟩, ⟨"wc", []⟩], some "\u00a0", some ⟨"a\nb", .append⟩⟩

/-- The awkward pipeline is read back, and so is what another line was read as. -/
theorem ofLine_render_awkward :
    awkward.stages ≠ [] ∧ ofLine awkward.render = .ok awkward ∧
      ofLine "wc < 'a b'" = .ok ⟨[⟨"wc", []⟩], some "a b", none⟩ ∧
      ofLine (render ⟨[⟨"wc", []⟩], some "a b", none⟩) = .ok ⟨[⟨"wc", []⟩], some "a b", none⟩ :=
  ⟨by decide, (ofLine_render awkward).1 (by decide), by decide +kernel,
    ((ofLine_render _).2 "wc < 'a b'" (by decide +kernel)).2⟩

end Pipeline

end TapeShell
