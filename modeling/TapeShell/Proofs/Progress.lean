/-
This file shows that the reader that moves over the arguments in place gives the answer. It comes to
an end, never looks behind the last argument, and fails only for reasons that the arguments show.
-/

import TapeShell.Proofs.Cursor

namespace TapeShell.Condition

/-- The plan comes to what was read, or to the same fault. -/
def Plan.Answers (arguments : List String) (plan : Plan) :
    Except Fault (Condition × List String) → Prop
  | .error fault => Runs arguments plan (.failed fault)
  | .ok (condition, rest) =>
      ∃ here, arguments.drop here = rest ∧ Runs arguments plan (.read condition here)

section Agreement

variable {arguments rest : List String} {position : Nat} {rule : Rule} {first : String}
  {next : Condition → Nat → Plan} {result : Except Fault (Condition × List String)}

/-- A call that fails answers for the plan, which otherwise goes on. -/
theorem Plan.answers_call {operand : Except Fault (Condition × List String)}
    (call : (rule.plan arguments position).Answers arguments operand)
    (failed : ∀ fault, operand = .error fault → result = .error fault)
    (later : ∀ condition remaining here, operand = .ok (condition, remaining) →
      arguments.drop here = remaining → (next condition here).Answers arguments result) :
    (Plan.call rule position next).Answers arguments result := by
  cases operand with
  | error fault =>
      rw [failed fault rfl]
      exact .stopped call (by simp)
  | ok reading =>
      obtain ⟨condition, remaining⟩ := reading
      obtain ⟨here, ahead, runs⟩ := call
      have answers := later condition remaining here rfl ahead
      cases result with
      | error fault => exact .returned runs answers
      | ok final =>
          obtain ⟨stop, left, finalRuns⟩ := answers
          exact ⟨stop, left, .returned runs finalRuns⟩

/-- A plan with one call answers as the call does. -/
theorem Plan.answers_last (call : (rule.plan arguments position).Answers arguments result) :
    (Plan.last rule position).Answers arguments result := by
  apply answers_call call fun _ failed => failed
  rintro condition remaining here rfl ahead
  exact ⟨here, ahead, .done _⟩

/-- The argument at a position is the first of those from there on. -/
theorem getElem?_of_drop (behind : arguments.drop position = rest) :
    arguments[position]? = rest.head? := by
  rw [← behind, List.head?_drop]

theorem getElem?_first (behind : arguments.drop position = first :: rest) :
    arguments[position]? = some first :=
  getElem?_of_drop behind

/-- Behind the first argument comes the rest. -/
theorem drop_behind (behind : arguments.drop position = first :: rest) :
    arguments.drop (position + 1) = rest := by
  rw [← List.drop_drop, behind]
  rfl

/-- Before the end there is an argument. -/
theorem exists_drop (inside : position < arguments.length) :
    ∃ first rest, arguments.drop position = first :: rest :=
  ⟨_, _, List.drop_eq_getElem_cons inside⟩

/-- The reader in place looks at the same two words ahead. -/
theorem signAt_eq (isSign : String → Bool) (behind : arguments.drop position = first :: rest) :
    signAt arguments position isSign = signFollows isSign rest := by
  have next := getElem?_of_drop (drop_behind behind)
  cases rest with
  | nil => simp [signAt, next, signFollows]
  | cons word more =>
      have last := getElem?_of_drop (drop_behind (drop_behind behind))
      cases more <;> simp [signAt, next, last, signFollows]

theorem relationAt_eq (behind : arguments.drop position = first :: rest) :
    relationAt arguments position = relationFollows rest :=
  signAt_eq isRelation behind

theorem connectiveAt_eq (behind : arguments.drop position = first :: rest) :
    connectiveAt arguments position = connectiveFollows rest :=
  signAt_eq isConnective behind

/-- The plan for a text answers as its reader. -/
theorem answers_readText (behind : arguments.drop position = first :: rest) :
    (textPlan arguments position first).Answers arguments
      (outcome (.ok (readText first rest))) := by
  have asText : (Plan.done (.read (.text first) (position + 1))).Answers arguments
      (.ok (.text first, rest)) := ⟨_, drop_behind behind, .done _⟩
  have following := getElem?_of_drop (drop_behind behind)
  cases checked : textCheck? first with
  | none => simpa [textPlan, readText, checked, outcome, Except.map] using asText
  | some kind =>
      cases rest with
      | nil => simpa [textPlan, readText, checked, following, outcome, Except.map] using asText
      | cons value remaining =>
          by_cases joined : connectiveFollows (value :: remaining) = true
          · simpa [textPlan, readText, checked, following, connectiveAt_eq behind, joined, outcome,
              Except.map] using asText
          · have asCheck : (Plan.done (.read (.check kind value) (position + 2))).Answers arguments
                (.ok (.check kind value, remaining)) :=
              ⟨_, drop_behind (drop_behind behind), .done _⟩
            simpa [textPlan, readText, checked, following, connectiveAt_eq behind, joined, outcome,
              Except.map] using asCheck

end Agreement

section Ends

variable {connective : Connective} {left : Condition} {arguments words : List String}
  {position : Nat}

/-- A chain ends before another word. -/
theorem answers_stop (stops : words.head? ≠ some connective.word)
    (behind : arguments.drop position = words) :
    ((Rule.chainFrom connective left).plan arguments position).Answers arguments
      (outcome (continueChain connective left words)) := by
  rw [Rule.plan, if_neg (getElem?_of_drop behind ▸ stops), continueChain_stop stops]
  exact ⟨position, behind, .done _⟩

/-- A chain fails where its last operand is missing. -/
theorem answers_dangling (behind : arguments.drop position = [connective.word]) :
    ((Rule.chainFrom connective left).plan arguments position).Answers arguments
      (outcome (continueChain connective left [connective.word])) := by
  rw [Rule.plan, if_pos (getElem?_first behind),
    if_pos (by simp [getElem?_of_drop (drop_behind behind)]), continueChain_dangling]
  exact .done _

end Ends

section Primaries

variable {arguments rest : List String} {position : Nat} {first : String}

/-- Where a relation follows, the plan is a comparison. -/
theorem plan_comparison (behind : arguments.drop position = first :: rest)
    (related : relationFollows rest = true) :
    Rule.primary.plan arguments position = comparisonPlan arguments position first := by
  rw [Rule.plan, primaryPlan, getElem?_first behind]
  simp only [relationAt_eq behind, if_pos related]

/-- Where a parenthesis opens, the plan is a group. -/
theorem plan_group (behind : arguments.drop position = "(" :: rest)
    (unrelated : relationFollows rest = false) (inside : rest ≠ []) :
    Rule.primary.plan arguments position = groupPlan arguments position := by
  have something : arguments[position + 1]?.isSome = true := by
    rw [getElem?_of_drop (drop_behind behind)]
    simpa using inside
  rw [Rule.plan, primaryPlan, getElem?_first behind]
  simp [relationAt_eq behind, unrelated, something]

/-- In every other case the plan is a text. -/
theorem plan_text (behind : arguments.drop position = first :: rest)
    (unrelated : relationFollows rest = false) (apart : first = "(" → rest = []) :
    Rule.primary.plan arguments position = textPlan arguments position first := by
  have noGroup : ¬(first = "(" ∧ arguments[position + 1]?.isSome = true) := by
    rintro ⟨opening, something⟩
    rw [getElem?_of_drop (drop_behind behind), apart opening] at something
    cases something
  rw [Rule.plan, primaryPlan, getElem?_first behind]
  simp only [relationAt_eq behind, unrelated, Bool.false_eq_true, if_false, if_neg noGroup]

/-- The plan for a comparison answers as its reader. -/
theorem answers_comparison {middle right : String} {result : Except Fault Condition}
    (behind : arguments.drop position = first :: middle :: right :: rest)
    (compared : comparison? first middle right = some result) :
    (comparisonPlan arguments position first).Answers arguments
      (outcome (readPrimary first (middle :: right :: rest))) := by
  rw [comparisonPlan, getElem?_first (drop_behind behind),
    getElem?_first (drop_behind (drop_behind behind)), readPrimary]
  simp only [compared]
  cases result with
  | ok condition => exact ⟨_, drop_behind (drop_behind (drop_behind behind)), .done _⟩
  | error fault => exact .done _

end Primaries

-- The proofs call each other as the readers do, and end for the same reason.
mutual

/-- The plan for an operand answers as its reader. -/
theorem answers_readOperand {arguments : List String} (connective : Connective) (first : String)
    (rest : List String) (position : Nat) (behind : arguments.drop position = first :: rest) :
    ((Rule.operandOf connective).plan arguments position).Answers arguments
      (outcome (readOperand connective first rest)) := by
  cases connective with
  | both =>
      rw [readOperand_both]
      exact answers_readNegation first rest position behind
  | either =>
      rw [readOperand_either]
      exact answers_readChain .both first rest position behind
termination_by 8 * rest.length + 5 - 2 * connective.strength
decreasing_by all_goals simp only [Connective.strength]; omega

/-- The plan for a chain answers as its reader. -/
theorem answers_readChain {arguments : List String} (connective : Connective) (first : String)
    (rest : List String) (position : Nat) (behind : arguments.drop position = first :: rest) :
    ((Rule.chain connective).plan arguments position).Answers arguments
      (outcome (readChain connective first rest)) := by
  have start := answers_readOperand connective first rest position behind
  apply Plan.answers_call start fun _ => readChain_of_error
  intro left remaining here found ahead
  have bounded := (eq_ok_of_outcome found).1
  rw [readChain_of_operand found]
  exact Plan.answers_last (answers_continueChain connective left remaining here ahead)
termination_by 8 * rest.length + 6 - 2 * connective.strength
decreasing_by all_goals cases connective <;> simp only [Connective.strength] <;> omega

/-- The plan for the rest of a chain answers as its reader. -/
theorem answers_continueChain {arguments : List String} (connective : Connective)
    (left : Condition) : (words : List String) → (position : Nat) →
    arguments.drop position = words →
    ((Rule.chainFrom connective left).plan arguments position).Answers arguments
      (outcome (continueChain connective left words))
  | [], position, behind => answers_stop (by simp) behind
  | [word], position, behind => by
      by_cases joined : word = connective.word
      · subst joined
        exact answers_dangling behind
      · exact answers_stop (by simpa using joined) behind
  | word :: next :: more, position, behind => by
      by_cases joined : word = connective.word
      · subst joined
        have operand := answers_readOperand connective next more (position + 1) (drop_behind behind)
        rw [Rule.plan, if_pos (getElem?_first behind),
          if_neg (by simp [getElem?_first (drop_behind behind)])]
        apply Plan.answers_call operand fun _ => continueChain_of_error
        intro right remaining here found ahead
        have bounded := (eq_ok_of_outcome found).1
        rw [continueChain_operand found]
        exact Plan.answers_last (answers_continueChain connective _ remaining here ahead)
      · exact answers_stop (by simpa using joined) behind
termination_by words => 8 * words.length
decreasing_by
  all_goals cases connective <;> simp only [Connective.strength, List.length_cons] <;> omega

/-- The plan for a negation answers as its reader. -/
theorem answers_readNegation {arguments : List String} (first : String) :
    (rest : List String) → (position : Nat) → arguments.drop position = first :: rest →
    (Rule.negation.plan arguments position).Answers arguments
      (outcome (readNegation first rest))
  | [], position, behind => by
      rw [readNegation, Rule.plan, negationPlan,
        if_neg (by simp [getElem?_of_drop (drop_behind behind)])]
      exact Plan.answers_last (answers_readPrimary first [] position behind)
  | next :: more, position, behind => by
      have operand := answers_readNegation next more (position + 1) (drop_behind behind)
      rw [Rule.plan, negationPlan, getElem?_of_drop behind, getElem?_of_drop (drop_behind behind),
        relationAt_eq behind, connectiveAt_eq behind]
      by_cases negates : first = "!" ∧ !relationFollows (next :: more) ∧
          !connectiveFollows (next :: more)
      · rw [if_pos (by simpa using negates)]
        apply Plan.answers_call operand
        · intro fault failed
          rw [readNegation, if_pos negates, eq_error_of_outcome failed]
          rfl
        · intro inner remaining here found ahead
          obtain ⟨bounded, read⟩ := eq_ok_of_outcome found
          rw [readNegation, if_pos negates, read]
          exact ⟨here, ahead, .done _⟩
      · rw [if_neg (by simpa using negates), readNegation, if_neg negates]
        exact Plan.answers_last (answers_readPrimary first (next :: more) position behind)
termination_by rest => 8 * rest.length + 2

/-- The plan for a primary condition answers as its reader. -/
theorem answers_readPrimary {arguments : List String} (first : String) :
    (rest : List String) → (position : Nat) → arguments.drop position = first :: rest →
    (Rule.primary.plan arguments position).Answers arguments (outcome (readPrimary first rest))
  | [], position, behind => by
      rw [readPrimary, plan_text behind rfl (by simp)]
      exact answers_readText behind
  | [next], position, behind => by
      rw [readPrimary]
      split
      next opening =>
        subst opening
        rw [plan_group behind rfl (by simp)]
        exact answers_readGroup next [] position (drop_behind behind)
      next ordinary =>
        rw [plan_text behind rfl (by simp [ordinary])]
        exact answers_readText behind
  | middle :: right :: remaining, position, behind => by
      have related := isSome_comparison? first middle right
      cases compared : comparison? first middle right with
      | some result =>
          rw [compared] at related
          rw [plan_comparison behind related.symm]
          exact answers_comparison behind compared
      | none =>
          rw [compared] at related
          have unrelated : relationFollows (middle :: right :: remaining) = false := related.symm
          rw [readPrimary, compared]
          by_cases opening : first = "("
          · subst opening
            rw [plan_group behind unrelated (by simp)]
            exact answers_readGroup middle (right :: remaining) position (drop_behind behind)
          · rw [plan_text behind unrelated (by simp [opening])]
            simp only [if_neg opening]
            exact answers_readText behind
termination_by rest => 8 * rest.length + 1

/-- The plan for a group answers as its reader. -/
theorem answers_readGroup {arguments : List String} (first : String) (rest : List String)
    (position : Nat) (behind : arguments.drop (position + 1) = first :: rest) :
    (groupPlan arguments position).Answers arguments (outcome (readGroup first rest)) := by
  have inside := answers_readChain .either first rest (position + 1) behind
  apply Plan.answers_call inside fun _ => readGroup_of_error
  intro inner remaining here found ahead
  rw [getElem?_of_drop ahead]
  by_cases closed : remaining.head? = some ")"
  · obtain ⟨more, rfl⟩ := List.head?_eq_some_iff.mp closed
    rw [if_pos closed, readGroup_closed found]
    exact ⟨_, drop_behind ahead, .done _⟩
  · rw [if_neg closed, readGroup_unclosed closed found]
    exact .done _
termination_by 8 * rest.length + 7
decreasing_by simp only [Connective.strength]; omega

end

/-- The whole list is read by the weakest rule from its first argument on. -/
def Plan.start : Plan :=
  .last (.chain .either) 0

/-- The whole list is answered if nothing is left over and nothing overran. -/
def Exit.answer? (arguments : List String) : Exit → Option (Except Fault (Option Condition))
  | .read condition here =>
      match arguments[here]? with
      | none => some (.ok (some condition))
      | some extra => some (.error (.unexpectedArgument extra))
  | .failed fault => some (.error fault)
  | .exhausted previous => some (.error (.missingOperand previous))
  | .unknown word => some (.error (.unexpectedArgument word))
  | .overrun => none

section Whole

variable {arguments : List String} {rule : Rule} {position : Nat}

/-- A plan with an answer comes to an exit. -/
theorem Plan.exists_runs {plan : Plan} {result : Except Fault (Condition × List String)}
    (answers : plan.Answers arguments result) : ∃ exit, Runs arguments plan exit := by
  cases result with
  | error fault => exact ⟨_, answers⟩
  | ok reading =>
      obtain ⟨here, -, runs⟩ := answers
      exact ⟨_, runs⟩

/-- Every call comes to an end. -/
theorem Rule.exists_runs (needs : rule.Needs arguments position) :
    ∃ exit, Runs arguments (rule.plan arguments position) exit := by
  cases rule with
  | chain connective =>
      obtain ⟨first, rest, behind⟩ := exists_drop needs.1
      exact Plan.exists_runs (answers_readChain connective first rest position behind)
  | chainFrom connective left =>
      exact Plan.exists_runs (answers_continueChain connective left _ position rfl)
  | negation =>
      obtain ⟨first, rest, behind⟩ := exists_drop needs.1
      exact Plan.exists_runs (answers_readNegation first rest position behind)
  | primary =>
      obtain ⟨first, rest, behind⟩ := exists_drop needs.1
      exact Plan.exists_runs (answers_readPrimary first rest position behind)

/-- The whole list is read by the rules. -/
theorem Plan.meets_start (given : arguments ≠ []) :
    Plan.start.Meets arguments ((Rule.chain .either).Gives arguments 0) :=
  meets_last ⟨List.length_pos_iff.mpr given, by simp⟩ (Nat.le_refl _) fun _ member => member

/-- The reader that moves in place gives the answer. -/
theorem exists_answer (given : arguments ≠ []) :
    ∃ exit, Runs arguments .start exit ∧ exit.answer? arguments = some (ofArguments arguments) := by
  obtain ⟨first, rest, rfl⟩ := List.exists_cons_of_ne_nil given
  have answers : Plan.start.Answers (first :: rest) (outcome (readChain .either first rest)) :=
    Plan.answers_last (answers_readChain .either first rest 0 rfl)
  have whole := ofArguments_cons first rest
  cases found : outcome (readChain .either first rest) with
  | error fault =>
      rw [found] at answers whole
      exact ⟨.failed fault, answers, by rw [whole]; rfl⟩
  | ok reading =>
      obtain ⟨condition, remaining⟩ := reading
      rw [found] at answers whole
      obtain ⟨here, ahead, runs⟩ := answers
      refine ⟨_, runs, ?_⟩
      rw [Exit.answer?, getElem?_of_drop ahead, whole]
      cases remaining <;> rfl

/-- Every fault shows in the arguments. -/
theorem explained_of_error {fault : Fault} (refused : ofArguments arguments = .error fault) :
    fault.Explained arguments := by
  have given : arguments ≠ [] := by
    rintro rfl
    cases refused
  obtain ⟨exit, runs, answer⟩ := exists_answer given
  have gives := runs.expected (Plan.meets_start given)
  rw [refused] at answer
  cases exit with
  | read condition here =>
      rw [Exit.answer?] at answer
      split at answer
      next => cases answer
      next extra found =>
        cases answer
        refine ⟨List.mem_of_getElem? found, ?_, ?_⟩
        · rintro rfl
          exact gives.2.2 "-a" (by simp [Rule.stops]) found
        · rintro rfl
          exact gives.2.2 "-o" (by simp [Rule.stops]) found
  | failed other =>
      cases answer
      exact gives
  | exhausted previous => exact gives.elim
  | unknown word => exact gives.elim
  | overrun => exact gives.elim

end Whole

/-- Every call starts at an argument and comes to one exit, farther on or at a fault. -/
theorem ofArguments_calls (arguments : List String) :
    (∀ fault, ofArguments arguments = .error fault → fault.Explained arguments) ∧
    (arguments ≠ [] → ∃ exit, Runs arguments .start exit ∧
      exit.answer? arguments = some (ofArguments arguments)) ∧
    (arguments ≠ [] → ∀ rule position, Makes arguments .start rule position →
      position + rule.least ≤ arguments.length ∧
      ∃ exit, (∀ other, Runs arguments (rule.plan arguments position) other ↔ other = exit) ∧
        ((∃ fault, exit = .failed fault) ∨ ∃ condition here, exit = .read condition here ∧
          position + rule.least ≤ here ∧ here ≤ arguments.length)) := by
  refine ⟨fun fault => explained_of_error, exists_answer, ?_⟩
  intro given rule position makes
  have needs := makes.needs (Plan.meets_start given)
  obtain ⟨exit, runs⟩ := Rule.exists_runs needs
  refine ⟨needs.1, exit, fun other => ⟨fun otherRuns => otherRuns.unique runs, ?_⟩, ?_⟩
  · rintro rfl
    exact runs
  · have gives := runs.expected (Rule.meets needs)
    cases exit with
    | read condition here => exact .inr ⟨condition, here, rfl, gives.1, gives.2.1⟩
    | failed fault => exact .inl ⟨fault, rfl⟩
    | exhausted previous => exact gives.elim
    | unknown word => exact gives.elim
    | overrun => exact gives.elim

/-- A group is opened and not closed, but one of its operands is at fault first. -/
def unfinished : List String :=
  ["(", "1", "-lt", "x"]

/-- The unfinished condition is refused for its second operand. -/
theorem ofArguments_calls_unfinished :
    ofArguments unfinished = .error (.notAnInteger "x") ∧
      Fault.Explained unfinished (.notAnInteger "x") ∧
      (∃ exit, Runs unfinished .start exit ∧
        exit.answer? unfinished = some (ofArguments unfinished)) ∧
      Makes unfinished .start .primary 0 ∧
      ∃ exit, ∀ other, Runs unfinished (Rule.primary.plan unfinished 0) other ↔ other = exit := by
  have one : integer? "1" = some 1 := by decide +kernel
  have noInteger : integer? "x" = none := by decide +kernel
  have refused : ofArguments unfinished = .error (.notAnInteger "x") := by
    simp [unfinished, ofArguments, readChain, readOperand, readNegation, readPrimary, readGroup,
      comparison?, textRelation?, numberRelation?, relationFollows, signFollows, isRelation,
      integer, one, noInteger, Except.map, bind, Except.bind]
  have given : unfinished ≠ [] := by simp [unfinished]
  have noSign : Rule.negation.plan unfinished 0 = .last .primary 0 := by
    rw [Rule.plan, negationPlan, if_neg (by simp [unfinished])]
  have makes : Makes unfinished .start .primary 0 :=
    .within (.within (.within (noSign ▸ .here ..)))
  obtain ⟨explained, answered, calls⟩ := ofArguments_calls unfinished
  obtain ⟨exit, only, -⟩ := (calls given .primary 0 makes).2
  exact ⟨refused, explained _ refused, answered given, makes, exit, only⟩

end TapeShell.Condition
