/-
This file describes a reader that moves over the arguments of a condition in place, call by call,
and shows what each call needs and gives.
-/

import TapeShell.Proofs.ThreeWords

namespace TapeShell.Condition

/-- What the reader can be asked for. A chain goes on behind the condition on its left. -/
inductive Rule where
  | chain (connective : Connective)
  | chainFrom (connective : Connective) (left : Condition)
  | negation
  | primary

/-- A call ends behind the condition that it has read, or it fails at an argument. -/
inductive Exit where
  | read (condition : Condition) (position : Nat)
  | failed (fault : Fault)
  | exhausted (previous : String)
  | unknown (word : String)
  | overrun

/-- A plan comes to an exit, or it calls a rule and goes on behind it. -/
inductive Plan where
  | done (exit : Exit)
  | call (rule : Rule) (position : Nat) (next : Condition → Nat → Plan)

/-- The last call of a plan answers for it. -/
def Plan.last (rule : Rule) (position : Nat) : Plan :=
  .call rule position fun condition here => .done (.read condition here)

section Plans

variable (arguments : List String) (position : Nat)

/-- Such a sign and an operand stand behind the argument at this position. -/
def signAt (isSign : String → Bool) : Bool :=
  arguments[position + 1]?.any isSign && arguments[position + 2]?.isSome

/-- A relation stands behind the argument at this position. -/
def relationAt : Bool :=
  signAt arguments position isRelation

/-- A connective stands behind the argument at this position. -/
def connectiveAt : Bool :=
  signAt arguments position isConnective

/-- A comparison takes three arguments. -/
def comparisonPlan (first : String) : Plan :=
  match arguments[position + 1]?, arguments[position + 2]? with
  | some middle, some right =>
      match comparison? first middle right with
      | some (.ok condition) => .done (.read condition (position + 3))
      | some (.error fault) => .done (.failed fault)
      | none => .done (.unknown middle)
  | _, _ => .done .overrun

/-- A group takes a whole condition and the parenthesis behind it. -/
def groupPlan : Plan :=
  .call (.chain .either) (position + 1) fun inner here =>
    if arguments[here]? = some ")" then .done (.read (.group inner) (here + 1))
    else .done (.failed .unclosedGroup)

/-- A text takes one argument, and a check takes two. -/
def textPlan (first : String) : Plan :=
  match textCheck? first, arguments[position + 1]? with
  | some kind, some value =>
      if connectiveAt arguments position then .done (.read (.text first) (position + 1))
      else .done (.read (.check kind value) (position + 2))
  | _, _ => .done (.read (.text first) (position + 1))

/-- A comparison comes before a group, and a group before a text. -/
def primaryPlan : Plan :=
  match arguments[position]? with
  | none => .done (.exhausted (arguments[position - 1]?.getD ""))
  | some first =>
      if relationAt arguments position then comparisonPlan arguments position first
      else if first = "(" ∧ arguments[position + 1]?.isSome then groupPlan arguments position
      else textPlan arguments position first

/-- A sign of negation takes the condition behind it. -/
def negationPlan : Plan :=
  if arguments[position]? = some "!" ∧ arguments[position + 1]?.isSome ∧
      !relationAt arguments position ∧ !connectiveAt arguments position then
    .call .negation (position + 1) fun inner here => .done (.read (.negation inner) here)
  else .last .primary position

end Plans

/-- A conjunction binds its operands more than a disjunction does. -/
def Rule.operandOf : Connective → Rule
  | .both => .negation
  | .either => .chain .both

/-- The reader follows this plan where it is asked for the rule. -/
def Rule.plan (arguments : List String) (position : Nat) : Rule → Plan
  | .chain connective =>
      .call (.operandOf connective) position fun left here =>
        .last (.chainFrom connective left) here
  | .chainFrom connective left =>
      if arguments[position]? = some connective.word then
        if arguments[position + 1]? = none then .done (.failed (.missingOperand connective.word))
        else .call (.operandOf connective) (position + 1) fun right here =>
          .last (.chainFrom connective (connective.join left right)) here
      else .done (.read left position)
  | .negation => negationPlan arguments position
  | .primary => primaryPlan arguments position

/-- A plan comes to this exit after finitely many calls. A call that fails ends the plan. -/
inductive Runs (arguments : List String) : Plan → Exit → Prop where
  | done (exit : Exit) : Runs arguments (.done exit) exit
  | returned {rule : Rule} {position here : Nat} {next : Condition → Nat → Plan}
      {condition : Condition} {exit : Exit}
      (call : Runs arguments (rule.plan arguments position) (.read condition here))
      (later : Runs arguments (next condition here) exit) :
      Runs arguments (.call rule position next) exit
  | stopped {rule : Rule} {position : Nat} {next : Condition → Nat → Plan} {exit : Exit}
      (call : Runs arguments (rule.plan arguments position) exit)
      (unread : ∀ condition here, exit ≠ .read condition here) :
      Runs arguments (.call rule position next) exit

/-- A plan makes this call, at whatever depth. -/
inductive Makes (arguments : List String) : Plan → Rule → Nat → Prop where
  | here (rule : Rule) (position : Nat) (next : Condition → Nat → Plan) :
      Makes arguments (.call rule position next) rule position
  | within {rule other : Rule} {position place : Nat} {next : Condition → Nat → Plan}
      (below : Makes arguments (rule.plan arguments position) other place) :
      Makes arguments (.call rule position next) other place
  | behind {rule other : Rule} {position here place : Nat} {next : Condition → Nat → Plan}
      {condition : Condition}
      (call : Runs arguments (rule.plan arguments position) (.read condition here))
      (later : Makes arguments (next condition here) other place) :
      Makes arguments (.call rule position next) other place

/-- A plan has at most one exit. -/
theorem Runs.unique {arguments : List String} {plan : Plan} {exit other : Exit}
    (first : Runs arguments plan exit) (second : Runs arguments plan other) : exit = other := by
  induction first generalizing other with
  | done exit =>
      cases second
      rfl
  | returned call later callUnique laterUnique =>
      cases second with
      | returned otherCall otherLater =>
          cases callUnique otherCall
          exact laterUnique otherLater
      | stopped otherCall unread => exact absurd (callUnique otherCall).symm (unread _ _)
  | stopped call unread callUnique =>
      cases second with
      | returned otherCall otherLater => exact absurd (callUnique otherCall) (unread _ _)
      | stopped otherCall otherUnread => exact callUnique otherCall

/-- The arguments show the reason for the fault. -/
def Fault.Explained (arguments : List String) : Fault → Prop
  | .missingBracket => False
  | .unclosedGroup => "(" ∈ arguments
  | .missingOperand word => (word = "-a" ∨ word = "-o") ∧ arguments.getLast? = some word
  | .unexpectedArgument word => word ∈ arguments ∧ word ≠ "-a" ∧ word ≠ "-o"
  | .notAnInteger word => integer? word = none ∧
      ∃ (position : Nat) (relation : NumberRelation),
        arguments[position + 1]? = some relation.word ∧
          (arguments[position]? = some word ∨ arguments[position + 2]? = some word)

namespace Rule

/-- The rule takes so many arguments at least. -/
def least : Rule → Nat
  | .chainFrom _ _ => 0
  | _ => 1

/-- These words cannot stand behind what the rule has read. -/
def stops : Rule → List String
  | .chain .both | .chainFrom .both _ => ["-a"]
  | .chain .either | .chainFrom .either _ => ["-a", "-o"]
  | .negation | .primary => []

/-- The rule may be asked for at this position. -/
def Needs (arguments : List String) (position : Nat) (rule : Rule) : Prop :=
  position + rule.least ≤ arguments.length ∧
    ∀ left, rule = .chainFrom .either left → arguments[position]? ≠ some "-a"

/-- The rule may come to this exit. -/
def Gives (arguments : List String) (position : Nat) (rule : Rule) : Exit → Prop
  | .read _ here => position + rule.least ≤ here ∧ here ≤ arguments.length ∧
      ∀ word ∈ rule.stops, arguments[here]? ≠ some word
  | .failed fault => fault.Explained arguments
  | .exhausted _ | .unknown _ | .overrun => False

end Rule

/-- Whatever the calls give, they are allowed, and the plan comes to such an exit. -/
def Plan.Meets (arguments : List String) (expected : Exit → Prop) : Plan → Prop
  | .done exit => expected exit
  | .call rule position next => rule.Needs arguments position ∧
      (∀ exit, rule.Gives arguments position exit →
        (∀ condition here, exit ≠ .read condition here) → expected exit) ∧
      ∀ condition here, rule.Gives arguments position (.read condition here) →
        (next condition here).Meets arguments expected

section Contract

variable {arguments : List String} {rule : Rule} {position : Nat}

/-- A failure means the same for every rule. -/
theorem Rule.gives_of_stopped {other : Rule} {place : Nat} {exit : Exit}
    (gives : other.Gives arguments place exit)
    (unread : ∀ condition here, exit ≠ .read condition here) :
    rule.Gives arguments position exit := by
  cases exit with
  | read condition here => exact absurd rfl (unread condition here)
  | failed fault => exact gives
  | exhausted previous => exact gives
  | unknown word => exact gives
  | overrun => exact gives

/-- A plan may call another rule and go on with what it gives. -/
theorem Plan.meets_call {other : Rule} {place : Nat} {next : Condition → Nat → Plan}
    (needs : other.Needs arguments place)
    (later : ∀ condition here, other.Gives arguments place (.read condition here) →
      (next condition here).Meets arguments (rule.Gives arguments position)) :
    (Plan.call other place next).Meets arguments (rule.Gives arguments position) :=
  ⟨needs, fun _ gives unread => Rule.gives_of_stopped gives unread, later⟩

/-- The last call answers for a plan if its rule promises as much. -/
theorem Plan.meets_last {other : Rule} {place : Nat} (needs : other.Needs arguments place)
    (farther : position + rule.least ≤ place + other.least)
    (stricter : ∀ word ∈ rule.stops, word ∈ other.stops) :
    (Plan.last other place).Meets arguments (rule.Gives arguments position) := by
  apply meets_call needs
  rintro condition here ⟨forward, inside, stopped⟩
  exact ⟨Nat.le_trans farther forward, inside,
    fun word member => stopped word (stricter word member)⟩

/-- An argument without another one behind it is the last. -/
theorem getLast?_of_getElem? {word : String} (found : arguments[position]? = some word)
    (nothing : arguments[position + 1]? = none) : arguments.getLast? = some word := by
  have inside := (List.getElem?_eq_some_iff.mp found).1
  have outside := List.getElem?_eq_none_iff.mp nothing
  rw [List.getLast?_eq_getElem?, ← found]
  congr 1
  omega

/-- Only a relation in the middle makes a comparison. -/
theorem isSome_comparison? (left middle right : String) :
    (comparison? left middle right).isSome = isRelation middle := by
  rw [comparison?, isRelation]
  cases textRelation? middle <;> simp

namespace Rule

variable {connective : Connective}

/-- An operand takes at least one argument. -/
@[simp]
theorem least_operandOf : (operandOf connective).least = 1 := by
  cases connective <;> rfl

/-- An operand may be asked for before any argument. -/
theorem needs_operandOf (inside : position < arguments.length) :
    (operandOf connective).Needs arguments position := by
  cases connective <;> exact ⟨inside, by simp [operandOf]⟩

/-- A chain may go on behind each of its operands. -/
theorem needs_chainFrom {left right : Condition} {here : Nat}
    (gives : (operandOf connective).Gives arguments position (.read right here)) :
    (chainFrom connective left).Needs arguments here := by
  refine ⟨gives.2.1, ?_⟩
  rintro _ same
  cases same
  exact gives.2.2 "-a" (by simp [operandOf, stops])

/-- A chain keeps to its rule. -/
theorem meets_chain (needs : (chain connective).Needs arguments position) :
    ((chain connective).plan arguments position).Meets arguments
      ((chain connective).Gives arguments position) := by
  apply Plan.meets_call (needs_operandOf needs.1)
  intro left here gives
  apply Plan.meets_last (needs_chainFrom gives)
  · have forward := gives.1
    rwa [least_operandOf] at forward
  · cases connective <;> simp [stops]

/-- The rest of a chain keeps to its rule. -/
theorem meets_chainFrom {left : Condition}
    (needs : (chainFrom connective left).Needs arguments position) :
    ((chainFrom connective left).plan arguments position).Meets arguments
      ((chainFrom connective left).Gives arguments position) := by
  rw [plan]
  split
  next joined =>
    split
    next nothing =>
      refine ⟨?_, getLast?_of_getElem? joined nothing⟩
      cases connective <;> simp [Connective.word]
    next something =>
      have inside : position + 1 < arguments.length := by
        rwa [List.getElem?_eq_none_iff, Nat.not_le] at something
      apply Plan.meets_call (needs_operandOf inside)
      intro right here gives
      apply Plan.meets_last (needs_chainFrom gives)
      · have forward := gives.1
        rw [least_operandOf] at forward
        exact Nat.le_trans (by simp only [least]; omega) forward
      · cases connective <;> simp [stops]
  next apart =>
    refine ⟨Nat.le_refl _, needs.1, ?_⟩
    cases connective with
    | both => simpa [stops, Connective.word] using apart
    | either => simpa [stops] using ⟨needs.2 left rfl, apart⟩

/-- A negation keeps to its rule. -/
theorem meets_negation (needs : negation.Needs arguments position) :
    (negation.plan arguments position).Meets arguments (negation.Gives arguments position) := by
  rw [plan, negationPlan]
  split
  next negates =>
    have inside : position + 1 < arguments.length := by simpa using negates.2.1
    apply Plan.meets_call ⟨inside, by simp⟩
    rintro inner here ⟨forward, within, -⟩
    exact ⟨by simp only [least] at forward ⊢; omega, within, by simp [stops]⟩
  next => exact Plan.meets_last ⟨needs.1, by simp⟩ (Nat.le_refl _) (by simp [stops])

/-- Only an operand of a numeric relation is refused in a comparison. -/
theorem explained_of_comparison? {first middle right : String} {fault : Fault}
    (here : arguments[position]? = some first) (between : arguments[position + 1]? = some middle)
    (behind : arguments[position + 2]? = some right)
    (refused : comparison? first middle right = some (.error fault)) :
    fault.Explained arguments := by
  rw [comparison?] at refused
  cases textual : textRelation? middle with
  | some relation =>
      rw [textual] at refused
      cases refused
  | none =>
      rw [textual] at refused
      obtain ⟨relation, numeric, read⟩ := Option.map_eq_some_iff.mp refused
      obtain rfl := word_of_numberRelation? numeric
      cases leftRead : integer? first with
      | none =>
          rw [integer, leftRead] at read
          cases read
          exact ⟨leftRead, position, relation, between, .inl here⟩
      | some leftNumber =>
          rw [integer, leftRead] at read
          cases rightRead : integer? right with
          | none =>
              rw [integer, rightRead] at read
              cases read
              exact ⟨rightRead, position, relation, between, .inr behind⟩
          | some rightNumber =>
              rw [integer, rightRead] at read
              cases read

/-- A comparison keeps to the rule of a primary condition. -/
theorem meets_comparisonPlan {first : String} (here : arguments[position]? = some first)
    (related : relationAt arguments position = true) :
    (comparisonPlan arguments position first).Meets arguments
      (primary.Gives arguments position) := by
  simp only [relationAt, signAt, Bool.and_eq_true, Option.any_eq_true] at related
  obtain ⟨⟨middle, between, relation⟩, something⟩ := related
  obtain ⟨right, behind⟩ := Option.isSome_iff_exists.mp something
  simp only [comparisonPlan, between, behind]
  cases compared : comparison? first middle right with
  | none =>
      have related := isSome_comparison? first middle right
      rw [compared, relation] at related
      cases related
  | some result =>
      cases result with
      | ok condition =>
          have inside := (List.getElem?_eq_some_iff.mp behind).1
          exact ⟨Nat.add_le_add_left (by decide) _, inside, by simp [stops]⟩
      | error fault => exact explained_of_comparison? here between behind compared

/-- A group keeps to the rule of a primary condition. -/
theorem meets_groupPlan (opened : arguments[position]? = some "(")
    (something : arguments[position + 1]?.isSome = true) :
    (groupPlan arguments position).Meets arguments (primary.Gives arguments position) := by
  have inside : position + 1 < arguments.length := by simpa using something
  apply Plan.meets_call ⟨inside, by simp⟩
  rintro inner here ⟨forward, within, -⟩
  split
  next closed =>
    have before := (List.getElem?_eq_some_iff.mp closed).1
    exact ⟨by simp only [least] at forward ⊢; omega, before, by simp [stops]⟩
  next => exact List.mem_of_getElem? opened

/-- A text or a check keeps to the rule of a primary condition. -/
theorem meets_textPlan {first : String} (here : arguments[position]? = some first) :
    (textPlan arguments position first).Meets arguments (primary.Gives arguments position) := by
  have inside := (List.getElem?_eq_some_iff.mp here).1
  have asText : primary.Gives arguments position (.read (.text first) (position + 1)) :=
    ⟨Nat.le_refl _, inside, by simp [stops]⟩
  rw [textPlan]
  split
  next kind value checked found =>
    split
    next => exact asText
    next =>
      have behind := (List.getElem?_eq_some_iff.mp found).1
      exact ⟨Nat.le_succ _, behind, by simp [stops]⟩
  next => exact asText

/-- A primary condition keeps to its rule. -/
theorem meets_primary (needs : primary.Needs arguments position) :
    (primary.plan arguments position).Meets arguments (primary.Gives arguments position) := by
  rw [plan, primaryPlan]
  split
  next nothing => exact absurd needs.1 (Nat.not_lt.mpr (List.getElem?_eq_none_iff.mp nothing))
  next first here =>
    split
    next related => exact meets_comparisonPlan here related
    next =>
      split
      next opened => exact meets_groupPlan (opened.1 ▸ here) opened.2
      next => exact meets_textPlan here

end Rule

/-- Every rule keeps its promise if the rules that it calls do. -/
theorem Rule.meets (needs : rule.Needs arguments position) :
    (rule.plan arguments position).Meets arguments (rule.Gives arguments position) := by
  cases rule with
  | chain connective => exact meets_chain needs
  | chainFrom connective left => exact meets_chainFrom needs
  | negation => exact meets_negation needs
  | primary => exact meets_primary needs

/-- A plan that keeps to the rules comes to an expected exit. -/
theorem Runs.expected {plan : Plan} {exit : Exit} (runs : Runs arguments plan exit)
    {expected : Exit → Prop} (meets : plan.Meets arguments expected) : expected exit := by
  induction runs generalizing expected with
  | done exit => exact meets
  | returned call later callExpected laterExpected =>
      obtain ⟨needs, -, next⟩ := meets
      exact laterExpected (next _ _ (callExpected (Rule.meets needs)))
  | stopped call unread callExpected =>
      obtain ⟨needs, stopped, -⟩ := meets
      exact stopped _ (callExpected (Rule.meets needs)) unread

/-- Every call of such a plan is made where its rule may be asked for. -/
theorem Makes.needs {plan : Plan} (makes : Makes arguments plan rule position)
    {expected : Exit → Prop} (meets : plan.Meets arguments expected) :
    rule.Needs arguments position := by
  induction makes generalizing expected with
  | here rule position next => exact meets.1
  | within below belowNeeds => exact belowNeeds (Rule.meets meets.1)
  | behind call later laterNeeds =>
      exact laterNeeds (meets.2.2 _ _ (call.expected (Rule.meets meets.1)))

end Contract

end TapeShell.Condition
