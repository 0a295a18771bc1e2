/-
This file shows that every condition that respects precedence is read back from its words.
-/

import TapeShell.Proofs.Condition
import TapeShell.Proofs.Decimal

namespace TapeShell.Condition

/-- These words have a meaning of their own in a condition. -/
def reserved : List String :=
  ["=", "!=", "-eq", "-ne", "-lt", "-le", "-gt", "-ge", "-a", "-o", "!", "(", ")", "-n", "-z"]

/-- No word that stands as an operand is reserved. -/
def Ordinary : Condition → Prop
  | .text value | .check _ value => value ∉ reserved
  | .relate left _ right => left ∉ reserved ∧ right ∉ reserved
  | .compare _ _ _ => True
  | .negation inner | .group inner => inner.Ordinary
  | .both left right | .either left right => left.Ordinary ∧ right.Ordinary

/-- A condition is written with its numbers in decimal. -/
def words : Condition → List String
  | .text value => [value]
  | .check kind value => [kind.word, value]
  | .relate left relation right => [left, relation.word, right]
  | .compare left relation right =>
      [Text.Decimal.renderInt left.toInt, relation.word, Text.Decimal.renderInt right.toInt]
  | .negation inner => "!" :: inner.words
  | .both left right => left.words ++ "-a" :: right.words
  | .either left right => left.words ++ "-o" :: right.words
  | .group inner => "(" :: inner.words ++ [")"]

/-- A number is read back from its decimal form. -/
theorem integer?_renderInt (number : Int64) :
    integer? (Text.Decimal.renderInt number.toInt) = some number := by
  rw [integer?, (Text.Decimal.trimmed_renderInt number.toInt).trimBlanks_eq]
  exact Text.Decimal.signed?_renderInt number

/-- The words of a condition are its text. -/
theorem yields_words (condition : Condition) : condition.Yields condition.words := by
  induction condition with
  | text value => exact .text value
  | check kind value => exact .check kind value
  | relate left relation right => exact .relate left relation right
  | compare left relation right =>
      exact .compare (integer?_renderInt left) relation (integer?_renderInt right)
  | negation inner yields => exact .negation yields
  | both left right yieldsLeft yieldsRight => exact .both yieldsLeft yieldsRight
  | either left right yieldsLeft yieldsRight => exact .either yieldsLeft yieldsRight
  | group inner yields => exact .group yields

/-- This is what a reading says, without the promise about its length. -/
def outcome {limit : Nat} (result : Except Fault (Reading limit)) :
    Except Fault (Condition × List String) :=
  result.map fun reading => (reading.condition, reading.rest)

/-- The promise about the length does not matter. -/
theorem outcome_widen {small large : Nat} (fits : small ≤ large)
    (result : Except Fault (Reading small)) :
    outcome (result.map (Reading.widen fits)) = outcome result := by
  cases result <;> rfl

/-- An outcome comes from a reading with some promise. -/
theorem eq_ok_of_outcome {limit : Nat} {result : Except Fault (Reading limit)}
    {condition : Condition} {rest : List String} (found : outcome result = .ok (condition, rest)) :
    ∃ bounded, result = .ok ⟨condition, rest, bounded⟩ := by
  cases result with
  | error fault => cases found
  | ok reading =>
      cases found
      exact ⟨reading.bounded, rfl⟩

section Steps

variable {connective : Connective} {first next : String} {rest more remaining : List String}
  {left right inner : Condition}

/-- A conjunction joins negations. -/
theorem readOperand_both : readOperand .both first rest = readNegation first rest := by
  rw [readOperand]

/-- A disjunction joins conjunctions. -/
theorem readOperand_either : readOperand .either first rest = readChain .both first rest := by
  rw [readOperand]

/-- A chain goes on behind its first operand. -/
theorem readChain_of_operand
    (found : outcome (readOperand connective first rest) = .ok (left, remaining)) :
    outcome (readChain connective first rest) =
      outcome (continueChain connective left remaining) := by
  obtain ⟨bounded, read⟩ := eq_ok_of_outcome found
  rw [readChain, read]
  exact outcome_widen bounded _

/-- The operand behind a connective is joined to what was read before. -/
theorem continueChain_operand
    (found : outcome (readOperand connective next more) = .ok (right, remaining)) :
    outcome (continueChain connective left (connective.word :: next :: more)) =
      outcome (continueChain connective (connective.join left right) remaining) := by
  obtain ⟨bounded, read⟩ := eq_ok_of_outcome found
  rw [continueChain, if_pos rfl]
  simp only [read]
  exact outcome_widen _ _

/-- A chain ends before every word but its connective. -/
theorem continueChain_stop (stops : rest.head? ≠ some connective.word) :
    outcome (continueChain connective left rest) = .ok (left, rest) := by
  cases rest with
  | nil =>
      rw [continueChain]
      rfl
  | cons word more =>
      have other : word ≠ connective.word := by simpa using stops
      unfold continueChain
      rw [if_neg other]
      rfl

/-- Where no connective follows an operand, it is the whole chain. -/
theorem readChain_of_single
    (found : outcome (readOperand connective first rest) = .ok (left, remaining))
    (stops : remaining.head? ≠ some connective.word) :
    outcome (readChain connective first rest) = .ok (left, remaining) :=
  (readChain_of_operand found).trans (continueChain_stop stops)

/-- What is read as a negation is an operand, unless a stronger connective follows. -/
theorem readOperand_of_negation
    (found : outcome (readNegation first rest) = .ok (left, remaining))
    (apart : connective = .either → remaining.head? ≠ some Connective.both.word) :
    outcome (readOperand connective first rest) = .ok (left, remaining) := by
  rw [← readOperand_both] at found
  cases connective with
  | both => exact found
  | either =>
      rw [readOperand_either]
      exact readChain_of_single found (apart rfl)

/-- A sign of negation counts as such unless the word behind it makes it an operand. -/
theorem readNegation_sign (noRelation : relationFollows (next :: more) = false)
    (noConnective : connectiveFollows (next :: more) = false)
    (found : outcome (readNegation next more) = .ok (inner, remaining)) :
    outcome (readNegation "!" (next :: more)) = .ok (.negation inner, remaining) := by
  obtain ⟨bounded, read⟩ := eq_ok_of_outcome found
  rw [readNegation, if_pos (by simp [noRelation, noConnective])]
  simp only [read]
  rfl

/-- Without a sign of negation a primary condition is read. -/
theorem readNegation_operand (noSign : first ≠ "!") :
    readNegation first rest = readPrimary first rest := by
  cases rest with
  | nil => rw [readNegation]
  | cons next more => rw [readNegation, if_neg (fun negates => noSign negates.1)]

/-- Where no relation follows, nothing is compared. -/
theorem comparison?_eq_none (left : String) {middle right : String}
    (noRelation : relationFollows (middle :: right :: rest) = false) :
    comparison? left middle right = none := by
  obtain ⟨textual, numeric⟩ : textRelation? middle = none ∧ numberRelation? middle = none := by
    simpa [relationFollows, signFollows, isRelation] using noRelation
  simp [comparison?, textual, numeric]

/-- Three words with a relation between them are a comparison. -/
theorem readPrimary_comparison {middle last : String}
    (compared : comparison? first middle last = some (.ok inner)) :
    outcome (readPrimary first (middle :: last :: remaining)) = .ok (inner, remaining) := by
  rw [readPrimary, compared]
  rfl

/-- What is neither a comparison nor a group is a text. -/
theorem readPrimary_text (noParenthesis : first ≠ "(") (noRelation : relationFollows rest = false) :
    outcome (readPrimary first rest) = outcome (.ok (readText first rest)) := by
  match rest with
  | [] => rw [readPrimary]
  | [next] => rw [readPrimary, if_neg noParenthesis]
  | middle :: right :: remaining =>
      rw [readPrimary, comparison?_eq_none first noRelation]
      simp only [if_neg noParenthesis]

/-- A group is read with its closing parenthesis. -/
theorem readGroup_closed
    (found : outcome (readChain .either next more) = .ok (inner, ")" :: remaining)) :
    outcome (readGroup next more) = .ok (.group inner, remaining) := by
  obtain ⟨bounded, read⟩ := eq_ok_of_outcome found
  rw [readGroup, read]
  rfl

/-- Behind an opening parenthesis a group is read, unless a relation follows. -/
theorem readPrimary_group (noRelation : relationFollows (next :: more) = false)
    (found : outcome (readChain .either next more) = .ok (inner, ")" :: remaining)) :
    outcome (readPrimary "(" (next :: more)) = .ok (.group inner, remaining) := by
  cases more with
  | nil =>
      rw [readPrimary, if_pos rfl]
      exact readGroup_closed found
  | cons right others =>
      rw [readPrimary, comparison?_eq_none "(" noRelation]
      exact readGroup_closed found

end Steps

/-- A condition may start with this word. -/
def Leads (word : String) : Prop :=
  textRelation? word = none ∧ numberRelation? word = none ∧ word ≠ "-a" ∧ word ≠ "-o"

instance (word : String) : Decidable (Leads word) :=
  inferInstanceAs (Decidable (_ ∧ _ ∧ _ ∧ _))

/-- A condition may end before these words. -/
inductive Ends : List String → Prop where
  | nothing : Ends []
  | connective (connective : Connective) (rest : List String) : Ends (connective.word :: rest)
  | parenthesis (rest : List String) : Ends (")" :: rest)

/-- No relation ends a condition. -/
theorem Ends.noRelation {rest : List String} (ends : Ends rest) : relationFollows rest = false := by
  cases ends with
  | nothing => rfl
  | connective connective rest => cases connective <;> cases rest <;> rfl
  | parenthesis rest => cases rest <;> rfl

namespace Leads

variable {word : String}

/-- A word that a condition starts with is no relation. -/
theorem noRelation (leads : Leads word) (rest : List String) :
    relationFollows (word :: rest) = false := by
  cases rest with
  | nil => rfl
  | cons next more => simp [relationFollows, signFollows, isRelation, leads.1, leads.2.1]

/-- A word that a condition starts with is no connective. -/
theorem noConnective (leads : Leads word) (rest : List String) :
    connectiveFollows (word :: rest) = false := by
  cases rest with
  | nil => rfl
  | cons next more =>
      simp [connectiveFollows, signFollows, isConnective, leads.2.2.1, leads.2.2.2]

/-- A condition may start with any word that is not reserved. -/
theorem of_not_reserved (ordinary : word ∉ reserved) : Leads word := by
  simp only [reserved, List.mem_cons, not_or] at ordinary
  simp [Leads, textRelation?, numberRelation?, ordinary]

/-- No integer is a reserved word. -/
theorem not_reserved_of_integer? {number : Int64} (read : integer? word = some number) :
    word ∉ reserved := by
  have none : ∀ word ∈ reserved, integer? word = none := by decide +kernel
  intro member
  rw [none word member] at read
  cases read

end Leads

/-- A chain of the connective may end before these words. -/
structure Closes (connective : Connective) (rest : List String) : Prop where
  ends : Ends rest
  apart : connective = .either → rest.head? ≠ some Connective.both.word

/-- A chain of conjunctions ends wherever a condition does. -/
theorem Ends.closes {rest : List String} (ends : Ends rest) : Closes .both rest :=
  ⟨ends, by simp⟩

/-- The condition is read from its words at every level that its strength allows. -/
structure Readable (condition : Condition) (first : String) (tail : List String) : Prop where
  leads : Leads first
  negation : 2 ≤ condition.strength → ∀ rest, Ends rest →
    outcome (readNegation first (tail ++ rest)) = .ok (condition, rest)
  chain : ∀ connective : Connective, connective.strength ≤ condition.strength →
    ∀ rest, Closes connective rest →
      outcome (readChain connective first (tail ++ rest)) =
        outcome (continueChain connective condition rest)

namespace Readable

variable {connective : Connective} {condition inner left right : Condition}
  {first next : String} {tail more : List String}

/-- A chain of conjunctions is one part of a disjunction. -/
theorem ofChain (leads : Leads first) (same : condition.strength = connective.strength)
    (chain : ∀ rest, Closes connective rest →
      outcome (readChain connective first (tail ++ rest)) =
        outcome (continueChain connective condition rest)) :
    Readable condition first tail where
  leads := leads
  negation strong := by cases connective <;> simp [same, Connective.strength] at strong
  chain other binds rest closes := by
    rw [same] at binds
    cases connective with
    | both =>
        cases other with
        | both => exact chain rest closes
        | either =>
            have conjunction := chain rest closes.ends.closes
            rw [continueChain_stop (closes.apart rfl), ← readOperand_either] at conjunction
            exact readChain_of_operand conjunction
    | either =>
        cases other with
        | both => simp [Connective.strength] at binds
        | either => exact chain rest closes

/-- What no connective can break is read at every level. -/
theorem ofNegation (leads : Leads first)
    (negation : ∀ rest, Ends rest →
      outcome (readNegation first (tail ++ rest)) = .ok (condition, rest)) :
    Readable condition first tail where
  leads := leads
  negation _ := negation
  chain _ _ rest closes :=
    readChain_of_operand (readOperand_of_negation (negation rest closes.ends) closes.apart)

/-- What binds more than a connective is read as its operand. -/
theorem operand (readable : Readable condition first tail)
    (binds : connective.strength + 1 ≤ condition.strength) {rest : List String}
    (closes : Closes connective rest) :
    outcome (readOperand connective first (tail ++ rest)) = .ok (condition, rest) := by
  cases connective with
  | both =>
      rw [readOperand_both]
      exact readable.negation binds rest closes.ends
  | either =>
      rw [readOperand_either, readable.chain .both binds rest closes.ends.closes]
      exact continueChain_stop (closes.apart rfl)

/-- A word that is not reserved is read as a text. -/
theorem text (ordinary : first ∉ reserved) : Readable (.text first) first [] := by
  apply ofNegation (.of_not_reserved ordinary)
  intro rest ends
  simp only [reserved, List.mem_cons, not_or] at ordinary
  have noCheck : textCheck? first = none := by simp [textCheck?, ordinary]
  have noSign : first ≠ "!" := by simp [ordinary]
  rw [List.nil_append, readNegation_operand noSign,
    readPrimary_text (by simp [ordinary]) ends.noRelation]
  simp [readText, noCheck, outcome, Except.map]

/-- A check is read from its two words. -/
theorem check (kind : TextCheck) {value : String} (ordinary : value ∉ reserved) :
    Readable (.check kind value) kind.word [value] := by
  have leadsValue : Leads value := .of_not_reserved ordinary
  have found : textCheck? kind.word = some kind := by cases kind <;> rfl
  apply ofNegation (by cases kind <;> decide)
  intro rest ends
  rw [readNegation_operand (by cases kind <;> decide), List.singleton_append,
    readPrimary_text (by cases kind <;> decide) (leadsValue.noRelation rest)]
  simp [readText, found, leadsValue.noConnective, outcome, Except.map]

/-- A comparison is read from its three words. -/
theorem comparison {middle last : String} (operand : first ∉ reserved)
    (compared : comparison? first middle last = some (.ok condition)) :
    Readable condition first [middle, last] := by
  apply ofNegation (.of_not_reserved operand)
  intro rest ends
  have noSign : first ≠ "!" := by
    rintro rfl
    exact operand (by decide)
  rw [readNegation_operand noSign]
  exact readPrimary_comparison compared

/-- A relation between texts is read from its words. -/
theorem relate (relation : TextRelation) {last : String} (operand : first ∉ reserved) :
    Readable (.relate first relation last) first [relation.word, last] := by
  apply comparison operand
  cases relation <;> rfl

/-- A relation between numbers is read from its words. -/
theorem compare {leftNumber rightNumber : Int64} {last : String}
    (leftRead : integer? first = some leftNumber) (relation : NumberRelation)
    (rightRead : integer? last = some rightNumber) :
    Readable (.compare leftNumber relation rightNumber) first [relation.word, last] := by
  apply comparison (Leads.not_reserved_of_integer? leftRead)
  cases relation <;>
    simp [comparison?, textRelation?, numberRelation?, NumberRelation.word, integer, leftRead,
      rightRead, bind, Except.bind, pure, Except.pure]

/-- A negation is read if what it negates binds more. -/
theorem sign (binds : 2 ≤ inner.strength) (readable : Readable inner next more) :
    Readable (.negation inner) "!" (next :: more) := by
  apply ofNegation (by decide)
  intro rest ends
  exact readNegation_sign (readable.leads.noRelation _) (readable.leads.noConnective _)
    (readable.negation binds rest ends)

/-- A chain takes one more operand behind its connective. -/
theorem join (connective : Connective) (bindsLeft : connective.strength ≤ left.strength)
    (readableLeft : Readable left first tail)
    (bindsRight : connective.strength + 1 ≤ right.strength)
    (readableRight : Readable right next more) :
    Readable (connective.join left right) first (tail ++ connective.word :: next :: more) := by
  have same : (connective.join left right).strength = connective.strength := by
    cases connective <;> rfl
  apply ofChain readableLeft.leads same
  intro rest closes
  have joined : Closes connective (connective.word :: (next :: more ++ rest)) :=
    ⟨.connective _ _, by rintro rfl; simp [Connective.word]⟩
  rw [List.append_assoc, List.cons_append, readableLeft.chain connective bindsLeft _ joined]
  exact continueChain_operand (readableRight.operand bindsRight closes)

/-- A group is read, whatever its condition binds. -/
theorem parenthesized (readable : Readable inner next more) :
    Readable (.group inner) "(" (next :: more ++ [")"]) := by
  apply ofNegation (by decide)
  intro rest ends
  have inside : outcome (readChain .either next (more ++ ")" :: rest)) =
      .ok (inner, ")" :: rest) := by
    rw [readable.chain .either (Nat.zero_le _) _ ⟨.parenthesis _, by simp [Connective.word]⟩]
    exact continueChain_stop (by simp [Connective.word])
  rw [readNegation_operand (by decide), List.append_assoc, List.cons_append,
    List.singleton_append]
  exact readPrimary_group (readable.leads.noRelation _) inside

end Readable

/-- Whatever a condition is written with is read as the condition. -/
theorem readable_of_yields {condition : Condition} {arguments : List String}
    (yields : condition.Yields arguments) (stratified : condition.Stratified)
    (ordinary : condition.Ordinary) :
    ∃ first tail, arguments = first :: tail ∧ Readable condition first tail := by
  induction yields with
  | text value => exact ⟨_, _, rfl, .text ordinary⟩
  | check kind value => exact ⟨_, _, rfl, .check kind ordinary⟩
  | relate left relation right => exact ⟨_, _, rfl, .relate relation ordinary.1⟩
  | compare leftRead relation rightRead =>
      exact ⟨_, _, rfl, .compare leftRead relation rightRead⟩
  | negation yields inductionHypothesis =>
      obtain ⟨next, more, rfl, readable⟩ := inductionHypothesis stratified.2 ordinary
      exact ⟨_, _, rfl, readable.sign stratified.1⟩
  | both yieldsLeft yieldsRight leftHypothesis rightHypothesis =>
      obtain ⟨first, tail, rfl, readableLeft⟩ := leftHypothesis stratified.1.2 ordinary.1
      obtain ⟨next, more, rfl, readableRight⟩ := rightHypothesis stratified.2.2 ordinary.2
      exact ⟨_, _, rfl, .join .both stratified.1.1 readableLeft stratified.2.1 readableRight⟩
  | either yieldsLeft yieldsRight leftHypothesis rightHypothesis =>
      obtain ⟨first, tail, rfl, readableLeft⟩ := leftHypothesis stratified.1 ordinary.1
      obtain ⟨next, more, rfl, readableRight⟩ := rightHypothesis stratified.2.2 ordinary.2
      exact ⟨_, _, rfl, .join .either (Nat.zero_le _) readableLeft stratified.2.1 readableRight⟩
  | group yields inductionHypothesis =>
      obtain ⟨next, more, rfl, readable⟩ := inductionHypothesis stratified ordinary
      exact ⟨_, _, rfl, readable.parenthesized⟩

/-- Every text of a stratified condition is read as the condition. -/
theorem ofArguments_of_yields {condition : Condition} {arguments : List String}
    (yields : condition.Yields arguments) (stratified : condition.Stratified)
    (ordinary : condition.Ordinary) : ofArguments arguments = .ok (some condition) := by
  obtain ⟨first, tail, rfl, readable⟩ := readable_of_yields yields stratified ordinary
  have whole : outcome (readChain .either first tail) = .ok (condition, []) := by
    have read := readable.chain .either (Nat.zero_le _) [] ⟨.nothing, by simp⟩
    rw [List.append_nil] at read
    exact read.trans (continueChain_stop (by simp))
  obtain ⟨bounded, read⟩ := eq_ok_of_outcome whole
  rw [ofArguments, read]

/-- The value of a condition is that of its arguments. -/
theorem evaluate_test {condition : Condition} {arguments : List String}
    (accepted : ofArguments arguments = .ok (some condition)) :
    evaluate .test arguments = .ok condition.holds := by
  simp [evaluate, Form.operands, accepted, bind, Except.bind, pure, Except.pure]

/-- The bracket form means the same with a bracket at the end. -/
theorem evaluate_bracket (arguments : List String) :
    evaluate .bracket (arguments ++ ["]"]) = evaluate .test arguments := by
  simp [evaluate, Form.operands]

/-- A condition without reserved operands is read back from its words. -/
theorem ofArguments_words (condition : Condition) (stratified : condition.Stratified)
    (ordinary : condition.Ordinary) :
    ofArguments condition.words = .ok (some condition) ∧
      evaluate .test condition.words = .ok condition.holds ∧
      evaluate .bracket (condition.words ++ ["]"]) = .ok condition.holds := by
  have accepted := ofArguments_of_yields (yields_words condition) stratified ordinary
  have value := evaluate_test accepted
  exact ⟨accepted, value, (evaluate_bracket condition.words).trans value⟩

/-- The group holds a bracket and a negative number, and one operand is empty. -/
def layered : Condition :=
  .either
    (.both (.negation (.negation (.check .empty "")))
      (.group (.either (.text "]") (.compare (-5) .less 7))))
    (.relate "a b" .different "-")

/-- The layered condition is read back from its sixteen words. -/
theorem ofArguments_words_layered :
    layered.Stratified ∧ layered.Ordinary ∧
      layered.words = ["!", "!", "-z", "", "-a", "(", "]", "-o", "-5", "-lt", "7", ")", "-o", "a b",
        "!=", "-"] ∧
      ofArguments layered.words = .ok (some layered) ∧
      evaluate .test layered.words = .ok layered.holds ∧
      evaluate .bracket (layered.words ++ ["]"]) = .ok layered.holds := by
  have stratified : layered.Stratified := by simp [layered, Stratified, strength]
  have ordinary : layered.Ordinary := by simp [layered, Ordinary, reserved]
  have minusFive : Text.Decimal.renderInt (-5) = "-5" := by decide +kernel
  have seven : Text.Decimal.renderInt 7 = "7" := by decide +kernel
  refine ⟨stratified, ordinary, ?_, ofArguments_words layered stratified ordinary⟩
  simp [layered, words, TextCheck.word, TextRelation.word, NumberRelation.word, minusFive, seven]

end TapeShell.Condition
