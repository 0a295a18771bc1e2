/-
This file says what a condition of three words means.
-/

import TapeShell.Proofs.Precedence

namespace TapeShell

/-- These integers stand in the relation. -/
def NumberRelation.Orders (left right : Int) : NumberRelation → Prop
  | .equal => left = right
  | .notEqual => left ≠ right
  | .less => left < right
  | .lessOrEqual => left ≤ right
  | .greater => right < left
  | .greaterOrEqual => right ≤ left

instance (left right : Int) (relation : NumberRelation) : Decidable (relation.Orders left right) :=
  match relation with
  | .equal => inferInstanceAs (Decidable (left = right))
  | .notEqual => inferInstanceAs (Decidable (left ≠ right))
  | .less => inferInstanceAs (Decidable (left < right))
  | .lessOrEqual => inferInstanceAs (Decidable (left ≤ right))
  | .greater => inferInstanceAs (Decidable (right < left))
  | .greaterOrEqual => inferInstanceAs (Decidable (right ≤ left))

/-- Words of 64 bits are compared as the integers that they stand for. -/
theorem NumberRelation.holds_eq (relation : NumberRelation) (left right : Int64) :
    relation.holds left right = decide (relation.Orders left.toInt right.toInt) := by
  rw [Bool.eq_iff_iff, decide_eq_true_iff]
  cases relation <;>
    simp [holds, Orders, Int64.lt_iff_toInt_lt, Int64.le_iff_toInt_le, ← Int64.toInt_inj]

namespace Condition

/-- Two words are compared as integers. The first of them that is none is at fault. -/
def verdict (relation : NumberRelation) (left right : String) : Except Fault Bool :=
  match integer? left, integer? right with
  | none, _ => .error (.notAnInteger left)
  | some _, none => .error (.notAnInteger right)
  | some first, some second => .ok (decide (relation.Orders first.toInt second.toInt))

section Readers

variable {connective : Connective} {first next : String} {rest more : List String}
  {left : Condition} {fault : Fault}

/-- A word before a relation or a connective is no sign of negation. -/
theorem readNegation_of_follows
    (followed : relationFollows rest = true ∨ connectiveFollows rest = true) :
    readNegation first rest = readPrimary first rest := by
  cases rest with
  | nil => rw [readNegation]
  | cons next more =>
      rw [readNegation, if_neg]
      rintro ⟨-, noRelation, noConnective⟩
      rcases followed with relation | connective
      · simp [relation] at noRelation
      · simp [connective] at noConnective

/-- An outcome with a fault comes from that fault. -/
theorem eq_error_of_outcome {limit : Nat} {result : Except Fault (Reading limit)}
    (failed : outcome result = .error fault) : result = .error fault := by
  cases result with
  | ok reading => cases failed
  | error other =>
      cases failed
      rfl

/-- A chain fails where its first operand does. -/
theorem readChain_of_error
    (failed : outcome (readOperand connective first rest) = .error fault) :
    outcome (readChain connective first rest) = .error fault := by
  rw [readChain, eq_error_of_outcome failed]
  rfl

/-- A chain fails where the operand behind its connective does. -/
theorem continueChain_of_error
    (failed : outcome (readOperand connective next more) = .error fault) :
    outcome (continueChain connective left (connective.word :: next :: more)) = .error fault := by
  rw [continueChain, if_pos rfl]
  simp only [eq_error_of_outcome failed]
  rfl

/-- A connective at the end lacks its operand. -/
theorem continueChain_dangling :
    outcome (continueChain connective left [connective.word]) =
      .error (.missingOperand connective.word) := by
  rw [continueChain, if_pos rfl]
  rfl

/-- What goes wrong in a conjunction goes wrong in the disjunction that it starts. -/
theorem readEither_of_error (failed : outcome (readNegation first rest) = .error fault) :
    outcome (readChain .either first rest) = .error fault := by
  rw [← readOperand_both] at failed
  have conjunction := readChain_of_error failed
  rw [← readOperand_either] at conjunction
  exact readChain_of_error conjunction

/-- A group fails where its condition does. -/
theorem readGroup_of_error (failed : outcome (readChain .either first rest) = .error fault) :
    outcome (readGroup first rest) = .error fault := by
  rw [readGroup, eq_error_of_outcome failed]
  rfl

/-- A group without its closing parenthesis is refused. -/
theorem readGroup_unclosed {inner : Condition} {remaining : List String}
    (unclosed : remaining.head? ≠ some ")")
    (found : outcome (readChain .either first rest) = .ok (inner, remaining)) :
    outcome (readGroup first rest) = .error .unclosedGroup := by
  obtain ⟨bounded, read⟩ := eq_ok_of_outcome found
  rw [readGroup, read]
  cases remaining with
  | nil => rfl
  | cons word more =>
      have other : word ≠ ")" := by simpa using unclosed
      simp only [if_neg other]
      rfl

/-- The weakest rule reads the whole list, and no word may be left. -/
theorem ofArguments_cons (first : String) (rest : List String) :
    ofArguments (first :: rest) =
      match outcome (readChain .either first rest) with
      | .error fault => .error fault
      | .ok (condition, []) => .ok (some condition)
      | .ok (_, extra :: _) => .error (.unexpectedArgument extra) := by
  rw [ofArguments]
  cases readChain .either first rest with
  | error fault => rfl
  | ok reading =>
      obtain ⟨condition, remaining, bounded⟩ := reading
      cases remaining <;> rfl

/-- A condition that is refused has no value. -/
theorem evaluate_error {arguments : List String} (refused : ofArguments arguments = .error fault) :
    evaluate .test arguments = .error fault := by
  simp [evaluate, Form.operands, refused, bind, Except.bind]

/-- Where no word is left, the first words decide alone. -/
theorem readEither_of_whole {condition : Condition}
    (whole : outcome (readNegation first rest) = .ok (condition, [])) :
    outcome (readChain .either first rest) = .ok (condition, []) :=
  readChain_of_single (readOperand_of_negation whole (by simp)) (by simp)

end Readers

section Comparison

variable {left middle right : String}

/-- A comparison has a relation in the middle. -/
theorem relationFollows_of_comparison? {result : Except Fault Condition}
    (compared : comparison? left middle right = some result) :
    relationFollows [middle, right] = true := by
  by_contra unrelated
  rw [Bool.not_eq_true] at unrelated
  rw [comparison?_eq_none left unrelated] at compared
  cases compared

/-- A relation in the middle is never anything else. -/
theorem evaluate_comparison {result : Except Fault Condition}
    (compared : comparison? left middle right = some result) :
    evaluate .test [left, middle, right] = result.map holds := by
  have primary : readNegation left [middle, right] = readPrimary left [middle, right] :=
    readNegation_of_follows (.inl (relationFollows_of_comparison? compared))
  cases result with
  | ok condition =>
      have whole : outcome (readNegation left [middle, right]) = .ok (condition, []) := by
        rw [primary]
        exact readPrimary_comparison compared
      apply evaluate_test
      rw [ofArguments_cons, readEither_of_whole whole]
  | error fault =>
      have failed : outcome (readNegation left [middle, right]) = .error fault := by
        rw [primary, readPrimary, compared]
        rfl
      apply evaluate_error
      rw [ofArguments_cons, readEither_of_error failed]

/-- A relation between texts compares the other two words. -/
theorem evaluate_relation (relation : TextRelation) (left right : String) :
    evaluate .test [left, relation.word, right] = .ok (relation.holds left right) := by
  have compared : comparison? left relation.word right =
      some (.ok (.relate left relation right)) := by
    cases relation <;> rfl
  exact evaluate_comparison compared

/-- A relation between numbers compares the other two words as integers. -/
theorem evaluate_verdict (relation : NumberRelation) (left right : String) :
    evaluate .test [left, relation.word, right] = verdict relation left right := by
  have numeric : numberRelation? relation.word = some relation := by cases relation <;> rfl
  have textual : textRelation? relation.word = none := by cases relation <;> rfl
  have compared : comparison? left relation.word right = some (do
      let leftNumber ← integer left
      let rightNumber ← integer right
      return .compare leftNumber relation rightNumber) := by
    rw [comparison?, textual, numeric]
    rfl
  rw [evaluate_comparison compared, verdict]
  cases leftRead : integer? left with
  | none => simp [integer, leftRead, bind, Except.bind, Except.map]
  | some first =>
      cases rightRead : integer? right with
      | none => simp [integer, leftRead, rightRead, bind, Except.bind, Except.map]
      | some second =>
          simp [integer, leftRead, rightRead, bind, Except.bind, Except.map, pure, Except.pure,
            holds, NumberRelation.holds_eq]

end Comparison

section Connective

variable {left : String}

/-- A connective with a word behind it follows. -/
theorem connectiveFollows_word (connective : Connective) (right : String) :
    connectiveFollows [connective.word, right] = true := by
  cases connective <;> rfl

/-- A connective is no relation. -/
theorem relationFollows_word (connective : Connective) (right : String) :
    relationFollows [connective.word, right] = false := by
  cases connective <;> rfl

/-- A last word is a text, whatever it is. -/
theorem readNegation_last (word : String) :
    outcome (readNegation word []) = .ok (.text word, []) := by
  rw [readNegation, readPrimary, readText]
  simp [outcome, Except.map]

/-- Before a connective every word but an opening parenthesis is a text. -/
theorem readNegation_before (connective : Connective) (right : String) (notOpening : left ≠ "(") :
    outcome (readNegation left [connective.word, right]) =
      .ok (.text left, [connective.word, right]) := by
  rw [readNegation_of_follows (.inr (connectiveFollows_word connective right)),
    readPrimary_text notOpening (relationFollows_word connective right), readText]
  cases textCheck? left <;> simp [connectiveFollows_word, outcome, Except.map]

/-- Every word but an opening parenthesis is an operand of the connective behind it. -/
theorem readOperand_before (connective : Connective) (right : String) (notOpening : left ≠ "(") :
    outcome (readOperand connective left [connective.word, right]) =
      .ok (.text left, [connective.word, right]) := by
  apply readOperand_of_negation (readNegation_before connective right notOpening)
  rintro rfl
  simp [Connective.word]

/-- A last word is an operand of every connective. -/
theorem readOperand_last (connective : Connective) (word : String) :
    outcome (readOperand connective word []) = .ok (.text word, []) :=
  readOperand_of_negation (readNegation_last word) (by simp)

/-- A connective between two words joins them. -/
theorem readChain_between (connective : Connective) (right : String) (notOpening : left ≠ "(") :
    outcome (readChain connective left [connective.word, right]) =
      .ok (connective.join (.text left) (.text right), []) := by
  rw [readChain_of_operand (readOperand_before connective right notOpening),
    continueChain_operand (readOperand_last connective right)]
  exact continueChain_stop (by simp)

/-- A connective between two words joins them. -/
theorem readEither_connective (connective : Connective) (right : String)
    (notOpening : left ≠ "(") :
    outcome (readChain .either left [connective.word, right]) =
      .ok (connective.join (.text left) (.text right), []) := by
  have joined := readChain_between connective right notOpening
  cases connective with
  | both =>
      rw [← readOperand_either] at joined
      exact readChain_of_single joined (by simp)
  | either => exact joined

/-- Behind an opening parenthesis the connective is a text of its own. -/
theorem readNegation_word (connective : Connective) (right : String) :
    outcome (readNegation connective.word [right]) = .ok (.text connective.word, [right]) := by
  rw [readNegation_operand (by cases connective <;> decide),
    readPrimary_text (by cases connective <;> decide) rfl, readText]
  have noCheck : textCheck? connective.word = none := by cases connective <;> rfl
  simp [noCheck, outcome, Except.map]

/-- Behind such a text another connective lacks its operand. -/
theorem readEither_word (connective : Connective) (right : String) :
    outcome (readChain .either connective.word [right]) =
      if right = "-a" ∨ right = "-o" then .error (.missingOperand right)
      else .ok (.text connective.word, [right]) := by
  have start := readNegation_word connective right
  by_cases first : right = "-a"
  · subst first
    rw [← readOperand_both] at start
    have dangling := (readChain_of_operand start).trans continueChain_dangling
    rw [← readOperand_either] at dangling
    rw [if_pos (.inl rfl)]
    exact readChain_of_error dangling
  · have apart : [right].head? ≠ some Connective.both.word := by
      simpa [Connective.word] using first
    rw [readChain_of_operand (readOperand_of_negation start fun _ => apart)]
    by_cases second : right = "-o"
    · subst second
      rw [if_pos (.inr rfl)]
      exact continueChain_dangling
    · rw [if_neg (not_or.mpr ⟨first, second⟩)]
      exact continueChain_stop (by simpa [Connective.word] using second)

/-- What stands between parentheses or behind an opening one is a group of its own. -/
theorem readNegation_opening (connective : Connective) (right : String) :
    outcome (readNegation "(" [connective.word, right]) =
      if right = ")" then .ok (.group (.text connective.word), [])
      else .error (if right = "-a" ∨ right = "-o" then .missingOperand right
        else .unclosedGroup) := by
  rw [readNegation_operand (by decide)]
  have inside := readEither_word connective right
  by_cases closing : right = ")"
  · subst closing
    exact readPrimary_group (relationFollows_word connective ")") inside
  · rw [if_neg closing, readPrimary,
      comparison?_eq_none "(" (relationFollows_word connective right)]
    change outcome (readGroup connective.word [right]) = _
    by_cases dangling : right = "-a" ∨ right = "-o"
    · rw [if_pos dangling] at inside ⊢
      exact readGroup_of_error inside
    · rw [if_neg dangling] at inside ⊢
      exact readGroup_unclosed (by simpa using closing) inside

end Connective

/-- Between two words that are no group, a connective joins them. -/
theorem evaluate_connective (connective : Connective) {left right : String}
    (apart : left ≠ "(" ∨ right = ")") :
    evaluate .test [left, connective.word, right] =
      .ok (connective.join (.text left) (.text right)).holds := by
  by_cases opening : left = "("
  · subst opening
    obtain rfl : right = ")" := apart.resolve_left (by simp)
    have whole := readNegation_opening connective ")"
    rw [if_pos rfl] at whole
    have grouped : ofArguments ["(", connective.word, ")"] =
        .ok (some (.group (.text connective.word))) := by
      rw [ofArguments_cons, readEither_of_whole whole]
    rw [evaluate_test grouped]
    cases connective <;> rfl
  · apply evaluate_test
    rw [ofArguments_cons, readEither_connective connective right opening]

/-- A group that is opened before a connective is refused unless it is closed behind it. -/
theorem evaluate_opening (connective : Connective) {right : String} (unclosed : right ≠ ")") :
    evaluate .test ["(", connective.word, right] =
      .error (if right = "-a" ∨ right = "-o" then .missingOperand right else .unclosedGroup) := by
  have failed := readNegation_opening connective right
  rw [if_neg unclosed] at failed
  apply evaluate_error
  rw [ofArguments_cons, readEither_of_error failed]

/-- The word in the middle decides three words, unless a group is not closed. -/
theorem evaluate_three (left right : String) :
    evaluate .test [left, "=", right] = .ok (decide (left = right)) ∧
    evaluate .test [left, "!=", right] = .ok (decide (left ≠ right)) ∧
    (∀ relation : NumberRelation,
      evaluate .test [left, relation.word, right] = verdict relation left right) ∧
    (left ≠ "(" ∨ right = ")" →
      evaluate .test [left, "-a", right] = .ok (decide (left ≠ "" ∧ right ≠ "")) ∧
      evaluate .test [left, "-o", right] = .ok (decide (left ≠ "" ∨ right ≠ ""))) ∧
    (left = "(" → right ≠ ")" → ∀ connective : Connective,
      evaluate .test [left, connective.word, right] =
        .error (if right = "-a" ∨ right = "-o" then .missingOperand right
          else .unclosedGroup)) := by
  have filled (word : String) : (!word.isEmpty) = decide (word ≠ "") := by
    rw [Bool.eq_iff_iff]
    simp
  have unequal : (left != right) = decide (left ≠ right) := by
    rw [Bool.eq_iff_iff]
    simp
  refine ⟨?_, ?_, fun relation => evaluate_verdict relation left right, fun apart => ⟨?_, ?_⟩, ?_⟩
  · exact (evaluate_relation .same left right).trans (congrArg _ (beq_eq_decide left right))
  · exact (evaluate_relation .different left right).trans (congrArg _ unequal)
  · change evaluate .test [left, Connective.both.word, right] = _
    rw [evaluate_connective .both apart, Bool.decide_and, ← filled, ← filled]
    rfl
  · change evaluate .test [left, Connective.either.word, right] = _
    rw [evaluate_connective .either apart, Bool.decide_or, ← filled, ← filled]
    rfl
  · rintro rfl unclosed connective
    exact evaluate_opening connective unclosed

/-- The words around the middle are operators themselves, and the last condition is refused. -/
theorem evaluate_three_awkward :
    evaluate .test ["!", "=", "("] = .ok (decide ("!" = "(")) ∧
      evaluate .test [" 7", "-lt", "!"] = verdict .less " 7" "!" ∧
      verdict .less " 7" "!" = .error (.notAnInteger "!") ∧
      evaluate .test ["-n", "-a", "-o"] = .ok (decide ("-n" ≠ "" ∧ "-o" ≠ "")) ∧
      evaluate .test ["(", "-o", "-a"] = .error (.missingOperand "-a") := by
  have noInteger : verdict .less " 7" "!" = .error (.notAnInteger "!") := by decide +kernel
  exact ⟨(evaluate_three "!" "(").1, (evaluate_three " 7" "!").2.2.1 .less, noInteger,
    ((evaluate_three "-n" "-o").2.2.2.1 (.inl (by decide))).1,
    (evaluate_three "(" "-a").2.2.2.2 rfl (by decide) .either⟩

/-- A parenthesis is not joined to the word behind a connective. -/
theorem evaluate_three_parenthesis :
    evaluate .test ["(", "-a", "x"] = .error .unclosedGroup ∧
      evaluate .test ["(", "-a", "x"] ≠ .ok (decide ("(" ≠ "" ∧ "x" ≠ "")) := by
  have refused : evaluate .test ["(", "-a", "x"] = .error .unclosedGroup :=
    evaluate_opening .both (by decide)
  exact ⟨refused, refused ▸ nofun⟩

end Condition

end TapeShell
