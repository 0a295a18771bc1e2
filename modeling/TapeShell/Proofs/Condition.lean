/-
This file gives the grammar of conditions and shows that reading follows it.
-/

import TapeShell.Condition.Parser

namespace TapeShell.Condition

/-- These words are the text of a condition. Any text of an integer stands for it. -/
inductive Yields : Condition → List String → Prop where
  | text (value : String) : Yields (.text value) [value]
  | check (kind : TextCheck) (value : String) : Yields (.check kind value) [kind.word, value]
  | relate (left : String) (relation : TextRelation) (right : String) :
      Yields (.relate left relation right) [left, relation.word, right]
  | compare {left right : String} {leftNumber rightNumber : Int64}
      (leftRead : integer? left = some leftNumber) (relation : NumberRelation)
      (rightRead : integer? right = some rightNumber) :
      Yields (.compare leftNumber relation rightNumber) [left, relation.word, right]
  | negation {inner : Condition} {words : List String} (yields : Yields inner words) :
      Yields (.negation inner) ("!" :: words)
  | both {left right : Condition} {leftWords rightWords : List String}
      (yieldsLeft : Yields left leftWords) (yieldsRight : Yields right rightWords) :
      Yields (.both left right) (leftWords ++ "-a" :: rightWords)
  | either {left right : Condition} {leftWords rightWords : List String}
      (yieldsLeft : Yields left leftWords) (yieldsRight : Yields right rightWords) :
      Yields (.either left right) (leftWords ++ "-o" :: rightWords)
  | group {inner : Condition} {words : List String} (yields : Yields inner words) :
      Yields (.group inner) ("(" :: words ++ [")"])

/-- A disjunction binds its parts least and a conjunction comes next. -/
def strength : Condition → Nat
  | .either _ _ => 0
  | .both _ _ => 1
  | _ => 2

/-- Outside groups no part binds less than its place allows, and connectives nest to the left. -/
def Stratified : Condition → Prop
  | .text _ | .check _ _ | .relate _ _ _ | .compare _ _ _ => True
  | .negation inner => 2 ≤ inner.strength ∧ inner.Stratified
  | .both left right =>
      (1 ≤ left.strength ∧ left.Stratified) ∧ 2 ≤ right.strength ∧ right.Stratified
  | .either left right => left.Stratified ∧ 1 ≤ right.strength ∧ right.Stratified
  | .group inner => inner.Stratified

/-- The condition is read from the first words and binds at least this much. -/
structure Reads (bound : Nat) (words : List String) (condition : Condition) (rest : List String) :
    Prop where
  stratified : condition.Stratified
  binds : bound ≤ condition.strength
  yields : ∃ used, words = used ++ rest ∧ condition.Yields used

namespace Reads

variable {bound : Nat} {words rest : List String} {left right inner : Condition}

/-- A smaller bound holds too. -/
theorem weaken {smaller : Nat} (reads : Reads bound words inner rest) (fits : smaller ≤ bound) :
    Reads smaller words inner rest :=
  ⟨reads.stratified, Nat.le_trans fits reads.binds, reads.yields⟩

/-- A sign of negation in front negates what is read. -/
theorem negation (reads : Reads 2 words inner rest) :
    Reads 2 ("!" :: words) (.negation inner) rest where
  stratified := ⟨reads.binds, reads.stratified⟩
  binds := Nat.le_refl 2
  yields := by
    obtain ⟨used, rfl, yields⟩ := reads.yields
    exact ⟨"!" :: used, rfl, .negation yields⟩

/-- The operand behind a connective binds its parts more than the connective does. -/
theorem join {connective : Connective} {next : List String}
    (readsLeft : Reads connective.strength words left (connective.word :: next))
    (readsRight : Reads (connective.strength + 1) next right rest) :
    Reads connective.strength words (connective.join left right) rest := by
  obtain ⟨leftUsed, rfl, yieldsLeft⟩ := readsLeft.yields
  obtain ⟨rightUsed, rfl, yieldsRight⟩ := readsRight.yields
  have used : leftUsed ++ connective.word :: (rightUsed ++ rest) =
      (leftUsed ++ connective.word :: rightUsed) ++ rest := by simp
  cases connective with
  | both =>
      exact ⟨⟨⟨readsLeft.binds, readsLeft.stratified⟩, readsRight.binds, readsRight.stratified⟩,
        Nat.le_refl 1, _, used, .both yieldsLeft yieldsRight⟩
  | either =>
      exact ⟨⟨readsLeft.stratified, readsRight.binds, readsRight.stratified⟩,
        Nat.le_refl 0, _, used, .either yieldsLeft yieldsRight⟩

/-- Parentheses around any condition make it bind most. -/
theorem group (reads : Reads 0 words inner (")" :: rest)) :
    Reads 2 ("(" :: words) (.group inner) rest where
  stratified := reads.stratified
  binds := Nat.le_refl 2
  yields := by
    obtain ⟨used, rfl, yields⟩ := reads.yields
    exact ⟨"(" :: used ++ [")"], by simp, .group yields⟩

end Reads

/-- A check is found under its own word. -/
theorem word_of_textCheck? {word : String} {kind : TextCheck}
    (found : textCheck? word = some kind) : kind.word = word := by
  grind [textCheck?, TextCheck.word]

/-- A relation between texts is found under its own word. -/
theorem word_of_textRelation? {word : String} {relation : TextRelation}
    (found : textRelation? word = some relation) : relation.word = word := by
  grind [textRelation?, TextRelation.word]

/-- A relation between numbers is found under its own word. -/
theorem word_of_numberRelation? {word : String} {relation : NumberRelation}
    (found : numberRelation? word = some relation) : relation.word = word := by
  grind [numberRelation?, NumberRelation.word]

/-- An integer that is accepted is read. -/
theorem integer?_of_integer {word : String} {number : Int64} (read : integer word = .ok number) :
    integer? word = some number := by
  rw [integer] at read
  split at read
  · cases read
    assumption
  · cases read

/-- A comparison is written as its three words. -/
theorem reads_of_comparison? {left middle right : String} {condition : Condition}
    (found : comparison? left middle right = some (.ok condition)) (rest : List String) :
    Reads 2 (left :: middle :: right :: rest) condition rest := by
  rw [comparison?] at found
  cases textual : textRelation? middle with
  | some relation =>
      rw [textual] at found
      cases found
      obtain rfl := word_of_textRelation? textual
      exact ⟨trivial, Nat.le_refl 2, _, rfl, .relate left relation right⟩
  | none =>
      rw [textual] at found
      obtain ⟨relation, numeric, read⟩ := Option.map_eq_some_iff.mp found
      obtain rfl := word_of_numberRelation? numeric
      cases leftRead : integer left with
      | error fault =>
          rw [leftRead] at read
          cases read
      | ok leftNumber =>
          cases rightRead : integer right with
          | error fault =>
              rw [leftRead, rightRead] at read
              cases read
          | ok rightNumber =>
              rw [leftRead, rightRead] at read
              cases read
              exact ⟨trivial, Nat.le_refl 2, _, rfl,
                .compare (integer?_of_integer leftRead) relation (integer?_of_integer rightRead)⟩

/-- What is read, if anything, is read from these words. -/
def Sound (bound : Nat) (words : List String) {limit : Nat} : Except Fault (Reading limit) → Prop
  | .error _ => True
  | .ok reading => Reads bound words reading.condition reading.rest

/-- How many words a reading may leave does not matter. -/
theorem sound_widen {bound : Nat} {words : List String} {small large : Nat} (fits : small ≤ large)
    {result : Except Fault (Reading small)} (sound : Sound bound words result) :
    Sound bound words (result.map (Reading.widen fits)) := by
  cases result with
  | error fault => trivial
  | ok reading => exact sound

/-- A word is a text, or it checks the word behind it. -/
theorem readText_sound (first : String) (rest : List String) :
    Sound 2 (first :: rest) (.ok (readText first rest)) := by
  have asText : Reads 2 (first :: rest) (.text first) rest :=
    ⟨trivial, Nat.le_refl 2, [first], rfl, .text first⟩
  cases found : textCheck? first with
  | none => simpa [Sound, readText, found] using asText
  | some kind =>
      cases rest with
      | nil => simpa [Sound, readText, found] using asText
      | cons value remaining =>
          by_cases joined : connectiveFollows (value :: remaining) = true
          · simpa [Sound, readText, found, joined] using asText
          · have asCheck : Reads 2 (first :: value :: remaining) (.check kind value) remaining := by
              obtain rfl := word_of_textCheck? found
              exact ⟨trivial, Nat.le_refl 2, _, rfl, .check kind value⟩
            simpa [Sound, readText, found, joined] using asCheck

-- The proofs call each other as the readers do, and end for the same reason.
mutual

/-- An operand binds its parts more than the connective. -/
theorem readOperand_sound (connective : Connective) (first : String) (rest : List String) :
    Sound (connective.strength + 1) (first :: rest) (readOperand connective first rest) := by
  cases connective with
  | both =>
      rw [readOperand]
      exact readNegation_sound first rest
  | either =>
      rw [readOperand]
      exact readChain_sound .both first rest
termination_by 8 * rest.length + 5 - 2 * connective.strength
decreasing_by all_goals simp only [Connective.strength]; omega

/-- A chain binds its parts as much as its connective. -/
theorem readChain_sound (connective : Connective) (first : String) (rest : List String) :
    Sound connective.strength (first :: rest) (readChain connective first rest) := by
  have start := readOperand_sound connective first rest
  rw [readChain]
  split
  next => trivial
  next left remaining bounded found =>
    rw [found] at start
    exact sound_widen bounded
      (continueChain_sound connective left remaining _ (start.weaken (Nat.le_succ _)))
termination_by 8 * rest.length + 6 - 2 * connective.strength
decreasing_by all_goals cases connective <;> simp only [Connective.strength] <;> omega

/-- What was read before a connective becomes its left part, so the parts nest to the left. -/
theorem continueChain_sound (connective : Connective) (left : Condition) :
    (words start : List String) → Reads connective.strength start left words →
    Sound connective.strength start (continueChain connective left words)
  | [], start, reads => by
      rw [continueChain]
      exact reads
  | [word], start, reads => by
      rw [continueChain]
      split
      · trivial
      · exact reads
  | word :: next :: more, start, reads => by
      rw [continueChain]
      split
      next joined =>
        subst joined
        have operand := readOperand_sound connective next more
        split
        next => trivial
        next right remaining bounded found =>
          rw [found] at operand
          exact sound_widen _
            (continueChain_sound connective _ remaining start (reads.join operand))
      next => exact reads
termination_by words => 8 * words.length
decreasing_by
  all_goals cases connective <;> simp only [Connective.strength, List.length_cons] <;> omega

/-- A negation binds whatever it negates. -/
theorem readNegation_sound (first : String) : (rest : List String) →
    Sound 2 (first :: rest) (readNegation first rest)
  | [] => by
      rw [readNegation]
      exact readPrimary_sound first []
  | next :: more => by
      rw [readNegation]
      split
      next negates =>
        obtain ⟨rfl, -⟩ := negates
        have operand := readNegation_sound next more
        split
        next => trivial
        next inner remaining bounded found =>
          rw [found] at operand
          exact operand.negation
      next => exact readPrimary_sound first (next :: more)
termination_by rest => 8 * rest.length + 2

/-- A primary condition is a comparison, a group or a text. -/
theorem readPrimary_sound (first : String) : (rest : List String) →
    Sound 2 (first :: rest) (readPrimary first rest)
  | [] => by
      rw [readPrimary]
      exact readText_sound first []
  | [next] => by
      rw [readPrimary]
      split
      next opening =>
        subst opening
        exact readGroup_sound next []
      next => exact readText_sound first [next]
  | middle :: right :: remaining => by
      rw [readPrimary]
      split
      next result found =>
        cases result with
        | error fault => trivial
        | ok condition => exact reads_of_comparison? found remaining
      next =>
        split
        next opening =>
          subst opening
          exact readGroup_sound middle (right :: remaining)
        next => exact readText_sound first (middle :: right :: remaining)
termination_by rest => 8 * rest.length + 1

/-- A group may hold any condition, because its parentheses bind it. -/
theorem readGroup_sound (first : String) (rest : List String) :
    Sound 2 ("(" :: first :: rest) (readGroup first rest) := by
  have inside := readChain_sound .either first rest
  rw [readGroup]
  split
  next => trivial
  next => trivial
  next inner word remaining bounded found =>
    rw [found] at inside
    split
    next closing =>
      subst closing
      exact inside.group
    next => trivial
termination_by 8 * rest.length + 7
decreasing_by simp only [Connective.strength]; omega

end

/-- A condition is written as the arguments that it was read from, by precedence. -/
theorem ofArguments_sound (arguments : List String) (condition : Condition)
    (accepted : ofArguments arguments = .ok (some condition)) :
    condition.Yields arguments ∧ condition.Stratified := by
  cases arguments with
  | nil => cases accepted
  | cons first rest =>
      have sound := readChain_sound .either first rest
      rw [ofArguments] at accepted
      split at accepted
      next => cases accepted
      next found =>
        cases accepted
        rw [found] at sound
        obtain ⟨used, arguments_eq, yields⟩ := sound.yields
        rw [List.append_nil] at arguments_eq
        exact ⟨arguments_eq ▸ yields, sound.stratified⟩
      next => cases accepted

/-- The group holds a word that looks like a check, and numbers with blanks and a sign. -/
def nested : Condition :=
  .either (.negation (.group (.both (.text "-n") (.compare 7 .lessOrEqual 9)))) (.text "x")

/-- The nested condition is read from its ten words. -/
theorem ofArguments_sound_nested :
    ofArguments ["!", "(", "-n", "-a", " 7 ", "-le", "+9", ")", "-o", "x"] = .ok (some nested) ∧
      nested.Yields ["!", "(", "-n", "-a", " 7 ", "-le", "+9", ")", "-o", "x"] ∧
      nested.Stratified := by
  have seven : integer? " 7 " = some 7 := by decide +kernel
  have nine : integer? "+9" = some 9 := by decide +kernel
  have accepted : ofArguments ["!", "(", "-n", "-a", " 7 ", "-le", "+9", ")", "-o", "x"] =
      .ok (some nested) := by
    simp [ofArguments, readChain, readOperand, continueChain, readNegation, readPrimary, readGroup,
      readText, comparison?, textCheck?, textRelation?, numberRelation?, relationFollows,
      connectiveFollows, signFollows, isRelation, isConnective, integer, seven, nine, nested,
      Except.map, bind, Except.bind, pure, Except.pure, Reading.widen, Connective.word,
      Connective.join]
  exact ⟨accepted, ofArguments_sound _ _ accepted⟩

end TapeShell.Condition
