/-
This file shows where two lines are read apart if a blank or an operator stands between them.
-/

import Mathlib.Algebra.Group.Nat.Even
import TapeShell.Proofs.Boundary

namespace TapeShell

namespace Segment

/-- A greater-than sign neither opens nor closes a quotation. -/
theorem foldl_append_sign (text : List Char) :
    (text ++ ['>']).foldl nextQuote none = text.foldl nextQuote none := by
  obtain ⟨span, opened⟩ := Scanner.foldl_nextQuote_eq text
  rw [List.foldl_append, opened]
  exact Scanner.nextQuote_of_ne span (by decide) (by decide)

end Segment

namespace Scanner

/-- A plain scanner that has closed its quotations waits for at most a second sign. -/
theorem mode_of_closed {text : List Char} (closed : text.foldl Segment.nextQuote none = none) :
    (run none (.inside .bare) text).2 = .inside .bare ∨
      (run none (.inside .bare) text).2 = .greater := by
  have plain := run_plain (.inside .bare) trivial text
  have outside := (run_quote (.inside .bare) trivial text).trans closed
  match (run none (.inside .bare) text).2, plain, outside with
  | .inside .bare, _, _ => exact .inl rfl
  | .greater, _, _ => exact .inr rfl

/-- A scanner that has closed its quotations is outside of them. -/
theorem isOutside_of_closed {text : List Char}
    (closed : text.foldl Segment.nextQuote none = none) :
    (run none (.inside .bare) text).2.isOutside = true := by
  rcases mode_of_closed closed with bare | waiting
  · rw [bare]
    rfl
  · rw [waiting]
    rfl

/-- Outside quotations only a greater-than sign makes a scanner wait. -/
theorem stepBare_ne_greater {character : Char} (other : character ≠ '>') :
    (stepBare none character).2 ≠ .greater := by
  fun_cases stepBare none character
  all_goals simp_all

/-- Only a greater-than sign makes a plain scanner wait for another one. -/
theorem step_ne_greater (mode : Mode) (plain : mode.IsPlain) {character : Char}
    (other : character ≠ '>') : (step none mode character).2 ≠ .greater := by
  match mode, plain with
  | .inside .bare, _ => exact stepBare_ne_greater other
  | .inside .single, _ | .inside .double, _ =>
      rw [step, stepInside]
      split <;> simp
  | .greater, _ =>
      rw [step, if_neg other]
      exact stepBare_ne_greater other

/-- The greater-than signs that a text ends in. -/
def lastSigns (text : List Char) : List Char :=
  text.rtakeWhile (· == '>')

/-- A text with another end has no signs there. -/
theorem lastSigns_eq_nil {text : List Char} (other : text.getLast? ≠ some '>') :
    lastSigns text = [] := by
  rw [lastSigns, List.rtakeWhile_eq_nil_iff]
  intro nonempty
  simpa [List.getLast?_eq_some_getLast nonempty] using other

/-- The scanner waits if the number of signs at the end is odd. -/
theorem run_eq_greater_iff {text : List Char}
    (closed : text.foldl Segment.nextQuote none = none) :
    (run none (.inside .bare) text).2 = .greater ↔ ¬Even (lastSigns text).length := by
  induction text using List.reverseRecOn with
  | nil => simp [run, lastSigns]
  | append_singleton text character inductionHypothesis =>
      have last : (run none (.inside .bare) (text ++ [character])).2 =
          (step none (run none (.inside .bare) text).2 character).2 := by
        rw [run_append]
        rfl
      rw [last]
      by_cases sign : character = '>'
      · subst sign
        rw [Segment.foldl_append_sign] at closed
        have before := inductionHypothesis closed
        have longer : (lastSigns (text ++ ['>'])).length = (lastSigns text).length + 1 := by
          simp [lastSigns]
        rw [longer, Nat.even_add_one, not_not, ← not_iff_not, ← before]
        rcases mode_of_closed closed with bare | waiting
        · simp [bare, step, stepInside, stepBare]
        · simp [waiting, step]
      · have plain := run_plain (.inside .bare) trivial text
        simp [lastSigns, sign, step_ne_greater _ plain sign]

end Scanner

namespace Token

/-- A sign at the end of a text becomes another operator if one more sign follows. -/
theorem reading_waiting (lookup : Scanner.Lookup) {first : List Char}
    (waiting : (Scanner.run lookup (.inside .bare) first).2 = .greater) :
    ∃ earlier, reading lookup first = earlier ++ [.operator .writeTo] ∧
      ∀ rest, reading lookup (first ++ '>' :: rest) =
        earlier ++ .operator .appendTo :: reading lookup rest := by
  refine ⟨Scanner.tokens (Scanner.run lookup (.inside .bare) first).1, ?_, ?_⟩
  · rw [reading, Scanner.scan_eq_run, waiting]
    exact Scanner.tokens_operator .writeTo _ []
  · intro rest
    have marks : Scanner.scan lookup (.inside .bare) (first ++ '>' :: rest) =
        (Scanner.run lookup (.inside .bare) first).1 ++
          .operator .appendTo :: Scanner.scan lookup (.inside .bare) rest := by
      rw [Scanner.scan_run, waiting]
      rfl
    rw [reading, marks]
    exact Scanner.tokens_operator .appendTo _ _

/-- A text that is closed is read apart from a blank and what follows it. -/
theorem reading_blank_between {first : List Char}
    (closed : first.foldl Segment.nextQuote none = none) {blank : Char}
    (isBlank : Text.isBlank blank = true) (rest : List Char) :
    reading none (first ++ blank :: rest) = reading none first ++ reading none rest := by
  have other := Text.ne_of_isBlank isBlank (show Text.isBlank '>' = false by decide)
  rw [reading_append none (fun _ => Scanner.isOutside_of_closed closed)
    (by simp [Scanner.isBreak, isBlank]) (by simp [other]), reading_blank none isBlank]

/-- The greater-than sign is the start of these operators only. -/
theorem head?_symbol (kind : Operator) (rest : List Char) :
    (kind.symbol.toList ++ rest).head? = some '>' ↔ kind = .writeTo ∨ kind = .appendTo := by
  cases kind <;> simp [Operator.symbol]

/-- An operator stands between two texts, unless a sign of theirs makes it another one. -/
theorem reading_operator_between (kind : Operator) {first : List Char}
    (closed : first.foldl Segment.nextQuote none = none) (rest : List Char) :
    reading none (first ++ (kind.symbol.toList ++ rest)) =
        reading none first ++ .operator kind :: reading none rest ↔
      (kind = .writeTo ∨ kind = .appendTo → Even (Scanner.lastSigns first).length) ∧
        (kind = .writeTo → rest.head? ≠ some '>') := by
  have waits := Scanner.run_eq_greater_iff closed
  have apart (even : kind = .writeTo ∨ kind = .appendTo → Even (Scanner.lastSigns first).length) :
      reading none (first ++ (kind.symbol.toList ++ rest)) =
        reading none first ++ reading none (kind.symbol.toList ++ rest) := by
    refine reading_append none (fun _ => Scanner.isOutside_of_closed closed)
      (Scanner.isBreak_symbol kind rest) fun waiting signed => ?_
    exact waits.mp waiting (even ((head?_symbol kind rest).mp signed))
  constructor
  · intro same
    have even (signed : kind = .writeTo ∨ kind = .appendTo) :
        Even (Scanner.lastSigns first).length := by
      -- The last sign of an odd number would take the first sign of the operator.
      by_contra odd
      obtain ⟨earlier, alone, joined⟩ := reading_waiting none (waits.mpr odd)
      obtain ⟨following, found⟩ := List.head?_eq_some_iff.mp ((head?_symbol kind rest).mpr signed)
      rw [found, joined, alone, List.append_assoc] at same
      simp at same
    refine ⟨even, ?_⟩
    rintro rfl signed
    obtain ⟨following, rfl⟩ := List.head?_eq_some_iff.mp signed
    have doubled : reading none ('>' :: '>' :: following) =
        .operator .appendTo :: reading none following :=
      reading_operator none .appendTo (by simp)
    rw [apart even, show Operator.writeTo.symbol.toList ++ '>' :: following =
      '>' :: '>' :: following from rfl, doubled] at same
    simp at same
  · rintro ⟨even, free⟩
    rw [apart even, reading_operator none kind free]

/-- Two lines are read apart exactly if no sign `>` joins another at the juncture. -/
theorem scan_juncture (first second : String) (closed : Segment.quoteAfter first = none) :
    (∀ blank, Text.isBlank blank = true →
      scan (first ++ String.singleton blank ++ second) = scan first ++ scan second) ∧
    (∀ kind : Operator,
      (kind = .writeTo ∨ kind = .appendTo → first.toList.getLast? ≠ some '>') →
      (kind = .writeTo → second.toList.head? ≠ some '>') →
      scan (first ++ kind.symbol ++ second) = scan first ++ .operator kind :: scan second) ∧
    ∀ kind : Operator,
      scan (first ++ kind.symbol ++ second) = scan first ++ .operator kind :: scan second ↔
        (kind = .writeTo ∨ kind = .appendTo →
          Even (Scanner.lastSigns first.toList).length) ∧
        (kind = .writeTo → second.toList.head? ≠ some '>') := by
  have between (kind : Operator) := reading_operator_between kind closed second.toList
  refine ⟨?_, ?_, ?_⟩
  · intro blank isBlank
    simpa [scan_eq_reading] using reading_blank_between closed isBlank second.toList
  · intro kind unsigned free
    have even (signed : kind = .writeTo ∨ kind = .appendTo) :
        Even (Scanner.lastSigns first.toList).length := by
      rw [Scanner.lastSigns_eq_nil (unsigned signed)]
      exact ⟨0, rfl⟩
    simpa [scan_eq_reading] using (between kind).mpr ⟨even, free⟩
  · intro kind
    simpa [scan_eq_reading] using between kind

/-- The first line ends in a quoted sign, and the second starts with a plain one. -/
theorem scan_juncture_quoted :
    Segment.quoteAfter "cat 'a > b'\"c>\"" = none ∧
      scan "cat 'a > b'\"c>\"\u00a0> d \"e" = scan "cat 'a > b'\"c>\"" ++ scan "> d \"e" ∧
      scan "cat 'a > b'\"c>\">>> d \"e" =
        scan "cat 'a > b'\"c>\"" ++ .operator .appendTo :: scan "> d \"e" ∧
      scan "cat 'a > b'\"c>\">> d \"e" ≠
        scan "cat 'a > b'\"c>\"" ++ .operator .writeTo :: scan "> d \"e" := by
  have closed : Segment.quoteAfter "cat 'a > b'\"c>\"" = none := by decide +kernel
  obtain ⟨blanks, operators, exactly⟩ := scan_juncture _ "> d \"e" closed
  refine ⟨closed, blanks '\u00a0' (by decide), operators .appendTo ?_ ?_, fun same => ?_⟩
  · decide +kernel
  · decide +kernel
  · exact ((exactly .writeTo).mp same).2 rfl (by decide +kernel)

end Token

end TapeShell
