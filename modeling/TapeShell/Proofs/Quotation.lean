/-
This file shows that every word is read back from its rendered text.
-/

import TapeShell.Pipeline
import TapeShell.Proofs.Agreement
import TapeShell.Text.Search

namespace TapeShell

namespace Scanner

/-- The text adds one fragment of a word, and all its quotations are closed. -/
structure ReadsFragment (lookup : Lookup) (text : List Char) (added : Option (List Char)) :
    Prop where
  mode_eq : (run lookup (.inside .bare) text).2 = .inside .bare
  spells : Spells added (run lookup (.inside .bare) text).1

namespace ReadsFragment

variable {lookup : Lookup} {left right : List Char} {first second : Option (List Char)}

/-- The empty text is no fragment. -/
theorem nil : ReadsFragment lookup [] none := ⟨rfl, spells_nil⟩

/-- Texts that touch each other add one fragment. -/
theorem append (readsFirst : ReadsFragment lookup left first)
    (readsSecond : ReadsFragment lookup right second) :
    ReadsFragment lookup (left ++ right) (Option.merge (· ++ ·) first second) where
  mode_eq := by
    rw [run_append, readsFirst.mode_eq]
    exact readsSecond.mode_eq
  spells := by
    rw [run_append, readsFirst.mode_eq]
    exact readsFirst.spells.append readsSecond.spells

/-- A text that adds a word is read as that word. -/
theorem readsAs {word : List Char} (reads : ReadsFragment lookup left (some word)) :
    ReadsAs lookup left [.word (String.ofList word)] :=
  ⟨reads.mode_eq, reads.spells.denotes⟩

/-- A fragment has text. -/
theorem ne_nil {word : List Char} (reads : ReadsFragment lookup left (some word)) : left ≠ [] := by
  rintro rfl
  cases reads.spells (none, [])

end ReadsFragment

/-- Fragments side by side are one. -/
theorem merge_fragment (left right : List Char) :
    Option.merge (· ++ ·) (fragment left) (fragment right) = fragment (left ++ right) := by
  cases left <;> cases right <;> simp [fragment, Option.merge]

/-- Single quotes keep every character but the single quote. -/
theorem run_single (lookup : Lookup) (text rest : List Char) (unquoted : '\'' ∉ text) :
    run lookup (.inside .single) (text ++ '\'' :: rest) =
      after (glyphs text) (run lookup (.inside .bare) rest) := by
  induction text with
  | nil => rfl
  | cons character text inductionHypothesis =>
      have different : character ≠ '\'' := fun same => unquoted (same ▸ List.mem_cons_self)
      rw [List.cons_append, run, step, stepInside, if_neg different,
        inductionHypothesis fun member => unquoted (List.mem_cons_of_mem _ member)]
      rfl

end Scanner

namespace Word

open Scanner

variable (lookup : Lookup)

/-- A character that is not special is a part of the word. -/
theorem stepBare_of_not_special {character : Char} (ordinary : isSpecial character = false) :
    stepBare lookup character = ([.glyph character], .inside .bare) := by
  simp only [isSpecial, Bool.or_eq_false_iff, List.contains_eq_mem, List.mem_cons,
    List.not_mem_nil, or_false, decide_eq_false_iff_not, not_or] at ordinary
  obtain ⟨solid, noPipe, noLess, noGreater, noSemicolon, noSingle, noDouble, noDollar⟩ := ordinary
  simp [stepBare, solid, noPipe, noLess, noGreater, noSemicolon, noSingle, noDouble, noDollar]

/-- Ordinary characters are read as they stand. -/
theorem readsFragment_of_ordinary (text : List Char) (ordinary : text.any isSpecial = false) :
    ReadsFragment lookup text (fragment text) := by
  have running : run lookup (.inside .bare) text = (glyphs text, .inside .bare) := by
    induction text with
    | nil => rfl
    | cons character rest inductionHypothesis =>
        rw [List.any_cons, Bool.or_eq_false_iff] at ordinary
        rw [run, step, stepInside, stepBare_of_not_special lookup ordinary.1,
          inductionHypothesis ordinary.2]
        rfl
  exact ⟨by rw [running], by rw [running]; exact spells_glyphs text⟩

/-- A quoted part is read as that part, and an empty one adds nothing. -/
theorem readsFragment_quotePart (part : List Char) (unquoted : '\'' ∉ part) :
    ReadsFragment lookup (quotePart part) (fragment part) := by
  cases part with
  | nil => exact .nil
  | cons character rest =>
      have running : run lookup (.inside .bare) (quotePart (character :: rest)) =
          (.opened :: glyphs (character :: rest), .inside .bare) := by
        have inside := run_single lookup (character :: rest) [] unquoted
        rw [run, after, List.append_nil] at inside
        exact congrArg (after [.opened]) inside
      have spells := spells_opened.append (spells_glyphs (character :: rest))
      exact ⟨by rw [running], by rw [running]; exact spells⟩

/-- A single quote stands between double quotes. -/
theorem readsFragment_splice : ReadsFragment lookup ['"', '\'', '"'] (fragment ['\'']) :=
  ⟨rfl, spells_opened.append (spells_glyphs ['\''])⟩

/-- The quoted parts with their splices are read as the parts with single quotes between them. -/
theorem readsFragment_parts (parts : List (List Char)) (nonempty : parts ≠ [])
    (unquoted : ∀ part ∈ parts, '\'' ∉ part) :
    ReadsFragment lookup (List.intercalate ['"', '\'', '"'] (parts.map quotePart))
      (fragment (List.intercalate ['\''] parts)) := by
  induction parts with
  | nil => exact absurd rfl nonempty
  | cons part others inductionHypothesis =>
      obtain ⟨partUnquoted, othersUnquoted⟩ := List.forall_mem_cons.mp unquoted
      have readsPart := readsFragment_quotePart lookup part partUnquoted
      cases others with
      | nil => simpa using readsPart
      | cons next others =>
          -- A part may be empty and then adds no word, so fragments are joined and not words.
          have readsOthers := inductionHypothesis (List.cons_ne_nil _ _) othersUnquoted
          have readsAll := (readsPart.append (readsFragment_splice lookup)).append readsOthers
          rw [merge_fragment, merge_fragment] at readsAll
          simpa only [List.map_cons, List.intercalate_cons_cons] using readsAll

/-- A quoted word is read as that word, also if it is empty. -/
theorem readsFragment_quote (word : List Char) :
    ReadsFragment lookup (quote word) (some word) := by
  cases word with
  | nil => exact ⟨rfl, spells_opened⟩
  | cons character rest =>
      have readsParts := readsFragment_parts lookup ((character :: rest).splitOn '\'')
        (List.splitOn_ne_nil _ _) fun _ => Text.not_mem_of_mem_splitOn
      rwa [List.intercalate_splitOn] at readsParts

/-- A rendered word is read as that word, whatever the variables are. -/
theorem readsFragment_render (word : String) :
    ReadsFragment lookup (render word).toList (some word.toList) := by
  rw [render]
  split
  next plain =>
    simp only [isPlain, Bool.and_eq_true, Bool.not_eq_true'] at plain
    have reads := readsFragment_of_ordinary lookup word.toList plain.2
    rwa [fragment, if_neg (by simp [plain.1])] at reads
  next =>
    rw [String.toList_ofList]
    exact readsFragment_quote lookup word.toList

/-- A printed word is read as the word. -/
theorem readsAs_render (word : String) :
    ReadsAs lookup (render word).toList [.word word] := by
  have reads := (readsFragment_render lookup word).readsAs
  rwa [String.ofList_toList] at reads

/-- Every word is printed as some text. -/
theorem render_ne_nil (word : String) : (render word).toList ≠ [] :=
  (readsFragment_render none word).ne_nil

/-- A quote has no blanks around it. -/
theorem trimmed_single : Text.Trimmed ['\''] := .singleton rfl

/-- A quote in quotes has no blanks around it. -/
theorem trimmed_splice : Text.Trimmed ['"', '\'', '"'] := by
  have trimmedDouble : Text.Trimmed ['"'] := .singleton rfl
  exact (trimmedDouble.append trimmed_single).append trimmedDouble

/-- A quoted part has no blanks around it. -/
theorem trimmed_quotePart (part : List Char) : Text.Trimmed (quotePart part) := by
  rw [quotePart]
  split
  · exact .nil
  · exact trimmed_single.around trimmed_single (List.cons_ne_nil _ _) (List.cons_ne_nil _ _) part

/-- Every end of the quoted parts is a quote. -/
theorem trimmed_parts (parts : List (List Char)) :
    Text.Trimmed (List.intercalate ['"', '\'', '"'] (parts.map quotePart)) := by
  induction parts with
  | nil => exact .nil
  | cons part others inductionHypothesis =>
      cases others with
      | nil => simpa using trimmed_quotePart part
      | cons next others =>
          have trimmedAll := ((trimmed_quotePart part).append trimmed_splice).append
            inductionHypothesis
          simpa only [List.map_cons, List.intercalate_cons_cons] using trimmedAll

/-- A rendered word neither starts nor ends with a blank. -/
theorem trimmed_render (word : String) : Text.Trimmed (render word).toList := by
  rw [render]
  split
  next plain =>
    have solid : ∀ character ∈ word.toList, Text.isBlank character = false := by
      simp only [isPlain, Bool.and_eq_true, Bool.not_eq_true', List.any_eq_false] at plain
      intro character member
      have ordinary := plain.2 character member
      simp only [isSpecial, Bool.or_eq_true, not_or, Bool.not_eq_true] at ordinary
      exact ordinary.1
    exact ⟨fun character member => solid character (List.mem_of_mem_head? member),
      fun character member => solid character (List.mem_of_getLast? member)⟩
  next =>
    rw [String.toList_ofList, quote]
    split
    · exact trimmed_single.append trimmed_single
    · exact trimmed_parts _

end Word

end TapeShell
