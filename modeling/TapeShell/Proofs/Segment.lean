/-
This file says how a line falls into segments.
-/

import Mathlib.Data.List.Basic
import Mathlib.Data.List.DropRight
import TapeShell.Segment

namespace TapeShell

namespace Text

/-- Trimmed text neither starts nor ends with a blank. -/
structure Trimmed (text : List Char) : Prop where
  first : ∀ character ∈ text.head?, isBlank character = false
  last : ∀ character ∈ text.getLast?, isBlank character = false

/-- No blank is dropped in front of a text that starts with none. -/
theorem dropWhile_isBlank {text : List Char}
    (first : ∀ character ∈ text.head?, isBlank character = false) :
    text.dropWhile isBlank = text := by
  cases text with
  | nil => rfl
  | cons character rest => simp [first character rfl]

namespace Trimmed

variable {left right : List Char}

/-- Trimming leaves trimmed text as it is. -/
theorem trimBlanks_eq (trimmed : Trimmed left) : trimBlanks left = left := by
  rw [trimBlanks, dropWhile_isBlank trimmed.first, dropWhile_isBlank, List.reverse_reverse]
  rw [List.head?_reverse]
  exact trimmed.last

/-- The empty text is trimmed. -/
theorem nil : Trimmed [] := ⟨nofun, nofun⟩

/-- A character that is not blank is trimmed. -/
theorem singleton {character : Char} (solid : isBlank character = false) :
    Trimmed [character] := by
  constructor <;> simpa using solid

/-- Text without blanks is trimmed. -/
theorem of_forall {text : List Char} (solid : ∀ character ∈ text, isBlank character = false) :
    Trimmed text where
  first := fun character member => solid character (List.mem_of_mem_head? member)
  last := fun character member => solid character (List.mem_of_mem_getLast? member)

/-- Each text may be empty, and then the other one has both ends. -/
theorem append (trimmedLeft : Trimmed left) (trimmedRight : Trimmed right) :
    Trimmed (left ++ right) where
  first := by
    rw [List.head?_append]
    intro character member
    rcases left with _ | ⟨head, rest⟩
    · exact trimmedRight.first character member
    · exact trimmedLeft.first character member
  last := by
    rw [List.getLast?_append]
    intro character member
    rcases Option.or_eq_some_iff.mp member with inRight | ⟨_, inLeft⟩
    · exact trimmedRight.last character inRight
    · exact trimmedLeft.last character inLeft

/-- What stands between two texts does not matter if neither is empty. -/
theorem around (trimmedLeft : Trimmed left) (trimmedRight : Trimmed right) (leftText : left ≠ [])
    (rightText : right ≠ []) (middle : List Char) : Trimmed (left ++ middle ++ right) where
  first := by
    rw [List.append_assoc, List.head?_append_of_ne_nil _ leftText]
    exact trimmedLeft.first
  last := by
    rw [List.getLast?_append_of_ne_nil _ rightText]
    exact trimmedRight.last

/-- A blank at the end is all that is trimmed. -/
theorem trimBlanks_append_blank (trimmed : Trimmed left) (text : left ≠ []) {blank : Char}
    (isBlank_blank : isBlank blank) : trimBlanks (left ++ [blank]) = left := by
  have start : (left ++ [blank]).dropWhile isBlank = left ++ [blank] := by
    apply dropWhile_isBlank
    rw [List.head?_append_of_ne_nil _ text]
    exact trimmed.first
  have finish : left.reverse.dropWhile isBlank = left.reverse := by
    apply dropWhile_isBlank
    rw [List.head?_reverse]
    exact trimmed.last
  rw [trimBlanks, start, List.reverse_append, List.reverse_singleton, List.singleton_append,
    List.dropWhile_cons_of_pos isBlank_blank, finish, List.reverse_reverse]

end Trimmed

end Text

namespace Segment

/-- The quotation that a line leaves open, if any. -/
def quoteAfter (line : String) : Option Char :=
  line.toList.foldl nextQuote none

/-- Even an empty line has one piece. -/
theorem pieces_ne_nil (quote : Option Char) (text : List Char) : pieces quote text ≠ [] := by
  cases text with
  | nil => exact List.cons_ne_nil _ _
  | cons character rest =>
      rw [pieces]
      split
      · exact List.cons_ne_nil _ _
      · split <;> exact List.cons_ne_nil _ _

/-- A character that does not cut joins the piece that follows it. -/
theorem pieces_cons (quote : Option Char) (character : Char) (rest : List Char) :
    pieces quote (character :: rest) =
      if quote = none ∧ character = ';' then [] :: pieces none rest
      else (pieces (nextQuote quote character) rest).modifyHead (character :: ·) := by
  rw [pieces]
  split
  · rfl
  · split
    next empty => exact absurd empty (pieces_ne_nil _ _)
    next piece others found => rw [found, List.modifyHead_cons]

/-- A semicolon outside quotations separates the pieces of its two sides. -/
theorem pieces_append (quote : Option Char) (first second : List Char)
    (closed : first.foldl nextQuote quote = none) :
    pieces quote (first ++ ';' :: second) = pieces quote first ++ pieces none second := by
  induction first generalizing quote with
  | nil =>
      have outside : quote = none := closed
      rw [List.nil_append, pieces_cons, if_pos ⟨outside, rfl⟩]
      rfl
  | cons character rest inductionHypothesis =>
      rw [List.cons_append, pieces_cons, pieces_cons]
      split
      next cut =>
        obtain ⟨rfl, rfl⟩ := cut
        rw [inductionHypothesis none closed, List.cons_append]
      next =>
        -- The character joins the first piece of `first`, which has one even if it is empty.
        rw [inductionHypothesis _ closed]
        obtain ⟨piece, others, found⟩ :=
          List.exists_cons_of_ne_nil (pieces_ne_nil (nextQuote quote character) rest)
        rw [found]
        rfl

/-- Either no semicolon cuts the text, or the first one that does ends the first piece. -/
theorem pieces_cut (quote : Option Char) (text : List Char) :
    pieces quote text = [text] ∨
      ∃ first rest, text = first ++ ';' :: rest ∧ first.foldl nextQuote quote = none ∧
        pieces quote first = [first] ∧ pieces quote text = first :: pieces none rest := by
  induction text generalizing quote with
  | nil => exact .inl rfl
  | cons character text inductionHypothesis =>
      rw [pieces_cons]
      split
      next cut =>
        obtain ⟨rfl, rfl⟩ := cut
        exact .inr ⟨[], text, rfl, rfl, rfl, rfl⟩
      next uncut =>
        rcases inductionHypothesis (nextQuote quote character) with
          whole | ⟨first, rest, rfl, closed, piece, found⟩
        · exact .inl (by rw [whole, List.modifyHead_cons])
        · refine .inr ⟨character :: first, rest, rfl, closed, ?_, ?_⟩
          · rw [pieces_cons, if_neg uncut, piece, List.modifyHead_cons]
          · rw [found, List.modifyHead_cons]

/-- Text without a semicolon stays in one piece. -/
theorem pieces_of_not_mem {quote : Option Char} {text : List Char} (uncut : ';' ∉ text) :
    pieces quote text = [text] := by
  rcases pieces_cut quote text with whole | ⟨first, rest, rfl, -⟩
  · exact whole
  · exact absurd (by simp) uncut

/-- Trimmed text without a semicolon is a segment of its own. -/
theorem ofLine_of_not_mem {line : String} (uncut : ';' ∉ line.toList)
    (trimmed : Text.Trimmed line.toList) (nonempty : line.toList ≠ []) : ofLine line = [line] := by
  rw [ofLine, pieces_of_not_mem uncut]
  simp [trimmed.trimBlanks_eq, nonempty]

/-- The pieces with their semicolons are the whole text. -/
theorem intercalate_pieces (quote : Option Char) (text : List Char) :
    [';'].intercalate (pieces quote text) = text := by
  induction text generalizing quote with
  | nil => rfl
  | cons character text inductionHypothesis =>
      rw [pieces_cons]
      split
      next cut =>
        obtain ⟨rfl, rfl⟩ := cut
        obtain ⟨piece, others, found⟩ := List.exists_cons_of_ne_nil (pieces_ne_nil none text)
        rw [found, List.intercalate_cons_cons, ← found, inductionHypothesis]
        rfl
      next uncut =>
        have rejoined := inductionHypothesis (nextQuote quote character)
        rcases found : pieces (nextQuote quote character) text with
          _ | ⟨piece, _ | ⟨second, others⟩⟩
        · exact absurd found (pieces_ne_nil _ _)
        · simp_all
        · rw [found, List.intercalate_cons_cons] at rejoined
          simp [← rejoined]

/-- The last piece of a text and the first piece of what follows it are one piece. -/
theorem pieces_join (quote : Option Char) (first second : List Char) :
    ∃ front left right back, pieces quote first = front ++ [left] ∧
      pieces (first.foldl nextQuote quote) second = right :: back ∧
      pieces quote (first ++ second) = front ++ (left ++ right) :: back := by
  induction first generalizing quote with
  | nil =>
      obtain ⟨right, back, found⟩ := List.exists_cons_of_ne_nil (pieces_ne_nil quote second)
      exact ⟨[], [], right, back, rfl, found, found⟩
  | cons character first inductionHypothesis =>
      rw [List.cons_append, pieces_cons, pieces_cons, List.foldl_cons]
      split
      next cut =>
        obtain ⟨rfl, rfl⟩ := cut
        obtain ⟨front, left, right, back, start, rest, whole⟩ := inductionHypothesis none
        exact ⟨[] :: front, left, right, back, by rw [start]; rfl, rest, by rw [whole]; rfl⟩
      next uncut =>
        obtain ⟨front, left, right, back, start, rest, whole⟩ :=
          inductionHypothesis (nextQuote quote character)
        rw [start, whole]
        cases front with
        | nil => exact ⟨[], character :: left, right, back, rfl, rest, rfl⟩
        | cons piece front =>
            exact ⟨(character :: piece) :: front, left, right, back, rfl, rest, rfl⟩

/-- Text in one piece is not cut at its first character. -/
theorem pieces_tail {quote : Option Char} {character : Char} {rest : List Char}
    (whole : pieces quote (character :: rest) = [character :: rest]) :
    ¬(quote = none ∧ character = ';') ∧ pieces (nextQuote quote character) rest = [rest] := by
  rw [pieces_cons] at whole
  split at whole
  next => simp at whole
  next uncut =>
    obtain ⟨piece, others, found⟩ :=
      List.exists_cons_of_ne_nil (pieces_ne_nil (nextQuote quote character) rest)
    exact ⟨uncut, by simpa [found] using whole⟩

/-- The start of text in one piece is in one piece. -/
theorem pieces_left {quote : Option Char} {first second : List Char}
    (whole : pieces quote (first ++ second) = [first ++ second]) :
    pieces quote first = [first] := by
  obtain ⟨front, left, right, back, start, -, joined⟩ := pieces_join quote first second
  obtain ⟨rfl, -⟩ : front = [] ∧ left ++ right = first ++ second ∧ back = [] := by
    simpa [joined, List.append_eq_cons_iff] using whole
  have rejoined := intercalate_pieces quote first
  rw [start, List.nil_append, List.intercalate_singleton] at rejoined
  rw [start, rejoined, List.nil_append]

/-- A text is one piece, or it is one piece, a semicolon and another text. -/
theorem cutInduction {motive : List Char → Prop}
    (whole : ∀ text, pieces none text = [text] → motive text)
    (cut : ∀ first rest, first.foldl nextQuote none = none → pieces none first = [first] →
      motive rest → motive (first ++ ';' :: rest)) (text : List Char) : motive text := by
  rcases pieces_cut none text with single | ⟨first, rest, rfl, closed, single, -⟩
  · exact whole text single
  · exact cut first rest closed single (cutInduction whole cut rest)
termination_by text.length

/-- What follows a semicolon outside quotations closes its quotations by itself. -/
theorem closed_right {first rest : List Char} (closed : first.foldl nextQuote none = none)
    (whole : (first ++ ';' :: rest).foldl nextQuote none = none) :
    rest.foldl nextQuote none = none := by
  rwa [List.foldl_append, closed] at whole

/-- A piece of text that closes its quotations closes its own. -/
theorem closed_of_mem_pieces {text : List Char} (closed : text.foldl nextQuote none = none) :
    ∀ piece ∈ pieces none text, piece.foldl nextQuote none = none := by
  induction text using cutInduction with
  | whole text single => simpa [single] using closed
  | cut first rest firstClosed single inductionHypothesis =>
      rw [pieces_append none first rest firstClosed, single]
      exact List.forall_mem_cons.mpr
        ⟨firstClosed, inductionHypothesis (closed_right firstClosed closed)⟩

/-- A piece is not cut again. -/
theorem pieces_of_mem_pieces {text : List Char} :
    ∀ piece ∈ pieces none text, pieces none piece = [piece] := by
  induction text using cutInduction with
  | whole text single => simp [single]
  | cut first rest closed single inductionHypothesis =>
      rw [pieces_append none first rest closed, single]
      exact List.forall_mem_cons.mpr ⟨single, inductionHypothesis⟩

/-- The segments of a line are those before a semicolon outside quotations and those after it. -/
theorem ofLine_append (first second : String) (closed : quoteAfter first = none) :
    ofLine (first ++ ";" ++ second) = ofLine first ++ ofLine second := by
  have characters : (first ++ ";" ++ second).toList = first.toList ++ ';' :: second.toList := by
    simp
  rw [ofLine, characters, pieces_append none _ _ closed, List.map_append, List.filter_append,
    List.map_append]
  rfl

/-- A blank before a line adds nothing to its segments. -/
theorem ofLine_blank (line : String) : ofLine (" " ++ line) = ofLine line := by
  have characters : (" " ++ line).toList = ' ' :: line.toList := by simp
  obtain ⟨piece, others, found⟩ := List.exists_cons_of_ne_nil (pieces_ne_nil none line.toList)
  have trimmed : Text.trimBlanks (' ' :: piece) = Text.trimBlanks piece := rfl
  rw [ofLine, ofLine, characters, pieces_cons, if_neg (by decide),
    show nextQuote none ' ' = none from rfl, found, List.modifyHead_cons, List.map_cons,
    List.map_cons, trimmed]

end Segment

end TapeShell
