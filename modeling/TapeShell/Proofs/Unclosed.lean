/-
This file shows what the last segment of a line keeps of a quotation that the line leaves open.
-/

import TapeShell.Proofs.Segmentation

namespace TapeShell

namespace Text

/-- Blanks are dropped up to a character that is not blank. -/
theorem dropWhile_append_solid {character : Char} (solid : isBlank character = false)
    (left right : List Char) :
    (left ++ character :: right).dropWhile isBlank =
      left.dropWhile isBlank ++ character :: right := by
  induction left with
  | nil => simp [solid]
  | cons first left inductionHypothesis =>
      rw [List.cons_append, List.dropWhile_cons, List.dropWhile_cons]
      split
      · exact inductionHypothesis
      · rfl

/-- Around a character that is not blank each side is trimmed by itself. -/
theorem trimBlanks_append {character : Char} (solid : isBlank character = false)
    (left right : List Char) :
    trimBlanks (left ++ character :: right) =
      left.dropWhile isBlank ++ character :: right.rdropWhile isBlank := by
  rw [trimBlanks, dropWhile_append_solid solid, List.reverse_append, List.reverse_cons,
    List.append_assoc, List.singleton_append, dropWhile_append_solid solid]
  simp [List.rdropWhile]

end Text

namespace Segment

/-- The text leaves a quotation open that starts behind `before` and holds `span`. -/
structure LeavesOpen (text before : List Char) (quote : Char) (span : List Char) : Prop where
  text_eq : text = before ++ quote :: span
  closed : before.foldl nextQuote none = none
  isQuote : quote = '\'' ∨ quote = '"'
  unclosed : quote ∉ span

/-- A quotation stays open as long as its quote does not return. -/
theorem foldl_nextQuote_some {quote : Char} {span : List Char} (unclosed : quote ∉ span) :
    span.foldl nextQuote (some quote) = some quote := by
  induction span with
  | nil => rfl
  | cons character span inductionHypothesis =>
      obtain ⟨other, others⟩ := not_or.mp (mt List.mem_cons.mpr unclosed)
      rw [List.foldl_cons, nextQuote, if_neg (Ne.symm other), inductionHypothesis others]

namespace LeavesOpen

variable {text before span : List Char} {quote : Char}

/-- The text ends in the open quotation. -/
theorem foldl_eq (leavesOpen : LeavesOpen text before quote span) :
    text.foldl nextQuote none = some quote := by
  rw [leavesOpen.text_eq, List.foldl_append, leavesOpen.closed, List.foldl_cons, nextQuote,
    if_pos leavesOpen.isQuote, foldl_nextQuote_some leavesOpen.unclosed]

/-- No quote is blank. -/
theorem solid (leavesOpen : LeavesOpen text before quote span) : Text.isBlank quote = false := by
  rcases leavesOpen.isQuote with rfl | rfl <;> decide

/-- Text that closes its quotations may stand before it. -/
theorem append (leavesOpen : LeavesOpen text before quote span) {first : List Char}
    (closed : first.foldl nextQuote none = none) :
    LeavesOpen (first ++ text) (first ++ before) quote span where
  text_eq := by rw [leavesOpen.text_eq, List.append_assoc]
  closed := by rw [List.foldl_append, closed, leavesOpen.closed]
  isQuote := leavesOpen.isQuote
  unclosed := leavesOpen.unclosed

/-- The text ends in a blank only if the open quotation does. -/
theorem solid_last_iff (leavesOpen : LeavesOpen text before quote span) :
    (∀ last ∈ text.getLast?, Text.isBlank last = false) ↔ span.rdropWhile Text.isBlank = span := by
  rw [leavesOpen.text_eq, List.rdropWhile_eq_self_iff]
  cases span with
  | nil => simp [leavesOpen.solid]
  | cons character span => simp [List.getLast?_eq_some_getLast]

end LeavesOpen

/-- Text that does not close its quotations has a last quote that opens one. -/
theorem exists_leavesOpen {text : List Char} (opened : text.foldl nextQuote none ≠ none) :
    ∃ before quote span, LeavesOpen text before quote span := by
  induction text using List.reverseRecOn with
  | nil => exact absurd rfl opened
  | append_singleton text character inductionHypothesis =>
      rw [List.foldl_append, List.foldl_cons, List.foldl_nil] at opened
      by_cases closed : text.foldl nextQuote none = none
      · rw [closed, nextQuote] at opened
        split at opened
        next isQuote => exact ⟨text, character, [], rfl, closed, isQuote, List.not_mem_nil⟩
        next => exact absurd rfl opened
      · obtain ⟨before, quote, span, leavesOpen⟩ := inductionHypothesis closed
        rw [leavesOpen.foldl_eq, nextQuote] at opened
        have other : character ≠ quote := fun closing => opened (if_pos closing)
        refine ⟨before, quote, span ++ [character], ?_, leavesOpen.closed, leavesOpen.isQuote, ?_⟩
        · rw [leavesOpen.text_eq]
          simp
        · simp [leavesOpen.unclosed, other.symm]

/-- The last piece of a text is what follows its last semicolon outside quotations. -/
theorem exists_last_piece (text : List Char) :
    ∃ first piece earlier, text = first ++ piece ∧ first.foldl nextQuote none = none ∧
      (pieces none text).getLast? = some piece ∧
      Token.reading none text = earlier ++ Token.reading none piece := by
  induction text using cutInduction with
  | whole text single => exact ⟨[], text, [], rfl, rfl, by rw [single]; rfl, rfl⟩
  | cut start rest closed single inductionHypothesis =>
      obtain ⟨first, piece, earlier, rfl, firstClosed, last, tokens⟩ := inductionHypothesis
      refine ⟨start ++ ';' :: first, piece,
        Token.reading none start ++ .operator .separator :: earlier, by simp, ?_, ?_, ?_⟩
      · rw [List.foldl_append, closed]
        exact firstClosed
      · rw [pieces_append none start _ closed, List.getLast?_append, last]
        rfl
      · rw [Token.reading_separator closed, tokens]
        simp

/-- A last piece that is not blank is the last segment. -/
theorem getLast?_ofLine {line : String} {piece : List Char}
    (last : (pieces none line.toList).getLast? = some piece)
    (solid : Text.trimBlanks piece ≠ []) :
    (ofLine line).getLast? = some (String.ofList (Text.trimBlanks piece)) := by
  obtain ⟨front, found⟩ := List.getLast?_eq_some_iff.mp last
  rw [ofLine, found]
  simp [solid]

end Segment

namespace Scanner

/-- A quotation that is never closed is read to the end of the line. -/
theorem scan_open {quote : Char} (isQuote : quote = '\'' ∨ quote = '"') {span : List Char}
    (unclosed : quote ∉ span) :
    scan none (.inside .bare) (quote :: span) = .opened :: glyphs span := by
  have inside (quotation : Span)
      (keeps : ∀ character, character ≠ quote →
        stepInside none quotation character = ([.glyph character], .inside quotation)) :
      scan none (.inside quotation) span = glyphs span := by
    induction span with
    | nil => rfl
    | cons character span inductionHypothesis =>
        obtain ⟨other, others⟩ := not_or.mp (mt List.mem_cons.mpr unclosed)
        rw [scan, step, keeps character (Ne.symm other), inductionHypothesis others]
        rfl
  rcases isQuote with rfl | rfl
  · exact congrArg (.opened :: ·) (inside .single (by simp +contextual [stepInside]))
  · exact congrArg (.opened :: ·) (inside .double (by simp +contextual [stepInside]))

/-- A word at the end becomes the end of the last word. -/
theorem close_foldr_join (marks : List Mark) :
    ∃ words start, ∀ word, (marks.foldr join (some word, [])).close =
      words ++ [.word (String.ofList (start ++ word))] := by
  -- The marks are taken from the end, since only the last ones can touch the word.
  induction marks using List.reverseRecOn with
  | nil => exact ⟨[], [], fun word => rfl⟩
  | append_singleton marks mark inductionHypothesis =>
      obtain ⟨words, start, before⟩ := inductionHypothesis
      simp only [List.foldr_append, List.foldr_cons, List.foldr_nil]
      cases mark with
      | glyph character =>
          refine ⟨words, start ++ [character], fun word => ?_⟩
          rw [List.append_assoc]
          exact before (character :: word)
      | opened => exact ⟨words, start, before⟩
      | gap => exact ⟨tokens marks, [], fun word => denotes_tokens marks _⟩
      | operator kind =>
          refine ⟨tokens marks ++ [.operator kind], [], fun word => ?_⟩
          rw [List.append_assoc]
          exact denotes_tokens marks _

/-- An open quotation is the end of the last word. -/
theorem tokens_open (marks : List Mark) :
    ∃ words start, ∀ span, tokens (marks ++ .opened :: glyphs span) =
      words ++ [.word (String.ofList (start ++ span))] := by
  obtain ⟨words, start, closed⟩ := close_foldr_join marks
  refine ⟨words, start, fun span => ?_⟩
  have quoted : (.opened :: glyphs span).foldr join (none, []) = (some span, []) := by
    rw [List.foldr_cons, spells_glyphs]
    cases span <;> simp [fragment, lead, join]
  rw [tokens, List.foldr_append, quoted, closed]

end Scanner

namespace Token

/-- Behind the same text, open quotations end the same word. -/
theorem reading_open {before : List Char} (closed : before.foldl Segment.nextQuote none = none)
    {quote : Char} (isQuote : quote = '\'' ∨ quote = '"') :
    ∃ words start, ∀ span, quote ∉ span →
      reading none (before ++ quote :: span) =
        words ++ [.word (String.ofList (start ++ span))] := by
  obtain ⟨words, start, tokens⟩ :=
    Scanner.tokens_open (Scanner.scan none (.inside .bare) before)
  have other : quote ≠ '>' := by rcases isQuote with rfl | rfl <;> decide
  refine ⟨words, start, fun span unclosed => ?_⟩
  rw [reading, Scanner.scan_append closed other, Scanner.scan_open isQuote unclosed, tokens]

/-- Blanks in front of a text add no token. -/
theorem reading_dropWhile (text rest : List Char) :
    reading none (text.dropWhile Text.isBlank ++ rest) = reading none (text ++ rest) := by
  induction text with
  | nil => rfl
  | cons character text inductionHypothesis =>
      rw [List.dropWhile_cons]
      split
      next blank => rw [inductionHypothesis, List.cons_append, reading_blank none blank]
      next => rfl

/-- Trimming takes the blanks from the end of the open quotation only. -/
theorem reading_trimBlanks_open {text before span : List Char} {quote : Char}
    (leavesOpen : Segment.LeavesOpen text before quote span) :
    ∃ words start, reading none text = words ++ [.word (String.ofList (start ++ span))] ∧
      reading none (Text.trimBlanks text) =
        words ++ [.word (String.ofList (start ++ span.rdropWhile Text.isBlank))] := by
  obtain ⟨words, start, read⟩ := reading_open leavesOpen.closed leavesOpen.isQuote
  have stillOpen : quote ∉ span.rdropWhile Text.isBlank :=
    fun member => leavesOpen.unclosed ((List.rdropWhile_prefix _ _).subset member)
  refine ⟨words, start, ?_, ?_⟩
  · rw [leavesOpen.text_eq, read span leavesOpen.unclosed]
  · rw [leavesOpen.text_eq, Text.trimBlanks_append leavesOpen.solid, reading_dropWhile,
      read _ stillOpen]

/-- An open quotation ends the last segment, without the blanks at the end of the line. -/
theorem scan_unclosed (line : String) (unclosed : Segment.quoteAfter line ≠ none) :
    ∃ before quote span segment earlier words start,
      Segment.LeavesOpen line.toList before quote span ∧
      (Segment.ofLine line).getLast? = some segment ∧
      scan line = earlier ++ words ++ [.word (String.ofList (start ++ span))] ∧
      scan segment = words ++ [.word (String.ofList (start ++ span.rdropWhile Text.isBlank))] ∧
      ((scan segment).getLast? = (scan line).getLast? ↔
        ∀ last ∈ line.toList.getLast?, Text.isBlank last = false) := by
  obtain ⟨first, piece, earlier, split, closed, last, tokens⟩ :=
    Segment.exists_last_piece line.toList
  have opened : piece.foldl Segment.nextQuote none ≠ none := by
    rwa [Segment.quoteAfter, split, List.foldl_append, closed] at unclosed
  obtain ⟨before, quote, span, leavesOpen⟩ := Segment.exists_leavesOpen opened
  have whole : Segment.LeavesOpen line.toList (first ++ before) quote span :=
    split ▸ leavesOpen.append closed
  obtain ⟨words, start, untrimmed, trimmed⟩ := reading_trimBlanks_open leavesOpen
  have solid : Text.trimBlanks piece ≠ [] := by
    rw [leavesOpen.text_eq, Text.trimBlanks_append leavesOpen.solid]
    simp
  have scanLine : scan line = earlier ++ words ++ [.word (String.ofList (start ++ span))] := by
    rw [List.append_assoc, ← untrimmed]
    exact tokens
  have scanSegment := (scan_ofList (Text.trimBlanks piece)).trans trimmed
  refine ⟨_, quote, span, _, earlier, words, start, whole, Segment.getLast?_ofLine last solid,
    scanLine, scanSegment, ?_⟩
  rw [scanSegment, scanLine, whole.solid_last_iff]
  simp [← String.toList_inj]

/-- The line ends in a semicolon that is quoted. -/
theorem scan_unclosed_quoted :
    Segment.quoteAfter "ls; echo 'a b'\" c ;" ≠ none ∧
      ∃ segment, (Segment.ofLine "ls; echo 'a b'\" c ;").getLast? = some segment ∧
        (scan segment).getLast? = (scan "ls; echo 'a b'\" c ;").getLast? := by
  have unclosed : Segment.quoteAfter "ls; echo 'a b'\" c ;" ≠ none := by decide +kernel
  have solid : "ls; echo 'a b'\" c ;".toList.getLast? = some ';' := by decide +kernel
  obtain ⟨_, _, _, segment, _, _, _, -, last, -, -, exactly⟩ := scan_unclosed _ unclosed
  refine ⟨unclosed, segment, last, exactly.mpr ?_⟩
  rw [solid]
  rintro _ ⟨⟩
  decide

/-- The blank at the end belongs to the line and not to its segment. -/
theorem scan_unclosed_blank :
    Segment.quoteAfter "echo \"a " ≠ none ∧
      (Segment.ofLine "echo \"a ").getLast? = some "echo \"a" ∧
      (scan "echo \"a").getLast? = some (.word "a") ∧
      (scan "echo \"a ").getLast? = some (.word "a ") ∧
      (scan "echo \"a").getLast? ≠ (scan "echo \"a ").getLast? := by
  decide +kernel

end Token

end TapeShell
