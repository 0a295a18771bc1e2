/-
This file shows that a line is scanned segment by segment.
-/

import TapeShell.Proofs.Reference

namespace TapeShell

namespace Text

/-- Only blank text is trimmed to nothing. -/
theorem trimBlanks_eq_nil (text : List Char) :
    trimBlanks text = [] ↔ ∀ character ∈ text, isBlank character = true := by
  induction text with
  | nil => simp [trimBlanks]
  | cons character rest inductionHypothesis =>
      by_cases blank : isBlank character = true
      · rw [List.forall_mem_cons, ← inductionHypothesis]
        simp [trimBlanks, blank]
      · simp [trimBlanks, blank]

/-- What survives the loss of a blank at either end survives trimming. -/
theorem trimInduction {motive : List Char → Prop} {text : List Char} (holds : motive text)
    (front : ∀ blank rest, isBlank blank = true → motive (blank :: rest) → motive rest)
    (back : ∀ rest blank, isBlank blank = true → motive (rest ++ [blank]) → motive rest) :
    motive (trimBlanks text) := by
  have fronted : motive (text.dropWhile isBlank) := by
    induction text with
    | nil => exact holds
    | cons character rest inductionHypothesis =>
        rw [List.dropWhile_cons]
        split
        next blank => exact inductionHypothesis (front character rest blank holds)
        next => exact holds
  change motive ((text.dropWhile isBlank).rdropWhile isBlank)
  generalize text.dropWhile isBlank = remaining at fronted
  induction remaining using List.reverseRecOn with
  | nil => exact fronted
  | append_singleton rest character inductionHypothesis =>
      rw [List.rdropWhile_concat]
      split
      next blank => exact inductionHypothesis (back rest character blank fronted)
      next => exact fronted

/-- A blank is none of the other characters. -/
theorem ne_of_isBlank {blank : Char} (isBlank_blank : isBlank blank = true) {character : Char}
    (solid : isBlank character = false) : blank ≠ character := by
  rintro rfl
  rw [solid] at isBlank_blank
  cases isBlank_blank

end Text

namespace Segment

/-- A blank neither opens nor closes a quotation. -/
theorem nextQuote_blank (span : Scanner.Span) {blank : Char}
    (isBlank : Text.isBlank blank = true) : nextQuote span.quote blank = span.quote := by
  have notSingle := Text.ne_of_isBlank isBlank (show Text.isBlank '\'' = false by decide)
  have notDouble := Text.ne_of_isBlank isBlank (show Text.isBlank '"' = false by decide)
  exact Scanner.nextQuote_of_ne span notSingle notDouble

/-- A blank neither opens nor closes a quotation. -/
theorem foldl_append_blank (text : List Char) {blank : Char}
    (isBlank : Text.isBlank blank = true) :
    (text ++ [blank]).foldl nextQuote none = text.foldl nextQuote none := by
  obtain ⟨span, opened⟩ := Scanner.foldl_nextQuote_eq text
  rw [List.foldl_append, opened]
  exact nextQuote_blank span isBlank

/-- The semicolon between two texts stays inside a piece. -/
def Joins (first second : List Char) : Prop :=
  ∃ front left right back,
    pieces none (first ++ ';' :: second) = front ++ (left ++ ';' :: right) :: back ∧
      [';'].intercalate (front ++ [left]) = first ∧ [';'].intercalate (right :: back) = second

/-- A semicolon in a quotation cuts nothing. -/
theorem joins_of_quoted {first second : List Char} (quoted : first.foldl nextQuote none ≠ none) :
    Joins first second := by
  obtain ⟨front, left, right, back, start, rest, whole⟩ := pieces_join none first (';' :: second)
  rw [pieces_cons, if_neg (fun cut => quoted cut.1)] at rest
  obtain ⟨piece, others, found⟩ := List.exists_cons_of_ne_nil
    (pieces_ne_nil (nextQuote (first.foldl nextQuote none) ';') second)
  rw [found, List.modifyHead_cons, List.cons.injEq] at rest
  obtain ⟨rfl, rfl⟩ := rest
  exact ⟨front, left, piece, others, whole, by rw [← start, intercalate_pieces],
    by rw [← found, intercalate_pieces]⟩

end Segment

namespace Scanner

/-- Outside quotations a blank is a gap. -/
theorem stepBare_blank (lookup : Lookup) {blank : Char} (isBlank : Text.isBlank blank = true) :
    stepBare lookup blank = ([.gap], .inside .bare) := by
  have other (character : Char) (solid : Text.isBlank character = false) : blank ≠ character :=
    Text.ne_of_isBlank isBlank solid
  simp [stepBare, isBlank, other '"' (by decide), other '\'' (by decide), other '|' (by decide),
    other '<' (by decide), other ';' (by decide), other '>' (by decide)]

/-- A greater-than sign becomes an operator whatever follows it. -/
theorem operator_mem_scan_greater (lookup : Lookup) (rest : List Char) :
    ∃ kind, Mark.operator kind ∈ scan lookup .greater rest := by
  cases rest with
  | nil => exact ⟨.writeTo, List.mem_singleton_self _⟩
  | cons character rest =>
      rw [scan, step]
      split
      · exact ⟨.appendTo, by simp⟩
      · exact ⟨.writeTo, by simp [after]⟩

/-- Text that starts with a character that is not blank is not all gaps. -/
theorem mark_of_solid {character : Char} (solid : Text.isBlank character = false)
    (rest : List Char) :
    ∃ mark ∈ scan none (.inside .bare) (character :: rest), mark ≠ .gap := by
  rw [scan, step, stepInside]
  fun_cases stepBare none character with
  | case6 =>
      obtain ⟨kind, member⟩ := operator_mem_scan_greater none rest
      exact ⟨.operator kind, member, by simp⟩
  | case7 _ _ _ _ _ _ blank => simp [solid] at blank
  | case8 _ _ _ _ _ _ _ expands => simp at expands
  | _ => exact ⟨_, List.mem_cons_self, by simp⟩

end Scanner

namespace Token

/-- The tokens of a text that is read from outside every quotation. -/
def reading (lookup : Scanner.Lookup) (text : List Char) : List Token :=
  Scanner.tokens (Scanner.scan lookup (.inside .bare) text)

/-- A blank before a text adds no token. -/
theorem reading_blank (lookup : Scanner.Lookup) {blank : Char} (isBlank : Text.isBlank blank = true)
    (rest : List Char) : reading lookup (blank :: rest) = reading lookup rest := by
  rw [reading, Scanner.scan, Scanner.step, Scanner.stepInside, Scanner.stepBare_blank _ isBlank]
  exact Scanner.tokens_gap [] _

/-- A scan without values for the variables is such a reading. -/
theorem scan_eq_reading (line : String) : scan line = reading none line.toList := rfl

/-- The characters of a line are read as the line. -/
theorem scan_ofList (text : List Char) : scan (String.ofList text) = reading none text := by
  rw [scan_eq_reading, String.toList_ofList]

/-- A blank behind a text that closes its quotations adds no token. -/
theorem reading_append_blank {text : List Char} (closed : text.foldl Segment.nextQuote none = none)
    {blank : Char} (isBlank : Text.isBlank blank = true) :
    reading none (text ++ [blank]) = reading none text := by
  have other := Text.ne_of_isBlank isBlank (show Text.isBlank '>' = false by decide)
  rw [reading, Scanner.scan_append closed other, Scanner.scan, Scanner.step, Scanner.stepInside,
    Scanner.stepBare_blank none isBlank]
  exact (Scanner.tokens_gap _ []).trans (List.append_nil _)

/-- A semicolon outside quotations separates the tokens of its two sides. -/
theorem reading_separator {first : List Char} (closed : first.foldl Segment.nextQuote none = none)
    (rest : List Char) :
    reading none (first ++ ';' :: rest) =
      reading none first ++ .operator .separator :: reading none rest := by
  rw [reading, Scanner.scan_append closed (by decide)]
  exact Scanner.tokens_operator .separator _ _

/-- A single piece has no separator. -/
theorem separator_not_mem_reading {text : List Char} (whole : Segment.pieces none text = [text]) :
    Token.operator .separator ∉ reading none text := by
  have unreferred := Scanner.references_none (.inside .bare) trivial text
  rw [reading, Scanner.operator_mem_tokens]
  exact Scanner.separator_not_mem_scan none _ text (by simp [unreferred]) whole

/-- The separators of a text stand where it is cut into pieces. -/
theorem splitOn_reading {text : List Char} (closed : text.foldl Segment.nextQuote none = none) :
    (reading none text).splitOn (.operator .separator) =
      (Segment.pieces none text).map (reading none) := by
  induction text using Segment.cutInduction with
  | whole text single =>
      rw [List.splitOn_eq_singleton (separator_not_mem_reading single), single]
      rfl
  | cut first rest firstClosed single inductionHypothesis =>
      rw [reading_separator firstClosed,
        List.splitOn_append_cons_self_of_not_mem (separator_not_mem_reading single),
        inductionHypothesis (Segment.closed_right firstClosed closed),
        Segment.pieces_append none first rest firstClosed, single]
      rfl

/-- Only blank text has no tokens. -/
theorem reading_eq_nil (text : List Char) :
    reading none text = [] ↔ ∀ character ∈ text, Text.isBlank character = true := by
  induction text with
  | nil => simp [reading, Scanner.scan, Scanner.finish, Scanner.tokens, Scanner.Joined.close]
  | cons character rest inductionHypothesis =>
      cases solid : Text.isBlank character with
      | true =>
          rw [reading_blank none solid, inductionHypothesis, List.forall_mem_cons]
          simp [solid]
      | false =>
          obtain ⟨mark, member, notGap⟩ := Scanner.mark_of_solid solid rest
          rw [reading, Scanner.tokens_eq_nil]
          constructor
          · intro gaps
            exact absurd (gaps mark member) notGap
          · intro blank
            simp [solid] at blank

/-- Trimming takes no token from a text that closes its quotations. -/
theorem reading_trimBlanks {text : List Char} (closed : text.foldl Segment.nextQuote none = none) :
    reading none (Text.trimBlanks text) = reading none text := by
  -- A blank at the end adds no token only because the quotations before it stay closed.
  have trimmed : reading none (Text.trimBlanks text) = reading none text ∧
      (Text.trimBlanks text).foldl Segment.nextQuote none = none := by
    refine Text.trimInduction (motive := fun trimmed => reading none trimmed = reading none text ∧
      trimmed.foldl Segment.nextQuote none = none) ⟨rfl, closed⟩ ?_ ?_
    · intro blank rest isBlank ⟨same, restClosed⟩
      rw [reading_blank none isBlank] at same
      have opened := Segment.nextQuote_blank .bare isBlank
      rw [List.foldl_cons, show Segment.nextQuote none blank = none from opened] at restClosed
      exact ⟨same, restClosed⟩
    · intro rest blank isBlank ⟨same, restClosed⟩
      rw [Segment.foldl_append_blank rest isBlank] at restClosed
      rw [reading_append_blank restClosed isBlank] at same
      exact ⟨same, restClosed⟩
  exact trimmed.1

/-- The segments of a line have the tokens of the pieces that are not blank. -/
theorem map_scan_ofLine {line : String} (closed : Segment.quoteAfter line = none) :
    (Segment.ofLine line).map scan =
      ((Segment.pieces none line.toList).map (reading none)).filter
        fun group => !group.isEmpty := by
  have closedPieces := Segment.closed_of_mem_pieces closed
  rw [Segment.ofLine]
  generalize Segment.pieces none line.toList = pieces at closedPieces
  induction pieces with
  | nil => rfl
  | cons piece others inductionHypothesis =>
      obtain ⟨closedPiece, closedOthers⟩ := List.forall_mem_cons.mp closedPieces
      have tokens_eq := reading_trimBlanks closedPiece
      have dropped : (reading none piece).isEmpty = (Text.trimBlanks piece).isEmpty := by
        rw [Bool.eq_iff_iff, List.isEmpty_iff, List.isEmpty_iff, reading_eq_nil,
          Text.trimBlanks_eq_nil]
      have following := inductionHypothesis closedOthers
      rw [List.map_cons, List.map_cons, List.filter_cons, List.filter_cons, dropped]
      cases (Text.trimBlanks piece).isEmpty with
      | true => simpa using following
      | false => simpa [scan_ofList, tokens_eq] using following

/-- A line that closes its quotations is scanned segment by segment. -/
theorem scan_ofLine (line : String) (closed : Segment.quoteAfter line = none) :
    ((scan line).splitOn (.operator .separator)).filter (fun group => !group.isEmpty) =
        (Segment.ofLine line).map scan ∧
      (scan line).splitOn (.operator .separator) =
        (Segment.pieces none line.toList).map (fun piece => scan (String.ofList piece)) ∧
      (∀ first second, line = first ++ ";" ++ second → Segment.quoteAfter first ≠ none →
        Segment.Joins first.toList second.toList) ∧
      ∀ piece ∈ Segment.pieces none line.toList,
        Text.trimBlanks piece = [] ↔ scan (String.ofList piece) = [] := by
  have groups : (scan line).splitOn (.operator .separator) =
      (Segment.pieces none line.toList).map (reading none) := splitOn_reading closed
  refine ⟨?_, ?_, ?_, ?_⟩
  · rw [groups, map_scan_ofLine closed]
  · simpa only [scan_ofList] using groups
  · intro first second _ quoted
    exact Segment.joins_of_quoted quoted
  · intro piece _
    rw [scan_ofList, Text.trimBlanks_eq_nil, reading_eq_nil]

/-- The line quotes a semicolon, ends a segment in an operator and has a blank piece. -/
theorem scan_ofLine_quoted :
    Segment.quoteAfter "echo 'a;b' >;\u00a0; wc \"\" " = none ∧
      ((scan "echo 'a;b' >;\u00a0; wc \"\" ").splitOn (.operator .separator)).filter
          (fun group => !group.isEmpty) =
        ["echo 'a;b' >", "wc \"\""].map scan ∧
      Segment.quoteAfter "echo 'a" ≠ none ∧
      Segment.Joins "echo 'a".toList "b' >;\u00a0; wc \"\" ".toList ∧
      ['\u00a0'] ∈ Segment.pieces none "echo 'a;b' >;\u00a0; wc \"\" ".toList ∧
      (Text.trimBlanks ['\u00a0'] = [] ↔ scan (String.ofList ['\u00a0']) = []) := by
  have closed : Segment.quoteAfter "echo 'a;b' >;\u00a0; wc \"\" " = none := by decide +kernel
  have quoted : Segment.quoteAfter "echo 'a" ≠ none := by decide +kernel
  have member : ['\u00a0'] ∈ Segment.pieces none "echo 'a;b' >;\u00a0; wc \"\" ".toList := by
    decide +kernel
  obtain ⟨groups, -, joins, dropped⟩ := scan_ofLine _ closed
  have segments : Segment.ofLine "echo 'a;b' >;\u00a0; wc \"\" " = ["echo 'a;b' >", "wc \"\""] := by
    decide +kernel
  rw [segments] at groups
  exact ⟨closed, groups, quoted, joins _ _ (by decide +kernel) quoted, member, dropped _ member⟩

end Token

end TapeShell
