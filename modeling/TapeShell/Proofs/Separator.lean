/-
This file shows when no segment of a line is read as holding a separator.
-/

import TapeShell.Proofs.Grammar
import TapeShell.Proofs.Segmentation
import TapeShell.Proofs.Sequence

namespace TapeShell

namespace Segment

/-- Every reference of the segment leaves its quotation as it is. -/
def Neutral (segment : String) : Prop :=
  ∀ reference ∈ Scanner.references (some fun _ => none) (.inside .bare) segment.toList,
    Scanner.Neutral reference

instance (segment : String) : Decidable (Neutral segment) :=
  inferInstanceAs (Decidable (∀ reference ∈ _, _))

/-- A segment is not cut again. -/
theorem pieces_of_mem_ofLine {line segment : String} (member : segment ∈ ofLine line) :
    pieces none segment.toList = [segment.toList] := by
  simp only [ofLine, List.mem_map, List.mem_filter] at member
  obtain ⟨trimmed, ⟨⟨piece, inPieces, rfl⟩, -⟩, rfl⟩ := member
  rw [String.toList_ofList]
  refine Text.trimInduction (motive := fun text => pieces none text = [text])
    (pieces_of_mem_pieces piece inPieces) ?_ ?_
  · intro blank rest isBlank whole
    have restWhole := (pieces_tail whole).2
    rwa [show nextQuote none blank = none from nextQuote_blank .bare isBlank] at restWhole
  · intro rest blank _ whole
    exact pieces_left whole

/-- A segment with neutral references has no separator, whatever the variables are. -/
theorem separator_not_mem_scanWith {line segment : String} (member : segment ∈ ofLine line)
    (neutral : Neutral segment) (valueOf : String → Option String) :
    Token.operator .separator ∉ Token.scanWith valueOf segment := by
  have sameReferences : Scanner.references (some valueOf) (.inside .bare) segment.toList =
      Scanner.references (some fun _ => none) (.inside .bare) segment.toList := by
    apply Scanner.references_congr
    rfl
  rw [Neutral, ← sameReferences] at neutral
  rw [Token.scanWith, Scanner.operator_mem_tokens]
  exact Scanner.separator_not_mem_scan _ _ _ neutral (pieces_of_mem_ofLine member)

end Segment

namespace Pipeline

/-- Only a separator is reported as one. -/
theorem separator_mem_of_error {tokens : List Token}
    (reported : ofTokens tokens = .error .unexpectedSeparator) : .operator .separator ∈ tokens := by
  have justified := ofTokens_justified tokens
  rw [reported] at justified
  cases justified with
  | @token before after token _ split _ found =>
      subst split
      fun_cases faultAt before token after with
      | case4 => simp
      | _ => simp_all [faultAt]

end Pipeline

namespace Machine

/-- The syntax faults that the segments report, in the order in which they run. -/
def syntaxFaults (catalog : Catalog) (machine : Machine) :
    List String → List Pipeline.SyntaxFault
  | [] => []
  | segment :: rest =>
      let next := (machine.runSegment catalog segment).keepStatus.machine
      match Pipeline.ofTokens (Token.scanWith machine.session.valueOf? segment) with
      | .ok _ => next.syntaxFaults catalog rest
      | .error fault => fault :: next.syntaxFaults catalog rest

/-- Segments without separators report none, whatever the earlier ones did to the variables. -/
theorem separator_not_mem_syntaxFaults (catalog : Catalog) (machine : Machine)
    (segments : List String)
    (unseparated : ∀ segment ∈ segments, ∀ valueOf,
      Token.operator .separator ∉ Token.scanWith valueOf segment) :
    .unexpectedSeparator ∉ machine.syntaxFaults catalog segments := by
  induction segments generalizing machine with
  | nil => exact List.not_mem_nil
  | cons segment rest inductionHypothesis =>
      obtain ⟨segmentUnseparated, restUnseparated⟩ := List.forall_mem_cons.mp unseparated
      have following := fun next => inductionHypothesis next restUnseparated
      rw [syntaxFaults]
      cases result : Pipeline.ofTokens (Token.scanWith machine.session.valueOf? segment) with
      | ok pipeline => exact following _
      | error fault =>
          intro member
          rcases List.mem_cons.mp member with rfl | later
          · exact segmentUnseparated _ (Pipeline.separator_mem_of_error result)
          · exact following _ later

/-- Where every reference is neutral, no segment has a separator. -/
theorem runLine_unseparated (line : String)
    (neutral : ∀ segment ∈ Segment.ofLine line, Segment.Neutral segment) :
    (∀ segment ∈ Segment.ofLine line, ∀ session : Session,
        Token.operator .separator ∉ Token.scanWith session.valueOf? segment) ∧
      ∀ catalog machine,
        .unexpectedSeparator ∉ syntaxFaults catalog machine (Segment.ofLine line) := by
  have unseparated (segment : String) (member : segment ∈ Segment.ofLine line) :=
    Segment.separator_not_mem_scanWith member (neutral segment member)
  refine ⟨fun segment member session => unseparated segment member _, fun catalog machine => ?_⟩
  exact separator_not_mem_syntaxFaults catalog machine _ unseparated

/-- The names of these references hold quotes that are closed again or stand in other quotes. -/
theorem runLine_unseparated_quoted :
    (∀ segment ∈ Segment.ofLine "echo \"$\x7ba'b\x7d;\" $\x7b';'\x7d ; wc '$\x7b'\x7d",
        Segment.Neutral segment) ∧
      "wc '$\x7b'\x7d" ∈ Segment.ofLine "echo \"$\x7ba'b\x7d;\" $\x7b';'\x7d ; wc '$\x7b'\x7d" ∧
      Token.operator .separator ∉
        Token.scanWith (Session.start "/").valueOf? "wc '$\x7b'\x7d" ∧
      .unexpectedSeparator ∉ syntaxFaults .standard ⟨.start "/", .fresh⟩
        (Segment.ofLine "echo \"$\x7ba'b\x7d;\" $\x7b';'\x7d ; wc '$\x7b'\x7d") := by
  have neutral : ∀ segment ∈ Segment.ofLine
      "echo \"$\x7ba'b\x7d;\" $\x7b';'\x7d ; wc '$\x7b'\x7d", Segment.Neutral segment := by
    decide +kernel
  have member : "wc '$\x7b'\x7d" ∈ Segment.ofLine
      "echo \"$\x7ba'b\x7d;\" $\x7b';'\x7d ; wc '$\x7b'\x7d" := by decide +kernel
  obtain ⟨unseparated, unreported⟩ := runLine_unseparated _ neutral
  exact ⟨neutral, member, unseparated _ member _, unreported _ _⟩

/-- A quote in a name hides a separator from the segments. -/
theorem runLine_separated :
    Segment.ofLine "echo $\x7b'\x7da ; echo $\x7b'\x7db" =
        ["echo $\x7b'\x7da ; echo $\x7b'\x7db"] ∧
      Token.operator .separator ∈ Token.scanWith (Session.start "/home").valueOf?
        "echo $\x7b'\x7da ; echo $\x7b'\x7db" ∧
      syntaxFaults .standard ⟨.start "/home", .fresh⟩
          (Segment.ofLine "echo $\x7b'\x7da ; echo $\x7b'\x7db") =
        [.unexpectedSeparator] ∧
      (runLine .standard ⟨.start "/home", .fresh⟩
          "echo $\x7b'\x7da ; echo $\x7b'\x7db").transcript.diagnostics =
        ["koma: syntax error near unexpected token ';'"] := by
  decide +kernel

end Machine

end TapeShell
