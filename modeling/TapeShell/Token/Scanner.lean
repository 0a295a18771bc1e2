/-
This file scans a line one character at a time. A step turns a character into marks, and the marks
are then joined into tokens.
-/

import TapeShell.Token
import TapeShell.Text.Alphanumeric
import TapeShell.Text.Blank

namespace TapeShell.Scanner

/-- A span is the innermost quotation that a character stands in. -/
inductive Span where
  | bare
  | single
  | double
  deriving DecidableEq, Repr

/-- The scanner remembers its span and the start of what it cannot decide yet. -/
inductive Mode where
  | inside (span : Span)
  | greater
  | dollar (span : Span)
  | named (span : Span) (name : List Char)
  | braced (span : Span) (name : List Char)
  deriving DecidableEq, Repr

/-- A glyph belongs to a word, and an opened quotation makes a word even if it stays empty. -/
inductive Mark where
  | glyph (character : Char)
  | opened
  | gap
  | operator (kind : Operator)
  deriving DecidableEq, Repr

/-- Without a lookup the dollar sign is an ordinary character. -/
abbrev Lookup := Option (String → Option String)

def glyphs (characters : List Char) : List Mark :=
  characters.map .glyph

/-- A value is taken as it stands, and a variable without a value is empty. -/
def expand (lookup : Lookup) (name : List Char) : List Mark :=
  match lookup with
  | none => []
  | some valueOf => glyphs ((valueOf (String.ofList name)).getD "").toList

def isNameCharacter (character : Char) : Bool :=
  Text.isAlphanumeric character || character == '_'

/-- This step reads a character outside every quotation. -/
def stepBare (lookup : Lookup) (character : Char) : List Mark × Mode :=
  if character = '"' then ([.opened], .inside .double)
  else if character = '\'' then ([.opened], .inside .single)
  else if character = '|' then ([.operator .pipe], .inside .bare)
  else if character = '<' then ([.operator .readFrom], .inside .bare)
  else if character = ';' then ([.operator .separator], .inside .bare)
  else if character = '>' then ([], .greater)
  else if Text.isBlank character then ([.gap], .inside .bare)
  else if character = '$' ∧ lookup.isSome then ([], .dollar .bare)
  else ([.glyph character], .inside .bare)

def stepInside (lookup : Lookup) : Span → Char → List Mark × Mode
  | .bare, character => stepBare lookup character
  | .single, character =>
      if character = '\'' then ([], .inside .bare) else ([.glyph character], .inside .single)
  | .double, character =>
      if character = '"' then ([], .inside .bare)
      else if character = '$' ∧ lookup.isSome then ([], .dollar .double)
      else ([.glyph character], .inside .double)

/-- These marks come before those of the step that follows them. -/
def after (marks : List Mark) (next : List Mark × Mode) : List Mark × Mode :=
  (marks ++ next.1, next.2)

def step (lookup : Lookup) : Mode → Char → List Mark × Mode
  | .inside span, character => stepInside lookup span character
  | .greater, character =>
      if character = '>' then ([.operator .appendTo], .inside .bare)
      else after [.operator .writeTo] (stepBare lookup character)
  | .dollar span, character =>
      if character = '?' then (expand lookup ['?'], .inside span)
      else if character = '\x7b' then ([], .braced span [])
      else if isNameCharacter character then ([], .named span [character])
      else after [.glyph '$'] (stepInside lookup span character)
  | .named span name, character =>
      if isNameCharacter character then ([], .named span (name ++ [character]))
      else after (expand lookup name) (stepInside lookup span character)
  | .braced span name, character =>
      if character = '\x7d' then (expand lookup name, .inside span)
      else ([], .braced span (name ++ [character]))

/-- The end of the line decides what the scanner left open. -/
def finish (lookup : Lookup) : Mode → List Mark
  | .inside _ => []
  | .greater => [.operator .writeTo]
  | .dollar _ => [.glyph '$']
  | .named _ name => expand lookup name
  | .braced _ name => glyphs ('$' :: '\x7b' :: name)

def scan (lookup : Lookup) : Mode → List Char → List Mark
  | mode, [] => finish lookup mode
  | mode, character :: rest =>
      (step lookup mode character).1 ++ scan lookup (step lookup mode character).2 rest

/-- The first component is the word that reaches the left end, if there is one. -/
abbrev Joined := Option (List Char) × List Token

def Joined.close : Joined → List Token
  | (none, tokens) => tokens
  | (some word, tokens) => .word (String.ofList word) :: tokens

def join (mark : Mark) (joined : Joined) : Joined :=
  match mark with
  | .glyph character => (some (character :: joined.1.getD []), joined.2)
  | .opened => (some (joined.1.getD []), joined.2)
  | .gap => (none, joined.close)
  | .operator kind => (none, .operator kind :: joined.close)

def tokens (marks : List Mark) : List Token :=
  (marks.foldr join (none, [])).close

end TapeShell.Scanner

namespace TapeShell.Token

/-- This function reads a line as it stands. -/
def scan (line : String) : List Token :=
  Scanner.tokens (Scanner.scan none (.inside .bare) line.toList)

/-- This function reads a line and replaces every variable outside single quotes. -/
def scanWith (valueOf : String → Option String) (line : String) : List Token :=
  Scanner.tokens (Scanner.scan (some valueOf) (.inside .bare) line.toList)

end TapeShell.Token
