import ApiContext.Text.Digits
import ApiContext.Yaml.Basic

/-! Scalars, plain and quoted. Inside a scalar a single line feed reads as a space, and of several
line breaks a line feed that comes first is dropped. -/
namespace ApiContext.Yaml
open Text

/-- What separates two stretches of a scalar: nothing, blanks, or line breaks, of which the first
one is missing if a backslash hides it. -/
inductive Fold where
  | none
  | blanks (cs : List Char)
  | breaks (first : Option Char) (more : List Char)

namespace Fold

def isNone : Fold → Bool
  | .none => true
  | _ => false

def isBreaks : Fold → Bool
  | .breaks .. => true
  | _ => false

def addBlank (c : Char) : Fold → Fold
  | .none => .blanks [c]
  | .blanks cs => .blanks (cs ++ [c])
  | f => f

def addBreak (c : Char) : Fold → Fold
  | .breaks first more => .breaks first (more ++ [c])
  | _ => .breaks (some c) []

def joined : Fold → List Char
  | .none => []
  | .blanks cs => cs
  | .breaks (some '\n') [] => [' ']
  | .breaks (some '\n') more => more
  | .breaks first more => first.toList ++ more

end Fold

/-- A scalar with what follows it, and whether a key may start there. -/
structure Scanned where
  text : List Char
  cursor : Cursor
  fresh : Bool

def isFlowIndicator (c : Char) : Bool :=
  c == ',' || c == '[' || c == ']' || c == '\x7b' || c == '\x7d'

/-- Where a plain scalar ends: before a comment, a marker, a key's colon, less indented text, and
inside a flow collection before its punctuation. -/
def plainEnds (flow : Bool) (limit : Nat) (fold : Fold) (column : Nat) (c : Char)
    (rest : List Char) : Bool :=
  (!fold.isNone && c == '#')
    || (fold.isBreaks && (atMarker column (c :: rest) || (!flow && column < limit)))
    || (c == ':' && endsToken rest)
    || (flow && isFlowIndicator c)

/-- In a flow collection a colon may not touch its punctuation. -/
def isStrayColon (flow : Bool) (c : Char) (rest : List Char) : Bool :=
  flow && c == ':' && rest.head?.any fun d => isFlowIndicator d || d == '?'

/-- Continuation lines of a plain scalar stand at column `limit` or beyond. -/
def plain (flow : Bool) (limit : Nat) (text : List Char) (fold : Fold) (line column : Nat) :
    List Char → Option Scanned
  | [] => some ⟨text, ⟨[], line, column⟩, fold.isBreaks⟩
  | c :: rest =>
    if isBreak c then plain flow limit text (fold.addBreak c) (line + 1) 0 rest
    else if isBlank c then
      if c = '\t' && fold.isBreaks && column < limit then none
      else plain flow limit text (fold.addBlank c) line (column + 1) rest
    else if plainEnds flow limit fold column c rest then
      some ⟨text, ⟨c :: rest, line, column⟩, fold.isBreaks⟩
    else if isStrayColon flow c rest then none
    else plain flow limit (text ++ fold.joined ++ [c]) .none line (column + 1) rest

/-- What a single character after a backslash stands for. -/
def escape? : Char → Option Char
  | '0' => some '\x00'
  | 'a' => some '\x07'
  | 'b' => some '\x08'
  | 't' => some '\t'
  | '\t' => some '\t'
  | 'n' => some '\n'
  | 'v' => some '\x0b'
  | 'f' => some '\x0c'
  | 'r' => some '\r'
  | 'e' => some '\x1b'
  | ' ' => some ' '
  | '"' => some '"'
  | '/' => some '/'
  | '\\' => some '\\'
  | 'N' => some '\u0085'
  | '_' => some '\u00a0'
  | 'L' => some '\u2028'
  | 'P' => some '\u2029'
  | _ => none

/-- A character by its code point in hexadecimal digits; surrogates are none. -/
def codePoint? (digits : List Char) : Option Char :=
  (hexadecimal? digits).bind fun n => if n.isValidChar then some (.ofNat n) else none

/-- The rest of a single-quoted scalar, in which a quote is written twice. -/
def singleQuoted (text : List Char) (fold : Fold) (line column : Nat) :
    List Char → Option Scanned
  | [] => none
  | '\'' :: '\'' :: rest =>
    singleQuoted (text ++ fold.joined ++ ['\'']) .none line (column + 2) rest
  | '\'' :: rest => some ⟨text ++ fold.joined, ⟨rest, line, column + 1⟩, false⟩
  | c :: rest =>
    if isBreak c then singleQuoted text (fold.addBreak c) (line + 1) 0 rest
    else if isBlank c then singleQuoted text (fold.addBlank c) line (column + 1) rest
    else if atMarker column (c :: rest) then none
    else singleQuoted (text ++ fold.joined ++ [c]) .none line (column + 1) rest

/-- The rest of a double-quoted scalar. A backslash at the end of a line joins it to the next. -/
def doubleQuoted (text : List Char) (fold : Fold) (line column : Nat) :
    List Char → Option Scanned
  | [] => none
  | '"' :: rest => some ⟨text ++ fold.joined, ⟨rest, line, column + 1⟩, false⟩
  | '\\' :: 'x' :: a :: b :: rest =>
    match codePoint? [a, b] with
    | none => none
    | some c => doubleQuoted (text ++ fold.joined ++ [c]) .none line (column + 4) rest
  | '\\' :: 'u' :: a :: b :: c :: d :: rest =>
    match codePoint? [a, b, c, d] with
    | none => none
    | some c => doubleQuoted (text ++ fold.joined ++ [c]) .none line (column + 6) rest
  | '\\' :: 'U' :: a :: b :: c :: d :: e :: f :: g :: h :: rest =>
    match codePoint? [a, b, c, d, e, f, g, h] with
    | none => none
    | some c => doubleQuoted (text ++ fold.joined ++ [c]) .none line (column + 10) rest
  | '\\' :: c :: rest =>
    if isBreak c then doubleQuoted (text ++ fold.joined) (.breaks none []) (line + 1) 0 rest
    else match escape? c with
      | none => none
      | some e => doubleQuoted (text ++ fold.joined ++ [e]) .none line (column + 2) rest
  | c :: rest =>
    if isBreak c then doubleQuoted text (fold.addBreak c) (line + 1) 0 rest
    else if isBlank c then doubleQuoted text (fold.addBlank c) line (column + 1) rest
    else if c = '\\' || atMarker column (c :: rest) then none
    else doubleQuoted (text ++ fold.joined ++ [c]) .none line (column + 1) rest

/-- Punctuation that cannot start a plain scalar. -/
def indicators : List Char :=
  ['-', '?', ':', ',', '[', ']', '\x7b', '\x7d', '#', '&', '*', '!', '|', '>', '\'', '"', '%', '@',
    '\x60']

/-- A dash may start a plain scalar if no blank follows it, in a block a question mark or a colon
too. -/
def startsPlain (flow : Bool) : List Char → Bool
  | [] => false
  | c :: rest =>
    (!isBlank c && !indicators.contains c)
      || (!endsToken rest && (c == '-' || (!flow && (c == '?' || c == ':'))))

def plainAt (flow : Bool) (limit : Nat) (c : Cursor) : Option Scanned :=
  if startsPlain flow c.rest && !atMarker c.column c.rest then
    plain flow limit [] .none c.line c.column c.rest
  else none

end ApiContext.Yaml
