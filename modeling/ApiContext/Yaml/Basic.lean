/-! YAML nodes, and a cursor over the text of a document. Of YAML this is what settings are written
in: block and flow collections with plain and quoted scalars; anchors, tags, block scalars and
directives are refused. -/
namespace ApiContext

/-- A plain scalar stands without quotes. -/
inductive Yaml where
  | scalar (plain : Bool) (text : String)
  | sequence (elems : List Yaml)
  | mapping (entries : List (Yaml × Yaml))

namespace Yaml

/-- What stands where a node is missing. -/
def nothing : Yaml := .scalar true ""

/-- The characters left, with the line and the column of the first of them. -/
structure Cursor where
  rest : List Char
  line : Nat
  column : Nat

def isBlank (c : Char) : Bool := c == ' ' || c == '\t'

/-- A line feed, a line separator or a paragraph separator. -/
def isBreak (c : Char) : Bool := c == '\n' || c == '\u2028' || c == '\u2029'

/-- Nothing, or a blank, or the end of a line. -/
def endsToken : List Char → Bool
  | [] => true
  | c :: _ => isBlank c || isBreak c

def isMarker (m : Char) (column : Nat) : List Char → Bool
  | a :: b :: c :: rest => column == 0 && a == m && b == m && c == m && endsToken rest
  | _ => false

/-- Three dashes or dots at the start of a line end a document. -/
def atMarker (column : Nat) (rest : List Char) : Bool :=
  isMarker '-' column rest || isMarker '.' column rest

namespace Cursor

/-- Passes over characters of one line. -/
def skip (n : Nat) (c : Cursor) : Cursor := ⟨c.rest.drop n, c.line, c.column + n⟩

def atEnd (c : Cursor) : Bool := c.rest.isEmpty || atMarker c.column c.rest

def startsWith (ch : Char) (c : Cursor) : Bool := c.rest.head? == some ch

/-- An indicator of a block collection is followed by a blank or the end of the line. -/
def atIndicator (ch : Char) (c : Cursor) : Bool :=
  match c.rest with
  | [] => false
  | d :: rest => d == ch && endsToken rest

end Cursor

/-- The bytes that the characters from one cursor to another on its line take in UTF-8. -/
def width (start stop : Cursor) : Nat :=
  (start.rest.take (stop.column - start.column)).foldl (fun n c => n + c.utf8Size) 0

/-- A key stands on one line with its colon, not further than 1024 bytes away. -/
def isKeyOf (start colon : Cursor) : Bool := colon.line = start.line && width start colon ≤ 1024

/-- Passes over blanks, line breaks, comments and a byte order mark before a line, and tells whether
a key may start at what follows: `fresh` is whether it could before. Such a key may not stand behind
a tab. -/
def gap (flow fresh comment : Bool) (line column : Nat) : List Char → Cursor × Bool
  | [] => (⟨[], line, column⟩, fresh)
  | c :: rest =>
    if isBreak c then gap flow true false (line + 1) 0 rest
    else if comment then gap flow fresh true line (column + 1) rest
    else if c = ' ' || (c = '\t' && (flow || !fresh)) || (c = '\ufeff' && column = 0) then
      gap flow fresh false line (column + 1) rest
    else if c = '#' then gap flow fresh true line (column + 1) rest
    else (⟨c :: rest, line, column⟩, fresh)

def Cursor.blockGap (fresh : Bool) (c : Cursor) : Cursor × Bool :=
  gap false fresh false c.line c.column c.rest

def Cursor.flowGap (c : Cursor) : Cursor := (gap true false false c.line c.column c.rest).1

end Yaml
end ApiContext
