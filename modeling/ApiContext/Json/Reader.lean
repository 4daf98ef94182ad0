import ApiContext.Decimal.Literal
import ApiContext.Json.Source
import ApiContext.Text.Digits

/-! JSON read from text. Each step takes the characters left and answers what it read with the
characters that remain. -/
namespace ApiContext.Json.Reader
open Text

def isBlank (c : Char) : Bool := c == ' ' || c == '\t' || c == '\n' || c == '\r'

def skipBlanks (text : List Char) : List Char := text.dropWhile isBlank

def isHighSurrogate (n : Nat) : Bool := 0xD800 ≤ n && n < 0xDC00

def isLowSurrogate (n : Nat) : Bool := 0xDC00 ≤ n && n < 0xE000

def simpleEscape? : Char → Option Char
  | '"' => some '"'
  | '\\' => some '\\'
  | '/' => some '/'
  | 'b' => some '\x08'
  | 'f' => some '\x0c'
  | 'n' => some '\n'
  | 'r' => some '\r'
  | 't' => some '\t'
  | _ => none

/-- The characters up to the closing quote. Two escaped surrogates make one character. -/
def characters : List Char → Option (List Char × List Char)
  | [] => none
  | '"' :: rest => some ([], rest)
  | '\\' :: 'u' :: a :: b :: c :: d :: rest =>
    match hexadecimal? [a, b, c, d] with
    | none => none
    | some high =>
      if isLowSurrogate high then none
      else if isHighSurrogate high then
        match rest with
        | '\\' :: 'u' :: a :: b :: c :: d :: rest =>
          match hexadecimal? [a, b, c, d] with
          | none => none
          | some low =>
            if isLowSurrogate low then
              let point := 0x10000 + (high - 0xD800) * 0x400 + (low - 0xDC00)
              (characters rest).map fun (text, left) => (.ofNat point :: text, left)
            else none
        | _ => none
      else (characters rest).map fun (text, left) => (.ofNat high :: text, left)
  | '\\' :: c :: rest =>
    match simpleEscape? c with
    | none => none
    | some e => (characters rest).map fun (text, left) => (e :: text, left)
  | c :: rest =>
    if c.toNat < 32 || c == '\\' then none
    else (characters rest).map fun (text, left) => (c :: text, left)

def string (text : List Char) : Option (String × List Char) :=
  (characters text).map fun (cs, left) => (.ofList cs, left)

/-- Digits of the integer part: no leading zero before another digit. -/
def integerDigits : List Char → Option (List Char × List Char)
  | '0' :: rest => some (['0'], rest)
  | text =>
    match text.takeWhile Char.isDigit with
    | [] => none
    | digits => some (digits, text.dropWhile Char.isDigit)

/-- Digits after a point, if there is one. -/
def fractionDigits : List Char → Option (List Char × List Char)
  | '.' :: rest =>
    match rest.takeWhile Char.isDigit with
    | [] => none
    | digits => some (digits, rest.dropWhile Char.isDigit)
  | text => some ([], text)

def exponentValue (negative : Bool) (text : List Char) : Option (Option Int × List Char) :=
  match text.takeWhile Char.isDigit with
  | [] => none
  | digits =>
    let n : Int := decimal digits
    some (some (if negative then -n else n), text.dropWhile Char.isDigit)

/-- An exponent, if there is one. -/
def exponent : List Char → Option (Option Int × List Char)
  | 'e' :: rest | 'E' :: rest =>
    match rest with
    | '-' :: rest => exponentValue true rest
    | '+' :: rest => exponentValue false rest
    | _ => exponentValue false rest
  | text => some (none, text)

/-- The double of a literal, unless it lies beyond the finite ones. -/
def float? (negative : Bool) (whole fraction : List Char) (e : Int) : Option Json.Number := do
  let x ← Decimal.float? whole fraction e
  Number.ofFloat? (if negative then -x else x)

/-- A literal without point and exponent is an integer if it lies in range; `-0` is the double. -/
def number? (negative : Bool) (whole fraction : List Char) (e : Option Int) : Option Json.Number :=
  let n := decimal whole
  if fraction.isEmpty && e.isNone && !(negative && n == 0) then
    Number.ofInt? (if negative then -n else n) <|> float? negative whole [] 0
  else float? negative whole fraction (e.getD 0)

def unsigned (negative : Bool) (text : List Char) : Option (Source × List Char) := do
  let (whole, rest) ← integerDigits text
  let (fraction, rest) ← fractionDigits rest
  let (e, rest) ← exponent rest
  return (((number? negative whole fraction e).map .num).getD .beyond, rest)

def number : List Char → Option (Source × List Char)
  | '-' :: rest => unsigned true rest
  | text => unsigned false text

/-- A container that stands where `levels` of them may still open inside each other. -/
def nested (levels : Nat) (container : Source) : Source := if levels = 0 then .beyond else container

mutual

/-- A value after blanks; `steps` bounds the nesting and the number of items. -/
def value : (steps levels : Nat) → List Char → Option (Source × List Char)
  | 0, _, _ => none
  | steps + 1, levels, text =>
    match skipBlanks text with
    | '"' :: rest => (string rest).map fun (s, left) => (.str s, left)
    | '[' :: rest =>
      match skipBlanks rest with
      | ']' :: left => some (nested levels (.arr []), left)
      | _ => (elements steps (levels - 1) rest).map fun (elems, left) =>
        (nested levels (.arr elems), left)
    | '{' :: rest =>
      match skipBlanks rest with
      | '}' :: left => some (nested levels (.obj []), left)
      | _ => (members steps (levels - 1) rest).map fun (ms, left) =>
        (nested levels (.obj ms), left)
    | 't' :: 'r' :: 'u' :: 'e' :: left => some (.bool true, left)
    | 'f' :: 'a' :: 'l' :: 's' :: 'e' :: left => some (.bool false, left)
    | 'n' :: 'u' :: 'l' :: 'l' :: left => some (.null, left)
    | rest => number rest

def elements : (steps levels : Nat) → List Char → Option (List Source × List Char)
  | 0, _, _ => none
  | steps + 1, levels, text => do
    let (e, rest) ← value steps levels text
    match skipBlanks rest with
    | ',' :: rest =>
      let (es, left) ← elements steps levels rest
      return (e :: es, left)
    | ']' :: left => return ([e], left)
    | _ => none

def members : (steps levels : Nat) → List Char → Option (List (String × Source) × List Char)
  | 0, _, _ => none
  | steps + 1, levels, text =>
    match skipBlanks text with
    | '"' :: rest => do
      let (key, rest) ← string rest
      match skipBlanks rest with
      | ':' :: rest =>
        let (v, rest) ← value steps levels rest
        match skipBlanks rest with
        | ',' :: rest =>
          let (ms, left) ← members steps levels rest
          return ((key, v) :: ms, left)
        | '}' :: left => return ([(key, v)], left)
        | _ => none
      | _ => none
    | _ => none

end

end Reader

/-- How many containers may stand inside each other. -/
def levelLimit : Nat := 127

/-- Every nested value costs two steps and at least one character. -/
def parse? (text : String) : Option Source :=
  match Reader.value (2 * text.length + 2) levelLimit text.toList with
  | some (s, rest) => if (Reader.skipBlanks rest).isEmpty then some s else none
  | none => none

end ApiContext.Json
