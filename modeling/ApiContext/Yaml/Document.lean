import ApiContext.Yaml.Scalar

/-! Documents: flow collections in brackets, and block collections by their indentation. The entries
of a block stand at one column, and what they hold stands further right. -/
namespace ApiContext.Yaml

def Scanned.node (plain : Bool) (s : Scanned) : Yaml × Cursor × Bool :=
  (.scalar plain (.ofList s.text), s.cursor, s.fresh)

mutual

/-- A scalar or a flow collection at the cursor, what follows it, and whether a key may start there.
`steps` bounds the nesting and the number of entries. -/
def content (flow : Bool) (limit : Nat) : (steps : Nat) → Cursor → Option (Yaml × Cursor × Bool)
  | 0, _ => none
  | steps + 1, c =>
    match c.rest with
    | '[' :: _ => (flowSequence limit steps (c.skip 1)).map fun (es, c) => (.sequence es, c, false)
    | '\x7b' :: _ => (flowMapping limit steps (c.skip 1)).map fun (es, c) => (.mapping es, c, false)
    | '\'' :: rest =>
      (singleQuoted [] .none c.line (c.column + 1) rest).map (Scanned.node false)
    | '"' :: rest =>
      (doubleQuoted [] .none c.line (c.column + 1) rest).map (Scanned.node false)
    | _ => (plainAt flow limit c).map (Scanned.node true)

/-- The value after a colon, which may be missing. -/
def flowValue (limit : Nat) : (steps : Nat) → Cursor → Option (Yaml × Cursor)
  | 0, _ => none
  | steps + 1, c =>
    let c := c.flowGap
    if c.startsWith ',' || c.startsWith ']' || c.startsWith '\x7d' then some (nothing, c)
    else (content true limit steps c).map fun (v, c, _) => (v, c.flowGap)

/-- The key behind a question mark, which may be missing; in a sequence the punctuation in its place
is passed over. -/
def markedKey (limit : Nat) (sequence : Bool) : (steps : Nat) → Cursor → Option (Yaml × Cursor)
  | 0, _ => none
  | steps + 1, c =>
    let c := c.flowGap
    if c.startsWith ':' || c.startsWith ',' || (!sequence && c.startsWith '\x7d') then
      some (nothing, if sequence then c.skip 1 else c)
    else (content true limit steps c).map fun (key, c, _) => (key, c)

/-- A node and the value that it is the key of, if there is a colon. -/
def flowEntry (limit : Nat) (sequence : Bool) : (steps : Nat) → Cursor →
    Option (Yaml × Option Yaml × Cursor)
  | 0, _ => none
  | steps + 1, c => do
    if c.startsWith '?' then
      let (key, c) ← markedKey limit sequence steps (c.skip 1)
      let c := c.flowGap
      if c.startsWith ':' then
        let (v, c) ← flowValue limit steps (c.skip 1)
        return (key, some v, c)
      else return (key, some nothing, c)
    else
      let (key, after, _) ← content true limit steps c
      let colon := after.flowGap
      if colon.startsWith ':' then
        if isKeyOf c colon then
          let (v, c) ← flowValue limit steps (colon.skip 1)
          return (key, some v, c)
        else none
      else return (key, none, colon)

/-- Entries up to the closing bracket. A pair stands for a mapping of its own, and a comma may end
the sequence. -/
def flowSequence (limit : Nat) : (steps : Nat) → Cursor → Option (List Yaml × Cursor)
  | 0, _ => none
  | steps + 1, c => do
    let c := c.flowGap
    if c.startsWith ']' then return ([], c.skip 1)
    let (key, v?, c) ← flowEntry limit true steps c
    let entry := match v? with
      | none => key
      | some v => .mapping [(key, v)]
    if c.startsWith ',' then
      let (rest, c) ← flowSequence limit steps (c.skip 1)
      return (entry :: rest, c)
    else if c.startsWith ']' then return ([entry], c.skip 1)
    else none

/-- Entries up to the closing brace. A key without a colon has no value. -/
def flowMapping (limit : Nat) : (steps : Nat) → Cursor → Option (List (Yaml × Yaml) × Cursor)
  | 0, _ => none
  | steps + 1, c => do
    let c := c.flowGap
    if c.startsWith '\x7d' then return ([], c.skip 1)
    let (key, v?, c) ← flowEntry limit false steps c
    let entry := (key, v?.getD nothing)
    if c.startsWith ',' then
      let (rest, c) ← flowMapping limit steps (c.skip 1)
      return (entry :: rest, c)
    else if c.startsWith '\x7d' then return ([entry], c.skip 1)
    else none

end

/-- The colon of the key at `start`, which ends at `after`. -/
def colonAfter? (start after : Cursor) (fresh : Bool) : Option Cursor :=
  let colon := (after.blockGap fresh).1
  if colon.atIndicator ':' && isKeyOf start colon then some colon else none

mutual

/-- A node whose lines stand at column `limit` or beyond; where `dashes`, those of a sequence may
stand one column before it. A key or a dash may start only where it is `fresh`. -/
def block (limit : Nat) (dashes : Bool) : (steps : Nat) → (fresh : Bool) → Cursor →
    Option (Yaml × Cursor × Bool)
  | 0, _, _ => none
  | steps + 1, fresh, c => do
    let (c, fresh) := c.blockGap fresh
    let dash := c.atIndicator '-'
    let least := if dashes && dash then limit - 1 else limit
    if c.atEnd || c.column < least then return (nothing, c, fresh)
    if dash then
      if fresh then
        let (es, c) ← blockSequence c.column steps c
        return (.sequence es, c, true)
      else none
    else if c.atIndicator '?' then
      if fresh then
        let (es, c) ← markedMapping c.column steps (c.skip 1)
        return (.mapping es, c, true)
      else none
    else
      let (key, after, fresh') ← content false limit steps c
      match colonAfter? c after fresh' with
      | none => return (key, after, fresh')
      | some colon =>
        if fresh then
          let (es, c) ← blockMapping c.column key steps false (colon.skip 1)
          return (.mapping es, c, true)
        else none
termination_by structural steps => steps

/-- Entries that start with a dash at one column. -/
def blockSequence (column : Nat) : (steps : Nat) → Cursor → Option (List Yaml × Cursor)
  | 0, _ => none
  | steps + 1, c => do
    let (entry, c, fresh) ← block (column + 1) false steps true (c.skip 1)
    let (c, fresh) := c.blockGap fresh
    if c.atEnd then return ([entry], c)
    else if !fresh || c.column > column then none
    else if c.column < column then return ([entry], c)
    else if c.atIndicator '-' then
      let (rest, c) ← blockSequence column steps c
      return (entry :: rest, c)
    else return ([entry], c)
termination_by structural steps => steps

/-- Entries whose keys start at one column; the cursor is behind the colon of the first key. -/
def blockMapping (column : Nat) (key : Yaml) : (steps : Nat) → (fresh : Bool) → Cursor →
    Option (List (Yaml × Yaml) × Cursor)
  | 0, _, _ => none
  | steps + 1, fresh, c => do
    let (v, c, fresh) ← block (column + 1) true steps fresh c
    let (rest, c) ← blockEntries column steps fresh c
    return ((key, v) :: rest, c)
termination_by structural steps => steps

/-- The entries that are left at one column. -/
def blockEntries (column : Nat) : (steps : Nat) → (fresh : Bool) → Cursor →
    Option (List (Yaml × Yaml) × Cursor)
  | 0, _, _ => none
  | steps + 1, fresh, c => do
    let (c, fresh) := c.blockGap fresh
    if c.atEnd then return ([], c)
    else if !fresh || c.column > column then none
    else if c.column < column then return ([], c)
    else if c.atIndicator '?' then markedMapping column steps (c.skip 1)
    else
      let (key, after, fresh) ← content false (column + 1) steps c
      let colon ← colonAfter? c after fresh
      blockMapping column key steps false (colon.skip 1)
termination_by structural steps => steps

/-- Entries at one column; the cursor is behind the question mark that announces the first key. Its
colon, if it has one, stands at the same column. -/
def markedMapping (column : Nat) : (steps : Nat) → Cursor → Option (List (Yaml × Yaml) × Cursor)
  | 0, _ => none
  | steps + 1, c => do
    let (key, c, fresh) ← block (column + 1) true steps true c
    let (c, fresh) := c.blockGap fresh
    if !c.atEnd && c.column == column && fresh && c.atIndicator ':' then
      blockMapping column key steps true (c.skip 1)
    else
      let (rest, c) ← blockEntries column steps fresh c
      return ((key, nothing) :: rest, c)
termination_by structural steps => steps

end

def isAllowed (c : Char) : Bool :=
  let n := c.toNat
  n == 0x09 || n == 0x0A || n == 0x0D || n == 0x85 || (0x20 ≤ n && n ≤ 0x7E)
    || (0xA0 ≤ n && n ≤ 0xFFFD) || 0x10000 ≤ n

/-- Carriage returns and next lines as line feeds. -/
def unifyBreaks : List Char → List Char
  | '\r' :: '\n' :: rest => '\n' :: unifyBreaks rest
  | c :: rest => (if c == '\r' || c == '\u0085' then '\n' else c) :: unifyBreaks rest
  | [] => []

/-- Only ends of documents, comments and blank lines. -/
def isFinished (fresh : Bool) : (steps : Nat) → Cursor → Bool
  | 0, _ => false
  | steps + 1, c =>
    let c := (c.blockGap fresh).1
    c.rest.isEmpty || (isMarker '.' c.column c.rest && isFinished false steps (c.skip 3))

/-- The only document of a text, `nothing` for one that is empty. -/
def document? (text : String) : Option Yaml := do
  let cs := text.toList
  guard (cs.all isAllowed)
  let cs := unifyBreaks cs
  let steps := 4 * cs.length + 4
  let (start, _) := Cursor.blockGap true ⟨cs, 0, 0⟩
  if isMarker '.' start.column start.rest then none
  else if start.rest.isEmpty then return nothing
  let explicit := isMarker '-' start.column start.rest
  let (node, c, fresh) ← block 0 false steps (!explicit) (if explicit then start.skip 3 else start)
  if isFinished fresh steps c then return node else none

end ApiContext.Yaml
