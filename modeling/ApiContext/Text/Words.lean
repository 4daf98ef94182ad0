import ApiContext.Text.Alphanumeric
import ApiContext.Text.CaseMapping

/-! Words inside alphanumeric runs, and camel case. A word ends where a lower case letter meets an
upper case one, and before the last capital of an acronym; digits go with what precedes them. -/
namespace ApiContext.Text

def flush (w : List Char) : List (List Char) := if w.isEmpty then [] else [w]

def runsFrom (p : Char → Bool) (w : List Char) : List Char → List (List Char)
  | [] => flush w
  | c :: r => if p c then runsFrom p (w ++ [c]) r else flush w ++ runsFrom p [] r

/-- The maximal stretches of characters that satisfy `p`. -/
def runs (p : Char → Bool) (text : List Char) : List (List Char) := runsFrom p [] text

/-- The case last seen in the current word. -/
inductive CaseTrail where
  | fresh | lower | upper
deriving DecidableEq

def CaseTrail.after (t : CaseTrail) (c : Char) : CaseTrail :=
  if isLowercase c then .lower else if isUppercase c then .upper else t

/-- Cuts the rest of a run into words; `w` is what the current word holds already. -/
def wordsFrom (t : CaseTrail) (w : List Char) : List Char → List (List Char)
  | [] => flush w
  | [c] => [w ++ [c]]
  | c :: d :: r =>
    if t.after c = .lower ∧ isUppercase d then (w ++ [c]) :: wordsFrom .fresh [] (d :: r)
    else if t = .upper ∧ isUppercase c ∧ isLowercase d then w :: wordsFrom .fresh [c] (d :: r)
    else wordsFrom (t.after c) (w ++ [c]) (d :: r)

def words (text : List Char) : List (List Char) :=
  (runs isAlphanumeric text).flatMap (wordsFrom .fresh [])

/-- A capital sigma at the end of a word becomes a final sigma. -/
def lowerWord : List Char → List Char
  | [] => []
  | [c] => if c = 'Σ' then ['ς'] else lower c
  | c :: d :: r => lower c ++ lowerWord (d :: r)

def capitalize : List Char → List Char
  | [] => []
  | c :: r => upper c ++ lowerWord r

def upperCamel (text : List Char) : List Char := (words text).flatMap capitalize

def lowerCamel (text : List Char) : List Char :=
  match words text with
  | [] => []
  | w :: rest => lowerWord w ++ rest.flatMap capitalize

end ApiContext.Text
