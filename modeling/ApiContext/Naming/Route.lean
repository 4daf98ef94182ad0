import ApiContext.Naming.Identifier

/-! Operation identifiers made from a method and a path. The segments of the path are put in camel
case around their placeholders, and each placeholder then reads `By<Name>_<name>`. -/
namespace ApiContext.Naming
open Text

/-- A stretch of a path: plain text, or a name in braces. -/
inductive Stretch where
  | literal (text : List Char)
  | placeholder (name : List Char)

/-- A placeholder is an opening brace, a name without braces, and a closing brace. `opened` is the
name read since the last opening brace, `text` the literal before that brace. -/
def stretchesFrom (text : List Char) : (opened : Option (List Char)) → List Char → List Stretch
  | none, [] => [.literal text]
  | some name, [] => [.literal (text ++ '{' :: name)]
  | none, c :: r =>
    if c = '{' then stretchesFrom text (some []) r else stretchesFrom (text ++ [c]) none r
  | some name, c :: r =>
    if c = '}' then .literal text :: .placeholder name :: stretchesFrom [] none r
    else if c = '{' then stretchesFrom (text ++ '{' :: name) (some []) r
    else stretchesFrom text (some (name ++ [c])) r

def stretches (text : List Char) : List Stretch := stretchesFrom [] none text

/-- The pieces between the occurrences of `separator`, empty ones included. -/
def splitAt (separator : Char) : List Char → List (List Char)
  | [] => [[]]
  | c :: r =>
    if c = separator then [] :: splitAt separator r
    else match splitAt separator r with
      | [] => [[c]]
      | piece :: rest => (c :: piece) :: rest

/-- A literal without alphanumeric characters vanishes. -/
def literalName (text : List Char) : List Char :=
  if text.any isAlphanumeric then pascal text else []

/-- The form of a segment in which the placeholders are still in braces. -/
def Stretch.cased : Stretch → List Char
  | .literal text => literalName text
  | .placeholder name => '{' :: name ++ ['}']

def Stretch.named : Stretch → List Char
  | .literal text => text
  | .placeholder name => 'B' :: 'y' :: pascal name ++ '_' :: name

def casedPath (path : List Char) : List Char :=
  (splitAt '/' path).flatMap fun segment => (stretches segment).flatMap Stretch.cased

def routeName (method path : List Char) : List Char :=
  lowercase method ++ (stretches (casedPath path)).flatMap Stretch.named

/-- The method `GET` and the path `/users/{id}` give `getUsersById_id`. -/
def operationId (method path : String) : String :=
  .ofList (routeName method.toList path.toList)

example : operationId "DELETE" "/users/\x7bid\x7d/posts" = "deleteUsersById_idPosts" := by
  decide +kernel

end ApiContext.Naming
