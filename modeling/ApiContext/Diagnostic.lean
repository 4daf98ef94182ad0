/-! What can go wrong. Diagnostics are recovered from and collected; errors end a compilation. -/
namespace ApiContext

/-- Why the type of a value could not be told. -/
inductive Problem where
  | unknownReference (path : String)
  | unusableTag (tag : String)
  | untyped
deriving DecidableEq

def Problem.message : Problem → String
  | .unknownReference path => "reference \x60" ++ path ++ "\x60 does not match any definition"
  | .unusableTag tag => "couldn't calculate type for \x60" ++ tag ++ "\x60 without a schema"
  | .untyped => "couldn't calculate type: no type tag and no schema"

/-- The subject is the dotted path of a value. -/
structure Diagnostic where
  subject : String
  problem : Problem
deriving DecidableEq

namespace Diagnostic

/-- All problems are of one kind. -/
def kind (_ : Diagnostic) : String := "unresolved-type"

def text (d : Diagnostic) : String :=
  "[" ++ d.kind ++ "] " ++ d.subject ++ ": " ++ d.problem.message

end Diagnostic

/-- The chain runs from the schema up to the first name that repeats. -/
inductive CompileError where
  | cyclicInheritance (schema : String) (chain : List String)
  | unknownParent (schema parent : String)
deriving DecidableEq

def CompileError.message : CompileError → String
  | .cyclicInheritance schema chain =>
    "cyclic inheritance in schema " ++ schema ++ ": " ++ " -> ".intercalate chain
  | .unknownParent schema parent =>
    "schema " ++ schema ++ " inherits from unknown definition " ++ parent

end ApiContext
