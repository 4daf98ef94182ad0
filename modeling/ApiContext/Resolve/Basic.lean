import ApiContext.Draft
import ApiContext.Journal
import ApiContext.Model.Spec
import ApiContext.Profile

/-! The setting of resolution: what it reads, what it records, and the paths under which it does. -/
namespace ApiContext
open Model

/-- What resolution reads: the description and the naming profile. -/
structure Environment where
  spec : Spec
  profile : Profile

/-- Resolution reads the environment and writes the journal. -/
abbrev Resolve := ReaderT Environment (StateM Journal)

namespace Resolve

def report (subject : String) (problem : Problem) : Resolve Unit :=
  modify (·.report ⟨subject, problem⟩)

def log (e : Event) : Resolve Unit := modify (·.log e)

def anonymous : String := "<anonymous>"

/-- The path of a value inside a scope; the empty scope is the top level. -/
def qualify (scope name : String) : String :=
  let name := if name.isEmpty then anonymous else name
  if scope.isEmpty then name else scope ++ "." ++ name

/-- The description of a thing as it was loaded, its members sorted. -/
def raw (j : Json) : Draft := .ofJson j.sorted

end Resolve
end ApiContext
