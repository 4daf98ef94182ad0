import ApiContext.Lineage
import ApiContext.Resolve.Value

/-! Schemas resolved into mappings, each with its parent inside. The whole lineage is checked before
anything is resolved, so a schema that fails leaves no trace. -/
namespace ApiContext.Resolve
open Model

/-- Properties, each in the scope of the schema that declares it. -/
def properties (ps : List (String × Value)) : Resolve Draft :=
  return .sequence (← ps.mapM fun (scope, v) => value v scope)

def declaredBy (name : String) (vs : List Value) : List (String × Value) := vs.map (name, ·)

/-- No schema is absent. -/
def schemaOf : Lineage → Resolve Draft
  | [] => pure .absent
  | (name, s) :: ancestors => do
    log (.resolvingSchema name)
    let env ← read
    let parent ← schemaOf ancestors
    let required ← properties (declaredBy name s.requiredProperties)
    let optional ← properties (declaredBy name s.optionalProperties)
    let own ← properties (declaredBy name s.properties)
    let all ← properties (allProperties ((name, s) :: ancestors))
    let enums ← properties (declaredBy name s.enums)
    return .mapping [
      ("type", .text (env.profile.typeName name)),
      ("description", .ofText? s.description),
      ("parent", parent),
      ("requiredProperties", required),
      ("optionalProperties", optional),
      ("properties", own),
      ("allProperties", all),
      ("enums", enums),
      ("raw", raw s.toJson)]

def schema (name : String) (s : Schema) : ExceptT CompileError Resolve Draft := do
  let env ← read
  let ancestry ← (lineage env.spec name s : Except CompileError Lineage)
  schemaOf ancestry

end ApiContext.Resolve
