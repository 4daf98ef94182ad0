import ApiContext.Resolve.Operation
import ApiContext.Resolve.Schema

/-! A description compiled into one context. Operations come first, then definitions in the order of
their declaration, then global enums; the first schema without a lineage ends the compilation. -/
namespace ApiContext
open Model

structure Compilation where
  context : Context
  diagnostics : List Diagnostic

namespace Resolve

/-- The operations under their first tags; an operation without a tag is in no group. -/
def tagGroups (operations : List (Operation × Draft)) : Entries (List Draft) :=
  operations.foldl (fun groups (o, d) =>
    match o.tags.head? with
    | some tag => Entries.push tag d groups
    | none => groups) []

def tagDraft (spec : Spec) (name : String) (operations : List Draft) : Draft := .mapping [
  ("name", .text name),
  ("description", .ofText? ((spec.tag? name).bind (·.description))),
  ("operations", .sequence operations)]

/-- Without a scheme it is `http`; a missing host or base path is empty. -/
def baseUrl (spec : Spec) : String :=
  spec.schemes.head?.getD "http" ++ "://" ++ spec.host.getD "" ++ spec.basePath.getD ""

def securityScheme (s : SecurityScheme) : Draft := .mapping [
  ("name", .text s.name),
  ("type", .text s.type.key),
  ("description", .ofText? s.description),
  ("parameterName", .ofText? s.parameterName),
  ("in", .ofText? s.location),
  ("flow", .ofText? s.flow),
  ("authorizationUrl", .ofText? s.authorizationUrl),
  ("tokenUrl", .ofText? s.tokenUrl),
  ("scopes", .sequence (s.scopes.entries.map fun (name, description) =>
    .mapping [("name", .text name), ("description", .text description)]))]

def infoDraft (i : Info) : Draft := .mapping [
  ("title", .text i.title),
  ("description", .ofText? i.description),
  ("version", .text i.version)]

def specEntries : ExceptT CompileError Resolve (Entries Draft) := do
  let spec := (← read).spec
  let operations ← (spec.operations.mapM fun o => return (o, ← operation o) : Resolve _)
  let definitions ← spec.definitions.entries.mapM fun (name, s) => schema name s
  let enums ← (spec.enums.mapM (value · "") : Resolve _)
  return [
    ("info", infoDraft spec.info),
    ("host", .ofText? spec.host),
    ("basePath", .ofText? spec.basePath),
    ("baseURL", .text (baseUrl spec)),
    ("schemes", .ofTexts spec.schemes),
    ("operations", .sequence (operations.map (·.2))),
    ("tags", .sequence ((tagGroups operations).map fun (name, ds) => tagDraft spec name ds)),
    ("definitions", .sequence definitions),
    ("enums", .sequence enums),
    ("securityDefinitions", .sequence (spec.securitySchemes.map securityScheme)),
    ("raw", raw spec.toJson)]

def summary (env : Environment) : Event :=
  .compiling env.spec.info.title [
    ("operation", env.spec.operations.length),
    ("definition", env.spec.definitions.entries.length),
    ("tag", env.spec.tags.length),
    ("enum", env.spec.enums.length),
    ("security definition", env.spec.securitySchemes.length)] env.profile.name

/-- The diagnostics are logged once everything is resolved. -/
def compile : ExceptT CompileError Resolve Compilation := do
  log (summary (← read))
  let entries ← specEntries
  let diagnostics := (← get).diagnostics
  diagnostics.forM fun d => log (.unresolved d)
  return ⟨.mapping (Draft.pruneEntries entries), diagnostics⟩

end Resolve

/-- Compiles with a journal that may hold events already, such as those of choosing the profile. -/
def compile (spec : Spec) (profile : Profile) : StateM Journal (Except CompileError Compilation) :=
  Resolve.compile.run.run ⟨spec, profile⟩

end ApiContext
