import ApiContext.Diagnostic
import ApiContext.Model.Spec

/-! Lineages: a schema with its ancestors, nearest first. Parents are looked up among the definitions
of a description; each step visits a definition not seen before, so the walk ends. -/
namespace ApiContext
open Model

abbrev Lineage := List (String × Schema)

/-- The definitions that are not on the trail. -/
def unseen (spec : Spec) (trail : List String) : List String :=
  spec.definitions.keys.filter (· ∉ trail)

theorem mem_keys_of_definition? {spec : Spec} {reference key : String} {schema : Schema}
    (h : spec.definition? reference = some (key, schema)) : key ∈ spec.definitions.keys :=
  List.mem_map.mpr ⟨_, List.mem_of_find?_eq_some h, rfl⟩

theorem unseen_length_lt {spec : Spec} {trail : List String} {key : String}
    (hk : key ∈ spec.definitions.keys) (hn : key ∉ trail) :
    (unseen spec (trail ++ [key])).length < (unseen spec trail).length := by
  have split : unseen spec (trail ++ [key]) = (unseen spec trail).filter (· ≠ key) := by
    simp only [unseen, List.filter_filter]
    congr 1
    funext k
    simp [List.mem_append, and_comm]
  rw [split]
  refine List.length_filter_lt_length_iff_exists.mpr ⟨key, ?_, by simp⟩
  exact List.mem_filter.mpr ⟨hk, by simpa using hn⟩

/-- Climbs from a schema whose name ends the trail; `start` is the name at which it begins. -/
def climb (spec : Spec) (start : String) (trail : List String) (name : String) (schema : Schema) :
    Except CompileError Lineage :=
  match schema.parentName with
  | none => .ok [(name, schema)]
  | some parent =>
    match _found : spec.definition? parent with
    | none => .error (.unknownParent name parent)
    | some (key, next) =>
      if _seen : key ∈ trail then .error (.cyclicInheritance start (trail ++ [key]))
      else (climb spec start (trail ++ [key]) key next).map ((name, schema) :: ·)
termination_by (unseen spec trail).length
decreasing_by exact unseen_length_lt (mem_keys_of_definition? _found) _seen

def lineage (spec : Spec) (name : String) (schema : Schema) : Except CompileError Lineage :=
  climb spec name [name] name schema

/-- Inherited properties that no nearer schema declares again, then own ones, each with the name of
the schema that declares it. -/
def allProperties : Lineage → List (String × Value)
  | [] => []
  | (name, schema) :: ancestors =>
    (allProperties ancestors).filter (fun p => !schema.properties.any (·.name == p.2.name))
      ++ schema.properties.map (name, ·)

end ApiContext
