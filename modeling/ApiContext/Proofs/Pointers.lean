import ApiContext.Proofs.Climb
import ApiContext.Proofs.Diagnostics
import ApiContext.Proofs.OrderedMaps

/-! References to definitions, by name and by pointer. Both are cut behind the last slash, so they
always lead to the same definition: to the one of that name if the name has no slash. To a
definition whose name has one, no reference leads. -/
namespace ApiContext
open Model Resolve
variable {spec : Spec} {d e : String × Schema} {path : Lineage} {name reference : String}

/-- The pointer to the definition of a name. -/
def pointer (name : String) : String := "#/definitions/" ++ name

/-! ### The last segment -/

theorem lastSegment_append_slash (a b : List Char) :
    lastSegment (a ++ '/' :: b) = lastSegment b := by
  have hrev : (a ++ '/' :: b).reverse = b.reverse ++ '/' :: a.reverse := by simp
  rw [lastSegment, lastSegment, hrev, List.takeWhile_append]
  split
  · next hlen =>
    have hall : b.reverse.takeWhile (· != '/') = b.reverse :=
      (List.takeWhile_prefix _).eq_of_length hlen
    simp [hall]
  · rfl

theorem refName_pointer (name : String) : refName (pointer name) = refName name := by
  have hslash : "#/definitions/".toList = "#/definitions".toList ++ ['/'] := by decide
  have hlist : (pointer name).toList = "#/definitions".toList ++ '/' :: name.toList :=
    calc
      (pointer name).toList = "#/definitions/".toList ++ name.toList := String.toList_append
      _ = ("#/definitions".toList ++ ['/']) ++ name.toList := by rw [hslash]
      _ = "#/definitions".toList ++ '/' :: name.toList := List.append_assoc _ ['/'] _
  rw [refName, refName, hlist, lastSegment_append_slash]

theorem refName_eq_self_iff : refName name = name ↔ '/' ∉ name.toList := by
  constructor
  · intro h
    rw [← h, refName, String.toList_ofList]
    exact slash_not_mem_lastSegment _
  · intro h
    rw [refName, lastSegment_of_not_mem h, String.ofList_toList]

/-! ### What is found -/

namespace Model.Spec

theorem definition?_pointer (spec : Spec) (name : String) :
    spec.definition? (pointer name) = spec.definition? name := by
  rw [definition?, definition?, refName_pointer]

theorem definition?_name_iff (hd : d ∈ spec.definitions.entries) :
    spec.definition? d.1 = some d ↔ '/' ∉ d.1.toList := by
  rw [definition?, OrderedMap.find?_eq_some_iff, ← refName_eq_self_iff]
  exact ⟨fun h => h.2.symm, fun h => ⟨hd, h.symm⟩⟩

theorem definition?_ne_of_slash (h : '/' ∈ d.1.toList) (reference : String) :
    spec.definition? reference ≠ some d := by
  intro hfound
  rw [name_of_definition? hfound, refName, String.toList_ofList] at h
  exact slash_not_mem_lastSegment _ h

end Model.Spec

/-- A reference that finds a definition has its type name and leaves no report. -/
theorem schemaType_of_definition? (h : spec.definition? reference = some d) (p : Profile)
    (owner path : String) (j : Journal) :
    ((schemaType (.ref reference) owner path).run ⟨spec, p⟩).run j = (p.typeName d.1, j) := by
  have hk : refName reference ∈ spec.definitions.keys := by
    rw [← Spec.name_of_definition? h]
    exact mem_keys_of_definition? h
  rw [yields_reference reference owner path j, if_pos hk, Spec.name_of_definition? h]
  rfl

/-- A parent that is found comes next in the lineage. -/
theorem lineage_of_definition? (h : spec.definition? reference = some d)
    (hp : e.2.parent = some reference) (hl : lineage spec e.1 e.2 = .ok path) :
    path[1]? = some d := by
  have hname : e.2.parentName = some (refName reference) := by rw [Schema.parentName, hp]; rfl
  have hparent : spec.parentOf? e = some d := by
    rw [Spec.parentOf?, hname, Option.bind_some, Spec.definition?, refName_refName]
    exact h
  obtain ⟨hroot, _⟩ | ⟨f, rest, hf, rfl, _, ha, _⟩ := (lineage_eq_ok_iff.mp hl).1.root_or_parent
  · simp [hname] at hroot
  · obtain rfl := Option.some.inj (hparent.symm.trans hf)
    obtain ⟨ancestors, rfl⟩ := ha.exists_cons
    rfl

/-- A definition is found by its name and by the pointer to it exactly when its name has no slash,
and both always find the same. Then either form has its type name, and leads to it as a parent. To a
definition whose name has a slash no reference leads at all. -/
theorem definition_by_reference (hd : d ∈ spec.definitions.entries) :
    (∀ reference ∈ [d.1, pointer d.1],
        (spec.definition? reference = some d ↔ '/' ∉ d.1.toList)) ∧
      spec.definition? (pointer d.1) = spec.definition? d.1 ∧
      ('/' ∉ d.1.toList → ∀ reference ∈ [d.1, pointer d.1],
        (∀ p owner path j, ((schemaType (.ref reference) owner path).run ⟨spec, p⟩).run j =
          (p.typeName d.1, j)) ∧
        (∀ (e : String × Schema) path, e.2.parent = some reference →
          lineage spec e.1 e.2 = .ok path → path[1]? = some d)) ∧
      ('/' ∈ d.1.toList → ∀ reference, spec.definition? reference ≠ some d) := by
  have hpointer := spec.definition?_pointer d.1
  have hfound : ∀ reference ∈ [d.1, pointer d.1],
      (spec.definition? reference = some d ↔ '/' ∉ d.1.toList) := by
    intro reference hr
    obtain rfl | rfl : reference = d.1 ∨ reference = pointer d.1 := by simpa using hr
    · exact Spec.definition?_name_iff hd
    · rw [hpointer]
      exact Spec.definition?_name_iff hd
  refine ⟨hfound, hpointer, ?_, Spec.definition?_ne_of_slash⟩
  intro hslash reference hr
  have h := (hfound reference hr).mpr hslash
  exact ⟨schemaType_of_definition? h, fun e path => lineage_of_definition? h⟩

/-- Two versions of one definition. -/
def oldPet : String × Schema := ("v1/Pet", ⟨none, some "old", none, []⟩)

def newPet : String × Schema := ("Pet", ⟨none, some "new", none, []⟩)

def versions : Spec := .plain [] ⟨[oldPet, newPet], by decide⟩ []

theorem definition_by_reference_newPet : newPet ∈ versions.definitions.entries ∧
    versions.definition? "Pet" = some newPet ∧
    versions.definition? "#/definitions/Pet" = some newPet := by
  have hmem : newPet ∈ versions.definitions.entries := by simp [versions, Spec.plain]
  obtain ⟨hfound, _⟩ := definition_by_reference hmem
  exact ⟨hmem, (hfound "Pet" (by decide)).mpr (by decide),
    (hfound "#/definitions/Pet" (by decide)).mpr (by decide)⟩

/-- The old version is not found by its own name, nor by the pointer to it: the new one is. -/
theorem oldPet_not_found_by_name : oldPet ∈ versions.definitions.entries ∧
    versions.definition? oldPet.1 = some newPet ∧
    versions.definition? (pointer oldPet.1) = some newPet ∧ newPet.1 ≠ oldPet.1 := by
  have hmem : oldPet ∈ versions.definitions.entries := by simp [versions, Spec.plain]
  exact ⟨hmem, rfl, rfl, by decide⟩

end ApiContext
