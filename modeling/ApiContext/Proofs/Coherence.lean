import ApiContext.Proofs.RawTrees

/-! The raw descriptions of a context agree with one another: as many things as the description has
stand in each list and in its raw counterpart, and what a thing keeps of itself is what its
container keeps of it. Empty lists are not written, which leaves no place under either path. -/
namespace ApiContext
open Model Resolve

namespace Context

/-- Both paths lead to what is kept of a description. -/
def Describes (t : Context) (j : Json) (path path' : List Step) : Prop :=
  ∃ u, (raw j).prune = some u ∧ t.follow? path = some u ∧ t.follow? path' = some u

/-- The places of a list are as many as its items. -/
def HasItems (t : Context) (path : List Step) (n : Nat) : Prop :=
  ∀ i, (t.follow? (path ++ [.index i])).isSome ↔ i < n

/-- Nodes under one path, each with a raw description of its own, and under another path the same
descriptions as items of a list. -/
structure Mirrored (t : Context) (nodes raws : List Step) (js : List Json) : Prop where
  nodes_items : t.HasItems nodes js.length
  raws_items : t.HasItems raws js.length
  describes {i : Nat} {j : Json} : js[i]? = some j →
    t.Describes j (nodes ++ [.index i, .key "raw"]) (raws ++ [.index i])

end Context

/-- All raw descriptions in the context of a description. -/
structure Coherent (spec : Spec) (t : Context) : Prop where
  operations : t.Mirrored [.key "operations"] [.key "raw", .key "operations"]
    (spec.operations.map Operation.toJson)
  parameters {i : Nat} {o : Operation} : spec.operations[i]? = some o →
    t.Mirrored [.key "operations", .index i, .key "params"]
      [.key "operations", .index i, .key "raw", .key "parameters"]
      (o.parameters.map Parameter.toJson)
  responses {i : Nat} {o : Operation} : spec.operations[i]? = some o →
    t.HasItems [.key "operations", .index i, .key "responses"] o.responses.length ∧
      t.HasItems [.key "operations", .index i, .key "raw", .key "responses"] o.responses.length
  bodies {i k : Nat} {o : Operation} {r : Response} {v : Value} : spec.operations[i]? = some o →
    o.responses[k]? = some r → r.schema = some v → t.Describes v.toJson
      [.key "operations", .index i, .key "responses", .index k, .key "schema", .key "raw"]
      [.key "operations", .index i, .key "raw", .key "responses", .index k, .key "schema"]
  definitions : t.HasItems [.key "definitions"] spec.definitions.entries.length ∧
    ∀ name, (t.follow? [.key "raw", .key "definitions", .key name]).isSome ↔
      name ∈ spec.definitions.keys
  schemas {k : Nat} {d : String × Schema} : spec.definitions.entries[k]? = some d →
    t.Describes d.2.toJson [.key "definitions", .index k, .key "raw"]
      [.key "raw", .key "definitions", .key d.1]
  properties {k : Nat} {d : String × Schema} : spec.definitions.entries[k]? = some d →
    t.Mirrored [.key "definitions", .index k, .key "properties"]
      [.key "definitions", .index k, .key "raw", .key "properties"]
      (d.2.properties.map Value.toJson)
  enums : t.Mirrored [.key "enums"] [.key "raw", .key "enums"] (spec.enums.map Value.toJson)

namespace Context
variable {α : Type} {l : List α} {t : Context} {nodes raws : List Step}

theorem hasItems_of_follow? {f : α → Option Context}
    (h : ∀ i, t.follow? (nodes ++ [.index i]) = l[i]?.bind f) (hf : ∀ a ∈ l, (f a).isSome) :
    t.HasItems nodes l.length := by
  intro i
  rw [h]
  by_cases hi : i < l.length
  · rw [List.getElem?_eq_getElem hi, Option.bind_some]
    exact iff_of_true (hf _ (List.getElem_mem hi)) hi
  · rw [List.getElem?_eq_none (not_lt.mp hi)]
    exact iff_of_false (by simp) hi

/-- Paths lead to what is kept of a description if they go on from there as its own paths do. -/
theorem describes_of_follow? {j : Json} {path path' : List Step}
    (h : t.follow? path = (raw j).follow? []) (h' : t.follow? path' = (raw j).follow? [])
    (hj : (raw j).prune.isSome) : t.Describes j path path' := by
  obtain ⟨u, hu⟩ := Option.isSome_iff_exists.mp hj
  rw [Draft.follow?_nil, hu] at h h'
  exact ⟨u, hu, h, h'⟩

/-- What stands at the places of a list of things, their own raw descriptions with them. -/
theorem mirrored_of_follow? {f : α → Draft} {json : α → Json}
    (hnodes : ∀ i rest, t.follow? (nodes ++ .index i :: rest) =
      l[i]?.bind fun a => (f a).follow? rest)
    (hraws : ∀ i rest, t.follow? (raws ++ .index i :: rest) =
      l[i]?.bind fun a => (raw (json a)).follow? rest)
    (hraw : ∀ a rest, (f a).follow? (.key "raw" :: rest) = (raw (json a)).follow? rest)
    (hjson : ∀ a, (raw (json a)).prune.isSome) :
    t.Mirrored nodes raws (l.map json) := by
  have hkept (a : α) : ((raw (json a)).follow? []).isSome := by
    rw [Draft.follow?_nil]
    exact hjson a
  have hnode (a : α) : ((f a).follow? []).isSome := by
    rw [Draft.follow?_nil]
    exact Draft.isSome_prune_of_follow? (hraw a [] ▸ hkept a)
  have hlength : (l.map json).length = l.length := List.length_map ..
  refine ⟨?_, ?_, ?_⟩
  · rw [hlength]
    exact hasItems_of_follow? (fun i => hnodes i []) fun a _ => hnode a
  · rw [hlength]
    exact hasItems_of_follow? (fun i => hraws i []) fun a _ => hkept a
  · intro i j hj
    rw [List.getElem?_map, Option.map_eq_some_iff] at hj
    obtain ⟨a, ha, rfl⟩ := hj
    refine describes_of_follow? ?_ ?_ (hjson a)
    · rw [hnodes, ha, Option.bind_some, hraw]
    · rw [hraws, ha, Option.bind_some]

end Context

section compiled
variable {spec : Spec} {profile : Profile} {j : Journal} {c : Compilation}

theorem mirrored_operations (h : ((compile spec profile).run j).1 = .ok c) :
    c.context.Mirrored [.key "operations"] [.key "raw", .key "operations"]
      (spec.operations.map Operation.toJson) := by
  refine Context.mirrored_of_follow? (fun i rest => follow?_operations h) (fun i rest => ?_)
    (fun o rest => Draft.follow?_ofOperation_raw profile o) fun o => rfl
  exact (follow?_raw h).trans (Draft.follow?_raw_operations spec)

theorem mirrored_enums (h : ((compile spec profile).run j).1 = .ok c) :
    c.context.Mirrored [.key "enums"] [.key "raw", .key "enums"]
      (spec.enums.map Value.toJson) := by
  refine Context.mirrored_of_follow? (fun i rest => follow?_enums h) (fun i rest => ?_)
    (fun v rest => Draft.follow?_ofValue_raw profile v) fun v => rfl
  exact (follow?_raw h).trans (Draft.follow?_raw_enums spec)

section operation
variable {i : Nat} {o : Operation}

theorem follow?_operation (h : ((compile spec profile).run j).1 = .ok c)
    (ho : spec.operations[i]? = some o) (rest : List Step) :
    c.context.follow? (.key "operations" :: .index i :: rest) =
      (Draft.ofOperation profile o).follow? rest := by
  rw [follow?_operations h, ho, Option.bind_some]

theorem mirrored_parameters (h : ((compile spec profile).run j).1 = .ok c)
    (ho : spec.operations[i]? = some o) :
    c.context.Mirrored [.key "operations", .index i, .key "params"]
      [.key "operations", .index i, .key "raw", .key "parameters"]
      (o.parameters.map Parameter.toJson) := by
  refine Context.mirrored_of_follow? (fun k rest => ?_) (fun k rest => ?_)
    (fun q rest => Draft.follow?_ofParameter_raw profile q) fun q => rfl
  · exact (follow?_operation h ho _).trans (Draft.follow?_ofOperation_params profile o)
  · refine (follow?_operation h ho _).trans ?_
    exact (Draft.follow?_ofOperation_raw profile o).trans (Draft.follow?_raw_parameters o)

theorem follow?_response (h : ((compile spec profile).run j).1 = .ok c)
    (ho : spec.operations[i]? = some o) (k : Nat) (rest : List Step) :
    c.context.follow? (.key "operations" :: .index i :: .key "responses" :: .index k :: rest) =
      o.responses[k]?.bind fun r => (Draft.ofResponse profile r (operationId o)).follow? rest :=
  (follow?_operation h ho _).trans (Draft.follow?_ofOperation_responses profile o)

theorem follow?_raw_response (h : ((compile spec profile).run j).1 = .ok c)
    (ho : spec.operations[i]? = some o) (k : Nat) (rest : List Step) :
    c.context.follow?
        (.key "operations" :: .index i :: .key "raw" :: .key "responses" :: .index k :: rest) =
      o.responses[k]?.bind fun r => (raw r.toJson).follow? rest := by
  refine (follow?_operation h ho _).trans ?_
  exact (Draft.follow?_ofOperation_raw profile o).trans (Draft.follow?_raw_responses o)

theorem hasItems_responses (h : ((compile spec profile).run j).1 = .ok c)
    (ho : spec.operations[i]? = some o) :
    c.context.HasItems [.key "operations", .index i, .key "responses"] o.responses.length ∧
      c.context.HasItems [.key "operations", .index i, .key "raw", .key "responses"]
        o.responses.length := by
  constructor
  · exact Context.hasItems_of_follow? (fun k => follow?_response h ho k []) fun _ _ => rfl
  · exact Context.hasItems_of_follow? (fun k => follow?_raw_response h ho k []) fun _ _ => rfl

theorem describes_body {k : Nat} {r : Response} {v : Value}
    (h : ((compile spec profile).run j).1 = .ok c) (ho : spec.operations[i]? = some o)
    (hr : o.responses[k]? = some r) (hv : r.schema = some v) : c.context.Describes v.toJson
      [.key "operations", .index i, .key "responses", .index k, .key "schema", .key "raw"]
      [.key "operations", .index i, .key "raw", .key "responses", .index k, .key "schema"] := by
  refine Context.describes_of_follow? ?_ ?_ rfl
  · refine (follow?_response h ho k _).trans ?_
    rw [hr, Option.bind_some, Draft.follow?_ofResponse_raw, hv, Option.bind_some]
  · refine (follow?_raw_response h ho k _).trans ?_
    rw [hr, Option.bind_some, Draft.follow?_raw_schema, hv, Option.bind_some]

end operation

section definition
variable {k : Nat} {d : String × Schema}

theorem follow?_definition (h : ((compile spec profile).run j).1 = .ok c)
    (hd : spec.definitions.entries[k]? = some d) (rest : List Step) :
    c.context.follow? (.key "definitions" :: .index k :: rest) =
      (definitionTree spec profile d).follow? rest := by
  rw [follow?_definitions h, hd, Option.bind_some]

theorem follow?_raw_definition (h : ((compile spec profile).run j).1 = .ok c) (name : String)
    (rest : List Step) :
    c.context.follow? (.key "raw" :: .key "definitions" :: .key name :: rest) =
      (spec.definitions.entries.lookup name).bind fun s => (raw s.toJson).follow? rest :=
  (follow?_raw h).trans (Draft.follow?_raw_definitions spec)

theorem hasItems_definitions (h : ((compile spec profile).run j).1 = .ok c) :
    c.context.HasItems [.key "definitions"] spec.definitions.entries.length :=
  Context.hasItems_of_follow? (fun _ => follow?_definitions h) fun _ _ => rfl

theorem isSome_definition_iff (h : ((compile spec profile).run j).1 = .ok c) (name : String) :
    (c.context.follow? [.key "raw", .key "definitions", .key name]).isSome ↔
      name ∈ spec.definitions.keys := by
  rw [follow?_raw_definition h]
  cases hs : spec.definitions.entries.lookup name with
  | none =>
    refine iff_of_false (by simp) fun hn => ?_
    obtain ⟨d, hd, rfl⟩ := List.mem_map.mp hn
    have hsome := (Entries.lookup_eq_some_iff spec.definitions.nodup).mpr hd
    rw [hs] at hsome
    cases hsome
  | some s =>
    have hd := (Entries.lookup_eq_some_iff spec.definitions.nodup).mp hs
    exact iff_of_true rfl (List.mem_map.mpr ⟨_, hd, rfl⟩)

theorem describes_schema (h : ((compile spec profile).run j).1 = .ok c)
    (hd : spec.definitions.entries[k]? = some d) : c.context.Describes d.2.toJson
      [.key "definitions", .index k, .key "raw"] [.key "raw", .key "definitions", .key d.1] := by
  have hlookup : spec.definitions.entries.lookup d.1 = some d.2 :=
    (Entries.lookup_eq_some_iff spec.definitions.nodup).mpr (List.mem_of_getElem? hd)
  refine Context.describes_of_follow? ?_ ?_ rfl
  · exact (follow?_definition h hd _).trans (follow?_schemaTree_raw profile d _)
  · rw [follow?_raw_definition h, hlookup, Option.bind_some]

theorem mirrored_properties (h : ((compile spec profile).run j).1 = .ok c)
    (hd : spec.definitions.entries[k]? = some d) :
    c.context.Mirrored [.key "definitions", .index k, .key "properties"]
      [.key "definitions", .index k, .key "raw", .key "properties"]
      (d.2.properties.map Value.toJson) := by
  refine Context.mirrored_of_follow? (fun i rest => ?_) (fun i rest => ?_)
    (fun v rest => Draft.follow?_ofValue_raw profile v) fun v => rfl
  · exact (follow?_definition h hd _).trans (follow?_schemaTree_properties profile d _)
  · refine (follow?_definition h hd _).trans ?_
    exact (follow?_schemaTree_raw profile d _).trans (Draft.follow?_raw_properties d.2)

end definition

/-- In the context of a description, each operation, parameter, response body, definition, property
and global enum keeps of itself what its container keeps of it, at the place that it has in the
description, and there are no other places. -/
theorem raw_coherent (h : ((compile spec profile).run j).1 = .ok c) : Coherent spec c.context where
  operations := mirrored_operations h
  parameters := mirrored_parameters h
  responses := hasItems_responses h
  bodies := describes_body h
  definitions := ⟨hasItems_definitions h, isSome_definition_iff h⟩
  schemas := describes_schema h
  properties := mirrored_properties h
  enums := mirrored_enums h

end compiled

/-- A mood that may be nothing, and has no default but a list of nothing. -/
def mood : Value :=
  { Value.plain "mood" none with
    members := some [.null, .str "calm"], fallback := some (.arr [.null]) }

def kennel : Spec := .plain [] ⟨[("Dog", ⟨none, none, none, [mood]⟩)], by decide⟩ []

def moodTree : Context := .mapping [
  ("default", .sequence []), ("enum", .sequence [.text "calm"]), ("isGlobal", .boolean false),
  ("name", .text "mood"), ("required", .boolean false)]

theorem raw_coherent_kennel : ∃ c, ((compile kennel .plain).run .empty).1 = .ok c ∧
    c.context.follow? [.key "definitions", .index 0, .key "properties", .index 0, .key "raw"] =
      some moodTree ∧
    c.context.follow? [.key "definitions", .index 0, .key "raw", .key "properties", .index 0] =
      some moodTree := by
  have hall : ∀ d ∈ kennel.definitions.entries, ∃ path, Ancestry kennel d path := by
    intro d hd
    obtain rfl := List.mem_singleton.mp hd
    exact ⟨_, _, .here _, rfl⟩
  obtain ⟨c, hc⟩ := exists_compile_ok_iff.mpr hall
  have hcoherent := raw_coherent hc
  have hmood : (raw mood.toJson).prune = some moodTree := by decide
  obtain ⟨u, hu, hown, hkept⟩ := (hcoherent.properties (k := 0) rfl).describes (i := 0) rfl
  obtain rfl := Option.some.inj (hu.symm.trans hmood)
  exact ⟨c, hc, hown, hkept⟩

end ApiContext
