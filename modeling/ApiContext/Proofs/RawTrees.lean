import ApiContext.Proofs.Sorting
import ApiContext.Proofs.TopLevel

/-! Raw descriptions inside a context. Each node keeps the description of its own thing, and the
description that its container keeps holds the same tree, at the place that the thing has there. -/
namespace ApiContext
open Model Resolve

/-! ### Paths through drafts -/

namespace Draft
variable {key : String} {i : Nat} {rest : List Step}

/-- What a path leads to once a draft is pruned. -/
def follow? (d : Draft) (path : List Step) : Option Context := d.prune.bind (·.follow? path)

theorem follow?_nil (d : Draft) : d.follow? [] = d.prune := Option.bind_fun_some d.prune

theorem follow?_mapping {entries : Entries Draft} (hn : (Entries.keys entries).Nodup) :
    (mapping entries).follow? (.key key :: rest) = (entries.lookup key).bind (·.follow? rest) := by
  have h : (mapping entries).follow? (.key key :: rest) =
      ((pruneEntries entries).lookup key).bind (·.follow? rest) := rfl
  rw [h, lookup_pruneEntries hn, Option.bind_assoc]
  rfl

/-- Items keep their places, since none of them is absent. -/
theorem getElem?_pruneElems {ds : List Draft} (h : ∀ d ∈ ds, d.prune.isSome) (i : Nat) :
    (pruneElems ds)[i]? = ds[i]?.bind prune := by
  induction ds generalizing i with
  | nil => rfl
  | cons d rest ih =>
    obtain ⟨t, ht⟩ := Option.isSome_iff_exists.mp (h d (by simp))
    have ih := ih fun e he => h e (List.mem_cons_of_mem d he)
    rw [pruneElems, ht]
    cases i with
    | zero => exact ht.symm
    | succ i => exact ih i

theorem follow?_items {α : Type} {f : α → Draft} {l : List α} (h : ∀ a ∈ l, (f a).prune.isSome) :
    (sequence (l.map f)).follow? (.index i :: rest) = l[i]?.bind fun a => (f a).follow? rest := by
  have hitems : (sequence (l.map f)).follow? (.index i :: rest) =
      ((pruneElems (l.map f))[i]?).bind (·.follow? rest) := rfl
  have hsome : ∀ d ∈ l.map f, d.prune.isSome := by simpa using h
  rw [hitems, getElem?_pruneElems hsome, List.getElem?_map, Option.bind_assoc, Option.bind_map]
  rfl

/-- A field that holds a list leads to its items. -/
theorem follow?_listed {α : Type} {f : α → Draft} {l : List α} {entries : Entries Draft}
    (hn : (Entries.keys entries).Nodup) (hl : entries.lookup key = some (.sequence (l.map f)))
    (h : ∀ a ∈ l, (f a).prune.isSome) :
    (mapping entries).follow? (.key key :: .index i :: rest) =
      l[i]?.bind fun a => (f a).follow? rest := by
  rw [follow?_mapping hn, hl, Option.bind_some, follow?_items h]

theorem isSome_prune_of_follow? {d : Draft} {path : List Step} (h : (d.follow? path).isSome) :
    d.prune.isSome := by
  unfold follow? at h
  cases hd : d.prune with
  | none => simp [hd] at h
  | some t => rfl

/-! ### Paths through raw descriptions -/

theorem follow?_raw_obj {ms : List (String × Json)} (hn : (Entries.keys ms).Nodup) :
    (raw (.obj ms)).follow? (.key key :: rest) =
      (ms.lookup key).bind fun j => (raw j).follow? rest := by
  have hsorted : (Entries.keys (Json.sortedMembers ms)).Nodup :=
    (Json.keys_sortedMembers_perm ms).nodup_iff.mpr hn
  have hkeys : (Entries.keys (ofMembers (Json.sortedMembers ms))).Nodup := by
    rwa [keys_ofMembers]
  have hraw : raw (.obj ms) = mapping (ofMembers (Json.sortedMembers ms)) := rfl
  rw [hraw, follow?_mapping hkeys, ofMembers_eq, Entries.lookup_map_values,
    Json.lookup_sortedMembers hn, Option.map_map, Option.bind_map]
  rfl

theorem follow?_raw_record {fields : List (String × Option Json)}
    (hn : (Entries.keys fields).Nodup) : (raw (.record fields)).follow? (.key key :: rest) =
      ((fields.lookup key).bind id).bind fun j => (raw j).follow? rest := by
  have hkeys := (Entries.keys_filterMap_sublist id fields).nodup hn
  have hlookup := Entries.lookup_filterMap id hn key
  rw [← hlookup]
  exact follow?_raw_obj hkeys

theorem raw_arr (js : List Json) : raw (.arr js) = sequence (js.map raw) := by
  rw [raw, Json.sorted, ofJson, Json.sortedElems_eq, ofJsons_eq, List.map_map]
  rfl

/-- A list without items leaves no place for them, nor does a record without the list. -/
theorem follow?_raw_listed {α : Type} {json : α → Json} {l : List α}
    {fields : List (String × Option Json)} (hn : (Entries.keys fields).Nodup)
    (hl : fields.lookup key = some (Json.unlessEmpty (l.map json)))
    (h : ∀ a ∈ l, (raw (json a)).prune.isSome) :
    (raw (.record fields)).follow? (.key key :: .index i :: rest) =
      l[i]?.bind fun a => (raw (json a)).follow? rest := by
  rw [follow?_raw_record hn, hl, Option.bind_some, id]
  cases l with
  | nil => rfl
  | cons a l =>
    have hitems : (raw (.arr ((a :: l).map json))).follow? (.index i :: rest) =
        (a :: l)[i]?.bind fun a => (raw (json a)).follow? rest := by
      rw [raw_arr, List.map_map]
      exact follow?_items h
    exact hitems

theorem follow?_raw_map {α : Type} {json : α → Json} (m : OrderedMap α) :
    ((Json.unlessEmptyMap (m.entries.map fun e => (e.1, json e.2))).bind fun j =>
      (raw j).follow? (.key key :: rest)) =
        (m.entries.lookup key).bind fun a => (raw (json a)).follow? rest := by
  have hn : (Entries.keys (m.entries.map fun e => (e.1, json e.2))).Nodup := by
    rw [Entries.keys, List.map_map]
    exact m.nodup
  have hlookup := Entries.lookup_map_values json m.entries key
  have hobj : (raw (.obj (m.entries.map fun e => (e.1, json e.2)))).follow? (.key key :: rest) =
      (m.entries.lookup key).bind fun a => (raw (json a)).follow? rest := by
    rw [follow?_raw_obj hn, hlookup, Option.bind_map]
    rfl
  rw [← hobj]
  cases m.entries with
  | nil => rfl
  | cons e rest => rfl

/-! ### Paths through resolved nodes -/

variable (p : Profile)

theorem follow?_ofValue_raw (v : Value) :
    (ofValue p v).follow? (.key "raw" :: rest) = (raw v.toJson).follow? rest :=
  follow?_mapping (nodup_keys_valueFields p v v.name)

theorem follow?_ofParameter_raw (q : Parameter) :
    (ofParameter p q).follow? (.key "raw" :: rest) = (raw q.toJson).follow? rest := by
  have hn : (Entries.keys (Entries.set "raw" (raw q.toJson) (Entries.set "parameterType"
      (.text q.location.label) (valueFields p q.value q.value.name)))).Nodup :=
    Entries.nodup_keys_set (Entries.nodup_keys_set (nodup_keys_valueFields p _ _))
  rw [ofParameter, follow?_mapping hn, Entries.lookup_set, if_pos rfl]
  rfl

theorem follow?_raw_schema (r : Response) : (raw r.toJson).follow? (.key "schema" :: rest) =
    r.schema.bind fun v => (raw v.toJson).follow? rest := by
  have hfield : (raw r.toJson).follow? (.key "schema" :: rest) =
      (r.schema.map Value.toJson).bind fun j => (raw j).follow? rest :=
    follow?_raw_record (by simp [Entries.keys])
  rw [hfield, Option.bind_map]
  rfl

theorem follow?_ofResponse_raw (r : Response) (id : String) :
    (ofResponse p r id).follow? (.key "schema" :: .key "raw" :: rest) =
      r.schema.bind fun v => (raw v.toJson).follow? rest := by
  have hnode : (ofResponse p r id).follow? (.key "schema" :: .key "raw" :: rest) =
      (ofOption ((r.schema.map fun v => valueFields p v (bodyOwner v id)).map mapping)).follow?
        (.key "raw" :: rest) :=
    follow?_mapping (by simp [Entries.keys])
  rw [hnode]
  cases r.schema with
  | none => rfl
  | some v => exact follow?_mapping (nodup_keys_valueFields p v (bodyOwner v id))

theorem follow?_ofOperation_raw (o : Operation) :
    (ofOperation p o).follow? (.key "raw" :: rest) = (raw o.toJson).follow? rest :=
  follow?_mapping (by simp [Entries.keys])

theorem follow?_ofOperation_params (o : Operation) :
    (ofOperation p o).follow? (.key "params" :: .index i :: rest) =
      o.parameters[i]?.bind fun q => (ofParameter p q).follow? rest := by
  have hparams := map_beside (ofParameter p) o.parameters
  exact follow?_listed (by simp [Entries.keys]) (congrArg (some <| sequence ·) hparams)
    fun _ _ => rfl

theorem follow?_ofOperation_responses (o : Operation) :
    (ofOperation p o).follow? (.key "responses" :: .index i :: rest) =
      o.responses[i]?.bind fun r => (ofResponse p r (operationId o)).follow? rest := by
  have hresponses := map_beside (ofResponse p · (operationId o)) o.responses
  exact follow?_listed (by simp [Entries.keys]) (congrArg (some <| sequence ·) hresponses)
    fun _ _ => rfl

theorem follow?_raw_parameters (o : Operation) :
    (raw o.toJson).follow? (.key "parameters" :: .index i :: rest) =
      o.parameters[i]?.bind fun q => (raw q.toJson).follow? rest :=
  follow?_raw_listed (by simp [Entries.keys]) rfl fun _ _ => rfl

theorem follow?_raw_responses (o : Operation) :
    (raw o.toJson).follow? (.key "responses" :: .index i :: rest) =
      o.responses[i]?.bind fun r => (raw r.toJson).follow? rest :=
  follow?_raw_listed (by simp [Entries.keys]) rfl fun _ _ => rfl

theorem follow?_raw_properties (s : Schema) :
    (raw s.toJson).follow? (.key "properties" :: .index i :: rest) =
      s.properties[i]?.bind fun v => (raw v.toJson).follow? rest := by
  obtain ⟨title, description, parent, properties⟩ := s
  refine follow?_raw_listed (by simp [Entries.keys, Schema.fields]) ?_ fun _ _ => rfl
  rw [Schema.fields, valueJsons_eq]
  rfl

/-! ### Paths through a whole description -/

variable (spec : Spec)

theorem follow?_raw_operations :
    (raw spec.toJson).follow? (.key "operations" :: .index i :: rest) =
      spec.operations[i]?.bind fun o => (raw o.toJson).follow? rest :=
  follow?_raw_listed (by simp [Entries.keys]) rfl fun _ _ => rfl

theorem follow?_raw_enums :
    (raw spec.toJson).follow? (.key "enums" :: .index i :: rest) =
      spec.enums[i]?.bind fun v => (raw v.toJson).follow? rest :=
  follow?_raw_listed (by simp [Entries.keys]) rfl fun _ _ => rfl

theorem follow?_raw_definitions :
    (raw spec.toJson).follow? (.key "definitions" :: .key key :: rest) =
      (spec.definitions.entries.lookup key).bind fun s => (raw s.toJson).follow? rest := by
  have hfield : (raw spec.toJson).follow? (.key "definitions" :: .key key :: rest) =
      (Json.unlessEmptyMap (spec.definitions.entries.map fun e => (e.1, e.2.toJson))).bind fun j =>
        (raw j).follow? (.key key :: rest) :=
    follow?_raw_record (by simp [Entries.keys])
  rw [hfield, follow?_raw_map]

end Draft

section compiled
variable {spec : Spec} {profile : Profile} {j : Journal} {c : Compilation}
variable {i : Nat} {rest path : List Step}

theorem follow?_schemaTree_raw (p : Profile) (d : String × Schema) (ancestors : Lineage) :
    (schemaTree p d ancestors).follow? (.key "raw" :: rest) = (raw d.2.toJson).follow? rest := by
  have h : (schemaTree p d ancestors).follow? (.key "raw" :: rest) =
      ((schemaTree p d ancestors).get? "raw").bind (·.follow? rest) := rfl
  rw [h, get?_schemaTree]
  rfl

theorem follow?_schemaTree_properties (p : Profile) (d : String × Schema) (ancestors : Lineage) :
    (schemaTree p d ancestors).follow? (.key "properties" :: .index i :: rest) =
      d.2.properties[i]?.bind fun v => (Draft.ofValue p v).follow? rest := by
  have h : (schemaTree p d ancestors).follow? (.key "properties" :: .index i :: rest) =
      ((schemaTree p d ancestors).get? "properties").bind (·.follow? (.index i :: rest)) := rfl
  have hitem : (Context.sequence (d.2.properties.map (valueTree p))).follow? (.index i :: rest) =
      ((d.2.properties.map (valueTree p))[i]?).bind (·.follow? rest) := rfl
  rw [h, get?_properties, Option.bind_some, hitem, List.getElem?_map, Option.bind_map]
  rfl

theorem follow?_context (h : ((compile spec profile).run j).1 = .ok c) : c.context.follow? path =
    (Draft.mapping (Draft.specFields profile spec
      (spec.definitions.entries.map spec.lineageOf))).follow? path := by
  rw [context_eq h]
  rfl

theorem follow?_raw (h : ((compile spec profile).run j).1 = .ok c) :
    c.context.follow? (.key "raw" :: rest) = (raw spec.toJson).follow? rest := by
  rw [follow?_context h]
  exact Draft.follow?_mapping (Draft.nodup_keys_specFields profile spec _)

theorem follow?_operations (h : ((compile spec profile).run j).1 = .ok c) :
    c.context.follow? (.key "operations" :: .index i :: rest) =
      spec.operations[i]?.bind fun o => (Draft.ofOperation profile o).follow? rest := by
  rw [follow?_context h]
  exact Draft.follow?_listed (Draft.nodup_keys_specFields profile spec _) rfl fun _ _ => rfl

theorem follow?_enums (h : ((compile spec profile).run j).1 = .ok c) :
    c.context.follow? (.key "enums" :: .index i :: rest) =
      spec.enums[i]?.bind fun v => (Draft.ofValue profile v).follow? rest := by
  rw [follow?_context h]
  exact Draft.follow?_listed (Draft.nodup_keys_specFields profile spec _) rfl fun _ _ => rfl

theorem follow?_definitions (h : ((compile spec profile).run j).1 = .ok c) :
    c.context.follow? (.key "definitions" :: .index i :: rest) =
      spec.definitions.entries[i]?.bind fun d => (definitionTree spec profile d).follow? rest := by
  have hlist : c.context.follow? (.key "definitions" :: .index i :: rest) =
      (c.context.get? "definitions").bind fun t => (t.at? i).bind (·.follow? rest) := rfl
  rw [hlist, get?_definitions h, Option.bind_some, Context.at?, List.getElem?_map, Option.bind_map]
  rfl

end compiled

end ApiContext
