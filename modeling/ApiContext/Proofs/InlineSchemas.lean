import ApiContext.Proofs.Diagnostics
import ApiContext.Proofs.Outlines

/-! Descriptions that differ in the bodies of inline schemas only. Both fail with one error, or both
compile, report the same and show the same, except in what is kept of them as it was loaded. -/
namespace ApiContext
open Model Resolve

/-- The nodes that keep what they are made from. -/
def Kind.keepsRaw : Kind → Bool
  | description | operation | schema | value => true
  | tag | response | typeName | enumName | fixed => false

namespace Context

/-- What is seen of a tree under a key of a node. -/
def veil (k : Kind) (key : String) (t : Context) : Context :=
  if k.keepsRaw && key == "raw" then .mapping [] else t

mutual

/-- A tree in which no node shows what it keeps of its raw description. -/
def hideRaw : Kind → Context → Context
  | _, .boolean b => .boolean b
  | _, .integer n => .integer n
  | _, .float x => .float x
  | _, .text s => .text s
  | k, .sequence elems => .sequence (hideRawElems k elems)
  | k, .mapping entries => .mapping (hideRawEntries k entries)

def hideRawElems : Kind → List Context → List Context
  | _, [] => []
  | k, t :: rest => t.hideRaw k :: hideRawElems k rest

def hideRawEntries : Kind → List (String × Context) → List (String × Context)
  | _, [] => []
  | k, (key, t) :: rest =>
    (key, (t.hideRaw (k.below (.key key))).veil k key) :: hideRawEntries k rest

end

mutual

/-- What is copied from the description as data is seen, also under a key `raw`. -/
theorem hideRaw_fixed : ∀ t : Context, t.hideRaw .fixed = t
  | .boolean _ | .integer _ | .float _ | .text _ => rfl
  | .sequence elems => by rw [hideRaw, hideRawElems_fixed elems]
  | .mapping entries => by rw [hideRaw, hideRawEntries_fixed entries]

theorem hideRawElems_fixed : ∀ ts : List Context, hideRawElems .fixed ts = ts
  | [] => rfl
  | t :: rest => by rw [hideRawElems, hideRaw_fixed t, hideRawElems_fixed rest]

theorem hideRawEntries_fixed : ∀ es : Entries Context, hideRawEntries .fixed es = es
  | [] => rfl
  | (key, t) :: rest => by
    have hbelow : Kind.fixed.below (.key key) = .fixed := rfl
    rw [hideRawEntries, hbelow, hideRaw_fixed t, hideRawEntries_fixed rest]
    rfl

end

theorem hideRawElems_eq (k : Kind) (ts : List Context) :
    hideRawElems k ts = ts.map (hideRaw k) := by
  induction ts with
  | nil => rfl
  | cons t rest ih => rw [hideRawElems, ih, List.map_cons]

theorem hideRawEntries_eq (k : Kind) (es : Entries Context) : hideRawEntries k es =
    es.map fun e => (e.1, (e.2.hideRaw (k.below (.key e.1))).veil k e.1) := by
  induction es with
  | nil => rfl
  | cons e rest ih => rw [hideRawEntries, ih, List.map_cons]

end Context

/-! ### Drafts -/

namespace Draft
variable {k : Kind} {d e : Draft} {es fs : Entries Draft}

/-- What is seen of a draft that stands in a context. -/
def shown (k : Kind) (d : Draft) : Option Context := d.prune.map (·.hideRaw k)

def shownUnder (k : Kind) (key : String) (d : Draft) : Option Context :=
  (d.shown (k.below (.key key))).map (·.veil k key)

/-- Fields of which the same is seen. -/
def SameFields (k : Kind) : Entries Draft → Entries Draft → Prop :=
  List.Forall₂ fun e f => e.1 = f.1 ∧ shownUnder k e.1 e.2 = shownUnder k e.1 f.2

theorem sameFields_nil : SameFields k [] [] := .nil

theorem sameFields_cons {key : String} : SameFields k ((key, d) :: es) ((key, e) :: fs) ↔
    shownUnder k key d = shownUnder k key e ∧ SameFields k es fs := by
  simp [SameFields]

theorem shownUnder_congr {key : String}
    (h : d.shown (k.below (.key key)) = e.shown (k.below (.key key))) :
    shownUnder k key d = shownUnder k key e := by
  rw [shownUnder, shownUnder, h]

/-- Nothing is seen of a raw description but that there is one. -/
theorem shownUnder_raw (hk : k.keepsRaw) (fields fields' : List (String × Option Json)) :
    shownUnder k "raw" (raw (.record fields)) = shownUnder k "raw" (raw (.record fields')) := by
  have hveil (t : Context) : t.veil k "raw" = .mapping [] := by
    rw [Context.veil, hk]
    rfl
  have hraw (fields : List (String × Option Json)) :
      shownUnder k "raw" (raw (.record fields)) = some (.mapping []) :=
    congrArg some (hveil _)
  rw [hraw, hraw]

theorem shown_mapping (h : SameFields k es fs) : (mapping es).shown k = (mapping fs).shown k := by
  have hentries (es : Entries Draft) : (mapping es).shown k =
      some (.mapping (es.filterMap fun e => (shownUnder k e.1 e.2).map (e.1, ·))) := by
    rw [shown, prune, Option.map_some, Context.hideRaw, Context.hideRawEntries_eq,
      pruneEntries_eq, List.map_filterMap]
    simp only [shownUnder, shown, Option.map_map]
    rfl
  rw [hentries, hentries]
  refine congrArg (some <| Context.mapping ·) ?_
  induction h with
  | nil => rfl
  | cons hef _ ih =>
    obtain ⟨hkey, hshown⟩ := hef
    rw [List.filterMap_cons, List.filterMap_cons, ih, hshown, hkey]

theorem shown_items {α : Type} {f g : α → Draft} {u : α → α}
    (h : ∀ a, (g (u a)).shown k = (f a).shown k) (l : List α) :
    (sequence ((l.map u).map g)).shown k = (sequence (l.map f)).shown k := by
  have hitems (ds : List Draft) : (sequence ds).shown k =
      some (.sequence (ds.filterMap (shown k))) := by
    rw [shown, prune, Option.map_some, Context.hideRaw, Context.hideRawElems_eq, pruneElems_eq,
      List.map_filterMap]
    rfl
  rw [hitems, hitems, List.map_map, List.filterMap_map, List.filterMap_map]
  exact congrArg (some <| Context.sequence ·) (List.filterMap_congr fun a _ => h a)

theorem shown_option {α : Type} {f g : α → Draft} {u : α → α}
    (h : ∀ a, (g (u a)).shown k = (f a).shown k) (o : Option α) :
    (ofOption ((o.map u).map g)).shown k = (ofOption (o.map f)).shown k := by
  cases o with
  | none => rfl
  | some a => exact h a

theorem sameFields_set {key : String} (hkey : shownUnder k key d = shownUnder k key e)
    (h : SameFields k es fs) : SameFields k (Entries.set key d es) (Entries.set key e fs) :=
  rel_set (R := fun key d e => shownUnder k key d = shownUnder k key e) hkey h

/-! ### Values -/

variable (p : Profile)

theorem typeText_outline (v : Value) (owner : String) :
    typeText p v.outline owner = typeText p v owner := by
  unfold typeText
  rw [v.schema_outline, v.tag_outline]
  cases v.schema with
  | none => rfl
  | some schema => cases schema <;> rfl

theorem elementType_outline (v? : Option Value) (owner : String) :
    (v?.map Value.outline).map (typeText p · owner) = v?.map (typeText p · owner) := by
  rw [Option.map_map]
  exact Option.map_congr fun v _ => typeText_outline p v owner

theorem arrayType?_outline (v : Value) (owner : String) :
    arrayType? p v.outline owner = arrayType? p v owner := by
  rw [arrayType?, arrayType?, v.isArray_outline, v.items_outline, elementType_outline]

theorem dictionaryType?_outline (v : Value) (owner : String) :
    dictionaryType? p v.outline owner = dictionaryType? p v owner := by
  rw [dictionaryType?, dictionaryType?, v.isDictionary_outline, v.element_outline,
    elementType_outline]

theorem enumName_outline (v : Value) : enumName p v.outline = enumName p v := by
  rw [enumName, enumName, v.isGlobal_outline, v.globalName_outline, v.name_outline]

theorem shown_valueFields (v : Value) (owner : String) :
    SameFields .value (valueFields p v.outline owner) (valueFields p v owner) := by
  simp only [valueFields, sameFields_cons, sameFields_nil, typeText_outline, arrayType?_outline,
    dictionaryType?_outline, enumName_outline, Value.name_outline, Value.description_outline,
    Value.format_outline, Value.fallback_outline, Value.required_outline,
    Value.enumMembers_outline, Value.isArray_outline, Value.isDictionary_outline,
    Value.isGlobal_outline, true_and, and_true]
  exact shownUnder_raw rfl v.outline.fields v.fields

theorem shown_ofValue (v : Value) :
    (ofValue p v.outline).shown .value = (ofValue p v).shown .value := by
  refine shown_mapping ?_
  rw [v.name_outline]
  exact shown_valueFields p v v.name

theorem shown_ofValues (vs : List Value) :
    (ofValues p (vs.map Value.outline)).shown .value = (ofValues p vs).shown .value :=
  shown_items (shown_ofValue p) vs

theorem shown_ofParameter (q : Parameter) :
    (ofParameter p q.outline).shown .value = (ofParameter p q).shown .value := by
  have hraw : shownUnder .value "raw" (raw q.outline.toJson) =
      shownUnder .value "raw" (raw q.toJson) :=
    shownUnder_raw rfl _ _
  refine shown_mapping (sameFields_set hraw (sameFields_set rfl ?_))
  rw [Parameter.outline, q.value.name_outline]
  exact shown_valueFields p q.value q.value.name

/-! ### Operations -/

theorem bodyOwner_outline (v : Value) (id : String) : bodyOwner v.outline id = bodyOwner v id := by
  rw [bodyOwner, bodyOwner, v.name_outline]

theorem shown_ofResponse (r : Response) (id : String) :
    (ofResponse p r.outline id).shown .response = (ofResponse p r id).shown .response := by
  obtain ⟨status, description, schema⟩ := r
  refine shown_mapping ?_
  simp only [Response.outline, sameFields_cons, sameFields_nil, true_and, and_true]
  refine shownUnder_congr ?_
  cases schema with
  | none => rfl
  | some v =>
    have hfields : SameFields .value (valueFields p v.outline (bodyOwner v.outline id))
        (valueFields p v (bodyOwner v id)) := by
      rw [bodyOwner_outline]
      exact shown_valueFields p v (bodyOwner v id)
    exact shown_mapping hfields

theorem shown_responses (rs : List Response) (id : String) :
    (sequence ((rs.map Response.outline).map (ofResponse p · id))).shown .response =
      (sequence (rs.map (ofResponse p · id))).shown .response :=
  shown_items (shown_ofResponse p · id) rs

theorem successType_outline (r : Option Response) (id : String) :
    ((ofOption ((r.map Response.outline).map (ofResponse p · id))).get "schema").get "type" =
      ((ofOption (r.map (ofResponse p · id))).get "schema").get "type" := by
  have hbody : (r.map Response.outline).bind (·.schema) =
      (r.bind (·.schema)).map Value.outline := by
    cases r <;> rfl
  rw [successType_eq, successType_eq, hbody, Option.map_map]
  refine congrArg ofText? (Option.map_congr fun v _ => ?_)
  exact (congrArg _ (bodyOwner_outline v id)).trans (typeText_outline p v _)

theorem shown_parameters (qs : List Parameter) :
    (sequence ((qs.map Parameter.outline).map (ofParameter p))).shown .value =
      (sequence (qs.map (ofParameter p))).shown .value :=
  shown_items (shown_ofParameter p) qs

/-- The parameters are grouped by what the outline keeps of them. -/
theorem shown_group {c : Parameter → Bool} (hc : ∀ q, c q.outline = c q) (qs : List Parameter) :
    (sequence (((qs.map Parameter.outline).filter c).map (ofParameter p))).shown .value =
      (sequence ((qs.filter c).map (ofParameter p))).shown .value := by
  rw [filter_map_of_eq hc]
  exact shown_parameters p _

theorem shown_first {c : Parameter → Bool} (hc : ∀ q, c q.outline = c q) (qs : List Parameter) :
    (ofOption (((qs.map Parameter.outline).filter c).map (ofParameter p)).head?).shown .value =
      (ofOption ((qs.filter c).map (ofParameter p)).head?).shown .value := by
  rw [filter_map_of_eq hc, List.head?_map, List.head?_map, List.head?_map]
  exact shown_option (shown_ofParameter p) _

theorem declaresEnum_outline (q : Parameter) : declaresEnum q.outline = declaresEnum q := by
  rw [declaresEnum, declaresEnum, Parameter.outline, q.value.enumMembers_outline,
    q.value.isGlobal_outline]

theorem shown_ofOperation (o : Operation) :
    (ofOperation p o.outline).shown .operation = (ofOperation p o).shown .operation := by
  have hgroup {c : Parameter → Bool} (hc : ∀ q, c q.outline = c q) :=
    shown_group p hc o.parameters
  have hsuccess : o.outline.responses.find? (·.isSuccess) =
      (o.responses.find? (·.isSuccess)).map Response.outline :=
    List.find?_map ..
  have hform : o.outline.parameters.any (·.isBodyOrForm) = o.parameters.any (·.isBodyOrForm) :=
    List.any_map
  have hraw : shownUnder .operation "raw" (raw o.outline.toJson) =
      shownUnder .operation "raw" (raw o.toJson) :=
    shownUnder_raw rfl _ _
  refine shown_mapping ?_
  simp only [sameFields_cons, sameFields_nil, true_and, and_true, choose_map, find?_responses,
    map_beside, hform, hraw, hsuccess]
  refine ⟨rfl, rfl, rfl, rfl, rfl, rfl, rfl, rfl,
    shownUnder_congr (shown_parameters p o.parameters), shownUnder_congr (hgroup fun _ => rfl),
    shownUnder_congr (shown_first p (fun _ => rfl) o.parameters),
    shownUnder_congr (hgroup fun _ => rfl), shownUnder_congr (hgroup fun _ => rfl),
    shownUnder_congr (hgroup fun _ => rfl), shownUnder_congr (hgroup fun _ => rfl),
    shownUnder_congr (hgroup declaresEnum_outline),
    shownUnder_congr (shown_responses p o.responses (operationId o)), ?_, ?_, rfl, rfl⟩
  · exact shownUnder_congr (shown_option (shown_ofResponse p · (operationId o)) _)
  · exact congrArg (shownUnder .operation "successType") (successType_outline p _ (operationId o))

/-! ### Schemas -/

theorem shown_ofLineage (l : Lineage) :
    (ofLineage p (outlineLineage l)).shown .schema = (ofLineage p l).shown .schema := by
  induction l with
  | nil => rfl
  | cons d ancestors ih =>
    obtain ⟨name, s⟩ := d
    have hchosen {c : Value → Bool} (hc : ∀ v, c v.outline = c v) :
        (ofValues p (s.outline.properties.filter c)).shown .value =
          (ofValues p (s.properties.filter c)).shown .value := by
      rw [properties_outline s hc]
      exact shown_ofValues p _
    have hall : (ofValues p ((allProperties (outlineLineage ((name, s) :: ancestors))).map
        (·.2))).shown .value =
          (ofValues p ((allProperties ((name, s) :: ancestors)).map (·.2))).shown .value := by
      have hvalues : ((allProperties ((name, s) :: ancestors)).map outlineProperty).map (·.2) =
          ((allProperties ((name, s) :: ancestors)).map (·.2)).map Value.outline := by
        rw [List.map_map, List.map_map]
        rfl
      rw [allProperties_outline, hvalues]
      exact shown_ofValues p _
    have hraw : shownUnder .schema "raw" (raw s.outline.toJson) =
        shownUnder .schema "raw" (raw s.toJson) :=
      shownUnder_raw rfl _ _
    refine shown_mapping ?_
    simp only [schemaFields, sameFields_cons, sameFields_nil, and_true, true_and, hraw]
    refine ⟨rfl, shownUnder_congr ih, shownUnder_congr (hchosen Value.required_outline),
      shownUnder_congr (hchosen fun v => ?_), shownUnder_congr (shown_ofValues p s.properties),
      shownUnder_congr hall, shownUnder_congr (hchosen fun v => ?_)⟩
    · rw [v.required_outline]
    · rw [v.enumMembers_outline]

/-! ### A whole context -/

theorem tagged_outline (os : List Operation) :
    tagged (os.map Operation.outline) = mapGroups Operation.outline (tagged os) := by
  rw [tagged, List.foldl_map]
  exact foldl_push (fun o : Operation => o.tags.head?) id Operation.outline os

theorem shown_operations (os : List Operation) :
    (sequence ((os.map Operation.outline).map (ofOperation p))).shown .operation =
      (sequence (os.map (ofOperation p))).shown .operation :=
  shown_items (shown_ofOperation p) os

theorem shown_tagDraft (spec : Spec) (g : String × List Operation) :
    (tagDraft spec.outline g.1 ((g.2.map Operation.outline).map (ofOperation p))).shown .tag =
      (tagDraft spec g.1 (g.2.map (ofOperation p))).shown .tag := by
  refine shown_mapping ?_
  simp only [sameFields_cons, sameFields_nil, true_and, and_true]
  exact ⟨rfl, shownUnder_congr (shown_operations p g.2)⟩

theorem shown_tags (spec : Spec) :
    (sequence ((tagGroups (spec.outline.operations.map fun o => (o, ofOperation p o))).map
      fun (name, ds) => tagDraft spec.outline name ds)).shown .tag =
        (sequence ((tagGroups (spec.operations.map fun o => (o, ofOperation p o))).map
          fun (name, ds) => tagDraft spec name ds)).shown .tag := by
  have houtline : spec.outline.operations = spec.operations.map Operation.outline := rfl
  have hitems (spec : Spec) (groups : Entries (List Operation)) :
      (mapGroups (ofOperation p) groups).map (fun (name, ds) => tagDraft spec name ds) =
        groups.map fun g => tagDraft spec g.1 (g.2.map (ofOperation p)) :=
    List.map_map
  rw [tagGroups_map, tagGroups_map, houtline, tagged_outline, hitems, hitems]
  exact shown_items (shown_tagDraft p spec) (tagged spec.operations)

theorem shown_specFields (spec : Spec) (lineages : List Lineage) :
    (mapping (specFields p spec.outline (lineages.map outlineLineage))).shown .description =
      (mapping (specFields p spec lineages)).shown .description := by
  have hraw : shownUnder .description "raw" (raw spec.outline.toJson) =
      shownUnder .description "raw" (raw spec.toJson) :=
    shownUnder_raw rfl _ _
  refine shown_mapping ?_
  simp only [specFields, sameFields_cons, sameFields_nil, and_true, hraw]
  exact ⟨rfl, rfl, rfl, rfl, rfl, shownUnder_congr (shown_operations p spec.operations),
    shownUnder_congr (shown_tags p spec),
    shownUnder_congr (shown_items (shown_ofLineage p) lineages),
    shownUnder_congr (shown_ofValues p spec.enums), rfl⟩

end Draft

/-! ### Two compilations -/

/-- A compilation of which the raw descriptions are not seen. -/
def Compilation.hideRaw (c : Compilation) : Compilation :=
  ⟨c.context.hideRaw .description, c.diagnostics⟩

section compiled
variable {spec spec' : Spec}

/-- The bodies of inline schemas show nowhere but in the raw descriptions. -/
theorem compile_outline (spec : Spec) (p : Profile) (events events' : List Event) :
    ((compile spec.outline p).run ⟨[], events'⟩).1.map Compilation.hideRaw =
      ((compile spec p).run ⟨[], events⟩).1.map Compilation.hideRaw := by
  rw [compile_result, compile_result, lineages_outline]
  cases hl : spec.lineages with
  | error err => rfl
  | ok lineages =>
    have hl' : spec.outline.lineages = .ok (lineages.map outlineLineage) := by
      rw [lineages_outline, hl]
      rfl
    have hcontext := Option.some.inj (Draft.shown_specFields p spec lineages)
    have hdiagnostics : (journalOf spec.outline p ⟨[], events'⟩).diagnostics =
        (journalOf spec p ⟨[], events⟩).diagnostics := by
      rw [diagnostics_journalOf_of_ok p events hl, diagnostics_journalOf_of_ok p events' hl',
        Visit.all_outline, Visit.reports_outline]
    exact congrArg₂ (fun t ds => Except.ok (Compilation.mk t ds)) hcontext hdiagnostics

/-- Descriptions that are the same but for the bodies of inline schemas fail with the same error,
or compile with the same diagnostics to contexts that are the same but for the raw descriptions. -/
theorem compile_inline_schemas (h : spec.outline = spec'.outline) (p : Profile)
    (events events' : List Event) :
    (∃ err, ((compile spec p).run ⟨[], events⟩).1 = .error err ∧
        ((compile spec' p).run ⟨[], events'⟩).1 = .error err) ∨
      ∃ c c', ((compile spec p).run ⟨[], events⟩).1 = .ok c ∧
        ((compile spec' p).run ⟨[], events'⟩).1 = .ok c' ∧ c.diagnostics = c'.diagnostics ∧
        c.context.hideRaw .description = c'.context.hideRaw .description := by
  have hsame : ((compile spec p).run ⟨[], events⟩).1.map Compilation.hideRaw =
      ((compile spec' p).run ⟨[], events'⟩).1.map Compilation.hideRaw := by
    rw [← compile_outline spec p events [], ← compile_outline spec' p events' [], h]
  cases hc : ((compile spec p).run ⟨[], events⟩).1 with
  | error err =>
    cases hc' : ((compile spec' p).run ⟨[], events'⟩).1 with
    | error err' =>
      rw [hc, hc'] at hsame
      obtain rfl := Except.error.inj hsame
      exact .inl ⟨err, rfl, rfl⟩
    | ok c' =>
      rw [hc, hc'] at hsame
      cases hsame
  | ok c =>
    cases hc' : ((compile spec' p).run ⟨[], events'⟩).1 with
    | error err' =>
      rw [hc, hc'] at hsame
      cases hsame
    | ok c' =>
      rw [hc, hc'] at hsame
      obtain ⟨hcontext, hdiagnostics⟩ := Compilation.mk.inj (Except.ok.inj hsame)
      exact .inr ⟨c, c', rfl, rfl, hdiagnostics, hcontext⟩

end compiled

/-- A definition with one property, whose schema is inline. -/
def keeper (s : Schema) : String × Schema :=
  ("Dog", ⟨none, none, none, [{ Value.plain "keeper" none with schema := some (.inline s) }]⟩)

def keepers (s : Schema) : Spec := .plain [] ⟨[keeper s], by simp [keeper, Entries.keys]⟩ []

/-- The parent is unknown, and the property has neither type nor schema. -/
def stranger : Schema := ⟨none, none, some "Nobody", [.plain "age" none]⟩

theorem compile_inline_schemas_keepers : (keepers stranger).outline =
      (keepers ⟨none, none, none, []⟩).outline ∧
    ∃ c c', ((compile (keepers stranger) .plain).run .empty).1 = .ok c ∧
      ((compile (keepers ⟨none, none, none, []⟩) .plain).run .empty).1 = .ok c' ∧
      c.diagnostics = c'.diagnostics ∧
      c.context.hideRaw .description = c'.context.hideRaw .description ∧
      c.context.follow? [.key "definitions", .index 0, .key "properties", .index 0, .key "raw",
        .key "schema", .key "parent"] = some (.text "Nobody") := by
  have houtline : (keepers stranger).outline = (keepers ⟨none, none, none, []⟩).outline := rfl
  have hlineages : List.Forall₂ (Ancestry (keepers stranger))
      (keepers stranger).definitions.entries [[keeper stranger]] := .cons ⟨_, .here _, rfl⟩ .nil
  have hkept : ((compile (keepers stranger) .plain).run .empty).1 = .ok _ :=
    compile_eq_ok_iff.mpr ⟨_, hlineages, rfl⟩
  refine ⟨houtline, ?_⟩
  obtain ⟨err, herr, _⟩ | ⟨c, c', hc, hc', hdiagnostics, hcontext⟩ :=
    compile_inline_schemas houtline .plain [] []
  · cases hkept.symm.trans herr
  · refine ⟨c, c', hc, hc', hdiagnostics, hcontext, ?_⟩
    obtain rfl := Except.ok.inj (hkept.symm.trans hc)
    rfl

end ApiContext
