import ApiContext.Model.Spec
import ApiContext.Proofs.NestedValues

/-! Descriptions and their parts written and read again. Whatever JSON they were read from, with
records as arrays, alternatives as objects or nulls for what is missing, they come back as they
are. -/
namespace ApiContext.Model
open Json Source

theorem roundTrip_method : RoundTrip (choice? Method.all Method.key) fun m => .str m.key :=
  roundTrip_choice (by decide)

theorem roundTrip_location : RoundTrip (choice? Location.all Location.key) fun l => .str l.key :=
  roundTrip_choice (by decide)

theorem roundTrip_schemeType :
    RoundTrip (choice? SchemeType.all SchemeType.key) fun t => .str t.key :=
  roundTrip_choice (by decide)

/-! ### Parts of operations -/

theorem roundTrip_securityRequirement :
    RoundTrip SecurityRequirement.ofJson? SecurityRequirement.toJson := by
  intro s a h
  simp only [SecurityRequirement.ofJson?, Option.bind_eq_bind, Option.bind_eq_some_iff,
    Option.pure_def, Option.some.injEq] at h
  obtain ⟨r, hr, name, hname, scopes, hscopes, rfl⟩ := h
  exact Kept.restored hr (.bind (.required roundTrip_string hname)
    (.bind (.list roundTrip_string hscopes) (.pure r _))) (by simp [Entries.keys]) rfl

theorem roundTrip_response : RoundTrip Response.ofJson? Response.toJson := by
  intro s a h
  simp only [Response.ofJson?, Option.bind_eq_bind, Option.bind_eq_some_iff, Option.pure_def,
    Option.some.injEq] at h
  obtain ⟨r, hr, status, hstatus, description, hdescription, schema, hschema, rfl⟩ := h
  exact Kept.restored hr (.bind (.optional roundTrip_uint16 hstatus)
    (.bind (.optional roundTrip_string hdescription) (.bind (.optional roundTrip_value hschema)
      (.pure r _)))) (by simp [Entries.keys]) rfl

theorem nodup_keys_parameter (p : Parameter) :
    (Entries.keys (("in", some (.str p.location.key)) :: p.value.fields)).Nodup := by
  obtain ⟨location, ⟨⟩⟩ := p
  simp [Value.fields, Entries.keys]

theorem readParameter_eq_some_iff {s : Source} {p : Parameter} :
    Parameter.ofJson? s = some p ↔ s.toJson?.isSome ∧ ∃ members, s = .obj members ∧
      (Record.named members).required 0 "in" (choice? Location.all Location.key) =
        some p.location ∧
      Value.ofRecord? members = some p.value := by
  constructor
  · intro h
    unfold Parameter.ofJson? whole at h
    split at h
    · next hwhole =>
      cases s with
      | obj members =>
        obtain ⟨location, hlocation, h⟩ := Option.bind_eq_some_iff.mp h
        obtain ⟨v, hv, h⟩ := Option.bind_eq_some_iff.mp h
        obtain rfl := Option.some.inj h
        exact ⟨hwhole, members, rfl, hlocation, hv⟩
      | _ => cases h
    · cases h
  · intro h
    obtain ⟨hwhole, members, rfl, hlocation, hv⟩ := h
    unfold Parameter.ofJson? whole
    rw [if_pos hwhole]
    refine Option.bind_eq_some_iff.mpr ⟨_, hlocation, ?_⟩
    exact Option.bind_eq_some_iff.mpr ⟨_, hv, rfl⟩

/-- The location and the fields of the value are read side by side from one object. -/
theorem roundTrip_parameter : RoundTrip Parameter.ofJson? Parameter.toJson := by
  intro s p h
  obtain ⟨_, members, rfl, hlocation, hvalue⟩ := readParameter_eq_some_iff.mp h
  have hlocation := Kept.required roundTrip_location hlocation
  have hvalue := kept_value (roundTrip_readWithin _) hvalue
  obtain ⟨hin, hfields⟩ :=
    List.forall_mem_cons.mp (only?_written_of_mem (nodup_keys_parameter p))
  have hjson : ofJson p.toJson =
      .obj (written (("in", some (.str p.location.key)) :: p.value.fields)) := rfl
  refine ⟨readParameter_eq_some_iff.mpr ⟨?_, _, hjson, ?_, ?_⟩, ?_, nofun⟩
  · rw [toJson?_ofJson]
    rfl
  · exact hlocation.again (List.forall_mem_singleton.mpr hin)
  · exact ofRecord_of_readRecord (hvalue.again hfields)
  · rw [hjson]
    refine Nat.succ_le_succ (levels_written (List.forall_mem_cons.mpr ⟨?_, hvalue.levels⟩))
    exact List.forall_mem_singleton.mp hlocation.levels

theorem roundTrip_operation : RoundTrip Operation.ofJson? Operation.toJson := by
  intro s a h
  simp only [Operation.ofJson?, Option.bind_eq_bind, Option.bind_eq_some_iff, Option.pure_def,
    Option.some.injEq] at h
  obtain ⟨r, hr, method, hmethod, path, hpath, id, hid, summary, hsummary, description,
    hdescription, tags, htags, parameters, hparameters, responses, hresponses, security, hsecurity,
    deprecated, hdeprecated, rfl⟩ := h
  exact Kept.restored hr (.bind (.required roundTrip_method hmethod)
    (.bind (.required roundTrip_string hpath) (.bind (.optional roundTrip_string hid)
    (.bind (.optional roundTrip_string hsummary) (.bind (.optional roundTrip_string hdescription)
    (.bind (.list roundTrip_string htags) (.bind (.list roundTrip_parameter hparameters)
    (.bind (.list roundTrip_response hresponses)
    (.bind (.list roundTrip_securityRequirement hsecurity)
    (.bind (.defaulted roundTrip_bool rfl rfl hdeprecated) (.pure r _)))))))))))
    (by simp [Entries.keys]) rfl

/-! ### Parts of descriptions -/

theorem roundTrip_securityScheme : RoundTrip SecurityScheme.ofJson? SecurityScheme.toJson := by
  intro s a h
  simp only [SecurityScheme.ofJson?, Option.bind_eq_bind, Option.bind_eq_some_iff,
    Option.pure_def, Option.some.injEq] at h
  obtain ⟨r, hr, name, hname, type, htype, description, hdescription, parameterName,
    hparameterName, location, hlocation, flow, hflow, authorizationUrl, hauthorizationUrl, tokenUrl,
    htokenUrl, scopes, hscopes, rfl⟩ := h
  exact Kept.restored hr (.bind (.required roundTrip_string hname)
    (.bind (.required roundTrip_schemeType htype) (.bind (.optional roundTrip_string hdescription)
    (.bind (.optional roundTrip_string hparameterName) (.bind (.optional roundTrip_string hlocation)
    (.bind (.optional roundTrip_string hflow)
    (.bind (.optional roundTrip_string hauthorizationUrl)
    (.bind (.optional roundTrip_string htokenUrl) (.bind (.map roundTrip_string hscopes)
    (.pure r _)))))))))) (by simp [Entries.keys]) rfl

theorem roundTrip_info : RoundTrip Info.ofJson? Info.toJson := by
  intro s a h
  simp only [Info.ofJson?, Option.bind_eq_bind, Option.bind_eq_some_iff, Option.pure_def,
    Option.some.injEq] at h
  obtain ⟨r, hr, title, htitle, description, hdescription, version, hversion, rfl⟩ := h
  exact Kept.restored hr (.bind (.required roundTrip_string htitle)
    (.bind (.optional roundTrip_string hdescription) (.bind (.required roundTrip_string hversion)
      (.pure r _)))) (by simp [Entries.keys]) rfl

theorem roundTrip_tag : RoundTrip Tag.ofJson? Tag.toJson := by
  intro s a h
  simp only [Tag.ofJson?, Option.bind_eq_bind, Option.bind_eq_some_iff, Option.pure_def,
    Option.some.injEq] at h
  obtain ⟨r, hr, name, hname, description, hdescription, rfl⟩ := h
  exact Kept.restored hr (.bind (.required roundTrip_string hname)
    (.bind (.optional roundTrip_string hdescription) (.pure r _))) (by simp [Entries.keys]) rfl

theorem roundTrip_spec : RoundTrip Spec.ofJson? Spec.toJson := by
  intro s a h
  simp only [Spec.ofJson?, Option.bind_eq_bind, Option.bind_eq_some_iff, Option.pure_def,
    Option.some.injEq] at h
  obtain ⟨r, hr, info, hinfo, host, hhost, basePath, hbasePath, schemes, hschemes, operations,
    hoperations, definitions, hdefinitions, securitySchemes, hsecuritySchemes, enums, henums, tags,
    htags, rfl⟩ := h
  exact Kept.restored hr (.bind (.required roundTrip_info hinfo)
    (.bind (.optional roundTrip_string hhost) (.bind (.optional roundTrip_string hbasePath)
    (.bind (.list roundTrip_string hschemes) (.bind (.list roundTrip_operation hoperations)
    (.bind (.map roundTrip_definition hdefinitions)
    (.bind (.list roundTrip_securityScheme hsecuritySchemes)
    (.bind (.list roundTrip_value henums) (.bind (.list roundTrip_tag htags)
    (.pure r _)))))))))) (by simp [Entries.keys]) rfl

/-! ### All of them -/

/-- What a description is made of, and the description itself. -/
inductive Form where
  | spec | info | tag | operation | response | parameter | value | schema | schemaOrRef
  | securityScheme | securityRequirement

namespace Form

def Of : Form → Type
  | spec => Spec
  | info => Info
  | tag => Tag
  | operation => Operation
  | response => Response
  | parameter => Parameter
  | value => Value
  | schema => Schema
  | schemaOrRef => SchemaOrRef
  | securityScheme => SecurityScheme
  | securityRequirement => SecurityRequirement

def read? : (f : Form) → Source → Option f.Of
  | spec => Spec.ofJson?
  | info => Info.ofJson?
  | tag => Tag.ofJson?
  | operation => Operation.ofJson?
  | response => Response.ofJson?
  | parameter => Parameter.ofJson?
  | value => Value.ofJson?
  | schema => Schema.ofJson?
  | schemaOrRef => SchemaOrRef.ofJson?
  | securityScheme => SecurityScheme.ofJson?
  | securityRequirement => SecurityRequirement.ofJson?

def write : (f : Form) → f.Of → Json
  | spec => Spec.toJson
  | info => Info.toJson
  | tag => Tag.toJson
  | operation => Operation.toJson
  | response => Response.toJson
  | parameter => Parameter.toJson
  | value => Value.toJson
  | schema => Schema.toJson
  | schemaOrRef => SchemaOrRef.toJson
  | securityScheme => SecurityScheme.toJson
  | securityRequirement => SecurityRequirement.toJson

/-- JSON read and written again. -/
def rewrite? (f : Form) (s : Source) : Option Json := (f.read? s).map f.write

theorem roundTrip (f : Form) : RoundTrip f.read? f.write := by
  cases f with
  | spec => exact roundTrip_spec
  | info => exact roundTrip_info
  | tag => exact roundTrip_tag
  | operation => exact roundTrip_operation
  | response => exact roundTrip_response
  | parameter => exact roundTrip_parameter
  | value => exact roundTrip_value
  | schema => exact roundTrip_definition
  | schemaOrRef => exact roundTrip_typing
  | securityScheme => exact roundTrip_securityScheme
  | securityRequirement => exact roundTrip_securityRequirement

end Form

/-- Whatever was read from JSON is read again from what it is written as, the same in all of its
lists and maps. What is written is nested no deeper than what was read, and is written a second time
as it is. -/
theorem read_written (f : Form) {s : Source} {m : f.Of} (h : f.read? s = some m) :
    f.read? (.ofJson (f.write m)) = some m ∧ (ofJson (f.write m)).levels ≤ s.levels ∧
      f.rewrite? s = some (f.write m) ∧ f.rewrite? (.ofJson (f.write m)) = some (f.write m) := by
  have hr := f.roundTrip s m h
  refine ⟨hr.again, hr.levels, ?_, ?_⟩
  · rw [Form.rewrite?, h]
    rfl
  · rw [Form.rewrite?, hr.again]
    rfl

/-- An operation as an array, its method as an object, with nulls and a field that nobody reads. -/
def listed : Source := .arr [
  .obj [("get", .null)], .str "/pets", .null, .str "All pets", .null, .arr [.str "pets"],
  .arr [.obj [("in", .obj [("query", .null)]), ("name", .str "sort"), ("comment", .arr []),
    ("format", .null), ("default", .obj [("b", .bool true), ("a", .null)])]],
  .arr [.arr [.null, .str "No pets", .null]], .arr [.arr [.str "key"]]]

def unlisted : Operation :=
  ⟨.get, "/pets", none, some "All pets", none, ["pets"],
    [⟨.query, ⟨"sort", none, none, none, false, none, none, none, none, false, none,
      some (.obj [("a", .null), ("b", .bool true)])⟩⟩],
    [⟨none, some "No pets", none⟩], [⟨"key", []⟩], false⟩

theorem read_written_listed : Form.operation.read? listed = some unlisted ∧
    Form.operation.read? (.ofJson unlisted.toJson) = some unlisted ∧
      Form.operation.rewrite? listed = some unlisted.toJson := by
  have hread : Form.operation.read? listed = some unlisted := rfl
  obtain ⟨hagain, _, hrewrite, _⟩ := read_written .operation hread
  exact ⟨hread, hagain, hrewrite⟩

end ApiContext.Model
