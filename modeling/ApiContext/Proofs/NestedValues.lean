import ApiContext.Model.Value
import ApiContext.Proofs.Readers

/-! Values read from JSON. A reader that goes as deep as the JSON finds all the values nested in it,
and what is written of a value, a schema or a reference is read again. -/
namespace ApiContext
open Json Source
variable {α : Type} {n : Nat}

/-! ### Readers that go deeper -/

/-- In JSON of so many levels, one reader finds what the other finds. -/
def Extends (n : Nat) (read read' : Source → Option α) : Prop :=
  ∀ s a, s.levels ≤ n → read s = some a → read' s = some a

theorem extends_list {read read' : Source → Option α} (h : Extends n read read') :
    Extends n (list? read) (list? read') := by
  intro s l hs hl
  cases s with
  | arr elems =>
    have hall := mapM_eq_some_iff.mp hl
    have hmem : ∀ e ∈ elems, e.levels ≤ n := by
      intro e he
      have hle := levels_le_of_mem he
      rw [levels] at hs
      omega
    refine mapM_eq_some_iff.mpr (((List.forall₂_and_left _ _).mpr ⟨hmem, hall⟩).imp ?_)
    exact fun e a he => h e a he.1 he.2
  | _ => cases hl

namespace Json.Record
variable {r : Record} {position : Nat} {name : String} {read read' : Source → Option α}

theorem optional_extends (h : Extends n read read') (hr : r.levels ≤ n) {a : Option α}
    (ha : r.optional position name read = some a) : r.optional position name read' = some a := by
  obtain ⟨rfl, hnone⟩ | ⟨s, b, hs, hne, hb, rfl⟩ := of_optional ha
  · exact hnone read'
  · have hb := h s b ((levels_of_field? hs).trans hr) hb
    rw [optional_of_some hs hne, hb, Option.map_some]

theorem defaulted_extends (h : Extends n read read') (hr : r.levels ≤ n) {default a : α}
    (ha : r.defaulted position name default read = some a) :
    r.defaulted position name default read' = some a := by
  obtain ⟨hs, rfl⟩ | ⟨s, hs, ha⟩ := of_defaulted ha
  · rw [defaulted, hs]
  · have ha := h s a ((levels_of_field? hs).trans hr) ha
    rwa [defaulted, hs]

end Json.Record

namespace Model
variable {value? value?' : Source → Option Value}

theorem extends_schema (h : Extends n value? value?') :
    Extends n (Schema.read? value?) (Schema.read? value?') := by
  intro s a hs ha
  simp only [Schema.read?, Option.bind_eq_bind, Option.bind_eq_some_iff] at ha
  obtain ⟨r, hr, title, htitle, description, hdescription, parent, hparent, properties,
    hproperties, ha⟩ := ha
  have hlevels := Record.levels_of_ofJson? hr
  have hproperties := Record.defaulted_extends (extends_list h) (by omega) hproperties
  simp only [Schema.read?, hr, htitle, hdescription, hparent, hproperties, Option.bind_eq_bind,
    Option.bind_some]
  exact ha

theorem readSchemaOrRef_eq_some_iff {s : Source} {a : SchemaOrRef} :
    SchemaOrRef.read? value? s = some a ↔ s.toJson?.isSome ∧
      ((∃ path, reference? s = some path ∧ a = .ref path) ∨
        (reference? s = none ∧
          ∃ schema, Schema.read? value? s = some schema ∧ a = .inline schema)) := by
  unfold SchemaOrRef.read? whole
  split
  · next hwhole =>
    dsimp only
    cases reference? s with
    | some path => simp [hwhole, eq_comm]
    | none =>
      simp only [hwhole, Option.map_eq_some_iff, reduceCtorEq, false_and, exists_false, false_or,
        true_and]
      exact exists_congr fun schema => and_congr_right fun _ => eq_comm
  · next hwhole => simp [hwhole]

theorem extends_schemaOrRef (h : Extends n value? value?') :
    Extends n (SchemaOrRef.read? value?) (SchemaOrRef.read? value?') := by
  intro s a hs ha
  rw [readSchemaOrRef_eq_some_iff] at ha ⊢
  refine ha.imp_right (Or.imp_right (And.imp_right fun hschema => ?_))
  obtain ⟨schema, hread, rfl⟩ := hschema
  exact ⟨schema, extends_schema h s schema hs hread, rfl⟩

theorem readRecord_extends (h : Extends n value? value?') {r : Record} (hr : r.levels ≤ n)
    {v : Value} (hv : Value.readRecord? value? r = some v) :
    Value.readRecord? value?' r = some v := by
  simp only [Value.readRecord?, Option.bind_eq_bind, Option.bind_eq_some_iff] at hv
  obtain ⟨name, hname, description, hdescription, tag, htag, format, hformat, required, hrequired,
    schema, hschema, items, hitems, element, helement, members, hmembers, isGlobal, hisGlobal,
    globalName, hglobalName, fallback, hfallback, hv⟩ := hv
  have hschema := Record.optional_extends (extends_schemaOrRef h) hr hschema
  have hitems := Record.optional_extends h hr hitems
  have helement := Record.optional_extends h hr helement
  simp only [Value.readRecord?, hname, hdescription, htag, hformat, hrequired, hschema, hitems,
    helement, hmembers, hisGlobal, hglobalName, hfallback, Option.bind_eq_bind, Option.bind_some]
  exact hv

/-- No reader of nested values finds more than one that goes as deep as the JSON. -/
theorem readWithin_extends (d n : Nat) : Extends n (Value.readWithin? d) (Value.readWithin? n) := by
  induction d generalizing n with
  | zero => exact fun _ _ _ h => nomatch h
  | succ d ih =>
    intro s v hs hv
    obtain ⟨r, hr, hv⟩ := Option.bind_eq_some_iff.mp hv
    have hlevels := Record.levels_of_ofJson? hr
    cases n with
    | zero => omega
    | succ n =>
      exact Option.bind_eq_some_iff.mpr ⟨r, hr, readRecord_extends (ih n) (by omega) hv⟩

theorem ofRecord_of_readRecord {d : Nat} {members : List (String × Source)} {v : Value}
    (h : Value.readRecord? (Value.readWithin? d) (.named members) = some v) :
    Value.ofRecord? members = some v :=
  readRecord_extends (readWithin_extends d _)
    (Nat.le_succ_of_le (levelsMembers_le_depth members)) h

/-! ### Written values -/

theorem valueJson?_eq (o : Option Value) : valueJson? o = o.map Value.toJson := by
  cases o <;> rfl

theorem schemaJson?_eq (o : Option SchemaOrRef) : schemaJson? o = o.map SchemaOrRef.toJson := by
  cases o with
  | none => rfl
  | some s => cases s <;> rfl

theorem nodup_keys_value (v : Value) : (Entries.keys v.fields).Nodup := by
  obtain ⟨⟩ := v
  simp [Value.fields, Entries.keys]

theorem nodup_keys_schema (s : Schema) : (Entries.keys s.fields).Nodup := by
  obtain ⟨⟩ := s
  simp [Schema.fields, Entries.keys]

theorem roundTrip_members : RoundTrip (list? free?) .arr := by
  simpa using roundTrip_list roundTrip_free

section nested
variable (hv : RoundTrip value? Value.toJson)
include hv

theorem roundTrip_schema : RoundTrip (Schema.read? value?) Schema.toJson := by
  intro s a h
  simp only [Schema.read?, Option.bind_eq_bind, Option.bind_eq_some_iff, Option.pure_def,
    Option.some.injEq] at h
  obtain ⟨r, hr, title, htitle, description, hdescription, parent, hparent, properties,
    hproperties, rfl⟩ := h
  refine Kept.restored hr ?_ (nodup_keys_schema _) rfl
  rw [Schema.fields, valueJsons_eq]
  exact .bind (.optional roundTrip_string htitle) (.bind (.optional roundTrip_string hdescription)
    (.bind (.optional roundTrip_string hparent) (.bind (.list hv hproperties) (.pure r _))))

theorem roundTrip_schemaOrRef : RoundTrip (SchemaOrRef.read? value?) SchemaOrRef.toJson := by
  intro s a h
  obtain ⟨_, ⟨path, hpath, rfl⟩ | ⟨_, schema, hschema, rfl⟩⟩ := readSchemaOrRef_eq_some_iff.mp h
  · refine ⟨readSchemaOrRef_eq_some_iff.mpr ⟨rfl, .inl ⟨path, rfl, rfl⟩⟩, ?_, nofun⟩
    cases s with
    | obj members => exact Nat.succ_le_succ (Nat.zero_le _)
    | _ => cases hpath
  · have hr := roundTrip_schema hv s schema hschema
    have hmissing : Entries.only? "$ref" (written schema.fields) = some none := by
      rw [only?_written (nodup_keys_schema schema)]
      obtain ⟨⟩ := schema
      rfl
    have hnot : reference? (ofJson schema.toJson) = none :=
      Option.bind_eq_none_iff.mpr fun s hs => by
        cases (Option.join_eq_some_iff.mp hs).symm.trans hmissing
    refine ⟨readSchemaOrRef_eq_some_iff.mpr ⟨?_, .inr ⟨hnot, schema, hr.again, rfl⟩⟩,
      hr.levels, nofun⟩
    rw [SchemaOrRef.toJson, toJson?_ofJson]
    rfl

theorem kept_value {r : Record} {v : Value} (h : Value.readRecord? value? r = some v) :
    Kept (Value.readRecord? value?) r v.fields v := by
  simp only [Value.readRecord?, Option.bind_eq_bind, Option.bind_eq_some_iff, Option.pure_def,
    Option.some.injEq] at h
  obtain ⟨name, hname, description, hdescription, tag, htag, format, hformat, required, hrequired,
    schema, hschema, items, hitems, element, helement, members, hmembers, isGlobal, hisGlobal,
    globalName, hglobalName, fallback, hfallback, rfl⟩ := h
  rw [Value.fields, schemaJson?_eq, valueJson?_eq, valueJson?_eq]
  exact .bind (.defaulted roundTrip_string rfl rfl hname)
    (.bind (.optional roundTrip_string hdescription) (.bind (.optional roundTrip_string htag)
    (.bind (.optional roundTrip_string hformat) (.bind (.defaulted roundTrip_bool rfl rfl hrequired)
    (.bind (.optional (roundTrip_schemaOrRef hv) hschema) (.bind (.optional hv hitems)
    (.bind (.optional hv helement) (.bind (.optional roundTrip_members hmembers)
    (.bind (.defaulted roundTrip_bool rfl rfl hisGlobal)
    (.bind (.optional roundTrip_string hglobalName) (.bind (.free hfallback)
    (.pure r _))))))))))))

end nested

theorem roundTrip_readWithin (d : Nat) : RoundTrip (Value.readWithin? d) Value.toJson := by
  induction d with
  | zero => exact fun _ _ h => nomatch h
  | succ d ih =>
    intro s v h
    obtain ⟨r, hr, hv⟩ := Option.bind_eq_some_iff.mp h
    exact (kept_value ih hv).restored hr (nodup_keys_value v) rfl

/-- What any depth restores is restored at the depth of the JSON. -/
theorem roundTrip_of_depth (read : (Source → Option Value) → Source → Option α) {write : α → Json}
    (ht : ∀ d, RoundTrip (read (Value.readWithin? d)) write)
    (he : ∀ d n, Extends n (read (Value.readWithin? d)) (read (Value.readWithin? n))) :
    RoundTrip (fun s => read (Value.readWithin? s.depth) s) write := by
  intro s a h
  have hr := ht s.depth s a h
  exact ⟨he _ _ _ _ (levels_le_depth _) hr.again, hr.levels, hr.null⟩

theorem roundTrip_value : RoundTrip Value.ofJson? Value.toJson :=
  roundTrip_of_depth id roundTrip_readWithin readWithin_extends

theorem roundTrip_definition : RoundTrip Schema.ofJson? Schema.toJson :=
  roundTrip_of_depth Schema.read? (fun d => roundTrip_schema (roundTrip_readWithin d))
    fun d n => extends_schema (readWithin_extends d n)

theorem roundTrip_typing : RoundTrip SchemaOrRef.ofJson? SchemaOrRef.toJson :=
  roundTrip_of_depth SchemaOrRef.read? (fun d => roundTrip_schemaOrRef (roundTrip_readWithin d))
    fun d n => extends_schemaOrRef (readWithin_extends d n)

end Model
end ApiContext
