import ApiContext.Proofs.Agreement
import ApiContext.Proofs.Diagnostics

/-! Compilations of one description under two profiles. They fail alike and report alike, and their
contexts agree but for the names of types and enums. Against a profile that disallows nothing, a
name differs only as the escape of a disallowed one. -/
namespace ApiContext
open Model Resolve
variable {R : Kind → String → String → Prop} {p q : Profile}

/-- Any two names, where names stand. -/
def anyNames (k : Kind) (_ _ : String) : Prop := k.isName

/-- A name that the profile disallows, escaped as it stands for a model or for an enum. -/
def escapes (p : Profile) (k : Kind) (a b : String) : Prop :=
  p.isDisallowed b ∧
    ((k = .typeName ∧ a = p.escape.model b) ∨ (k = .enumName ∧ a = p.escape.enum b))

/-- How the names of two profiles are related, whatever they are made from. -/
structure Renames (R : Kind → String → String → Prop) (p q : Profile) : Prop where
  typeName (raw : String) : p.typeName raw = q.typeName raw ∨
    R .typeName (p.typeName raw) (q.typeName raw)
  enumName (raw : String) : p.enumName raw = q.enumName raw ∨
    R .enumName (p.enumName raw) (q.enumName raw)

theorem renames_anyNames (p q : Profile) : Renames anyNames p q :=
  ⟨fun _ => .inr rfl, fun _ => .inr rfl⟩

theorem renames_escapes (hq : q.disallowed = []) : Renames (escapes p) p q := by
  have hnone (name : String) : q.isDisallowed name = false := by simp [Profile.isDisallowed, hq]
  constructor
  · intro raw
    rw [Profile.typeName, Profile.typeName, hnone]
    cases hp : p.isDisallowed (Naming.typeName raw) with
    | false => exact .inl rfl
    | true => exact .inr ⟨hp, .inl ⟨rfl, rfl⟩⟩
  · intro raw
    rw [Profile.enumName, Profile.enumName, hnone]
    cases hp : p.isDisallowed (Naming.typeName raw) with
    | false => exact .inl rfl
    | true => exact .inr ⟨hp, .inr ⟨rfl, rfl⟩⟩

namespace Draft
variable (h : Renames R p q)
include h

/-! ### Values -/

theorem agree_typeText (v : Value) (owner : String) :
    Agree R .typeName (.text (typeText p v owner)) (.text (typeText q v owner)) := by
  refine agree_text ?_
  unfold typeText
  cases v.schema with
  | some schema =>
    cases schema with
    | ref reference => exact h.typeName _
    | inline s => exact h.typeName _
  | none =>
    cases v.tag with
    | none => exact .inl rfl
    | some tag => exact .inl rfl

theorem agree_elementType (b : Bool) (element : Option Value) (owner : String) :
    Agree R .typeName (.ofText? (if b then element.map (typeText p · owner) else none))
      (.ofText? (if b then element.map (typeText q · owner) else none)) := by
  cases b with
  | false => exact agree_refl _
  | true =>
    cases element with
    | none => exact agree_refl _
    | some v => exact agree_typeText h v owner

theorem agree_enumName (v : Value) :
    Agree R .enumName (.text (enumName p v)) (.text (enumName q v)) :=
  agree_text (h.enumName _)

theorem agree_valueFields (v : Value) (owner : String) :
    AgreeFields R .value (valueFields p v owner) (valueFields q v owner) := by
  simp only [valueFields, agreeFields_cons, agreeFields_nil, agree_refl, true_and, and_true]
  refine ⟨agree_typeText h v owner, agree_enumName h v, ?_, ?_⟩
  · exact agree_elementType h v.isArray v.items (owner ++ " item")
  · exact agree_elementType h v.isDictionary v.element (owner ++ " value")

theorem agree_ofValue (v : Value) : Agree R .value (ofValue p v) (ofValue q v) :=
  agree_mapping (agree_valueFields h v v.name)

theorem agree_ofValues (vs : List Value) : Agree R .value (ofValues p vs) (ofValues q vs) :=
  agree_map fun v _ => agree_ofValue h v

theorem agree_ofParameter (x : Parameter) :
    Agree R .value (ofParameter p x) (ofParameter q x) :=
  agree_mapping <| agreeFields_set "raw" _ <| agreeFields_set "parameterType" _ <|
    agree_valueFields h x.value x.value.name

/-! ### Operations -/

theorem agree_ofResponse (r : Response) (id : String) :
    Agree R .response (ofResponse p r id) (ofResponse q r id) := by
  refine agree_mapping ?_
  simp only [agreeFields_cons, agreeFields_nil, agree_refl, true_and, and_true, Option.map_map]
  exact agree_ofOption fun v _ => agree_mapping (agree_valueFields h v _)

theorem agree_successType (r : Option Response) (id : String) :
    Agree R .typeName (((Draft.ofOption (r.map (ofResponse p · id))).get "schema").get "type")
      (((Draft.ofOption (r.map (ofResponse q · id))).get "schema").get "type") := by
  cases r with
  | none => exact agree_refl _
  | some r =>
    obtain ⟨status, description, schema⟩ := r
    cases schema with
    | none => exact agree_refl _
    | some v => exact agree_typeText h v (bodyOwner v id)

theorem agree_ofOperation (o : Operation) :
    Agree R .operation (ofOperation p o) (ofOperation q o) := by
  have hparams (l : List Parameter) :
      Agree R .value (.sequence (l.map (ofParameter p))) (.sequence (l.map (ofParameter q))) :=
    agree_map fun x _ => agree_ofParameter h x
  have hbody (x : Option Parameter) :
      Agree R .value (.ofOption (x.map (ofParameter p))) (.ofOption (x.map (ofParameter q))) :=
    agree_ofOption fun x _ => agree_ofParameter h x
  have hresponses : Agree R .response (.sequence (o.responses.map (ofResponse p · (operationId o))))
      (.sequence (o.responses.map (ofResponse q · (operationId o)))) :=
    agree_map fun r _ => agree_ofResponse h r _
  have hsuccess (r : Option Response) :
      Agree R .response (.ofOption (r.map (ofResponse p · (operationId o))))
        (.ofOption (r.map (ofResponse q · (operationId o)))) :=
    agree_ofOption fun r _ => agree_ofResponse h r _
  refine agree_mapping ?_
  simp only [agreeFields_cons, agreeFields_nil, agree_refl, true_and, and_true, choose_map,
    find?_responses, List.map_map, Function.comp_def, List.head?_map]
  exact ⟨hparams _, hparams _, hbody _, hparams _, hparams _, hparams _, hparams _, hparams _,
    hresponses, hsuccess _, agree_successType h _ _⟩

/-! ### Schemas -/

theorem agree_ofLineage (l : Lineage) : Agree R .schema (ofLineage p l) (ofLineage q l) := by
  induction l with
  | nil => exact agree_refl _
  | cons d ancestors ih =>
    obtain ⟨name, s⟩ := d
    refine agree_mapping ?_
    simp only [schemaFields, agreeFields_cons, agreeFields_nil, agree_refl, true_and, and_true]
    exact ⟨agree_text (h.typeName name), ih, agree_ofValues h _, agree_ofValues h _,
      agree_ofValues h _, agree_ofValues h _, agree_ofValues h _⟩

/-! ### A whole context -/

theorem agree_tagDraft (spec : Spec) (name : String) (os : List Operation) :
    Agree R .tag (tagDraft spec name (os.map (ofOperation p)))
      (tagDraft spec name (os.map (ofOperation q))) := by
  refine agree_mapping ?_
  simp only [agreeFields_cons, agreeFields_nil, agree_refl, true_and, and_true]
  exact agree_map fun o _ => agree_ofOperation h o

theorem agree_specFields (spec : Spec) (lineages : List Lineage) :
    AgreeFields R .description (specFields p spec lineages) (specFields q spec lineages) := by
  simp only [specFields, agreeFields_cons, agreeFields_nil, agree_refl, true_and, and_true,
    tagGroups_map, mapGroups, List.map_map, Function.comp_def]
  refine ⟨?_, ?_, ?_, ?_⟩
  · exact agree_map fun o _ => agree_ofOperation h o
  · exact agree_map fun g _ => agree_tagDraft h spec g.1 g.2
  · exact agree_map fun l _ => agree_ofLineage h l
  · exact agree_map fun v _ => agree_ofValue h v

end Draft

/-! ### Two compilations -/

/-- The profile decides the context of a compilation, but not whether there is one, nor what is
reported. Contexts under two profiles agree at every path except for names of types and enums. If
one of the profiles disallows nothing, each name that differs is disallowed by the other profile
and is escaped there. -/
theorem compile_profiles (spec : Spec) (p q : Profile) (events events' : List Event) :
    (∃ err, ((compile spec p).run ⟨[], events⟩).1 = .error err ∧
        ((compile spec q).run ⟨[], events'⟩).1 = .error err) ∨
      ∃ c d, ((compile spec p).run ⟨[], events⟩).1 = .ok c ∧
        ((compile spec q).run ⟨[], events'⟩).1 = .ok d ∧ c.diagnostics = d.diagnostics ∧
        Context.Agree anyNames .description c.context d.context ∧
        (q.disallowed = [] → Context.Agree (escapes p) .description c.context d.context) := by
  rw [compile_result, compile_result]
  cases spec.lineages with
  | error err => exact .inl ⟨err, rfl, rfl⟩
  | ok lineages =>
    have hagree {R : Kind → String → String → Prop} (h : Renames R p q) :
        Context.Agree R .description
          (.mapping (Draft.pruneEntries (Draft.specFields p spec lineages)))
          (.mapping (Draft.pruneEntries (Draft.specFields q spec lineages))) := by
      cases Draft.agree_mapping (Draft.agree_specFields h spec lineages) with
      | some h => exact h
    refine .inr ⟨_, _, rfl, rfl, ?_, hagree (renames_anyNames p q), ?_⟩
    · rw [diagnostics_journalOf, diagnostics_journalOf]
    · exact fun hq => hagree (renames_escapes hq)

/-- Of what is disallowed here, `Dog` names a definition of the zoo, and `string` is only a tag. -/
def noDogs : Profile := ⟨"no dogs", ["Dog", "string"], .underscore⟩

theorem compile_profiles_zoo : ∃ c d, ((compile zoo noDogs).run .empty).1 = .ok c ∧
    ((compile zoo .plain).run .empty).1 = .ok d ∧
    Context.Agree (escapes noDogs) .description c.context d.context ∧
    c.context.follow? [.key "definitions", .index 0, .key "type"] = some (.text "_Dog") ∧
    d.context.follow? [.key "definitions", .index 0, .key "type"] = some (.text "Dog") ∧
    c.context.follow? [.key "definitions", .index 2, .key "properties", .index 0, .key "type"] =
      some (.text "string") := by
  have hzoo (p : Profile) {c : Compilation} (hc : ((compile zoo p).run .empty).1 = .ok c) :
      c.context = .mapping (Draft.pruneEntries (Draft.specFields p zoo zooLineages)) := by
    obtain ⟨lineages, hl, rfl⟩ := compile_eq_ok_iff.mp hc
    rw [ancestries_unique hl zoo_ancestries]
  obtain ⟨err, _, he⟩ | ⟨c, d, hc, hd, _, _, hagree⟩ := compile_profiles zoo noDogs .plain [] []
  · obtain ⟨c, hc⟩ := exists_compile_zoo
    have he : ((compile zoo .plain).run .empty).1 = .error err := he
    rw [hc] at he
    cases he
  · refine ⟨c, d, hc, hd, hagree rfl, ?_, ?_, ?_⟩
    · rw [hzoo _ hc]
      rfl
    · rw [hzoo _ hd]
      rfl
    · rw [hzoo _ hc]
      rfl

end ApiContext
