import ApiContext.Proofs.Coherence
import ApiContext.Proofs.Nulls
import ApiContext.Proofs.Origins

/-! The mappings of values. Wherever one stands in a context, among the groups of an operation,
under a response or in a list of properties at any depth, it shows the same of the value that it is
made from, and pruning takes no more from it than what the value does not have. -/
namespace ApiContext
open Model Resolve

/-- The mapping of one member of an enum. A member that is null keeps its name and has no value. -/
structure EnumCase (member : Json) (t : Context) : Prop where
  name : t.get? "name" = some (.text (Naming.enumCaseName (memberLabel member)))
  value : t.get? "value" = (Draft.ofJson member).prune
  value_none : t.get? "value" = none ↔ member = .null

/-- One case for each member, in the order of the members. -/
def EnumCases (members : List Json) (t : Context) : Prop :=
  ∃ cases, t = .sequence cases ∧ List.Forall₂ EnumCase members cases

/-- What the mapping of a value shows; a value has a location if it is that of a parameter. -/
structure ValueMapping (v : Value) (location : Option Location) (t : Context) : Prop where
  isArray : t.get? "isArray" = some (.boolean v.isArray)
  isDictionary : t.get? "isDictionary" = some (.boolean v.isDictionary)
  apart : ¬(t.get? "isArray" = some (.boolean true) ∧ t.get? "isDictionary" = some (.boolean true))
  required : t.get? "required" = some (.boolean v.required)
  optional : t.get? "optional" = some (.boolean !v.required)
  arrayType : (t.get? "arrayType").isSome ↔
    t.get? "isArray" = some (.boolean true) ∧ v.items.isSome
  dictionaryType : (t.get? "dictionaryType").isSome ↔ t.get? "isDictionary" = some (.boolean true)
  enums : Option.Rel EnumCases (v.members <|> v.items.bind (·.members)) (t.get? "enums")
  parameterType : t.get? "parameterType" = location.map fun l => .text l.label

variable {p : Profile} {v : Value} {owner : String} {location : Option Location}

theorem Model.Value.not_isArray_and_isDictionary (v : Value) : ¬(v.isArray ∧ v.isDictionary) := by
  intro h
  obtain ⟨ha, hd⟩ := h
  have ha : v.tag = some "array" := by simpa [isArray] using ha
  simp [isDictionary, ha] at hd

theorem Model.Value.isSome_element (h : v.isDictionary) : v.element.isSome := by
  simp only [isDictionary, Bool.and_eq_true] at h
  exact h.2

namespace Draft

/-! ### Fields -/

theorem prune_ofText? (s : Option String) : (ofText? s).prune = s.map .text := by
  cases s <;> rfl

/-- A parameter differs from its value in its description and its location. -/
theorem lookup_locatedFields {key : String} (hraw : key ≠ "raw") (htype : key ≠ "parameterType") :
    (locatedFields p v owner location).lookup key = (valueFields p v owner).lookup key := by
  cases location with
  | none => rfl
  | some l => rw [locatedFields, Entries.lookup_set, Entries.lookup_set, if_neg hraw, if_neg htype]

theorem lookup_parameterType : (locatedFields p v owner location).lookup "parameterType" =
    location.map fun l => .text l.label := by
  cases location with
  | none => rfl
  | some l =>
    rw [locatedFields, Entries.lookup_set, Entries.lookup_set, if_neg (by decide), if_pos rfl]
    rfl

theorem isSome_arrayType?_iff : (arrayType? p v owner).isSome ↔ v.isArray ∧ v.items.isSome := by
  unfold arrayType?
  cases v.isArray <;> simp

theorem isSome_dictionaryType?_iff : (dictionaryType? p v owner).isSome ↔ v.isDictionary := by
  unfold dictionaryType?
  cases h : v.isDictionary with
  | false => simp
  | true => simp [v.isSome_element h]

/-! ### Cases of an enum -/

/-- The tree of a member. -/
def caseTree (member : Json) : Context := .mapping (pruneEntries [
  ("name", .text (Naming.enumCaseName (memberLabel member))), ("value", .ofJson member)])

theorem enumCase_caseTree (member : Json) : EnumCase member (caseTree member) := by
  have hkeys : (Entries.keys [("name", text (Naming.enumCaseName (memberLabel member))),
      ("value", ofJson member)]).Nodup := by
    simp [Entries.keys]
  have hvalue : (caseTree member).get? "value" = (ofJson member).prune :=
    lookup_pruneEntries hkeys "value"
  refine ⟨lookup_pruneEntries hkeys "name", hvalue, ?_⟩
  rw [hvalue, Context.prune_ofJson_eq_none_iff]

/-- No member is dropped, since each has at least a name. -/
theorem enumCases_map (members : List Json) :
    EnumCases members (.sequence (pruneElems (members.map enumCase))) := by
  have htrees : pruneElems (members.map enumCase) = members.map caseTree :=
    pruneElems_map fun _ _ => rfl
  refine ⟨members.map caseTree, congrArg Context.sequence htrees, ?_⟩
  rw [List.forall₂_map_right_iff]
  exact List.forall₂_same.mpr fun member _ => enumCase_caseTree member

/-! ### The mapping of a value -/

/-- What is pruned from the fields of a value. -/
def locatedTree (p : Profile) (v : Value) (owner : String) (location : Option Location) : Context :=
  .mapping (pruneEntries (locatedFields p v owner location))

theorem get?_locatedTree (key : String) : (locatedTree p v owner location).get? key =
    ((locatedFields p v owner location).lookup key).bind prune :=
  lookup_pruneEntries (nodup_keys_locatedFields v owner location) key

theorem get?_locatedTree_value {key : String} (hraw : key ≠ "raw") (htype : key ≠ "parameterType") :
    (locatedTree p v owner location).get? key =
      ((valueFields p v owner).lookup key).bind prune := by
  rw [get?_locatedTree, lookup_locatedFields hraw htype]

theorem get?_arrayType : (locatedTree p v owner location).get? "arrayType" =
    (arrayType? p v owner).map .text :=
  (get?_locatedTree_value (by decide) (by decide)).trans (prune_ofText? _)

theorem get?_dictionaryType : (locatedTree p v owner location).get? "dictionaryType" =
    (dictionaryType? p v owner).map .text :=
  (get?_locatedTree_value (by decide) (by decide)).trans (prune_ofText? _)

theorem get?_isGlobal : (locatedTree p v owner location).get? "isGlobal" =
    some (.boolean v.isGlobal) :=
  get?_locatedTree_value (by decide) (by decide)

theorem isSome_enums : ((locatedTree p v owner location).get? "enums").isSome =
    v.enumMembers.isSome := by
  have henums : (locatedTree p v owner location).get? "enums" =
      (ofOption (v.enumMembers.map fun ms => .sequence (ms.map enumCase))).prune :=
    get?_locatedTree_value (by decide) (by decide)
  rw [henums]
  cases v.enumMembers <;> rfl

theorem valueMapping_locatedTree (p : Profile) (v : Value) (owner : String)
    (location : Option Location) : ValueMapping v location (locatedTree p v owner location) := by
  have hfield {key : String} (hraw : key ≠ "raw") (htype : key ≠ "parameterType") :
      (locatedTree p v owner location).get? key = ((valueFields p v owner).lookup key).bind prune :=
    get?_locatedTree_value hraw htype
  have harray : (locatedTree p v owner location).get? "isArray" = some (.boolean v.isArray) :=
    hfield (by decide) (by decide)
  have hdictionary : (locatedTree p v owner location).get? "isDictionary" =
      some (.boolean v.isDictionary) :=
    hfield (by decide) (by decide)
  have henums : (locatedTree p v owner location).get? "enums" =
      (ofOption (v.enumMembers.map fun ms => .sequence (ms.map enumCase))).prune :=
    hfield (by decide) (by decide)
  refine ⟨harray, hdictionary, ?_, hfield (by decide) (by decide), hfield (by decide) (by decide),
    ?_, ?_, ?_, ?_⟩
  · simpa [harray, hdictionary] using v.not_isArray_and_isDictionary
  · simp [get?_arrayType, harray, isSome_arrayType?_iff]
  · simp [get?_dictionaryType, hdictionary, isSome_dictionaryType?_iff]
  · have hmembers : (v.members <|> v.items.bind (·.members)) = v.enumMembers := rfl
    rw [henums, hmembers]
    cases v.enumMembers with
    | none => exact .none
    | some ms => exact .some (enumCases_map ms)
  · rw [get?_locatedTree, lookup_parameterType]
    cases location <;> rfl

end Draft

/-! ### A compiled context -/

section compiled
variable {spec : Spec} {j : Journal} {c : Compilation}

theorem follow?_value (h : ((compile spec p).run j).1 = .ok c) {path : List Step}
    (ho : spec.originAt? path = some (.value v owner location)) :
    c.context.follow? path = some (Draft.locatedTree p v owner location) :=
  follow?_originAt h ho

theorem exists_value (h : ((compile spec p).run j).1 = .ok c) {path : List Step}
    {es : Entries Context} (hk : Kind.description.along path = .value)
    (ht : c.context.follow? path = some (.mapping es)) : ∃ v owner location,
      spec.originAt? path = some (.value v owner location) ∧
        .mapping es = Draft.locatedTree p v owner location := by
  obtain ⟨o, ho, hkind⟩ := exists_originAt h (hk ▸ rfl) ht
  rw [hk] at hkind
  cases o with
  | value v owner location =>
    exact ⟨v, owner, location, ho, Option.some.inj (ht.symm.trans (follow?_value h ho))⟩
  | _ => cases hkind

/-- Each mapping of a value shows what the value is that the same path leads to in the description,
and where a path leads to a value there, such a mapping stands. -/
theorem value_mappings (h : ((compile spec p).run j).1 = .ok c) (path : List Step) :
    (∀ es, Kind.description.along path = .value → c.context.follow? path = some (.mapping es) →
      ∃ v owner location, spec.originAt? path = some (.value v owner location) ∧
        ValueMapping v location (.mapping es)) ∧
    (∀ v owner location, spec.originAt? path = some (.value v owner location) →
      ∃ t, c.context.follow? path = some t ∧ ValueMapping v location t) := by
  constructor
  · intro es hk ht
    obtain ⟨v, owner, location, ho, hes⟩ := exists_value h hk ht
    rw [hes]
    exact ⟨v, owner, location, ho, Draft.valueMapping_locatedTree p v owner location⟩
  · intro v owner location ho
    exact ⟨_, follow?_value h ho, Draft.valueMapping_locatedTree p v owner location⟩

end compiled

/-- A parameter with an enum of which only the items have the members. -/
def moods : Parameter :=
  ⟨.query, { Value.plain "moods" (some "array") with items := some { mood with name := "" } }⟩

def checkup : Spec := .plain
  [⟨.get, "/moods", some "getMoods", none, none, [], [moods], [], [], false⟩] .empty []

theorem value_mappings_checkup : ∃ c t cases,
    ((compile checkup .plain).run .empty).1 = .ok c ∧
    c.context.follow? [.key "operations", .index 0, .key "enums", .index 0] = some t ∧
    ValueMapping moods.value (some .query) t ∧ t.get? "enums" = some (.sequence cases) ∧
    List.Forall₂ EnumCase [.null, .str "calm"] cases := by
  obtain ⟨c, hc⟩ : ∃ c, ((compile checkup .plain).run .empty).1 = .ok c :=
    ⟨_, compile_eq_ok_iff.mpr ⟨[], .nil, rfl⟩⟩
  have hmoods : checkup.originAt? [.key "operations", .index 0, .key "enums", .index 0] =
      some (.value moods.value "moods" (some .query)) := rfl
  obtain ⟨t, ht, hshown⟩ := (value_mappings hc _).2 _ _ _ hmoods
  have henums : Option.Rel EnumCases (some [.null, .str "calm"]) (t.get? "enums") := hshown.enums
  cases hu : t.get? "enums" with
  | none =>
    rw [hu] at henums
    cases henums
  | some u =>
    rw [hu] at henums
    cases henums with
    | some hcases =>
      obtain ⟨cases, rfl, hcases⟩ := hcases
      exact ⟨c, t, cases, hc, ht, hshown, hu, hcases⟩

end ApiContext
