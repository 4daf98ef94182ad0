import Mathlib.Data.List.Infix
import ApiContext.Lineage

/-! Shadowing in a lineage. Filtering level by level comes to one rule for the whole lineage: of
each name the properties of the nearest schema that declares it are kept, in order, under that
schema. -/
namespace ApiContext
open Model
variable {d : String × Schema} {l nearer farther : Lineage} {name : String}

def declaredNames (d : String × Schema) : List String := d.2.properties.map (·.name)

/-- The properties of a schema that no nearer schema declares again. -/
def unshadowed (nearer : Lineage) (d : String × Schema) : List (String × Value) :=
  (d.2.properties.filter fun v => ∀ c ∈ nearer, v.name ∉ declaredNames c).map (d.1, ·)

/-- The schemas of a lineage from the root-most on, each behind those that are nearer. -/
def rootFirst (l : Lineage) : List (Lineage × (String × Schema)) := (l.inits.zip l).reverse

/-! ### Level by level -/

theorem allProperties_cons (d : String × Schema) (l : Lineage) :
    allProperties (d :: l) =
      (allProperties l).filter (·.2.name ∉ declaredNames d) ++ d.2.properties.map (d.1, ·) := by
  obtain ⟨name, s⟩ := d
  have hkeep : (fun p : String × Value => !s.properties.any (·.name == p.2.name)) =
      fun p => decide (p.2.name ∉ declaredNames (name, s)) := by
    funext p
    rw [Bool.eq_iff_iff]
    simp [declaredNames]
  rw [allProperties, hkeep]

theorem names_allProperties_cons (d : String × Schema) (l : Lineage) :
    (allProperties (d :: l)).map (·.2.name) =
      ((allProperties l).map (·.2.name)).filter (· ∉ declaredNames d) ++ declaredNames d := by
  rw [allProperties_cons, List.map_append, List.map_map, List.filter_map]
  rfl

theorem rootFirst_cons (d : String × Schema) (l : Lineage) :
    rootFirst (d :: l) = (rootFirst l).map (fun c => (d :: c.1, c.2)) ++ [([], d)] := by
  rw [rootFirst, List.inits_cons, List.zip_cons_cons, List.reverse_cons, List.zip_map_left,
    ← List.map_reverse]
  rfl

theorem unshadowed_nil (d : String × Schema) : unshadowed [] d = d.2.properties.map (d.1, ·) := by
  simp [unshadowed]

/-- One nearer schema more takes away what it declares. -/
theorem unshadowed_cons (c d : String × Schema) (nearer : Lineage) :
    unshadowed (c :: nearer) d =
      (unshadowed nearer d).filter fun p => p.2.name ∉ declaredNames c := by
  have hkeep (v : Value) : decide (∀ b ∈ c :: nearer, v.name ∉ declaredNames b) =
      (decide (v.name ∉ declaredNames c) && decide (∀ b ∈ nearer, v.name ∉ declaredNames b)) := by
    rw [Bool.eq_iff_iff]
    simp
  simp only [unshadowed, List.filter_map, List.filter_filter, Function.comp_def, hkeep]

/-! ### The whole lineage -/

theorem allProperties_eq (l : Lineage) :
    allProperties l = (rootFirst l).flatMap fun c => unshadowed c.1 c.2 := by
  induction l with
  | nil => rfl
  | cons d l ih =>
    rw [allProperties_cons, rootFirst_cons, ih, List.flatMap_append, List.flatMap_map,
      List.filter_flatMap]
    simp only [unshadowed_cons, List.flatMap_singleton, unshadowed_nil]

theorem mem_names_allProperties :
    name ∈ (allProperties l).map (·.2.name) ↔ ∃ d ∈ l, name ∈ declaredNames d := by
  induction l with
  | nil => simp [allProperties]
  | cons d l ih =>
    rw [names_allProperties_cons, List.mem_append, List.mem_filter, ih]
    by_cases hd : name ∈ declaredNames d <;> simp [hd]

theorem nodup_names_allProperties (h : ∀ d ∈ l, (declaredNames d).Nodup) :
    ((allProperties l).map (·.2.name)).Nodup := by
  induction l with
  | nil => exact .nil
  | cons d l ih =>
    obtain ⟨hd, hl⟩ := List.forall_mem_cons.mp h
    rw [names_allProperties_cons]
    refine List.nodup_append.mpr ⟨(ih hl).filter _, hd, ?_⟩
    intro a ha b hb hab
    have hnot := (List.mem_filter.mp ha).2
    simp only [decide_eq_true_eq] at hnot
    exact hnot (hab ▸ hb)

/-- Of one name the properties of the nearest schema that declares it are there, and no others. -/
theorem filter_allProperties (hd : name ∈ declaredNames d)
    (hn : ∀ c ∈ nearer, name ∉ declaredNames c) :
    (allProperties (nearer ++ d :: farther)).filter (·.2.name = name) =
      (d.2.properties.filter (·.name = name)).map (d.1, ·) := by
  induction nearer with
  | nil =>
    have hinherited : ((allProperties farther).filter (·.2.name ∉ declaredNames d)).filter
        (·.2.name = name) = [] := by
      refine List.filter_eq_nil_iff.mpr fun p hp hname => ?_
      have hnot := (List.mem_filter.mp hp).2
      simp only [decide_eq_true_eq] at hnot hname
      exact hnot (hname ▸ hd)
    rw [List.nil_append, allProperties_cons, List.filter_append, hinherited, List.nil_append,
      List.filter_map]
    rfl
  | cons c nearer ih =>
    obtain ⟨hc, hn⟩ := List.forall_mem_cons.mp hn
    have hown : (c.2.properties.map (c.1, ·)).filter (·.2.name = name) = [] := by
      refine List.filter_eq_nil_iff.mpr fun p hp hname => hc ?_
      obtain ⟨v, hv, rfl⟩ := List.mem_map.mp hp
      simp only [decide_eq_true_eq] at hname
      exact List.mem_map.mpr ⟨v, hv, hname⟩
    have hkept : ((allProperties (nearer ++ d :: farther)).filter
        (·.2.name ∉ declaredNames c)).filter (·.2.name = name) =
          (allProperties (nearer ++ d :: farther)).filter (·.2.name = name) := by
      rw [List.filter_filter]
      refine List.filter_congr fun p _ => ?_
      by_cases hname : p.2.name = name <;> simp [hname, hc]
    rw [List.cons_append, allProperties_cons, List.filter_append, hown, List.append_nil, hkept,
      ih hn]

/-- All properties of a lineage are those that no nearer schema declares again, from the root-most
schema to the first and in each in the order of declaration. So their names are the names declared
anywhere, each has the properties of the nearest schema that declares it, own properties come last,
and no name repeats unless one schema declares it twice. -/
theorem allProperties_shadowing (l : Lineage) :
    allProperties l = (rootFirst l).flatMap (fun c => unshadowed c.1 c.2) ∧
      (∀ name, name ∈ (allProperties l).map (·.2.name) ↔ ∃ d ∈ l, name ∈ declaredNames d) ∧
      (∀ nearer d farther name, l = nearer ++ d :: farther → name ∈ declaredNames d →
        (∀ c ∈ nearer, name ∉ declaredNames c) →
        (allProperties l).filter (·.2.name = name) =
          (d.2.properties.filter (·.name = name)).map (d.1, ·)) ∧
      (∀ d ancestors, l = d :: ancestors → d.2.properties.map (d.1, ·) <:+ allProperties l) ∧
      ((∀ d ∈ l, (declaredNames d).Nodup) → ((allProperties l).map (·.2.name)).Nodup) := by
  refine ⟨allProperties_eq l, fun name => mem_names_allProperties, ?_, ?_,
    nodup_names_allProperties⟩
  · rintro nearer d farther name rfl hd hn
    exact filter_allProperties hd hn
  · rintro d ancestors rfl
    rw [allProperties_cons]
    exact List.suffix_append _ _

end ApiContext
