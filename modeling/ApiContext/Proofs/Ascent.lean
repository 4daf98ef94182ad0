import Mathlib.Data.List.Nodup
import Mathlib.Data.List.TakeWhile
import ApiContext.Lineage

/-! Ascents along parents, as a relation beside the walk. The walk finds a lineage exactly when the
ascent from its start ends at a schema without parent before any name repeats. -/
namespace ApiContext
open Model

theorem slash_not_mem_lastSegment (path : List Char) : '/' ∉ lastSegment path := by
  intro h
  have hw := List.mem_takeWhile_imp (List.mem_reverse.mp h)
  simp at hw

theorem lastSegment_of_not_mem {path : List Char} (h : '/' ∉ path) : lastSegment path = path := by
  have hall : ∀ c ∈ path.reverse, (c != '/') = true := by
    intro c hc
    have hne : c ≠ '/' := fun e => h (e ▸ List.mem_reverse.mp hc)
    simpa using hne
  rw [lastSegment, List.takeWhile_eq_self_iff.mpr hall, List.reverse_reverse]

/-- A name that was cut from a reference is its own last segment. -/
theorem refName_refName (path : String) : refName (refName path) = refName path := by
  have h := lastSegment_of_not_mem (slash_not_mem_lastSegment path.toList)
  simp only [refName, String.toList_ofList, h]

theorem Model.Schema.refName_parentName {s : Schema} {parent : String}
    (h : s.parentName = some parent) : refName parent = parent := by
  obtain ⟨path, _, rfl⟩ := Option.map_eq_some_iff.mp h
  exact refName_refName path

namespace Model.Spec

/-- The definition that the parent of a schema names. -/
def parentOf? (spec : Spec) (e : String × Schema) : Option (String × Schema) :=
  e.2.parentName.bind spec.definition?

theorem mem_entries_of_definition? {spec : Spec} {reference : String} {d : String × Schema}
    (h : spec.definition? reference = some d) : d ∈ spec.definitions.entries :=
  List.mem_of_find?_eq_some h

theorem parentOf?_of_definition? {spec : Spec} {e d : String × Schema} {parent : String}
    (hp : e.2.parentName = some parent) (hd : spec.definition? parent = some d) :
    spec.parentOf? e = some d := by
  rw [parentOf?, hp, Option.bind_some, hd]

theorem name_of_definition? {spec : Spec} {reference : String} {d : String × Schema}
    (h : spec.definition? reference = some d) : d.1 = refName reference := by
  simpa using List.find?_some h

theorem definition?_eq_none_iff (spec : Spec) (reference : String) :
    spec.definition? reference = none ↔ refName reference ∉ spec.definitions.keys := by
  rw [definition?, OrderedMap.find?, List.find?_eq_none]
  constructor
  · intro hn hk
    obtain ⟨d, hd, hname⟩ := List.mem_map.mp hk
    exact hn d hd (by simpa using hname)
  · intro hk d hd he
    exact hk (List.mem_map.mpr ⟨d, hd, by simpa using he⟩)

/-- Keys are unique, so entries with one name are one entry. -/
theorem eq_of_mem_entries {spec : Spec} {d e : String × Schema} (hd : d ∈ spec.definitions.entries)
    (he : e ∈ spec.definitions.entries) (h : d.1 = e.1) : d = e :=
  List.inj_on_of_nodup_map spec.definitions.nodup hd he h

end Model.Spec

def names (l : Lineage) : List String := l.map Prod.fst

/-- `Ascent spec e path last`: the path leads from `e` to `last`, each entry followed by the
definition that its parent names. -/
inductive Ascent (spec : Spec) : String × Schema → Lineage → String × Schema → Prop
  | here (e) : Ascent spec e [e] e
  | up {e f path last} : spec.parentOf? e = some f → Ascent spec f path last →
      Ascent spec e (e :: path) last

/-- The ascent from an entry up to a schema without parent. -/
def Ancestry (spec : Spec) (e : String × Schema) (path : Lineage) : Prop :=
  ∃ last, Ascent spec e path last ∧ last.2.parentName = none

/-- What stops an ascent whose names are distinct: a parent that is no definition, or one whose name
the ascent has passed. -/
inductive Failure (spec : Spec) (e : String × Schema) : CompileError → Prop
  | unknown {path last parent} : Ascent spec e path last → (names path).Nodup →
      last.2.parentName = some parent → spec.definition? parent = none →
      Failure spec e (.unknownParent last.1 parent)
  | cyclic {path last next} : Ascent spec e path last → (names path).Nodup →
      spec.parentOf? last = some next → next.1 ∈ names path →
      Failure spec e (.cyclicInheritance e.1 (names path ++ [next.1]))

namespace Ascent
variable {spec : Spec} {e f last last' : String × Schema} {path path' : Lineage}

theorem exists_cons (h : Ascent spec e path last) : ∃ rest, path = e :: rest := by
  cases h with
  | here => exact ⟨[], rfl⟩
  | up _ _ => exact ⟨_, rfl⟩

theorem names_eq (h : Ascent spec e path last) : names path = e.1 :: names path.tail := by
  obtain ⟨rest, rfl⟩ := h.exists_cons
  rfl

/-- The first name of an ascent is passed, then the others. -/
theorem append_names (h : Ascent spec e path last) (trail : List String) :
    trail ++ names path = (trail ++ [e.1]) ++ names path.tail := by
  rw [h.names_eq, List.append_assoc]
  rfl

theorem not_mem_of_nodup (h : Ascent spec e path last) {trail : List String}
    (hn : (trail ++ names path).Nodup) : e.1 ∉ trail := by
  intro hm
  rw [h.names_eq] at hn
  exact (List.nodup_append.mp hn).2.2 e.1 hm e.1 (by simp) rfl

/-- An ascent goes on from each entry on its path. -/
theorem from_mem (h : Ascent spec e path last) (hf : f ∈ path) :
    ∃ before after, path = before ++ f :: after ∧ Ascent spec f (f :: after) last := by
  induction h with
  | here e =>
    obtain rfl : f = e := by simpa using hf
    exact ⟨[], [], rfl, .here f⟩
  | @up e g path last hp ha ih =>
    obtain rfl | hf := List.mem_cons.mp hf
    · exact ⟨[], path, rfl, .up hp ha⟩
    · obtain ⟨before, after, rfl, hg⟩ := ih hf
      exact ⟨e :: before, after, rfl, hg⟩

theorem mem_entries (h : Ascent spec e path last) (he : e ∈ spec.definitions.entries)
    (hf : f ∈ path) : f ∈ spec.definitions.entries := by
  induction h with
  | here e =>
    obtain rfl : f = e := by simpa using hf
    exact he
  | up hp ha ih =>
    obtain rfl | hf := List.mem_cons.mp hf
    · exact he
    · obtain ⟨parent, _, hd⟩ := Option.bind_eq_some_iff.mp hp
      exact ih (Spec.mem_entries_of_definition? hd) hf

/-- Of two ascents from one entry, the one that cannot go on extends the other. -/
theorem isPrefix_of_stop (h : Ascent spec e path last) (h' : Ascent spec e path' last')
    (hstop : spec.parentOf? last' = none) : path <+: path' := by
  induction h generalizing path' with
  | here e =>
    obtain ⟨rest, rfl⟩ := h'.exists_cons
    exact ⟨rest, rfl⟩
  | up hp ha ih =>
    cases h' with
    | here => simp [hstop] at hp
    | up hp' ha' =>
      obtain rfl := Option.some.inj (hp.symm.trans hp')
      exact List.cons_prefix_cons.mpr ⟨rfl, ih ha'⟩

/-- An ascent among the definitions that cannot go on passes no name twice: it would have to go on
from the second visit as from the first. -/
theorem nodup_of_stop (h : Ascent spec e path last) (he : e ∈ spec.definitions.entries)
    (hstop : spec.parentOf? last = none) : (names path).Nodup := by
  induction h with
  | here e => simp [names]
  | @up e f path last hp ha ih =>
    obtain ⟨parent, _, hd⟩ := Option.bind_eq_some_iff.mp hp
    have hf := Spec.mem_entries_of_definition? hd
    refine List.nodup_cons.mpr ⟨?_, ih hf hstop⟩
    intro hmem
    obtain ⟨g, hg, hname⟩ := List.mem_map.mp hmem
    obtain rfl := Spec.eq_of_mem_entries (ha.mem_entries hf hg) he hname
    obtain ⟨before, after, hsplit, hag⟩ := ha.from_mem hg
    have hle := (isPrefix_of_stop (.up hp ha) hag hstop).length_le
    simp only [hsplit, List.length_cons, List.length_append] at hle
    omega

theorem dropLast_append (h : Ascent spec e path last) : path.dropLast ++ [last] = path := by
  induction h with
  | here e => rfl
  | @up e f path last hp ha ih =>
    obtain ⟨rest, rfl⟩ := ha.exists_cons
    rw [List.dropLast_cons_of_ne_nil (by simp), List.cons_append, ih]

theorem last_eq (h : Ascent spec e path last) (h' : Ascent spec e path last') : last = last' := by
  have heq : path.dropLast ++ [last] = path.dropLast ++ [last'] :=
    h.dropLast_append.trans h'.dropLast_append.symm
  simpa using List.append_cancel_left heq

theorem snoc (h : Ascent spec e path last) (hn : spec.parentOf? last = some f) :
    Ascent spec e (path ++ [f]) f := by
  induction h with
  | here e => exact .up hn (.here f)
  | up hp _ ih => exact .up hp (ih hn)

end Ascent

/-- An entry has one ancestry at most. -/
theorem Ancestry.unique {spec : Spec} {e : String × Schema} {path path' : Lineage}
    (h : Ancestry spec e path) (h' : Ancestry spec e path') : path = path' := by
  obtain ⟨last, ha, hr⟩ := h
  obtain ⟨last', ha', hr'⟩ := h'
  have hle := ha.isPrefix_of_stop ha' (by simp [Spec.parentOf?, hr'])
  have hge := ha'.isPrefix_of_stop ha (by simp [Spec.parentOf?, hr])
  exact hle.eq_of_length_le hge.length_le

/-- An ancestry ends at once, or goes on with that of the parent. -/
theorem Ancestry.root_or_parent {spec : Spec} {e : String × Schema} {path : Lineage}
    (h : Ancestry spec e path) : (e.2.parentName = none ∧ path = [e]) ∨
      ∃ f rest, spec.parentOf? e = some f ∧ path = e :: rest ∧ Ancestry spec f rest := by
  obtain ⟨last, ha, hr⟩ := h
  cases ha with
  | here => exact .inl ⟨hr, rfl⟩
  | up hp ha => exact .inr ⟨_, _, hp, rfl, last, ha, hr⟩

end ApiContext
