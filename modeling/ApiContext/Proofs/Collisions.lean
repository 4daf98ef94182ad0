import ApiContext.Proofs.Escaping
import ApiContext.Proofs.Identifiers

/-! Collisions of names. The default marker is the character that guards a leading digit, and still
no escaped name is the name of another text: behind the underscore of a guarded name stands a digit,
and no name starts with one. So a profile with that marker tells apart what camel case tells apart. -/
namespace ApiContext
open Text
variable {c : Char} {rest name raw raw' : List Char}

namespace Naming

/-- Before the guard, a name starts with something alphanumeric. -/
theorem exists_pascal_cons (raw : List Char) :
    ∃ c rest, pascal raw = c :: rest ∧ isAlphanumeric c := by
  obtain ⟨⟨_, c, rest, _, hname, hfollows⟩, _⟩ := casedFrom_upperCamel (any_source raw)
  exact ⟨c, rest, (pascal_eq raw).trans hname, hfollows.alphanumeric⟩

theorem not_isDigit_of_guardDigit (h : guardDigit name = c :: rest) : c.isDigit = false := by
  cases name with
  | nil => cases h
  | cons d name =>
    rw [guardDigit] at h
    split at h
    · obtain ⟨rfl, _⟩ := List.cons.inj h
      rfl
    · next hd =>
      obtain ⟨rfl, _⟩ := List.cons.inj h
      simpa using hd

/-- A guarded name goes on with a digit, and no name starts with an underscore but guarded ones. -/
theorem isDigit_of_guardDigit (h : guardDigit (pascal raw) = '_' :: c :: rest) : c.isDigit := by
  obtain ⟨d, name, hname, hd⟩ := exists_pascal_cons raw
  rw [hname, guardDigit] at h
  split at h
  · next hdigit =>
    obtain ⟨_, hrest⟩ := List.cons.inj h
    obtain ⟨rfl, _⟩ := List.cons.inj hrest
    exact hdigit
  · obtain ⟨rfl, _⟩ := List.cons.inj h
    rw [isAlphanumeric_underscore] at hd
    cases hd

/-- No name is another one behind an underscore. -/
theorem guardDigit_ne_underscore (raw raw' : List Char) :
    guardDigit (pascal raw) ≠ '_' :: guardDigit (pascal raw') := by
  intro h
  cases hname : guardDigit (pascal raw') with
  | nil =>
    obtain ⟨d, name, hd, _⟩ := exists_pascal_cons raw'
    rw [hd, guardDigit] at hname
    split at hname <;> cases hname
  | cons c rest =>
    rw [hname] at h
    have hdigit := isDigit_of_guardDigit h
    rw [not_isDigit_of_guardDigit hname] at hdigit
    cases hdigit

theorem typeName_ne_underscore (a b : String) : typeName a ≠ "_" ++ typeName b := by
  intro h
  refine guardDigit_ne_underscore a.toList b.toList ?_
  simpa [typeName] using congrArg String.toList h

end Naming

namespace Profile
variable {p : Profile} {a b : String}

/-- Names that the marker keeps apart from escaped ones stay apart. -/
theorem escaped_inj {mark n m : String} (hn : n ≠ mark ++ m) (hm : m ≠ mark ++ n) :
    p.escaped mark n = p.escaped mark m ↔ n = m := by
  refine ⟨fun h => ?_, congrArg _⟩
  unfold escaped at h
  split at h
  · split at h
    · exact (String.append_right_inj mark).mp h
    · exact absurd h.symm hm
  · split at h
    · exact absurd h hn
    · exact h

/-- With the default marker, escaped names are equal exactly where the names are that are not yet
escaped, whatever the settings reserve. -/
theorem escaped_collisions (profile : String) (reserved : List String) (j : Journal)
    (a b : String) :
    let p := ((ofSettings ⟨profile, reserved, none⟩).run j).1
    (p.typeName a = p.typeName b ↔ Naming.typeName a = Naming.typeName b) ∧
      (p.enumName a = p.enumName b ↔ Naming.typeName a = Naming.typeName b) := by
  intro p
  have hp : p.escape = .marked "_" := by
    have hprofile : p = _ := profile_ofSettings ⟨profile, reserved, none⟩ j
    rw [hprofile]
    rfl
  have hinj : p.escaped "_" (Naming.typeName a) = p.escaped "_" (Naming.typeName b) ↔
      Naming.typeName a = Naming.typeName b :=
    escaped_inj (Naming.typeName_ne_underscore a b) (Naming.typeName_ne_underscore b a)
  rw [typeName_eq hp, typeName_eq hp, enumName_eq hp, enumName_eq hp]
  exact ⟨hinj, hinj⟩

/-- A marker that is a word itself makes one name of two. -/
example : let p := ((ofSettings ⟨"default", ["Pet"], some "Api"⟩).run .empty).1
    p.typeName "pet" = p.typeName "api pet" := by
  decide +kernel

end Profile
end ApiContext
