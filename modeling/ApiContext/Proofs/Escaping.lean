import ApiContext.Profile

/-! Escaped names. A profile from settings puts its marker once before a name that it disallows.
What comes out is disallowed exactly when the marked name is disallowed as well, so never where no
disallowed name starts with the marker. -/
namespace ApiContext
variable {p : Profile} {mark name : String}

/-- The names that settings disallow: those of the language, and the reserved ones. -/
def Settings.disallowed (s : Settings) : List String :=
  (if s.profile = "swift" then Profile.swiftNames else []) ++ s.reserved

def Settings.marker (s : Settings) : String := s.escapePrefix.getD "_"

theorem named?_eq_none {name : String} (hd : name ≠ "default") (hs : name ≠ "swift") :
    Profile.named? name = none :=
  (if_neg hd).trans (if_neg hs)

namespace Profile

/-- The profile that settings select, whatever was logged before. -/
theorem profile_ofSettings (s : Settings) (j : Journal) : ((ofSettings s).run j).1 =
    ⟨if s.profile = "swift" then "swift" else "default", s.disallowed, .marked s.marker⟩ := by
  obtain ⟨profile, reserved, mark⟩ := s
  by_cases hs : profile = "swift"
  · subst hs
    cases mark <;> rfl
  · unfold ofSettings Settings.disallowed
    rw [if_neg hs, if_neg hs]
    by_cases hd : profile = "default"
    · subst hd
      cases mark <;> rfl
    · rw [named?_eq_none hd hs]
      cases mark <;> rfl

/-- A name as the profile gives it, for a type or for an enum. -/
def escaped (p : Profile) (mark name : String) : String :=
  if name ∈ p.disallowed then mark ++ name else name

theorem typeName_eq (hp : p.escape = .marked mark) (raw : String) :
    p.typeName raw = p.escaped mark (Naming.typeName raw) := by
  simp [typeName, isDisallowed, escaped, hp, Escape.marked]

theorem enumName_eq (hp : p.escape = .marked mark) (raw : String) :
    p.enumName raw = p.escaped mark (Naming.typeName raw) := by
  simp [enumName, isDisallowed, escaped, hp, Escape.marked]

theorem escaped_mem_iff :
    p.escaped mark name ∈ p.disallowed ↔ name ∈ p.disallowed ∧ mark ++ name ∈ p.disallowed := by
  by_cases h : name ∈ p.disallowed
  · simp [escaped, h]
  · simp [escaped, h]

theorem escaped_not_mem (h : ∀ d ∈ p.disallowed, ¬ mark.toList <+: d.toList) :
    p.escaped mark name ∉ p.disallowed := by
  intro hmem
  have hprefix : mark.toList <+: (mark ++ name).toList := by
    rw [String.toList_append]
    exact List.prefix_append _ _
  exact h _ (escaped_mem_iff.mp hmem).2 hprefix

/-- With N the camel case of a text, a profile from settings names a type or an enum N, behind its
marker if it disallows N. The name is disallowed all the same exactly when both N and the marked N
are; so it never is where no disallowed name starts with the marker. -/
theorem escaped_names (s : Settings) (j : Journal) (raw : String) :
    let p := ((ofSettings s).run j).1
    p.disallowed = s.disallowed ∧
      ∀ name ∈ [p.typeName raw, p.enumName raw],
        name = p.escaped s.marker (Naming.typeName raw) ∧
        (name ∈ p.disallowed ↔
          Naming.typeName raw ∈ p.disallowed ∧ s.marker ++ Naming.typeName raw ∈ p.disallowed) ∧
        ((∀ d ∈ p.disallowed, ¬ s.marker.toList <+: d.toList) → name ∉ p.disallowed) := by
  intro p
  have hp : p = _ := profile_ofSettings s j
  have hmarked : p.escape = .marked s.marker := by rw [hp]
  refine ⟨by rw [hp], ?_⟩
  intro name hname
  obtain rfl : name = p.escaped s.marker (Naming.typeName raw) := by
    rw [typeName_eq hmarked, enumName_eq hmarked] at hname
    simpa using hname
  exact ⟨rfl, escaped_mem_iff, escaped_not_mem⟩

/-- Settings of the profile `swift` with two more reserved names. -/
def reserving : Settings := ⟨"swift", ["Pet", "Response"], none⟩

theorem escaped_names_reserving :
    (∀ d ∈ reserving.disallowed, ¬ reserving.marker.toList <+: d.toList) ∧
      ((ofSettings reserving).run .empty).1.typeName "pet" ∉ reserving.disallowed ∧
      ((ofSettings reserving).run .empty).1.enumName "type" ∉ reserving.disallowed := by
  have hfree : ∀ d ∈ reserving.disallowed, ¬ reserving.marker.toList <+: d.toList := by
    decide +kernel
  obtain ⟨hset, hpet⟩ := escaped_names reserving .empty "pet"
  obtain ⟨_, htype⟩ := escaped_names reserving .empty "type"
  rw [hset] at hpet htype
  exact ⟨hfree, (hpet _ (by simp)).2.2 hfree, (htype _ (by simp)).2.2 hfree⟩

/-- Two reserved names of which one is the other behind the marker, and a marker without text: the
escaped name is reserved too. -/
theorem escaped_pet_reserved :
    ((ofSettings ⟨"default", ["Pet", "_Pet"], none⟩).run .empty).1.typeName "pet" = "_Pet" ∧
      "_Pet" ∈ ((ofSettings ⟨"default", ["Pet", "_Pet"], none⟩).run .empty).1.disallowed ∧
      ((ofSettings ⟨"swift", [], some ""⟩).run .empty).1.enumName "type" = "Type" ∧
      "Type" ∈ ((ofSettings ⟨"swift", [], some ""⟩).run .empty).1.disallowed := by
  decide +kernel

end Profile
end ApiContext
