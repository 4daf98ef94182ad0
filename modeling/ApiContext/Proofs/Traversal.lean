import Mathlib.Data.List.Forall2

/-! A list gone through by a function that may fail. It succeeds item by item, and it fails with the
first item that does. -/
namespace ApiContext
variable {α β γ ε : Type} {f : α → Except ε β} {l : List α} {bs : List β} {e : ε}

theorem mapM_cons_ok {a : α} {b : β} (h : f a = .ok b) :
    (a :: l).mapM f = (l.mapM f).map (b :: ·) := by
  rw [List.mapM_cons, h]
  cases l.mapM f <;> rfl

theorem mapM_cons_error {a : α} (h : f a = .error e) : (a :: l).mapM f = .error e := by
  rw [List.mapM_cons, h]
  rfl

theorem mapM_eq_ok_iff : l.mapM f = .ok bs ↔ List.Forall₂ (fun a b => f a = .ok b) l bs := by
  induction l generalizing bs with
  | nil =>
    constructor
    · intro h
      obtain rfl := Except.ok.inj h
      exact .nil
    · intro h
      cases h
      rfl
  | cons a rest ih =>
    constructor
    · intro h
      cases ha : f a with
      | error e => simp [mapM_cons_error ha] at h
      | ok b =>
        cases hr : rest.mapM f with
        | error e => simp [mapM_cons_ok ha, hr, Except.map] at h
        | ok cs =>
          rw [mapM_cons_ok ha, hr] at h
          obtain rfl := Except.ok.inj h
          exact .cons ha (ih.mp hr)
    · intro h
      cases h with
      | cons ha hrest =>
        rw [mapM_cons_ok ha, ih.mpr hrest]
        rfl

theorem exists_mapM_eq_ok_iff : (∃ bs, l.mapM f = .ok bs) ↔ ∀ a ∈ l, ∃ b, f a = .ok b := by
  induction l with
  | nil =>
    constructor
    · intro _ a ha
      cases ha
    · intro _
      exact ⟨[], rfl⟩
  | cons a rest ih =>
    rw [List.forall_mem_cons, ← ih]
    constructor
    · intro h
      obtain ⟨bs, h⟩ := h
      cases mapM_eq_ok_iff.mp h with
      | cons ha hrest => exact ⟨⟨_, ha⟩, _, mapM_eq_ok_iff.mpr hrest⟩
    · intro h
      obtain ⟨⟨b, ha⟩, bs, hrest⟩ := h
      exact ⟨b :: bs, by rw [mapM_cons_ok ha, hrest]; rfl⟩

theorem mapM_eq_error_iff : l.mapM f = .error e ↔ ∃ before a after, l = before ++ a :: after ∧
    (∀ b ∈ before, ∃ x, f b = .ok x) ∧ f a = .error e := by
  induction l with
  | nil =>
    constructor
    · intro h
      cases h
    · intro h
      obtain ⟨before, a, after, h, _⟩ := h
      simp at h
  | cons a rest ih =>
    constructor
    · intro h
      cases ha : f a with
      | error e' =>
        rw [mapM_cons_error ha] at h
        obtain rfl := Except.error.inj h
        exact ⟨[], a, rest, rfl, by simp, ha⟩
      | ok b =>
        cases hr : rest.mapM f with
        | ok bs => simp [mapM_cons_ok ha, hr, Except.map] at h
        | error e' =>
          rw [mapM_cons_ok ha, hr] at h
          obtain rfl := Except.error.inj h
          obtain ⟨before, c, after, rfl, hbefore, hc⟩ := ih.mp hr
          exact ⟨a :: before, c, after, rfl, List.forall_mem_cons.mpr ⟨⟨b, ha⟩, hbefore⟩, hc⟩
    · intro h
      obtain ⟨before, c, after, hsplit, hbefore, hc⟩ := h
      cases before with
      | nil =>
        obtain ⟨rfl, rfl⟩ := List.cons.inj hsplit
        exact mapM_cons_error hc
      | cons b before =>
        obtain ⟨rfl, rfl⟩ := List.cons.inj hsplit
        obtain ⟨⟨x, ha⟩, hbefore⟩ := List.forall_mem_cons.mp hbefore
        rw [mapM_cons_ok ha, ih.mpr ⟨before, c, after, rfl, hbefore, hc⟩]
        rfl

theorem mapM_map (f : α → Except ε β) (h : β → γ) (l : List α) :
    (l.mapM fun a => (f a).map h) = (l.mapM f).map (List.map h) := by
  induction l with
  | nil => rfl
  | cons a rest ih =>
    rw [List.mapM_cons, List.mapM_cons, ih]
    cases f a with
    | error e => rfl
    | ok b => cases rest.mapM f <;> rfl

theorem mapM_eq_some_iff {f : α → Option β} {l : List α} {bs : List β} :
    l.mapM f = some bs ↔ List.Forall₂ (fun a b => f a = some b) l bs := by
  induction l generalizing bs with
  | nil =>
    constructor
    · intro h
      obtain rfl := Option.some.inj h
      exact .nil
    · intro h
      cases h
      rfl
  | cons a rest ih =>
    rw [List.mapM_cons]
    constructor
    · intro h
      obtain ⟨b, hb, h⟩ := Option.bind_eq_some_iff.mp h
      obtain ⟨cs, hcs, h⟩ := Option.bind_eq_some_iff.mp h
      obtain rfl := Option.some.inj h
      exact .cons hb (ih.mp hcs)
    · intro h
      cases h with
      | cons hb hrest =>
        rw [hb, ih.mpr hrest]
        rfl

/-! ### Lists related item by item -/

section related
variable {R : α → β → Prop} {m : List β} {a : α} {b : β}

theorem exists_of_mem_left (h : List.Forall₂ R l m) (ha : a ∈ l) : ∃ b ∈ m, R a b := by
  induction h with
  | nil => cases ha
  | cons hr _ ih =>
    obtain rfl | ha := List.mem_cons.mp ha
    · exact ⟨_, by simp, hr⟩
    · obtain ⟨b, hb, hab⟩ := ih ha
      exact ⟨b, List.mem_cons_of_mem _ hb, hab⟩

theorem exists_of_mem_right (h : List.Forall₂ R l m) (hb : b ∈ m) : ∃ a ∈ l, R a b :=
  exists_of_mem_left h.flip hb

end related
end ApiContext
