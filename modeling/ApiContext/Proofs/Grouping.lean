import Mathlib.Data.List.Induction
import Mathlib.Data.List.Perm.Basic
import ApiContext.Proofs.Notes

/-! Items pushed one after the other into groups of the same tag. They form a partition of those
that have a tag: the groups come in order of first occurrence, and each keeps the order of its
items. -/
namespace ApiContext
variable {α β : Type}

/-- A condition that does not notice what items become picks the same ones. -/
theorem filter_map_of_eq {f : α → β} {c : β → Bool} {c' : α → Bool}
    (h : ∀ a, c (f a) = c' a) (l : List α) : (l.map f).filter c = (l.filter c').map f := by
  have hc : c ∘ f = c' := funext h
  rw [List.filter_map, hc]

/-! ### First occurrences -/

section occurrences
variable [DecidableEq α] [DecidableEq β] {f : α → β}

/-- What is renamed without confusion is collected as before. -/
theorem collect_map (hf : Function.Injective f) (known l : List α) :
    collect (known.map f) (l.map f) = (collect known l).map f := by
  induction l generalizing known with
  | nil => rfl
  | cons a rest ih =>
    have hmem : f a ∈ known.map f ↔ a ∈ known := List.mem_map_of_injective hf
    rw [List.map_cons, collect, collect, ← ih]
    by_cases ha : a ∈ known
    · rw [if_pos ha, if_pos (hmem.mpr ha)]
    · rw [if_neg ha, if_neg (mt hmem.mp ha), List.map_append, List.map_singleton]

theorem eraseDups_map (hf : Function.Injective f) (l : List α) :
    (l.map f).eraseDups = l.eraseDups.map f := by
  rw [← collect_nil, ← collect_nil]
  exact collect_map hf [] l

theorem eraseDups_concat (l : List α) (a : α) :
    (l ++ [a]).eraseDups = if a ∈ l.eraseDups then l.eraseDups else l.eraseDups ++ [a] := by
  rw [← collect_nil, ← collect_nil, collect_append]
  rfl

end occurrences

namespace Entries
variable {tag? : α → Option String} {l : List α} {a : α} {key : String}

/-! ### One item -/

/-- An item that is pushed is one more item of the groups, and nothing else changes. -/
theorem push_perm (key : String) (a : α) (m : Entries (List α)) :
    ((push key a m).flatMap (·.2)).Perm (m.flatMap (·.2) ++ [a]) := by
  induction m with
  | nil => simp [push]
  | cons g rest ih =>
    obtain ⟨k, items⟩ := g
    rw [push]
    by_cases hk : k = key
    · simp only [if_pos hk, List.flatMap_cons, List.append_assoc]
      exact List.perm_append_comm.append_left items
    · simp only [if_neg hk, List.flatMap_cons, List.append_assoc]
      exact ih.append_left items

/-- The group of the key is extended, or opened at the end. -/
theorem push_map {names : List String} (hn : names.Nodup) {f : String → List α}
    (hnew : key ∉ names → f key = []) : push key a (names.map fun n => (n, f n)) =
      (if key ∈ names then names else names ++ [key]).map fun n =>
        (n, if n = key then f n ++ [a] else f n) := by
  induction names with
  | nil => simp [push, hnew]
  | cons n rest ih =>
    obtain ⟨hmem, hrest⟩ := List.nodup_cons.mp hn
    rw [List.map_cons, push]
    by_cases hk : n = key
    · -- No name behind it is the same, so the groups there keep their items.
      subst hk
      have hsame : ∀ m ∈ rest, m ≠ n := fun m hm h => hmem (h ▸ hm)
      simpa using fun m hm h => absurd h (hsame m hm)
    · have hcons : key ∈ n :: rest ↔ key ∈ rest := by simp [Ne.symm hk]
      rw [if_neg hk, ih hrest fun h => hnew (mt hcons.mp h)]
      by_cases hkey : key ∈ rest <;> simp [hkey, hk, Ne.symm hk]

/-! ### All items -/

/-- One group for each tag that occurs, with the items of that tag. -/
def groups (tag? : α → Option String) (l : List α) : Entries (List α) :=
  (l.filterMap tag?).eraseDups.map fun n => (n, l.filter (tag? · = some n))

theorem push_groups (ha : tag? a = some key) :
    push key a (groups tag? l) = groups tag? (l ++ [a]) := by
  have hnew : key ∉ (l.filterMap tag?).eraseDups → l.filter (tag? · = some key) = [] := by
    intro h
    rw [List.mem_eraseDups, List.mem_filterMap] at h
    exact List.filter_eq_nil_iff.mpr fun b hb hkey => h ⟨b, hb, of_decide_eq_true hkey⟩
  have hfilter (n : String) : (l ++ [a]).filter (tag? · = some n) =
      if n = key then l.filter (tag? · = some n) ++ [a] else l.filter (tag? · = some n) := by
    by_cases hn : n = key
    · simp [hn, ha]
    · simp [hn, ha, Ne.symm hn]
  rw [groups, push_map (nodup_eraseDups _) hnew, groups, List.filterMap_append, ← eraseDups_concat]
  simp [ha, hfilter]

theorem groups_append_untagged (ha : tag? a = none) : groups tag? (l ++ [a]) = groups tag? l := by
  simp [groups, ha]

/-- The groups that items are pushed into one after the other. -/
theorem foldl_push_eq_groups (tag? : α → Option String) (l : List α) :
    l.foldl (fun m a =>
      match tag? a with
      | some tag => push tag a m
      | none => m) [] = groups tag? l := by
  induction l using List.reverseRecOn with
  | nil => rfl
  | append_singleton l a ih =>
    rw [List.foldl_append, ih, List.foldl_cons, List.foldl_nil]
    cases ha : tag? a with
    | none => exact (groups_append_untagged ha).symm
    | some tag => exact push_groups ha

/-- No item with a tag is lost or stands twice, and no other item is in a group. -/
theorem groups_perm (tag? : α → Option String) (l : List α) :
    ((groups tag? l).flatMap (·.2)).Perm (l.filter fun a => (tag? a).isSome) := by
  induction l using List.reverseRecOn with
  | nil => rfl
  | append_singleton l a ih =>
    cases ha : tag? a with
    | none => simpa [groups_append_untagged ha, ha] using ih
    | some tag =>
      rw [← push_groups ha, List.filter_append, List.filter_cons_of_pos (by simp [ha])]
      exact (push_perm tag a _).trans (ih.append_right [a])

end Entries
end ApiContext
