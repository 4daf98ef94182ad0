import ApiContext.Proofs.Grouping
import ApiContext.Proofs.Pruning
import ApiContext.Proofs.Sorting

/-! Entries set one after the other. A key stands where it was set first and holds what was set
last, so nothing else of a history shows in the mapping that it leaves. -/
namespace ApiContext
variable {α : Type}

/-- The value that was set last under a key, in a history of keys and values. -/
def Entries.last? (history : Entries α) (key : String) : Option α := history.reverse.lookup key

namespace OrderedMap

/-! ### One more value -/

theorem ofEntries_concat (history : Entries α) (key : String) (value : α) :
    ofEntries (history ++ [(key, value)]) = (ofEntries history).insert key value :=
  List.foldl_concat ..

theorem last?_concat (history : Entries α) (k key : String) (value : α) :
    Entries.last? (history ++ [(key, value)]) k =
      if k = key then some value else Entries.last? history k := by
  rw [Entries.last?, List.reverse_concat, List.lookup_cons]
  by_cases hk : k = key
  · simp [hk]
  · simp [beq_eq_false_iff_ne.mpr hk, hk, Entries.last?]

/-! ### A whole history -/

/-- Keys come in the order in which they were set first. -/
theorem keys_ofEntries (history : Entries α) :
    (ofEntries history).keys = (Entries.keys history).eraseDups := by
  induction history using List.reverseRecOn with
  | nil => rfl
  | append_singleton history e ih =>
    obtain ⟨key, value⟩ := e
    have hset : (ofEntries (history ++ [(key, value)])).keys =
        if key ∈ (ofEntries history).keys then (ofEntries history).keys
        else (ofEntries history).keys ++ [key] := by
      rw [ofEntries_concat]
      exact Entries.keys_set key value _
    have hkeys : Entries.keys (history ++ [(key, value)]) = Entries.keys history ++ [key] :=
      List.map_append
    rw [hset, ih, hkeys, eraseDups_concat]

/-- A key holds what was set last. -/
theorem lookup_ofEntries (history : Entries α) (k : String) :
    (ofEntries history).entries.lookup k = Entries.last? history k := by
  induction history using List.reverseRecOn with
  | nil => rfl
  | append_singleton history e ih =>
    obtain ⟨key, value⟩ := e
    rw [ofEntries_concat, last?_concat, ← ih]
    exact Entries.lookup_set k key value _

/-- First occurrences and last values decide the map. -/
theorem ofEntries_congr {history history' : Entries α}
    (hfirst : (Entries.keys history).eraseDups = (Entries.keys history').eraseDups)
    (hlast : ∀ key, Entries.last? history key = Entries.last? history' key) :
    ofEntries history = ofEntries history' := by
  refine ext (Entries.eq_of_lookup (ofEntries history).nodup ?_ fun key => ?_)
  · exact (keys_ofEntries history).trans (hfirst.trans (keys_ofEntries history').symm)
  · rw [lookup_ofEntries, lookup_ofEntries, hlast]

end OrderedMap

open Entries OrderedMap

/-- The members of an object are such a history: each key stands once, with its last value. -/
theorem Json.distinct_keeps_last (members : List (String × Json)) : ∃ ms,
    (Json.obj members).distinct = .obj ms ∧ (Entries.keys ms).Nodup ∧
      ∀ key, ms.lookup key = (last? members key).map Json.distinct := by
  refine ⟨(OrderedMap.ofEntries (distinctValues members)).entries, rfl, OrderedMap.nodup _, ?_⟩
  intro key
  rw [lookup_ofEntries, distinctValues_eq, last?, last?, ← List.map_reverse]
  exact Entries.lookup_map_values Json.distinct members.reverse key

/-- A mapping is well formed when it is built from well-formed values by setting keys. -/
theorem Draft.wellFormed_ofEntries {history : Entries Draft} (h : ∀ e ∈ history, e.2.WellFormed) :
    (mapping (OrderedMap.ofEntries history).entries).WellFormed :=
  ⟨(OrderedMap.ofEntries history).nodup,
    wellFormedEntries_iff.mpr fun e he => h e (mem_of_mem_ofEntries he)⟩

/-- Of a history of values set under keys, the pruned mapping shows the keys whose last values are
not absent, each once, in the order in which they were set first, absent or not. Each holds its last
value, pruned. So histories with the same first occurrences and the same last values leave the same
mapping, and the same text. -/
theorem keys_first_values_last (history : Entries Draft) :
    ∃ es, (Draft.mapping (ofEntries history).entries).prune = some (.mapping es) ∧
      (Entries.keys es).Nodup ∧
      Entries.keys es = (Entries.keys history).eraseDups.filter
        (fun key => (last? history key).any (!·.isAbsent)) ∧
      (∀ key, es.lookup key = (last? history key).bind Draft.prune) ∧
      ∀ history' : Entries Draft,
        (Entries.keys history').eraseDups = (Entries.keys history).eraseDups →
        (∀ key, last? history' key = last? history key) →
        (Draft.mapping (ofEntries history').entries).prune = some (.mapping es) ∧
          (Draft.mapping (ofEntries history').entries).prune.map Context.render =
            some (Context.mapping es).render := by
  have hn := (ofEntries history).nodup
  have hkeys : Entries.keys (Draft.pruneEntries (ofEntries history).entries) =
      (Entries.keys history).eraseDups.filter
        (fun key => (last? history key).any (!·.isAbsent)) := by
    rw [Draft.keys_pruneEntries_of_nodup hn, ← OrderedMap.keys, keys_ofEntries]
    simp only [lookup_ofEntries]
  refine ⟨Draft.pruneEntries (ofEntries history).entries, rfl, ?_, hkeys, ?_, ?_⟩
  · exact (Draft.keys_pruneEntries_sublist _).nodup hn
  · intro key
    rw [Draft.lookup_pruneEntries hn, lookup_ofEntries]
  · intro history' hfirst hlast
    rw [ofEntries_congr hfirst hlast]
    exact ⟨rfl, rfl⟩

/-- The host is set again once it is known, and the note is taken back. -/
def revised : Entries Draft :=
  [("host", .absent), ("note", .text "draft"), ("host", .text "zoo.org"), ("note", .absent),
    ("title", .text "Zoo")]

/-- The same in one go. -/
def settled : Entries Draft :=
  [("host", .text "zoo.org"), ("note", .absent), ("title", .text "Zoo")]

theorem keys_first_values_last_revised : ∃ es,
    (Draft.mapping (ofEntries revised).entries).prune = some (.mapping es) ∧
      Entries.keys es = ["host", "title"] ∧ es.lookup "host" = some (.text "zoo.org") ∧
      (Entries.keys settled).eraseDups = (Entries.keys revised).eraseDups ∧
      (∀ key, last? settled key = last? revised key) ∧
      (Draft.mapping (ofEntries settled).entries).prune = some (.mapping es) := by
  obtain ⟨es, hes, _, hkeys, hlookup, hsame⟩ := keys_first_values_last revised
  have hfirst : (Entries.keys settled).eraseDups = (Entries.keys revised).eraseDups := by decide
  have hlast (key : String) : last? settled key = last? revised key := by
    simp only [last?, settled, revised, List.reverse_cons, List.reverse_nil, List.nil_append,
      List.cons_append, List.lookup_cons, List.lookup_nil]
    cases key == "host" <;> cases key == "note" <;> cases key == "title" <;> rfl
  refine ⟨es, hes, hkeys.trans (by decide), (hlookup "host").trans rfl, hfirst, hlast, ?_⟩
  exact (hsame settled hfirst hlast).1

end ApiContext
