import ApiContext.Diagnostic

/-! The journal of a run: diagnostics without repetition, and the events in the order in which they
happened. -/
namespace ApiContext

inductive Event where
  | unknownProfile (name : String)
  | compiling (title : String) (counts : List (String × Nat)) (profile : String)
  | resolvingOperation (id : String)
  | resolvingSchema (name : String)
  | unresolved (d : Diagnostic)
deriving DecidableEq

inductive Level where
  | warning | information | trace
deriving DecidableEq

def Level.label : Level → String
  | .warning => "WARN"
  | .information => "INFO"
  | .trace => "DEBUG"

/-- A count of one takes the singular: `1 tag`, but `0 tags` and `2 tags`. -/
def countText (label : String) (n : Nat) : String :=
  toString n ++ " " ++ label ++ if n = 1 then "" else "s"

namespace Event

def level : Event → Level
  | .unknownProfile _ | .unresolved _ => .warning
  | .compiling .. => .information
  | .resolvingOperation _ | .resolvingSchema _ => .trace

def message : Event → String
  | .unknownProfile name => "unrecognized profile " ++ name ++ ", using default"
  | .compiling title counts profile =>
    "compiling spec \"" ++ title ++ "\" - "
      ++ ", ".intercalate (counts.map fun (label, n) => countText label n)
      ++ " (profile: " ++ profile ++ ")"
  | .resolvingOperation id => "resolving operation " ++ id
  | .resolvingSchema name => "resolving schema " ++ name
  | .unresolved d => d.text

end Event

structure Journal where
  diagnostics : List Diagnostic
  events : List Event

namespace Journal

def empty : Journal := ⟨[], []⟩

/-- A diagnostic that is known already is not added again. -/
def report (j : Journal) (d : Diagnostic) : Journal :=
  if d ∈ j.diagnostics then j else { j with diagnostics := j.diagnostics ++ [d] }

def log (j : Journal) (e : Event) : Journal := { j with events := j.events ++ [e] }

theorem mem_report (j : Journal) (d : Diagnostic) : d ∈ (j.report d).diagnostics := by
  unfold report
  split <;> simp_all

theorem report_of_mem {j : Journal} {d : Diagnostic} (h : d ∈ j.diagnostics) : j.report d = j := by
  simp [report, h]

theorem prefix_report (j : Journal) (d : Diagnostic) :
    j.diagnostics <+: (j.report d).diagnostics := by
  unfold report
  split
  · exact List.prefix_refl _
  · exact List.prefix_append _ _

theorem nodup_report {j : Journal} (h : j.diagnostics.Nodup) (d : Diagnostic) :
    (j.report d).diagnostics.Nodup := by
  unfold report
  split
  · exact h
  · next hd =>
    refine List.nodup_append.mpr ⟨h, by simp, fun a ha b hb e => hd ?_⟩
    rw [List.mem_singleton] at hb
    exact hb ▸ e ▸ ha

end Journal
end ApiContext
