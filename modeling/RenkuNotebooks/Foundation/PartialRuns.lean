/-!
# Runs of actions that are not always enabled

A state takes an action where it is enabled; a run takes a list of them, one after the other.
-/

namespace RenkuNotebooks.PartialRuns

variable {α σ : Type} (step : α → σ → Option σ)

def run : List α → σ → Option σ
  | [], s => some s
  | a :: as, s => (step a s).bind (run as)

/-- No action is enabled. -/
def Stuck (s : σ) : Prop := ∀ a, step a s = none

variable {step}

theorem run_cons_eq_some {a : α} {as : List α} {s s' : σ} :
    run step (a :: as) s = some s' ↔ ∃ mid, step a s = some mid ∧ run step as mid = some s' :=
  Option.bind_eq_some_iff

/-- An invariant of the steps holds at the end of a run. -/
theorem run_invariant {I : σ → Prop} (hstep : ∀ a s s', I s → step a s = some s' → I s')
    {as : List α} {s s' : σ} (hs : I s) (h : run step as s = some s') : I s' := by
  induction as generalizing s with
  | nil =>
    cases h
    exact hs
  | cons a as ih =>
    obtain ⟨mid, hmid, hrest⟩ := run_cons_eq_some.mp h
    exact ih (hstep a s mid hs hmid) hrest

/-- What one action brings about and all of them keep holds after a run with the action. -/
theorem run_of_mem {I J : σ → Prop} {a : α} {as : List α} {s s' : σ}
    (h : run step as s = some s') (hmem : a ∈ as) (hs : I s)
    (hI : ∀ a s s', I s → step a s = some s' → I s')
    (hJ : ∀ a s s', J s → step a s = some s' → J s')
    (ha : ∀ s s', I s → step a s = some s' → J s') : J s' := by
  induction as generalizing s with
  | nil => cases hmem
  | cons b as ih =>
    obtain ⟨mid, hmid, hrest⟩ := run_cons_eq_some.mp h
    rcases List.mem_cons.mp hmem with rfl | hmem
    · exact run_invariant hJ (ha s mid hs hmid) hrest
    · exact ih hrest hmem (hI b s mid hs hmid)

/-- Where every step uses up some of a measure, runs are no longer than it. -/
theorem run_length_le (I : σ → Prop) (measure : σ → Nat)
    (hI : ∀ a s s', I s → step a s = some s' → I s')
    (hstep : ∀ a s s', I s → step a s = some s' → measure s' < measure s) {as : List α} {s s' : σ}
    (hs : I s) (h : run step as s = some s') : as.length + measure s' ≤ measure s := by
  induction as generalizing s with
  | nil =>
    cases h
    exact Nat.le_of_eq (Nat.zero_add _)
  | cons a as ih =>
    obtain ⟨mid, hmid, hrest⟩ := run_cons_eq_some.mp h
    have hlater := ih (hI a s mid hs hmid) hrest
    have hless := hstep a s mid hs hmid
    rw [List.length_cons]
    omega

end RenkuNotebooks.PartialRuns
