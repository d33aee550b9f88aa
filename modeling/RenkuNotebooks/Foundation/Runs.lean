/-!
# Runs

A run takes one step for each element of a list. A property of steps holds along the run if it
holds of each step in the state that the steps before it lead to.
-/

namespace RenkuNotebooks.Runs

variable {ρ σ : Type} (next : ρ → σ → σ)

def Along (P : ρ → σ → Prop) : List ρ → σ → Prop
  | [], _ => True
  | r :: rs, s => P r s ∧ Along P rs (next r s)

instance instDecidableAlong {P : ρ → σ → Prop} [∀ r s, Decidable (P r s)] :
    ∀ (rs : List ρ) (s : σ), Decidable (Along next P rs s)
  | [], _ => isTrue trivial
  | r :: rs, s =>
    have : Decidable (Along next P rs (next r s)) := instDecidableAlong rs (next r s)
    inferInstanceAs (Decidable (P r s ∧ Along next P rs (next r s)))

/-- The state after all steps. -/
def final : List ρ → σ → σ
  | [], s => s
  | r :: rs, s => final rs (next r s)

variable {next}

theorem along_append {P : ρ → σ → Prop} {rs rs' : List ρ} {s : σ} :
    Along next P (rs ++ rs') s ↔ Along next P rs s ∧ Along next P rs' (final next rs s) := by
  induction rs generalizing s with
  | nil => exact ⟨fun h => ⟨trivial, h⟩, fun h => h.2⟩
  | cons r rs ih =>
    rw [List.cons_append, Along, ih]
    exact ⟨fun ⟨h, h', h''⟩ => ⟨⟨h, h'⟩, h''⟩, fun ⟨⟨h, h'⟩, h''⟩ => ⟨h, h', h''⟩⟩

theorem along_of_forall {P : ρ → σ → Prop} {rs : List ρ} (h : ∀ r ∈ rs, ∀ s, P r s) (s : σ) :
    Along next P rs s := by
  induction rs generalizing s with
  | nil => trivial
  | cons r rs ih =>
    exact ⟨h r List.mem_cons_self s, ih (fun r' hr' => h r' (List.mem_cons_of_mem r hr')) (next r s)⟩

/-- An invariant that the allowed steps keep holds at the end of the run. -/
theorem Along.invariant {I : σ → Prop} {allowed : ρ → σ → Prop}
    (hstep : ∀ r s, I s → allowed r s → I (next r s)) {rs : List ρ} {s : σ} (hs : I s)
    (h : Along next allowed rs s) : I (final next rs s) := by
  induction rs generalizing s with
  | nil => exact hs
  | cons r rs ih => exact ih (hstep r s hs h.1) h.2

/-- What each allowed step does in the states with an invariant, which it keeps, is done by all
steps of a run whose steps are allowed. -/
theorem Along.of_step {I : σ → Prop} {allowed good : ρ → σ → Prop}
    (hstep : ∀ r s, I s → allowed r s → good r s ∧ I (next r s)) {rs : List ρ} {s : σ} (hs : I s)
    (h : Along next allowed rs s) : Along next good rs s := by
  induction rs generalizing s with
  | nil => trivial
  | cons r rs ih =>
    obtain ⟨hgood, hnext⟩ := hstep r s hs h.1
    exact ⟨hgood, ih hnext h.2⟩

theorem Along.mono {allowed good : ρ → σ → Prop} (hgood : ∀ r s, allowed r s → good r s)
    {rs : List ρ} {s : σ} (h : Along next allowed rs s) : Along next good rs s :=
  Along.of_step (I := fun _ => True) (fun r s _ hr => ⟨hgood r s hr, trivial⟩) trivial h

/-- Where a step is good exactly if it is allowed, and allowed steps keep this so, a whole run is
good exactly if it is allowed. -/
theorem along_iff {I : σ → Prop} {allowed good : ρ → σ → Prop}
    (hgood : ∀ r s, I s → (good r s ↔ allowed r s))
    (hstep : ∀ r s, I s → allowed r s → I (next r s)) {rs : List ρ} {s : σ} (hs : I s) :
    Along next good rs s ↔ Along next allowed rs s := by
  induction rs generalizing s with
  | nil => exact Iff.rfl
  | cons r rs ih =>
    rw [Along, Along, hgood r s hs]
    constructor
    · intro ⟨hr, hrs⟩
      exact ⟨hr, (ih (hstep r s hs hr)).mp hrs⟩
    · intro ⟨hr, hrs⟩
      exact ⟨hr, (ih (hstep r s hs hr)).mpr hrs⟩

/-- A property of a part of the state that takes its own steps. -/
theorem along_part {τ : Type} {next' : ρ → τ → τ} {part : σ → τ}
    (hpart : ∀ r s, part (next r s) = next' r (part s)) {P : ρ → τ → Prop} {rs : List ρ} {s : σ} :
    Along next (fun r s => P r (part s)) rs s ↔ Along next' P rs (part s) := by
  induction rs generalizing s with
  | nil => exact Iff.rfl
  | cons r rs ih => rw [Along, Along, ih, hpart]

end RenkuNotebooks.Runs
