import Mathlib.Data.List.Forall2
import Mathlib.Tactic.Common

/-!
# Computations that may raise

Taking apart successful `Except` computations.
-/

namespace RenkuNotebooks.Results

variable {ε α β : Type}

theorem bind_eq_ok_iff {x : Except ε α} {f : α → Except ε β} {b : β} :
    (x >>= f) = .ok b ↔ ∃ a, x = .ok a ∧ f a = .ok b := by
  cases x with
  | error e => simp [bind, Except.bind]
  | ok a => simp [bind, Except.bind]

theorem bind_eq_error_iff {x : Except ε α} {f : α → Except ε β} {e : ε} :
    (x >>= f) = .error e ↔ x = .error e ∨ ∃ a, x = .ok a ∧ f a = .error e := by
  cases x with
  | error e => simp [bind, Except.bind]
  | ok a => simp [bind, Except.bind]

theorem map_eq_ok_iff {x : Except ε α} {f : α → β} {b : β} :
    (f <$> x) = .ok b ↔ ∃ a, x = .ok a ∧ f a = b := by
  cases x with
  | error e => simp [Functor.map, Except.map]
  | ok a => simp [Functor.map, Except.map]

/-- A successful `mapM` gives one result for each element, in order. -/
theorem forall2_of_mapM_eq_ok {f : α → Except ε β} {as : List α} {bs : List β}
    (h : as.mapM f = .ok bs) : List.Forall₂ (fun a b => f a = .ok b) as bs := by
  induction as generalizing bs with
  | nil =>
    rw [List.mapM_nil] at h
    cases h
    exact List.Forall₂.nil
  | cons a as ih =>
    rw [List.mapM_cons] at h
    obtain ⟨b, hb, h⟩ := bind_eq_ok_iff.mp h
    obtain ⟨bs', hbs, h⟩ := bind_eq_ok_iff.mp h
    cases h
    exact List.Forall₂.cons hb (ih hbs)

theorem mapM_eq_ok_map {f : α → Except ε β} {g : α → β} {as : List α}
    (h : ∀ a ∈ as, f a = .ok (g a)) : as.mapM f = .ok (as.map g) := by
  induction as with
  | nil => rfl
  | cons a as ih =>
    rw [List.mapM_cons, h a List.mem_cons_self, ih fun a' ha' => h a' (List.mem_cons_of_mem _ ha')]
    rfl

@[simp] theorem ok_bind {a : α} {f : α → Except ε β} : ((.ok a : Except ε α) >>= f) = f a := rfl

/-- The result of a step is among the results. -/
theorem mem_of_mapM {f : α → Except ε β} {as : List α} {bs : List β}
    (h : as.mapM f = .ok bs) {a : α} (ha : a ∈ as) : ∃ b, f a = .ok b ∧ b ∈ bs := by
  have hforall := forall2_of_mapM_eq_ok h
  clear h
  induction hforall with
  | nil => cases ha
  | @cons a' b' as bs hab _ ih =>
    rcases List.mem_cons.mp ha with rfl | ha
    · exact ⟨b', hab, List.mem_cons_self⟩
    · obtain ⟨b, hb, hmem⟩ := ih ha
      exact ⟨b, hb, List.mem_cons_of_mem _ hmem⟩

theorem exists_ok_of_mapM {f : α → Except ε β} {as : List α} {bs : List β}
    (h : as.mapM f = .ok bs) {a : α} (ha : a ∈ as) : ∃ b, f a = .ok b := by
  obtain ⟨b, hb, -⟩ := mem_of_mapM h ha
  exact ⟨b, hb⟩

/-- A `mapM` raises what one of its steps raises, or all steps succeed. -/
theorem mapM_cases (f : α → Except ε β) (as : List α) :
    (∃ bs, as.mapM f = .ok bs) ∨ ∃ a ∈ as, ∃ e, f a = .error e ∧ as.mapM f = .error e := by
  induction as with
  | nil => exact Or.inl ⟨[], rfl⟩
  | cons a as ih =>
    rw [List.mapM_cons]
    cases ha : f a with
    | error e => exact Or.inr ⟨a, List.mem_cons_self, e, ha, rfl⟩
    | ok b =>
      rcases ih with ⟨bs, hrun⟩ | ⟨a', ha', e, he, hrun⟩
      · exact Or.inl ⟨b :: bs, by rw [hrun]; rfl⟩
      · exact Or.inr ⟨a', List.mem_cons_of_mem _ ha', e, he, by rw [hrun]; rfl⟩

/-- A `mapM` raises what its first step that fails raises. -/
theorem mapM_eq_error_iff {f : α → Except ε β} {as : List α} {e : ε} :
    as.mapM f = .error e ↔ ∃ before a after, as = before ++ a :: after ∧
      (∀ a' ∈ before, ∃ b, f a' = .ok b) ∧ f a = .error e := by
  induction as with
  | nil =>
    refine iff_of_false (fun h => nomatch h) ?_
    rintro ⟨before, a, after, h, -⟩
    simp at h
  | cons a as ih =>
    rw [List.mapM_cons]
    constructor
    · intro h
      rcases bind_eq_error_iff.mp h with ha | ⟨b, hb, h⟩
      · exact ⟨[], a, as, rfl, by simp, ha⟩
      · rcases bind_eq_error_iff.mp h with has | ⟨bs, -, h⟩
        · obtain ⟨before, a', after, rfl, hbefore, ha'⟩ := ih.mp has
          refine ⟨a :: before, a', after, rfl, ?_, ha'⟩
          exact List.forall_mem_cons.mpr ⟨⟨b, hb⟩, hbefore⟩
        · cases h
    · rintro ⟨before, a', after, heq, hbefore, ha'⟩
      cases before with
      | nil =>
        obtain ⟨rfl, rfl⟩ := List.cons.inj heq
        exact bind_eq_error_iff.mpr (.inl ha')
      | cons first before =>
        obtain ⟨rfl, rfl⟩ := List.cons.inj heq
        obtain ⟨b, hb⟩ := hbefore a List.mem_cons_self
        refine bind_eq_error_iff.mpr (.inr ⟨b, hb, bind_eq_error_iff.mpr (.inl (ih.mpr ?_))⟩)
        exact ⟨before, a', after, rfl, fun d hd => hbefore d (List.mem_cons_of_mem _ hd), ha'⟩

theorem mapM_eq_ok_of_forall2 {f : α → Except ε β} {as : List α} {bs : List β}
    (h : List.Forall₂ (fun a b => f a = .ok b) as bs) : as.mapM f = .ok bs := by
  induction h with
  | nil => rfl
  | cons hab _ ih =>
    rw [List.mapM_cons, hab, ok_bind, ih]
    rfl

/-- Related elements are replaced by others with the same image. -/
theorem exists_forall2_of_forall2 {γ δ : Type*} {R : α → β → Prop} {S : α → γ → Prop} {g : β → δ}
    {k : γ → δ} (himp : ∀ a b, R a b → ∃ c, S a c ∧ k c = g b) {as : List α} {bs : List β}
    (h : List.Forall₂ R as bs) : ∃ cs, List.Forall₂ S as cs ∧ cs.map k = bs.map g := by
  induction h with
  | nil => exact ⟨[], .nil, rfl⟩
  | cons hab _ ih =>
    obtain ⟨cs, hcs, hmap⟩ := ih
    obtain ⟨c, hc, hk⟩ := himp _ _ hab
    exact ⟨c :: cs, .cons hc hcs, by rw [List.map_cons, List.map_cons, hmap, hk]⟩

theorem exists_of_mem_forall2 {R : α → β → Prop} {as : List α} {bs : List β}
    (h : List.Forall₂ R as bs) {b : β} (hb : b ∈ bs) : ∃ a ∈ as, R a b := by
  induction h with
  | nil => cases hb
  | @cons a b' as bs hab _ ih =>
    rcases List.mem_cons.mp hb with rfl | hb
    · exact ⟨a, by simp, hab⟩
    · obtain ⟨a', ha', hR⟩ := ih hb
      exact ⟨a', by simp [ha'], hR⟩

end RenkuNotebooks.Results
