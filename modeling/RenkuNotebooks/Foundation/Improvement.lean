import Mathlib.Order.Defs.PartialOrder
import Mathlib.Data.List.Basic

/-!
# Strict improvements

A search that keeps the first acceptable element of a list and replaces it by every later
acceptable one that is below it.
-/

namespace RenkuNotebooks.Improvement

variable {α : Type*} (lt : α → α → Prop) [DecidableRel lt]
variable (accepts : α → Prop) [DecidablePred accepts]

def improve (best : Option α) (a : α) : Option α :=
  if accepts a ∧ ∀ b ∈ best, lt a b then some a else best

def search (as : List α) : Option α := as.foldl (improve lt accepts) none

variable {lt accepts}

theorem improve_of_improves {best : Option α} {a : α} (ha : accepts a)
    (hlt : ∀ b ∈ best, lt a b) : improve lt accepts best a = some a :=
  if_pos ⟨ha, hlt⟩

theorem improve_of_not_accepts {best : Option α} {a : α} (ha : ¬ accepts a) :
    improve lt accepts best a = best :=
  if_neg fun h => ha h.1

theorem improve_of_not_lt {b a : α} (hlt : ¬ lt a b) :
    improve lt accepts (some b) a = some b :=
  if_neg fun h => hlt (h.2 b rfl)

/-- What is found so far was seen and accepted, and nothing that was accepted lies below it. -/
structure Found (lt : α → α → Prop) (accepts : α → Prop) (seen : List α) (best : Option α) :
    Prop where
  mem : ∀ b ∈ best, b ∈ seen ∧ accepts b
  none_iff : best = none ↔ ∀ a ∈ seen, ¬ accepts a
  not_lt : ∀ b ∈ best, ∀ a ∈ seen, accepts a → ¬ lt a b

omit [DecidableRel lt] [DecidablePred accepts] in
theorem Found.nil : Found lt accepts [] none where
  mem := by
    intro b hb
    cases hb
  none_iff := by simp
  not_lt := by
    intro b hb
    cases hb

theorem Found.improve [IsTrans α lt] [Std.Irrefl lt] {seen : List α} {best : Option α}
    (h : Found lt accepts seen best) (a : α) :
    Found lt accepts (seen ++ [a]) (improve lt accepts best a) := by
  by_cases himproves : accepts a ∧ ∀ b ∈ best, lt a b
  · obtain ⟨ha, hlt⟩ := himproves
    rw [improve_of_improves ha hlt]
    refine ⟨?_, ?_, ?_⟩
    · intro b hb
      cases hb
      exact ⟨by simp, ha⟩
    · constructor
      · intro hnone
        cases hnone
      · intro hnone
        exact absurd ha (hnone a (by simp))
    · intro b hb c hc haccepts
      cases hb
      rcases List.mem_append.mp hc with hc | hc
      · intro hca
        cases best with
        | none => exact h.none_iff.mp rfl c hc haccepts
        | some b =>
          -- the last best element would have been above `c` already
          have hcb : lt c b := trans_of lt hca (hlt b rfl)
          exact h.not_lt b rfl c hc haccepts hcb
      · rw [List.mem_singleton] at hc
        subst hc
        exact irrefl_of lt c
  · have hkeeps : Improvement.improve lt accepts best a = best := if_neg himproves
    rw [hkeeps]
    have hnot : ∀ b ∈ best, accepts a → ¬ lt a b := by
      intro b hb ha hlt
      apply himproves
      refine ⟨ha, ?_⟩
      intro b' hb'
      cases Option.mem_unique hb hb'
      exact hlt
    refine ⟨?_, ?_, ?_⟩
    · intro b hb
      obtain ⟨hseen, haccepts⟩ := h.mem b hb
      exact ⟨List.mem_append_left _ hseen, haccepts⟩
    · constructor
      · intro hnone c hc
        rcases List.mem_append.mp hc with hc | hc
        · exact h.none_iff.mp hnone c hc
        · rw [List.mem_singleton] at hc
          subst hc
          intro haccepts
          apply himproves
          refine ⟨haccepts, ?_⟩
          intro b hb
          rw [hnone] at hb
          cases hb
      · intro hnone
        apply h.none_iff.mpr
        intro c hc
        exact hnone c (List.mem_append_left _ hc)
    · intro b hb c hc haccepts
      rcases List.mem_append.mp hc with hc | hc
      · exact h.not_lt b hb c hc haccepts
      · rw [List.mem_singleton] at hc
        subst hc
        exact hnot b hb haccepts

theorem found_foldl [IsTrans α lt] [Std.Irrefl lt] {seen : List α} {best : Option α}
    (h : Found lt accepts seen best) (as : List α) :
    Found lt accepts (seen ++ as) (as.foldl (improve lt accepts) best) := by
  induction as generalizing seen best with
  | nil => simpa using h
  | cons a as ih =>
    have hstep := ih (h.improve a)
    rw [List.append_assoc, List.singleton_append] at hstep
    exact hstep

theorem found_search [IsTrans α lt] [Std.Irrefl lt] (as : List α) :
    Found lt accepts as (search lt accepts as) := by
  have hnil : Found lt accepts [] none := Found.nil
  have hfold := found_foldl hnil as
  rwa [List.nil_append] at hfold

/-- An acceptable first element that nothing improves on is found. -/
theorem search_cons_of_not_lt {a : α} {as : List α} (ha : accepts a)
    (hnot : ∀ b ∈ as, accepts b → ¬ lt b a) : search lt accepts (a :: as) = some a := by
  have hkeeps : ∀ bs : List α, (∀ b ∈ bs, accepts b → ¬ lt b a) →
      bs.foldl (improve lt accepts) (some a) = some a := by
    intro bs hbs
    induction bs with
    | nil => rfl
    | cons b bs ih =>
      have hb : improve lt accepts (some a) b = some a := by
        by_cases haccepts : accepts b
        · exact improve_of_not_lt (hbs b List.mem_cons_self haccepts)
        · exact improve_of_not_accepts haccepts
      rw [List.foldl_cons, hb]
      exact ih fun c hc => hbs c (List.mem_cons_of_mem _ hc)
  have hfirst : improve lt accepts none a = some a := improve_of_improves ha (by simp)
  rw [search, List.foldl_cons, hfirst]
  exact hkeeps as hnot

end RenkuNotebooks.Improvement
