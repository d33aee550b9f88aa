import Mathlib.Data.List.Sort

/-!
# Sorting in descending order

A stable sort in descending order starts with the first of the elements with the largest key.
-/

namespace RenkuNotebooks.Sorting

variable {α β : Type} [LinearOrder β] (key : α → β)

/-- `sorted(xs, key=key, reverse=True)`: elements with one key keep their order. -/
def sortedReverse (xs : List α) : List α := xs.insertionSort fun a b => key b ≤ key a

/-- No element before `a` has a key as large, and no element after it a larger one. -/
def FirstLargest (xs : List α) (a : α) : Prop :=
  ∃ before after, xs = before ++ a :: after ∧ (∀ b ∈ before, key b < key a) ∧
    ∀ b ∈ after, key b ≤ key a

variable {key}

theorem FirstLargest.mem {xs : List α} {a : α} (h : FirstLargest key xs a) : a ∈ xs := by
  obtain ⟨before, after, rfl, -, -⟩ := h
  exact List.mem_append_right _ List.mem_cons_self

theorem FirstLargest.le {xs : List α} {a b : α} (h : FirstLargest key xs a) (hb : b ∈ xs) :
    key b ≤ key a := by
  obtain ⟨before, after, rfl, hbefore, hafter⟩ := h
  rcases List.mem_append.mp hb with hmem | hmem
  · exact le_of_lt (hbefore b hmem)
  rcases List.mem_cons.mp hmem with rfl | hmem
  · exact le_rfl
  · exact hafter b hmem

/-- A map that keeps the order of the keys keeps the first of the largest. -/
theorem FirstLargest.map {γ δ : Type} [LinearOrder δ] {key' : γ → δ} {f : α → γ} {xs : List α}
    {a : α} (h : FirstLargest key xs a)
    (hmono : ∀ b c, key b < key c ↔ key' (f b) < key' (f c)) :
    FirstLargest key' (xs.map f) (f a) := by
  obtain ⟨before, after, rfl, hbefore, hafter⟩ := h
  refine ⟨before.map f, after.map f, by rw [List.map_append, List.map_cons], ?_, ?_⟩
  · intro c hc
    obtain ⟨b, hb, rfl⟩ := List.mem_map.mp hc
    exact (hmono b a).mp (hbefore b hb)
  · intro c hc
    obtain ⟨b, hb, rfl⟩ := List.mem_map.mp hc
    exact not_lt.mp fun hlt => not_lt.mpr (hafter b hb) ((hmono a b).mpr hlt)

theorem head?_orderedInsert (a : α) (xs : List α) :
    (xs.orderedInsert (fun a b => key b ≤ key a) a).head? =
      some (xs.head?.elim a fun b => if key b ≤ key a then a else b) := by
  cases xs with
  | nil => rfl
  | cons b xs =>
    rw [List.orderedInsert_cons, List.head?_cons, Option.elim_some]
    split <;> rfl

/-- The sort finds the first of the largest, whatever follows it. -/
theorem head?_sortedReverse {xs : List α} {a : α} (h : FirstLargest key xs a) :
    (sortedReverse key xs).head? = some a := by
  obtain ⟨before, after, rfl, hbefore, hafter⟩ := h
  induction before with
  | nil =>
    rw [List.nil_append, sortedReverse, List.insertionSort_cons, head?_orderedInsert]
    cases hhead : (after.insertionSort fun a b => key b ≤ key a).head? with
    | none => rfl
    | some b =>
      have hmem : b ∈ after := (List.mem_insertionSort _).mp (List.mem_of_head? hhead)
      rw [Option.elim_some, if_pos (hafter b hmem)]
  | cons b before ih =>
    have hrest := ih fun c hc => hbefore c (List.mem_cons_of_mem _ hc)
    rw [List.cons_append, sortedReverse, List.insertionSort_cons, head?_orderedInsert,
      ← sortedReverse, hrest, Option.elim_some, if_neg (not_le.mpr (hbefore b List.mem_cons_self))]

variable (key)

theorem exists_firstLargest {xs : List α} (h : xs ≠ []) : ∃ a, FirstLargest key xs a := by
  induction xs with
  | nil => exact absurd rfl h
  | cons a xs ih =>
    by_cases hxs : xs = []
    · exact ⟨a, [], [], by rw [hxs, List.nil_append], List.forall_mem_nil _, List.forall_mem_nil _⟩
    obtain ⟨c, hc⟩ := ih hxs
    by_cases hle : key c ≤ key a
    · exact ⟨a, [], xs, rfl, List.forall_mem_nil _, fun d hd => le_trans (hc.le hd) hle⟩
    · obtain ⟨before, after, rfl, hbefore, hafter⟩ := hc
      refine ⟨c, a :: before, after, rfl, fun d hd => ?_, hafter⟩
      rcases List.mem_cons.mp hd with rfl | hd
      · exact not_le.mp hle
      · exact hbefore d hd

end RenkuNotebooks.Sorting
