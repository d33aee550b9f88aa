import Mathlib.Data.List.Nodup
import Mathlib.Tactic.Common

/-!
# Keys with a single value

A list of keys and values is checked with a dictionary of what was seen: a key that comes again must
come with the same value.
-/

namespace RenkuNotebooks.SingleValues

variable {κ β ε : Type} [BEq κ] [LawfulBEq κ] [DecidableEq β]

def SingleValued (entries : List (κ × β)) : Prop :=
  ∀ a ∈ entries, ∀ b ∈ entries, a.1 = b.1 → a.2 = b.2

/-- Some key has two values. -/
def Conflict (entries : List (κ × β)) : Prop :=
  ∃ a ∈ entries, ∃ b ∈ entries, a.1 = b.1 ∧ a.2 ≠ b.2

omit [BEq κ] [LawfulBEq κ] [DecidableEq β] in
theorem not_conflict_iff {entries : List (κ × β)} : ¬ Conflict entries ↔ SingleValued entries := by
  constructor
  · intro h a ha b hb hkey
    by_contra hvalue
    exact h ⟨a, ha, b, hb, hkey, hvalue⟩
  · rintro h ⟨a, ha, b, hb, hkey, hvalue⟩
    exact hvalue (h a ha b hb hkey)

omit [BEq κ] [LawfulBEq κ] [DecidableEq β] in
theorem singleValued_of_nodup {entries : List (κ × β)} (h : (entries.map Prod.fst).Nodup) :
    SingleValued entries := by
  intro a ha b hb hkey
  exact congrArg Prod.snd (List.inj_on_of_nodup_map h ha hb hkey)

omit [BEq κ] [LawfulBEq κ] [DecidableEq β] in
theorem SingleValued.append {entries entries' : List (κ × β)} (h : SingleValued entries)
    (h' : SingleValued entries')
    (hboth : ∀ a ∈ entries, ∀ b ∈ entries', a.1 = b.1 → a.2 = b.2) :
    SingleValued (entries ++ entries') := by
  intro a ha b hb hkey
  rcases List.mem_append.mp ha with ha | ha
  · rcases List.mem_append.mp hb with hb | hb
    · exact h a ha b hb hkey
    · exact hboth a ha b hb hkey
  · rcases List.mem_append.mp hb with hb | hb
    · exact (hboth b hb a ha hkey.symm).symm
    · exact h' a ha b hb hkey

def record (error : κ → ε) (seen : List (κ × β)) (entry : κ × β) : Except ε (List (κ × β)) :=
  match seen.lookup entry.1 with
  | some value => if value ≠ entry.2 then .error (error entry.1) else .ok seen
  | none => .ok (entry :: seen)

/-- The dictionary holds the entries that were recorded, and nothing else. -/
structure Records (seen entries : List (κ × β)) : Prop where
  found : ∀ entry ∈ entries, seen.lookup entry.1 = some entry.2
  given : ∀ key value, seen.lookup key = some value → (key, value) ∈ entries

omit [LawfulBEq κ] [DecidableEq β] in
theorem Records.singleValued {seen entries : List (κ × β)} (h : Records seen entries) :
    SingleValued entries := by
  intro a ha b hb hkey
  have hb' := h.found b hb
  rw [← hkey, h.found a ha] at hb'
  exact Option.some.inj hb'

omit [LawfulBEq κ] [DecidableEq β] in
theorem records_nil : Records ([] : List (κ × β)) [] where
  found := List.forall_mem_nil _
  given := by
    intro key value h
    cases h

theorem record_ok {error : κ → ε} {seen seen' entries : List (κ × β)} {entry : κ × β}
    (h : Records seen entries) (hstep : record error seen entry = .ok seen') :
    Records seen' (entries ++ [entry]) := by
  unfold record at hstep
  split at hstep
  · rename_i value hlookup
    split at hstep
    · cases hstep
    · rename_i hvalue
      rw [not_not] at hvalue
      cases hstep
      refine ⟨List.forall_mem_append.mpr ⟨h.found, ?_⟩, fun key set hset => ?_⟩
      · intro other hother
        rw [List.mem_singleton.mp hother, hlookup, hvalue]
      · exact List.mem_append_left _ (h.given key set hset)
  · rename_i hlookup
    cases hstep
    have hself : (entry :: seen).lookup entry.1 = some entry.2 := List.lookup_cons_self
    have hother : ∀ key, key ≠ entry.1 → (entry :: seen).lookup key = seen.lookup key := by
      intro key hkey
      rw [List.lookup_cons, beq_eq_false_iff_ne.mpr hkey]
    constructor
    · refine List.forall_mem_append.mpr ⟨fun old hold => ?_, fun new hnew => ?_⟩
      · by_cases hkey : old.1 = entry.1
        · have hfound := h.found old hold
          rw [hkey, hlookup] at hfound
          cases hfound
        · rw [hother old.1 hkey]
          exact h.found old hold
      · rw [List.mem_singleton.mp hnew]
        exact hself
    · intro key set hset
      by_cases hkey : key = entry.1
      · rw [hkey, hself] at hset
        rw [hkey, ← Option.some.inj hset]
        exact List.mem_append_right _ List.mem_cons_self
      · rw [hother key hkey] at hset
        exact List.mem_append_left _ (h.given key set hset)

omit [LawfulBEq κ] in
theorem record_error {error : κ → ε} {seen entries : List (κ × β)} {entry : κ × β} {e : ε}
    (h : Records seen entries) (hstep : record error seen entry = .error e) :
    e = error entry.1 ∧ Conflict (entries ++ [entry]) := by
  unfold record at hstep
  split at hstep
  · rename_i value hlookup
    split at hstep
    · rename_i hvalue
      cases hstep
      refine ⟨rfl, (entry.1, value), ?_, entry, ?_, rfl, hvalue⟩
      · exact List.mem_append_left _ (h.given _ _ hlookup)
      · exact List.mem_append_right _ List.mem_cons_self
    · cases hstep
  · cases hstep

omit [BEq κ] [LawfulBEq κ] [DecidableEq β] in
theorem Conflict.append {entries : List (κ × β)} (h : Conflict entries) (more : List (κ × β)) :
    Conflict (entries ++ more) := by
  obtain ⟨a, ha, b, hb, hboth⟩ := h
  exact ⟨a, List.mem_append_left _ ha, b, List.mem_append_left _ hb, hboth⟩

/-- The run over a list, after the entries that were recorded before. -/
theorem records_run {error : κ → ε} {seen before : List (κ × β)} (h : Records seen before)
    (entries : List (κ × β)) :
    (∃ seen', entries.foldlM (record error) seen = .ok seen' ∧ Records seen' (before ++ entries)) ∨
    (∃ key, entries.foldlM (record error) seen = .error (error key) ∧
      Conflict (before ++ entries)) := by
  induction entries generalizing seen before with
  | nil => exact Or.inl ⟨seen, rfl, by rwa [List.append_nil]⟩
  | cons entry entries ih =>
    have hassoc : before ++ entry :: entries = before ++ [entry] ++ entries := by simp
    rw [List.foldlM_cons, hassoc]
    cases hstep : record error seen entry with
    | error e =>
      obtain ⟨he, hconflict⟩ := record_error h hstep
      exact Or.inr ⟨entry.1, by rw [he]; rfl, hconflict.append entries⟩
    | ok seen' => exact ih (record_ok h hstep)

/-- The check refuses exactly the lists in which a key has two values. -/
theorem check_cases (error : κ → ε) (entries : List (κ × β)) :
    (SingleValued entries ∧ ∃ seen, entries.foldlM (record error) [] = .ok seen) ∨
    (Conflict entries ∧ ∃ key, entries.foldlM (record error) [] = .error (error key)) := by
  rcases records_run records_nil entries with ⟨seen, hrun, hrecords⟩ | ⟨key, hrun, hconflict⟩
  · exact Or.inl ⟨hrecords.singleValued, seen, hrun⟩
  · exact Or.inr ⟨hconflict, key, hrun⟩

end RenkuNotebooks.SingleValues
