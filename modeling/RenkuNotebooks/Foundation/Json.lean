import Mathlib.Data.List.Basic
import Mathlib.Data.Rat.Defs
import Mathlib.Tactic.Common

/-!
# JSON values

Documents are values of the inductive type `Json`; an object is a list of members in which
the first member with a key counts. Integers and floating-point numbers are different
constructors, as they are in Python.
-/

namespace RenkuNotebooks

inductive Json where
  | null
  | bool (b : Bool)
  | int (n : Int)
  | float (q : Rat)
  | str (s : String)
  | arr (xs : List Json)
  | obj (members : List (String × Json))
  deriving Repr, Inhabited

namespace Json

instance : Coe String Json := ⟨.str⟩
instance : Coe Bool Json := ⟨.bool⟩
instance : Coe Int Json := ⟨.int⟩

/-! ### Decidable equality -/

mutual
def beq : Json → Json → Bool
  | .null, .null => true
  | .bool a, .bool b => a == b
  | .int a, .int b => decide (a = b)
  | .float a, .float b => decide (a = b)
  | .str a, .str b => decide (a = b)
  | .arr xs, .arr ys => beqList xs ys
  | .obj ms, .obj ns => beqMembers ms ns
  | _, _ => false

def beqList : List Json → List Json → Bool
  | [], [] => true
  | x :: xs, y :: ys => beq x y && beqList xs ys
  | _, _ => false

def beqMembers : List (String × Json) → List (String × Json) → Bool
  | [], [] => true
  | (k, x) :: ms, (l, y) :: ns => decide (k = l) && beq x y && beqMembers ms ns
  | _, _ => false
end

mutual
theorem beq_iff : ∀ x y : Json, beq x y = true ↔ x = y
  | .null, y => by cases y <;> simp [beq]
  | .bool a, y => by cases y <;> simp [beq]
  | .int a, y => by cases y <;> simp [beq]
  | .float a, y => by cases y <;> simp [beq]
  | .str a, y => by cases y <;> simp [beq]
  | .arr xs, y => by cases y <;> simp [beq, beqList_iff xs]
  | .obj ms, y => by cases y <;> simp [beq, beqMembers_iff ms]

theorem beqList_iff : ∀ xs ys : List Json, beqList xs ys = true ↔ xs = ys
  | [], ys => by cases ys <;> simp [beqList]
  | x :: xs, ys => by cases ys <;> simp [beqList, beq_iff x, beqList_iff xs]

theorem beqMembers_iff : ∀ ms ns : List (String × Json), beqMembers ms ns = true ↔ ms = ns
  | [], ns => by cases ns <;> simp [beqMembers]
  | (k, x) :: ms, ns => by
    cases ns <;> simp [beqMembers, Prod.ext_iff, beq_iff x, beqMembers_iff ms]
end

instance : DecidableEq Json := fun x y => decidable_of_iff (beq x y = true) (beq_iff x y)

/-! ### Members of objects -/

def getMember (key : String) : List (String × Json) → Option Json
  | [] => none
  | (k, v) :: rest => if k = key then some v else getMember key rest

/-- The member is replaced where it stands, or added at the end. -/
def setMember (key : String) (value : Json) : List (String × Json) → List (String × Json)
  | [] => [(key, value)]
  | (k, v) :: rest => if k = key then (k, value) :: rest else (k, v) :: setMember key value rest

def eraseMember (key : String) (members : List (String × Json)) : List (String × Json) :=
  members.filter (fun m => m.1 ≠ key)

@[simp] lemma getMember_setMember (key : String) (value : Json) (ms : List (String × Json)) :
    getMember key (setMember key value ms) = some value := by
  induction ms with
  | nil => simp [setMember, getMember]
  | cons m rest ih =>
    by_cases h : m.1 = key
    · simp [setMember, getMember, h]
    · simp [setMember, getMember, h, ih]

lemma getMember_setMember_of_ne {key other : String} (hne : other ≠ key) (value : Json)
    (ms : List (String × Json)) : getMember other (setMember key value ms) = getMember other ms := by
  induction ms with
  | nil => simp [setMember, getMember, hne.symm]
  | cons m rest ih =>
    by_cases h : m.1 = key
    · simp [setMember, getMember, h, hne.symm]
    · simp only [setMember, h, if_false, getMember, ih]

lemma nodup_setMember (key : String) (value : Json) {ms : List (String × Json)}
    (h : (ms.map Prod.fst).Nodup) : ((setMember key value ms).map Prod.fst).Nodup := by
  have hkeys : ∀ ms : List (String × Json), (setMember key value ms).map Prod.fst =
      if key ∈ ms.map Prod.fst then ms.map Prod.fst else ms.map Prod.fst ++ [key] := by
    intro ms
    induction ms with
    | nil => rfl
    | cons m rest ih =>
      by_cases hm : m.1 = key
      · simp [setMember, hm]
      · by_cases hrest : key ∈ rest.map Prod.fst
        · simp only [setMember, hm, if_false, List.map_cons, ih, hrest, if_true, List.mem_cons,
            or_true]
        · simp only [setMember, hm, if_false, List.map_cons, ih, hrest, List.mem_cons,
            Ne.symm hm, or_self, List.cons_append]
  rw [hkeys]
  split
  · exact h
  · rename_i hkey
    rw [List.nodup_append]
    refine ⟨h, by simp, ?_⟩
    intro k hk l hl heq
    rw [List.mem_singleton] at hl
    exact hkey (hl ▸ heq ▸ hk)

lemma mem_of_getMember {key : String} {value : Json} {ms : List (String × Json)}
    (h : getMember key ms = some value) : (key, value) ∈ ms := by
  induction ms with
  | nil => cases h
  | cons m rest ih =>
    by_cases hm : m.1 = key
    · have hvalue : m.2 = value := by simpa [getMember, hm] using h
      rw [← hm, ← hvalue]
      exact List.mem_cons_self
    · exact List.mem_cons_of_mem _ (ih (by simpa [getMember, hm] using h))

@[simp] lemma getMember_eraseMember (key : String) (ms : List (String × Json)) :
    getMember key (eraseMember key ms) = none := by
  induction ms with
  | nil => rfl
  | cons m rest ih =>
    unfold eraseMember at ih ⊢
    by_cases h : m.1 = key
    · simpa [h] using ih
    · simpa [getMember, h] using ih

lemma getMember_eraseMember_of_ne {key other : String} (hne : other ≠ key)
    (ms : List (String × Json)) : getMember other (eraseMember key ms) = getMember other ms := by
  induction ms with
  | nil => rfl
  | cons m rest ih =>
    unfold eraseMember at ih ⊢
    by_cases h : m.1 = key
    · simpa [getMember, h, hne.symm] using ih
    · rw [List.filter_cons_of_pos (by simpa using h)]
      simp only [getMember, ih]

lemma getMember_filter_key (p : String → Bool) (key : String) (ms : List (String × Json)) :
    getMember key (ms.filter fun m => p m.1) = if p key then getMember key ms else none := by
  induction ms with
  | nil => simp [getMember]
  | cons m rest ih =>
    rw [List.filter_cons]
    by_cases hm : m.1 = key
    · subst hm
      cases hp : p m.1 <;> simp_all [getMember]
    · cases hp : p m.1 <;> simp [getMember, hm, ih]

/-- `value.get(key)` on a dictionary; every other value has no members. -/
def get? (key : String) : Json → Option Json
  | .obj ms => getMember key ms
  | _ => none

/-- A chain of `.get(key, {})`. -/
def dig : List String → Json → Option Json
  | [], j => some j
  | k :: ks, j => (j.get? k).bind (dig ks)

/-- Python's truth value. -/
def truthy : Json → Bool
  | .null => false
  | .bool b => b
  | .int n => n ≠ 0
  | .float q => q ≠ 0
  | .str s => s ≠ ""
  | .arr xs => !xs.isEmpty
  | .obj ms => !ms.isEmpty

@[simp] lemma dig_nil (j : Json) : dig [] j = some j := rfl

@[simp] lemma dig_cons (k : String) (ks : List String) (j : Json) :
    dig (k :: ks) j = (j.get? k).bind (dig ks) := rfl

lemma dig_singleton (k : String) (j : Json) : dig [k] j = j.get? k := by
  rw [dig_cons]
  cases j.get? k <;> rfl

lemma dig_append (ks ls : List String) (j : Json) :
    dig (ks ++ ls) j = (dig ks j).bind (dig ls) := by
  induction ks generalizing j with
  | nil => rfl
  | cons k ks ih =>
    simp only [List.cons_append, dig_cons, Option.bind_assoc]
    congr 1
    funext c
    exact ih c

end Json

end RenkuNotebooks
