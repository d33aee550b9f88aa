import RenkuNotebooks.Foundation.Json

/-!
# Locations inside a JSON document

A location is the list of reference tokens of an RFC 6901 pointer. `getAt` reads it and
`alterAt` rewrites what stands there; the laws below say how the two meet on equal, nested and
separate locations.
-/

namespace RenkuNotebooks.Json

/-- An array element whose index is written as the token, in decimal and without leading zeros. -/
def elemAt (token : String) : Nat → List Json → Option Json
  | _, [] => none
  | i, x :: xs => if i.repr = token then some x else elemAt token (i + 1) xs

def alterElem (token : String) (f : Json → Option Json) : Nat → List Json → Option (List Json)
  | _, [] => none
  | i, x :: xs =>
    if i.repr = token then (f x).map (· :: xs)
    else (alterElem token f (i + 1) xs).map (x :: ·)

def child (token : String) : Json → Option Json
  | .obj ms => getMember token ms
  | .arr xs => elemAt token 0 xs
  | _ => none

def alterChild (token : String) (f : Json → Option Json) : Json → Option Json
  | .obj ms => ((getMember token ms).bind f).map fun v => .obj (setMember token v ms)
  | .arr xs => (alterElem token f 0 xs).map .arr
  | _ => none

def getAt : List String → Json → Option Json
  | [], j => some j
  | t :: ts, j => (child t j).bind (getAt ts)

/-- The value at the location is replaced by what `f` makes of it; every location on the way
must exist. -/
def alterAt : List String → (Json → Option Json) → Json → Option Json
  | [], f, j => f j
  | t :: ts, f, j => alterChild t (alterAt ts f) j

/-! ### One step down -/

theorem elemAt_alterElem {token : String} {f : Json → Option Json} {i : Nat} {xs ys : List Json}
    (h : alterElem token f i xs = some ys) :
    elemAt token i ys = (elemAt token i xs).bind f ∧ (elemAt token i ys).isSome := by
  induction xs generalizing i ys with
  | nil => simp [alterElem] at h
  | cons x xs ih =>
    by_cases hi : i.repr = token
    · simp only [alterElem, hi, if_true, Option.map_eq_some_iff] at h
      obtain ⟨y, hy, rfl⟩ := h
      simp [elemAt, hi, hy]
    · simp only [alterElem, hi, if_false, Option.map_eq_some_iff] at h
      obtain ⟨zs, hzs, rfl⟩ := h
      simpa [elemAt, hi] using ih hzs

theorem elemAt_alterElem_of_ne {token other : String} (hne : other ≠ token)
    {f : Json → Option Json} {i : Nat} {xs ys : List Json}
    (h : alterElem token f i xs = some ys) : elemAt other i ys = elemAt other i xs := by
  induction xs generalizing i ys with
  | nil => simp [alterElem] at h
  | cons x xs ih =>
    by_cases hi : i.repr = token
    · simp only [alterElem, hi, if_true, Option.map_eq_some_iff] at h
      obtain ⟨y, _, rfl⟩ := h
      simp [elemAt, hi, hne.symm]
    · simp only [alterElem, hi, if_false, Option.map_eq_some_iff] at h
      obtain ⟨zs, hzs, rfl⟩ := h
      simp only [elemAt, ih hzs]

theorem alterElem_eq_some {token : String} {f : Json → Option Json} {i : Nat} {xs : List Json}
    {x y : Json} (hx : elemAt token i xs = some x) (hy : f x = some y) :
    ∃ ys, alterElem token f i xs = some ys := by
  induction xs generalizing i with
  | nil => simp [elemAt] at hx
  | cons z zs ih =>
    by_cases hi : i.repr = token
    · have hz : z = x := by simpa [elemAt, hi] using hx
      exact ⟨y :: zs, by simp [alterElem, hi, hz, hy]⟩
    · obtain ⟨ys, hys⟩ := ih (by simpa [elemAt, hi] using hx)
      exact ⟨z :: ys, by simp [alterElem, hi, hys]⟩

theorem elemAt_append {token : String} {i : Nat} {xs : List Json} {x : Json}
    (h : elemAt token i xs = some x) (ys : List Json) : elemAt token i (xs ++ ys) = some x := by
  induction xs generalizing i with
  | nil => simp [elemAt] at h
  | cons z zs ih =>
    by_cases hi : i.repr = token
    · simpa [elemAt, hi] using h
    · simp only [List.cons_append, elemAt, hi, if_false]
      exact ih (by simpa [elemAt, hi] using h)

theorem child_alterChild {token : String} {f : Json → Option Json} {j j' : Json}
    (h : alterChild token f j = some j') :
    child token j' = (child token j).bind f ∧ (child token j').isSome := by
  cases j <;> simp only [alterChild, Option.map_eq_some_iff, reduceCtorEq] at h
  case arr xs =>
    obtain ⟨ys, hys, rfl⟩ := h
    exact elemAt_alterElem hys
  case obj ms =>
    obtain ⟨v, hv, rfl⟩ := h
    simp [child, hv]

theorem child_alterChild_of_ne {token other : String} (hne : other ≠ token)
    {f : Json → Option Json} {j j' : Json} (h : alterChild token f j = some j') :
    child other j' = child other j := by
  cases j <;> simp only [alterChild, Option.map_eq_some_iff, reduceCtorEq] at h
  case arr xs =>
    obtain ⟨ys, hys, rfl⟩ := h
    exact elemAt_alterElem_of_ne hne hys
  case obj ms =>
    obtain ⟨v, _, rfl⟩ := h
    exact getMember_setMember_of_ne hne v ms

theorem alterChild_eq_some {token : String} {f : Json → Option Json} {j x y : Json}
    (hx : child token j = some x) (hy : f x = some y) : ∃ j', alterChild token f j = some j' := by
  cases j <;> simp only [child, reduceCtorEq] at hx
  case arr xs =>
    obtain ⟨ys, hys⟩ := alterElem_eq_some hx hy
    exact ⟨.arr ys, by simp [alterChild, hys]⟩
  case obj ms => exact ⟨.obj (setMember token y ms), by simp [alterChild, hx, hy]⟩

/-! ### Whole locations -/

@[simp] theorem getAt_nil (j : Json) : getAt [] j = some j := rfl

@[simp] theorem alterAt_nil (f : Json → Option Json) (j : Json) : alterAt [] f j = f j := rfl

theorem getAt_cons (t : String) (ts : List String) (j : Json) :
    getAt (t :: ts) j = (child t j).bind (getAt ts) := rfl

theorem getAt_append (ps qs : List String) (j : Json) :
    getAt (ps ++ qs) j = (getAt ps j).bind (getAt qs) := by
  induction ps generalizing j with
  | nil => rfl
  | cons t ts ih =>
    rw [List.cons_append, getAt_cons, getAt_cons, Option.bind_assoc]
    congr 1
    funext c
    exact ih c

theorem alterAt_append (ps qs : List String) (f : Json → Option Json) :
    alterAt (ps ++ qs) f = alterAt ps (alterAt qs f) := by
  induction ps with
  | nil => rfl
  | cons t ts ih =>
    funext j
    simp only [List.cons_append, alterAt, ih]

theorem alterAt_eq_some {ps : List String} {f : Json → Option Json} {j x y : Json}
    (hx : getAt ps j = some x) (hy : f x = some y) : ∃ j', alterAt ps f j = some j' := by
  induction ps generalizing j with
  | nil =>
    rw [getAt_nil, Option.some.injEq] at hx
    exact ⟨y, by rw [alterAt_nil, hx, hy]⟩
  | cons t ts ih =>
    rw [getAt_cons, Option.bind_eq_some_iff] at hx
    obtain ⟨c, hc, hx⟩ := hx
    obtain ⟨c', hc'⟩ := ih hx
    exact alterChild_eq_some hc hc'

theorem child_of_alterChild {t : String} {f : Json → Option Json} {j j' : Json}
    (h : alterChild t f j = some j') :
    ∃ c c', child t j = some c ∧ f c = some c' ∧ child t j' = some c' := by
  have hchild := child_alterChild h
  obtain ⟨c', hc'⟩ := Option.isSome_iff_exists.mp hchild.2
  rw [hc'] at hchild
  obtain ⟨c, hc, hf⟩ := Option.bind_eq_some_iff.mp hchild.1.symm
  exact ⟨c, c', hc, hf, hc'⟩

/-- What stands at the altered location is what `f` made of it. -/
theorem exists_of_alterAt {ps : List String} {f : Json → Option Json} {j j' : Json}
    (h : alterAt ps f j = some j') :
    ∃ x y, getAt ps j = some x ∧ f x = some y ∧ getAt ps j' = some y := by
  induction ps generalizing j j' with
  | nil => exact ⟨j, j', rfl, h, rfl⟩
  | cons t ts ih =>
    obtain ⟨c, c', hc, hf, hc'⟩ := child_of_alterChild h
    obtain ⟨x, y, hx, hy, hxy⟩ := ih hf
    refine ⟨x, y, ?_, hy, ?_⟩
    · rw [getAt_cons, hc, Option.bind_some, hx]
    · rw [getAt_cons, hc', Option.bind_some, hxy]

/-- Above the altered location one reads the old value with its part altered. -/
theorem getAt_above {qs rs : List String} {f : Json → Option Json} {j j' : Json}
    (h : alterAt (qs ++ rs) f j = some j') :
    ∃ x y, getAt qs j = some x ∧ alterAt rs f x = some y ∧ getAt qs j' = some y := by
  rw [alterAt_append] at h
  exact exists_of_alterAt h

/-- Separate locations do not see the change. -/
theorem getAt_alterAt_of_separate {ps qs : List String} (hpq : ¬ ps <+: qs) (hqp : ¬ qs <+: ps)
    {f : Json → Option Json} {j j' : Json} (h : alterAt ps f j = some j') :
    getAt qs j' = getAt qs j := by
  induction ps generalizing qs j j' with
  | nil => exact absurd List.nil_prefix hpq
  | cons t ts ih =>
    cases qs with
    | nil => exact absurd List.nil_prefix hqp
    | cons u us =>
      rw [getAt_cons, getAt_cons]
      by_cases htu : u = t
      · subst u
        obtain ⟨c, c', hc, hf, hc'⟩ := child_of_alterChild h
        rw [hc, hc', Option.bind_some, Option.bind_some]
        apply ih _ _ hf
        · exact fun hp => hpq (List.cons_prefix_cons.mpr ⟨rfl, hp⟩)
        · exact fun hp => hqp (List.cons_prefix_cons.mpr ⟨rfl, hp⟩)
      · rw [child_alterChild_of_ne htu h]

/-! ### Named members -/

/-- A token that no array index is written as. -/
def Named (token : String) : Prop := ∃ c ∈ token.toList, c.isDigit = false

instance (token : String) : Decidable (Named token) :=
  List.decidableBEx (fun c : Char => c.isDigit = false) token.toList

theorem repr_ne_of_named {token : String} (h : Named token) (i : Nat) : i.repr ≠ token := by
  rintro rfl
  obtain ⟨c, hc, hdigit⟩ := h
  rw [Nat.toList_repr] at hc
  have hdigit' := Nat.isDigit_of_mem_toDigits (by omega) (by omega) hc
  rw [hdigit] at hdigit'
  cases hdigit'

theorem elemAt_of_named {token : String} (h : Named token) (i : Nat) (xs : List Json) :
    elemAt token i xs = none := by
  induction xs generalizing i with
  | nil => rfl
  | cons x xs ih => rw [elemAt, if_neg (repr_ne_of_named h i), ih]

theorem child_of_named {token : String} (h : Named token) (j : Json) :
    child token j = j.get? token := by
  cases j with
  | arr xs => exact elemAt_of_named h 0 xs
  | _ => rfl

theorem getAt_of_named {path : List String} (h : ∀ t ∈ path, Named t) (j : Json) :
    getAt path j = j.dig path := by
  induction path generalizing j with
  | nil => rfl
  | cons t ts ih =>
    rw [getAt_cons, child_of_named (h t (by simp)), dig_cons]
    congr 1
    funext c
    exact ih (fun t' ht' => h t' (by simp [ht'])) c

end RenkuNotebooks.Json
