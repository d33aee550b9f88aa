import RenkuNotebooks.Foundation.JsonPatch
import Mathlib.Data.List.Forall2

/-!
# Rewriting documents

`mapAt` rewrites the value at a location of named members and leaves a document without that
location as it is. `Swaps` says that a rewriting can be done before or after an operation that may
fail; the rules below move it through the operations of a patch, location by location.
-/

namespace RenkuNotebooks.Json

def mapMember (key : String) (f : Json → Json) : List (String × Json) → List (String × Json)
  | [] => []
  | m :: ms => if m.1 = key then (m.1, f m.2) :: ms else m :: mapMember key f ms

def mapAt : List String → (Json → Json) → Json → Json
  | [], f, j => f j
  | t :: ts, f, .obj ms => .obj (mapMember t (mapAt ts f) ms)
  | _ :: _, _, j => j

/-- Every element of an array. -/
def mapElems (f : Json → Json) : Json → Json
  | .arr xs => .arr (xs.map f)
  | j => j

/-! ### Members -/

section Members

variable {key other : String} {f : Json → Json} {value : Json}

theorem getMember_mapMember (ms : List (String × Json)) :
    getMember key (mapMember key f ms) = (getMember key ms).map f := by
  induction ms with
  | nil => rfl
  | cons m ms ih =>
    by_cases hkey : m.1 = key
    · simp [mapMember, getMember, hkey]
    · simp [mapMember, getMember, hkey, ih]

theorem getMember_mapMember_of_ne (hne : other ≠ key) (ms : List (String × Json)) :
    getMember other (mapMember key f ms) = getMember other ms := by
  induction ms with
  | nil => rfl
  | cons m ms ih =>
    by_cases hkey : m.1 = key
    · simp [mapMember, getMember, hkey, hne.symm]
    · simp [mapMember, getMember, hkey, ih]

theorem mapMember_setMember (ms : List (String × Json)) :
    mapMember key f (setMember key value ms) = setMember key (f value) ms := by
  induction ms with
  | nil => simp [mapMember, setMember]
  | cons m ms ih =>
    by_cases hkey : m.1 = key
    · simp [mapMember, setMember, hkey]
    · simp [mapMember, setMember, hkey, ih]

theorem setMember_mapMember (ms : List (String × Json)) :
    setMember key value (mapMember key f ms) = setMember key value ms := by
  induction ms with
  | nil => rfl
  | cons m ms ih =>
    by_cases hkey : m.1 = key
    · simp [mapMember, setMember, hkey]
    · simp [mapMember, setMember, hkey, ih]

theorem mapMember_setMember_of_ne (hne : other ≠ key) (ms : List (String × Json)) :
    mapMember key f (setMember other value ms) = setMember other value (mapMember key f ms) := by
  induction ms with
  | nil => simp [mapMember, setMember, hne]
  | cons m ms ih =>
    by_cases hother : m.1 = other
    · have hkey : m.1 ≠ key := by rwa [hother]
      simp [mapMember, setMember, hother, hne]
    · by_cases hkey : m.1 = key
      · simp [mapMember, setMember, hkey, hne.symm]
      · simp [mapMember, setMember, hother, hkey, ih]

theorem mapMember_of_fixed (ms : List (String × Json))
    (h : ∀ v, getMember key ms = some v → f v = v) : mapMember key f ms = ms := by
  induction ms with
  | nil => rfl
  | cons m ms ih =>
    by_cases hkey : m.1 = key
    · have hm := h m.2 (by simp [getMember, hkey])
      rw [mapMember, if_pos hkey, hm]
    · have hms := ih (by simpa [getMember, hkey] using h)
      simp [mapMember, hkey, hms]

theorem mapMember_of_getMember {ms : List (String × Json)} {old : Json}
    (h : getMember key ms = some old) : mapMember key f ms = setMember key (f old) ms := by
  induction ms with
  | nil => cases h
  | cons m ms ih =>
    by_cases hkey : m.1 = key
    · have hold : m.2 = old := by simpa [getMember, hkey] using h
      simp [mapMember, setMember, hkey, hold]
    · have hms := ih (by simpa [getMember, hkey] using h)
      simp [mapMember, setMember, hkey, hms]

end Members

/-! ### Locations -/

theorem mapAt_cons (t : String) (ts : List String) (f : Json → Json) :
    mapAt (t :: ts) f = mapAt [t] (mapAt ts f) := by
  funext j
  cases j <;> rfl

theorem mapAt_append (ps qs : List String) (f : Json → Json) :
    mapAt (ps ++ qs) f = mapAt ps (mapAt qs f) := by
  induction ps with
  | nil => rfl
  | cons p ps ih => rw [List.cons_append, mapAt_cons, ih, ← mapAt_cons]

theorem get?_mapAt (t : String) (f : Json → Json) (j : Json) :
    (mapAt [t] f j).get? t = (j.get? t).map f := by
  cases j with
  | obj ms => exact getMember_mapMember ms
  | _ => rfl

theorem get?_mapAt_of_ne {t u : String} (hne : u ≠ t) (f : Json → Json) (j : Json) :
    (mapAt [t] f j).get? u = j.get? u := by
  cases j with
  | obj ms => exact getMember_mapMember_of_ne hne ms
  | _ => rfl

theorem dig_mapAt (ps : List String) (f : Json → Json) (j : Json) :
    (mapAt ps f j).dig ps = (j.dig ps).map f := by
  induction ps generalizing j with
  | nil => rfl
  | cons p ps ih =>
    rw [mapAt_cons, dig_cons, dig_cons, get?_mapAt]
    cases j.get? p with
    | none => rfl
    | some c => exact ih c

theorem mapAt_of_fixed {ps : List String} {f : Json → Json} {j : Json}
    (h : ∀ x, j.dig ps = some x → f x = x) : mapAt ps f j = j := by
  induction ps generalizing j with
  | nil => exact h j rfl
  | cons p ps ih =>
    cases j with
    | obj ms =>
      rw [mapAt, mapMember_of_fixed]
      intro v hv
      apply ih
      intro x hx
      apply h x
      rw [dig_cons, get?, hv]
      exact hx
    | _ => rfl

theorem getAt_mapAt {ps : List String} (hps : ∀ t ∈ ps, Named t) (f : Json → Json) (j : Json) :
    getAt ps (mapAt ps f j) = (getAt ps j).map f := by
  rw [getAt_of_named hps, getAt_of_named hps, dig_mapAt]

theorem child_mapAt_of_ne {t u : String} (hne : u ≠ t) (f : Json → Json) (j : Json) :
    child u (mapAt [t] f j) = child u j := by
  cases j with
  | obj ms => exact getMember_mapMember_of_ne hne ms
  | _ => rfl

theorem getAt_mapAt_of_separate {ps qs : List String} (hqs : ∀ t ∈ qs, Named t)
    (hpq : ¬ ps <+: qs) (hqp : ¬ qs <+: ps) (f : Json → Json) (j : Json) :
    getAt ps (mapAt qs f j) = getAt ps j := by
  induction qs generalizing ps j with
  | nil => exact absurd List.nil_prefix hqp
  | cons q qs ih =>
    cases ps with
    | nil => exact absurd List.nil_prefix hpq
    | cons p ps =>
      rw [mapAt_cons, getAt_cons, getAt_cons]
      by_cases hp : p = q
      · subst p
        have hq := hqs q List.mem_cons_self
        rw [child_of_named hq, child_of_named hq, get?_mapAt]
        cases j.get? q with
        | none => rfl
        | some c =>
          apply ih fun t ht => hqs t (List.mem_cons_of_mem _ ht)
          · exact fun hstart => hpq (List.cons_prefix_cons.mpr ⟨rfl, hstart⟩)
          · exact fun hstart => hqp (List.cons_prefix_cons.mpr ⟨rfl, hstart⟩)
      · rw [child_mapAt_of_ne hp]

/-- A replacement below named members is a rewriting. -/
theorem alterAt_eq_mapAt {ps : List String} (hps : ∀ t ∈ ps, Named t) {f : Json → Option Json}
    {g : Json → Json} {j x : Json} (hx : getAt ps j = some x) (hf : f x = some (g x)) :
    alterAt ps f j = some (mapAt ps g j) := by
  induction ps generalizing j with
  | nil =>
    cases hx
    exact hf
  | cons p ps ih =>
    rw [getAt_cons, Option.bind_eq_some_iff] at hx
    obtain ⟨c, hc, hx⟩ := hx
    have hrest := ih (fun t ht => hps t (List.mem_cons_of_mem _ ht)) hx
    rw [child_of_named (hps p List.mem_cons_self)] at hc
    cases j with
    | obj ms =>
      have hget : getMember p ms = some c := hc
      rw [alterAt, alterChild, hget, Option.bind_some, hrest, Option.map_some, mapAt]
      rw [mapMember_of_getMember hget]
    | _ => cases hc

/-! ### Rewriting before and after an operation -/

/-- Where `P` holds of the document before and after the operation. -/
def Swaps (P : Json → Json → Prop) (r : Json → Json) (h h' : Json → Option Json) : Prop :=
  ∀ x y, P x y → h x = some y → h' (r x) = some (r y)

/-- Of the values at a location, where both exist. -/
def Below (ps : List String) (P : Json → Json → Prop) (x y : Json) : Prop :=
  ∀ c d, getAt ps x = some c → getAt ps y = some d → P c d

abbrev Anywhere : Json → Json → Prop := fun _ _ => True

section Swaps

variable {P Q : Json → Json → Prop} {r : Json → Json} {h h' : Json → Option Json}

theorem Swaps.mono (hr : Swaps P r h h') (hPQ : ∀ x y, Q x y → P x y) : Swaps Q r h h' :=
  fun x y hxy => hr x y (hPQ x y hxy)

theorem alterElem_of_named {token : String} (ht : Named token) (f : Json → Option Json) (i : Nat)
    (xs : List Json) : alterElem token f i xs = none := by
  induction xs generalizing i with
  | nil => rfl
  | cons x xs ih => rw [alterElem, if_neg (repr_ne_of_named ht i), ih, Option.map_none]

theorem swaps_alterChild {t : String} (ht : Named t) (hr : Swaps P r h h') :
    Swaps (Below [t] P) (mapAt [t] r) (alterChild t h) (alterChild t h') := by
  intro x y hP hy
  obtain ⟨c, d, hc, hd, hcd⟩ := child_of_alterChild hy
  have hrc := hr c d (hP c d (by rw [getAt_cons, hc]; rfl) (by rw [getAt_cons, hcd]; rfl)) hd
  cases x <;> simp only [alterChild, Option.map_eq_some_iff, reduceCtorEq] at hy
  case arr xs =>
    obtain ⟨ys, hys, -⟩ := hy
    rw [alterElem_of_named ht] at hys
    cases hys
  case obj ms =>
    obtain ⟨v, hv, rfl⟩ := hy
    have hget : getMember t ms = some c := hc
    rw [hget, Option.bind_some, hd] at hv
    cases hv
    have hmap : getMember t (mapMember t r ms) = some (r c) := by
      rw [getMember_mapMember, hget, Option.map_some]
    calc alterChild t h' (mapAt [t] r (.obj ms))
        = ((getMember t (mapMember t r ms)).bind h').map
            fun v => .obj (setMember t v (mapMember t r ms)) := rfl
      _ = some (.obj (setMember t (r d) ms)) := by
          rw [hmap, Option.bind_some, hrc, Option.map_some, setMember_mapMember]
      _ = some (mapAt [t] r (.obj (setMember t d ms))) := by
          rw [← mapMember_setMember]
          rfl

theorem swaps_alterAt {ps : List String} (hps : ∀ t ∈ ps, Named t) (hr : Swaps P r h h') :
    Swaps (Below ps P) (mapAt ps r) (alterAt ps h) (alterAt ps h') := by
  induction ps with
  | nil => exact fun x y hP hy => hr x y (hP x y rfl rfl) hy
  | cons p ps ih =>
    intro x y hP hy
    rw [mapAt_cons]
    have htail := ih fun t ht => hps t (List.mem_cons_of_mem _ ht)
    apply swaps_alterChild (hps p List.mem_cons_self) htail x y _ hy
    intro c d hc hd c' d' hc' hd'
    apply hP
    · rw [show p :: ps = [p] ++ ps from rfl, getAt_append, hc]
      exact hc'
    · rw [show p :: ps = [p] ++ ps from rfl, getAt_append, hd]
      exact hd'

/-- An operation inside another member. -/
theorem swaps_alterChild_of_ne {t u : String} (hne : t ≠ u) :
    Swaps Anywhere (mapAt [u] r) (alterChild t h) (alterChild t h) := by
  intro x y _ hy
  cases x <;> simp only [alterChild, Option.map_eq_some_iff, reduceCtorEq] at hy
  case arr xs =>
    obtain ⟨ys, hys, rfl⟩ := hy
    simp [mapAt, alterChild, hys]
  case obj ms =>
    obtain ⟨v, hv, rfl⟩ := hy
    simp only [mapAt, alterChild, getMember_mapMember_of_ne hne, hv, Option.map_some,
      mapMember_setMember_of_ne hne]

/-- An addition of another member. -/
theorem swaps_insertChild_of_ne {t u : String} (hne : t ≠ u) (value : Json) :
    Swaps Anywhere (mapAt [u] r) (insertChild t value) (insertChild t value) := by
  intro x y _ hy
  cases x <;> simp only [insertChild, Option.some.injEq, reduceCtorEq] at hy
  case arr xs =>
    have harr : ∀ zs, mapAt [u] r (.arr zs) = .arr zs := fun _ => rfl
    have hy' : ∃ zs, y = .arr zs := by
      split at hy
      · exact ⟨_, (Option.some.inj hy).symm⟩
      · obtain ⟨zs, _, rfl⟩ := Option.map_eq_some_iff.mp hy
        exact ⟨zs, rfl⟩
    obtain ⟨zs, rfl⟩ := hy'
    rw [harr, harr, insertChild]
    exact hy
  case obj ms =>
    subst hy
    simp only [mapAt, insertChild, mapMember_setMember_of_ne hne]

theorem swaps_alterAt_of_separate {ps qs : List String} (hqs : ∀ t ∈ qs, Named t)
    (hpq : ¬ ps <+: qs) (hqp : ¬ qs <+: ps) :
    Swaps Anywhere (mapAt qs r) (alterAt ps h) (alterAt ps h) := by
  induction qs generalizing ps with
  | nil => exact absurd List.nil_prefix hqp
  | cons q qs ih =>
    cases ps with
    | nil => exact absurd List.nil_prefix hpq
    | cons p ps =>
      rw [mapAt_cons]
      by_cases hp : p = q
      · subst p
        have hrest : Swaps Anywhere (mapAt qs r) (alterAt ps h) (alterAt ps h) := by
          apply ih fun t ht => hqs t (List.mem_cons_of_mem _ ht)
          · exact fun hstart => hpq (List.cons_prefix_cons.mpr ⟨rfl, hstart⟩)
          · exact fun hstart => hqp (List.cons_prefix_cons.mpr ⟨rfl, hstart⟩)
        apply (swaps_alterChild (hqs q List.mem_cons_self) hrest).mono
        exact fun _ _ _ _ _ _ _ => trivial
      · exact swaps_alterChild_of_ne hp

theorem swaps_addAt_of_separate {ps qs : List String} (hqs : ∀ t ∈ qs, Named t)
    (hpq : ¬ ps <+: qs) (hqp : ¬ qs <+: ps) (value : Json) :
    Swaps Anywhere (mapAt qs r) (addAt ps value) (addAt ps value) := by
  rcases List.eq_nil_or_concat ps with rfl | ⟨ps, t, rfl⟩
  · exact absurd List.nil_prefix hpq
  rw [List.concat_eq_append] at hpq hqp ⊢
  rw [addAt_snoc]
  by_cases habove : ps <+: qs
  · obtain ⟨us, rfl⟩ := habove
    cases us with
    | nil => exact absurd (by simp) hqp
    | cons u us =>
      have hne : t ≠ u := by
        rintro rfl
        exact hpq ⟨us, by simp⟩
      have hps : ∀ t ∈ ps, Named t := fun t ht => hqs t (List.mem_append_left _ ht)
      rw [mapAt_append, mapAt_cons]
      apply (swaps_alterAt hps (swaps_insertChild_of_ne hne value)).mono
      exact fun _ _ _ _ _ _ _ => trivial
  · apply swaps_alterAt_of_separate hqs habove
    exact fun hstart => hqp (hstart.trans (List.prefix_append ps [t]))

/-- An element added at the end of an array, or a value that the rewriting does not change. -/
theorem swaps_append (value : Json) :
    Swaps (fun x _ => (∃ xs, x = .arr xs) ∨ r value = value) (mapElems r)
      (insertChild "-" value) (insertChild "-" (r value)) := by
  intro x y hP hy
  cases x <;> simp only [insertChild, Option.some.injEq, reduceCtorEq] at hy
  case arr xs =>
    rw [if_pos trivial, Option.some.injEq] at hy
    subst hy
    simp [mapElems, insertChild]
  case obj ms =>
    subst hy
    rcases hP with ⟨xs, hxs⟩ | hvalue
    · cases hxs
    · rw [hvalue]
      rfl

theorem alterElem_map {token : String} {i : Nat} {xs ys : List Json}
    (hr : ∀ x y, elemAt token i xs = some x → elemAt token i ys = some y → h x = some y →
      h' (r x) = some (r y))
    (hys : alterElem token h i xs = some ys) :
    alterElem token h' i (xs.map r) = some (ys.map r) := by
  induction xs generalizing i ys with
  | nil => cases hys
  | cons x xs ih =>
    by_cases hi : i.repr = token
    · simp only [alterElem, hi, if_true, Option.map_eq_some_iff] at hys
      obtain ⟨y, hy, rfl⟩ := hys
      have hxy := hr x y (by simp [elemAt, hi]) (by simp [elemAt, hi]) hy
      simp [alterElem, hi, hxy]
    · simp only [alterElem, hi, if_false, Option.map_eq_some_iff] at hys
      obtain ⟨zs, hzs, rfl⟩ := hys
      have hrest := ih (fun x y hx hy => hr x y (by simpa [elemAt, hi] using hx)
        (by simpa [elemAt, hi] using hy)) hzs
      simp [alterElem, hi, hrest]

theorem filter_alterElem {token : String} {p : Json → Bool} {i : Nat} {xs ys : List Json}
    (hx : ∀ x, elemAt token i xs = some x → p x = false)
    (hy : ∀ y, elemAt token i ys = some y → p y = false)
    (hys : alterElem token h i xs = some ys) : ys.filter p = xs.filter p := by
  induction xs generalizing i ys with
  | nil => cases hys
  | cons x xs ih =>
    by_cases hi : i.repr = token
    · simp only [alterElem, hi, if_true, Option.map_eq_some_iff] at hys
      obtain ⟨y, _, rfl⟩ := hys
      have hpx := hx x (by simp [elemAt, hi])
      have hpy := hy y (by simp [elemAt, hi])
      simp [hpx, hpy]
    · simp only [alterElem, hi, if_false, Option.map_eq_some_iff] at hys
      obtain ⟨zs, hzs, rfl⟩ := hys
      have hrest := ih (fun x hx' => hx x (by simpa [elemAt, hi] using hx'))
        (fun y hy' => hy y (by simpa [elemAt, hi] using hy')) hzs
      rw [List.filter_cons, List.filter_cons, hrest]

/-- An operation on an element of an array. -/
theorem swaps_elem {token : String} (hr : Swaps P r h h') :
    Swaps (fun x y => (∃ xs, x = .arr xs) ∧ Below [token] P x y) (mapElems r)
      (alterChild token h) (alterChild token h') := by
  rintro _ y ⟨⟨xs, rfl⟩, hP⟩ hy
  obtain ⟨ys, hys, rfl⟩ := Option.map_eq_some_iff.mp hy
  have hmap : alterElem token h' 0 (xs.map r) = some (ys.map r) := by
    apply alterElem_map _ hys
    intro c d hc hd hcd
    apply hr c d (hP c d _ _) hcd
    · rw [getAt_cons, child, hc]
      rfl
    · rw [getAt_cons, child, hd]
      rfl
  simp [mapElems, alterChild, hmap]

end Swaps

/-! ### The only element with a property -/

def Sole (p : Json → Prop) (x : Json) (xs : List Json) : Prop :=
  ∃ before after, xs = before ++ x :: after ∧ p x ∧ ∀ y ∈ before ++ after, ¬ p y

section Sole

variable {p q : Json → Prop} {f : Json → Json} {x : Json} {xs : List Json}

theorem Sole.map (h : Sole p x xs) (hf : ∀ y, p (f y) ↔ p y) : Sole p (f x) (xs.map f) := by
  obtain ⟨before, after, rfl, hx, hrest⟩ := h
  refine ⟨before.map f, after.map f, by simp, (hf x).mpr hx, ?_⟩
  rw [← List.map_append]
  intro y hy
  obtain ⟨z, hz, rfl⟩ := List.mem_map.mp hy
  rw [hf]
  exact hrest z hz

theorem Sole.append (h : Sole p x xs) {ys : List Json} (hys : ∀ y ∈ ys, ¬ p y) :
    Sole p x (xs ++ ys) := by
  obtain ⟨before, after, rfl, hx, hrest⟩ := h
  refine ⟨before, after ++ ys, by simp, hx, ?_⟩
  rw [← List.append_assoc]
  exact List.forall_mem_append.mpr ⟨hrest, hys⟩

theorem Sole.prepend (h : Sole p x xs) {ys : List Json} (hys : ∀ y ∈ ys, ¬ p y) :
    Sole p x (ys ++ xs) := by
  obtain ⟨before, after, rfl, hx, hrest⟩ := h
  refine ⟨ys ++ before, after, by simp, hx, ?_⟩
  rw [List.append_assoc]
  exact List.forall_mem_append.mpr ⟨hys, hrest⟩

theorem sole_singleton (hx : p x) : Sole p x [x] := ⟨[], [], rfl, hx, by simp⟩

/-- Pointwise related lists, where the relation keeps the property. -/
theorem Sole.of_forall₂ {R : Json → Json → Prop} {ys : List Json} (h : Sole p x xs)
    (hR : ∀ a b, R a b → (p b ↔ p a)) (hxs : List.Forall₂ R xs ys) :
    ∃ y, R x y ∧ Sole p y ys := by
  obtain ⟨before, after, rfl, hx, hrest⟩ := h
  have hnone : ∀ {as bs : List Json}, List.Forall₂ R as bs → (∀ a ∈ as, ¬ p a) → ∀ b ∈ bs, ¬ p b := by
    intro as bs hs
    induction hs with
    | nil => exact fun h => h
    | cons hab _ ih =>
      intro has
      rw [List.forall_mem_cons] at has ⊢
      exact ⟨fun hb => has.1 ((hR _ _ hab).mp hb), ih has.2⟩
  induction before generalizing ys with
  | nil =>
    obtain ⟨y, zs, hxy, hzs, rfl⟩ := List.forall₂_cons_left_iff.mp hxs
    exact ⟨y, hxy, [], zs, rfl, (hR _ _ hxy).mpr hx, hnone hzs hrest⟩
  | cons b bs ih =>
    obtain ⟨c, zs, hbc, hzs, rfl⟩ := List.forall₂_cons_left_iff.mp hxs
    rw [List.cons_append, List.forall_mem_cons] at hrest
    obtain ⟨y, hxy, hy⟩ := ih hzs hrest.2
    have hc : ∀ d ∈ [c], ¬ p d := by
      rw [List.forall_mem_singleton]
      exact fun hc => hrest.1 ((hR _ _ hbc).mp hc)
    exact ⟨y, hxy, hy.prepend hc⟩

theorem forall₂_alterElem {token : String} {g : Json → Option Json} {i : Nat} {ys : List Json}
    (h : alterElem token g i xs = some ys) :
    List.Forall₂ (fun a b => b = a ∨ g a = some b) xs ys := by
  have hrefl : ∀ zs : List Json, List.Forall₂ (fun a b => b = a ∨ g a = some b) zs zs :=
    fun zs => List.forall₂_same.mpr fun _ _ => Or.inl rfl
  induction xs generalizing i ys with
  | nil => cases h
  | cons z zs ih =>
    by_cases hi : i.repr = token
    · simp only [alterElem, hi, if_true, Option.map_eq_some_iff] at h
      obtain ⟨y, hy, rfl⟩ := h
      exact .cons (Or.inr hy) (hrefl zs)
    · simp only [alterElem, hi, if_false, Option.map_eq_some_iff] at h
      obtain ⟨ws, hws, rfl⟩ := h
      exact .cons (Or.inl rfl) (ih hws)

theorem repr_injective {i j : Nat} (h : i.repr = j.repr) : i = j := by
  have hchars : Nat.toDigits 10 i = Nat.toDigits 10 j := by
    rw [← Nat.toList_repr, ← Nat.toList_repr, h]
  have hvalues := congrArg (Nat.ofDigitChars 10 · 0) hchars
  simpa using hvalues

theorem alterElem_at (g : Json → Option Json) (before after : List Json) (x : Json) (i : Nat) :
    alterElem (i + before.length).repr g i (before ++ x :: after) =
      (g x).map fun y => before ++ y :: after := by
  induction before generalizing i with
  | nil => simp [alterElem]
  | cons b bs ih =>
    have hne : i.repr ≠ (i + (b :: bs).length).repr := by
      intro heq
      have hlength := repr_injective heq
      simp only [List.length_cons] at hlength
      omega
    have hshift : i + (b :: bs).length = i + 1 + bs.length := by
      simp only [List.length_cons]
      omega
    rw [List.cons_append, alterElem, if_neg hne, hshift, ih, Option.map_map]
    rfl

/-- Where a rewriting changes one element only, it is the alteration of that element. -/
theorem alterElem_eq_map {g : Json → Option Json} {before after : List Json}
    (hrest : ∀ y ∈ before ++ after, f y = y) (hx : g x = some (f x)) :
    alterElem before.length.repr g 0 (before ++ x :: after) =
      some ((before ++ x :: after).map f) := by
  have hfixed : ∀ ys : List Json, (∀ y ∈ ys, f y = y) → ys.map f = ys := by
    intro ys hys
    rw [List.map_congr_left hys, List.map_id']
  have hbefore := hfixed before fun y hy => hrest y (List.mem_append_left _ hy)
  have hafter := hfixed after fun y hy => hrest y (List.mem_append_right _ hy)
  have halter := alterElem_at g before after x 0
  rw [Nat.zero_add] at halter
  rw [halter, hx, List.map_append, List.map_cons, hbefore, hafter]
  rfl

end Sole

end RenkuNotebooks.Json
