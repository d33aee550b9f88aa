import RenkuNotebooks.Foundation.JsonPath

/-!
# JSON patches

Pointers (RFC 6901) stay the strings the program writes and are parsed when a patch is applied.
Of the operations of RFC 6902 the program uses `add`, `remove`, `replace` and `test`.
-/

namespace RenkuNotebooks

namespace JsonPointer

/-- The text up to the first slash, and the texts between the later ones. -/
def segments : List Char → List Char × List (List Char)
  | [] => ([], [])
  | c :: cs =>
    if c = '/' then ([], (segments cs).1 :: (segments cs).2)
    else (c :: (segments cs).1, (segments cs).2)

def unescape : List Char → List Char
  | [] => []
  | [c] => [c]
  | c :: d :: cs =>
    if c = '~' ∧ d = '1' then '/' :: unescape cs
    else if c = '~' ∧ d = '0' then '~' :: unescape cs
    else c :: unescape (d :: cs)

def parse (pointer : String) : Option (List String) :=
  match pointer.toList with
  | [] => some []
  | c :: cs =>
    if c = '/' then
      some (((segments cs).1 :: (segments cs).2).map fun s => String.ofList (unescape s))
    else none

/-- Segments that need no escaping. -/
def Plain (s : String) : Prop := ∀ c ∈ s.toList, c ≠ '/' ∧ c ≠ '~'

instance (s : String) : Decidable (Plain s) :=
  List.decidableBAll (fun c : Char => c ≠ '/' ∧ c ≠ '~') s.toList

theorem segments_append_slash (cs ds : List Char) :
    segments (cs ++ '/' :: ds) =
      ((segments cs).1, (segments cs).2 ++ (segments ds).1 :: (segments ds).2) := by
  induction cs with
  | nil => simp [segments]
  | cons c cs ih =>
    by_cases hc : c = '/'
    · simp [segments, hc, ih]
    · simp [segments, hc, ih]

theorem segments_of_plain {s : List Char} (h : ∀ c ∈ s, c ≠ '/' ∧ c ≠ '~') :
    segments s = (s, []) := by
  induction s with
  | nil => rfl
  | cons c cs ih =>
    have hc := (h c (by simp)).1
    have hcs := ih fun d hd => h d (by simp [hd])
    simp [segments, hc, hcs]

theorem unescape_of_plain {s : List Char} (h : ∀ c ∈ s, c ≠ '/' ∧ c ≠ '~') : unescape s = s := by
  induction s with
  | nil => rfl
  | cons c cs ih =>
    have hc := (h c (by simp)).2
    have hcs := ih fun d hd => h d (by simp [hd])
    cases cs with
    | nil => rfl
    | cons d ds => simp [unescape, hc, hcs]

theorem parse_append_slash {p s : String} {tokens : List String} (hp : parse p = some tokens)
    (hs : Plain s) : parse (p ++ "/" ++ s) = some (tokens ++ [s]) := by
  have hsegments := segments_of_plain hs
  have hunescape := unescape_of_plain hs
  unfold parse at hp ⊢
  rw [String.toList_append, String.toList_append]
  cases hlist : p.toList with
  | nil =>
    rw [hlist] at hp
    simp only [Option.some.injEq] at hp
    simp [hsegments, hunescape, ← hp]
  | cons c cs =>
    rw [hlist] at hp
    by_cases hc : c = '/'
    · simp only [hc, if_true, Option.some.injEq] at hp
      have hcons : "/".toList ++ s.toList = '/' :: s.toList := rfl
      rw [List.append_assoc, hcons, List.cons_append]
      simp only [hc, if_true, segments_append_slash, hsegments, ← hp]
      simp [hunescape]
    · simp [hc] at hp

theorem parse_root_member {s : String} (hs : Plain s) : parse ("/" ++ s) = some [s] := by
  have hempty : parse "" = some [] := rfl
  simpa using parse_append_slash hempty hs

end JsonPointer

namespace Json

/-! ### Operations on parsed locations -/

def insertElem (token : String) (value : Json) : Nat → List Json → Option (List Json)
  | i, [] => if i.repr = token then some [value] else none
  | i, x :: xs =>
    if i.repr = token then some (value :: x :: xs)
    else (insertElem token value (i + 1) xs).map (x :: ·)

def eraseElem (token : String) : Nat → List Json → Option (List Json)
  | _, [] => none
  | i, x :: xs => if i.repr = token then some xs else (eraseElem token (i + 1) xs).map (x :: ·)

def insertChild (token : String) (value : Json) : Json → Option Json
  | .obj ms => some (.obj (setMember token value ms))
  | .arr xs =>
    if token = "-" then some (.arr (xs ++ [value]))
    else (insertElem token value 0 xs).map .arr
  | _ => none

def eraseChild (token : String) : Json → Option Json
  | .obj ms => (getMember token ms).map fun _ => .obj (eraseMember token ms)
  | .arr xs => (eraseElem token 0 xs).map .arr
  | _ => none

def addAt : List String → Json → Json → Option Json
  | [], value, _ => some value
  | [t], value, j => insertChild t value j
  | t :: u :: ts, value, j => alterChild t (addAt (u :: ts) value) j

def removeAt : List String → Json → Option Json
  | [], _ => none
  | [t], j => eraseChild t j
  | t :: u :: ts, j => alterChild t (removeAt (u :: ts)) j

def replaceAt (tokens : List String) (value : Json) : Json → Option Json :=
  alterAt tokens fun _ => some value

theorem addAt_snoc (ps : List String) (t : String) (value : Json) :
    addAt (ps ++ [t]) value = alterAt ps (insertChild t value) := by
  induction ps with
  | nil => rfl
  | cons p ps ih =>
    funext j
    rw [alterAt, ← ih]
    cases ps <;> rfl

theorem removeAt_snoc (ps : List String) (t : String) :
    removeAt (ps ++ [t]) = alterAt ps (eraseChild t) := by
  induction ps with
  | nil => rfl
  | cons p ps ih =>
    funext j
    rw [alterAt, ← ih]
    cases ps <;> rfl

end Json

/-! ### Operations as the program writes them -/

inductive PatchOp where
  | add (path : String) (value : Json)
  | remove (path : String)
  | replace (path : String) (value : Json)
  | test (path : String) (value : Json)
  deriving DecidableEq, Repr

inductive PatchError where
  | invalidPointer (path : String)
  | missingLocation (path : String)
  | testFailed (path : String)
  deriving DecidableEq, Repr

namespace PatchOp

def path : PatchOp → String
  | .add path _ => path
  | .remove path => path
  | .replace path _ => path
  | .test path _ => path

/-- The operation at its parsed location; only strings are ever tested. -/
def applyAt (tokens : List String) (doc : Json) : PatchOp → Except PatchError Json
  | .add path value => (Json.addAt tokens value doc).elim (.error (.missingLocation path)) .ok
  | .remove path => (Json.removeAt tokens doc).elim (.error (.missingLocation path)) .ok
  | .replace path value =>
    (Json.replaceAt tokens value doc).elim (.error (.missingLocation path)) .ok
  | .test path value =>
    match Json.getAt tokens doc with
    | none => .error (.missingLocation path)
    | some found => if found = value then .ok doc else .error (.testFailed path)

def apply (op : PatchOp) (doc : Json) : Except PatchError Json :=
  match JsonPointer.parse op.path with
  | none => .error (.invalidPointer op.path)
  | some tokens => op.applyAt tokens doc

end PatchOp

def applyOps : List PatchOp → Json → Except PatchError Json
  | [], doc => .ok doc
  | op :: ops, doc => (op.apply doc).bind (applyOps ops)

theorem applyOps_append (ops ops' : List PatchOp) (doc : Json) :
    applyOps (ops ++ ops') doc = (applyOps ops doc).bind (applyOps ops') := by
  induction ops generalizing doc with
  | nil => rfl
  | cons op ops ih =>
    simp only [List.cons_append, applyOps]
    cases op.apply doc with
    | error e => rfl
    | ok doc' => exact ih doc'

theorem applyOps_cons_eq_ok {op : PatchOp} {ops : List PatchOp} {doc doc' : Json}
    (h : applyOps (op :: ops) doc = .ok doc') :
    ∃ doc₁, op.apply doc = .ok doc₁ ∧ applyOps ops doc₁ = .ok doc' := by
  rw [applyOps] at h
  cases happly : op.apply doc with
  | error e =>
    rw [happly] at h
    cases h
  | ok doc₁ =>
    rw [happly] at h
    exact ⟨doc₁, rfl, h⟩

/-! ### Merge patches (RFC 7386) -/

namespace Json

def membersOf : Json → List (String × Json)
  | .obj ms => ms
  | _ => []

mutual
def mergePatch : Json → Json → Json
  | .obj ps, target => .obj (mergeMembers ps (membersOf target))
  | .null, _ => .null
  | .bool b, _ => .bool b
  | .int n, _ => .int n
  | .float q, _ => .float q
  | .str s, _ => .str s
  | .arr xs, _ => .arr xs

def mergeMembers : List (String × Json) → List (String × Json) → List (String × Json)
  | [], ms => ms
  | (k, v) :: ps, ms =>
    if v = .null then mergeMembers ps (eraseMember k ms)
    else mergeMembers ps (setMember k (mergePatch v ((getMember k ms).getD .null)) ms)
end

end Json

/-! ### What a merge patch does to a member -/

namespace Json

theorem getMember_mergeMembers_of_ne {key : String} {ps : List (String × Json)}
    (h : ∀ p ∈ ps, key ≠ p.1) (ms : List (String × Json)) :
    getMember key (mergeMembers ps ms) = getMember key ms := by
  induction ps generalizing ms with
  | nil => rfl
  | cons p ps ih =>
    have hne := h p List.mem_cons_self
    have hrest := fun ms => ih (fun p hp => h p (List.mem_cons_of_mem _ hp)) ms
    unfold mergeMembers
    split
    · rw [hrest, getMember_eraseMember_of_ne hne]
    · rw [hrest, getMember_setMember_of_ne hne]

theorem getMember_mergeMembers {key : String} {v : Json} (hv : v ≠ .null)
    {ps qs : List (String × Json)} (hps : ∀ p ∈ ps, key ≠ p.1) (hqs : ∀ p ∈ qs, key ≠ p.1)
    (ms : List (String × Json)) :
    getMember key (mergeMembers (ps ++ (key, v) :: qs) ms) =
      some (mergePatch v ((getMember key ms).getD .null)) := by
  induction ps generalizing ms with
  | nil =>
    rw [List.nil_append, mergeMembers, if_neg hv, getMember_mergeMembers_of_ne hqs,
      getMember_setMember]
  | cons p ps ih =>
    have hne := hps p List.mem_cons_self
    have hrest := fun ms => ih (fun p hp => hps p (List.mem_cons_of_mem _ hp)) ms
    rw [List.cons_append, mergeMembers]
    split
    · rw [hrest, getMember_eraseMember_of_ne hne]
    · rw [hrest, getMember_setMember_of_ne hne]

theorem getMember_membersOf (key : String) (j : Json) : getMember key (membersOf j) = j.get? key := by
  cases j <;> rfl

theorem get?_mergePatch_of_ne {key : String} {ps : List (String × Json)} (h : ∀ p ∈ ps, key ≠ p.1)
    (j : Json) : (mergePatch (.obj ps) j).get? key = j.get? key := by
  rw [mergePatch, get?, getMember_mergeMembers_of_ne h, getMember_membersOf]

theorem get?_mergePatch {key : String} {v : Json} (hv : v ≠ .null) {ps qs : List (String × Json)}
    (hps : ∀ p ∈ ps, key ≠ p.1) (hqs : ∀ p ∈ qs, key ≠ p.1) (j : Json) :
    (mergePatch (.obj (ps ++ (key, v) :: qs)) j).get? key =
      some (mergePatch v ((j.get? key).getD .null)) := by
  rw [mergePatch, get?, getMember_mergeMembers hv hps hqs, getMember_membersOf]

theorem get?_mergePatch_single {key : String} {v : Json} (hv : v ≠ .null) (j : Json) :
    (mergePatch (.obj [(key, v)]) j).get? key = some (mergePatch v ((j.get? key).getD .null)) := by
  have hnone : ∀ p ∈ ([] : List (String × Json)), key ≠ p.1 := by simp
  exact get?_mergePatch hv hnone hnone j

theorem get?_mergePatch_of_mem {key : String} {v : Json} (hv : v ≠ .null) {ps : List (String × Json)}
    (hps : (ps.map Prod.fst).Nodup) (hmem : (key, v) ∈ ps) (j : Json) :
    (mergePatch (.obj ps) j).get? key = some (mergePatch v ((j.get? key).getD .null)) := by
  obtain ⟨before, after, rfl⟩ := List.append_of_mem hmem
  rw [List.map_append, List.map_cons, List.nodup_append, List.nodup_cons] at hps
  obtain ⟨-, ⟨hafter, -⟩, hbefore⟩ := hps
  apply get?_mergePatch hv
  · intro p hp heq
    exact hbefore p.1 (List.mem_map_of_mem hp) key List.mem_cons_self heq.symm
  · intro p hp heq
    exact hafter (List.mem_map.mpr ⟨p, hp, heq.symm⟩)

/-- Locations of named members that part from every member that the patch writes. -/
inductive Untouched : List String → Json → Prop where
  | absent {key : String} {keys : List String} {ps : List (String × Json)}
      (h : ∀ p ∈ ps, key ≠ p.1) : Untouched (key :: keys) (.obj ps)
  | member {key : String} {keys : List String} {v : Json} {ps qs : List (String × Json)}
      (hps : ∀ p ∈ ps, key ≠ p.1) (hqs : ∀ p ∈ qs, key ≠ p.1) (hv : Untouched keys v) :
      Untouched (key :: keys) (.obj (ps ++ (key, v) :: qs))

theorem Untouched.ne_null {keys : List String} {v : Json} (h : Untouched keys v) : v ≠ .null := by
  cases h <;> simp

theorem Untouched.dig_null {keys : List String} {v : Json} (h : Untouched keys v) :
    dig keys .null = none := by
  cases h <;> rfl

theorem dig_mergePatch_of_untouched {keys : List String} {patch : Json}
    (h : Untouched keys patch) (j : Json) : dig keys (mergePatch patch j) = dig keys j := by
  induction h generalizing j with
  | absent hps => rw [dig_cons, dig_cons, get?_mergePatch_of_ne hps]
  | @member key keys v ps qs hps hqs hv ih =>
    rw [dig_cons, dig_cons, get?_mergePatch hv.ne_null hps hqs, Option.bind_some, ih]
    cases j.get? key with
    | none => exact hv.dig_null
    | some c => rfl

end Json

/-! ### What an operation leaves in place -/

namespace Json

/-- Objects stay objects and arrays stay arrays; other values do not change. -/
def SameKind : Json → Json → Prop
  | .obj _, .obj _ => True
  | .arr _, .arr _ => True
  | x, y => x = y

theorem sameKind_refl (x : Json) : SameKind x x := by
  cases x <;> simp [SameKind]

theorem alterChild_sameKind {t : String} {f : Json → Option Json} {j j' : Json}
    (h : alterChild t f j = some j') : SameKind j j' := by
  cases j <;> simp only [alterChild, Option.map_eq_some_iff, reduceCtorEq] at h
  case arr xs =>
    obtain ⟨ys, _, rfl⟩ := h
    trivial
  case obj ms =>
    obtain ⟨v, _, rfl⟩ := h
    trivial

theorem insertChild_sameKind {t : String} {value j j' : Json}
    (h : insertChild t value j = some j') : SameKind j j' := by
  cases j <;> simp only [insertChild, Option.some.injEq, reduceCtorEq] at h
  case arr xs =>
    split at h
    · rw [Option.some.injEq] at h
      subst h
      trivial
    · obtain ⟨ys, _, rfl⟩ := Option.map_eq_some_iff.mp h
      trivial
  case obj ms =>
    subst h
    trivial

theorem alterAt_sameKind {rs : List String} {f : Json → Option Json}
    (hf : ∀ x y, f x = some y → SameKind x y) {j j' : Json} (h : alterAt rs f j = some j') :
    SameKind j j' := by
  cases rs with
  | nil => exact hf j j' h
  | cons r rs => exact alterChild_sameKind h

/-- Where nothing is shifted: at the end of an array, or on an object. -/
def InsertsAtEnd (t : String) (j : Json) : Prop := t = "-" ∨ ∃ ms, j = .obj ms

theorem child_insertChild_of_ne {t u : String} (hne : u ≠ t) {value j j' c : Json}
    (hend : InsertsAtEnd t j) (h : insertChild t value j = some j') (hc : child u j = some c) :
    child u j' = some c := by
  cases j <;> simp only [insertChild, Option.some.injEq, reduceCtorEq] at h
  case arr xs =>
    rcases hend with rfl | ⟨ms, hms⟩
    · rw [if_pos rfl, Option.some.injEq] at h
      subst h
      exact elemAt_append hc _
    · exact absurd hms (by simp)
  case obj ms =>
    subst h
    exact (getMember_setMember_of_ne hne value ms).trans hc

/-- An addition that shifts nothing keeps every location it does not write over, and changes
the values above it in kind only. -/
theorem getAt_addAt {ps qs : List String} {t : String} {value doc doc' j x : Json}
    (h : addAt (ps ++ [t]) value doc = some doc') (hj : getAt ps doc = some j)
    (hend : InsertsAtEnd t j) (hfree : ¬ ps ++ [t] <+: qs) (hx : getAt qs doc = some x) :
    ∃ y, getAt qs doc' = some y ∧ SameKind x y ∧ (¬ qs <+: ps → y = x) := by
  rw [addAt_snoc] at h
  by_cases hqp : qs <+: ps
  · obtain ⟨rs, rfl⟩ := hqp
    obtain ⟨x', y, hx', hy, hread⟩ := getAt_above h
    obtain rfl : x' = x := by simpa [hx] using hx'.symm
    refine ⟨y, hread, ?_, fun hn => absurd (List.prefix_append qs rs) hn⟩
    exact alterAt_sameKind (fun _ _ => insertChild_sameKind) hy
  by_cases hpq : ps <+: qs
  · obtain ⟨rs, rfl⟩ := hpq
    obtain ⟨j₀, j', hj₀, hinsert, hread⟩ := exists_of_alterAt h
    obtain rfl : j₀ = j := by simpa [hj] using hj₀.symm
    refine ⟨x, ?_, sameKind_refl x, fun _ => rfl⟩
    rw [getAt_append, hj, Option.bind_some] at hx
    rw [getAt_append, hread, Option.bind_some]
    cases rs with
    | nil => exact absurd (by simp) hqp
    | cons u us =>
      have hne : u ≠ t := by
        rintro rfl
        exact hfree ⟨us, by simp⟩
      rw [getAt_cons, Option.bind_eq_some_iff] at hx
      obtain ⟨c, hc, hx⟩ := hx
      rw [getAt_cons, child_insertChild_of_ne hne hend hinsert hc, Option.bind_some, hx]
  · refine ⟨x, ?_, sameKind_refl x, fun _ => rfl⟩
    rw [getAt_alterAt_of_separate hpq hqp h, hx]

/-- A replacement keeps every location that it does not write over. -/
theorem getAt_replaceAt {ps qs : List String} {t : String} {value doc doc' x : Json}
    (h : replaceAt (ps ++ [t]) value doc = some doc') (hfree : ¬ ps ++ [t] <+: qs)
    (hx : getAt qs doc = some x) :
    ∃ y, getAt qs doc' = some y ∧ SameKind x y ∧ (¬ qs <+: ps → y = x) := by
  by_cases hqp : qs <+: ps
  · obtain ⟨rs, rfl⟩ := hqp
    rw [replaceAt, List.append_assoc] at h
    obtain ⟨x', y, hx', hy, hread⟩ := getAt_above h
    obtain rfl : x' = x := by simpa [hx] using hx'.symm
    refine ⟨y, hread, ?_, fun hn => absurd (List.prefix_append qs rs) hn⟩
    cases rs <;> exact alterChild_sameKind hy
  · refine ⟨x, ?_, sameKind_refl x, fun _ => rfl⟩
    have hsep : ¬ qs <+: ps ++ [t] := by
      intro hp
      rcases List.prefix_concat_iff.mp hp with rfl | hp
      · exact hfree List.prefix_rfl
      · exact hqp hp
    rw [getAt_alterAt_of_separate hfree hsep h, hx]

theorem addAt_end_eq_some {ps : List String} {doc : Json} {xs : List Json}
    (h : getAt ps doc = some (.arr xs)) (value : Json) :
    ∃ doc', addAt (ps ++ ["-"]) value doc = some doc' ∧
      getAt ps doc' = some (.arr (xs ++ [value])) := by
  have hinsert : insertChild "-" value (.arr xs) = some (.arr (xs ++ [value])) := by
    simp [insertChild]
  obtain ⟨doc', hdoc'⟩ := alterAt_eq_some h hinsert
  refine ⟨doc', by rw [addAt_snoc, hdoc'], ?_⟩
  obtain ⟨x, y, hx, hy, hread⟩ := exists_of_alterAt hdoc'
  obtain rfl : x = .arr xs := by simpa [h] using hx.symm
  rw [hread, ← hy, hinsert]

theorem replaceAt_eq_some {ps : List String} {doc x : Json} (h : getAt ps doc = some x)
    (value : Json) :
    ∃ doc', replaceAt ps value doc = some doc' ∧ getAt ps doc' = some value := by
  obtain ⟨doc', hdoc'⟩ := alterAt_eq_some (f := fun _ => some value) h rfl
  obtain ⟨_, y, _, hy, hread⟩ := exists_of_alterAt hdoc'
  exact ⟨doc', hdoc', hread.trans hy.symm⟩

theorem addAt_member_eq_some {ps : List String} {doc : Json} {ms : List (String × Json)}
    (h : getAt ps doc = some (.obj ms)) (t : String) (value : Json) :
    ∃ doc', addAt (ps ++ [t]) value doc = some doc' := by
  have hinsert : insertChild t value (.obj ms) = some (.obj (setMember t value ms)) := rfl
  obtain ⟨doc', hdoc'⟩ := alterAt_eq_some h hinsert
  exact ⟨doc', by rw [addAt_snoc, hdoc']⟩

/-! ### Reading after an operation -/

theorem replaceAt_of_apply {path : String} {tokens : List String} {value doc doc' : Json}
    (hpath : JsonPointer.parse path = some tokens)
    (h : (PatchOp.replace path value).apply doc = .ok doc') :
    replaceAt tokens value doc = some doc' := by
  simp only [PatchOp.apply, PatchOp.path, hpath, PatchOp.applyAt] at h
  cases hreplace : replaceAt tokens value doc with
  | none => simp [hreplace] at h
  | some doc₁ => simpa [hreplace] using h

theorem removeAt_of_apply {path : String} {tokens : List String} {doc doc' : Json}
    (hpath : JsonPointer.parse path = some tokens)
    (h : (PatchOp.remove path).apply doc = .ok doc') : removeAt tokens doc = some doc' := by
  simp only [PatchOp.apply, PatchOp.path, hpath, PatchOp.applyAt] at h
  cases hremove : removeAt tokens doc with
  | none => simp [hremove] at h
  | some doc₁ => simpa [hremove] using h

theorem getAt_of_replaceAt {tokens : List String} {value doc doc' : Json}
    (h : replaceAt tokens value doc = some doc') : getAt tokens doc' = some value := by
  obtain ⟨x, y, _, hy, hread⟩ := exists_of_alterAt h
  rw [hread, ← hy]

theorem getAt_of_removeAt {ps : List String} {t : String} (ht : Named t) {doc doc' : Json}
    (h : removeAt (ps ++ [t]) doc = some doc') : getAt (ps ++ [t]) doc' = none := by
  rw [removeAt_snoc] at h
  obtain ⟨x, y, _, hy, hread⟩ := exists_of_alterAt h
  rw [getAt_append, hread, Option.bind_some, getAt_cons]
  suffices hchild : child t y = none by rw [hchild, Option.bind_none]
  rw [child_of_named ht]
  cases x <;> simp only [eraseChild, Option.map_eq_some_iff, reduceCtorEq] at hy
  case arr xs =>
    obtain ⟨ys, -, rfl⟩ := hy
    rfl
  case obj ms =>
    obtain ⟨v, -, rfl⟩ := hy
    exact getMember_eraseMember t _

theorem getAt_removeAt_sibling {ps : List String} {t u : String} (hu : Named u) (hne : u ≠ t)
    {doc doc' : Json} (h : removeAt (ps ++ [t]) doc = some doc') :
    getAt (ps ++ [u]) doc' = getAt (ps ++ [u]) doc := by
  rw [removeAt_snoc] at h
  obtain ⟨x, y, hx, hy, hread⟩ := exists_of_alterAt h
  rw [getAt_append, getAt_append, hread, hx, Option.bind_some, Option.bind_some, getAt_cons,
    getAt_cons]
  suffices hchild : child u y = child u x by rw [hchild]
  rw [child_of_named hu, child_of_named hu]
  cases x <;> simp only [eraseChild, Option.map_eq_some_iff, reduceCtorEq] at hy
  case arr xs =>
    obtain ⟨ys, -, rfl⟩ := hy
    rfl
  case obj ms =>
    obtain ⟨v, -, rfl⟩ := hy
    exact getMember_eraseMember_of_ne hne _

theorem getAt_removeAt_of_separate {ps qs : List String} {t : String} (hpq : ¬ ps <+: qs)
    (hqp : ¬ qs <+: ps) {doc doc' : Json} (h : removeAt (ps ++ [t]) doc = some doc') :
    getAt qs doc' = getAt qs doc := by
  rw [removeAt_snoc] at h
  exact getAt_alterAt_of_separate hpq hqp h

end Json

end RenkuNotebooks
