import RenkuNotebooks.Notebooks.UserServer

/-!
# The resource document of a session

Amalthea applies the patches of a session to one document with its statefulset and service. Seen
from outside, the patches do no more than fill the list of init containers: `Simulates` relates
a list of operations to what it does to that list, and every other place that the builders
address is an anchor that no operation takes away.
-/

namespace RenkuNotebooks.Notebooks

open Json

inductive Kind where
  | object
  | array
  | text (s : String)
  | anything
  deriving DecidableEq

def Kind.Fits : Kind → Json → Prop
  | .object, j => ∃ ms, j = .obj ms
  | .array, j => ∃ xs, j = .arr xs
  | .text s, j => j = .str s
  | .anything, _ => True

theorem Kind.fits_of_sameKind {k : Kind} {x y : Json} (hx : k.Fits x) (h : SameKind x y) :
    k.Fits y := by
  cases k with
  | object =>
    obtain ⟨ms, rfl⟩ := hx
    cases y <;> simp [SameKind, Kind.Fits] at h ⊢
  | array =>
    obtain ⟨xs, rfl⟩ := hx
    cases y <;> simp [SameKind, Kind.Fits] at h ⊢
  | text s =>
    subst hx
    exact h.symm
  | anything => trivial

/-- `/statefulset/spec/template/spec` -/
def podSpec : List String := ["statefulset", "spec", "template", "spec"]

def initContainersLoc : List String := podSpec ++ ["initContainers"]

/-- The places that Amalthea provides: the containers `jupyter-server` and `oauth2-proxy` with
their lists, the proxy with at least seven arguments, the lists of volumes and pull secrets, and
the ports of the service. -/
def anchors : List (List String × Kind) := [
  ([], .object),
  (podSpec, .object),
  (podSpec ++ ["containers"], .array),
  (podSpec ++ ["containers", "0"], .object),
  (podSpec ++ ["containers", "0", "name"], .text "jupyter-server"),
  (podSpec ++ ["containers", "0", "env"], .array),
  (podSpec ++ ["containers", "0", "volumeMounts"], .array),
  (podSpec ++ ["containers", "1", "name"], .text "oauth2-proxy"),
  (podSpec ++ ["containers", "1", "env"], .array),
  (podSpec ++ ["containers", "1", "volumeMounts"], .array),
  (podSpec ++ ["containers", "1", "args"], .array),
  (podSpec ++ ["containers", "1", "args", "6"], .anything),
  (podSpec ++ ["volumes"], .array),
  (podSpec ++ ["imagePullSecrets"], .array),
  (["service", "spec", "ports"], .array)]

/-- A document with all anchors in place and these init containers. -/
structure SessionShape (doc : Json) (inits : List Json) : Prop where
  anchored : ∀ a ∈ anchors, ∃ x, getAt a.1 doc = some x ∧ a.2.Fits x
  initContainers : getAt initContainersLoc doc = some (.arr inits)

/-- The operations succeed exactly when `f` does, and then change the init containers as it
does. -/
def Simulates (ops : List PatchOp) (f : List Json → Option (List Json)) : Prop :=
  ∀ doc inits, SessionShape doc inits →
    (∀ inits', f inits = some inits' →
      ∃ doc', applyOps ops doc = .ok doc' ∧ SessionShape doc' inits') ∧
    (f inits = none → ∃ path, applyOps ops doc = .error (.missingLocation path))

theorem simulates_nil : Simulates [] some := by
  intro doc inits hshape
  refine ⟨?_, fun h => absurd h (by simp)⟩
  intro inits' h
  rw [Option.some.injEq] at h
  subst h
  exact ⟨doc, rfl, hshape⟩

theorem Simulates.append {ops ops' : List PatchOp} {f g : List Json → Option (List Json)}
    (hf : Simulates ops f) (hg : Simulates ops' g) :
    Simulates (ops ++ ops') fun inits => (f inits).bind g := by
  intro doc inits hshape
  rw [applyOps_append]
  constructor
  · intro inits' h
    obtain ⟨mid, hmid, h⟩ := Option.bind_eq_some_iff.mp h
    obtain ⟨doc', hops, hshape'⟩ := (hf doc inits hshape).1 mid hmid
    rw [hops]
    exact (hg doc' mid hshape').1 inits' h
  · intro h
    cases hmid : f inits with
    | none =>
      obtain ⟨path, hops⟩ := (hf doc inits hshape).2 hmid
      exact ⟨path, by rw [hops]; rfl⟩
    | some mid =>
      simp only [hmid, Option.bind_some] at h
      obtain ⟨doc', hops, hshape'⟩ := (hf doc inits hshape).1 mid hmid
      rw [hops]
      exact (hg doc' mid hshape').2 h

theorem applyOps_singleton (op : PatchOp) (doc : Json) : applyOps [op] doc = op.apply doc := by
  simp only [applyOps]
  cases op.apply doc <;> rfl

theorem simulates_of_ok {op : PatchOp} {f : List Json → List Json}
    (h : ∀ doc inits, SessionShape doc inits →
      ∃ doc', op.apply doc = .ok doc' ∧ SessionShape doc' (f inits)) :
    Simulates [op] fun inits => some (f inits) := by
  intro doc inits hshape
  refine ⟨?_, fun hnone => absurd hnone (by simp)⟩
  intro inits' hinits
  rw [Option.some.injEq] at hinits
  subst hinits
  rw [applyOps_singleton]
  exact h doc inits hshape

/-! ### Operations that leave the init containers alone -/

/-- `add` at the end of an anchored list, or of a member of an anchored object that lies above
no anchor. -/
def harmlessAdd (tokens : List String) : Bool :=
  ((tokens.getLast? = some "-" ∧ (tokens.dropLast, Kind.array) ∈ anchors) ∨
    (tokens.dropLast, Kind.object) ∈ anchors) ∧
  tokens ≠ [] ∧ ¬ initContainersLoc <+: tokens.dropLast ∧
  ∀ q ∈ initContainersLoc :: anchors.map Prod.fst, ¬ tokens <+: q

/-- `/statefulset/spec/template/spec/containers/1/args/6` -/
def upstreamArgLoc : List String := podSpec ++ ["containers", "1", "args", "6"]

inductive Harmless : PatchOp → Prop
  | add {path : String} {tokens : List String} (value : Json)
      (hparse : JsonPointer.parse path = some tokens) (h : harmlessAdd tokens = true) :
      Harmless (.add path value)
  | replace {path : String} (value : Json)
      (hparse : JsonPointer.parse path = some upstreamArgLoc) :
      Harmless (.replace path value)
  | test {path : String} {tokens : List String} {name : String}
      (hparse : JsonPointer.parse path = some tokens) (h : (tokens, Kind.text name) ∈ anchors) :
      Harmless (.test path (.str name))

def containersLoc : List String := podSpec ++ ["containers"]

/-- Harmless, and no container is added. -/
def Steady (op : PatchOp) : Prop :=
  Harmless op ∧ JsonPointer.parse op.path ≠ some (containersLoc ++ ["-"])

/-- A change under which every anchor still reads as a value of its kind. -/
theorem SessionShape.of_frame {doc doc' : Json} {inits inits' : List Json}
    (h : SessionShape doc inits)
    (hframe : ∀ a ∈ anchors, ∀ x, getAt a.1 doc = some x →
      ∃ y, getAt a.1 doc' = some y ∧ (SameKind x y ∨ a.2 = .anything))
    (hinits : getAt initContainersLoc doc' = some (.arr inits')) : SessionShape doc' inits' := by
  refine ⟨?_, hinits⟩
  intro a ha
  obtain ⟨x, hx, hfits⟩ := h.anchored a ha
  obtain ⟨y, hy, hkind | hany⟩ := hframe a ha x hx
  · exact ⟨y, hy, Kind.fits_of_sameKind hfits hkind⟩
  · exact ⟨y, hy, by rw [hany]; trivial⟩

theorem apply_add_of_parse {path : String} {tokens : List String} {value doc doc' : Json}
    (hparse : JsonPointer.parse path = some tokens) (h : addAt tokens value doc = some doc') :
    (PatchOp.add path value).apply doc = .ok doc' := by
  simp only [PatchOp.apply, PatchOp.path, hparse, PatchOp.applyAt, h]
  rfl

/-- An addition shifts nothing. -/
theorem SessionShape.insertsAtEnd {doc : Json} {inits : List Json} (hshape : SessionShape doc inits)
    {ps : List String} {t : String} (h : harmlessAdd (ps ++ [t]) = true) :
    ∃ j, getAt ps doc = some j ∧ InsertsAtEnd t j ∧
      ∀ value, ∃ doc', addAt (ps ++ [t]) value doc = some doc' := by
  simp only [harmlessAdd, decide_eq_true_eq, List.dropLast_concat, List.getLast?_concat,
    Option.some.injEq] at h
  rcases h.1 with ⟨rfl, harray⟩ | hobject
  · obtain ⟨j, hj, xs, rfl⟩ := hshape.anchored _ harray
    refine ⟨_, hj, Or.inl rfl, ?_⟩
    intro value
    obtain ⟨doc', hdoc', _⟩ := addAt_end_eq_some hj value
    exact ⟨doc', hdoc'⟩
  · obtain ⟨j, hj, ms, rfl⟩ := hshape.anchored _ hobject
    exact ⟨_, hj, Or.inr ⟨ms, rfl⟩, addAt_member_eq_some hj t⟩

theorem SessionShape.add {doc : Json} {inits : List Json} (hshape : SessionShape doc inits)
    {tokens : List String} (value : Json) (h : harmlessAdd tokens = true) :
    ∃ doc', addAt tokens value doc = some doc' ∧ SessionShape doc' inits := by
  have hparts := h
  simp only [harmlessAdd, decide_eq_true_eq] at hparts
  obtain ⟨_, hne, habove, hfree⟩ := hparts
  obtain ⟨ps, t, rfl⟩ : ∃ ps t, tokens = ps ++ [t] :=
    ⟨tokens.dropLast, tokens.getLast hne, (List.dropLast_append_getLast hne).symm⟩
  rw [List.dropLast_concat] at habove
  obtain ⟨j, hj, hend, hadd⟩ := hshape.insertsAtEnd h
  obtain ⟨doc', hdoc'⟩ := hadd value
  refine ⟨doc', hdoc', hshape.of_frame ?_ ?_⟩
  · intro a ha x hx
    have hfreea := hfree a.1 (List.mem_cons_of_mem _ (List.mem_map_of_mem ha))
    obtain ⟨y, hy, hkind, _⟩ := getAt_addAt hdoc' hj hend hfreea hx
    exact ⟨y, hy, Or.inl hkind⟩
  · have hfreei := hfree initContainersLoc (by simp)
    obtain ⟨y, hy, _, heq⟩ := getAt_addAt hdoc' hj hend hfreei hshape.initContainers
    rw [hy, heq habove]

theorem SessionShape.replaceArg {doc : Json} {inits : List Json} (hshape : SessionShape doc inits)
    (value : Json) :
    ∃ doc', replaceAt upstreamArgLoc value doc = some doc' ∧ SessionShape doc' inits := by
  obtain ⟨x, hx, _⟩ := hshape.anchored (upstreamArgLoc, .anything) (by decide)
  obtain ⟨doc', hdoc', hread⟩ := replaceAt_eq_some hx value
  have hreplace : replaceAt (podSpec ++ ["containers", "1", "args"] ++ ["6"]) value doc =
      some doc' := hdoc'
  refine ⟨doc', hdoc', hshape.of_frame ?_ ?_⟩
  · intro a ha z hz
    by_cases hbelow : upstreamArgLoc <+: a.1
    · have hthere : ∀ a ∈ anchors, upstreamArgLoc <+: a.1 → a = (upstreamArgLoc, .anything) := by
        decide
      rw [hthere a ha hbelow]
      exact ⟨value, hread, Or.inr rfl⟩
    · obtain ⟨y, hy, hkind, _⟩ := getAt_replaceAt hreplace hbelow hz
      exact ⟨y, hy, Or.inl hkind⟩
  · obtain ⟨y, hy, _, heq⟩ := getAt_replaceAt hreplace (by decide) hshape.initContainers
    rw [hy, heq (by decide)]

theorem Harmless.simulates {op : PatchOp} (hop : Harmless op) : Simulates [op] some := by
  apply simulates_of_ok
  intro doc inits hshape
  cases hop with
  | @add path tokens value hparse h =>
    obtain ⟨doc', hdoc', hshape'⟩ := hshape.add value h
    exact ⟨doc', apply_add_of_parse hparse hdoc', hshape'⟩
  | @replace path value hparse =>
    obtain ⟨doc', hdoc', hshape'⟩ := hshape.replaceArg value
    refine ⟨doc', ?_, hshape'⟩
    simp only [PatchOp.apply, PatchOp.path, hparse, PatchOp.applyAt, hdoc']
    rfl
  | @test path tokens name hparse h =>
    obtain ⟨x, hx, rfl⟩ := hshape.anchored _ h
    refine ⟨doc, ?_, hshape⟩
    simp only [PatchOp.apply, PatchOp.path, hparse, PatchOp.applyAt, hx, if_true]

theorem simulates_of_harmless {ops : List PatchOp} (h : ∀ op ∈ ops, Harmless op) :
    Simulates ops some := by
  induction ops with
  | nil => exact simulates_nil
  | cons op ops ih =>
    have hop := (h op (by simp)).simulates
    have hops := ih fun o ho => h o (by simp [ho])
    exact hop.append hops

/-! ### Operations on the init containers -/

theorem simulates_addInitContainer (container : Json) :
    Simulates [.add "/statefulset/spec/template/spec/initContainers/-" container]
      fun inits => some (inits ++ [container]) := by
  have hparse : JsonPointer.parse "/statefulset/spec/template/spec/initContainers/-" =
      some (initContainersLoc ++ ["-"]) := by decide
  have hfree : ∀ a ∈ anchors, ¬ initContainersLoc ++ ["-"] <+: a.1 := by decide
  apply simulates_of_ok
  intro doc inits hshape
  obtain ⟨doc', hdoc', hread⟩ := addAt_end_eq_some hshape.initContainers container
  refine ⟨doc', apply_add_of_parse hparse hdoc', hshape.of_frame ?_ hread⟩
  intro a ha x hx
  obtain ⟨y, hy, hkind, _⟩ :=
    getAt_addAt hdoc' hshape.initContainers (Or.inl rfl) (hfree a ha) hx
  exact ⟨y, hy, Or.inl hkind⟩

/-- Adding a variable to the third init container, if there is one with a list of variables. -/
def addEnvToThird (variable_ : Json) : List Json → Option (List Json) :=
  alterElem "2" (alterAt ["env"] (insertChild "-" variable_)) 0

theorem simulates_addEnvToThird (variable_ : Json) :
    Simulates [.add "/statefulset/spec/template/spec/initContainers/2/env/-" variable_]
      (addEnvToThird variable_) := by
  let envLoc := initContainersLoc ++ ["2", "env"]
  have hparse : JsonPointer.parse "/statefulset/spec/template/spec/initContainers/2/env/-" =
      some (envLoc ++ ["-"]) := by decide
  have hfree : ∀ a ∈ anchors, ¬ envLoc ++ ["-"] <+: a.1 := by decide
  have halter : addAt (envLoc ++ ["-"]) variable_ =
      alterAt initContainersLoc (alterAt ["2", "env"] (insertChild "-" variable_)) := by
    rw [addAt_snoc, alterAt_append]
  have hthird : ∀ inits, alterAt ["2", "env"] (insertChild "-" variable_) (.arr inits) =
      (addEnvToThird variable_ inits).map .arr := fun _ => rfl
  intro doc inits hshape
  rw [applyOps_singleton]
  constructor
  · intro inits' h
    have hlist := hthird inits
    rw [h, Option.map_some] at hlist
    obtain ⟨doc', hdoc'⟩ := alterAt_eq_some hshape.initContainers hlist
    obtain ⟨x, y, hx, hy, hread⟩ := exists_of_alterAt hdoc'
    obtain rfl : x = .arr inits := by simpa [hshape.initContainers] using hx.symm
    rw [← halter] at hdoc'
    have hinner := hdoc'
    rw [addAt_snoc] at hinner
    obtain ⟨j, _, hj, _⟩ := exists_of_alterAt hinner
    refine ⟨doc', apply_add_of_parse hparse hdoc', hshape.of_frame ?_ ?_⟩
    · intro a ha z hz
      obtain ⟨w, hw, hkind, _⟩ := getAt_addAt hdoc' hj (Or.inl rfl) (hfree a ha) hz
      exact ⟨w, hw, Or.inl hkind⟩
    · rw [hread, ← hy, hlist]
  · intro h
    have hnone : addAt (envLoc ++ ["-"]) variable_ doc = none := by
      rw [halter, Option.eq_none_iff_forall_ne_some]
      intro doc' hdoc'
      obtain ⟨x, y, hx, hy, _⟩ := exists_of_alterAt hdoc'
      obtain rfl : x = .arr inits := by simpa [hshape.initContainers] using hx.symm
      rw [hthird, h] at hy
      exact absurd hy (by simp)
    refine ⟨"/statefulset/spec/template/spec/initContainers/2/env/-", ?_⟩
    simp only [PatchOp.apply, PatchOp.path, hparse, PatchOp.applyAt, hnone]
    rfl

end RenkuNotebooks.Notebooks
