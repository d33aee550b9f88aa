import Mathlib
import RenkuNotebooks.Foundation.Improvement
import RenkuNotebooks.Notebooks.ResourceClasses

/-!
# The class found for old-style server options

`find_acceptable_class` is a search by strict improvements. It finds a class whenever one fits, and
the class it finds is a closest fit in every order of the answer where no class is smaller than
another one in some sizes only.
-/

namespace RenkuNotebooks.Notebooks

namespace ServerOptions

/-- What options are compared by, in the order of products. -/
def sizes (o : ServerOptions) : ℚ × ℤ × ℤ × ℤ := (o.cpu, o.memory, o.gpu, o.storage)

/-- Smaller in every size, where processors are compared by their differences to the request. -/
def Below (requested o other : ServerOptions) : Prop :=
  Double.sub o.cpu requested.cpu < Double.sub other.cpu requested.cpu ∧ o.memory < other.memory ∧
    o.gpu < other.gpu ∧ o.storage < other.storage

instance (requested : ServerOptions) : DecidableRel (Below requested) :=
  fun _ _ => inferInstanceAs (Decidable (_ ∧ _))

theorem sizes_le_iff {o other : ServerOptions} : o.sizes ≤ other.sizes ↔
    o.cpu ≤ other.cpu ∧ o.memory ≤ other.memory ∧ o.gpu ≤ other.gpu ∧
      o.storage ≤ other.storage := by
  simp only [sizes, Prod.mk_le_mk]

section

variable {requested o p q : ServerOptions}

theorem Below.trans (h : Below requested o p) (h' : Below requested p q) : Below requested o q :=
  ⟨h.1.trans h'.1, h.2.1.trans h'.2.1, h.2.2.1.trans h'.2.2.1, h.2.2.2.trans h'.2.2.2⟩

theorem Below.irrefl (o : ServerOptions) : ¬ Below requested o o := fun h => lt_irrefl _ h.1

theorem sub_ge_zero {url url' : String} :
    (o.sub url requested).ge (make url' 0 0 0 0) = true ↔ requested.sizes ≤ o.sizes := by
  rw [sizes_le_iff]
  simp [ge, compare, sub, make, and_assoc, Double.sub_nonneg_iff]

theorem sub_lt_sub {url url' : String} :
    (o.sub url requested).lt (p.sub url' requested) = true ↔ Below requested o p := by
  simp only [lt, compare, Bool.and_eq_true, decide_eq_true_eq, and_assoc]
  simp only [sub, make, Below, sub_lt_sub_iff_right]

end

end ServerOptions

namespace ClosestFit

open CRCValidator

/-- A class of the answer, with the pool it belongs to. -/
abbrev Candidate := ResourcePool × ResourceClass

def candidates (pools : List ResourcePool) : List Candidate :=
  pools.flatMap fun pool => pool.classes.map (pool, ·)

theorem mem_candidates {pools : List ResourcePool} {a : Candidate} :
    a ∈ candidates pools ↔ a.1 ∈ pools ∧ a.2 ∈ a.1.classes := by
  obtain ⟨pool, c⟩ := a
  simp only [candidates, List.mem_flatMap, List.mem_map, Prod.mk.injEq]
  constructor
  · rintro ⟨pool', hpool, c', hc, rfl, rfl⟩
    exact ⟨hpool, hc⟩
  · rintro ⟨hpool, hc⟩
    exact ⟨pool, hpool, c, hc, rfl, rfl⟩

variable (defaultUrl : String) (requested : ServerOptions)

/-- The options of a class with the priority class of its pool. -/
def options (a : Candidate) : ServerOptions :=
  { ServerOptions.fromResourceClass defaultUrl a.2 with priorityClass := a.1.quota.id }

/-- Marked as matching and at least as large as the request. -/
def Acceptable (a : Candidate) : Prop :=
  a.2.matching = true ∧ requested.sizes ≤ (options defaultUrl a).sizes

instance : DecidablePred (Acceptable defaultUrl requested) :=
  fun _ => inferInstanceAs (Decidable (_ ∧ _))

def Below (a b : Candidate) : Prop :=
  ServerOptions.Below requested (options defaultUrl a) (options defaultUrl b)

instance : DecidableRel (Below defaultUrl requested) := fun _ _ => inferInstanceAs (Decidable
  (ServerOptions.Below _ _ _))

instance : IsTrans Candidate (Below defaultUrl requested) :=
  ⟨fun _ _ _ => ServerOptions.Below.trans⟩

instance : Std.Irrefl (Below defaultUrl requested) := ⟨fun _ => ServerOptions.Below.irrefl _⟩

/-! ### The loops as a search -/

def toBest (a : Candidate) : Best where
  diff := (options defaultUrl a).sub defaultUrl requested
  cls := options defaultUrl a

theorem withQuota_fromResourceClass (pool : ResourcePool) (c : ResourceClass) :
    (ServerOptions.fromResourceClass defaultUrl c).withQuota pool.quota =
      options defaultUrl (pool, c) := by
  unfold options
  cases pool.quota with
  | missing => rfl
  | object id => rfl
  | other value => rfl

theorem considerClass_eq (pool : ResourcePool) (best : Option Candidate) (c : ResourceClass) :
    considerClass defaultUrl requested pool.quota (best.map (toBest defaultUrl requested)) c =
      (Improvement.improve (Below defaultUrl requested) (Acceptable defaultUrl requested) best
        (pool, c)).map (toBest defaultUrl requested) := by
  have hdiff : ((options defaultUrl (pool, c)).sub defaultUrl requested).ge
        (ServerOptions.make defaultUrl 0 0 0 0) &&
      (best.map (toBest defaultUrl requested)).all
        (fun b => ((options defaultUrl (pool, c)).sub defaultUrl requested).lt b.diff) &&
      c.matching ↔
      Acceptable defaultUrl requested (pool, c) ∧ ∀ b ∈ best, Below defaultUrl requested (pool, c) b := by
    have hlt : (best.map (toBest defaultUrl requested)).all
          (fun b => ((options defaultUrl (pool, c)).sub defaultUrl requested).lt b.diff) = true ↔
        ∀ b ∈ best, Below defaultUrl requested (pool, c) b := by
      rw [Option.all_map, Option.all_eq_true]
      apply forall₂_congr
      intro b _
      exact ServerOptions.sub_lt_sub
    rw [Bool.and_eq_true, Bool.and_eq_true, ServerOptions.sub_ge_zero, hlt]
    unfold Acceptable
    tauto
  unfold considerClass
  dsimp only
  rw [withQuota_fromResourceClass]
  by_cases h : Acceptable defaultUrl requested (pool, c) ∧
      ∀ b ∈ best, Below defaultUrl requested (pool, c) b
  · rw [if_pos (hdiff.mpr h), Improvement.improve_of_improves h.1 h.2]
    rfl
  · rw [if_neg fun hcode => h (hdiff.mp hcode), Improvement.improve, if_neg h]

theorem bestClass_eq (pools : List ResourcePool) :
    bestClass defaultUrl requested pools =
      (Improvement.search (Below defaultUrl requested) (Acceptable defaultUrl requested)
        (candidates pools)).map (options defaultUrl) := by
  have hclasses : ∀ (pool : ResourcePool) (classes : List ResourceClass)
      (best : Option Candidate),
      classes.foldl (considerClass defaultUrl requested pool.quota)
          (best.map (toBest defaultUrl requested)) =
        ((classes.map (pool, ·)).foldl (Improvement.improve (Below defaultUrl requested)
          (Acceptable defaultUrl requested)) best).map (toBest defaultUrl requested) := by
    intro pool classes
    induction classes with
    | nil => exact fun best => rfl
    | cons c classes ih =>
      intro best
      rw [List.foldl_cons, considerClass_eq, ih]
      rfl
  have hpools : ∀ (pools : List ResourcePool) (best : Option Candidate),
      pools.foldl (fun best pool =>
          pool.classes.foldl (considerClass defaultUrl requested pool.quota) best)
          (best.map (toBest defaultUrl requested)) =
        ((candidates pools).foldl (Improvement.improve (Below defaultUrl requested)
          (Acceptable defaultUrl requested)) best).map (toBest defaultUrl requested) := by
    intro pools
    induction pools with
    | nil => exact fun best => rfl
    | cons pool pools ih =>
      intro best
      rw [List.foldl_cons, hclasses, ih]
      unfold candidates
      rw [List.flatMap_cons, List.foldl_append]
  have hall := hpools pools none
  unfold bestClass
  rw [Option.map_none] at hall
  dsimp only
  rw [hall, Option.map_map]
  rfl

/-- The service that answers every request with these pools. -/
def answering (pools : List ResourcePool) : ResourceService := fun _ => (200, pools)

theorem findAcceptableClass_eq (pools : List ResourcePool) (user : User) :
    findAcceptableClass (answering pools) defaultUrl requested user =
      .ok ((Improvement.search (Below defaultUrl requested) (Acceptable defaultUrl requested)
        (candidates pools)).map (options defaultUrl)) := by
  rw [← bestClass_eq]
  rfl

/-- No class is found exactly when none is acceptable, and the options found are those of an
acceptable class with the priority class of its pool. -/
theorem findAcceptableClass_spec (pools : List ResourcePool) (user : User) :
    (findAcceptableClass (answering pools) defaultUrl requested user = .ok none ↔
      ∀ pool ∈ pools, ∀ c ∈ pool.classes, c.matching = true →
        ¬ requested.sizes ≤ (ServerOptions.fromResourceClass defaultUrl c).sizes) ∧
    (findAcceptableClass (answering pools) defaultUrl requested user ≠ .ok none →
      ∃ pool ∈ pools, ∃ c ∈ pool.classes, c.matching = true ∧
        requested.sizes ≤ (ServerOptions.fromResourceClass defaultUrl c).sizes ∧
        findAcceptableClass (answering pools) defaultUrl requested user =
          .ok (some { ServerOptions.fromResourceClass defaultUrl c with
            priorityClass := pool.quota.id })) := by
  have hfound : Improvement.Found (Below defaultUrl requested) (Acceptable defaultUrl requested) _ _ :=
    Improvement.found_search (candidates pools)
  rw [findAcceptableClass_eq]
  constructor
  · rw [Except.ok.injEq, Option.map_eq_none_iff, hfound.none_iff]
    constructor
    · intro hnone pool hpool c hc hmatching hfits
      exact hnone (pool, c) (mem_candidates.mpr ⟨hpool, hc⟩) ⟨hmatching, hfits⟩
    · intro hnone a ha haccepts
      obtain ⟨hpool, hc⟩ := mem_candidates.mp ha
      exact hnone a.1 hpool a.2 hc haccepts.1 haccepts.2
  · intro hsome
    obtain ⟨a, ha⟩ : ∃ a, Improvement.search (Below defaultUrl requested) (Acceptable defaultUrl requested)
        (candidates pools) = some a := by
      apply Option.ne_none_iff_exists'.mp
      intro hnone
      apply hsome
      rw [hnone]
      rfl
    obtain ⟨hmem, hmatching, hfits⟩ := hfound.mem a ha
    obtain ⟨hpool, hc⟩ := mem_candidates.mp hmem
    refine ⟨a.1, hpool, a.2, hc, hmatching, hfits, ?_⟩
    rw [ha]
    rfl

/-! ### Closest fits -/

/-- The same pools and classes in another order. -/
def Reordered (pools pools' : List ResourcePool) : Prop :=
  ∃ middle, pools.Perm middle ∧
    List.Forall₂ (fun pool pool' => pool.classes.Perm pool'.classes ∧
      pool' = { pool with classes := pool'.classes }) middle pools'

/-- A class of the answer that is marked as matching and at least as large as the request. -/
def AcceptableClass (pools : List ResourcePool) (c : ResourceClass) : Prop :=
  (∃ pool ∈ pools, c ∈ pool.classes) ∧ c.matching = true ∧
    requested.sizes ≤ (ServerOptions.fromResourceClass defaultUrl c).sizes

/-- No acceptable class is smaller or equal in every size and smaller in one. -/
def IsClosestFit (pools : List ResourcePool) (o : ServerOptions) : Prop :=
  ∀ c, AcceptableClass defaultUrl requested pools c →
    ¬ (ServerOptions.fromResourceClass defaultUrl c).sizes < o.sizes

theorem Reordered.mem_iff {pools pools' : List ResourcePool} (h : Reordered pools pools')
    {c : ResourceClass} :
    (∃ pool ∈ pools, c ∈ pool.classes) ↔ ∃ pool ∈ pools', c ∈ pool.classes := by
  obtain ⟨middle, hperm, hall⟩ := h
  have hmiddle : (∃ pool ∈ pools, c ∈ pool.classes) ↔ ∃ pool ∈ middle, c ∈ pool.classes := by
    apply exists_congr
    intro pool
    rw [hperm.mem_iff]
  rw [hmiddle]
  clear hperm hmiddle
  induction hall with
  | nil => simp
  | cons hpool _ ih =>
    rw [List.exists_mem_cons_iff, List.exists_mem_cons_iff]
    exact or_congr hpool.1.mem_iff ih

theorem Reordered.acceptableClass_iff {pools pools' : List ResourcePool}
    (h : Reordered pools pools') {c : ResourceClass} :
    AcceptableClass defaultUrl requested pools c ↔
      AcceptableClass defaultUrl requested pools' c := by
  unfold AcceptableClass
  rw [h.mem_iff]

/-- A class can be put in front of all others. -/
theorem exists_reordered_with_head {pools : List ResourcePool} {pool : ResourcePool}
    {c : ResourceClass} (hpool : pool ∈ pools) (hc : c ∈ pool.classes) :
    ∃ (pool' : ResourcePool) (pools' : List ResourcePool) (classes : List ResourceClass),
      Reordered pools ({ pool' with classes := c :: classes } :: pools') := by
  obtain ⟨before, after, rfl⟩ := List.append_of_mem hpool
  obtain ⟨smaller, larger, hclasses⟩ := List.append_of_mem hc
  refine ⟨pool, before ++ after, smaller ++ larger, pool :: (before ++ after),
    List.perm_middle, ?_⟩
  apply List.Forall₂.cons
  · refine ⟨?_, rfl⟩
    rw [hclasses]
    exact List.perm_middle
  · apply List.forall₂_same.mpr
    intro p _
    exact ⟨List.Perm.refl _, rfl⟩

/-- A class that is found has no class below it. -/
theorem not_below_of_found {pools : List ResourcePool} {user : User} {o : ServerOptions}
    (h : findAcceptableClass (answering pools) defaultUrl requested user = .ok (some o)) :
    ∃ c, AcceptableClass defaultUrl requested pools c ∧
      o.sizes = (ServerOptions.fromResourceClass defaultUrl c).sizes ∧
      ∀ c', AcceptableClass defaultUrl requested pools c' →
        ¬ ServerOptions.Below requested (ServerOptions.fromResourceClass defaultUrl c')
          (ServerOptions.fromResourceClass defaultUrl c) := by
  have hfound : Improvement.Found (Below defaultUrl requested) (Acceptable defaultUrl requested) _ _ :=
    Improvement.found_search (candidates pools)
  rw [findAcceptableClass_eq, Except.ok.injEq, Option.map_eq_some_iff] at h
  obtain ⟨a, ha, rfl⟩ := h
  obtain ⟨hmem, hmatching, hfits⟩ := hfound.mem a ha
  obtain ⟨hpool, hc⟩ := mem_candidates.mp hmem
  refine ⟨a.2, ⟨⟨a.1, hpool, hc⟩, hmatching, hfits⟩, rfl, ?_⟩
  rintro c' ⟨⟨pool', hpool', hc'⟩, hmatching', hfits'⟩
  exact hfound.not_lt a ha (pool', c') (mem_candidates.mpr ⟨hpool', hc'⟩) ⟨hmatching', hfits'⟩

/-- In every order of the answer the class found is a closest fit, exactly when every acceptable
class that is not a closest fit has an acceptable class that is smaller in every size. -/
theorem closestFit_in_every_order_iff (pools : List ResourcePool) (user : User) :
    (∀ pools', Reordered pools pools' → ∀ o,
      findAcceptableClass (answering pools') defaultUrl requested user = .ok (some o) →
        IsClosestFit defaultUrl requested pools' o) ↔
    ∀ c, AcceptableClass defaultUrl requested pools c →
      ∀ c', AcceptableClass defaultUrl requested pools c' →
        (ServerOptions.fromResourceClass defaultUrl c').sizes <
          (ServerOptions.fromResourceClass defaultUrl c).sizes →
        ∃ c'', AcceptableClass defaultUrl requested pools c'' ∧
          ServerOptions.Below requested (ServerOptions.fromResourceClass defaultUrl c'')
            (ServerOptions.fromResourceClass defaultUrl c) := by
  constructor
  · intro hclosest c hc c' hc' hlt
    by_contra hnone
    obtain ⟨⟨pool, hpool, hmem⟩, hmatching, hfits⟩ := hc
    obtain ⟨pool', pools', classes, hreordered⟩ := exists_reordered_with_head hpool hmem
    have hfirst : Improvement.search (Below defaultUrl requested) (Acceptable defaultUrl requested)
        (candidates ({ pool' with classes := c :: classes } :: pools')) =
          some ({ pool' with classes := c :: classes }, c) := by
      apply Improvement.search_cons_of_not_lt
      · exact ⟨hmatching, hfits⟩
      · intro b hb haccepts hbelow
        apply hnone
        have hb' : b ∈ candidates ({ pool' with classes := c :: classes } :: pools') :=
          List.mem_cons_of_mem _ hb
        obtain ⟨hpoolb, hcb⟩ := mem_candidates.mp hb'
        refine ⟨b.2, ?_, hbelow⟩
        rw [hreordered.acceptableClass_iff]
        exact ⟨⟨b.1, hpoolb, hcb⟩, haccepts⟩
    have hresult := findAcceptableClass_eq defaultUrl requested
      ({ pool' with classes := c :: classes } :: pools') user
    rw [hfirst] at hresult
    apply hclosest _ hreordered _ hresult c' _ hlt
    exact (hreordered.acceptableClass_iff defaultUrl requested).mp hc'
  · intro hbelow pools' hreordered o hfound c' hc' hlt
    obtain ⟨c, hc, hsizes, hnone⟩ := not_below_of_found defaultUrl requested hfound
    rw [hsizes] at hlt
    obtain ⟨c'', hc'', hc''below⟩ := hbelow c
      ((hreordered.acceptableClass_iff defaultUrl requested).mpr hc) c'
      ((hreordered.acceptableClass_iff defaultUrl requested).mpr hc') hlt
    exact hnone c'' ((hreordered.acceptableClass_iff defaultUrl requested).mp hc'') hc''below

def sampleClass (id cpu memory storage : Nat) : ResourceClass where
  id := id
  cpu := cpu
  memory := memory
  gpu := 0
  defaultStorage := storage
  maxStorage := some 100
  default_ := false
  matching := true
  nodeAffinities := []
  tolerations := []

/-- Two classes without GPUs, the larger one first. -/
def samplePool : ResourcePool where
  classes := [sampleClass 1 4 8 10, sampleClass 2 1 2 5]
  quota := .object (some "quota")
  default_ := true
  idleThreshold := some 3600
  hibernationThreshold := none

def requestedOptions : ServerOptions := .make "/lab" 1 1000000000 0 1000000000

def sampleGuest : User := .anonymous { username := "anon-1", safeUsername := "anon-1", id := "anon-1" }

/-- The smaller class has as many GPUs, so that the search keeps the larger one. -/
theorem larger_class_found :
    findAcceptableClass (answering [samplePool]) "/lab" requestedOptions sampleGuest =
      .ok (some (options "/lab" (samplePool, sampleClass 1 4 8 10))) ∧
    ¬ IsClosestFit "/lab" requestedOptions [samplePool]
      (options "/lab" (samplePool, sampleClass 1 4 8 10)) := by
  have hfits : ∀ id cpu memory storage, 1 ≤ cpu → 1 ≤ memory → 1 ≤ storage →
      requestedOptions.sizes ≤ (ServerOptions.fromResourceClass "/lab"
        (sampleClass id cpu memory storage)).sizes := by
    intro id cpu memory storage hcpu hmemory hstorage
    rw [ServerOptions.sizes_le_iff]
    refine ⟨?_, ?_, ?_, ?_⟩
    · change (1 : ℚ) ≤ (cpu : ℚ)
      exact_mod_cast hcpu
    · change (1000000000 : ℤ) ≤ memory * 1000000000
      omega
    · exact le_refl _
    · change (1000000000 : ℤ) ≤ storage * 1000000000
      omega
  constructor
  · have hfirst : Improvement.search (Below "/lab" requestedOptions) (Acceptable "/lab" requestedOptions)
        (candidates [samplePool]) = some (samplePool, sampleClass 1 4 8 10) := by
      apply Improvement.search_cons_of_not_lt
      · exact ⟨rfl, hfits 1 4 8 10 (by decide) (by decide) (by decide)⟩
      · intro b hb _ hbelow
        have hsmaller : b = (samplePool, sampleClass 2 1 2 5) := List.mem_singleton.mp hb
        subst hsmaller
        exact absurd hbelow.2.2.1 (lt_irrefl _)
    rw [findAcceptableClass_eq, hfirst]
    rfl
  · intro hclosest
    apply hclosest (sampleClass 2 1 2 5)
    · refine ⟨⟨samplePool, by simp, by simp [samplePool]⟩, rfl, ?_⟩
      exact hfits 2 1 2 5 (by decide) (by decide) (by decide)
    · apply lt_of_le_not_ge
      · rw [ServerOptions.sizes_le_iff]
        refine ⟨?_, by decide, by decide, by decide⟩
        change ((1 : ℕ) : ℚ) ≤ ((4 : ℕ) : ℚ)
        norm_num
      · intro hge
        have hmemory := (ServerOptions.sizes_le_iff.mp hge).2.1
        exact absurd hmemory (by decide)

end ClosestFit

end RenkuNotebooks.Notebooks
