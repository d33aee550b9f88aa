import RenkuNotebooks.Notebooks.Cluster

/-!
# The k8s-watcher

A cache for each watched namespace, the collections of caches, and the routes of the server that
reads them.
-/

namespace RenkuNotebooks.K8sWatcher

open Std Notebooks

inductive CacheError where
  | notFound
  | invalidSelector (value : String)
  deriving DecidableEq, Repr

/-- An informer's cache for one namespace, whose objects are kept under their names. -/
structure Cache where
  lister : ExtTreeMap String Json
  named : ∀ (name : String) (object : Json), lister[name]? = some object →
    object.dig ["metadata", "name"] = some (.str name)
  userIDLabel : String

namespace Cache

variable (cache : Cache)

def objects : List Json := cache.lister.toList.map (·.2)

def getAll : Except CacheError (List Json) := .ok cache.objects

/-- Only an empty user selects everything. -/
def getByUserID (validLabelValue : String → Bool) (userID : String) :
    Except CacheError (List Json) :=
  if userID ≠ "" then
    if validLabelValue userID then .ok (cache.objects.filter (hasLabel cache.userIDLabel userID ·))
    else .error (.invalidSelector userID)
  else .ok cache.objects

def getByName (name : String) : Except CacheError Json :=
  match cache.lister[name]? with
  | none => .error .notFound
  | some object => .ok object

/-- The label of an object, empty where it is missing. -/
def userIDOf (object : Json) : Json :=
  (object.dig ["metadata", "labels", cache.userIDLabel]).getD ""

def getByNameAndUserID (name userID : String) : Except CacheError (Option Json) := do
  let object ← cache.getByName name
  pure (if cache.userIDOf object = .str userID then some object else none)

end Cache

/-- The caches by namespace, in the order in which an iteration meets them. -/
structure CacheCollection where
  caches : List (String × Cache)
  nodup : (caches.map (·.1)).Nodup

/-- The loop of the methods that list: the first failure ends it. -/
def appendAll (list : Cache → Except CacheError (List Json)) :
    List (String × Cache) → List Json → Except CacheError (List Json)
  | [], res => .ok res
  | (_, cache) :: caches, res =>
    match list cache with
    | .error err => .error err
    | .ok ires => appendAll list caches (res ++ ires)

/-- The loop of the methods that look for one object: a cache without it is passed over. -/
def appendFound (get : Cache → Except CacheError (Option Json)) :
    List (String × Cache) → List Json → Except CacheError (List Json)
  | [], res => .ok res
  | (_, cache) :: caches, res =>
    match get cache with
    | .error .notFound => appendFound get caches res
    | .error err => .error err
    | .ok none => appendFound get caches res
    | .ok (some ires) => appendFound get caches (res ++ [ires])

namespace CacheCollection

variable (c : CacheCollection)

def getAll : Except CacheError (List Json) := appendAll Cache.getAll c.caches []

def getByUserID (validLabelValue : String → Bool) (userID : String) :
    Except CacheError (List Json) :=
  appendAll (fun cache => cache.getByUserID validLabelValue userID) c.caches []

def getByNameAndUserID (name userID : String) : Except CacheError (List Json) :=
  appendFound (fun cache => cache.getByNameAndUserID name userID) c.caches []

def getByName (name : String) : Except CacheError (List Json) :=
  appendFound (fun cache => (cache.getByName name).map some) c.caches []

end CacheCollection

/-- The collections of JupyterServers and AmaltheaSessions, and where images are built those of
BuildRuns and TaskRuns. -/
structure Server where
  cachesJS : CacheCollection
  cachesAS : CacheCollection
  cachesBR : Option CacheCollection
  cachesTR : Option CacheCollection
  /-- The check of a label selector. -/
  validLabelValue : String → Bool

/-- The handlers of the routes that list objects. -/
inductive Handler where
  | jsGetAll
  | jsGetOne (serverID : String)
  | jsUserID (userID : String)
  | jsUserIDServerID (userID serverID : String)
  | asGetAll
  | asGetOne (serverID : String)
  | asUserID (userID : String)
  | asUserIDServerID (userID serverID : String)
  | brGetAll (caches : CacheCollection)
  | brGetOne (caches : CacheCollection) (buildRunID : String)
  | trGetAll (caches : CacheCollection)
  | trGetOne (caches : CacheCollection) (taskRunID : String)

namespace Server

variable (s : Server)

/-- The handler for the segments of a path. -/
def route : List String → Option Handler
  | ["servers"] => some .jsGetAll
  | ["servers", serverID] => some (.jsGetOne serverID)
  | ["users", userID, "servers"] => some (.jsUserID userID)
  | ["users", userID, "servers", serverID] => some (.jsUserIDServerID userID serverID)
  | ["sessions"] => some .asGetAll
  | ["sessions", serverID] => some (.asGetOne serverID)
  | ["users", userID, "sessions"] => some (.asUserID userID)
  | ["users", userID, "sessions", serverID] => some (.asUserIDServerID userID serverID)
  | ["buildruns"] => s.cachesBR.map .brGetAll
  | ["buildruns", buildRunID] => s.cachesBR.map (.brGetOne · buildRunID)
  | ["taskruns"] => s.cachesTR.map .trGetAll
  | ["taskruns", taskRunID] => s.cachesTR.map (.trGetOne · taskRunID)
  | _ => none

def handle : Handler → Except CacheError (List Json)
  | .jsGetAll => s.cachesJS.getAll
  | .jsGetOne serverID => s.cachesJS.getByName serverID
  | .jsUserID userID => s.cachesJS.getByUserID s.validLabelValue userID
  | .jsUserIDServerID userID serverID => s.cachesJS.getByNameAndUserID serverID userID
  | .asGetAll => s.cachesAS.getAll
  | .asGetOne serverID => s.cachesAS.getByName serverID
  | .asUserID userID => s.cachesAS.getByUserID s.validLabelValue userID
  | .asUserIDServerID userID serverID => s.cachesAS.getByNameAndUserID serverID userID
  | .brGetAll caches => caches.getAll
  | .brGetOne caches buildRunID => caches.getByName buildRunID
  | .trGetAll caches => caches.getAll
  | .trGetOne caches taskRunID => caches.getByName taskRunID

/-- The response for a path. -/
def respond (path : List String) : Except Fault (List Json) :=
  match s.route path with
  | none => .error (.status 404)
  | some handler =>
    match s.handle handler with
    | .error _ => .error (.status 500)
    | .ok objects => .ok objects

end Server

/-! ### What the loops collect -/

theorem appendAll_ok (list : Cache → List Json) (caches : List (String × Cache))
    (res : List Json) : appendAll (fun cache => .ok (list cache)) caches res =
      .ok (res ++ caches.flatMap fun c => list c.2) := by
  induction caches generalizing res with
  | nil => simp [appendAll]
  | cons c caches ih =>
    have hrest := ih (res ++ list c.2)
    simp only [appendAll, hrest, List.flatMap_cons, List.append_assoc]

theorem appendAll_error {list : Cache → Except CacheError (List Json)} {err : CacheError}
    {caches : List (String × Cache)} {res : List Json} (h : ∀ c ∈ caches, list c.2 = .error err)
    (hne : caches ≠ []) : appendAll list caches res = .error err := by
  cases caches with
  | nil => exact absurd rfl hne
  | cons c caches =>
    have hc := h c List.mem_cons_self
    simp only [appendAll, hc]

theorem appendFound_ok {get : Cache → Except CacheError (Option Json)}
    {found : Cache → Option Json}
    (h : ∀ cache, get cache = .ok (found cache) ∨ (get cache = .error .notFound ∧ found cache = none))
    (caches : List (String × Cache)) (res : List Json) :
    appendFound get caches res = .ok (res ++ caches.filterMap fun c => found c.2) := by
  induction caches generalizing res with
  | nil => simp [appendFound]
  | cons c caches ih =>
    rcases h c.2 with hc | ⟨hc, hnone⟩
    · cases hfound : found c.2 with
      | none =>
        rw [hfound] at hc
        simp only [appendFound, hc, ih, List.filterMap_cons, hfound]
      | some object =>
        rw [hfound] at hc
        simp only [appendFound, hc, ih, List.filterMap_cons, hfound, List.append_assoc,
          List.singleton_append]
    · simp only [appendFound, hc, ih, List.filterMap_cons, hnone]

namespace CacheCollection

/-- The objects of one name, one from each cache that has it. -/
theorem getByName_eq (c : CacheCollection) (name : String) :
    c.getByName name = .ok (c.caches.filterMap fun c => c.2.lister[name]?) := by
  have hget : ∀ cache : Cache, (cache.getByName name).map some = .ok cache.lister[name]? ∨
      ((cache.getByName name).map some = .error .notFound ∧ cache.lister[name]? = none) := by
    intro cache
    cases hname : cache.lister[name]? with
    | none => exact .inr ⟨by simp only [Cache.getByName, hname, Except.map], rfl⟩
    | some object => exact .inl (by simp only [Cache.getByName, hname, Except.map])
  have hloop := appendFound_ok hget c.caches []
  rwa [List.nil_append] at hloop

theorem getAll_eq (c : CacheCollection) :
    c.getAll = .ok (c.caches.flatMap fun c => c.2.objects) := by
  have hloop := appendAll_ok Cache.objects c.caches []
  rwa [List.nil_append] at hloop

/-- The objects of one name that carry the user's label. -/
theorem getByNameAndUserID_eq_filter (c : CacheCollection) (name userID : String) :
    c.getByNameAndUserID name userID = .ok (c.caches.filterMap fun c =>
      (c.2.lister[name]?).filter fun object => decide (c.2.userIDOf object = .str userID)) := by
  have hget : ∀ cache : Cache, cache.getByNameAndUserID name userID =
        .ok ((cache.lister[name]?).filter fun object => decide (cache.userIDOf object = .str userID)) ∨
      (cache.getByNameAndUserID name userID = .error .notFound ∧
        ((cache.lister[name]?).filter
          fun object => decide (cache.userIDOf object = .str userID)) = none) := by
    intro cache
    unfold Cache.getByNameAndUserID Cache.getByName
    cases hname : cache.lister[name]? with
    | none => exact .inr ⟨rfl, rfl⟩
    | some object =>
      refine .inl ?_
      simp only [bind, Except.bind, pure, Except.pure, Option.filter, decide_eq_true_eq]
  have hloop := appendFound_ok hget c.caches []
  rwa [List.nil_append] at hloop

variable {validLabelValue : String → Bool} {userID : String}

theorem getByUserID_empty (c : CacheCollection) : c.getByUserID validLabelValue "" = c.getAll :=
  rfl

theorem getByUserID_eq (c : CacheCollection) (hne : userID ≠ "")
    (hvalid : validLabelValue userID = true) : c.getByUserID validLabelValue userID =
      .ok (c.caches.flatMap fun c => c.2.objects.filter (hasLabel c.2.userIDLabel userID ·)) := by
  have hlist : (fun cache : Cache => cache.getByUserID validLabelValue userID) =
      fun cache => .ok (cache.objects.filter (hasLabel cache.userIDLabel userID ·)) := by
    funext cache
    simp only [Cache.getByUserID, if_pos hne, if_pos hvalid]
  have hloop := appendAll_ok
    (fun cache => cache.objects.filter (hasLabel cache.userIDLabel userID ·)) c.caches []
  rw [List.nil_append, ← hlist] at hloop
  exact hloop

theorem getByUserID_invalid (c : CacheCollection) (hne : userID ≠ "")
    (hvalid : validLabelValue userID = false) (hcaches : c.caches ≠ []) :
    c.getByUserID validLabelValue userID = .error (.invalidSelector userID) := by
  refine appendAll_error (fun cache _ => ?_) hcaches
  simp [Cache.getByUserID, hne, hvalid]

end CacheCollection

/-! ### What is listed -/

def HasName (object : Json) : Prop :=
  ∃ name : String, object.dig ["metadata", "name"] = some (.str name)

theorem Cache.hasName (cache : Cache) {name : String} {object : Json}
    (h : cache.lister[name]? = some object) : HasName object :=
  ⟨name, cache.named name object h⟩

theorem Cache.hasName_of_mem_objects (cache : Cache) {object : Json}
    (h : object ∈ cache.objects) : HasName object := by
  obtain ⟨⟨name, object⟩, hmem, rfl⟩ := List.mem_map.mp h
  exact cache.hasName (ExtTreeMap.mem_toList_iff_getElem?_eq_some.mp hmem)

/-- The objects of a response all have names. -/
def Named (response : Except CacheError (List Json)) : Prop :=
  ∀ objects, response = .ok objects → ∀ object ∈ objects, HasName object

theorem named_appendAll {list : Cache → Except CacheError (List Json)}
    (h : ∀ cache, Named (list cache)) {caches : List (String × Cache)} {res : List Json}
    (hres : ∀ object ∈ res, HasName object) : Named (appendAll list caches res) := by
  induction caches generalizing res with
  | nil =>
    intro objects hobjects
    cases hobjects
    exact hres
  | cons c caches ih =>
    cases hlist : list c.2 with
    | error err =>
      intro objects hobjects
      simp [appendAll, hlist] at hobjects
    | ok ires =>
      simp only [appendAll, hlist]
      apply ih
      intro object hobject
      rcases List.mem_append.mp hobject with hmem | hmem
      · exact hres object hmem
      · exact h c.2 ires hlist object hmem

theorem named_appendFound {get : Cache → Except CacheError (Option Json)}
    (h : ∀ cache object, get cache = .ok (some object) → HasName object)
    {caches : List (String × Cache)} {res : List Json} (hres : ∀ object ∈ res, HasName object) :
    Named (appendFound get caches res) := by
  induction caches generalizing res with
  | nil =>
    intro objects hobjects
    cases hobjects
    exact hres
  | cons c caches ih =>
    rcases hget : get c.2 with (_ | value) | (_ | object)
    · simp only [appendFound, hget]
      exact ih hres
    · intro objects hobjects
      simp [appendFound, hget] at hobjects
    · simp only [appendFound, hget]
      exact ih hres
    · simp only [appendFound, hget]
      apply ih
      intro object' hobject
      rcases List.mem_append.mp hobject with hmem | hmem
      · exact hres object' hmem
      · rw [List.mem_singleton.mp hmem]
        exact h c.2 object hget

namespace CacheCollection

variable (c : CacheCollection)

theorem named_getAll : Named c.getAll := by
  apply named_appendAll
  · rintro cache objects ⟨⟩ object hobject
    exact cache.hasName_of_mem_objects hobject
  · simp

theorem named_getByUserID (validLabelValue : String → Bool) (userID : String) :
    Named (c.getByUserID validLabelValue userID) := by
  apply named_appendAll
  · intro cache objects hlist object hobject
    apply cache.hasName_of_mem_objects
    unfold Cache.getByUserID at hlist
    split at hlist
    · split at hlist
      · cases hlist
        exact (List.mem_filter.mp hobject).1
      · cases hlist
    · cases hlist
      exact hobject
  · simp

theorem named_getByName (name : String) : Named (c.getByName name) := by
  intro objects hobjects object hobject
  rw [getByName_eq] at hobjects
  cases hobjects
  obtain ⟨cache, -, hget⟩ := List.mem_filterMap.mp hobject
  exact cache.2.hasName hget

theorem named_getByNameAndUserID (name userID : String) :
    Named (c.getByNameAndUserID name userID) := by
  apply named_appendFound
  · intro cache object hget
    unfold Cache.getByNameAndUserID Cache.getByName at hget
    cases hname : cache.lister[name]? with
    | none =>
      rw [hname] at hget
      cases hget
    | some found =>
      rw [hname] at hget
      dsimp only [bind, Except.bind, pure, Except.pure] at hget
      split at hget
      · cases hget
        exact cache.hasName hname
      · cases hget
  · simp

end CacheCollection

theorem Server.named_respond (s : Server) {path : List String} {objects : List Json}
    (h : s.respond path = .ok objects) : ∀ object ∈ objects, HasName object := by
  unfold Server.respond at h
  split at h
  · cases h
  · next handler _ =>
    split at h
    · cases h
    · next found hhandle =>
      cases h
      have hnamed : Named (s.handle handler) := by
        cases handler with
        | jsGetAll => exact CacheCollection.named_getAll _
        | jsGetOne => exact CacheCollection.named_getByName _ _
        | jsUserID => exact CacheCollection.named_getByUserID _ _ _
        | jsUserIDServerID => exact CacheCollection.named_getByNameAndUserID _ _ _
        | asGetAll => exact CacheCollection.named_getAll _
        | asGetOne => exact CacheCollection.named_getByName _ _
        | asUserID => exact CacheCollection.named_getByUserID _ _ _
        | asUserIDServerID => exact CacheCollection.named_getByNameAndUserID _ _ _
        | brGetAll => exact CacheCollection.named_getAll _
        | brGetOne => exact CacheCollection.named_getByName _ _
        | trGetAll => exact CacheCollection.named_getAll _
        | trGetOne => exact CacheCollection.named_getByName _ _
      exact hnamed _ hhandle

end RenkuNotebooks.K8sWatcher
