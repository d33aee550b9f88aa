import Mathlib.Data.List.DropRight
import Mathlib.Data.List.TakeWhile
import RenkuNotebooks.K8sWatcher.CacheCollection
import RenkuNotebooks.Notebooks.Lookup

/-!
# Reads from the cache and reads that bypass it

A deployment in which the k8s-watcher caches the two namespaces of the client. The requests of
`JsServerCache` reach the watcher through their URLs, into which users and names are written as
they are.
-/

namespace RenkuNotebooks.Notebooks

open Std Prog K8sWatcher

/-! ### Requests to the watcher -/

/-- The reads of `JsServerCache` are requests for URLs; the other calls go where they always go. -/
def serveThrough (cache : String → Except Fault (List Json)) (env : Env) :
    (c : Call) → World → c.Reply × World
  | .cacheList safeUsername, w =>
    (cache ("/users/" ++ safeUsername ++ "/servers"),
      { w with log := w.log ++ [.cacheList safeUsername] })
  | .cacheGet name, w => (cache ("/servers/" ++ name), { w with log := w.log ++ [.cacheGet name] })
  | c, w => serve env c w

/-- Safe usernames are escaped and in lower case. -/
def IsEscaped (safeUsername : String) : Prop :=
  ∀ c ∈ safeUsername.toList, c.isLower ∨ c.isDigit ∨ c = '-'

/-- The names that Kubernetes lets an object have. -/
def IsObjectName (name : String) : Prop :=
  (∃ c ∈ name.toList.head?, c.isLower ∨ c.isDigit) ∧
    ∀ c ∈ name.toList, c.isLower ∨ c.isDigit ∨ c = '-' ∨ c = '.'

instance (name : String) : Decidable (IsObjectName name) :=
  decidable_of_iff (name.toList.head?.any (fun c => c.isLower || c.isDigit) = true ∧
    name.toList.all (fun c => c.isLower || c.isDigit || c = '-' || c = '.') = true)
    (by simp [IsObjectName, or_assoc, Option.any_eq_true])

/-- How the URLs of the reads arrive at the watcher. -/
structure Urls where
  /-- The segments of the path at which a request for the URL ends, if it can be sent. -/
  path : String → Option (List String)
  usersPath : ∀ safeUsername, IsEscaped safeUsername →
    path ("/users/" ++ safeUsername ++ "/servers") = some ["users", safeUsername, "servers"]
  serversPath : ∀ name, IsObjectName name → path ("/servers/" ++ name) = some ["servers", name]

structure Deployment extends Urls where
  client : K8sClient
  sessionNs : String
  hasSessionNs : client.sessionNs = some sessionNs
  distinct : sessionNs ≠ client.renkuNs
  bypasses : client.bypassCacheOnFailure = true
  watcher : Server
  watched : (watcher.cachesJS.caches.map (·.1)).Perm [client.renkuNs, sessionNs]
  sameLabel : ∀ c ∈ watcher.cachesJS.caches, c.2.userIDLabel = usernameLabel

namespace Deployment

variable (d : Deployment)

/-- The watcher's response to a request for a URL. -/
def request (url : String) : Except Fault (List Json) :=
  match d.path url with
  | none => .error .unreachable
  | some segments => d.watcher.respond segments

/-- The caches hold what is in their namespaces. -/
def UpToDate (c : Cluster) : Prop :=
  ∀ cache ∈ d.watcher.cachesJS.caches,
    cache.2.lister = (c.sessions cache.1).map fun _ session => session.server

/-- All servers of the deployment. -/
def servers (c : Cluster) : List Json :=
  [d.client.renkuNs, d.sessionNs].flatMap fun ns => (c.list ns).map (·.2.server)

/-- The server of this name. -/
def server? (c : Cluster) (name : String) : Option Json :=
  ((c.get d.sessionNs name).or (c.get d.client.renkuNs name)).map (·.server)

/-- The two reads of the client, with what the cache responds. -/
def reads (cache : String → Except Fault (List Json)) (env : Env) (w : World)
    (safeUsername name : String) : Except PyError (List Json) × Except PyError (Option Json) :=
  ((run (serveThrough cache env) (d.client.listServers safeUsername) w).1,
    (run (serveThrough cache env) (d.client.getServer name safeUsername) w).1)

end Deployment

/-- Both give their values, and the lists are equal as multisets. -/
def SameReads (a b : Except PyError (List Json) × Except PyError (Option Json)) : Prop :=
  (∃ servers servers', a.1 = .ok servers ∧ b.1 = .ok servers' ∧ servers.Perm servers') ∧
    ∃ server, a.2 = .ok server ∧ b.2 = .ok server

namespace Deployment

variable (d : Deployment)

/-- The answers do not depend on whether the watcher answers. -/
def Agrees (env : Env) (w : World) (safeUsername name : String) : Prop :=
  ∀ fault : Fault, SameReads (d.reads d.request env w safeUsername name)
    (d.reads (fun _ => .error fault) env w safeUsername name)

/-- Whoever has no username is taken for everybody. -/
def OwnsAll (c : Cluster) (safeUsername : String) : Prop :=
  safeUsername = "" → ∀ server ∈ d.servers c, hasLabel usernameLabel safeUsername server

/-- The user's label, empty where it is missing. -/
def ownedBy (userID : String) (server : Json) : Bool :=
  (server.dig ["metadata", "labels", usernameLabel]).getD "" = .str userID

/-- What is behind a route of the watcher: servers of the cluster, or objects of other kinds. An
invalid label gives no list. -/
def listed (c : Cluster) : Handler → Option (List Json)
  | .jsGetAll => some (d.servers c)
  | .jsGetOne serverID => some (d.server? c serverID).toList
  | .jsUserID userID =>
    if userID = "" then some (d.servers c)
    else if d.watcher.validLabelValue userID then
      some ((d.servers c).filter (hasLabel usernameLabel userID ·))
    else none
  | .jsUserIDServerID userID serverID => some ((d.server? c serverID).toList.filter (ownedBy userID))
  | other => (d.watcher.handle other).toOption

/-- The route to which the URL of a look-up leads, if it leads to any, has at most one object,
and as far as it is the user's it is the server of that name. -/
def LeadsHome (c : Cluster) (safeUsername name : String) : Prop :=
  ∀ segments ∈ d.path ("/servers/" ++ name), ∀ handler ∈ d.watcher.route segments,
    ∀ objects ∈ d.listed c handler, objects.length ≤ 1 ∧
      objects.filter (hasLabel usernameLabel safeUsername ·) =
        (d.server? c name).toList.filter (hasLabel usernameLabel safeUsername ·)

end Deployment

/-! ### The two ways of reading -/

section Runs

variable {cache : String → Except Fault (List Json)} {env : Env}

theorem run_cacheList (safeUsername : String) (w : World) :
    (run (serveThrough cache env) (JsServerCache.listServers safeUsername) w) =
      (match cache ("/users/" ++ safeUsername ++ "/servers") with
        | .ok servers => .ok servers
        | .error (.status status) => .error (JsServerCache.unexpectedStatus status)
        | .error .unreachable => .error JsServerCache.unavailable,
      { w with log := w.log ++ [.cacheList safeUsername] }) := by
  unfold JsServerCache.listServers
  simp only [bind_eq, run_bind, run_perform, serveThrough]
  rcases cache ("/users/" ++ safeUsername ++ "/servers") with (status | _) | servers <;> rfl

theorem run_cacheGet (name : String) (w : World) :
    (run (serveThrough cache env) (JsServerCache.getServer name) w) =
      (match cache ("/servers/" ++ name) with
        | .ok servers => single (JsServerCache.tooMany name) servers
        | .error (.status status) => .error (JsServerCache.unexpectedStatus status)
        | .error .unreachable => .error JsServerCache.unavailable,
      { w with log := w.log ++ [.cacheGet name] }) := by
  unfold JsServerCache.getServer
  simp only [bind_eq, run_bind, run_perform, serveThrough]
  rcases cache ("/servers/" ++ name) with (status | _) | servers
  · rfl
  · rfl
  · simp [JsServerCache.orCacheError, run_ofExcept]

variable (hapi : ∀ n call, env.faults n call = none)

include hapi

theorem run_apiList (ns safeUsername : String) (w : World) :
    run (serveThrough cache env) (NamespacedK8sClient.listServers ns safeUsername) w =
      (.ok (labelledServers w.cluster ns usernameLabel safeUsername),
        { w with log := w.log ++ [.listServers ns safeUsername] }) := by
  unfold NamespacedK8sClient.listServers
  simp only [bind_eq, run_bind, run_perform, serveThrough, serve, hapi]
  rfl

theorem run_apiGet (ns name : String) (w : World) :
    run (serveThrough cache env) (NamespacedK8sClient.getServer ns name) w =
      (.ok ((w.cluster.get ns name).map (·.server)),
        { w with log := w.log ++ [.getServer ns name] }) := by
  unfold NamespacedK8sClient.getServer
  simp only [bind_eq, run_bind, run_perform, serveThrough, serve, hapi, answer]
  cases w.cluster.get ns name with
  | none => rfl
  | some session => rfl

end Runs

/-- Each name is in at most one namespace. -/
def Cluster.UniqueNames (c : Cluster) : Prop :=
  ∀ ns ns' name, c.get ns name ≠ none → c.get ns' name ≠ none → ns = ns'

namespace Deployment

variable {d : Deployment} {cache : String → Except Fault (List Json)} {env : Env} {w : World}
variable {safeUsername name : String}

theorem filter_servers (c : Cluster) :
    (d.servers c).filter (hasLabel usernameLabel safeUsername ·) =
      labelledServers c d.client.renkuNs usernameLabel safeUsername ++
        labelledServers c d.sessionNs usernameLabel safeUsername := by
  simp [servers, labelledServers]

/-- A list from the cache where it responds, and otherwise the user's servers. -/
theorem run_listServers (hapi : ∀ n call, env.faults n call = none) :
    (run (serveThrough cache env) (d.client.listServers safeUsername) w).1 =
      .ok (match cache ("/users/" ++ safeUsername ++ "/servers") with
        | .ok servers => servers
        | .error _ => (d.servers w.cluster).filter (hasLabel usernameLabel safeUsername ·)) := by
  unfold K8sClient.listServers K8sClient.orBypass K8sClient.listServersFromApi
  rw [run_tryCatch, run_cacheList]
  rcases cache ("/users/" ++ safeUsername ++ "/servers") with (status | _) | servers
  · simp [JsServerCache.unexpectedStatus, jsCacheError, PyError.isJSCacheError, d.bypasses,
      d.hasSessionNs, run_bind, run_apiList hapi, filter_servers]
  · simp [JsServerCache.unavailable, jsCacheError, PyError.isJSCacheError, d.bypasses,
      d.hasSessionNs, run_bind, run_apiList hapi, filter_servers]
  · rfl

theorem exists_of_single_error {tooMany : Nat → PyError} {servers : List Json} {e : PyError}
    (h : single tooMany servers = .error e) : ∃ found, e = tooMany found := by
  rcases servers with _ | ⟨server, _ | ⟨server', servers⟩⟩
  · cases h
  · cases h
  · exact ⟨_, (Except.error.inj h).symm⟩

theorem single_found {tooMany : Nat → PyError} {c : Cluster} (hunique : c.UniqueNames) :
    single tooMany (K8sClient.foundServers [(c.get d.sessionNs name).map (·.server),
      (c.get d.client.renkuNs name).map (·.server)]) = .ok (d.server? c name) := by
  have htruthy : ∀ ns x, c.get ns name = some x → x.server.truthy = true :=
    fun ns x hget => (Cluster.get_identified hget).truthy
  unfold K8sClient.foundServers server?
  cases hsession : c.get d.sessionNs name with
  | none =>
    cases hrenku : c.get d.client.renkuNs name with
    | none => rfl
    | some x => simp [htruthy _ x hrenku, single, Option.filter]
  | some x =>
    cases hrenku : c.get d.client.renkuNs name with
    | none => simp [htruthy _ x hsession, single, Option.filter]
    | some x' =>
      exact absurd (hunique d.sessionNs d.client.renkuNs name (by simp [hsession])
        (by simp [hrenku])) d.distinct

/-- The one server from the cache where it responds, and otherwise the server of that name. -/
theorem run_getServer (hapi : ∀ n call, env.faults n call = none)
    (hunique : w.cluster.UniqueNames) :
    (run (serveThrough cache env) (d.client.getServer name safeUsername) w).1 =
      (match cache ("/servers/" ++ name) with
        | .ok servers => single (JsServerCache.tooMany name) servers
        | .error _ => .ok (d.server? w.cluster name)).map (K8sClient.ownServer safeUsername) := by
  unfold K8sClient.getServer K8sClient.orBypass K8sClient.getServerFromApi
    K8sClient.getSessionServer
  simp only [bind_eq, pure_eq, run_bind, run_tryCatch, run_cacheGet]
  rcases cache ("/servers/" ++ name) with (status | _) | servers
  · simp [JsServerCache.unexpectedStatus, jsCacheError, PyError.isJSCacheError, d.bypasses,
      d.hasSessionNs, run_bind, run_apiGet hapi, run_ofExcept, single_found hunique, Except.map]
  · simp [JsServerCache.unavailable, jsCacheError, PyError.isJSCacheError, d.bypasses,
      d.hasSessionNs, run_bind, run_apiGet hapi, run_ofExcept, single_found hunique, Except.map]
  · dsimp only
    cases hsingle : single (JsServerCache.tooMany name) servers with
    | ok server => rfl
    | error e =>
      obtain ⟨found, rfl⟩ := exists_of_single_error hsingle
      rfl

/-! ### Lists -/

theorem flatMap_objects {c : Cluster} (hcurrent : d.UpToDate c) :
    (d.watcher.cachesJS.caches.flatMap fun cache => cache.2.objects) =
      (d.watcher.cachesJS.caches.map (·.1)).flatMap fun ns => (c.list ns).map (·.2.server) := by
  rw [List.flatMap_map]
  refine List.flatMap_congr fun cache hcache => ?_
  rw [Cache.objects, hcurrent cache hcache, ExtTreeMap.toList_map, List.map_map]
  rfl

/-- Up to date, the caches hold all servers between them. -/
theorem objects_perm {c : Cluster} (hcurrent : d.UpToDate c) :
    (d.watcher.cachesJS.caches.flatMap fun cache => cache.2.objects).Perm (d.servers c) := by
  rw [flatMap_objects hcurrent]
  exact d.watched.flatMap_right _

theorem caches_ne_nil : d.watcher.cachesJS.caches ≠ [] := by
  intro h
  have hwatched := d.watched
  rw [h] at hwatched
  exact absurd hwatched.length_eq (by simp)

theorem getByUserID_valid {userID : String} (hne : userID ≠ "")
    (hvalid : d.watcher.validLabelValue userID = true) :
    d.watcher.cachesJS.getByUserID d.watcher.validLabelValue userID =
      .ok ((d.watcher.cachesJS.caches.flatMap (·.2.objects)).filter
        (hasLabel usernameLabel userID ·)) := by
  have hfilter : ∀ cache ∈ d.watcher.cachesJS.caches,
      cache.2.objects.filter (hasLabel cache.2.userIDLabel userID ·) =
        cache.2.objects.filter (hasLabel usernameLabel userID ·) := by
    intro cache hcache
    rw [d.sameLabel cache hcache]
  rw [CacheCollection.getByUserID_eq _ hne hvalid, List.flatMap_congr hfilter, List.filter_flatMap]

/-- The watcher's list for a user, with the caches in their order. -/
theorem request_list (hu : IsEscaped safeUsername) :
    d.request ("/users/" ++ safeUsername ++ "/servers") =
      if safeUsername = "" then .ok (d.watcher.cachesJS.caches.flatMap (·.2.objects))
      else if d.watcher.validLabelValue safeUsername then
        .ok ((d.watcher.cachesJS.caches.flatMap (·.2.objects)).filter
          (hasLabel usernameLabel safeUsername ·))
      else .error (.status 500) := by
  unfold request
  rw [d.usersPath safeUsername hu]
  simp only [Server.respond, Server.route, Server.handle]
  by_cases hempty : safeUsername = ""
  · subst hempty
    rw [if_pos rfl, CacheCollection.getByUserID_empty, CacheCollection.getAll_eq]
  · rw [if_neg hempty]
    cases hvalid : d.watcher.validLabelValue safeUsername with
    | false =>
      rw [CacheCollection.getByUserID_invalid _ hempty hvalid caches_ne_nil]
      rfl
    | true => rw [getByUserID_valid hempty hvalid, if_pos rfl]

theorem exists_perm_iff {l l' : List Json} :
    (∃ servers servers', (.ok l : Except PyError (List Json)) = .ok servers ∧
      (.ok l' : Except PyError (List Json)) = .ok servers' ∧ servers.Perm servers') ↔
      l.Perm l' := by
  constructor
  · rintro ⟨servers, servers', ⟨⟩, ⟨⟩, hperm⟩
    exact hperm
  · exact fun hperm => ⟨l, l', rfl, rfl, hperm⟩

/-- The lists agree as soon as the user has a name. -/
theorem list_agrees_iff (hapi : ∀ n call, env.faults n call = none)
    (hcurrent : d.UpToDate w.cluster) (hu : IsEscaped safeUsername) (fault : Fault) :
    (∃ servers servers',
      (run (serveThrough d.request env) (d.client.listServers safeUsername) w).1 = .ok servers ∧
      (run (serveThrough (fun _ => .error fault) env) (d.client.listServers safeUsername) w).1 =
        .ok servers' ∧ servers.Perm servers') ↔ d.OwnsAll w.cluster safeUsername := by
  have hperm := objects_perm hcurrent
  rw [run_listServers hapi, run_listServers hapi, exists_perm_iff, request_list hu]
  by_cases hempty : safeUsername = ""
  · subst hempty
    simp only [OwnsAll, if_true, forall_const]
    constructor
    · intro hsame
      have hlength := (hperm.symm.trans hsame).length_eq
      have hall := List.length_filter_eq_length_iff.mp hlength.symm
      exact fun server hserver => of_decide_eq_true (hall server hserver)
    · intro hall
      have hfilter : (d.servers w.cluster).filter (hasLabel usernameLabel "" ·) =
          d.servers w.cluster :=
        List.filter_eq_self.mpr fun server hserver => decide_eq_true (hall server hserver)
      rw [hfilter]
      exact hperm
  · simp only [if_neg hempty]
    refine iff_of_true ?_ fun h => absurd h hempty
    cases d.watcher.validLabelValue safeUsername with
    | false => exact List.Perm.refl _
    | true => exact hperm.filter _

/-! ### Single servers -/

theorem toList_ownServer {server : Option Json} (h : ∀ s ∈ server, HasName s) :
    (K8sClient.ownServer safeUsername server).toList =
      server.toList.filter (hasLabel usernameLabel safeUsername ·) := by
  cases server with
  | none => rfl
  | some s =>
    obtain ⟨name, hname⟩ := h s rfl
    have htruthy := truthy_of_dig hname
    by_cases hlabel : hasLabel usernameLabel safeUsername s
    · simp [K8sClient.ownServer, Option.filter, hlabel]
    · simp [K8sClient.ownServer, Option.filter, htruthy, hlabel]

theorem single_eq_ok_iff {tooMany : Nat → PyError} {objects : List Json} {server : Option Json} :
    single tooMany objects = .ok server ↔ objects = server.toList := by
  rcases objects with _ | ⟨object, _ | ⟨object', objects⟩⟩ <;> cases server <;>
    simp [single]

theorem toList_injective : Function.Injective (Option.toList : Option Json → List Json) := by
  rintro (_ | a) (_ | b) h
  · rfl
  · cases h
  · cases h
  · rw [List.singleton_inj.mp h]

/-- A list and an optional server give the same own server. -/
theorem same_single_iff (tooMany : Nat → PyError) (safeUsername : String) {objects : List Json} {server : Option Json}
    (hobjects : ∀ s ∈ objects, HasName s) (hserver : ∀ s ∈ server, HasName s) :
    (single tooMany objects).map (K8sClient.ownServer safeUsername) =
        .ok (K8sClient.ownServer safeUsername server) ↔
      objects.length ≤ 1 ∧ objects.filter (hasLabel usernameLabel safeUsername ·) =
        server.toList.filter (hasLabel usernameLabel safeUsername ·) := by
  rw [← toList_ownServer hserver]
  cases hsingle : single tooMany objects with
  | error e =>
    refine iff_of_false (fun h => by cases h) fun h => ?_
    rcases objects with _ | ⟨object, _ | ⟨object', objects⟩⟩
    · cases hsingle
    · cases hsingle
    · exact absurd h.1 (by simp)
  | ok found =>
    obtain rfl := single_eq_ok_iff.mp hsingle
    have hfound : ∀ s ∈ found, HasName s := fun s hs => hobjects s (Option.mem_toList.mpr hs)
    rw [← toList_ownServer hfound]
    have hlength : found.toList.length ≤ 1 := by cases found <;> simp
    simp only [Except.map, Except.ok.injEq, hlength, true_and]
    exact ⟨congrArg Option.toList, fun h => toList_injective h⟩

theorem name_of_server? {c : Cluster} {server : Json} (h : d.server? c name = some server) :
    server.dig ["metadata", "name"] = some (.str name) := by
  obtain ⟨session, hsession, rfl⟩ := Option.map_eq_some_iff.mp h
  rcases Option.or_eq_some_iff.mp hsession with hget | ⟨-, hget⟩
  · exact (Cluster.get_identified hget).1
  · exact (Cluster.get_identified hget).1

/-! ### Names that reach the watcher as they are -/

theorem filterMap_lister {c : Cluster} (hcurrent : d.UpToDate c) :
    (d.watcher.cachesJS.caches.filterMap fun cache => cache.2.lister[name]?) =
      (d.watcher.cachesJS.caches.map (·.1)).filterMap fun ns => (c.get ns name).map (·.server) := by
  rw [List.filterMap_map]
  refine List.filterMap_congr fun cache hcache => ?_
  rw [hcurrent cache hcache, ExtTreeMap.getElem?_map]
  rfl

theorem filterMap_watched {c : Cluster} (hcurrent : d.UpToDate c) (hunique : c.UniqueNames) :
    (d.watcher.cachesJS.caches.filterMap fun cache => cache.2.lister[name]?) =
      (d.server? c name).toList := by
  have hperm := d.watched.filterMap fun ns => (c.get ns name).map (·.server)
  rw [← filterMap_lister hcurrent] at hperm
  unfold server?
  cases hsession : c.get d.sessionNs name with
  | none =>
    cases hrenku : c.get d.client.renkuNs name with
    | none =>
      rw [List.filterMap_cons, List.filterMap_cons, hsession, hrenku] at hperm
      exact List.perm_nil.mp hperm
    | some x =>
      rw [List.filterMap_cons, List.filterMap_cons, hsession, hrenku] at hperm
      exact List.perm_singleton.mp hperm
  | some x =>
    cases hrenku : c.get d.client.renkuNs name with
    | none =>
      rw [List.filterMap_cons, List.filterMap_cons, hsession, hrenku] at hperm
      exact List.perm_singleton.mp hperm
    | some x' =>
      exact absurd (hunique d.sessionNs d.client.renkuNs name (by simp [hsession])
        (by simp [hrenku])) d.distinct

/-- What the watcher answers on a route, in some order. -/
theorem handle_listed {c : Cluster} (hcurrent : d.UpToDate c) (hunique : c.UniqueNames)
    (handler : Handler) :
    (∃ objects objects', d.watcher.handle handler = .ok objects ∧
        d.listed c handler = some objects' ∧ objects.Perm objects') ∨
      ∃ e, d.watcher.handle handler = .error e ∧ d.listed c handler = none := by
  have hother : ∀ response : Except CacheError (List Json),
      (∃ objects objects', response = .ok objects ∧ response.toOption = some objects' ∧
          objects.Perm objects') ∨ ∃ e, response = .error e ∧ response.toOption = none := by
    rintro (e | objects)
    · exact .inr ⟨e, rfl, rfl⟩
    · exact .inl ⟨objects, objects, rfl, rfl, List.Perm.refl _⟩
  cases handler with
  | jsGetAll => exact .inl ⟨_, _, CacheCollection.getAll_eq _, rfl, objects_perm hcurrent⟩
  | jsGetOne serverID =>
    have hserver := @filterMap_watched d serverID c hcurrent hunique
    exact .inl ⟨_, _, CacheCollection.getByName_eq _ _, rfl, .of_eq hserver⟩
  | jsUserID userID =>
    dsimp only [Server.handle, listed]
    by_cases hempty : userID = ""
    · subst hempty
      rw [if_pos rfl]
      exact .inl ⟨_, _, CacheCollection.getAll_eq _, rfl, objects_perm hcurrent⟩
    · rw [if_neg hempty]
      cases hvalid : d.watcher.validLabelValue userID with
      | false => exact .inr ⟨_, CacheCollection.getByUserID_invalid _ hempty hvalid caches_ne_nil, rfl⟩
      | true =>
        exact .inl ⟨_, _, getByUserID_valid hempty hvalid, rfl, (objects_perm hcurrent).filter _⟩
  | jsUserIDServerID userID serverID =>
    refine .inl ⟨_, _, CacheCollection.getByNameAndUserID_eq_filter _ _ _, rfl, .of_eq ?_⟩
    have hlabel : ∀ cache ∈ d.watcher.cachesJS.caches, (cache.2.lister[serverID]?).filter
        (fun object => decide (cache.2.userIDOf object = .str userID)) =
        (cache.2.lister[serverID]?).filter (ownedBy userID) := by
      intro cache hcache
      simp only [Cache.userIDOf, d.sameLabel cache hcache]
      rfl
    rw [List.filterMap_congr hlabel, ← filterMap_watched hcurrent hunique, List.filter_filterMap]
  | asGetAll => exact hother _
  | asGetOne serverID => exact hother _
  | asUserID userID => exact hother _
  | asUserIDServerID userID serverID => exact hother _
  | brGetAll caches => exact hother _
  | brGetOne caches buildRunID => exact hother _
  | trGetAll caches => exact hother _
  | trGetOne caches taskRunID => exact hother _

theorem alone_of_perm {objects objects' : List Json} (hperm : objects.Perm objects')
    (p : Json → Bool) (own : List Json) : objects.length ≤ 1 ∧ objects.filter p = own ↔
      objects'.length ≤ 1 ∧ objects'.filter p = own := by
  rw [← hperm.length_eq]
  refine and_congr_right fun hlength => ?_
  rcases objects with _ | ⟨object, _ | ⟨object', objects⟩⟩
  · rw [List.nil_perm.mp hperm]
  · rw [List.singleton_perm.mp hperm]
  · simp at hlength

theorem get_agrees_iff (hapi : ∀ n call, env.faults n call = none)
    (hcurrent : d.UpToDate w.cluster) (hunique : w.cluster.UniqueNames) (fault : Fault) :
    (∃ server,
      (run (serveThrough d.request env) (d.client.getServer name safeUsername) w).1 = .ok server ∧
      (run (serveThrough (fun _ => .error fault) env) (d.client.getServer name safeUsername) w).1 =
        .ok server) ↔ d.LeadsHome w.cluster safeUsername name := by
  rw [run_getServer hapi hunique, run_getServer hapi hunique, LeadsHome]
  cases hpath : d.path ("/servers/" ++ name) with
  | none =>
    simp only [request, hpath]
    exact iff_of_true ⟨_, rfl, rfl⟩ fun segments hsegments => nomatch hsegments
  | some segments =>
    cases hroute : d.watcher.route segments with
    | none =>
      simp only [request, hpath, Server.respond, hroute]
      refine iff_of_true ⟨_, rfl, rfl⟩ ?_
      rintro _ ⟨⟩ handler hhandler
      rw [hroute] at hhandler
      cases hhandler
    | some handler =>
      simp only [request, hpath, Server.respond, hroute, Option.mem_some_iff, forall_eq']
      rcases handle_listed hcurrent hunique handler with
        ⟨objects, objects', hhandle, hlisted, hperm⟩ | ⟨e, hhandle, hlisted⟩
      · have hnamed : ∀ s ∈ objects, HasName s :=
          @Server.named_respond d.watcher segments objects
            (by simp only [Server.respond, hroute, hhandle])
        have hserver? : ∀ s ∈ d.server? w.cluster name, HasName s :=
          fun s hs => ⟨name, name_of_server? hs⟩
        have hsame := same_single_iff (JsServerCache.tooMany name) safeUsername hnamed hserver?
        rw [alone_of_perm hperm] at hsame
        simp only [hhandle, hlisted, Option.mem_some_iff, forall_eq']
        rw [← hsame]
        constructor
        · rintro ⟨server, hcache, hserver⟩
          rw [hcache]
          exact hserver.symm
        · intro hcache
          exact ⟨_, hcache, rfl⟩
      · simp only [hhandle, hlisted]
        exact iff_of_true ⟨_, rfl, rfl⟩ fun objects hobjects => nomatch hobjects

/-- Another name on the way does no harm only to a user who has a server of neither name. -/
theorem leadsHome_iff_of_path {c : Cluster} {serverID : String} (hpath : d.path ("/servers/" ++ name) = some ["servers", serverID]) :
    d.LeadsHome c safeUsername name ↔ serverID = name ∨
      ∀ id ∈ [serverID, name], ∀ server ∈ d.server? c id,
        ¬ hasLabel usernameLabel safeUsername server := by
  have hlength : (d.server? c serverID).toList.length ≤ 1 := by
    cases d.server? c serverID <;> simp
  simp only [LeadsHome, hpath, Server.route, listed, Option.mem_some_iff, forall_eq', hlength,
    true_and, List.forall_mem_cons, List.not_mem_nil, IsEmpty.forall_iff, forall_const, and_true]
  constructor
  · intro hsame
    by_cases hne : serverID = name
    · exact .inl hne
    · -- a server on one side is on both sides, and so has both names
      have hnames : ∀ server, server ∈ d.server? c serverID → server ∈ d.server? c name → False := by
        intro server hid hname
        have hboth := (name_of_server? hid).symm.trans (name_of_server? hname)
        exact hne (Json.str.inj (Option.some.inj hboth))
      refine .inr ⟨fun server hserver howned => ?_, fun server hserver howned => ?_⟩
      · have hmem : server ∈ (d.server? c serverID).toList.filter
            (hasLabel usernameLabel safeUsername ·) :=
          List.mem_filter.mpr ⟨Option.mem_toList.mpr hserver, decide_eq_true howned⟩
        rw [hsame] at hmem
        exact hnames server hserver (Option.mem_toList.mp (List.mem_filter.mp hmem).1)
      · have hmem : server ∈ (d.server? c name).toList.filter
            (hasLabel usernameLabel safeUsername ·) :=
          List.mem_filter.mpr ⟨Option.mem_toList.mpr hserver, decide_eq_true howned⟩
        rw [← hsame] at hmem
        exact hnames server (Option.mem_toList.mp (List.mem_filter.mp hmem).1) hserver
  · rintro (rfl | ⟨hid, hname⟩)
    · rfl
    · have hnone : ∀ server? : Option Json,
          (∀ server ∈ server?, ¬ hasLabel usernameLabel safeUsername server) →
            server?.toList.filter (hasLabel usernameLabel safeUsername ·) = [] := by
        intro server? h
        refine List.filter_eq_nil_iff.mpr fun server hserver => ?_
        simpa using h server (Option.mem_toList.mp hserver)
      rw [hnone _ hid, hnone _ hname]

/-- For users with a username and names that an object can have, the requests are what the calls
to the cache stand for elsewhere. -/
theorem serveThrough_request (hcurrent : d.UpToDate w.cluster)
    (hwatched : env.watched = d.watcher.cachesJS.caches.map (·.1))
    (hview : env.cacheView w.cluster = w.cluster) (hapi : ∀ n call, env.faults n call = none)
    (hu : IsEscaped safeUsername) (hne : safeUsername ≠ "")
    (hvalid : d.watcher.validLabelValue safeUsername = true) (hname : IsObjectName name) :
    serveThrough d.request env (.cacheList safeUsername) w = serve env (.cacheList safeUsername) w ∧
      serveThrough d.request env (.cacheGet name) w = serve env (.cacheGet name) w := by
  constructor
  · simp only [serveThrough, serve, hapi, answer, request_list hu, if_neg hne, if_pos hvalid,
      flatMap_objects hcurrent, hwatched, hview, List.filter_flatMap]
    rfl
  · have hrequest : d.request ("/servers/" ++ name) =
        d.watcher.respond ["servers", name] := by
      simp only [request, d.serversPath name hname]
    simp only [serveThrough, serve, hapi, answer, hrequest, Server.respond, Server.route,
      Server.handle, CacheCollection.getByName_eq, filterMap_lister hcurrent, hwatched, hview]

/-- Every name that an object can have leads to the server of that name. -/
theorem leadsHome_of_isObjectName {c : Cluster} (hname : IsObjectName name) : d.LeadsHome c safeUsername name :=
  (leadsHome_iff_of_path (d.serversPath name hname)).mpr (.inl rfl)

end Deployment

/-! ### A deployment with two namespaces -/

/-- The cache of a namespace that has seen everything. -/
def cacheOf (c : Cluster) (ns : String) : Cache where
  lister := (c.sessions ns).map fun _ session => session.server
  named := by
    intro name object h
    rw [ExtTreeMap.getElem?_map] at h
    obtain ⟨session, hsession, rfl⟩ := Option.map_eq_some_iff.mp h
    exact (c.identified ns name session hsession).1
  userIDLabel := usernameLabel

def cachesOf (c : Cluster) : CacheCollection where
  caches := ["sessions", "renku"].map fun ns => (ns, cacheOf c ns)
  nodup := by simp

/-- A query and a fragment do not belong to the path, and the router redirects a trailing slash
away. -/
def pathSegments (url : String) : Option (List String) :=
  some (((PyText.splitChars '/' (url.toList.takeWhile fun c => c ≠ '?' ∧ c ≠ '#')).2.map
    String.ofList).rdropWhile (· = ""))

theorem pathSegments_of_plain {url : String} {rest : List Char}
    (hurl : url.toList = '/' :: rest) (h : ∀ c ∈ rest, c ≠ '?' ∧ c ≠ '#') :
    pathSegments url = some ((((PyText.splitChars '/' rest).1 ::
      (PyText.splitChars '/' rest).2).map String.ofList).rdropWhile (· = "")) := by
  have hplain : ∀ c ∈ '/' :: rest, decide (c ≠ '?' ∧ c ≠ '#') = true := by
    simpa using h
  unfold pathSegments
  rw [hurl, List.takeWhile_eq_self_iff.mpr hplain]
  have hsplit : PyText.splitChars '/' ([] ++ '/' :: rest) = ([],
      (PyText.splitChars '/' rest).1 :: (PyText.splitChars '/' rest).2) :=
    PyText.splitChars_append_sep (by simp) rest
  rw [List.nil_append] at hsplit
  rw [hsplit]

theorem ne_of_plain {c : Char} (h : c.isLower ∨ c.isDigit ∨ c = '-' ∨ c = '.') :
    c ≠ '/' ∧ c ≠ '?' ∧ c ≠ '#' := by
  refine ⟨?_, ?_, ?_⟩ <;> rintro rfl <;> revert h <;> decide

theorem pathSegments_users {safeUsername : String} (h : IsEscaped safeUsername) :
    pathSegments ("/users/" ++ safeUsername ++ "/servers") =
      some ["users", safeUsername, "servers"] := by
  have hplain : ∀ c ∈ safeUsername.toList, c ≠ '/' ∧ c ≠ '?' ∧ c ≠ '#' := by
    intro c hc
    rcases h c hc with hc | hc | hc
    · exact ne_of_plain (.inl hc)
    · exact ne_of_plain (.inr (.inl hc))
    · exact ne_of_plain (.inr (.inr (.inl hc)))
  have hurl : ("/users/" ++ safeUsername ++ "/servers").toList =
      '/' :: ("users".toList ++ '/' :: (safeUsername.toList ++ '/' :: "servers".toList)) := by
    simp
  have husers : ∀ c ∈ "users".toList, c ≠ '?' ∧ c ≠ '#' := PyText.forall_of_all (by decide)
  have hservers : ∀ c ∈ "servers".toList, c ≠ '?' ∧ c ≠ '#' := PyText.forall_of_all (by decide)
  have hsafe : ∀ c ∈ "users".toList ++ '/' :: (safeUsername.toList ++ '/' :: "servers".toList),
      c ≠ '?' ∧ c ≠ '#' := by
    intro c hc
    simp only [List.mem_append, List.mem_cons] at hc
    rcases hc with hc | rfl | hc | rfl | hc
    · exact husers c hc
    · decide
    · exact (hplain c hc).2
    · decide
    · exact hservers c hc
  rw [pathSegments_of_plain hurl hsafe, PyText.splitChars_append_sep (by decide),
    PyText.splitChars_append_sep fun hmem => (hplain '/' hmem).1 rfl,
    PyText.splitChars_of_not_mem (by decide)]
  simp [List.rdropWhile_eq_self_iff]

theorem pathSegments_servers {name : String} (h : IsObjectName name) :
    pathSegments ("/servers/" ++ name) = some ["servers", name] := by
  have hplain : ∀ c ∈ name.toList, c ≠ '/' ∧ c ≠ '?' ∧ c ≠ '#' :=
    fun c hc => ne_of_plain (h.2 c hc)
  have hurl : ("/servers/" ++ name).toList = '/' :: ("servers".toList ++ '/' :: name.toList) := by
    simp
  have hservers : ∀ c ∈ "servers".toList, c ≠ '?' ∧ c ≠ '#' := PyText.forall_of_all (by decide)
  have hsafe : ∀ c ∈ "servers".toList ++ '/' :: name.toList, c ≠ '?' ∧ c ≠ '#' := by
    intro c hc
    simp only [List.mem_append, List.mem_cons] at hc
    rcases hc with hc | rfl | hc
    · exact hservers c hc
    · decide
    · exact (hplain c hc).2
  rw [pathSegments_of_plain hurl hsafe, PyText.splitChars_append_sep (by decide),
    PyText.splitChars_of_not_mem fun hmem => (hplain '/' hmem).1 rfl]
  have hne : name ≠ "" := by
    rintro rfl
    exact absurd h (by decide)
  simp [List.rdropWhile_eq_self_iff, hne]

/-- The client prefers the sessions namespace. -/
def watching (c : Cluster) : Deployment where
  client := { renkuNs := "renku", sessionNs := some "sessions", bypassCacheOnFailure := true }
  sessionNs := "sessions"
  hasSessionNs := rfl
  distinct := by decide
  bypasses := rfl
  watcher := {
    cachesJS := cachesOf c
    cachesAS := ⟨[], List.nodup_nil⟩
    cachesBR := none
    cachesTR := none
    validLabelValue := fun value => value.length ≤ 63 }
  watched := List.Perm.swap _ _ _
  sameLabel := by simp [cachesOf, cacheOf]
  path := pathSegments
  usersPath := fun _ => pathSegments_users
  serversPath := fun _ => pathSegments_servers

theorem watching_upToDate (c : Cluster) : (watching c).UpToDate c := by
  intro cache hcache
  simp only [watching, cachesOf, List.map_cons, List.map_nil, List.mem_cons, List.not_mem_nil,
    or_false] at hcache
  rcases hcache with rfl | rfl <;> rfl

/-! ### Agreement -/

namespace Deployment

variable {d : Deployment} {env : Env} {w : World} {safeUsername name : String}

/-- For a user with a username and a name that an object can have it never makes a difference. -/
theorem agrees_of_isObjectName (hapi : ∀ n call, env.faults n call = none)
    (hcurrent : d.UpToDate w.cluster) (hunique : w.cluster.UniqueNames)
    (hu : IsEscaped safeUsername) (hne : safeUsername ≠ "") (hname : IsObjectName name) :
    d.Agrees env w safeUsername name := by
  intro fault
  exact ⟨(list_agrees_iff hapi hcurrent hu fault).mpr fun hempty => absurd hempty hne,
    (get_agrees_iff hapi hcurrent hunique fault).mpr (leadsHome_of_isObjectName hname)⟩

end Deployment

def answeringEnv : Env where
  faults := fun _ _ => none
  cacheView := id
  watched := ["renku", "sessions"]
  watched_nodup := by decide
  crc := fun _ => .error .requestException
  gitStatus := fun _ => .ok none
  secretStorage := fun _ _ => .response 201 none

def janesServer : Json :=
  .obj [("metadata", .obj [("name", "jane-1"), ("namespace", "renku"),
    ("labels", .obj [(usernameLabel, "jane")])])]

/-- One server, in the namespace of the service. -/
def janesWorld : World where
  cluster := Cluster.empty.set "renku" "jane-1" (.created janesServer) (by decide)
  log := []

theorem janesWorld_get {ns name : String} (hne : (ns, name) ≠ ("renku", "jane-1")) :
    janesWorld.cluster.get ns name = none := by
  rw [janesWorld, Cluster.get_set_of_ne _ _ _ hne]
  simp [Cluster.get, Cluster.empty]

theorem janesWorld_unique : janesWorld.cluster.UniqueNames := by
  have hrenku : ∀ ns name, janesWorld.cluster.get ns name ≠ none → ns = "renku" := by
    intro ns name hget
    by_contra hns
    exact hget (janesWorld_get fun h => hns (Prod.mk.inj h).1)
  intro ns ns' name h h'
  rw [hrenku ns name h, hrenku ns' name h']

theorem isEscaped_jane : IsEscaped "jane" := PyText.forall_of_all (by decide +kernel)

theorem janesWorld_server? :
    (watching janesWorld.cluster).server? janesWorld.cluster "jane-1" = some janesServer := by
  have hsessions : janesWorld.cluster.get "sessions" "jane-1" = none :=
    janesWorld_get (by decide)
  have hrenku : janesWorld.cluster.get "renku" "jane-1" = some (.created janesServer) := by
    simp [janesWorld]
  simp [Deployment.server?, watching, hsessions, hrenku, Session.created]

end RenkuNotebooks.Notebooks
