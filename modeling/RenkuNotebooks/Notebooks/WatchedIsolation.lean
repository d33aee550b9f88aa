import RenkuNotebooks.Foundation.Results
import RenkuNotebooks.Notebooks.CacheBypass
import RenkuNotebooks.Notebooks.Isolation

/-!
# Isolation behind the watcher

The requests of a user where every read of the cache is a request to the watcher, whose caches
hold what the cluster holds. Names are written into URLs as they are; a name that leads to a list
of servers lets the user see how many servers others have.
-/

namespace RenkuNotebooks.Notebooks

open Std Prog K8sWatcher

/-- A watcher and the URLs that lead to it. -/
structure Watcher extends Urls where
  server : Server
  watches : server.cachesJS.caches ≠ []

namespace Watcher

variable (v : Watcher)

/-- The namespaces whose servers are cached. -/
def namespaces : List String := v.server.cachesJS.caches.map (·.1)

theorem nodup_upTo (c : Cluster) :
    ((v.namespaces.map fun ns => (ns, cacheOf c ns)).map (·.1)).Nodup := by
  rw [List.map_map]
  exact (List.map_id _).symm ▸ v.server.cachesJS.nodup

/-- The watcher as soon as its caches have seen everything that is in the cluster. -/
def upTo (c : Cluster) : Server :=
  { v.server with cachesJS := ⟨v.namespaces.map fun ns => (ns, cacheOf c ns), v.nodup_upTo c⟩ }

/-- The response to a request for a URL. -/
def request (c : Cluster) (url : String) : Except Fault (List Json) :=
  match v.path url with
  | none => .error .unreachable
  | some segments => (v.upTo c).respond segments

/-- Every call can fail. A read of the cache that does not is a request to the watcher. -/
def serve (env : Env) (c : Call) (w : World) : c.Reply × World :=
  serveThrough (fun url =>
    match env.faults w.log.length c with
    | some fault => .error fault
    | none => v.request w.cluster url) env c w

end Watcher

/-- The sessions have names that Kubernetes lets objects have. -/
def Cluster.ObjectNamed (c : Cluster) : Prop :=
  ∀ ns name, (c.get ns name).isSome → IsObjectName name

namespace Watcher

variable (v : Watcher)

/-- In two clusters that agree on the sessions of the user the request gets the same response,
and it changes no session of another user. -/
def Isolated (api : Api) (user : User) (request : Request) : Prop :=
  ∀ (env : Env) (w w' : World), Agree user.safeUsername w w' → w.cluster.ObjectNamed →
    w'.cluster.ObjectNamed →
      respond (run (v.serve env) (api.handle user request) w).1 =
          respond (run (v.serve env) (api.handle user request) w').1 ∧
        OthersUntouched user.safeUsername w.cluster (run (v.serve env) (api.handle user request) w).2

/-- The routes that list all servers, or all servers of another user. -/
def Exposes (safeUsername : String) : Handler → Prop
  | .jsGetAll => True
  | .jsUserID userID =>
    userID = "" ∨ userID ≠ safeUsername ∧ v.server.validLabelValue userID = true
  | _ => False

/-- A look-up of the name shows nothing of other users: its URL leads to none of these routes,
and where both namespaces are the same one it does not fall back to the API, which would find each
server twice. -/
structure Conceals (client : K8sClient) (safeUsername name : String) : Prop where
  route : ∀ segments ∈ v.path ("/servers/" ++ name), ∀ handler ∈ v.server.route segments,
    ¬v.Exposes safeUsername handler
  namespaces : IsObjectName name → client.bypassCacheOnFailure = true →
    client.sessionNs ≠ some client.renkuNs

/-- A list is of the servers of somebody with a name, and a name that is looked up shows nothing
of others. -/
structure KeepsApart (api : Api) (user : User) (request : Request) : Prop where
  lists : ∀ filters, request = .userServers filters → user.safeUsername ≠ ""
  conceals : ∀ name ∈ api.lookedUp user request,
    v.Conceals api.client user.safeUsername name

end Watcher

/-! ### Names of objects -/

section ObjectNames

variable {v : Watcher} {env : Env} {api : Api} {user : User} {name : String}

/-- A list for a label value that the watcher does not take. -/
def Watcher.refuses (v : Watcher) : Call → Bool
  | .cacheList safeUsername => safeUsername ≠ "" && !v.server.validLabelValue safeUsername
  | _ => false

/-- The same services with a cache that is asked for users and names and not for URLs. -/
def Watcher.plain (v : Watcher) (env : Env) : Env :=
  { env with
    faults := fun n c =>
      (env.faults n c).or (if v.refuses c = true then some (.status 500) else none)
    cacheView := id
    watched := v.namespaces
    watched_nodup := v.server.cachesJS.nodup }

theorem plain_faults {call : Call} (h : v.refuses call = false) (n : Nat) :
    (v.plain env).faults n call = env.faults n call := by
  simp [Watcher.plain, h]

/-- Calls other than reads of the cache go where they always go. -/
theorem serve_eq_plain {call : Call} (hrefuses : v.refuses call = false) {w : World}
    (hserve : v.serve env call w = serve env call w)
    (hanswer : answer env w call = answer (v.plain env) w call) :
    v.serve env call w = serve (v.plain env) call w := by
  rw [hserve, serve, serve, plain_faults hrefuses, hanswer]

theorem Watcher.getByName_upTo (v : Watcher) (c : Cluster) (serverID : String) :
    (v.upTo c).cachesJS.getByName serverID =
      .ok (v.namespaces.filterMap fun ns => (c.get ns serverID).map (·.server)) := by
  simp only [CacheCollection.getByName_eq, upTo, List.filterMap_map, Function.comp_def, cacheOf,
    ExtTreeMap.getElem?_map]
  rfl

theorem Watcher.getByNameAndUserID_upTo (v : Watcher) (c : Cluster) (serverID userID : String) :
    (v.upTo c).cachesJS.getByNameAndUserID serverID userID =
      .ok (v.namespaces.filterMap fun ns =>
        ((c.get ns serverID).map (·.server)).filter (Deployment.ownedBy userID)) := by
  simp only [CacheCollection.getByNameAndUserID_eq_filter, upTo, List.filterMap_map,
    Function.comp_def, cacheOf, Cache.userIDOf, ExtTreeMap.getElem?_map]
  rfl

theorem objects_upTo_filter (c : Cluster) (userID : String) :
    ((v.upTo c).cachesJS.caches.flatMap fun cache =>
        cache.2.objects.filter (hasLabel cache.2.userIDLabel userID ·)) =
      v.namespaces.flatMap fun ns => labelledServers c ns usernameLabel userID := by
  simp only [Watcher.upTo, List.flatMap_map, Cache.objects, cacheOf, ExtTreeMap.toList_map,
    List.map_map, labelledServers]
  rfl

theorem caches_upTo_ne_nil (c : Cluster) : (v.upTo c).cachesJS.caches ≠ [] := by
  simpa [Watcher.upTo, Watcher.namespaces] using v.watches

/-- The list of the servers with one label value. -/
theorem handle_jsUserID (c : Cluster) {userID : String} (hne : userID ≠ "") :
    (v.upTo c).handle (.jsUserID userID) =
      if v.server.validLabelValue userID = true then
        .ok (v.namespaces.flatMap fun ns => labelledServers c ns usernameLabel userID)
      else .error (.invalidSelector userID) := by
  have hvalue : (v.upTo c).validLabelValue = v.server.validLabelValue := rfl
  simp only [Server.handle, hvalue]
  cases hvalid : v.server.validLabelValue userID with
  | true => rw [CacheCollection.getByUserID_eq _ hne hvalid, objects_upTo_filter, if_pos rfl]
  | false =>
    rw [CacheCollection.getByUserID_invalid _ hne hvalid (caches_upTo_ne_nil c)]
    rfl

/-- The reads that reach the cache as they are meant. -/
def Call.Routed : Call → Prop
  | .cacheGet name => IsObjectName name
  | .cacheList safeUsername => IsEscaped safeUsername ∧ safeUsername ≠ ""
  | _ => True

theorem Call.About.routed (hname : IsObjectName name) {call : Call} (h : call.About name) :
    call.Routed := by
  cases call with
  | cacheGet n => exact h ▸ hname
  | cacheList u => exact h.elim
  | _ => trivial

theorem Call.Lists.routed {u : String} (hu : IsEscaped u) (hne : u ≠ "") {call : Call}
    (h : call.Lists u) : call.Routed := by
  cases call with
  | cacheGet n => exact h.elim
  | cacheList safeUsername => exact h ▸ ⟨hu, hne⟩
  | _ => trivial

/-- For names of objects and users with a name the watcher is asked what the cache is asked
elsewhere. -/
theorem serve_eq_of_routed {call : Call} (h : call.Routed) (w : World) :
    v.serve env call w = serve (v.plain env) call w := by
  cases call with
  | cacheGet name =>
    have hrequest : v.request w.cluster ("/servers/" ++ name) =
        .ok (v.namespaces.filterMap fun ns => (w.cluster.get ns name).map (·.server)) := by
      simp only [Watcher.request, v.serversPath name h, Server.respond, Server.route,
        Server.handle, v.getByName_upTo]
    rw [Watcher.serve, serve, plain_faults rfl]
    simp only [serveThrough, hrequest]
    cases env.faults w.log.length (.cacheGet name) <;> rfl
  | cacheList safeUsername =>
    obtain ⟨hu, hne⟩ := h
    have hrequest : v.request w.cluster ("/users/" ++ safeUsername ++ "/servers") =
        (v.upTo w.cluster).respond ["users", safeUsername, "servers"] := by
      rw [Watcher.request, v.usersPath safeUsername hu]
    have hfaults : (v.plain env).faults w.log.length (.cacheList safeUsername) =
        (env.faults w.log.length (.cacheList safeUsername)).or
          (if v.server.validLabelValue safeUsername = true then none else some (.status 500)) := by
      simp only [Watcher.plain, Watcher.refuses, ne_eq, hne, not_false_eq_true, decide_true,
        Bool.true_and, Bool.not_eq_true', ← Bool.not_eq_true, ite_not]
    rw [Watcher.serve, serve, hfaults]
    simp only [serveThrough, hrequest, Server.respond, Server.route, handle_jsUserID _ hne]
    cases env.faults w.log.length (.cacheList safeUsername) with
    | some fault => rfl
    | none => cases v.server.validLabelValue safeUsername <;> rfl
  | _ => exact serve_eq_plain rfl rfl rfl

/-- So is a program that makes no other reads. -/
theorem run_eq_of_routed {α : Type} {p : Service α} (hp : p.Calls Call.Routed) (w : World) :
    run (v.serve env) p w = run (serve (v.plain env)) p w :=
  hp.run_congr (fun _ _ hc => serve_eq_of_routed hc _) w

theorem isolated_of_plain {request : Request}
    (hns : ∀ name ∈ api.lookedUp user request, api.client.bypassCacheOnFailure = true →
      api.client.sessionNs ≠ some api.client.renkuNs)
    (h : ∀ env w, run (v.serve env) (api.handle user request) w =
      run (serve (v.plain env)) (api.handle user request) w) : v.Isolated api user request := by
  intro env w w' hagree _ _
  have hview : (v.plain env).cacheView = id := rfl
  rw [h, h]
  exact requests_isolated hview user request hns hagree

theorem isolated_list {request : Request} (hlookedUp : api.lookedUp user request = none)
    (hu : IsEscaped user.safeUsername) (hne : user.safeUsername ≠ "") :
    v.Isolated api user request := by
  apply isolated_of_plain
  · intro name hname
    rw [hlookedUp] at hname
    cases hname
  · intro env w
    exact run_eq_of_routed ((handle_lists hlookedUp).mono fun c hc => hc.routed hu hne) w

/-- A request that neither lists nor looks up is refused. -/
theorem handle_refused {request : Request} (hlookedUp : api.lookedUp user request = none)
    (hlists : ∀ filters, request ≠ .userServers filters) :
    ∃ e, api.handle user request = .raise e := by
  cases request with
  | userServers filters => exact absurd rfl (hlists filters)
  | userServer serverName => cases hlookedUp
  | serverLogs serverName maxLines => cases hlookedUp
  | stopServer serverName forced => cases hlookedUp
  | patchServer serverName body =>
    dsimp only [Api.handle, Api.patchServer]
    cases hpvs : api.config.sessions.storage.pvsEnabled with
    | false => exact ⟨_, rfl⟩
    | true =>
      cases user with
      | anonymous u => exact ⟨_, rfl⟩
      | registered u => simp [Api.lookedUp, hpvs] at hlookedUp

theorem isolated_refused {request : Request} {e : PyError}
    (h : api.handle user request = .raise e) : v.Isolated api user request := by
  intro env w w' _ _ _
  rw [h]
  exact ⟨rfl, fun ns n x hx _ => hx⟩

theorem isolated_objectName {request : Request} (hlookedUp : api.lookedUp user request = some name)
    (hname : IsObjectName name) (hns : api.client.bypassCacheOnFailure = true →
      api.client.sessionNs ≠ some api.client.renkuNs) : v.Isolated api user request := by
  obtain ⟨f, e, heq, hnone, hsome, -⟩ := handle_looksUp hlookedUp
  have hcalls : (api.handle user request).Calls (Call.About name) := by
    rw [heq]
    apply Calls.bind (K8sClient.calls_getServer fun c hc => hc.about)
    rintro (_ | server)
    · rw [hnone]
      trivial
    · exact hsome server
  apply isolated_of_plain
  · exact fun _ _ => hns
  · exact fun env w => run_eq_of_routed (hcalls.mono fun c hc => hc.routed hname) w

end ObjectNames

/-! ### Other names -/

section OtherNames

variable {v : Watcher} {env : Env} {k : K8sClient} {u name : String} {c c' : Cluster}

/-- No session has the name. -/
def Absent (name : String) (c : Cluster) : Prop :=
  ∀ ns, c.get ns name = none

theorem Cluster.ObjectNamed.absent (hc : c.ObjectNamed) (hname : ¬IsObjectName name) :
    Absent name c := by
  intro ns
  by_contra hget
  exact hname (hc ns name (Option.isSome_iff_ne_none.mpr hget))

/-- A call about a name that no session has finds and changes nothing. -/
theorem serve_absent (hc : Absent name c) (hc' : Absent name c') {call : Call}
    (h : call.About name) {w w' : World} (hw : Holding c c' w w') :
    (serve env call w).2.cluster = c ∧ (serve env call w').2.cluster = c' ∧
      ((serve env call w).1 = (serve env call w').1 ∨ call = .cacheGet name) := by
  obtain ⟨hlog, rfl, rfl⟩ := hw
  unfold serve
  rw [← hlog]
  cases env.faults w.log.length call with
  | some fault => exact ⟨rfl, rfl, .inl rfl⟩
  | none =>
    cases call with
    | cacheGet n =>
      obtain rfl := h
      exact ⟨rfl, rfl, .inr rfl⟩
    | cacheList safeUsername => exact h.elim
    | listServers ns label => exact h.elim
    | createServer ns n manifest => exact h.elim
    | postSecret payload => exact h.elim
    | validateClassStorage classId => exact ⟨rfl, rfl, .inl rfl⟩
    | gitStatus n => exact ⟨rfl, rfl, .inl rfl⟩
    | deleteServer ns n forced =>
      obtain rfl := h
      simp [answer, Cluster.deleteServer, hc ns, hc' ns]
    | patchServer ns n patch =>
      obtain rfl := h
      simp [answer, Cluster.patchServer, Cluster.update, hc ns, hc' ns]
    | patchStatefulset ns n ops =>
      obtain rfl := h
      simp [answer, Cluster.patchStatefulset, Cluster.update, hc ns, hc' ns]
    | patchImageSecret ns n ops =>
      obtain rfl := h
      simp [answer, Cluster.patchImageSecret, Cluster.update, hc ns, hc' ns]
    | getServer ns n =>
      obtain rfl := h
      simp [answer, hc ns, hc' ns]
    | readStatefulset ns n =>
      obtain rfl := h
      simp [answer, hc ns, hc' ns]
    | readImageSecret ns n =>
      obtain rfl := h
      simp [answer, hc ns, hc' ns]
    | readPodLog ns n container lines =>
      obtain rfl := h
      simp [answer, hc ns, hc' ns]

/-- The reply to the look-up in the cache: the same failure, or what the watcher has. -/
theorem serve_cacheGet {w w' : World} (hw : Holding c c' w w') :
    Holding c c' (v.serve env (.cacheGet name) w).2 (v.serve env (.cacheGet name) w').2 ∧
      ((∃ fault, (v.serve env (.cacheGet name) w).1 = .error fault ∧
          (v.serve env (.cacheGet name) w').1 = .error fault) ∨
        (v.serve env (.cacheGet name) w).1 = v.request c ("/servers/" ++ name) ∧
          (v.serve env (.cacheGet name) w').1 = v.request c' ("/servers/" ++ name)) := by
  obtain ⟨hlog, rfl, rfl⟩ := hw
  simp only [Watcher.serve, serveThrough, ← hlog]
  refine ⟨⟨rfl, rfl, rfl⟩, ?_⟩
  cases env.faults w.log.length (.cacheGet name) with
  | some fault => exact .inl ⟨fault, rfl, rfl⟩
  | none => exact .inr ⟨rfl, rfl⟩

/-- Where the watcher has the same for the name, all calls about it get the same answer. -/
theorem serve_alike_of_request (hc : Absent name c) (hc' : Absent name c')
    (hsame : v.request c ("/servers/" ++ name) = v.request c' ("/servers/" ++ name)) {call : Call}
    (h : call.About name) {w w' : World} (hw : Holding c c' w w') :
    (v.serve env call w).1 = (v.serve env call w').1 ∧
      Holding c c' (v.serve env call w).2 (v.serve env call w').2 := by
  by_cases hget : call = .cacheGet name
  · subst hget
    obtain ⟨hw, ⟨fault, hreply, hreply'⟩ | ⟨hreply, hreply'⟩⟩ := @serve_cacheGet v env name c c' w w' hw
    · exact ⟨hreply.trans hreply'.symm, hw⟩
    · exact ⟨hreply.trans (hsame.trans hreply'.symm), hw⟩
  · have hserve : ∀ w, v.serve env call w = serve env call w := by
      cases call with
      | cacheGet n => exact absurd (congrArg Call.cacheGet h) hget
      | cacheList safeUsername => exact h.elim
      | _ => exact fun _ => rfl
    obtain ⟨hcluster, hcluster', hreply⟩ := @serve_absent env name c c' hc hc' call h w w' hw
    rw [hserve, hserve]
    refine ⟨hreply.resolve_right hget, ⟨?_, hcluster, hcluster'⟩⟩
    rw [serve_log, serve_log, hw.log]

/-- The watcher has one server at most, and it is not the user's. -/
def Hidden (u : String) (reply : Except Fault (List Json)) : Prop :=
  ∃ server : Option Json, reply = .ok server.toList ∧ Unowned u server

theorem cacheGet_hidden (h : Hidden u (v.request c ("/servers/" ++ name)))
    (h' : Hidden u (v.request c' ("/servers/" ++ name))) :
    Related (v.serve env) (Holding c c') (JsServerCache.getServer name)
      (JsServerCache.getServer name)
      (fun a b w w' => (Unowned u a ∧ Unowned u b) ∧ Holding c c' w w') (Holding c c') := by
  apply Related.bind fun reply reply' w w' =>
    ((∃ fault, reply = .error fault ∧ reply' = .error fault) ∨ Hidden u reply ∧ Hidden u reply') ∧
      Holding c c' w w'
  · intro w w' hw
    obtain ⟨hw, hfault | ⟨hreply, hreply'⟩⟩ := @serve_cacheGet v env name c c' w w' hw
    · exact ⟨.inl hfault, hw⟩
    · exact ⟨.inr ⟨hreply ▸ h, hreply' ▸ h'⟩, hw⟩
  · intro reply reply' w w' hw
    obtain ⟨⟨fault, rfl, rfl⟩ | ⟨⟨a, rfl, ha⟩, ⟨b, rfl, hb⟩⟩, hw⟩ := hw
    · cases fault with
      | status n => exact ⟨rfl, hw⟩
      | unreachable => exact ⟨rfl, hw⟩
    · have hsingle : ∀ server : Option Json,
          single (JsServerCache.tooMany name) server.toList = .ok server :=
        fun server => Deployment.single_eq_ok_iff.mpr rfl
      simp only [JsServerCache.orCacheError, bind_eq, Prog.bind, run_ofExcept, hsingle]
      exact ⟨⟨ha, hb⟩, hw⟩

theorem apiGet_absent (hc : Absent name c) (hc' : Absent name c') (ns : String) :
    Related (v.serve env) (Holding c c') (NamespacedK8sClient.getServer ns name)
      (NamespacedK8sClient.getServer ns name)
      (fun a b w w' => (a = none ∧ b = none) ∧ Holding c c' w w') (Holding c c') := by
  apply Related.bind fun reply reply' w w' =>
    (∃ fault, reply = .error fault ∧ reply' = .error fault) ∧ Holding c c' w w'
  · intro w w' hw
    refine ⟨?_, serve_lookup_holding (.getServer ns name) rfl hw⟩
    rcases @serve_replies env c c' (.getServer ns name) w w' hw with hfault | ⟨hreply, hreply'⟩
    · exact hfault
    · refine ⟨.status 404, hreply.trans ?_, hreply'.trans ?_⟩
      · simp only [answer, hw.left, hc ns]
        rfl
      · simp only [answer, hw.right, hc' ns]
        rfl
  · intro reply reply' w w' hw
    obtain ⟨⟨fault, rfl, rfl⟩, hw⟩ := hw
    cases fault with
    | status n =>
      dsimp only [exceptApi]
      split
      · exact ⟨⟨rfl, rfl⟩, hw⟩
      · exact ⟨rfl, hw⟩
    | unreachable => exact ⟨rfl, hw⟩

theorem getServerFromApi_absent (hc : Absent name c) (hc' : Absent name c') :
    Related (v.serve env) (Holding c c') (k.getServerFromApi name) (k.getServerFromApi name)
      (fun a b w w' => (Unowned u a ∧ Unowned u b) ∧ Holding c c' w w') (Holding c c') := by
  have hnone : Unowned u none := fun s hs => nomatch hs
  apply Related.bind fun a b w w' => (a = none ∧ b = none) ∧ Holding c c' w w'
  · unfold K8sClient.getSessionServer
    split
    · exact related_ret fun w w' hw => ⟨⟨rfl, rfl⟩, hw⟩
    · exact apiGet_absent hc hc' _
  · intro a b w w' hw
    obtain ⟨⟨rfl, rfl⟩, hw⟩ := hw
    apply Related.bind _ (apiGet_absent hc hc' k.renkuNs) _ w w' hw
    intro a b w w' hw
    obtain ⟨⟨rfl, rfl⟩, hw⟩ := hw
    exact ⟨⟨hnone, hnone⟩, hw⟩

/-- Where the watcher has no server of the user for the name, none is found. -/
theorem getServer_hidden (hc : Absent name c) (hc' : Absent name c')
    (h : Hidden u (v.request c ("/servers/" ++ name)))
    (h' : Hidden u (v.request c' ("/servers/" ++ name))) :
    Related (v.serve env) (Holding c c') (k.getServer name u) (k.getServer name u)
      (fun a b w w' => (a = none ∧ b = none) ∧ Holding c c' w w') (Holding c c') := by
  apply Related.bind
  · apply Related.tryCatch _ (cacheGet_hidden h h')
    intro e
    split
    · exact getServerFromApi_absent hc hc'
    · exact related_raise fun w w' hw => hw
  · intro a b
    refine related_ret fun w w' hw => ?_
    exact ⟨⟨ownServer_of_unowned hw.1.1, ownServer_of_unowned hw.1.2⟩, hw.2⟩

/-- The servers of one name that a watcher has: the same, or none of the user. -/
theorem byName_same_or_hidden {w w' : World} (h : Agree u w w') (serverID : String)
    (p : Json → Bool) :
    ((v.namespaces.filterMap fun ns => ((w.cluster.get ns serverID).map (·.server)).filter p) =
        v.namespaces.filterMap fun ns => ((w'.cluster.get ns serverID).map (·.server)).filter p) ∨
      Hidden u (.ok (v.namespaces.filterMap fun ns =>
          ((w.cluster.get ns serverID).map (·.server)).filter p)) ∧
        Hidden u (.ok (v.namespaces.filterMap fun ns =>
          ((w'.cluster.get ns serverID).map (·.server)).filter p)) := by
  rcases h.sameAt_or_unclaimed serverID with hsame | ⟨hc, hc'⟩
  · exact .inl (by simp only [hsame.get])
  · right
    have hhidden : ∀ c : Cluster, Unclaimed u serverID c → Hidden u (.ok (v.namespaces.filterMap
        fun ns => ((c.get ns serverID).map (·.server)).filter p)) := by
      intro c hc
      obtain ⟨server, hserver, hunowned⟩ :=
        single_cached_of_unclaimed v.server.cachesJS.nodup hc (JsServerCache.tooMany serverID)
      have hlist : (v.namespaces.filterMap fun ns => (c.get ns serverID).map (·.server)) =
          server.toList :=
        Deployment.single_eq_ok_iff.mp hserver
      refine ⟨server.filter p, ?_, ?_⟩
      · rw [← List.filter_filterMap, hlist]
        cases server with
        | none => rfl
        | some s => cases hp : p s <;> simp [Option.filter, hp]
      · intro s hs
        exact hunowned s (Option.filter_eq_some_iff.mp hs).1
    exact ⟨hhidden _ hc, hhidden _ hc'⟩

/-- On a route that does not expose others the watcher has the same, or nothing of the user. -/
theorem request_same_or_hidden {w w' : World} (h : Agree u w w')
    (hroute : ∀ segments ∈ v.path ("/servers/" ++ name), ∀ handler ∈ v.server.route segments,
      ¬v.Exposes u handler) :
    v.request w.cluster ("/servers/" ++ name) = v.request w'.cluster ("/servers/" ++ name) ∨
      Hidden u (v.request w.cluster ("/servers/" ++ name)) ∧
        Hidden u (v.request w'.cluster ("/servers/" ++ name)) := by
  unfold Watcher.request
  cases hpath : v.path ("/servers/" ++ name) with
  | none => exact .inl rfl
  | some segments =>
    have hroutes : ∀ c, (v.upTo c).route segments = v.server.route segments := fun _ => rfl
    simp only [Server.respond, hroutes]
    cases hhandler : v.server.route segments with
    | none => exact .inl rfl
    | some handler =>
      have hexposes := hroute segments hpath handler hhandler
      cases handler with
      | jsGetAll => exact absurd trivial hexposes
      | jsGetOne serverID =>
        have hall : ∀ server : Option Json, server.filter (fun _ => true) = server := by
          intro server
          cases server <;> rfl
        have hone := byName_same_or_hidden (v := v) h serverID fun _ => true
        simpa only [Server.handle, v.getByName_upTo, hall, Except.ok.injEq] using hone
      | jsUserID userID =>
        by_cases hempty : userID = ""
        · exact absurd (.inl hempty) hexposes
        · left
          simp only [handle_jsUserID _ hempty]
          by_cases hvalid : v.server.validLabelValue userID = true
          · have huser : userID = u := by
              by_contra hne
              exact hexposes (.inr ⟨hne, hvalid⟩)
            simp only [huser, h.labelledServers_eq]
          · simp only [if_neg hvalid]
      | jsUserIDServerID userID serverID =>
        have hone := byName_same_or_hidden (v := v) h serverID (Deployment.ownedBy userID)
        simpa only [Server.handle, v.getByNameAndUserID_upTo, Except.ok.injEq] using hone
      | _ => exact .inl rfl

/-- For a name that no session has all depends on the route of its URL. -/
theorem isolated_otherName {api : Api} {user : User} {request : Request}
    (hlookedUp : api.lookedUp user request = some name) (hname : ¬IsObjectName name)
    (hroute : ∀ segments ∈ v.path ("/servers/" ++ name), ∀ handler ∈ v.server.route segments,
      ¬v.Exposes user.safeUsername handler) : v.Isolated api user request := by
  intro env w w' hagree hw hw'
  have hc := hw.absent hname
  have hc' := hw'.absent hname
  have hholding : Holding w.cluster w'.cluster w w' := ⟨hagree.log, rfl, rfl⟩
  obtain ⟨f, e, heq, hnone, hsome, -⟩ := handle_looksUp hlookedUp
  have hrel : Related (v.serve env) (Holding w.cluster w'.cluster) (api.handle user request)
      (api.handle user request) (fun a b w₁ w₁' => a = b ∧ Holding w.cluster w'.cluster w₁ w₁')
      (Holding w.cluster w'.cluster) := by
    rw [heq]
    rcases request_same_or_hidden hagree hroute with hsame | ⟨hhidden, hhidden'⟩
    · have hcalls : ((api.client.getServer name user.safeUsername).bind f).Calls
          (Call.About name) := by
        apply Calls.bind (K8sClient.calls_getServer fun c hc => hc.about)
        rintro (_ | server)
        · rw [hnone]
          trivial
        · exact hsome server
      exact hcalls.related fun call w₁ w₁' hcall hw₁ =>
        serve_alike_of_request hc hc' hsame hcall hw₁
    · apply Related.bind _ (getServer_hidden hc hc' hhidden hhidden')
      intro a b w₁ w₁' hab
      obtain ⟨⟨rfl, rfl⟩, hab⟩ := hab
      rw [hnone]
      exact ⟨rfl, hab⟩
  refine ⟨congrArg respond (hrel.outcome_eq hholding), fun ns n x hx _ => ?_⟩
  rw [(hrel.final hholding).left, hx]

end OtherNames

/-! ### Servers of others -/

section Others

variable {v : Watcher} {env : Env} {api : Api} {user : User} {u name other : String}

/-- Two worlds without a session of the user. -/
theorem agree_of_unowned {u : String} {c c' : Cluster} (hc : c.Unique) (hc' : c'.Unique)
    (hunowned : ∀ ns n x, c.get ns n = some x → ¬Owned u x)
    (hunowned' : ∀ ns n x, c'.get ns n = some x → ¬Owned u x) (log : List Call) :
    Agree u ⟨c, log⟩ ⟨c', log⟩ :=
  ⟨rfl, hc, hc', fun ns n x howned => iff_of_false (fun h => hunowned ns n x h howned)
    fun h => hunowned' ns n x h howned⟩

/-- A server without annotations. -/
def bareServer (ns n owner : String) : Json :=
  .obj [("metadata", .obj [("name", n), ("namespace", ns), ("labels", .obj [(usernameLabel, owner)])])]

def bareSession (ns n owner : String) : Session := .created (bareServer ns n owner)

theorem owned_bareSession_iff {ns n : String} : Owned u (bareSession ns n other) ↔ other = u := by
  rw [Owned, hasLabel]
  show some (Json.str other) = some (.str u) ↔ _
  simp

theorem identified_bareSession (ns n owner : String) :
    Identified ns n (bareSession ns n owner).server :=
  ⟨rfl, rfl⟩

/-- One session. -/
def alone (ns n owner : String) : Cluster :=
  Cluster.empty.set ns n (bareSession ns n owner) (identified_bareSession ns n owner)

theorem get_empty (ns n : String) : Cluster.empty.get ns n = none := by
  simp [Cluster.get, Cluster.empty]

theorem get_alone {ns n owner ns' n' : String} {x : Session}
    (h : (alone ns n owner).get ns' n' = some x) :
    ns' = ns ∧ n' = n ∧ x = bareSession ns n owner := by
  by_cases hplace : (ns', n') = (ns, n)
  · obtain ⟨rfl, rfl⟩ := Prod.mk.inj hplace
    rw [alone, Cluster.get_set] at h
    exact ⟨rfl, rfl, (Option.some.inj h).symm⟩
  · rw [alone, Cluster.get_set_of_ne _ _ _ hplace, get_empty] at h
    cases h

/-- A second session of the same user. -/
def pair (ns owner : String) : Cluster :=
  (alone ns "a" owner).set ns "b" (bareSession ns "b" owner) (identified_bareSession ns "b" owner)

theorem get_pair {ns owner ns' n' : String} {x : Session} (h : (pair ns owner).get ns' n' = some x) :
    ns' = ns ∧ (n' = "a" ∨ n' = "b") ∧ x = bareSession ns n' owner := by
  by_cases hplace : (ns', n') = (ns, "b")
  · obtain ⟨rfl, rfl⟩ := Prod.mk.inj hplace
    rw [pair, Cluster.get_set] at h
    exact ⟨rfl, .inr rfl, (Option.some.inj h).symm⟩
  · rw [pair, Cluster.get_set_of_ne _ _ _ hplace] at h
    obtain ⟨rfl, rfl, rfl⟩ := get_alone h
    exact ⟨rfl, .inl rfl, rfl⟩

theorem unique_of_one_namespace {c : Cluster} {ns : String}
    (h : ∀ ns' n x, c.get ns' n = some x → ns' = ns) : c.Unique := by
  intro n ns₁ ns₂ h₁ h₂
  obtain ⟨x₁, hx₁⟩ := Option.isSome_iff_exists.mp h₁
  obtain ⟨x₂, hx₂⟩ := Option.isSome_iff_exists.mp h₂
  rw [h ns₁ n x₁ hx₁, h ns₂ n x₂ hx₂]

theorem agree_alone {ns n : String} (hne : other ≠ u) : Agree u ⟨.empty, []⟩ ⟨alone ns n other, []⟩ := by
  apply agree_of_unowned Cluster.empty_unique (unique_of_one_namespace fun _ _ _ h => (get_alone h).1)
  · intro ns n x h
    rw [get_empty] at h
    cases h
  · intro ns' n' x h
    rw [(get_alone h).2.2, owned_bareSession_iff]
    exact hne

theorem agree_pair {ns : String} (hne : other ≠ u) : Agree u ⟨.empty, []⟩ ⟨pair ns other, []⟩ := by
  apply agree_of_unowned Cluster.empty_unique (unique_of_one_namespace fun _ _ _ h => (get_pair h).1)
  · intro ns n x h
    rw [get_empty] at h
    cases h
  · intro ns' n' x h
    rw [(get_pair h).2.2, owned_bareSession_iff]
    exact hne

theorem empty_objectNamed : Cluster.empty.ObjectNamed := by
  intro ns n h
  rw [get_empty] at h
  cases h

theorem alone_objectNamed {ns n : String} (hname : IsObjectName n) : (alone ns n other).ObjectNamed := by
  intro ns' n' h
  obtain ⟨x, hx⟩ := Option.isSome_iff_exists.mp h
  rw [(get_alone hx).2.1]
  exact hname

theorem pair_objectNamed {ns : String} : (pair ns other).ObjectNamed := by
  intro ns' n' h
  obtain ⟨x, hx⟩ := Option.isSome_iff_exists.mp h
  rcases (get_pair hx).2.1 with rfl | rfl
  · decide
  · decide

/-- A look-up that finds nothing in one world and too much in the other. -/
theorem not_isolated_of_lookup {request : Request} (hlookedUp : api.lookedUp user request = some name)
    {w w' : World} (hagree : Agree user.safeUsername w w') (hw : w.cluster.ObjectNamed)
    (hw' : w'.cluster.ObjectNamed) {message : String}
    (hrun : (run (v.serve env) (api.client.getServer name user.safeUsername) w).1 = .ok none)
    (hrun' : (run (v.serve env) (api.client.getServer name user.safeUsername) w').1 =
      .error (.generic (programmingError message maintainersDetail))) :
    ¬v.Isolated api user request := by
  intro hisolated
  obtain ⟨f, e, heq, hnone, -, hdiffers⟩ := handle_looksUp hlookedUp
  have hresponse := (hisolated env w w' hagree hw hw').1
  rw [heq, run_bind_ok _ (Prod.ext hrun rfl), run_bind_error _ (Prod.ext hrun' rfl), hnone]
    at hresponse
  exact hdiffers message hresponse

/-! #### Lists of servers -/

theorem single_of_two {tooMany : Nat → PyError} {objects : List Json} {a b : Json}
    (ha : a ∈ objects) (hb : b ∈ objects) (hne : a ≠ b) :
    single tooMany objects = .error (tooMany objects.length) := by
  rcases objects with _ | ⟨object, _ | ⟨object', objects⟩⟩
  · cases ha
  · rw [List.mem_singleton] at ha hb
    exact absurd (ha.trans hb.symm) hne
  · rfl

/-- The servers that a list shows: all, or those with a label. -/
def Lists (v : Watcher) (c : Cluster) (p : Json → Bool) (objects : List Json) : Prop :=
  objects = v.namespaces.flatMap fun ns => ((c.list ns).map (·.2.server)).filter p

theorem Lists.mem_iff {c : Cluster} {p : Json → Bool} {objects : List Json}
    (h : Lists v c p objects) {server : Json} : server ∈ objects ↔
      ∃ ns ∈ v.namespaces, ∃ n x, c.get ns n = some x ∧ x.server = server ∧ p server = true := by
  rw [h]
  simp only [List.mem_flatMap, List.mem_filter, List.mem_map, Prod.exists]
  constructor
  · rintro ⟨ns, hns, ⟨n, x, hmem, rfl⟩, hp⟩
    exact ⟨ns, hns, n, x, Cluster.mem_list_iff.mp hmem, rfl, hp⟩
  · rintro ⟨ns, hns, n, x, hget, rfl, hp⟩
    exact ⟨ns, hns, ⟨n, x, Cluster.mem_list_iff.mpr hget, rfl⟩, hp⟩

theorem Lists.eq_nil {p : Json → Bool} {objects : List Json} (h : Lists v .empty p objects) :
    objects = [] := by
  rw [List.eq_nil_iff_forall_not_mem]
  intro server hmem
  obtain ⟨ns, -, n, x, hget, -⟩ := h.mem_iff.mp hmem
  rw [get_empty] at hget
  cases hget

theorem Watcher.exists_namespace (v : Watcher) : ∃ ns, ns ∈ v.namespaces :=
  List.exists_mem_of_ne_nil v.namespaces (by simpa [Watcher.namespaces] using v.watches)

theorem lists_getAll (v : Watcher) (c : Cluster) :
    ∃ objects, (v.upTo c).cachesJS.getAll = .ok objects ∧ Lists v c (fun _ => true) objects := by
  refine ⟨_, CacheCollection.getAll_eq _, ?_⟩
  simp only [Lists, Watcher.upTo, List.flatMap_map, Cache.objects, cacheOf, ExtTreeMap.toList_map,
    List.map_map, List.filter_true]
  rfl

theorem append_ne_self (u : String) : u ++ "x" ≠ u := by
  intro h
  have hlength := congrArg String.length h
  simp at hlength

/-- What an exposing route gives, and another user whose servers are among it. -/
theorem exists_lists_of_exposes {handler : Handler} (h : v.Exposes u handler) :
    ∃ (p : Json → Bool) (other : String), other ≠ u ∧ (∀ ns n, p (bareServer ns n other) = true) ∧
      ∀ c, ∃ objects, (v.upTo c).handle handler = .ok objects ∧ Lists v c p objects := by
  cases handler with
  | jsGetAll => exact ⟨fun _ => true, u ++ "x", append_ne_self u, fun _ _ => rfl, lists_getAll v⟩
  | jsUserID userID =>
    by_cases hempty : userID = ""
    · subst hempty
      exact ⟨fun _ => true, u ++ "x", append_ne_self u, fun _ _ => rfl, lists_getAll v⟩
    · obtain ⟨hne, hvalid⟩ := h.resolve_left hempty
      refine ⟨fun server => hasLabel usernameLabel userID server, userID, hne, fun ns n => ?_,
        fun c => ⟨_, ?_, rfl⟩⟩
      · exact decide_eq_true (rfl : (bareServer ns n userID).dig _ = _)
      · rw [handle_jsUserID c hempty, if_pos hvalid]
        rfl
  | _ => exact h.elim

/-- A look-up in the cache that no fault hits. -/
theorem run_getServer_calm {w : World} {objects : List Json}
    (hrequest : v.request w.cluster ("/servers/" ++ name) = .ok objects) (k : K8sClient) :
    (run (v.serve calmEnv) (k.getServer name u) w).1 =
      (single (JsServerCache.tooMany name) objects).map (K8sClient.ownServer u) := by
  unfold K8sClient.getServer K8sClient.orBypass JsServerCache.getServer
  simp only [bind_eq, pure_eq, run_bind, run_tryCatch, run_perform, Watcher.serve, serveThrough,
    calmEnv, hrequest, JsServerCache.orCacheError, run_ret, run_ofExcept]
  cases hsingle : single (JsServerCache.tooMany name) objects with
  | ok server => rfl
  | error e =>
    obtain ⟨found, rfl⟩ := Deployment.exists_of_single_error hsingle
    rfl

theorem not_isolated_of_route {request : Request} {segments : List String} {handler : Handler}
    (hlookedUp : api.lookedUp user request = some name)
    (hpath : v.path ("/servers/" ++ name) = some segments)
    (hroute : v.server.route segments = some handler)
    (hexposes : v.Exposes user.safeUsername handler) : ¬v.Isolated api user request := by
  obtain ⟨p, other, hother, hp, hlists⟩ := exists_lists_of_exposes hexposes
  obtain ⟨ns, hns⟩ := v.exists_namespace
  have hrequest : ∀ c, ∃ objects, v.request c ("/servers/" ++ name) = .ok objects ∧
      Lists v c p objects := by
    intro c
    obtain ⟨objects, hhandle, hobjects⟩ := hlists c
    have hroutes : (v.upTo c).route segments = v.server.route segments := rfl
    exact ⟨objects, by simp only [Watcher.request, hpath, Server.respond, hroutes, hroute, hhandle],
      hobjects⟩
  obtain ⟨none?, hnone, hnoneLists⟩ := hrequest Cluster.empty
  obtain ⟨two, htwo, htwoLists⟩ := hrequest (pair ns other)
  have hnil := hnoneLists.eq_nil
  have ha : bareServer ns "a" other ∈ two :=
    htwoLists.mem_iff.mpr ⟨ns, hns, "a", bareSession ns "a" other, by
      rw [pair, Cluster.get_set_of_ne _ _ _ (by simp), alone, Cluster.get_set], rfl, hp ns "a"⟩
  have hb : bareServer ns "b" other ∈ two :=
    htwoLists.mem_iff.mpr ⟨ns, hns, "b", bareSession ns "b" other, by
      rw [pair, Cluster.get_set], rfl, hp ns "b"⟩
  have hdiffer : bareServer ns "a" other ≠ bareServer ns "b" other := by
    intro h
    simp [bareServer] at h
  have hrun : (run (v.serve calmEnv) (api.client.getServer name user.safeUsername)
      ⟨.empty, []⟩).1 = .ok none := by
    rw [run_getServer_calm (w := ⟨.empty, []⟩) hnone, hnil]
    rfl
  have hrun' : (run (v.serve calmEnv) (api.client.getServer name user.safeUsername)
      ⟨pair ns other, []⟩).1 = .error (JsServerCache.tooMany name two.length) := by
    rw [run_getServer_calm (w := ⟨pair ns other, []⟩) htwo, single_of_two ha hb hdiffer]
    rfl
  exact not_isolated_of_lookup hlookedUp (agree_pair hother) empty_objectNamed pair_objectNamed
    hrun hrun'

/-! #### One namespace for both -/

/-- The watcher does not answer. -/
def deafEnv : Env :=
  { calmEnv with
    faults := fun _ c =>
      match c with
      | .cacheGet _ => some .unreachable
      | _ => none }

theorem run_apiGet_deaf (ns : String) (w : World) :
    run (v.serve deafEnv) (NamespacedK8sClient.getServer ns name) w =
      (.ok ((w.cluster.get ns name).map (·.server)),
        { w with log := w.log ++ [.getServer ns name] }) := by
  unfold NamespacedK8sClient.getServer
  simp only [bind_eq, run_bind, run_perform, Watcher.serve, serveThrough, serve, deafEnv, answer]
  cases w.cluster.get ns name with
  | none => rfl
  | some session => rfl

/-- The fallback looks into the one namespace twice. -/
theorem run_getServer_deaf {k : K8sClient} (hns : k.sessionNs = some k.renkuNs)
    (hbypass : k.bypassCacheOnFailure = true) (w : World) :
    (run (v.serve deafEnv) (k.getServer name u) w).1 =
      (single (K8sClient.tooMany name) (K8sClient.foundServers
        [(w.cluster.get k.renkuNs name).map (·.server),
          (w.cluster.get k.renkuNs name).map (·.server)])).map (K8sClient.ownServer u) := by
  have hcached : run (v.serve deafEnv) (JsServerCache.getServer name) w =
      (.error JsServerCache.unavailable, { w with log := w.log ++ [.cacheGet name] }) := rfl
  unfold K8sClient.getServer K8sClient.orBypass K8sClient.getServerFromApi
    K8sClient.getSessionServer
  simp only [bind_eq, pure_eq, run_bind, run_tryCatch, hcached]
  simp only [JsServerCache.unavailable, jsCacheError, PyError.isJSCacheError, hbypass, hns,
    decide_true, and_self, if_true, run_bind, run_apiGet_deaf, run_ofExcept]
  cases single (K8sClient.tooMany name) (K8sClient.foundServers
    [(w.cluster.get k.renkuNs name).map (·.server),
      (w.cluster.get k.renkuNs name).map (·.server)]) <;> rfl

theorem not_isolated_of_namespaces {request : Request}
    (hlookedUp : api.lookedUp user request = some name) (hname : IsObjectName name)
    (hns : api.client.sessionNs = some api.client.renkuNs)
    (hbypass : api.client.bypassCacheOnFailure = true) : ¬v.Isolated api user request := by
  have hother := append_ne_self user.safeUsername
  have hrun : (run (v.serve deafEnv) (api.client.getServer name user.safeUsername)
      ⟨.empty, []⟩).1 = .ok none := by
    rw [run_getServer_deaf hns hbypass, get_empty]
    rfl
  have hrun' : (run (v.serve deafEnv) (api.client.getServer name user.safeUsername)
      ⟨alone api.client.renkuNs name (user.safeUsername ++ "x"), []⟩).1 =
        .error (K8sClient.tooMany name 2) := by
    rw [run_getServer_deaf hns hbypass, alone, Cluster.get_set]
    rfl
  exact not_isolated_of_lookup hlookedUp (agree_alone hother) empty_objectNamed
    (alone_objectNamed hname) hrun hrun'

/-! #### Users without a name -/

theorem setMember_ne_nil (key : String) (value : Json) (members : List (String × Json)) :
    Json.setMember key value members ≠ [] := by
  intro h
  have hget := Json.getMember_setMember key value members
  rw [h] at hget
  cases hget

theorem filteredServers_ne_nil {servers : List Json} {output : List (String × Json)}
    (hne : output ≠ []) : Api.filteredServers [] servers output ≠ .ok [] := by
  induction servers generalizing output with
  | nil => exact fun h => hne (Except.ok.inj h)
  | cons server servers ih =>
    have hmatches : Api.matchesFilters [] server = .ok true := rfl
    simp only [Api.filteredServers, hmatches, Bind.bind, Except.bind, if_true]
    exact ih (setMember_ne_nil _ _ _)

/-- A list with a server without annotations does not look like an empty one. -/
theorem filteredServers_cons_ne_nil (filters : List (String × String)) {server : Json}
    (hserver : server.dig ["metadata", "annotations"] = none) (servers : List Json) :
    Api.filteredServers filters (server :: servers) [] ≠ .ok [] := by
  cases filters with
  | nil =>
    have hmatches : Api.matchesFilters [] server = .ok true := rfl
    simp only [Api.filteredServers, hmatches, Bind.bind, Except.bind, if_true]
    exact filteredServers_ne_nil (setMember_ne_nil _ _ _)
  | cons filter filters =>
    have hmatches : Api.matchesFilters (filter :: filters) server = .error (.keyError "annotations") := by
      simp only [Api.matchesFilters, Api.annotations, hserver]
      rfl
    simp only [Api.filteredServers, hmatches, Bind.bind, Except.bind]
    exact fun h => nomatch h

/-- The response to a list of servers. -/
def listed (api : Api) (filters : List (String × String)) (servers : List Json) :
    Except PyError Response := do
  let filtered ← Api.filteredServers filters servers []
  let output ← filtered.mapM api.renderMember
  .ok { body := .obj [("servers", .obj output)], status := 200 }

/-- A user without a name is answered with all servers. -/
theorem run_userServers_calm (filters : List (String × String)) (hu : user.safeUsername = "")
    {w : World} {objects : List Json} (hgetAll : (v.upTo w.cluster).cachesJS.getAll = .ok objects) :
    (run (v.serve calmEnv) (api.userServers user filters) w).1 = listed api filters objects := by
  have hrequest : v.request w.cluster ("/users/" ++ "" ++ "/servers") = .ok objects := by
    have hpath := v.usersPath "" (fun c hc => nomatch hc)
    simp only [Watcher.request, hpath, Server.respond, Server.route, Server.handle,
      CacheCollection.getByUserID_empty, hgetAll]
  unfold Api.userServers K8sClient.listServers K8sClient.orBypass JsServerCache.listServers listed
  simp only [hu, bind_eq, run_bind, run_tryCatch, run_perform, Watcher.serve, serveThrough, calmEnv,
    hrequest, JsServerCache.orCacheError, run_ret, run_ofExcept]
  cases hfiltered : Api.filteredServers filters objects [] with
  | error e => rfl
  | ok filtered =>
    dsimp only [Bind.bind, Except.bind]
    cases filtered.mapM api.renderMember <;> rfl

/-- Only for an empty list the response is one. -/
theorem listed_ne_empty (filters : List (String × String)) {servers : List Json}
    (hne : servers ≠ [])
    (hservers : ∀ server ∈ servers, server.dig ["metadata", "annotations"] = none) :
    respond (listed api filters servers) ≠ respond (listed api filters []) := by
  have hempty : respond (listed api filters []) =
      { body := .obj [("servers", .obj [])], status := 200 } := rfl
  have herror : ∀ e, handleException e ≠ { body := .obj [("servers", .obj [])], status := 200 } := by
    intro e h
    have hbody := congrArg Response.body h
    cases e <;> simp [handleException, errorBody] at hbody
  obtain ⟨server, servers, rfl⟩ := List.exists_cons_of_ne_nil hne
  have hfiltered := filteredServers_cons_ne_nil filters (hservers server List.mem_cons_self) servers
  rw [hempty]
  unfold listed
  cases hservers : Api.filteredServers filters (server :: servers) [] with
  | error e => exact herror e
  | ok filtered =>
    cases houtput : filtered.mapM api.renderMember with
    | error e => 
      simp only [Bind.bind, Except.bind, houtput]
      exact herror e
    | ok output =>
      have hlength := (RenkuNotebooks.Results.forall2_of_mapM_eq_ok houtput).length_eq
      simp only [Bind.bind, Except.bind, houtput, respond]
      intro h
      simp only [Response.mk.injEq, Json.obj.injEq, List.cons.injEq, Prod.mk.injEq, true_and,
        and_true] at h
      rw [h, List.length_nil, List.length_eq_zero_iff] at hlength
      exact hfiltered (hlength ▸ hservers)

theorem not_isolated_list (filters : List (String × String)) (hu : user.safeUsername = "") :
    ¬v.Isolated api user (.userServers filters) := by
  intro hisolated
  obtain ⟨ns, hns⟩ := v.exists_namespace
  have hother : "x" ≠ user.safeUsername := by
    rw [hu]
    decide
  obtain ⟨none?, hnone, hnoneLists⟩ := lists_getAll v Cluster.empty
  obtain ⟨one, hone, honeLists⟩ := lists_getAll v (alone ns "a" "x")
  have hname : IsObjectName "a" := by decide
  have hresponse := (hisolated calmEnv ⟨.empty, []⟩ ⟨alone ns "a" "x", []⟩ (agree_alone hother)
    empty_objectNamed (alone_objectNamed hname)).1
  have hnil := hnoneLists.eq_nil
  have hmem : bareServer ns "a" "x" ∈ one := honeLists.mem_iff.mpr
    ⟨ns, hns, "a", bareSession ns "a" "x", by rw [alone, Cluster.get_set], rfl, rfl⟩
  have hrun := @run_userServers_calm v api user filters hu ⟨.empty, []⟩ none? hnone
  have hrun' := @run_userServers_calm v api user filters hu ⟨alone ns "a" "x", []⟩ one hone
  have hbare : ∀ server ∈ one, server.dig ["metadata", "annotations"] = none := by
    intro server hserver
    obtain ⟨ns', -, n, x, hget, rfl, -⟩ := honeLists.mem_iff.mp hserver
    rw [(get_alone hget).2.2]
    rfl
  dsimp only [Api.handle] at hresponse
  rw [hrun, hrun', hnil] at hresponse
  exact listed_ne_empty filters (List.ne_nil_of_mem hmem) hbare hresponse.symm

end Others

/-! ### Isolation -/

/-- A watcher of the namespaces `renku` and `sessions`. -/
def sampleWatcher : Watcher where
  toUrls := (watching .empty).toUrls
  server := (watching .empty).watcher
  watches := (watching .empty).caches_ne_nil

end RenkuNotebooks.Notebooks
