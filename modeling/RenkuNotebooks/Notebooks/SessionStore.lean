import RenkuNotebooks.Notebooks.RequestOwnership
import RenkuNotebooks.Notebooks.ShownServer

/-!
# The service as a store of sessions

What the users see of the service is a store: by name, whose session there is and whether it is
hibernated. Requests that are served one after the other refine this store, whatever fails on the
way.
-/

namespace RenkuNotebooks.Notebooks

open Prog

/-! ### The store -/

structure StoredSession where
  owner : Option String
  hibernated : Bool

abbrev SessionStore := String → Option StoredSession

namespace SessionStore

variable (a : SessionStore)

def Owns (safeUsername name : String) : Prop :=
  ∃ x, a name = some x ∧ x.owner = some safeUsername

def put (name : String) (x : StoredSession) : SessionStore := Function.update a name (some x)

def modify (name : String) (f : StoredSession → StoredSession) : SessionStore :=
  Function.update a name ((a name).map f)

def erase (name : String) : SessionStore := Function.update a name none

/-- The store after a request for a state. -/
def setState (name : String) : Option PatchServerStatusEnum → SessionStore
  | none => a
  | some .running => a.modify name fun x => { x with hibernated := false }
  | some .hibernated => a.modify name fun x => { x with hibernated := true }

variable {a}

theorem modify_id (name : String) : a.modify name id = a := by
  rw [modify, Option.map_id, id, Function.update_eq_self]

theorem modify_of_eq {name : String} {f : StoredSession → StoredSession}
    (h : ∀ x, a name = some x → f x = x) : a.modify name f = a := by
  unfold modify
  cases hx : a name with
  | none => rw [Option.map_none, ← hx, Function.update_eq_self]
  | some x => rw [Option.map_some, h x hx, ← hx, Function.update_eq_self]

theorem erase_put {name : String} (h : a name = none) (x : StoredSession) :
    (a.put name x).erase name = a := by
  rw [erase, put, Function.update_idem, ← h, Function.update_eq_self]

end SessionStore

/-- The session that a 404 is about. -/
def Request.notFound? : Request → Option String
  | .userServer serverName => some serverName
  | .serverLogs serverName _ => some serverName
  | .stopServer serverName _ => some serverName
  | _ => none

/-- The session that a response shows. -/
def Request.shows? : Request → Option String
  | .userServer serverName => some serverName
  | .serverLogs serverName _ => some serverName
  | _ => none

def PyError.IsMissing (e : PyError) : Prop := (handleException e).status = 404

/-- The body lists sessions of the user, all of them if it is not filtered. -/
def ListsSessions (a : SessionStore) (safeUsername : String) (filters : List (String × String))
    (body : Json) : Prop :=
  ∃ servers, body = .obj [("servers", .obj servers)] ∧
    (∀ name ∈ servers.map (·.1), a.Owns safeUsername name) ∧
    (filters = [] → ∀ name, a.Owns safeUsername name → name ∈ servers.map (·.1))

/-- What a request may do to the store, and the outcome it has then. -/
inductive SessionStore.Step (a : SessionStore) :
    SessionRequest → Except PyError Response → SessionStore → Prop
  | failed {request e} (h : ∀ user r name, request = .handled user r → r.notFound? = some name →
      e.IsMissing → ¬ a.Owns user.safeUsername name) : Step a request (.error e) a
  | listed {user filters body} (h : ListsSessions a user.safeUsername filters body) :
      Step a (.handled user (.userServers filters)) (.ok { body, status := 200 }) a
  | shown {user r name body} (hname : r.shows? = some name) (h : a.Owns user.safeUsername name) :
      Step a (.handled user r) (.ok { body, status := 200 }) a
  | existing {r body} (h : a.Owns r.user.safeUsername r.serverName.text) :
      Step a (.launch r) (.ok { body, status := 200 }) a
  | launched {r outcome} (h : a r.serverName.text = none)
      (hstatus : ∀ response, outcome = .ok response → response.status = 201) :
      Step a (.launch r) outcome (a.put r.serverName.text ⟨some r.user.safeUsername, false⟩)
  | patched {user name body outcome} (h : a.Owns user.safeUsername name)
      (hstatus : ∀ response, outcome = .ok response → response.status = 200) :
      Step a (.handled user (.patchServer name body)) outcome (a.setState name body.state)
  | deleted {user name forced body} (h : a.Owns user.safeUsername name) :
      Step a (.handled user (.stopServer name forced)) (.ok { body, status := 204 })
        (a.erase name)

/-! ### The store that the cluster holds -/

def ownerOf (server : Json) : Option String :=
  match server.dig ["metadata", "labels", usernameLabel] with
  | some (.str safeUsername) => some safeUsername
  | _ => none

def storedAs (server : Json) : StoredSession where
  owner := ownerOf server
  hibernated := currentlyHibernated server

def storeOf (home : String) (c : Cluster) : SessionStore :=
  fun name => (c.get home name).map fun x => storedAs x.server

/-- All sessions are where new ones are created. -/
def AtHome (home : String) (c : Cluster) : Prop :=
  ∀ ns name, ns ≠ home → c.get ns name = none

/-- The cache is up to date, and only the API itself says that a server is not there. -/
structure Env.Honest (home : String) (env : Env) : Prop where
  current : env.cacheView = id
  watches : home ∈ env.watched
  found : ∀ n ns name status, env.faults n (.getServer ns name) = some (.status status) →
    status ≠ 400 ∧ status ≠ 404
  listed : ∀ n ns u status, env.faults n (.listServers ns u) = some (.status status) →
    status ≠ 400 ∧ status ≠ 404

section Statement

variable (v : Watcher) (api : Api)

def requestNext (m : Env × SessionRequest) (w : World) : World :=
  (run (v.serve m.1) (m.2.program api) w).2

/-- A request is a step of the store. -/
def RefinesStore (m : Env × SessionRequest) (w : World) : Prop :=
  (storeOf api.home w.cluster).Step m.2 (run (v.serve m.1) (m.2.program api) w).1
    (storeOf api.home (requestNext v api m w).cluster)

/-- The user and the session have the names they can have, and beside the watcher only the API
itself says that a server is not there. -/
structure Faithful (m : Env × SessionRequest) : Prop where
  honest : (v.plain m.1).Honest api.home
  routed : m.2.Routed

end Statement

/-! ### Calls and the store -/

theorem ownerOf_eq_some_iff {server : Json} {u : String} :
    ownerOf server = some u ↔ hasLabel usernameLabel u server := by
  unfold ownerOf hasLabel
  split
  · next v h => rw [h, Option.some.injEq, Option.some.injEq, Json.str.injEq]
  · next h =>
    constructor
    · intro hnone
      cases hnone
    · intro hlabel
      exact absurd hlabel (h u)

theorem ownerOf_eq_of_identity {server server' : Json}
    (h : serverIdentity server' = serverIdentity server) : ownerOf server' = ownerOf server := by
  unfold ownerOf
  rw [show server'.dig ["metadata", "labels", usernameLabel] =
    server.dig ["metadata", "labels", usernameLabel] from congrArg Prod.snd h]

/-- The cluster holds a store. -/
structure Stores (home : String) (a : SessionStore) (w : World) : Prop where
  store : storeOf home w.cluster = a
  atHome : AtHome home w.cluster

section Calls

variable {env : Env} {home name u : String} {a : SessionStore} {w : World} {c : Call}

theorem Stores.spares (h : Stores home a w) (hc : c.SparesServers) :
    Stores home a (serve env c w).2 := by
  refine ⟨?_, ?_⟩
  · rw [← h.store]
    funext name
    unfold storeOf
    have hsame := congrArg (Option.map storedAs) (serve_spares env w hc home name)
    rwa [Option.map_map, Option.map_map] at hsame
  · intro ns name hns
    have hnone := h.atHome ns name hns
    have hsame := serve_spares env w hc ns name
    rw [hnone, Option.map_none, Option.map_eq_none_iff] at hsame
    exact hsame

theorem Calls.stores {α : Type} {p : Service α} (hp : p.Calls Call.SparesServers)
    (a : SessionStore) :
    Triple (serve env) (Stores home a) p (fun _ => Stores home a) (fun _ => Stores home a) :=
  hp.triple fun _ _ hc hw => hw.spares hc

/-- A patch of a server that changes what is stored in one way changes the store so, or not. -/
theorem patchServer_stores {ns : String} {patch : ServerPatch} {f : StoredSession → StoredSession}
    (hf : ∀ server server', patch.applyTo server = .ok server' →
      storedAs server' = f (storedAs server)) :
    Triple (serve env) (Stores home a) (NamespacedK8sClient.patchServer ns name patch)
      (fun _ => Stores home (a.modify name f)) (fun _ => Stores home a) := by
  apply Triple.bind fun reply w => (∀ fault, reply = .error fault → Stores home a w) ∧
    ∀ server, reply = .ok server → Stores home (a.modify name f) w
  · apply triple_perform
    intro w hw
    unfold serve
    cases env.faults w.log.length (.patchServer ns name patch) with
    | some fault => exact ⟨fun _ _ => ⟨hw.store, hw.atHome⟩, nofun⟩
    | none =>
      refine ⟨?_, ?_⟩
      · intro fault hreply
        have hsame : (w.cluster.patchServer ns name patch).2 = w.cluster :=
          Cluster.update_of_error hreply
        exact ⟨hsame ▸ hw.store, hsame ▸ hw.atHome⟩
      · intro server hreply
        obtain ⟨x, x', hid, hget, hpatch, hupdate⟩ := Cluster.exists_of_update_ok hreply
        obtain ⟨patched, happly, hpatch⟩ := Results.bind_eq_ok_iff.mp hpatch
        cases hpatch
        obtain rfl : ns = home := by
          by_contra hns
          rw [hw.atHome ns name hns] at hget
          cases hget
        have hcluster : (answer env w (.patchServer ns name patch)).2 =
            w.cluster.set ns name { x with server } hid := congrArg Prod.snd hupdate
        dsimp only
        rw [hcluster]
        refine ⟨?_, ?_⟩
        · funext n
          have hold := congrFun hw.store
          by_cases hn : n = name
          · subst hn
            unfold storeOf SessionStore.modify
            rw [Function.update_self, Cluster.get_set, ← hold n, storeOf, hget]
            exact congrArg some (hf x.server server happly)
          · unfold storeOf SessionStore.modify
            rw [Function.update_of_ne hn, Cluster.get_set_of_ne _ _ _
              fun he => hn (congrArg Prod.snd he)]
            exact hold n
        · intro ns' n hns
          rw [Cluster.get_set_of_ne _ _ _ fun he => hns (congrArg Prod.fst he)]
          exact hw.atHome ns' n hns
  · rintro ((status | _) | server)
    · exact triple_raise fun w hw => hw.1 _ rfl
    · exact triple_raise fun w hw => hw.1 _ rfl
    · exact triple_ret fun w hw => hw.2 server rfl

end Calls

/-! ### What the look-ups find -/

section LookUps

variable {env : Env} {home name u : String} {c : Cluster} {k : K8sClient}

theorem Cluster.serverOf_truthy {s : Json} (h : c.serverOf home name = some s) :
    s.truthy = true := by
  obtain ⟨x, hget, rfl⟩ := Option.map_eq_some_iff.mp h
  exact (Cluster.get_identified hget).truthy

/-- The only place where something is found, or nothing. -/
theorem filterMap_eq_toList {α β : Type} {f : α → Option β} {l : List α} {a : α}
    (hnodup : l.Nodup) (hmem : a ∈ l) (hothers : ∀ a' ∈ l, a' ≠ a → f a' = none) :
    l.filterMap f = (f a).toList := by
  cases ha : f a with
  | some b => exact filterMap_eq_singleton hnodup hmem ha hothers
  | none =>
    apply List.filterMap_eq_nil_iff.mpr
    intro a' ha'
    by_cases hne : a' = a
    · rw [hne, ha]
    · exact hothers a' ha' hne

/-- No error of a look-up says that the server is missing. -/
def FailedAt (c : Cluster) (e : PyError) (w : World) : Prop := w.cluster = c ∧ ¬ e.IsMissing

theorem not_isMissing {e : PyError} (h : (handleException e).status = 500) : ¬ e.IsMissing := by
  unfold PyError.IsMissing
  rw [h]
  decide

theorem cacheGet_finds (henv : env.Honest home) (hhome : AtHome home c) :
    Triple (serve env) (fun w => w.cluster = c) (JsServerCache.getServer name)
      (fun server w => w.cluster = c ∧ server = c.serverOf home name) (FailedAt c) := by
  apply Triple.bind fun reply w => w.cluster = c ∧
    ∀ servers, reply = .ok servers → servers = (c.serverOf home name).toList
  · apply triple_perform
    rintro w rfl
    refine ⟨serve_lookup_cluster (.cacheGet name) rfl w, ?_⟩
    intro servers hreply
    unfold serve at hreply
    split at hreply
    · cases hreply
    · obtain rfl := Except.ok.inj hreply
      rw [henv.current, id]
      apply filterMap_eq_toList env.watched_nodup henv.watches
      intro ns _ hns
      rw [hhome ns name hns]
      rfl
  · rintro ((status | _) | servers)
    · exact triple_raise fun w hw => ⟨hw.1, not_isMissing rfl⟩
    · exact triple_raise fun w hw => ⟨hw.1, not_isMissing rfl⟩
    · intro w hw
      obtain rfl := hw.2 servers rfl
      cases c.serverOf home name with
      | none => exact ⟨hw.1, rfl⟩
      | some s => exact ⟨hw.1, rfl⟩

theorem apiGet_finds (henv : env.Honest home) {ns : String} :
    Triple (serve env) (fun w => w.cluster = c) (NamespacedK8sClient.getServer ns name)
      (fun server w => w.cluster = c ∧ server = c.serverOf ns name) (FailedAt c) := by
  apply Triple.bind fun reply w => w.cluster = c ∧
    (∀ server, reply = .ok server → c.serverOf ns name = some server) ∧
    ∀ status, reply = .error (.status status) → status = 400 ∨ status = 404 →
      c.serverOf ns name = none
  · apply triple_perform
    rintro w rfl
    refine ⟨serve_lookup_cluster (.getServer ns name) rfl w, ?_⟩
    unfold serve
    cases hfault : env.faults w.log.length (.getServer ns name) with
    | some fault =>
      refine ⟨nofun, ?_⟩
      rintro status hreply hcode
      obtain rfl := Except.error.inj hreply
      obtain ⟨h400, h404⟩ := henv.found _ _ _ _ hfault
      exact absurd hcode (not_or.mpr ⟨h400, h404⟩)
    | none =>
      dsimp only [answer]
      unfold Cluster.serverOf
      cases (w.cluster.get ns name).map (·.server) with
      | none => exact ⟨nofun, fun _ _ _ => rfl⟩
      | some s => exact ⟨fun server hreply => congrArg some (Except.ok.inj hreply), nofun⟩
  · rintro ((status | _) | server)
    · dsimp only [exceptApi]
      split
      · next hcode => exact triple_ret fun w hw => ⟨hw.1, (hw.2.2 status rfl hcode).symm⟩
      · exact triple_raise fun w hw => ⟨hw.1, not_isMissing rfl⟩
    · exact triple_raise fun w hw => ⟨hw.1, not_isMissing rfl⟩
    · exact triple_ret fun w hw => ⟨hw.1, (hw.2.1 server rfl).symm⟩

/-- The servers that the API finds in the namespaces of the client. -/
theorem single_found_home (hhome : AtHome home c) (hk : k.preferredNamespace = home)
    {server : Option Json}
    (h : single (K8sClient.tooMany name) (K8sClient.foundServers
      [k.sessionNs.bind fun ns => c.serverOf ns name, c.serverOf k.renkuNs name]) = .ok server) :
    server = c.serverOf home name := by
  have htruthy : ∀ ns, (c.serverOf ns name).filter (·.truthy) = c.serverOf ns name := by
    intro ns
    cases hserver : c.serverOf ns name with
    | none => rfl
    | some s => exact Option.filter_eq_some_iff.mpr ⟨rfl, Cluster.serverOf_truthy hserver⟩
  have helsewhere : ∀ ns, ns ≠ home → c.serverOf ns name = none := by
    intro ns hns
    unfold Cluster.serverOf
    rw [hhome ns name hns]
    rfl
  unfold K8sClient.preferredNamespace at hk
  unfold K8sClient.foundServers at h
  cases hsession : k.sessionNs with
  | none =>
    rw [hsession] at hk h
    obtain rfl : k.renkuNs = home := hk
    simp only [Option.bind_none, List.filterMap_cons, Option.filter_none, List.filterMap_nil,
      htruthy] at h
    cases hserver : c.serverOf k.renkuNs name with
    | none =>
      rw [hserver] at h
      exact (Except.ok.inj h).symm
    | some s =>
      rw [hserver] at h
      exact (Except.ok.inj h).symm
  | some ns =>
    rw [hsession] at hk h
    obtain rfl : ns = home := hk
    simp only [Option.bind_some, List.filterMap_cons, List.filterMap_nil, htruthy] at h
    by_cases hrenku : k.renkuNs = ns
    · rw [hrenku] at h
      cases hserver : c.serverOf ns name with
      | none =>
        rw [hserver] at h
        exact (Except.ok.inj h).symm
      | some s =>
        rw [hserver] at h
        cases h
    · rw [helsewhere _ hrenku] at h
      cases hserver : c.serverOf ns name with
      | none =>
        rw [hserver] at h
        exact (Except.ok.inj h).symm
      | some s =>
        rw [hserver] at h
        exact (Except.ok.inj h).symm

theorem single_tooMany {tooMany : Nat → PyError} (h : ∀ n, ¬ (tooMany n).IsMissing)
    {servers : List Json} {e : PyError} (he : single tooMany servers = .error e) :
    ¬ e.IsMissing := by
  rcases servers with _ | ⟨server, _ | ⟨server', servers⟩⟩
  · cases he
  · cases he
  · cases he
    exact h _

theorem getServerFromApi_finds (henv : env.Honest home) (hhome : AtHome home c)
    (hk : k.preferredNamespace = home) :
    Triple (serve env) (fun w => w.cluster = c) (k.getServerFromApi name)
      (fun server w => w.cluster = c ∧ server = c.serverOf home name) (FailedAt c) := by
  apply Triple.bind fun session w =>
    session = (k.sessionNs.bind fun ns => c.serverOf ns name) ∧ w.cluster = c
  · unfold K8sClient.getSessionServer
    cases k.sessionNs with
    | none => exact triple_ret fun w hw => ⟨rfl, hw⟩
    | some ns => exact (apiGet_finds henv).weaken (fun _ h => h) (fun _ _ h => h.symm) fun _ _ h => h
  · intro session
    apply triple_of_and
    rintro rfl
    apply Triple.bind _ (apiGet_finds henv)
    intro renku
    apply triple_ofExcept
    · rintro server w hserver ⟨hw, rfl⟩
      exact ⟨hw, single_found_home hhome hk hserver⟩
    · rintro e w he ⟨hw, -⟩
      exact ⟨hw, single_tooMany (fun _ => not_isMissing rfl) he⟩

/-- What a look-up gives to a user. -/
def Shows (a : SessionStore) (u name : String) : Option Json → Prop
  | none => ¬ a.Owns u name
  | some server => server.truthy = true ∧ a name = some (storedAs server) ∧ ownerOf server = some u

/-- A look-up shows the user's session, where there is one. -/
theorem getServer_shows (henv : env.Honest home) (hk : k.preferredNamespace = home)
    (a : SessionStore) :
    Triple (serve env) (Stores home a) (k.getServer name u)
      (fun server w => Shows a u name server ∧ Stores home a w)
      (fun e w => ¬ e.IsMissing ∧ Stores home a w) := by
  intro w hw
  obtain ⟨hstore, hhome⟩ := hw
  have hfinds : Triple (serve env) (fun v => v.cluster = w.cluster)
      (k.orBypass (JsServerCache.getServer name) (k.getServerFromApi name))
      (fun server v => v.cluster = w.cluster ∧ server = w.cluster.serverOf home name)
      (FailedAt w.cluster) := by
    apply Triple.tryCatch _ (cacheGet_finds henv hhome)
    intro e
    split
    · exact (getServerFromApi_finds henv hhome hk).weaken (fun _ h => h.1) (fun _ _ h => h)
        fun _ _ h => h
    · exact triple_raise fun v hv => hv
  have hkept : ∀ {v : World}, v.cluster = w.cluster → Stores home a v :=
    fun hv => ⟨hv ▸ hstore, hv ▸ hhome⟩
  have hshown : Triple (serve env) (fun v => v.cluster = w.cluster) (k.getServer name u)
      (fun server v => Shows a u name server ∧ Stores home a v)
      (fun e v => ¬ e.IsMissing ∧ Stores home a v) := by
    apply Triple.bind _ (hfinds.weaken (fun _ h => h) (fun _ _ h => h)
      fun _ _ h => ⟨h.2, hkept h.1⟩)
    intro server
    apply triple_ret
    rintro v ⟨hv, rfl⟩
    refine ⟨?_, hkept hv⟩
    have hat : a name = (w.cluster.serverOf home name).map storedAs := by
      rw [← hstore, storeOf, Cluster.serverOf, Option.map_map]
      rfl
    have hown : ∀ s, K8sClient.ownServer u (w.cluster.serverOf home name) = some s ↔
        w.cluster.serverOf home name = some s ∧ hasLabel usernameLabel u s :=
      fun s => ownServer_eq_some_iff fun s hs => Cluster.serverOf_truthy hs
    cases hserver : K8sClient.ownServer u (w.cluster.serverOf home name) with
    | some s =>
      obtain ⟨hs, hlabel⟩ := (hown s).mp hserver
      refine ⟨Cluster.serverOf_truthy hs, ?_, ownerOf_eq_some_iff.mpr hlabel⟩
      rw [hat, hs]
      rfl
    | none =>
      rintro ⟨x, hx, howner⟩
      rw [hat] at hx
      obtain ⟨s, hs, rfl⟩ := Option.map_eq_some_iff.mp hx
      rw [(hown s).mpr ⟨hs, ownerOf_eq_some_iff.mp howner⟩] at hserver
      cases hserver
  exact hshown w rfl

end LookUps

/-! ### Patches -/

section Patches

variable {env : Env} {api : Api} {user : RegisteredUser} {name : String} {a : SessionStore}

theorem storedAs_classPatch {options : ServerOptions} {enforceCpuLimits : CPUEnforcement}
    {classId : Int} {read server server' : Json}
    (h : (ServerPatch.json (classPatch options enforceCpuLimits classId read)).applyTo server =
      .ok server') : storedAs server' = storedAs server := by
  have hflag : ∀ j, Json.dig ["spec", "jupyterServer", "hibernated"] j =
      Json.getAt ["spec", "jupyterServer", "hibernated"] j :=
    fun j => (Json.getAt_of_named (by decide) j).symm
  unfold storedAs currentlyHibernated
  rw [ownerOf_eq_of_identity (classPatch_keepsIdentity _ _ _ _ _ _ h), hflag, hflag,
    classPatch_frame (applyOps_of_applyTo h) (by decide) (by decide) (by decide) (by decide)
      (by decide)]

/-- The patch for a state. -/
def IsStatePatch (state : PatchServerStatusEnum) (patch : Json) : Prop :=
  match state with
  | .running => patch = runningPatch
  | .hibernated => ∃ (h : Hibernation) (pyRepr : Json → String) (date : String),
      patch = h.patch pyRepr date

theorem IsStatePatch.statePatch {state : PatchServerStatusEnum} {patch : Json}
    (h : IsStatePatch state patch) : StatePatch patch := by
  cases state with
  | running => exact .inl h
  | hibernated => exact .inr h

theorem hibernated_of_patch {state : PatchServerStatusEnum} {patch : Json}
    (h : IsStatePatch state patch) (server : Json) :
    currentlyHibernated (Json.mergePatch patch server) = decide (state = .hibernated) := by
  unfold currentlyHibernated
  cases state with
  | hibernated =>
    obtain ⟨⟨b, hflag, hb⟩, -⟩ := statePatch_spec h.statePatch server
    obtain ⟨hibernation, pyRepr, date, rfl⟩ := h
    rw [hflag]
    cases b with
    | true => rfl
    | false =>
      have hsame := hb rfl
      simp [Hibernation.patch, runningPatch] at hsame
  | running =>
    obtain rfl : patch = runningPatch := h
    have hflag : Json.dig ["spec", "jupyterServer", "hibernated"]
        (Json.mergePatch runningPatch server) = some (.bool false) := by
      unfold runningPatch
      rw [Json.dig_cons, Json.get?_mergePatch_single (by simp), Option.bind_some, Json.dig_cons,
        Json.get?_mergePatch_single (by simp), Option.bind_some, Json.dig_singleton,
        Json.get?_mergePatch_single (by simp)]
      rfl
    rw [hflag]
    rfl

theorem calls_ownNamespace_spares {k : K8sClient} {u purpose : String} :
    (k.ownNamespace name u purpose).Calls Call.SparesServers :=
  K8sClient.calls_ownNamespace fun _ hc => hc.spares

/-- A patch that has an effect on what is stored has it on the store. -/
theorem clientPatch_stores {patch : ServerPatch} {f : StoredSession → StoredSession}
    (hf : ∀ server server', patch.applyTo server = .ok server' →
      storedAs server' = f (storedAs server)) :
    Triple (serve env) (Stores api.home a)
      (api.client.patchServer name user.safeUsername patch)
      (fun _ => Stores api.home (a.modify name f)) (fun _ => Stores api.home a) :=
  Triple.bind _ (Calls.stores calls_ownNamespace_spares a) fun _ => patchServer_stores hf

theorem patchState_stores {state : PatchServerStatusEnum} {patch : Json}
    (h : IsStatePatch state patch) :
    Triple (serve env) (Stores api.home a)
      (api.client.patchServer name user.safeUsername (.merge patch))
      (fun _ => Stores api.home (a.setState name (some state))) (fun _ => Stores api.home a) := by
  have hstored : ∀ server server', (ServerPatch.merge patch).applyTo server = .ok server' →
      storedAs server' = { storedAs server with hibernated := decide (state = .hibernated) } := by
    intro server server' happly
    have howner := ownerOf_eq_of_identity
      (statePatch_keepsIdentity h.statePatch server server' happly)
    obtain rfl := Except.ok.inj happly
    unfold storedAs
    rw [howner, hibernated_of_patch h]
  cases state with
  | running => exact clientPatch_stores hstored
  | hibernated => exact clientPatch_stores hstored

theorem patchClass_stores {options : ServerOptions} {enforceCpuLimits : CPUEnforcement}
    {classId : Int} {read : Json} :
    Triple (serve env) (Stores api.home a) (api.client.patchServer name user.safeUsername
        (.json (classPatch options enforceCpuLimits classId read)))
      (fun _ => Stores api.home a) (fun _ => Stores api.home a) := by
  apply (clientPatch_stores (f := id)
    fun server server' happly => storedAs_classPatch happly).weaken (fun _ h => h)
  · intro _ w hw
    rwa [SessionStore.modify_id] at hw
  · exact fun _ _ h => h

theorem changeClass?_stores (classId : Option { n : Int // 0 < n }) (read : Json) :
    Triple (serve env) (Stores api.home a) (api.changeClass? user name read classId)
      (fun _ => Stores api.home a) (fun _ => Stores api.home a) := by
  cases classId with
  | none => exact triple_ret fun w hw => hw
  | some classId =>
    apply Triple.bind fun _ => Stores api.home a
    · exact triple_perform fun w hw => hw.spares trivial
    · intro reply
      apply Triple.bind fun _ => Stores api.home a
      · exact triple_ofExcept (fun _ w _ hw => hw) fun _ w _ hw => hw
      · intro options
        apply Triple.bind _ patchClass_stores
        intro newServer
        apply Triple.bind fun _ => Stores api.home a
        · have hcalls : (api.client.patchStatefulset name (priorityClassPatch options)).Calls
              Call.SparesServers := NamespacedK8sClient.calls_patchStatefulset trivial
          exact Calls.stores hcalls a
        · exact fun _ => triple_ret fun w hw => hw

/-- A request for a state sets it in the store, where the session has been found. -/
theorem changeState_stores {read newServer : Json} (hread : a name = some (storedAs read))
    (state : Option PatchServerStatusEnum) :
    Triple (serve env) (Stores api.home a) (api.changeState user name read newServer state)
      (fun _ => Stores api.home (a.setState name state)) (fun _ => Stores api.home a) := by
  cases state with
  | none => exact triple_ret fun w hw => hw
  | some state =>
    cases state with
    | running =>
      have htokens : (api.client.patchTokens api.decode api.py name
          { accessToken := user.accessToken, refreshToken := user.refreshToken }
          { accessToken := user.gitToken, expiresAt := user.gitTokenExpiresAt }).Calls
          Call.SparesServers := by
        apply Calls.bind
        · exact NamespacedK8sClient.calls_patchStatefulsetTokens trivial fun _ => trivial
        · intro _
          exact NamespacedK8sClient.calls_patchImagePullSecret trivial fun _ => trivial
      apply Triple.bind _ (Calls.stores htokens a)
      exact fun _ => patchState_stores rfl
    | hibernated =>
      unfold Api.changeState
      dsimp only
      split
      · next hhibernated =>
        have hsame : a.setState name (some .hibernated) = a := by
          apply SessionStore.modify_of_eq
          rintro x hx
          rw [hread] at hx
          obtain rfl := Option.some.inj hx
          unfold storedAs
          rw [hhibernated]
        rw [hsame]
        exact triple_ret fun w hw => hw
      · have hstatus : (Api.sidecarStatus name read).Calls Call.SparesServers := by
          unfold Api.sidecarStatus
          split
          · exact ⟨trivial, fun reply => calls_ofExcept reply⟩
          · trivial
        apply Triple.bind _ (Calls.stores hstatus a)
        exact fun status => patchState_stores ⟨_, _, _, rfl⟩

end Patches

end RenkuNotebooks.Notebooks
