import RenkuNotebooks.Notebooks.ConcurrentLaunches

/-!
# A cache that lags behind

Requests of any users, interleaved call by call with the synchronisation of the cache. After a
creation the service waits until the API shows the server; the cache, which later requests read,
may not have seen it by then.
-/

namespace RenkuNotebooks.Notebooks

open Prog

inductive SessionRequest where
  | launch (request : LaunchRequest)
  | handled (user : User) (request : Request)

namespace SessionRequest

def program (api : Api) : SessionRequest → Service Response
  | launch request => api.launchNotebookHelper request
  | handled user request => api.handle user request

/-- The user launches the session. -/
def Launches (safeUsername name : String) : SessionRequest → Prop
  | launch request => request.user.safeUsername = safeUsername ∧ request.serverName.text = name
  | handled _ _ => False

/-- The user launches the session or asks for it. -/
def Asks (safeUsername name : String) : SessionRequest → Prop
  | launch request => request.user.safeUsername = safeUsername ∧ request.serverName.text = name
  | handled user (.userServer serverName) =>
    user.safeUsername = safeUsername ∧ serverName = name
  | handled _ _ => False

end SessionRequest

/-! ### The run of the requests and of the cache -/

/-- The requests, all states of the cluster so far, and the state that the cache has seen of each
namespace. -/
structure CachedPool (ι : Type) where
  pool : RequestPool ι
  history : List Cluster
  seen : String → Nat

/-- The next call of a request is served, or the cache of a namespace takes over one more change. -/
inductive CacheMove (ι : Type) where
  | serve (i : ι) (env : Env)
  | sync (ns : String)

namespace CachedPool

variable {ι : Type} [DecidableEq ι]

abbrev cluster (s : CachedPool ι) : Cluster := s.pool.state.cluster

/-- What the cache has seen. -/
def view (s : CachedPool ι) : Cluster where
  sessions ns := ((s.history[s.seen ns]?).getD Cluster.empty).sessions ns
  identified ns name x h := Cluster.identified _ ns name x h

/-- The environment with the cache of the state. -/
def envOf (s : CachedPool ι) (env : Env) : Env := { env with cacheView := fun _ => s.view }

def next (m : CacheMove ι) (s : CachedPool ι) : CachedPool ι :=
  match m with
  | .serve i env =>
    let pool := serveNext (i, s.envOf env) s.pool
    { s with pool, history := s.history ++ [pool.state.cluster] }
  | .sync ns =>
    { s with seen := Function.update s.seen ns (min (s.seen ns + 1) (s.history.length - 1)) }

def start (api : Api) (requests : ι → SessionRequest) (w : World) (past : List Cluster)
    (seen : String → Nat) : CachedPool ι where
  pool := { state := w, threads := fun i => (requests i).program api, trace := [] }
  history := past ++ [w.cluster]
  seen

end CachedPool

section Statement

variable {ι : Type} [DecidableEq ι] (api : Api) (requests : ι → SessionRequest)
  (safeUsername name : String)

/-- Where the session of a name is created. -/
abbrev Api.home : String := api.client.preferredNamespace

/-- By these a server is the same one, and the user's. -/
def serverIdentity (server : Json) : Option Json × Option Json :=
  (server.dig ["metadata", "uid"], server.dig ["metadata", "labels", usernameLabel])

def sessionIdentity (x : Option Session) : Option (Option Json × Option Json) :=
  x.map fun x => serverIdentity x.server

def DeletesSession (ns name : String) : Event ι Call Call.Reply → Prop
  | ⟨_, .deleteServer ns' name' _, .ok _⟩ => ns' = ns ∧ name' = name
  | _ => False

def Begun (i : ι) (trace : List (Event ι Call Call.Reply)) : Prop := ∃ e ∈ trace, e.thread = i

/-- The session has not been deleted since the request began. -/
def UndeletedSince (ns name : String) (i : ι) (trace : List (Event ι Call Call.Reply)) : Prop :=
  ∀ before e after, trace = before ++ e :: after → Begun i before → ¬ DeletesSession ns name e

/-- The first request makes no call once the second has begun. -/
def Follows (i j : ι) (trace : List (Event ι Call Call.Reply)) : Prop :=
  ∃ past rest, trace = past ++ rest ∧ ¬ Begun j past ∧ ¬ Begun i rest

def CacheFails (name : String) : Event ι Call Call.Reply → Prop
  | ⟨_, .cacheGet name', .error _⟩ => name' = name
  | _ => False

/-- The cache has failed the request, which so far has only looked the session up. -/
def FallsBack (name : String) (j : ι) (trace : List (Event ι Call Call.Reply)) : Prop :=
  (∃ e ∈ trace, e.thread = j ∧ CacheFails name e) ∧
    ∀ e ∈ trace, e.thread = j → e.call.LooksUp name

/-- Once a launch has been answered with 201, and as long as the session has not been deleted since
it began, a request for the session that has begun since then gets it, and does not create it again;
where the cache has failed it, it asks the API first. -/
def SeesServer (s : CachedPool ι) : Prop :=
  ∀ i j response, (requests i).Launches safeUsername name → s.pool.threads i = .ret response →
    response.status = 201 → UndeletedSince api.home name i s.pool.trace →
    (requests j).Asks safeUsername name → Begun j s.pool.trace → Follows i j s.pool.trace →
    ∃ x, s.cluster.get api.home name = some x ∧
      ((∃ server, serverIdentity server = serverIdentity x.server ∧
          s.pool.threads j = api.rendered server) ∨
        FallsBack name j s.pool.trace ∧ ∃ ns k, s.pool.threads j = .call (.getServer ns name) k)

/-- When a launch of the session or a request for it asks the cache, this has seen the server that
there is, or that there is none, or it fails and the service goes on to the API, which answers. -/
def CaughtUp (m : CacheMove ι) (s : CachedPool ι) : Prop :=
  ∀ j env, m = .serve j env → (requests j).Asks safeUsername name →
    (∀ k, s.pool.threads j = .call (.cacheGet name) k →
      if env.faults s.pool.state.log.length (.cacheGet name) = none then
        api.home ∈ env.watched ∧ ∀ ns ∈ env.watched,
          sessionIdentity (s.view.get ns name) = sessionIdentity (s.cluster.get ns name)
      else
        api.client.bypassCacheOnFailure = true ∧
          api.client.sessionNs ≠ some api.client.renkuNs) ∧
    ∀ ns k, FallsBack name j s.pool.trace → s.pool.threads j = .call (.getServer ns name) k →
      env.faults s.pool.state.log.length (.getServer ns name) = none

end Statement

/-! ### What the calls do to a session -/

section Patches

/-- The patch leaves a server the same one, and its user's. -/
def ServerPatch.KeepsIdentity (patch : ServerPatch) : Prop :=
  ∀ server server', patch.applyTo server = .ok server' →
    serverIdentity server' = serverIdentity server

theorem quotaPatch_identity {priorityClass : Option String} {read doc doc' : Json}
    (h : applyOps (quotaPatch priorityClass read) doc = .ok doc') :
    Json.getAt ["metadata", "uid"] doc' = Json.getAt ["metadata", "uid"] doc ∧
      Json.getAt ["metadata", "labels", usernameLabel] doc' =
        Json.getAt ["metadata", "labels", usernameLabel] doc := by
  unfold quotaPatch at h
  split at h
  · obtain ⟨doc₁, happly, hnil⟩ := applyOps_cons_eq_ok h
    obtain rfl := Except.ok.inj hnil
    have hreplace := Json.replaceAt_of_apply quotaPath_parse happly
    exact ⟨Json.getAt_alterAt_of_separate (by decide) (by decide) hreplace,
      Json.getAt_alterAt_of_separate (by decide) (by decide) hreplace⟩
  · split at h
    · obtain ⟨doc₁, happly, hnil⟩ := applyOps_cons_eq_ok h
      obtain rfl := Except.ok.inj hnil
      have hremove := Json.removeAt_of_apply quotaPath_parse happly
      refine ⟨Json.getAt_removeAt_of_separate (by decide) (by decide) hremove, ?_⟩
      exact Json.getAt_removeAt_sibling (by decide) (by decide) hremove
    · obtain rfl := Except.ok.inj h
      exact ⟨rfl, rfl⟩

theorem classPatch_keepsIdentity (options : ServerOptions) (enforceCpuLimits : CPUEnforcement)
    (classId : Int) (read : Json) :
    (ServerPatch.json (classPatch options enforceCpuLimits classId read)).KeepsIdentity := by
  intro server server' happly
  obtain ⟨doc₁, doc₂, hfirst, hsecond, hquota⟩ := classPatch_steps (applyOps_of_applyTo happly)
  obtain ⟨huid, hlabel⟩ := quotaPatch_identity hquota
  have hdig : ∀ j, serverIdentity j = (Json.getAt ["metadata", "uid"] j,
      Json.getAt ["metadata", "labels", usernameLabel] j) := by
    intro j
    rw [Json.getAt_of_named (by decide), Json.getAt_of_named (by decide)]
    rfl
  rw [hdig, hdig, huid, hlabel,
    Json.getAt_alterAt_of_separate (by decide) (by decide) hsecond,
    Json.getAt_alterAt_of_separate (by decide) (by decide) hfirst,
    Json.getAt_alterAt_of_separate (by decide) (by decide) hsecond,
    Json.getAt_alterAt_of_separate (by decide) (by decide) hfirst]

theorem statePatch_keepsIdentity {patch : Json} (h : StatePatch patch) :
    (ServerPatch.merge patch).KeepsIdentity := by
  rintro server server' happly
  obtain rfl := Except.ok.inj happly
  have hmetadata : ∀ key, key ≠ "annotations" →
      Json.dig ["metadata", key] (Json.mergePatch patch server) =
        Json.dig ["metadata", key] server := by
    intro key hkey
    simp only [Json.dig_cons]
    rcases h with rfl | ⟨h, pyRepr, date, rfl⟩
    · rw [runningPatch, Json.get?_mergePatch_of_ne (by simp)]
    · unfold Hibernation.patch
      dsimp only
      rw [Json.get?_mergePatch_of_mem (by simp) (by simp) List.mem_cons_self, Option.bind_some,
        Json.dig_singleton, Json.get?_mergePatch_of_ne (by simpa using hkey)]
      cases server.get? "metadata" with
      | none => rfl
      | some metadata => exact (Json.dig_singleton key metadata).symm
  have hlabels : ∀ j, Json.dig ["metadata", "labels", usernameLabel] j =
      (Json.dig ["metadata", "labels"] j).bind (Json.dig [usernameLabel]) :=
    fun j => Json.dig_append ["metadata", "labels"] [usernameLabel] j
  unfold serverIdentity
  rw [hlabels, hlabels, hmetadata "uid" (by decide), hmetadata "labels" (by decide)]

end Patches

/-- Servers are created in one namespace, and no patch makes a server another one. -/
def Call.Regular (home : String) : Call → Prop
  | .createServer ns _ _ => ns = home
  | .patchServer _ _ patch => patch.KeepsIdentity
  | _ => True

section Calls

variable {api : Api} {name : String}

theorem Call.LooksUp.regular {home : String} {c : Call} (h : c.LooksUp name) : c.Regular home := by
  cases c <;> trivial

theorem calls_changeServer_regular {home : String} (user : RegisteredUser)
    (body : PatchServerRequest) (server : Json) :
    (api.changeServer user name body server).Calls (Call.Regular home) := by
  have hlookUp : ∀ c : Call, c.LooksUp name → c.Regular home := fun c hc => hc.regular
  have hstate : ∀ patch, StatePatch patch →
      (api.client.patchServer name user.safeUsername (.merge patch)).Calls (Call.Regular home) :=
    fun patch hpatch => K8sClient.calls_patchServer hlookUp fun _ => statePatch_keepsIdentity hpatch
  apply Calls.bind
  · cases body.resourceClassId with
    | none => trivial
    | some classId =>
      refine ⟨trivial, fun reply => ?_⟩
      apply Calls.bind (calls_ofExcept reply)
      intro options
      apply Calls.bind
      · exact K8sClient.calls_patchServer hlookUp fun _ => classPatch_keepsIdentity _ _ _ _
      · intro newServer
        apply Calls.bind
        · exact NamespacedK8sClient.calls_patchStatefulset trivial
        · exact fun _ => trivial
  · intro newServer
    apply Calls.bind
    · cases body.state with
      | none => trivial
      | some state =>
        cases state with
        | running =>
          apply Calls.bind
          · apply Calls.bind
            · exact NamespacedK8sClient.calls_patchStatefulsetTokens trivial fun _ => trivial
            · intro _
              exact NamespacedK8sClient.calls_patchImagePullSecret trivial fun _ => trivial
          · exact fun _ => hstate _ (.inl rfl)
        | hibernated =>
          dsimp only [Api.changeState]
          split
          · trivial
          · apply Calls.bind
            · unfold Api.sidecarStatus
              split
              · exact ⟨trivial, fun reply => calls_ofExcept reply⟩
              · trivial
            · exact fun status => hstate _ (.inr ⟨_, _, _, rfl⟩)
    · intro shown
      exact Calls.bind (calls_ofExcept _) fun body => trivial

theorem calls_handle_regular {home : String} (user : User) (request : Request) :
    (api.handle user request).Calls (Call.Regular home) := by
  cases request with
  | userServers filters =>
    apply Calls.bind (K8sClient.calls_listServers trivial fun _ => trivial)
    intro servers
    apply Calls.bind (calls_ofExcept _)
    intro filtered
    apply Calls.bind (calls_ofExcept _)
    exact fun _ => trivial
  | userServer name =>
    apply Calls.bind (K8sClient.calls_getServer fun c hc => hc.regular)
    rintro (_ | server)
    · trivial
    · exact Calls.bind (calls_ofExcept _) fun _ => trivial
  | serverLogs name maxLines =>
    apply Calls.bind
    · apply Calls.bind (K8sClient.calls_getServer fun c hc => hc.regular)
      rintro (_ | server)
      · trivial
      · apply Calls.bind (calls_ofExcept _)
        intro ns
        exact NamespacedK8sClient.calls_getPodLogs (fun _ => trivial) _ _
    · exact fun _ => trivial
  | patchServer name body =>
    dsimp only [Api.handle, Api.patchServer]
    split
    · trivial
    · cases user with
      | anonymous u => trivial
      | registered u =>
        apply Calls.bind (K8sClient.calls_getServer fun c hc => hc.regular)
        rintro (_ | server)
        · trivial
        · dsimp only
          split
          · trivial
          · exact calls_changeServer_regular u body server
  | stopServer name forced =>
    apply Calls.bind
    · apply Calls.bind (K8sClient.calls_ownNamespace fun c hc => hc.regular)
      exact fun ns => NamespacedK8sClient.calls_deleteServer trivial
    · exact fun _ => trivial

end Calls

/-! ### The session after a call -/

section Served

variable {env : Env} {w : World} {home name : String} {c : Call}

/-- An update keeps a session where it is, up to what the update changes. -/
theorem Cluster.update_session {α : Type} {cluster : Cluster} {ns name' : String}
    {f : Session → Except Fault (α × Session)} {x : Session}
    (hf : ∀ y a y', f y = .ok (a, y') → serverIdentity y'.server = serverIdentity y.server)
    (hget : cluster.get home name = some x) :
    ∃ x', (cluster.update ns name' f).2.get home name = some x' ∧
      serverIdentity x'.server = serverIdentity x.server := by
  by_cases hplace : (home, name) = (ns, name')
  · cases hplace
    unfold Cluster.update
    rw [hget]
    dsimp only
    cases hresult : f x with
    | error fault => exact ⟨x, hget, rfl⟩
    | ok result =>
      obtain ⟨a, x'⟩ := result
      dsimp only
      split
      · next hid => exact ⟨x', Cluster.get_set _ _ _ _ hid, hf x a x' hresult⟩
      · exact ⟨x, hget, rfl⟩
  · rw [Cluster.get_update_of_ne _ _ hplace]
    exact ⟨x, hget, rfl⟩

variable {ι : Type} {i : ι}

/-- A session stays the same one until it is deleted. -/
theorem serve_session (hc : c.Regular home)
    (hkept : ¬ DeletesSession home name ⟨i, c, (serve env c w).1⟩) {x : Session}
    (hget : w.cluster.get home name = some x) :
    ∃ x', (serve env c w).2.cluster.get home name = some x' ∧
      serverIdentity x'.server = serverIdentity x.server := by
  unfold serve at hkept ⊢
  cases hfault : env.faults w.log.length c with
  | some fault => exact ⟨x, hget, rfl⟩
  | none =>
    rw [hfault] at hkept
    dsimp only at hkept ⊢
    cases c with
    | createServer ns name' manifest =>
      dsimp only [answer]
      unfold Cluster.createServer
      split
      · exact ⟨x, hget, rfl⟩
      · next habsent =>
        dsimp only
        split
        · next hid =>
          have hplace : (home, name) ≠ (ns, name') := by
            rintro ⟨⟩
            rw [habsent] at hget
            cases hget
          rw [Cluster.get_set_of_ne _ _ hid hplace]
          exact ⟨x, hget, rfl⟩
        · exact ⟨x, hget, rfl⟩
    | patchServer ns name' patch =>
      apply Cluster.update_session _ hget
      intro y server y' hpatch
      obtain ⟨patched, happly, hy⟩ := Results.bind_eq_ok_iff.mp hpatch
      cases hy
      exact hc y.server server happly
    | patchStatefulset ns name' ops =>
      apply Cluster.update_session _ hget
      intro y a y' hpatch
      split at hpatch
      · cases hpatch
      · obtain ⟨patched, -, hy⟩ := Results.bind_eq_ok_iff.mp hpatch
        cases hy
        rfl
    | patchImageSecret ns name' ops =>
      apply Cluster.update_session _ hget
      intro y a y' hpatch
      split at hpatch
      · cases hpatch
      · split at hpatch
        · cases hpatch
        · cases hpatch
          rfl
    | deleteServer ns name' forced =>
      dsimp only [answer, Cluster.deleteServer] at hkept ⊢
      cases hgone : w.cluster.get ns name' with
      | none => exact ⟨x, hget, rfl⟩
      | some y =>
        rw [hgone] at hkept
        have hplace : (home, name) ≠ (ns, name') := by
          rintro ⟨⟩
          exact hkept ⟨rfl, rfl⟩
        dsimp only
        rw [Cluster.get_erase_of_ne _ hplace]
        exact ⟨x, hget, rfl⟩
    | _ => exact ⟨x, hget, rfl⟩

/-- No other namespace gets a session. -/
theorem serve_elsewhere (hc : c.Regular home) {ns : String} (hns : ns ≠ home)
    (hget : w.cluster.get ns name = none) : (serve env c w).2.cluster.get ns name = none := by
  have hupdate : ∀ {α : Type} (ns' name' : String) (f : Session → Except Fault (α × Session)),
      (w.cluster.update ns' name' f).2.get ns name = none := by
    intro α ns' name' f
    by_cases hplace : (ns, name) = (ns', name')
    · cases hplace
      unfold Cluster.update
      rw [hget]
      exact hget
    · rw [Cluster.get_update_of_ne _ _ hplace, hget]
  unfold serve
  cases env.faults w.log.length c with
  | some fault => exact hget
  | none =>
    cases c with
    | createServer ns' name' manifest =>
      obtain rfl : ns' = home := hc
      have hplace : (ns, name) ≠ (ns', name') := fun he => hns (congrArg Prod.fst he)
      dsimp only [answer]
      unfold Cluster.createServer
      split
      · exact hget
      · dsimp only
        split
        · next hid => rw [Cluster.get_set_of_ne _ _ hid hplace, hget]
        · exact hget
    | patchServer ns' name' patch => exact hupdate ns' name' _
    | patchStatefulset ns' name' ops => exact hupdate ns' name' _
    | patchImageSecret ns' name' ops => exact hupdate ns' name' _
    | deleteServer ns' name' forced =>
      dsimp only [answer, Cluster.deleteServer]
      split
      · exact hget
      · by_cases hplace : (ns, name) = (ns', name')
        · cases hplace
          exact Cluster.get_erase _ _ _
        · rw [Cluster.get_erase_of_ne _ hplace, hget]
    | _ => exact hget

end Served

/-! ### What a launch knows -/

/-- The reply shows that the user has a session of the name, created or found. -/
def Call.ShowsSession (home safeUsername name : String) : (c : Call) → c.Reply → Prop
  | .createServer ns name' manifest, reply => reply = .ok () ∧ ns = home ∧ name' = name ∧
      ∀ uid, hasLabel usernameLabel safeUsername (storedServer ns uid manifest)
  | c, reply => c.LooksUp name ∧ ∃ server ∈ c.shown reply,
      hasLabel usernameLabel safeUsername server

/-- Whether a reply has shown the session. -/
def knowledgeProtocol (home safeUsername name : String) : Protocol Call Call.Reply Prop where
  allowed _ c := c.Regular home
  assumed _ _ _ := True
  next known c reply := known ∨ c.ShowsSession home safeUsername name reply

section Knowledge

variable {api : Api} {home safeUsername name : String} {known : Prop} {k : K8sClient}

/-- Whatever it knows, a request may stop. -/
def GivesUp (_ : PyError) (_ : Prop) : Prop := True

theorem obeys_of_regular {α : Type} {p : Service α} (hp : p.Calls (Call.Regular home)) :
    p.Obeys (knowledgeProtocol home safeUsername name) (fun _ known' => known → known') GivesUp
      known := by
  induction p generalizing known with
  | ret a => exact id
  | raise e => trivial
  | call c k ih =>
    refine ⟨hp.1, fun r _ => ?_⟩
    exact (ih r (hp.2 r)).mono fun _ known' h hknown => h (.inl hknown)

/-- What has been known before is still known, and so is a session that has been found. -/
def FoundKnown (safeUsername : String) (before : Prop) (server : Option Json) (known : Prop) :
    Prop :=
  (before → known) ∧ ∀ s, server = some s → hasLabel usernameLabel safeUsername s → known

theorem cacheGet_known :
    (JsServerCache.getServer name).Obeys (knowledgeProtocol home safeUsername name)
      (FoundKnown safeUsername known) (fun _ known' => known → known') known := by
  apply Obeys.bind (fun reply known' => (known → known') ∧
    ∀ server ∈ Call.shown (.cacheGet name) reply, hasLabel usernameLabel safeUsername server → known')
  · refine obeys_perform trivial fun reply _ => ⟨.inl, fun server hserver hlabel => ?_⟩
    exact .inr ⟨rfl, server, hserver, hlabel⟩
  · rintro reply known' ⟨hbefore, hshown⟩
    rcases reply with (n | _) | servers
    · exact hbefore
    · exact hbefore
    · apply obeys_ofExcept
      · intro server hserver
        refine ⟨hbefore, ?_⟩
        rintro s rfl
        exact hshown s (mem_of_single hserver)
      · exact fun _ _ => hbefore

theorem apiGet_known {ns : String} :
    (NamespacedK8sClient.getServer ns name).Obeys (knowledgeProtocol home safeUsername name)
      (FoundKnown safeUsername known) GivesUp known := by
  apply Obeys.bind (fun reply known' => (known → known') ∧
    ∀ server ∈ Call.shown (.getServer ns name) reply,
      hasLabel usernameLabel safeUsername server → known')
  · refine obeys_perform trivial fun reply _ => ⟨.inl, fun server hserver hlabel => ?_⟩
    exact .inr ⟨rfl, server, hserver, hlabel⟩
  · rintro reply known' ⟨hbefore, hshown⟩
    rcases reply with (n | _) | server
    · dsimp only [exceptApi]
      split
      · exact ⟨hbefore, nofun⟩
      · trivial
    · trivial
    · refine ⟨hbefore, ?_⟩
      rintro s ⟨⟩
      exact hshown server (List.mem_singleton_self server)

theorem getServerFromApi_known :
    (k.getServerFromApi name).Obeys (knowledgeProtocol home safeUsername name)
      (FoundKnown safeUsername known) GivesUp known := by
  apply Obeys.bind (FoundKnown safeUsername known)
  · unfold K8sClient.getSessionServer
    split
    · exact ⟨id, nofun⟩
    · exact apiGet_known
  · rintro session known' ⟨hbefore, hsession⟩
    apply Obeys.bind _ apiGet_known
    rintro renku known'' ⟨hafter, hrenku⟩
    apply obeys_ofExcept
    · intro server hserver
      refine ⟨fun hknown => hafter (hbefore hknown), ?_⟩
      rintro s rfl hlabel
      rcases mem_of_single_found hserver with hs | hs
      · exact hafter (hsession s hs hlabel)
      · exact hrenku s hs hlabel
    · exact fun _ _ => trivial

/-- A server that a look-up gives to the user is known. -/
theorem getServer_known :
    (k.getServer name safeUsername).Obeys (knowledgeProtocol home safeUsername name)
      (fun server known' => (known → known') ∧ ∀ s, server = some s → s.truthy = true → known')
      GivesUp known := by
  apply Obeys.bind (FoundKnown safeUsername known)
  · apply Obeys.tryCatch _ cacheGet_known
    intro e known' hbefore
    split
    · exact getServerFromApi_known.mono fun _ _ h => ⟨fun hknown => h.1 (hbefore hknown), h.2⟩
    · trivial
  · rintro server known' ⟨hbefore, hfound⟩
    refine ⟨hbefore, ?_⟩
    intro s hs htruthy
    obtain ⟨hserver, hown⟩ := Option.filter_eq_some_iff.mp hs
    apply hfound s hserver
    simpa [htruthy] using hown

theorem calls_finishLaunch_regular {server : UserServer} {manifest : Json} :
    (api.finishLaunch server manifest).Calls (Call.Regular home) :=
  calls_finishLaunch (fun _ hc => hc.regular) (fun _ => trivial) fun _ => trivial

/-- What a launch knows when it comes to the creation. -/
def Found.Known (request : LaunchRequest) (found : Found) (known : Prop) : Prop :=
  found.IsFor request ∧
    match found with
    | .late _ _ => known
    | _ => True

theorem lookUpAgain_known (request : LaunchRequest) :
    (api.lookUpAgain request).Obeys
      (knowledgeProtocol home request.user.safeUsername request.serverName.text)
      (Found.Known request) GivesUp known := by
  apply Obeys.bind (fun server known' => request.prepare = .ok server)
  · exact obeys_ofExcept (fun _ h => h) fun _ _ => trivial
  intro server known₁ hserver
  have huser := request.prepare_user server hserver
  have hname := request.prepare_serverName server hserver
  apply Obeys.bind (fun _ _ => True)
  · exact obeys_ofExcept (fun _ _ => trivial) fun _ _ => trivial
  intro _ known₂ _
  apply Obeys.bind (fun manifest _ => server.startManifest api.config api.py
    request.branchFound request.commitFound = .ok manifest)
  · exact obeys_ofExcept (fun _ h => h) fun _ _ => trivial
  intro manifest known₃ hmanifest
  have hmanifestName : NamespacedK8sClient.manifestName manifest = request.serverName.text := by
    rw [manifestName_of_startManifest hmanifest, hname]
  have hmissing : ∀ known', Found.Known request (.missing server manifest) known' := by
    intro known'
    refine ⟨⟨huser, hname, hmanifestName, fun ns uid => ?_⟩, trivial⟩
    rw [← huser]
    exact hasLabel_of_startManifest hmanifest ns uid
  unfold Api.lookUpFor
  rw [hmanifestName, huser]
  apply Obeys.bind _ getServer_known
  rintro (_ | existing) known' ⟨-, hfound⟩
  · exact hmissing known'
  · dsimp only
    split
    · next htruthy => exact ⟨⟨huser, hname⟩, hfound existing rfl htruthy⟩
    · exact hmissing known'

theorem beforeCreation_known (request : LaunchRequest) :
    (api.beforeCreation request).Obeys
      (knowledgeProtocol home request.user.safeUsername request.serverName.text)
      (Found.Known request) GivesUp known := by
  apply Obeys.bind _ getServer_known
  rintro (_ | server) known' -
  · exact lookUpAgain_known request
  · dsimp only
    split
    · exact ⟨trivial, trivial⟩
    · exact lookUpAgain_known request

/-- A launch that is answered with 201 knows the session. -/
theorem launch_known (request : LaunchRequest) :
    (api.launchNotebookHelper request).Obeys
      (knowledgeProtocol api.home request.user.safeUsername request.serverName.text)
      (fun response known' => response.status = 201 → known') GivesUp known := by
  rw [api.launchNotebookHelper_eq]
  apply Obeys.bind _ (beforeCreation_known request)
  rintro (existing | ⟨server, existing⟩ | ⟨server, manifest⟩) known' ⟨hfor, hknown⟩
  · apply Obeys.bind (fun _ _ => True)
    · exact obeys_ofExcept (fun _ _ => trivial) fun _ _ => trivial
    · rintro _ _ - ⟨⟩
  · exact (obeys_of_regular calls_finishLaunch_regular).mono fun _ _ h _ => h hknown
  · obtain ⟨-, -, hmanifest, hlabel⟩ := hfor
    apply Obeys.bind (fun _ known'' => known'')
    · unfold NamespacedK8sClient.createServer
      rw [hmanifest]
      apply Obeys.bind (fun reply known'' => reply = .ok () → known'')
      · refine obeys_perform rfl fun reply _ hreply => ?_
        exact .inr ⟨hreply, rfl, rfl, hlabel _⟩
      · rintro ((status | _) | _) known'' hcreated
        · trivial
        · trivial
        · have hwait : (NamespacedK8sClient.retryGetServer api.client.preferredNamespace
              request.serverName.text 10).Calls (Call.Regular api.home) :=
            (calls_retryGetServer 10).mono fun c hc => hc.regular
          exact (obeys_of_regular hwait).mono fun _ _ h => h (hcreated rfl)
    · intro created known'' hknown''
      exact (obeys_of_regular calls_finishLaunch_regular).mono fun _ _ h _ => h hknown''

theorem calls_launch_regular (request : LaunchRequest) :
    (api.launchNotebookHelper request).Calls (Call.Regular api.home) := by
  rw [api.launchNotebookHelper_eq]
  apply Calls.bind (calls_beforeCreation fun _ hc => hc.regular)
  rintro (existing | ⟨server, existing⟩ | ⟨server, manifest⟩)
  · exact Calls.bind (calls_ofExcept _) fun _ => trivial
  · exact calls_finishLaunch_regular
  · apply Calls.bind
    · have hcreate : Call.Regular api.home (.createServer api.client.preferredNamespace
          (NamespacedK8sClient.manifestName manifest) manifest) := rfl
      apply calls_perform_exceptApi (f := id) hcreate
      · exact fun _ => (calls_retryGetServer 10).mono fun _ hc => hc.regular
      · exact fun _ => trivial
    · exact fun _ => calls_finishLaunch_regular

end Knowledge

/-! ### All interleavings -/

section Interleavings

variable {ι : Type} {trace : List (Event ι Call Call.Reply)} {e : Event ι Call Call.Reply} {i : ι}
  {ns name : String}

theorem UndeletedSince.of_concat (h : UndeletedSince ns name i (trace ++ [e])) :
    UndeletedSince ns name i trace ∧ (Begun i trace → ¬ DeletesSession ns name e) := by
  refine ⟨?_, fun hbegun => h trace e [] rfl hbegun⟩
  rintro before e' after rfl hbegun
  exact h before e' (after ++ [e]) (by simp) hbegun

theorem not_begun_of_concat (h : ¬ Begun i (trace ++ [e])) : ¬ Begun i trace ∧ e.thread ≠ i := by
  refine ⟨?_, fun hi => h ⟨e, by simp, hi⟩⟩
  rintro ⟨e', he', hi⟩
  exact h ⟨e', List.mem_append_left [e] he', hi⟩

variable {api : Api} {safeUsername : String}

/-- The user has the session. -/
def HasSession (api : Api) (safeUsername name : String) (c : Cluster) : Prop :=
  ∃ x, c.get api.home name = some x ∧ hasLabel usernameLabel safeUsername x.server

theorem HasSession.served {c : Call} {env : Env} {w : World} {j : ι} (hc : c.Regular api.home)
    (hkept : ¬ DeletesSession api.home name ⟨j, c, (serve env c w).1⟩)
    (h : HasSession api safeUsername name w.cluster) :
    HasSession api safeUsername name (serve env c w).2.cluster := by
  obtain ⟨x, hget, hlabel⟩ := h
  obtain ⟨x', hget', hidentity⟩ := serve_session hc hkept hget
  refine ⟨x', hget', ?_⟩
  have hsame := congrArg Prod.snd hidentity
  exact hsame.trans hlabel

/-- A server that has been created is there. -/
theorem serve_createServer_ok {env : Env} {w : World} {manifest : Json}
    (h : (serve env (.createServer ns name manifest) w).1 = .ok ()) :
    ∃ uid, (serve env (.createServer ns name manifest) w).2.cluster.get ns name =
      some (.created (storedServer ns uid manifest)) := by
  unfold serve at h ⊢
  cases hfault : env.faults w.log.length (.createServer ns name manifest) with
  | some fault =>
    rw [hfault] at h
    cases h
  | none =>
    rw [hfault] at h
    dsimp only [answer, Cluster.createServer] at h ⊢
    cases hget : w.cluster.get ns name with
    | some x =>
      rw [hget] at h
      cases h
    | none =>
      rw [hget] at h
      dsimp only at h ⊢
      split at h
      · next hid =>
        rw [dif_pos hid]
        exact ⟨toString w.log.length, Cluster.get_set _ _ _ _ hid⟩
      · cases h

theorem SessionRequest.Launches.asks {r : SessionRequest} (h : r.Launches safeUsername name) :
    r.Asks safeUsername name := by
  cases r with
  | launch request => exact h
  | handled user request => exact h.elim

/-- A launch or a request for the session looks it up and, where it is found, shows it. -/
theorem SessionRequest.Asks.program_eq {r : SessionRequest} (h : r.Asks safeUsername name)
    (api : Api) :
    ∃ f, r.program api = (api.client.getServer name safeUsername).bind f ∧
      ∀ server, server.truthy = true → f (some server) = api.rendered server := by
  cases r with
  | launch request =>
    obtain ⟨rfl, rfl⟩ := h
    exact ⟨_, rfl, fun server htruthy => if_pos htruthy⟩
  | handled user request =>
    cases request with
    | userServer serverName =>
      obtain ⟨rfl, rfl⟩ := h
      exact ⟨_, rfl, fun server _ => rfl⟩
    | _ => exact h.elim

theorem Follows.of_concat {j : ι} (h : Follows i j (trace ++ [e])) (hj : Begun j (trace ++ [e])) :
    Follows i j trace ∧ e.thread ≠ i := by
  obtain ⟨past, rest, htrace, hpast, hrest⟩ := h
  rcases List.eq_nil_or_concat rest with rfl | ⟨rest, e', rfl⟩
  · rw [List.append_nil] at htrace
    exact absurd (htrace ▸ hj) hpast
  · rw [List.concat_eq_append, ← List.append_assoc] at htrace
    obtain ⟨rfl, he⟩ := List.append_inj' htrace rfl
    obtain rfl := List.singleton_inj.mp he
    rw [List.concat_eq_append] at hrest
    exact ⟨⟨past, rest, rfl, hpast, (not_begun_of_concat hrest).1⟩, (not_begun_of_concat hrest).2⟩

theorem FallsBack.concat {j : ι} (h : FallsBack name j trace)
    (he : e.thread = j → e.call.LooksUp name) : FallsBack name j (trace ++ [e]) := by
  obtain ⟨⟨e', hmem, hfails⟩, hlookUps⟩ := h
  refine ⟨⟨e', List.mem_append_left [e] hmem, hfails⟩, fun e'' hmem'' => ?_⟩
  rcases List.mem_append.mp hmem'' with hmem'' | hmem''
  · exact hlookUps e'' hmem''
  · obtain rfl := List.mem_singleton.mp hmem''
    exact he

/-! ### Asking the API where the cache fails -/

/-- The API has a server of this identity in the home namespace, and none elsewhere. -/
def Call.Tells (home : String) (identity : Option Json × Option Json) : (c : Call) → c.Reply → Prop
  | .getServer ns _, reply =>
    if ns = home then ∃ server, reply = .ok server ∧ server.truthy = true ∧
      serverIdentity server = identity
    else reply = .error (.status 404)
  | _, _ => True

/-- Only the API is asked, and only for the session. -/
def askingProtocol (home name : String) (identity : Option Json × Option Json) :
    Protocol Call Call.Reply Unit where
  allowed _ c := ∃ ns, c = .getServer ns name
  assumed _ c reply := c.Tells home identity reply
  next _ _ _ := ()

/-- The answer shows a server of this identity. -/
def ShowsServer (api : Api) (identity : Option Json × Option Json) (answer : Service Response) :
    Prop :=
  ∃ server, serverIdentity server = identity ∧ answer = api.rendered server

/-- A request that only asks the API for the session, until it shows it. -/
def Asking (api : Api) (name : String) (identity : Option Json × Option Json)
    (p : Service Response) : Prop :=
  p.Obeys (askingProtocol api.home name identity)
    (fun response _ => ShowsServer api identity (.ret response))
    (fun e _ => ShowsServer api identity (.raise e)) ()

section Asking

variable {identity : Option Json × Option Json} {k : K8sClient}

theorem Api.rendered_ends (api : Api) (server : Json) :
    (∃ response, api.rendered server = .ret response) ∨
      ∃ e, api.rendered server = .raise e := by
  unfold Api.rendered
  cases api.render server with
  | ok body => exact .inl ⟨_, rfl⟩
  | error e => exact .inr ⟨e, rfl⟩

theorem rendered_ne_call (server : Json) {c : Call} {k : c.Reply → Service Response} :
    api.rendered server ≠ .call c k := by
  intro hcall
  rcases api.rendered_ends server with ⟨response, hends⟩ | ⟨e, hends⟩
  · cases hcall.symm.trans hends
  · cases hcall.symm.trans hends

theorem asking_rendered {server : Json} (h : serverIdentity server = identity) :
    Asking api name identity (api.rendered server) := by
  rcases api.rendered_ends server with ⟨response, hanswer⟩ | ⟨e, hanswer⟩
  · rw [hanswer]
    exact ⟨server, h, hanswer.symm⟩
  · rw [hanswer]
    exact ⟨server, h, hanswer.symm⟩

/-- What is found in a namespace. -/
def FoundIn (home : String) (identity : Option Json × Option Json) (ns : String)
    (server : Option Json) : Prop :=
  if ns = home then ∃ s, server = some s ∧ s.truthy = true ∧ serverIdentity s = identity
  else server = none

variable {raised : PyError → Unit → Prop}

theorem apiGet_asks {home ns : String} :
    (NamespacedK8sClient.getServer ns name).Obeys (askingProtocol home name identity)
      (fun server _ => FoundIn home identity ns server) raised () := by
  apply Obeys.bind fun reply _ =>
    if ns = home then ∃ server, reply = .ok server ∧ server.truthy = true ∧
      serverIdentity server = identity
    else reply = .error (.status 404)
  · exact obeys_perform ⟨ns, rfl⟩ fun reply h => h
  · intro reply _ htells
    split at htells
    · next hns =>
      obtain ⟨server, rfl, hfound⟩ := htells
      exact (if_pos hns).mpr ⟨server, rfl, hfound⟩
    · next hns =>
      subst htells
      exact (if_neg hns).mpr rfl

/-- The API look-up finds the session, whichever of the two namespaces is its home. -/
theorem getServerFromApi_asks (hns : k.sessionNs ≠ some k.renkuNs) :
    (k.getServerFromApi name).Obeys (askingProtocol k.preferredNamespace name identity)
      (fun server _ => ∃ s, server = some s ∧ s.truthy = true ∧ serverIdentity s = identity)
      raised () := by
  unfold K8sClient.getServerFromApi K8sClient.getSessionServer K8sClient.preferredNamespace
  cases hsession : k.sessionNs with
  | none =>
    apply Obeys.bind (fun session _ => session = none)
    · exact rfl
    rintro session _ rfl
    apply Obeys.bind _ apiGet_asks
    intro renku _ hrenku
    obtain ⟨s, rfl, htruthy, hidentity⟩ := (if_pos rfl).mp hrenku
    have hfound : K8sClient.foundServers [none, some s] = [s] := by
      simp [K8sClient.foundServers, Option.filter, htruthy]
    rw [hfound]
    exact ⟨s, rfl, htruthy, hidentity⟩
  | some ns =>
    have hne : k.renkuNs ≠ ns := fun he => hns (hsession.trans (congrArg some he.symm))
    apply Obeys.bind _ apiGet_asks
    intro session _ hsome
    obtain ⟨s, rfl, htruthy, hidentity⟩ := (if_pos rfl).mp hsome
    apply Obeys.bind _ apiGet_asks
    intro renku _ hrenku
    obtain rfl := (if_neg hne).mp hrenku
    have hfound : K8sClient.foundServers [some s, none] = [s] := by
      simp [K8sClient.foundServers, Option.filter, htruthy]
    rw [hfound]
    exact ⟨s, rfl, htruthy, hidentity⟩

/-- A look-up goes on with what the cache has, or asks the API. -/
theorem K8sClient.getServer_bind (k : K8sClient) (name safeUsername : String) {α : Type}
    (f : Option Json → Service α) :
    ∃ rest, (k.getServer name safeUsername).bind f = .call (.cacheGet name) rest ∧
      (∀ server, rest (.ok [server]) = f (K8sClient.ownServer safeUsername (some server))) ∧
      (k.bypassCacheOnFailure = true → ∀ fault, rest (.error fault) =
        ((k.getServerFromApi name).bind fun server =>
          f (K8sClient.ownServer safeUsername server))) := by
  refine ⟨_, rfl, fun server => rfl, fun hbypass fault => ?_⟩
  have hapi : ∀ e : PyError, e.isJSCacheError = true →
      ((if e.isJSCacheError ∧ k.bypassCacheOnFailure then k.getServerFromApi name
          else .raise e).bind fun server => .ret (K8sClient.ownServer safeUsername server)).bind f =
        (k.getServerFromApi name).bind fun server =>
          f (K8sClient.ownServer safeUsername server) := by
    intro e he
    rw [if_pos ⟨he, hbypass⟩, bind_assoc]
    rfl
  cases fault with
  | status n => exact hapi (JsServerCache.unexpectedStatus n) rfl
  | unreachable => exact hapi JsServerCache.unavailable rfl

end Asking

/-! ### What is kept -/

section Kept

variable [DecidableEq ι] {requests : ι → SessionRequest} {s : CachedPool ι} {m : CacheMove ι}

/-- A request that has made no call knows what it knew at the start. -/
theorem phase_of_not_begun {Q : Type} (P : Protocol Call Call.Reply Q) (q : Q)
    (h : ¬ Begun i trace) : P.phase q i trace = q := by
  induction trace with
  | nil => rfl
  | cons e trace ih =>
    have hfirst : e.thread ≠ i := fun hi => h ⟨e, List.mem_cons_self, hi⟩
    have hrest : ¬ Begun i trace := fun ⟨e', he', hi⟩ => h ⟨e', List.mem_cons_of_mem e he', hi⟩
    have hstep : P.phase q i (e :: trace) = P.phase (P.after i q e) i trace := rfl
    rw [hstep, Protocol.after, if_neg hfirst, ih hrest]

/-- A request that has begun asks only the API for the session, until it shows it. -/
structure Seeing (api : Api) (name : String) (pool : RequestPool ι)
    (identity : Option Json × Option Json) (j : ι) : Prop where
  asking : Asking api name identity (pool.threads j)
  fallsBack : ∀ c k, pool.threads j = .call c k → FallsBack name j pool.trace

/-- What is kept along a run. -/
structure SessionKept (api : Api) (requests : ι → SessionRequest) (safeUsername name : String)
    (s : CachedPool ι) : Prop where
  obedient : s.pool.Obedient (knowledgeProtocol api.home safeUsername name)
    (fun i => ¬ (requests i).Launches safeUsername name)
    (fun response known => response.status = 201 → known) GivesUp
  fresh : ∀ j, ¬ Begun j s.pool.trace → s.pool.threads j = (requests j).program api
  elsewhere : ∀ ns, ns ≠ api.home → s.cluster.get ns name = none
  present : ∀ i, (requests i).Launches safeUsername name →
    (knowledgeProtocol api.home safeUsername name).phase
      (¬ (requests i).Launches safeUsername name) i s.pool.trace →
    UndeletedSince api.home name i s.pool.trace → HasSession api safeUsername name s.cluster
  seeing : ∀ i j, (requests i).Launches safeUsername name →
    (knowledgeProtocol api.home safeUsername name).phase
      (¬ (requests i).Launches safeUsername name) i s.pool.trace →
    UndeletedSince api.home name i s.pool.trace → (requests j).Asks safeUsername name →
    Begun j s.pool.trace → Follows i j s.pool.trace →
    ∃ x, s.cluster.get api.home name = some x ∧
      Seeing api name s.pool (serverIdentity x.server) j

omit [DecidableEq ι] in
theorem CachedPool.get_view_of_identity {ns : String} {y : Session}
    (hsame : sessionIdentity (s.view.get ns name) = sessionIdentity (s.cluster.get ns name))
    (hview : s.view.get ns name = some y) :
    ∃ x, s.cluster.get ns name = some x ∧ serverIdentity x.server = serverIdentity y.server := by
  rw [hview] at hsame
  cases hget : s.cluster.get ns name with
  | none =>
    rw [hget] at hsame
    cases hsame
  | some x =>
    rw [hget] at hsame
    exact ⟨x, rfl, (Option.some.inj hsame).symm⟩

omit [DecidableEq ι] in
/-- The cache fails or has what it has seen. -/
theorem CachedPool.cacheGet_cases (s : CachedPool ι) (env : Env) (name : String) :
    (env.faults s.pool.state.log.length (.cacheGet name) = none ∧
      (serve (s.envOf env) (.cacheGet name) s.pool.state).1 =
        .ok (env.watched.filterMap fun ns => (s.view.get ns name).map (·.server))) ∨
    ∃ fault, env.faults s.pool.state.log.length (.cacheGet name) = some fault ∧
      (serve (s.envOf env) (.cacheGet name) s.pool.state).1 = .error fault := by
  have hfaults : (s.envOf env).faults = env.faults := rfl
  unfold serve
  rw [hfaults]
  cases env.faults s.pool.state.log.length (.cacheGet name) with
  | none => exact .inl ⟨rfl, rfl⟩
  | some fault => exact .inr ⟨fault, rfl, rfl⟩

/-- A launch that is shown the session by a cache that has caught up has it. -/
theorem SessionKept.shown (hs : SessionKept api requests safeUsername name s) {env : Env} {c : Call}
    {k : c.Reply → Service Response} (hm : CaughtUp api requests safeUsername name (.serve i env) s)
    (hasks : (requests i).Asks safeUsername name) (hi : s.pool.threads i = .call c k)
    (hshows : c.ShowsSession api.home safeUsername name (serve (s.envOf env) c s.pool.state).1) :
    HasSession api safeUsername name (serve (s.envOf env) c s.pool.state).2.cluster := by
  have hat_home : ∀ {ns x}, s.cluster.get ns name = some x → ns = api.home := by
    intro ns x hget
    by_contra hns
    rw [hs.elsewhere ns hns] at hget
    cases hget
  cases c with
  | createServer ns name' manifest =>
    obtain ⟨hreply, rfl, rfl, hlabel⟩ := hshows
    obtain ⟨uid, hget⟩ := serve_createServer_ok hreply
    exact ⟨_, hget, hlabel uid⟩
  | cacheGet name' =>
    obtain ⟨rfl, server, hserver, hlabel⟩ := hshows
    have hcache := (hm i env rfl hasks).1 k hi
    rw [serve_lookup_cluster (.cacheGet name') rfl]
    obtain ⟨hfault, hreply⟩ | ⟨fault, -, hreply⟩ := s.cacheGet_cases env name'
    · rw [if_pos hfault] at hcache
      obtain ⟨-, hsame⟩ := hcache
      rw [hreply] at hserver
      obtain ⟨ns, hns, hview⟩ := List.mem_filterMap.mp hserver
      obtain ⟨y, hy, rfl⟩ := Option.map_eq_some_iff.mp hview
      obtain ⟨x, hget, hidentity⟩ := CachedPool.get_view_of_identity (hsame ns hns) hy
      obtain rfl := hat_home hget
      have hsameLabel := congrArg Prod.snd hidentity
      exact ⟨x, hget, hsameLabel.trans hlabel⟩
    · rw [hreply] at hserver
      cases hserver
  | getServer ns name' =>
    obtain ⟨rfl, server, hserver, hlabel⟩ := hshows
    rw [serve_lookup_cluster (.getServer ns name') rfl]
    unfold serve at hserver
    split at hserver
    · cases hserver
    · dsimp only [answer] at hserver
      cases hget : s.pool.state.cluster.get ns name' with
      | none =>
        rw [hget] at hserver
        cases hserver
      | some x =>
        rw [hget] at hserver
        obtain rfl := List.mem_singleton.mp hserver
        obtain rfl := hat_home hget
        exact ⟨x, hget, hlabel⟩
  | _ => exact hshows.1.elim

/-- The only place where something is found. -/
theorem filterMap_eq_singleton {α β : Type} {f : α → Option β} {l : List α} {a : α} {b : β}
    (hnodup : l.Nodup) (hmem : a ∈ l) (ha : f a = some b)
    (hothers : ∀ a' ∈ l, a' ≠ a → f a' = none) :
    l.filterMap f = [b] := by
  obtain ⟨before, after, rfl⟩ := List.append_of_mem hmem
  obtain ⟨hbefore, hafter⟩ : a ∉ before ∧ a ∉ after := by
    have hnot := (List.nodup_cons.mp (List.perm_middle.nodup_iff.mp hnodup)).1
    rwa [List.mem_append, not_or] at hnot
  have hnone : before.filterMap f = [] ∧ after.filterMap f = [] := by
    constructor
    · apply List.filterMap_eq_nil_iff.mpr
      intro a' ha'
      exact hothers a' (List.mem_append_left _ ha') fun he => hbefore (he ▸ ha')
    · apply List.filterMap_eq_nil_iff.mpr
      intro a' ha'
      have hin : a' ∈ before ++ a :: after := List.mem_append_right before (.tail a ha')
      exact hothers a' hin fun he => hafter (he ▸ ha')
  rw [List.filterMap_append, List.filterMap_cons_some ha, hnone.1, hnone.2, List.nil_append]

/-- A launch that knows the session has begun. -/
theorem begun_of_known {i : ι} (hlaunches : (requests i).Launches safeUsername name)
    (hknown : (knowledgeProtocol api.home safeUsername name).phase
      (¬ (requests i).Launches safeUsername name) i trace) : Begun i trace := by
  by_contra hnot
  rw [phase_of_not_begun _ _ hnot] at hknown
  exact hknown hlaunches

theorem Seeing.served {pool : RequestPool ι} {identity : Option Json × Option Json} {a j : ι}
    (h : Seeing api name pool identity a) (ha : a ≠ j)
    {serve : (c : Call) → World → c.Reply × World}
    {c : Call} {k : c.Reply → Service Response} :
    Seeing api name (pool.served serve j c k) identity a := by
  have hthread : (pool.served serve j c k).threads a = pool.threads a :=
    Function.update_of_ne ha _ _
  refine ⟨hthread ▸ h.asking, ?_⟩
  intro c' k' hcall
  exact (h.fallsBack c' k' (hthread ▸ hcall)).concat fun he => absurd he.symm ha

/-- Where the cache has failed the request, the API tells it of the session. -/
theorem SessionKept.seeing_next (hs : SessionKept api requests safeUsername name s) {j : ι}
    {env : Env} (hm : CaughtUp api requests safeUsername name (.serve j env) s) {c : Call}
    {k : c.Reply → Service Response} (hasks : (requests j).Asks safeUsername name)
    (hj : s.pool.threads j = .call c k) {x : Session} (hget : s.cluster.get api.home name = some x)
    (h : Seeing api name s.pool (serverIdentity x.server) j) :
    Seeing api name (s.pool.served (serve (s.envOf env)) j c k) (serverIdentity x.server) j := by
  have hasking := h.asking
  rw [hj] at hasking
  obtain ⟨⟨ns, rfl⟩, hreplies⟩ := hasking
  have hfallsBack := h.fallsBack _ k hj
  have hfault := (hm j env rfl hasks).2 ns k hfallsBack hj
  have htells : (Call.getServer ns name).Tells api.home (serverIdentity x.server)
      (serve (s.envOf env) (.getServer ns name) s.pool.state).1 := by
    unfold serve
    rw [show (s.envOf env).faults s.pool.state.log.length (.getServer ns name) = none from hfault]
    show if ns = api.home then _ else _
    split
    · next hns =>
      subst hns
      dsimp only [answer]
      rw [hget]
      exact ⟨x.server, rfl, (Cluster.get_identified hget).truthy, rfl⟩
    · next hns =>
      dsimp only [answer]
      rw [hs.elsewhere ns hns]
      rfl
  have hthread : (s.pool.served (serve (s.envOf env)) j (.getServer ns name) k).threads j =
      k (serve (s.envOf env) (.getServer ns name) s.pool.state).1 := Function.update_self _ _ _
  refine ⟨?_, fun c' k' _ => hfallsBack.concat fun _ => rfl⟩
  rw [hthread]
  exact hreplies _ htells

/-- A cache that has seen of the session what there is has the one server of its name. -/
theorem SessionKept.cached (hs : SessionKept api requests safeUsername name s) {env : Env}
    (hwatched : api.home ∈ env.watched) (hsame : ∀ ns ∈ env.watched,
      sessionIdentity (s.view.get ns name) = sessionIdentity (s.cluster.get ns name)) {x : Session}
    (hget : s.cluster.get api.home name = some x) :
    ∃ y, env.watched.filterMap (fun ns => (s.view.get ns name).map (·.server)) = [y] ∧
      y.truthy = true ∧ serverIdentity y = serverIdentity x.server := by
  have hhome := hsame api.home hwatched
  rw [hget] at hhome
  obtain ⟨y, hview, hidentity⟩ := Option.map_eq_some_iff.mp hhome
  have hothers : ∀ ns ∈ env.watched, ns ≠ api.home →
      (s.view.get ns name).map (·.server) = none := by
    intro ns hin hns
    have hnone := hsame ns hin
    rw [hs.elsewhere ns hns] at hnone
    rw [Option.map_eq_none_iff.mp hnone]
    rfl
  refine ⟨y.server, ?_, (Cluster.get_identified hview).truthy, hidentity⟩
  apply filterMap_eq_singleton env.watched_nodup hwatched _ hothers
  rw [hview]
  rfl

/-- A request that begins is shown the session by the cache or asks the API for it. -/
theorem SessionKept.seeing_first (hs : SessionKept api requests safeUsername name s) {j : ι}
    {env : Env} (hm : CaughtUp api requests safeUsername name (.serve j env) s) {c : Call}
    {k : c.Reply → Service Response} (hasks : (requests j).Asks safeUsername name)
    (hj : s.pool.threads j = .call c k) (hfresh : ¬ Begun j s.pool.trace) {x : Session}
    (hget : s.cluster.get api.home name = some x)
    (hlabel : hasLabel usernameLabel safeUsername x.server) :
    Seeing api name (s.pool.served (serve (s.envOf env)) j c k) (serverIdentity x.server) j := by
  obtain ⟨f, hprogram, hshows⟩ := hasks.program_eq api
  obtain ⟨rest, hbind, hcached, hfails⟩ := api.client.getServer_bind name safeUsername f
  have hfirst : s.pool.threads j = .call (.cacheGet name) rest :=
    (hs.fresh j hfresh).trans (hprogram.trans hbind)
  obtain ⟨rfl, hk⟩ := Prog.call.inj (hj.symm.trans hfirst)
  obtain rfl := eq_of_heq hk
  have hown : ∀ y : Json, y.truthy = true → serverIdentity y = serverIdentity x.server →
      f (K8sClient.ownServer safeUsername (some y)) = api.rendered y := by
    intro y htruthy hidentity
    have hlabel' : hasLabel usernameLabel safeUsername y :=
      (congrArg Prod.snd hidentity).trans hlabel
    rw [(ownServer_eq_some_iff (by rintro _ ⟨⟩; exact htruthy)).mpr ⟨rfl, hlabel'⟩]
    exact hshows y htruthy
  have hthread : (s.pool.served (serve (s.envOf env)) j (.cacheGet name) k).threads j =
      k (serve (s.envOf env) (.cacheGet name) s.pool.state).1 := Function.update_self _ _ _
  have hcache := (hm j env rfl hasks).1 k hj
  obtain ⟨hfault, hreply⟩ | ⟨fault, hfault, hreply⟩ := s.cacheGet_cases env name
  · rw [if_pos hfault] at hcache
    obtain ⟨hwatched, hsame⟩ := hcache
    obtain ⟨y, hfound, htruthy, hidentity⟩ := hs.cached hwatched hsame hget
    have hshown : (s.pool.served (serve (s.envOf env)) j (.cacheGet name) k).threads j =
        api.rendered y := by
      rw [hthread, hreply, hfound, hcached]
      exact hown y htruthy hidentity
    refine ⟨hshown ▸ asking_rendered hidentity, fun c' k' hcall => ?_⟩
    exact absurd (hshown.symm.trans hcall) (rendered_ne_call y)
  · rw [if_neg (by rw [hfault]; nofun)] at hcache
    refine ⟨?_, fun c' k' _ => ⟨⟨_, List.mem_append_right _ List.mem_cons_self, rfl, ?_⟩, ?_⟩⟩
    · rw [hthread, hreply, hfails hcache.1]
      apply Obeys.bind _ (getServerFromApi_asks hcache.2)
      rintro _ _ ⟨y, rfl, htruthy, hidentity⟩
      rw [hown y htruthy hidentity]
      exact asking_rendered hidentity
    · show CacheFails name (Event.mk j (.cacheGet name) _)
      rw [hreply]
      exact rfl
    · intro e he hthread'
      rcases List.mem_append.mp he with he | he
      · exact absurd ⟨e, he, hthread'⟩ hfresh
      · obtain rfl := List.mem_singleton.mp he
        exact rfl

theorem SessionKept.served (hs : SessionKept api requests safeUsername name s) {j : ι} {env : Env}
    (hm : CaughtUp api requests safeUsername name (.serve j env) s) {c : Call}
    {k : c.Reply → Service Response} (hj : s.pool.threads j = .call c k) :
    SessionKept api requests safeUsername name
      { s with
        pool := s.pool.served (serve (s.envOf env)) j c k
        history := s.history ++ [(s.pool.served (serve (s.envOf env)) j c k).state.cluster] } := by
  have hregular : c.Regular api.home := hs.obedient.allowed hj
  refine ⟨hs.obedient.served hj trivial, ?_, ?_, ?_, ?_⟩
  · intro i hi
    obtain ⟨hbefore, hlast⟩ := not_begun_of_concat hi
    have hne : i ≠ j := fun he => hlast he.symm
    exact (Function.update_of_ne hne _ _).trans (hs.fresh i hbefore)
  · exact fun ns hns => serve_elsewhere hregular hns (hs.elsewhere ns hns)
  · intro i hlaunches hknown hundeleted
    have hkept := UndeletedSince.of_concat hundeleted
    have hbefore : (knowledgeProtocol api.home safeUsername name).phase
        (¬ (requests i).Launches safeUsername name) i s.pool.trace →
        HasSession api safeUsername name
          (serve (s.envOf env) c s.pool.state).2.cluster := by
      intro hphase
      exact (hs.present i hlaunches hphase hkept.1).served hregular
        (hkept.2 (begun_of_known hlaunches hphase))
    unfold Pool.served at hknown
    dsimp only at hknown
    rw [Protocol.phase_concat, Protocol.after] at hknown
    split at hknown
    · next hij =>
      obtain rfl : j = i := hij
      rcases hknown with hphase | hshows
      · exact hbefore hphase
      · exact hs.shown hm hlaunches.asks hj hshows
    · exact hbefore hknown
  · intro i a hlaunches hknown hundeleted hasks hbegun hfollows
    obtain ⟨hfollows', hother⟩ := hfollows.of_concat hbegun
    have hphase : (knowledgeProtocol api.home safeUsername name).phase
        (¬ (requests i).Launches safeUsername name) i s.pool.trace := by
      unfold Pool.served at hknown
      dsimp only at hknown
      rw [Protocol.phase_concat, Protocol.after, if_neg hother] at hknown
      exact hknown
    have hkept := UndeletedSince.of_concat hundeleted
    obtain ⟨x, hget, hseeing⟩ : ∃ x, s.cluster.get api.home name = some x ∧
        Seeing api name (s.pool.served (serve (s.envOf env)) j c k)
          (serverIdentity x.server) a := by
      by_cases haj : a = j
      · subst haj
        by_cases hbefore : Begun a s.pool.trace
        · obtain ⟨x, hget, hseeing⟩ :=
            hs.seeing i a hlaunches hphase hkept.1 hasks hbefore hfollows'
          exact ⟨x, hget, hs.seeing_next hm hasks hj hget hseeing⟩
        · obtain ⟨x, hget, hlabel⟩ := hs.present i hlaunches hphase hkept.1
          exact ⟨x, hget, hs.seeing_first hm hasks hj hbefore hget hlabel⟩
      · have hbefore : Begun a s.pool.trace := by
          obtain ⟨e, he, hthread⟩ := hbegun
          rcases List.mem_append.mp he with he | he
          · exact ⟨e, he, hthread⟩
          · obtain rfl := List.mem_singleton.mp he
            exact absurd hthread.symm haj
        obtain ⟨x, hget, hseeing⟩ := hs.seeing i a hlaunches hphase hkept.1 hasks hbefore hfollows'
        exact ⟨x, hget, hseeing.served haj⟩
    obtain ⟨x', hget', hidentity⟩ :=
      serve_session hregular (hkept.2 (begun_of_known hlaunches hphase)) hget
    exact ⟨x', hget', hidentity ▸ hseeing⟩

theorem SessionKept.step (hs : SessionKept api requests safeUsername name s)
    (hm : CaughtUp api requests safeUsername name m s) :
    SessionKept api requests safeUsername name (s.next m) := by
  cases m with
  | sync ns => exact ⟨hs.obedient, hs.fresh, hs.elsewhere, hs.present, hs.seeing⟩
  | serve j env =>
    unfold CachedPool.next
    dsimp only
    obtain hsame | ⟨c, k, hj⟩ := s.pool.step_cases (serve (s.envOf env)) j
    · unfold serveNext
      rw [hsame]
      exact ⟨hs.obedient, hs.fresh, hs.elsewhere, hs.present, hs.seeing⟩
    · have hstep : serveNext (j, s.envOf env) s.pool = s.pool.served (serve (s.envOf env)) j c k :=
        Pool.step_of_call hj
      rw [hstep]
      exact hs.served hm hj

theorem SessionKept.sees (hs : SessionKept api requests safeUsername name s) :
    SeesServer api requests safeUsername name s := by
  intro i j response hlaunches hended hcode hundeleted hasks hbegun hfollows
  have hknown := hs.obedient i
  rw [hended] at hknown
  obtain ⟨x, hget, hasking, hfallsBack⟩ :=
    hs.seeing i j hlaunches (hknown hcode) hundeleted hasks hbegun hfollows
  refine ⟨x, hget, ?_⟩
  unfold Asking at hasking
  cases hj : s.pool.threads j with
  | ret answer =>
    rw [hj] at hasking
    exact .inl hasking
  | raise e =>
    rw [hj] at hasking
    exact .inl hasking
  | call c k =>
    rw [hj] at hasking
    obtain ⟨ns, rfl⟩ := hasking.1
    exact .inr ⟨hfallsBack _ k hj, ns, k, rfl⟩

theorem start_sessionKept {w : World} (past : List Cluster) (seen : String → Nat)
    (helsewhere : ∀ ns, ns ≠ api.home → w.cluster.get ns name = none) :
    SessionKept api requests safeUsername name (.start api requests w past seen) where
  obedient := by
    intro i
    show ((requests i).program api).Obeys _ _ _ (¬ (requests i).Launches safeUsername name)
    cases hrequest : requests i with
    | handled user request =>
      have hnot : ¬ (SessionRequest.handled user request).Launches safeUsername name := id
      exact (obeys_of_regular (calls_handle_regular user request)).mono fun _ _ h _ => h hnot
    | launch request =>
      by_cases hlaunches : (SessionRequest.launch request).Launches safeUsername name
      · obtain ⟨rfl, rfl⟩ := hlaunches
        exact launch_known request
      · exact (obeys_of_regular (calls_launch_regular request)).mono fun _ _ h _ => h hlaunches
  fresh := fun _ _ => rfl
  elsewhere := helsewhere
  present := fun i hlaunches hknown _ => absurd hlaunches hknown
  seeing := by
    rintro i j - - - - ⟨e, he, -⟩
    cases he

/-- As long as the cache has caught up about a session whenever a launch or a request asks it, or
fails and the API answers, the session is seen by all requests that begin after a launch has been
answered with 201. -/
theorem launched_sessions_seen {w : World} {past : List Cluster} {seen : String → Nat}
    (helsewhere : ∀ ns, ns ≠ api.home → w.cluster.get ns name = none) {moves : List (CacheMove ι)}
    (h : Runs.Along CachedPool.next (CaughtUp api requests safeUsername name) moves
      (.start api requests w past seen)) :
    Runs.Along CachedPool.next
      (fun m s => SeesServer api requests safeUsername name (s.next m)) moves
      (.start api requests w past seen) :=
  Runs.Along.of_step (fun _ _ hs hm => ⟨(hs.step hm).sees, hs.step hm⟩)
    (start_sessionKept past seen helsewhere) h

end Kept

end Interleavings

/-! ### A launch, and a request right after it -/

section Sample

/-- Jane launches a session and asks for it. -/
def launchAndGet : Bool → SessionRequest
  | false => .launch (sampleLaunch none)
  | true => .handled (.registered sampleUser) (.userServer "jane-1")

def launchAndGetStart : CachedPool Bool :=
  .start (sampleApi none) launchAndGet ⟨.empty, []⟩ [] fun _ => 0

def launchAndGetPrograms : Bool → Service Response
  | false => sampleProgram none
  | true => (launchAndGet true).program (sampleApi none)

def launchAndGetProgramsStart : CachedPool Bool where
  pool := { state := ⟨.empty, []⟩, threads := launchAndGetPrograms, trace := [] }
  history := [.empty]
  seen := fun _ => 0

theorem launchAndGetStart_eq : launchAndGetStart = launchAndGetProgramsStart := by
  have hprograms : (fun i => (launchAndGet i).program (sampleApi none)) = launchAndGetPrograms := by
    funext i
    cases i with
    | false => exact sampleLaunch_program none
    | true => rfl
  unfold launchAndGetStart CachedPool.start
  rw [hprograms]
  rfl

def launchMoves : List (CacheMove Bool) := List.replicate 4 (.serve false calmEnv)

def launched : CachedPool Bool := Runs.final CachedPool.next launchMoves launchAndGetStart

def endStatus : Service Response → Option Nat
  | .ret response => some response.status
  | _ => none

theorem response_of_endStatus {p : Service Response} {status : Nat} (h : endStatus p = some status) :
    ∃ response, p = .ret response ∧ response.status = status := by
  cases p with
  | ret response => exact ⟨response, rfl, Option.some.inj h⟩
  | raise e => cases h
  | call c k => cases h

def Call.deletesServer : Call → Bool
  | .deleteServer _ _ _ => true
  | _ => false

theorem undeletedSince_of_all {ns name : String} {i : Bool}
    {trace : List (Event Bool Call Call.Reply)}
    (h : (trace.all fun e => !e.call.deletesServer) = true) : UndeletedSince ns name i trace := by
  rintro before ⟨j, c, reply⟩ after rfl - hdeletes
  have he : c.deletesServer = false := by
    simpa using List.all_eq_true.mp h _ (List.mem_append_right before List.mem_cons_self)
  cases c with
  | deleteServer ns' name' forced => cases he
  | _ => exact hdeletes.elim

def isCall : Service Response → Bool
  | .call _ _ => true
  | _ => false

/-- The request has asked a cache that has not seen the new server. -/
def hidden : CachedPool Bool := launched.next (.serve true calmEnv)

/-- The launch has been answered with 201 after its four calls, nothing has been deleted, and the
request that came next has ended with an error. -/
theorem hidden_facts :
    endStatus (hidden.pool.threads false) = some 201 ∧
      (hidden.pool.trace.all fun e => !e.call.deletesServer) = true ∧
      ((hidden.pool.trace.take 4).all fun e => !e.thread) = true ∧
      ((hidden.pool.trace.drop 4).all fun e => e.thread) = true ∧
      (hidden.pool.trace.any fun e => e.thread) = true ∧
      endStatus (hidden.pool.threads true) = none ∧ isCall (hidden.pool.threads true) = false := by
  rw [hidden, launched, launchAndGetStart_eq]
  decide +kernel

theorem not_begun_of_all {i : Bool} {trace : List (Event Bool Call Call.Reply)}
    (h : (trace.all fun e => e.thread != i) = true) : ¬ Begun i trace := by
  rintro ⟨e, he, rfl⟩
  have hne := List.all_eq_true.mp h e he
  simp at hne

/-- Where the cache has not seen the new server, a request for it is answered with 404. -/
theorem lagging_cache_hides_server :
    ¬ Runs.Along CachedPool.next
      (fun m s => SeesServer (sampleApi none) launchAndGet "jane" "jane-1" (s.next m))
      (launchMoves ++ [.serve true calmEnv]) launchAndGetStart := by
  intro h
  have hsees : SeesServer (sampleApi none) launchAndGet "jane" "jane-1" hidden :=
    (Runs.along_append.mp h).2.1
  obtain ⟨hended, hdeletes, hbefore, hafter, hany, hfails, hcall⟩ := hidden_facts
  obtain ⟨response, hret, hcode⟩ := response_of_endStatus hended
  obtain ⟨e, he, hthread⟩ := List.any_eq_true.mp hany
  have hfollows : Follows false true hidden.pool.trace := by
    refine ⟨_, _, (List.take_append_drop 4 _).symm, not_begun_of_all ?_, not_begun_of_all ?_⟩
    · simpa using hbefore
    · simpa using hafter
  obtain ⟨x, -, hshown | ⟨-, ns, k, hasks⟩⟩ := hsees false true response ⟨rfl, rfl⟩ hret hcode
    (undeletedSince_of_all hdeletes) ⟨rfl, rfl⟩ ⟨e, he, hthread⟩ hfollows
  · obtain ⟨server, -, hshown⟩ := hshown
    rw [hshown] at hfails
    cases hfails
  · rw [hasks] at hcall
    cases hcall

def caughtUpNext (api : Api) (name : String) (m : CacheMove Bool) (s : CachedPool Bool) : Bool :=
  match m with
  | .serve j env =>
    match s.pool.threads j with
    | .call (.cacheGet _) _ =>
      decide (env.faults s.pool.state.log.length (.cacheGet name) = none) &&
        decide (api.home ∈ env.watched) && env.watched.all fun ns =>
          decide (sessionIdentity (s.view.get ns name) = sessionIdentity (s.cluster.get ns name))
    | .call (.getServer ns _) _ =>
      decide (env.faults s.pool.state.log.length (.getServer ns name) = none)
    | _ => true
  | .sync _ => true

theorem caughtUp_of_next {api : Api} {requests : Bool → SessionRequest} {safeUsername name : String}
    {m : CacheMove Bool} {s : CachedPool Bool} (h : caughtUpNext api name m s = true) :
    CaughtUp api requests safeUsername name m s := by
  rintro j env rfl _
  unfold caughtUpNext at h
  refine ⟨fun k hj => ?_, fun ns k _ hj => ?_⟩
  · simp only [hj, Bool.and_eq_true, decide_eq_true_eq, List.all_eq_true] at h
    rw [if_pos h.1.1]
    exact ⟨h.1.2, h.2⟩
  · simpa only [hj, decide_eq_true_eq] using h

/-- After three more steps the cache has seen the server. -/
theorem synchronised_cache_shows_server :
    Runs.Along CachedPool.next
      (fun m s => SeesServer (sampleApi none) launchAndGet "jane" "jane-1" (s.next m))
      (launchMoves ++ List.replicate 3 (.sync "renku") ++ [.serve true calmEnv])
      launchAndGetStart := by
  have hchecked : Runs.Along CachedPool.next
      (fun m s => caughtUpNext (sampleApi none) "jane-1" m s = true)
      (launchMoves ++ List.replicate 3 (.sync "renku") ++ [.serve true calmEnv])
      launchAndGetStart := by
    rw [launchAndGetStart_eq]
    decide +kernel
  have hcaughtUp : Runs.Along CachedPool.next
      (CaughtUp (sampleApi none) launchAndGet "jane" "jane-1")
      (launchMoves ++ List.replicate 3 (.sync "renku") ++ [.serve true calmEnv])
      launchAndGetStart :=
    hchecked.mono fun _ _ h => caughtUp_of_next h
  exact launched_sessions_seen (fun _ _ => rfl) hcaughtUp

end Sample

end RenkuNotebooks.Notebooks
