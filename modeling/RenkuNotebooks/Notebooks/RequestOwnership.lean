import RenkuNotebooks.Notebooks.CacheLag
import RenkuNotebooks.Notebooks.WatchedIsolation

/-!
# Sessions and their owners

Requests of any users, interleaved call by call with a cache that may lag behind by any number of
changes. Where each name is launched by one user only, every call on the objects of a session is
made for its owner. The users have names and the sessions names that objects can have; with these
the cache is asked for what is meant.
-/

namespace RenkuNotebooks.Notebooks

open Prog

def Request.serverName? : Request → Option String
  | .userServers _ => none
  | .userServer serverName => some serverName
  | .serverLogs serverName _ => some serverName
  | .patchServer serverName _ => some serverName
  | .stopServer serverName _ => some serverName

namespace SessionRequest

def safeUsername : SessionRequest → String
  | launch request => request.user.safeUsername
  | handled user _ => user.safeUsername

def serverName? : SessionRequest → Option String
  | launch request => some request.serverName.text
  | handled _ request => request.serverName?

/-- A launch is for a name of its user. -/
def LaunchesOwn (owner : String → String) : SessionRequest → Prop
  | launch request => owner request.serverName.text = request.user.safeUsername
  | handled _ _ => True

/-- The user has a name, and the session, if there is one, a name that an object can have. -/
structure Routed (r : SessionRequest) : Prop where
  user : IsEscaped r.safeUsername
  named : r.safeUsername ≠ ""
  session : ∀ name, r.serverName? = some name → IsObjectName name

end SessionRequest

/-- All sessions have the label of the owner of their name. -/
def Cluster.LabelledBy (owner : String → String) (c : Cluster) : Prop :=
  ∀ ns name x, c.get ns name = some x → hasLabel usernameLabel (owner name) x.server

section Statement

variable {ι : Type} [DecidableEq ι] (requests : ι → SessionRequest) (owner : String → String)

/-- Only requests of the owner address a session, change it or are answered about it, and a list of
sessions is asked for by the user whose sessions it lists. The cache is asked for what is meant. -/
structure KeepsToOwn (m : CacheMove ι) (s : CachedPool ι) : Prop where
  routed : ∀ i env c k, m = .serve i env → s.pool.threads i = .call c k → c.Routed
  addressed : ∀ i env c k ns name, m = .serve i env → s.pool.threads i = .call c k →
    c.object? = some (ns, name) → owner name = (requests i).safeUsername
  listed : ∀ i env c k u, m = .serve i env → s.pool.threads i = .call c k → c.Lists u →
    u = (requests i).safeUsername
  changed : ∀ ns name, (s.next m).cluster.get ns name ≠ s.cluster.get ns name →
    ∃ i env, m = .serve i env ∧ owner name = (requests i).safeUsername
  answered : ∀ i name response, (requests i).serverName? = some name →
    (s.next m).pool.threads i = .ret response → owner name = (requests i).safeUsername
  labelled : (s.next m).cluster.LabelledBy owner

end Statement

/-! ### The session that a call addresses -/

section Served

variable {env : Env} {w : World} {home ns name : String} {c : Call}

/-- A call leaves the sessions as they are that it does not address. -/
theorem serve_of_not_addressed (h : c.object? ≠ some (ns, name)) :
    (serve env c w).2.cluster.get ns name = w.cluster.get ns name := by
  have hplace : ∀ {ns' name'}, c.object? = some (ns', name') → (ns, name) ≠ (ns', name') :=
    fun hobject he => h (hobject.trans (congrArg some he.symm))
  unfold serve
  cases env.faults w.log.length c with
  | some fault => rfl
  | none =>
    cases c with
    | createServer ns' name' manifest => exact Cluster.get_createServer_of_ne _ _ _ (hplace rfl)
    | patchServer ns' name' patch => exact Cluster.get_update_of_ne _ _ (hplace rfl)
    | patchStatefulset ns' name' ops => exact Cluster.get_update_of_ne _ _ (hplace rfl)
    | patchImageSecret ns' name' ops => exact Cluster.get_update_of_ne _ _ (hplace rfl)
    | deleteServer ns' name' forced => exact Cluster.get_deleteServer_of_ne _ (hplace rfl)
    | _ => rfl

/-- Where there is no session, only a creation makes one. -/
theorem serve_of_none (hnone : w.cluster.get ns name = none) {x : Session}
    (hget : (serve env c w).2.cluster.get ns name = some x) :
    ∃ manifest uid, c = .createServer ns name manifest ∧
      x = .created (storedServer ns uid manifest) := by
  obtain ⟨manifest, rfl⟩ : ∃ manifest, c = .createServer ns name manifest := by
    by_contra hnot
    rw [serve_keeps_absent (fun manifest he => hnot ⟨manifest, he⟩) hnone] at hget
    cases hget
  rcases serve_createServer env w ns name manifest with ⟨fault, -, hcluster⟩ | ⟨hok, -, -⟩
  · rw [hcluster, hnone] at hget
    cases hget
  · obtain ⟨uid, hcreated⟩ := serve_createServer_ok hok
    rw [hcreated] at hget
    exact ⟨manifest, uid, rfl, (Option.some.inj hget).symm⟩

/-- After its deletion there is no session. -/
theorem serve_deletesSession {ι : Type} {i : ι}
    (h : DeletesSession ns name ⟨i, c, (serve env c w).1⟩) :
    (serve env c w).2.cluster.get ns name = none := by
  cases c with
  | deleteServer ns' name' forced =>
    unfold DeletesSession at h
    unfold serve at h ⊢
    cases hfault : env.faults w.log.length (.deleteServer ns' name' forced) with
    | some fault =>
      rw [hfault] at h
      exact h.elim
    | none =>
      rw [hfault] at h
      dsimp only [answer, Cluster.deleteServer] at h ⊢
      cases hget : w.cluster.get ns' name' with
      | none =>
        rw [hget] at h
        exact h.elim
      | some x =>
        rw [hget] at h
        obtain ⟨rfl, rfl⟩ := h
        exact Cluster.get_erase _ _ _
  | _ => exact h.elim

theorem Call.Regular.at_object (hc : c.Regular home) (h : c.object? = some (ns, name)) :
    c.Regular ns := by
  cases c with
  | createServer ns' name' manifest =>
    cases h
    rfl
  | patchServer ns' name' patch => exact hc
  | _ => trivial

/-- A session after a call was there before, or the call has created it. -/
theorem serve_origin (hc : c.Regular home) {x : Session}
    (hget : (serve env c w).2.cluster.get ns name = some x) :
    (∃ x₀, w.cluster.get ns name = some x₀ ∧
        serverIdentity x.server = serverIdentity x₀.server) ∨
      ∃ manifest uid, c = .createServer ns name manifest ∧
        x = .created (storedServer ns uid manifest) := by
  cases hold : w.cluster.get ns name with
  | none => exact .inr (serve_of_none hold hget)
  | some x₀ =>
    left
    refine ⟨x₀, rfl, ?_⟩
    by_cases hobject : c.object? = some (ns, name)
    · have hkept : ¬ DeletesSession ns name ⟨(), c, (serve env c w).1⟩ := by
        intro hdeletes
        rw [serve_deletesSession hdeletes] at hget
        cases hget
      obtain ⟨x', hget', hidentity⟩ := serve_session (hc.at_object hobject) hkept hold
      rw [hget] at hget'
      obtain rfl := Option.some.inj hget'
      exact hidentity
    · rw [serve_of_not_addressed hobject, hold] at hget
      obtain rfl := Option.some.inj hget
      rfl

variable {owner : String → String}

/-- A new session gets the label of its owner. -/
def Call.CreatesFor (owner : String → String) : Call → Prop
  | .createServer _ name manifest =>
    ∀ ns uid, hasLabel usernameLabel (owner name) (storedServer ns uid manifest)
  | _ => True

theorem Cluster.LabelledBy.served (h : w.cluster.LabelledBy owner) (hc : c.Regular home)
    (hcreates : c.CreatesFor owner) : (serve env c w).2.cluster.LabelledBy owner := by
  intro ns name x hget
  obtain ⟨x₀, hold, hidentity⟩ | ⟨manifest, uid, rfl, rfl⟩ := serve_origin hc hget
  · have hsame := congrArg Prod.snd hidentity
    exact hsame.trans (h ns name x₀ hold)
  · exact hcreates ns uid

end Served

/-! ### What a request of a user calls -/

/-- The calls that a request makes for the sessions of its user, as long as all servers that it is
shown have the labels of their owners. -/
def ownershipProtocol (owner : String → String) :
    Protocol Call Call.Reply SessionRequest where
  allowed request c :=
    (∀ ns name, c.object? = some (ns, name) → owner name = request.safeUsername) ∧
      (∀ u, c.Lists u → u = request.safeUsername) ∧ c.CreatesFor owner ∧ c.Routed
  assumed _ c reply := ∀ name, c.LooksUp name →
    ∀ server ∈ c.shown reply, hasLabel usernameLabel (owner name) server
  next request _ _ := request

section Requests

variable {owner : String → String} {request : SessionRequest} {name : String} {api : Api}

def AnyError (_ : PyError) (_ : SessionRequest) : Prop := True

/-- Success is about a session of the user. -/
def AnsweredOwn (owner : String → String) (_ : Response) (request : SessionRequest) : Prop :=
  ∀ name, request.serverName? = some name → owner name = request.safeUsername

theorem Call.LooksUp.own {c : Call} (hname : IsObjectName name) (h : c.LooksUp name) :
    (ownershipProtocol owner).allowed request c := by
  cases c with
  | cacheGet n => exact ⟨nofun, nofun, trivial, h.about.routed hname⟩
  | getServer ns n => exact ⟨nofun, nofun, trivial, trivial⟩
  | _ => exact h.elim

theorem Call.About.name_eq {c : Call} {ns n : String} (h : c.About name)
    (hobject : c.object? = some (ns, n)) : n = name := by
  cases c <;> cases hobject <;> first | exact h | exact h.elim

theorem Call.About.own {c : Call} (hname : IsObjectName name)
    (howner : owner name = request.safeUsername) (h : c.About name) :
    (ownershipProtocol owner).allowed request c := by
  refine ⟨?_, ?_, ?_, h.routed hname⟩
  · rintro ns n hobject
    rw [h.name_eq hobject, howner]
  · rintro u hlists
    cases c with
    | cacheList v => exact h.elim
    | listServers ns v => exact h.elim
    | _ => exact hlists.elim
  · cases c <;> trivial

theorem Call.Lists.own {c : Call} (hrequest : request.Routed) (h : c.Lists request.safeUsername) :
    (ownershipProtocol owner).allowed request c := by
  have hrouted := h.routed hrequest.user hrequest.named
  cases c with
  | cacheList u => exact ⟨nofun, fun _ hu => hu.symm.trans h, trivial, hrouted⟩
  | listServers ns u => exact ⟨nofun, fun _ hu => hu.symm.trans h, trivial, hrouted⟩
  | _ => exact h.elim

theorem obeys_of_own {α : Type} {p : Service α}
    (hp : p.Calls ((ownershipProtocol owner).allowed request)) :
    p.Obeys (ownershipProtocol owner) (fun _ r => r = request) AnyError request := by
  have hraised : ∀ e, AnyError e request := fun _ => trivial
  have hobeys := hp.obeys (P := ownershipProtocol owner) (returns_true p) hraised
    fun _ hc => ⟨hc, fun _ => rfl⟩
  exact hobeys.mono fun _ _ h => h.2

theorem lookUps_own (hname : IsObjectName name) : LooksUpOnly (ownershipProtocol owner) request
    (hasLabel usernameLabel (owner name)) name :=
  fun _ hc => ⟨hc.own hname, fun _ hreply => ⟨rfl, hreply name hc⟩⟩

/-- A server that a look-up gives to a user has a name that is the user's. -/
theorem getServer_own {k : K8sClient} (hname : IsObjectName name) :
    (k.getServer name request.safeUsername).Obeys (ownershipProtocol owner)
      (fun server r => r = request ∧ ∀ s, server = some s → owner name = request.safeUsername)
      AnyError request := by
  apply Obeys.bind (FoundGood request (hasLabel usernameLabel (owner name)))
  · apply Obeys.tryCatch _ (cacheGet_obeys (lookUps_own hname))
    rintro e _ rfl
    split
    · exact (getServerFromApi_obeys (lookUps_own hname)).weaken (fun _ _ h => h) fun _ _ _ => trivial
    · trivial
  · rintro server request ⟨rfl, hgood⟩
    refine ⟨rfl, ?_⟩
    intro s hs
    obtain ⟨hserver, hown⟩ := Option.filter_eq_some_iff.mp hs
    have hlabel := hgood s hserver
    have hlabel' : hasLabel usernameLabel request.safeUsername s := by
      simpa [truthy_of_dig hlabel] using hown
    exact Json.str.inj (Option.some.inj (hlabel.symm.trans hlabel'))

/-- A request for a session looks it up first, or raises at once. -/
theorem handle_first {user : User} {r : Request} (h : r.serverName? = some name) :
    (∃ e, api.handle user r = .raise e) ∨ ∃ k, api.handle user r = .call (.cacheGet name) k := by
  cases r with
  | userServers filters => cases h
  | patchServer serverName body =>
    cases h
    dsimp only [Api.handle, Api.patchServer]
    split
    · exact .inl ⟨_, rfl⟩
    · cases user with
      | anonymous u => exact .inl ⟨_, rfl⟩
      | registered u => exact .inr ⟨_, rfl⟩
  | _ =>
    cases h
    exact .inr ⟨_, rfl⟩

theorem serverName?_of_lookedUp {user : User} {r : Request} (h : api.lookedUp user r = some name) :
    r.serverName? = some name := by
  cases r with
  | userServers filters => cases h
  | patchServer serverName body =>
    cases user with
    | anonymous u => cases h
    | registered u =>
      simp only [Api.lookedUp] at h
      split at h
      · exact h
      · cases h
  | _ => exact h

theorem handle_own {user : User} {r : Request} (hrequest : (SessionRequest.handled user r).Routed) :
    (api.handle user r).Obeys (ownershipProtocol owner) (AnsweredOwn owner) AnyError
      (.handled user r) := by
  cases hlookedUp : api.lookedUp user r with
  | none =>
    have hlists := handle_lists hlookedUp
    have hown : (api.handle user r).Calls
        ((ownershipProtocol owner).allowed (.handled user r)) :=
      hlists.mono fun c hc => @Call.Lists.own owner (.handled user r) c hrequest hc
    by_cases hname : ∃ name, r.serverName? = some name
    · obtain ⟨name, hname⟩ := hname
      rcases @handle_first name api user r hname with ⟨e, hraise⟩ | ⟨k, hcall⟩
      · rw [hraise]
        trivial
      · rw [hcall] at hlists
        exact hlists.1.elim
    · apply (obeys_of_own hown).mono
      rintro response _ rfl name hr
      exact absurd ⟨name, hr⟩ hname
  | some name' =>
    obtain ⟨f, e, hprogram, hnone, hsome, -⟩ := handle_looksUp hlookedUp
    have hobject := hrequest.session name' (serverName?_of_lookedUp hlookedUp)
    have hfound : (api.handle user r).Obeys (ownershipProtocol owner)
        (fun _ q => q = .handled user r ∧ owner name' = user.safeUsername) AnyError
        (.handled user r) := by
      rw [hprogram]
      apply Obeys.bind _ (@getServer_own owner (.handled user r) name' _ hobject)
      rintro (_ | server) _ ⟨rfl, hserver⟩
      · rw [hnone]
        trivial
      · have hname := hserver server rfl
        have hown := (hsome server).mono fun c hc =>
          @Call.About.own owner (.handled user r) name' c hobject hname hc
        exact (obeys_of_own hown).mono fun _ _ hq => ⟨hq, hname⟩
    apply hfound.mono
    rintro response _ ⟨rfl, hname⟩ name hr
    obtain ⟨e, hraise⟩ | ⟨k, hcall⟩ := @handle_first name api user r hr
    · rw [hraise] at hprogram
      cases hprogram
    · rw [hcall] at hprogram
      cases hprogram
      exact hname

theorem launch_own {request : LaunchRequest} (hrequest : (SessionRequest.launch request).Routed)
    (howner : owner request.serverName.text = request.user.safeUsername) :
    (api.launchNotebookHelper request).Obeys (ownershipProtocol owner) (AnsweredOwn owner) AnyError
      (.launch request) := by
  have hown : ∀ {α : Type} {p : Service α},
      p.Calls ((ownershipProtocol owner).allowed (.launch request)) →
      p.Obeys (ownershipProtocol owner) (fun _ r => r = .launch request) AnyError
        (.launch request) := obeys_of_own
  have hanswered : ∀ response, AnsweredOwn owner response (.launch request) := by
    rintro response name ⟨⟩
    exact howner
  have hobject : IsObjectName request.serverName.text := hrequest.session _ rfl
  have habout : ∀ c : Call, c.About request.serverName.text →
      (ownershipProtocol owner).allowed (.launch request) c := fun c hc => hc.own hobject howner
  have hfinish : ∀ {server : UserServer} {manifest : Json},
      server.serverName = request.serverName →
      (api.finishLaunch server manifest).Calls
        ((ownershipProtocol owner).allowed (.launch request)) := by
    intro server manifest hname
    apply calls_finishLaunch
    · rw [hname]
      exact fun c hc => hc.own hobject
    · exact fun payload => ⟨nofun, nofun, trivial, trivial⟩
    · intro ns
      exact habout _ (congrArg ServerName.text hname)
  have hraised : ∀ e, AnyError e (.launch request) := fun _ => trivial
  have hlookUps : (api.beforeCreation request).Calls
      ((ownershipProtocol owner).allowed (.launch request)) :=
    calls_beforeCreation fun c hc => hc.own hobject
  have hfound := hlookUps.obeys (P := ownershipProtocol owner) returns_beforeCreation hraised
    fun c hc => ⟨hc, fun _ => rfl⟩
  rw [api.launchNotebookHelper_eq]
  apply Obeys.bind _ hfound
  rintro (existing | ⟨server, existing⟩ | ⟨server, manifest⟩) _ ⟨hfor, rfl⟩
  · have hrender : (api.rendered existing).Calls
        ((ownershipProtocol owner).allowed (.launch request)) :=
      Calls.bind (calls_ofExcept _) fun _ => trivial
    apply (hown hrender).mono
    rintro response _ rfl
    exact hanswered response
  · apply (hown (hfinish hfor.2)).mono
    rintro response _ rfl
    exact hanswered response
  · obtain ⟨-, hname, hmanifest, hlabel⟩ := hfor
    have hcreate : (NamespacedK8sClient.createServer api.client.preferredNamespace manifest).Calls
        ((ownershipProtocol owner).allowed (.launch request)) := by
      unfold NamespacedK8sClient.createServer
      rw [hmanifest]
      have hallowed : (ownershipProtocol owner).allowed (.launch request) (.createServer
          api.client.preferredNamespace request.serverName.text manifest) := by
        refine ⟨?_, nofun, ?_, trivial⟩
        · rintro ns name ⟨⟩
          exact howner
        · intro ns uid
          rw [howner]
          exact hlabel ns uid
      apply calls_perform_exceptApi (f := id) hallowed
      · exact fun _ => (calls_retryGetServer 10).mono fun c hc => hc.own hobject
      · exact fun _ => trivial
    apply (hown (Calls.bind hcreate fun created => hfinish hname)).mono
    rintro response _ rfl
    exact hanswered response

theorem calls_handle_routed {user : User} {r : Request}
    (hrequest : (SessionRequest.handled user r).Routed) :
    (api.handle user r).Calls Call.Routed := by
  cases hlookedUp : api.lookedUp user r with
  | none =>
    exact (handle_lists hlookedUp).mono fun c hc => hc.routed hrequest.user hrequest.named
  | some name =>
    obtain ⟨f, e, hprogram, hnone, hsome, -⟩ := handle_looksUp hlookedUp
    have hobject := hrequest.session name (serverName?_of_lookedUp hlookedUp)
    rw [hprogram]
    apply Calls.bind (K8sClient.calls_getServer fun c hc => hc.about.routed hobject)
    rintro (_ | server)
    · rw [hnone]
      trivial
    · exact (hsome server).mono fun c hc => hc.routed hobject

theorem calls_launch_routed {request : LaunchRequest}
    (hrequest : (SessionRequest.launch request).Routed) :
    (api.launchNotebookHelper request).Calls Call.Routed := by
  have hobject : IsObjectName request.serverName.text := hrequest.session _ rfl
  have hlookUp : ∀ c : Call, c.LooksUp request.serverName.text → c.Routed :=
    fun c hc => hc.about.routed hobject
  have hfinish : ∀ {server : UserServer} {manifest : Json},
      server.serverName = request.serverName → (api.finishLaunch server manifest).Calls Call.Routed := by
    intro server manifest hname
    apply calls_finishLaunch
    · rw [hname]
      exact hlookUp
    · exact fun _ => trivial
    · exact fun _ => trivial
  rw [api.launchNotebookHelper_eq]
  apply Calls.bind_returns (calls_beforeCreation hlookUp) returns_beforeCreation
  rintro (existing | ⟨server, existing⟩ | ⟨server, manifest⟩) hfor
  · exact Calls.bind (calls_ofExcept _) fun _ => trivial
  · exact hfinish hfor.2
  · obtain ⟨-, hname, hmanifest, -⟩ := hfor
    apply Calls.bind
    · unfold NamespacedK8sClient.createServer
      rw [hmanifest]
      have hcreate : Call.Routed (.createServer api.client.preferredNamespace
          request.serverName.text manifest) := trivial
      apply calls_perform_exceptApi (f := id) hcreate
      · exact fun _ => (calls_retryGetServer 10).mono hlookUp
      · exact fun _ => trivial
    · exact fun _ => hfinish hname

/-- A request reads from the cache what is meant. -/
theorem calls_program_routed {r : SessionRequest} (hrequest : r.Routed) :
    (r.program api).Calls Call.Routed := by
  cases r with
  | launch request => exact calls_launch_routed hrequest
  | handled user request => exact calls_handle_routed hrequest

end Requests

/-! ### All interleavings -/

section Interleavings

variable {ι : Type} [DecidableEq ι] {api : Api} {requests : ι → SessionRequest}
  {owner : String → String} {s : CachedPool ι} {m : CacheMove ι}

/-- What is kept along a run. -/
structure OwnersKept (api : Api) (requests : ι → SessionRequest) (owner : String → String)
    (s : CachedPool ι) : Prop where
  obedient : s.pool.Obedient (ownershipProtocol owner) requests (AnsweredOwn owner) AnyError
  regular : ∀ i, (s.pool.threads i).Calls (Call.Regular api.home)
  history : ∀ c ∈ s.history, c.LabelledBy owner
  cluster : s.cluster.LabelledBy owner

theorem phase_of_const {Q : Type} {P : Protocol Call Call.Reply Q}
    (h : ∀ q c r, P.next q c r = q) (q : Q) (i : ι) (trace : List (Event ι Call Call.Reply)) :
    P.phase q i trace = q :=
  P.phase_invariant (I := (· = q)) rfl (fun q' c r hq => (h q' c r).trans hq) i trace

theorem OwnersKept.view (hs : OwnersKept api requests owner s) : s.view.LabelledBy owner := by
  intro ns name x hget
  unfold CachedPool.view Cluster.get at hget
  dsimp only at hget
  cases hseen : s.history[s.seen ns]? with
  | none =>
    rw [hseen] at hget
    simp [Cluster.empty] at hget
  | some c =>
    rw [hseen] at hget
    exact hs.history c (List.mem_of_getElem? hseen) ns name x hget

/-- A look-up shows servers with the labels of their owners. -/
theorem OwnersKept.assumed (hs : OwnersKept api requests owner s) (i : ι) (env : Env) (c : Call) :
    (ownershipProtocol owner).assumed (requests i) c (serve (s.envOf env) c s.pool.state).1 := by
  intro name hlooksUp server hserver
  cases c with
  | cacheGet n =>
    obtain rfl := hlooksUp
    unfold serve at hserver
    split at hserver
    · cases hserver
    · obtain ⟨ns, -, hns⟩ := List.mem_filterMap.mp hserver
      obtain ⟨x, hx, rfl⟩ := Option.map_eq_some_iff.mp hns
      exact hs.view ns n x hx
  | getServer ns n =>
    obtain rfl := hlooksUp
    unfold serve at hserver
    split at hserver
    · cases hserver
    · dsimp only [answer] at hserver
      cases hget : s.pool.state.cluster.get ns n with
      | none =>
        rw [hget] at hserver
        cases hserver
      | some x =>
        rw [hget] at hserver
        obtain rfl := List.mem_singleton.mp hserver
        exact hs.cluster ns n x hget
  | _ => exact hlooksUp.elim

theorem OwnersKept.allowed (hs : OwnersKept api requests owner s) {i : ι} {c : Call}
    {k : c.Reply → Service Response} (hi : s.pool.threads i = .call c k) :
    (ownershipProtocol owner).allowed (requests i) c := by
  have hallowed := hs.obedient.allowed hi
  rwa [phase_of_const (fun _ _ _ => rfl)] at hallowed

theorem OwnersKept.served (hs : OwnersKept api requests owner s) {i : ι} {env : Env} {c : Call}
    {k : c.Reply → Service Response} (hi : s.pool.threads i = .call c k) :
    OwnersKept api requests owner
      { s with
        pool := s.pool.served (serve (s.envOf env)) i c k
        history := s.history ++ [(s.pool.served (serve (s.envOf env)) i c k).state.cluster] } := by
  have hregular : (Prog.call c k).Calls (Call.Regular api.home) := hi ▸ hs.regular i
  have hcluster : (serve (s.envOf env) c s.pool.state).2.cluster.LabelledBy owner :=
    hs.cluster.served hregular.1 (hs.allowed hi).2.2.1
  refine ⟨?_, ?_, ?_, hcluster⟩
  · apply hs.obedient.served hi
    rw [phase_of_const (fun _ _ _ => rfl)]
    exact hs.assumed i env c
  · intro j
    unfold Pool.served
    dsimp only
    by_cases hij : j = i
    · subst hij
      rw [Function.update_self]
      exact hregular.2 _
    · rw [Function.update_of_ne hij]
      exact hs.regular j
  · intro c' hc'
    rcases List.mem_append.mp hc' with hold | hnew
    · exact hs.history c' hold
    · obtain rfl := List.mem_singleton.mp hnew
      exact hcluster

theorem OwnersKept.step (hs : OwnersKept api requests owner s) (m : CacheMove ι) :
    OwnersKept api requests owner (s.next m) := by
  cases m with
  | sync ns => exact ⟨hs.obedient, hs.regular, hs.history, hs.cluster⟩
  | serve i env =>
    unfold CachedPool.next
    dsimp only
    obtain hsame | ⟨c, k, hi⟩ := s.pool.step_cases (serve (s.envOf env)) i
    · unfold serveNext
      rw [hsame]
      refine ⟨hs.obedient, hs.regular, ?_, hs.cluster⟩
      intro c hc
      rcases List.mem_append.mp hc with hold | hnew
      · exact hs.history c hold
      · obtain rfl := List.mem_singleton.mp hnew
        exact hs.cluster
    · have hstep : serveNext (i, s.envOf env) s.pool = s.pool.served (serve (s.envOf env)) i c k :=
        Pool.step_of_call hi
      rw [hstep]
      exact hs.served hi

theorem OwnersKept.keepsToOwn (hs : OwnersKept api requests owner s) (m : CacheMove ι) :
    KeepsToOwn requests owner m s where
  routed := by
    intro i env c k _ hi
    exact (hs.allowed hi).2.2.2
  addressed := by
    intro i env c k ns name _ hi hobject
    exact (hs.allowed hi).1 ns name hobject
  listed := by
    intro i env c k u _ hi hlists
    exact (hs.allowed hi).2.1 u hlists
  changed := by
    intro ns name hchanged
    cases m with
    | sync ns' => exact absurd rfl hchanged
    | serve i env =>
      refine ⟨i, env, rfl, ?_⟩
      have hpool : (s.next (.serve i env)).pool = s.pool.step (serve (s.envOf env)) i := rfl
      have hcluster : (s.next (.serve i env)).cluster =
          (s.pool.step (serve (s.envOf env)) i).state.cluster := congrArg (·.state.cluster) hpool
      rw [hcluster] at hchanged
      obtain hsame | ⟨c, k, hi⟩ := s.pool.step_cases (serve (s.envOf env)) i
      · rw [hsame] at hchanged
        exact absurd rfl hchanged
      · rw [Pool.step_of_call hi] at hchanged
        have hobject : c.object? = some (ns, name) := by
          by_contra hnot
          exact hchanged (serve_of_not_addressed hnot)
        exact (hs.allowed hi).1 ns name hobject
  answered := by
    intro i name response hname hended
    have hobeys := (hs.step m).obedient i
    rw [hended, phase_of_const (fun _ _ _ => rfl)] at hobeys
    exact hobeys name hname
  labelled := (hs.step m).cluster

theorem start_ownersKept {w : World} {past : List Cluster} (seen : String → Nat)
    (hrouted : ∀ i, (requests i).Routed) (hlaunches : ∀ i, (requests i).LaunchesOwn owner)
    (hpast : ∀ c ∈ past ++ [w.cluster], c.LabelledBy owner) :
    OwnersKept api requests owner (.start api requests w past seen) where
  obedient := by
    intro i
    show ((requests i).program api).Obeys _ _ _ (requests i)
    have hi := hlaunches i
    have hrequest := hrouted i
    cases hkind : requests i with
    | handled user request => exact handle_own (hkind ▸ hrequest)
    | launch request =>
      rw [hkind] at hi hrequest
      exact launch_own hrequest hi
  regular := by
    intro i
    show ((requests i).program api).Calls _
    cases requests i with
    | handled user request => exact calls_handle_regular user request
    | launch request => exact calls_launch_regular request
  history := hpast
  cluster := hpast _ (List.mem_append_right past (List.mem_singleton_self _))

/-- However requests are interleaved, whatever fails and however far the cache lags behind,
sessions are addressed, changed, listed and shown for their owners only. -/
theorem sessions_kept_to_owners {w : World} {past : List Cluster} (seen : String → Nat)
    (hrouted : ∀ i, (requests i).Routed) (hlaunches : ∀ i, (requests i).LaunchesOwn owner)
    (hpast : ∀ c ∈ past ++ [w.cluster], c.LabelledBy owner) (moves : List (CacheMove ι)) :
    Runs.Along CachedPool.next (KeepsToOwn requests owner) moves
      (.start api requests w past seen) := by
  have hall : Runs.Along CachedPool.next (fun _ _ => True) moves
      (.start api requests w past seen) := Runs.along_of_forall (fun _ _ _ => trivial) _
  exact Runs.Along.of_step (fun m _ hs _ => ⟨hs.keepsToOwn m, hs.step m⟩)
    (start_ownersKept seen hrouted hlaunches hpast) hall

end Interleavings

/-! ### A launch, and a deletion by another user -/

section Sample

def sampleOther : RegisteredUser := { sampleUser with username := "john", safeUsername := "john" }

theorem isEscaped_john : IsEscaped "john" := PyText.forall_of_all (by decide +kernel)

def launchAndStop : Bool → SessionRequest
  | false => .launch (sampleLaunch none)
  | true => .handled (.registered sampleOther) (.stopServer "jane-1" true)

/-- John asks for the deletion of the session that Jane has launched. -/
theorem janes_session_kept :
    Runs.Along CachedPool.next
      (KeepsToOwn launchAndStop fun name => if name = "john-1" then "john" else "jane")
      (launchMoves ++ List.replicate 3 (.sync "renku") ++ List.replicate 2 (.serve true calmEnv))
      (.start (sampleApi none) launchAndStop ⟨.empty, []⟩ [] fun _ => 0) := by
  apply sessions_kept_to_owners
  · rintro (_ | _)
    · exact ⟨isEscaped_jane, by decide, by rintro name ⟨⟩; decide⟩
    · exact ⟨isEscaped_john, by decide, by rintro name ⟨⟩; decide⟩
  · rintro (_ | _)
    · rfl
    · trivial
  · rintro c hc ns name x hget
    obtain rfl := List.mem_singleton.mp hc
    simp [Cluster.get, Cluster.empty] at hget

end Sample

end RenkuNotebooks.Notebooks
