import RenkuNotebooks.Foundation.Interleaving
import RenkuNotebooks.Notebooks.ClassChange

/-!
# Concurrent PATCH requests

Any number of requests to hibernate, to resume or to change the resource class of one session,
interleaved call by call. A request for a class reads the server once and patches it later; what
another request does in between is not noticed.
-/

namespace RenkuNotebooks.Notebooks

open Prog

/-- Hibernated or failing. -/
def Idle (server : Json) : Prop := currentlyHibernated server = true ∨ currentlyFailing server

instance (server : Json) : Decidable (Idle server) := inferInstanceAs (Decidable (_ ∨ _))

/-- The servers that a look-up shows. -/
def Call.shown : (c : Call) → c.Reply → List Json
  | .cacheGet _, reply => reply.toOption.getD []
  | .getServer _ _, reply => reply.toOption.toList
  | _, _ => []

def Call.patchesServer : Call → Bool
  | .patchServer _ _ _ => true
  | _ => false

/-- How far a request for a class has come: it has not yet been shown an idle server, it has, or
its patch of the server has been served. Other requests are free from the start. -/
inductive PatchPhase where
  | unguarded
  | guarded
  | free
  deriving DecidableEq, Repr

def PatchPhase.start (body : PatchServerRequest) : PatchPhase :=
  if body.resourceClassId.isSome then .unguarded else .free

def PatchPhase.next (q : PatchPhase) (c : Call) (reply : c.Reply) : PatchPhase :=
  if c.patchesServer then .free
  else if q = .unguarded ∧ ∃ server ∈ c.shown reply, Idle server then .guarded
  else q

/-! ### The run of the requests -/

section Run

variable {ι : Type} [DecidableEq ι] (api : Api) (name : String) (users : ι → User)
  (bodies : ι → PatchServerRequest)

abbrev RequestPool (ι : Type) := Pool ι Call Call.Reply PyError Response World

/-- The call of a request that is served next, in the environment that answers it. -/
abbrev Move (ι : Type) := ι × Env

def serveNext (m : Move ι) (s : RequestPool ι) : RequestPool ι := s.step (serve m.2) m.1

def patchPool (w : World) : RequestPool ι where
  state := w
  threads := fun i => api.handle (users i) (.patchServer name (bodies i))
  trace := []

def progressAfter (i : ι) (trace : List (Event ι Call Call.Reply)) : PatchPhase :=
  trace.foldl (fun q e => if e.thread = i then q.next e.call e.reply else q) (.start (bodies i))

/-- A request for a class that has been shown an idle server, and has neither patched the server
nor ended. -/
def PatchPending (i : ι) (s : RequestPool ι) : Prop :=
  progressAfter bodies i s.trace = .guarded ∧ ∃ c k, s.threads i = .call c k

/-- The resources of a server only change while it is idle. -/
def ResourcesGuarded (m : Move ι) (s : RequestPool ι) : Prop :=
  ∀ ns n x x', s.state.cluster.get ns n = some x →
    (serveNext m s).state.cluster.get ns n = some x' →
    x'.server.dig resourcesPath ≠ x.server.dig resourcesPath → Idle x.server

/-- A request for a class is only shown an idle server while the session is idle, and until its
patch is served or it ends, no request resumes the session, unless it is failing. -/
structure Undisturbed (m : Move ι) (s : RequestPool ι) : Prop where
  fresh : ∀ c k, s.threads m.1 = .call c k → progressAfter bodies m.1 s.trace = .unguarded →
    (∃ server ∈ c.shown (serve m.2 c s.state).1, Idle server) →
    ∀ ns x, s.state.cluster.get ns name = some x → Idle x.server
  kept : ∀ ns k, s.threads m.1 = .call (.patchServer ns name (.merge runningPatch)) k →
    m.2.faults s.state.log.length (.patchServer ns name (.merge runningPatch)) = none →
    (∃ j, PatchPending bodies j s) →
    ∀ x, s.state.cluster.get ns name = some x → currentlyFailing x.server

end Run

/-! ### What the patches do to a server -/

section Patches

variable {options : ServerOptions} {enforceCpuLimits : CPUEnforcement} {classId : Int}
  {read doc doc' : Json}

theorem classPatch_idle_iff
    (h : applyOps (classPatch options enforceCpuLimits classId read) doc = .ok doc') :
    Idle doc' ↔ Idle doc := by
  have hhibernated : ∀ j, Json.dig ["spec", "jupyterServer", "hibernated"] j =
      Json.getAt ["spec", "jupyterServer", "hibernated"] j :=
    fun j => (Json.getAt_of_named (by decide) j).symm
  have hstate : ∀ j, Json.dig ["status", "state"] j = Json.getAt ["status", "state"] j :=
    fun j => (Json.getAt_of_named (by decide) j).symm
  unfold Idle currentlyHibernated currentlyFailing
  rw [hhibernated, hhibernated, hstate, hstate,
    classPatch_frame h (by decide) (by decide) (by decide) (by decide) (by decide),
    classPatch_frame h (by decide) (by decide) (by decide) (by decide) (by decide)]

/-- The merge patches of a request: resume the session, or hibernate it. -/
def StatePatch (patch : Json) : Prop :=
  patch = runningPatch ∨ ∃ (h : Hibernation) (pyRepr : Json → String) (date : String),
    patch = h.patch pyRepr date

/-- A state patch sets the flag below the specification of the server, and leaves the
specification otherwise and the status as they are. -/
theorem statePatch_spec {patch : Json} (h : StatePatch patch) (server : Json) :
    (∃ b, Json.dig ["spec", "jupyterServer", "hibernated"] (Json.mergePatch patch server) =
        some (.bool b) ∧ (b = false → patch = runningPatch)) ∧
      Json.dig resourcesPath (Json.mergePatch patch server) = Json.dig resourcesPath server ∧
      Json.dig ["status", "state"] (Json.mergePatch patch server) =
        Json.dig ["status", "state"] server := by
  obtain ⟨ps, b, rfl, hps, hb⟩ : ∃ ps b, patch = .obj (ps ++ ("spec", .obj [("jupyterServer",
      .obj [("hibernated", .bool b)])]) :: []) ∧ (∀ p ∈ ps, p.1 = "metadata") ∧
      (b = false → patch = runningPatch) := by
    rcases h with rfl | ⟨h, pyRepr, date, rfl⟩
    · exact ⟨[], false, rfl, by simp, fun _ => rfl⟩
    · refine ⟨[_], true, rfl, ?_, by simp⟩
      intro p hp
      rw [List.mem_singleton.mp hp]
  have hmetadata : ∀ key, key ≠ "metadata" → ∀ p ∈ ps, key ≠ p.1 := by
    intro key hkey p hp
    rw [hps p hp]
    exact hkey
  have hserver : ∀ ms, (Json.mergePatch (.obj (ps ++ [("spec", .obj ms)])) server).get? "spec" =
      some (Json.mergePatch (.obj ms) ((server.get? "spec").getD .null)) := by
    intro ms
    exact Json.get?_mergePatch (by simp) (hmetadata "spec" (by decide)) (by simp) server
  have hspec : ∀ ms spec,
      (Json.mergePatch (.obj [("jupyterServer", .obj ms)]) spec).get? "jupyterServer" =
        some (Json.mergePatch (.obj ms) ((spec.get? "jupyterServer").getD .null)) := by
    intro ms spec
    exact Json.get?_mergePatch_single (by simp) spec
  have hflag : ∀ js : Json, (Json.mergePatch (.obj [("hibernated", .bool b)]) js).get? "hibernated" =
      some (.bool b) := by
    intro js
    exact Json.get?_mergePatch_single (by simp) js
  have hresources : ∀ js : Json,
      (Json.mergePatch (.obj [("hibernated", .bool b)]) js).get? "resources" = js.get? "resources" := by
    intro js
    exact Json.get?_mergePatch_of_ne (by simp) js
  refine ⟨⟨b, ?_, hb⟩, ?_, ?_⟩
  · simp only [Json.dig_cons, hserver, hspec, Option.bind_some, hflag, Json.dig_nil]
  · simp only [resourcesPath, Json.dig_cons, hserver, hspec, Option.bind_some, hresources]
    cases server.get? "spec" with
    | none => rfl
    | some spec =>
      simp only [Option.getD_some, Option.bind_some, Json.dig_cons]
      cases spec.get? "jupyterServer" with
      | none => rfl
      | some js => rfl
  · simp only [Json.dig_cons]
    rw [Json.get?_mergePatch_of_ne]
    intro p hp
    rcases List.mem_append.mp hp with hp | hp
    · exact hmetadata "status" (by decide) p hp
    · rw [List.mem_singleton.mp hp]
      simp

theorem statePatch_resources {patch : Json} (h : StatePatch patch) (server : Json) :
    Json.dig resourcesPath (Json.mergePatch patch server) = Json.dig resourcesPath server :=
  (statePatch_spec h server).2.1

theorem statePatch_idle {patch server : Json} (h : StatePatch patch)
    (hrunning : patch = runningPatch → currentlyFailing server) :
    Idle (Json.mergePatch patch server) := by
  obtain ⟨⟨b, hflag, hb⟩, -, hstate⟩ := statePatch_spec h server
  cases b with
  | true =>
    left
    unfold currentlyHibernated
    rw [hflag]
    rfl
  | false =>
    right
    unfold currentlyFailing
    rw [hstate]
    exact hrunning (hb rfl)

end Patches

/-! ### What a request calls in its phases -/

/-- Calls that leave all servers as they are. -/
def Call.SparesServers : Call → Prop
  | .createServer _ _ _ => False
  | .patchServer _ _ _ => False
  | .deleteServer _ _ _ => False
  | _ => True

/-- The class is only patched after an idle server has been shown, the state only after that. -/
def ServerPatch.AllowedIn : ServerPatch → PatchPhase → Prop
  | .json ops, q => q = .guarded ∧
    ∃ options enforceCpuLimits classId read, ops = classPatch options enforceCpuLimits classId read
  | .merge patch, q => q = .free ∧ StatePatch patch

def patchProtocol (name : String) : Protocol Call Call.Reply PatchPhase where
  allowed q c := c.SparesServers ∨
    ∃ ns patch, c = .patchServer ns name patch ∧ patch.AllowedIn q
  assumed _ c reply := ∀ server ∈ c.shown reply, server.truthy = true
  next := PatchPhase.next

section Phases

variable {name : String} {q : PatchPhase}

theorem Call.LooksUp.spares {c : Call} (h : c.LooksUp name) : c.SparesServers := by
  cases c <;> trivial

theorem Call.SparesServers.not_patches {c : Call} (h : c.SparesServers) :
    c.patchesServer = false := by
  cases c <;> first | rfl | exact h.elim

/-- A request without a class, or one that has patched it. -/
def Call.InFree (name : String) (c : Call) : Prop :=
  c.SparesServers ∨ ∃ ns patch, c = .patchServer ns name patch ∧ patch.AllowedIn .free

theorem PatchPhase.next_free (c : Call) (reply : c.Reply) :
    PatchPhase.next .free c reply = .free := by
  unfold next
  split
  · rfl
  · exact if_neg (by simp)

theorem PatchPhase.next_guarded {c : Call} (hc : c.patchesServer = false) (reply : c.Reply) :
    PatchPhase.next .guarded c reply = .guarded := by
  unfold next
  rw [hc]
  simp

variable {api : Api} {user : RegisteredUser}

theorem calls_patchServer_free {safeUsername : String} {patch : Json} (h : StatePatch patch) :
    (api.client.patchServer name safeUsername (.merge patch)).Calls (Call.InFree name) := by
  apply K8sClient.calls_patchServer
  · exact fun c hc => .inl hc.spares
  · exact fun ns => .inr ⟨ns, _, rfl, rfl, h⟩

theorem calls_changeState (server newServer : Json) (state : Option PatchServerStatusEnum) :
    (api.changeState user name server newServer state).Calls (Call.InFree name) := by
  cases state with
  | none => trivial
  | some state =>
    cases state with
    | running =>
      apply Calls.bind
      · apply Calls.bind
        · exact NamespacedK8sClient.calls_patchStatefulsetTokens (.inl trivial)
            fun _ => .inl trivial
        · intro _
          exact NamespacedK8sClient.calls_patchImagePullSecret (.inl trivial) fun _ => .inl trivial
      · exact fun _ => calls_patchServer_free (.inl rfl)
    | hibernated =>
      dsimp only [Api.changeState]
      split
      · trivial
      · apply Calls.bind
        · unfold Api.sidecarStatus
          split
          · exact ⟨.inl trivial, fun reply => calls_ofExcept reply⟩
          · trivial
        · exact fun status => calls_patchServer_free (.inr ⟨_, _, _, rfl⟩)

/-- A request without a class. -/
theorem calls_patchServer_without_class (user : User) {body : PatchServerRequest}
    (hbody : body.resourceClassId = none) :
    (api.handle user (.patchServer name body)).Calls (Call.InFree name) := by
  dsimp only [Api.handle, Api.patchServer]
  split
  · trivial
  · cases user with
    | anonymous u => trivial
    | registered u =>
      apply Calls.bind (K8sClient.calls_getServer fun c hc => .inl hc.spares)
      rintro (_ | server)
      · trivial
      · dsimp only
        rw [hbody]
        simp only [Option.isSome_none, Bool.false_eq_true, and_false, if_false]
        apply Calls.bind
        · rw [hbody]
          trivial
        · intro newServer
          apply Calls.bind (calls_changeState server newServer body.state)
          intro shown
          exact Calls.bind (calls_ofExcept _) fun _ => trivial

/-- What a request knows of a server that it has been shown. -/
def Tracked (server : Json) (q : PatchPhase) : Prop :=
  server.truthy = true ∧ (Idle server → q = .guarded)

/-- A request for a class that has been shown some of the servers `shown` and has patched none. -/
def Watching (shown : Json → Prop) (q : PatchPhase) : Prop :=
  q ≠ .free ∧ ∀ server, shown server → Tracked server q

/-- A look-up adds the servers that it shows. -/
theorem Watching.next {shown : Json → Prop} (h : Watching shown q) {c : Call}
    (hc : c.patchesServer = false) {reply : c.Reply}
    (htruthy : ∀ server ∈ c.shown reply, server.truthy = true) :
    Watching (fun server => shown server ∨ server ∈ c.shown reply) (q.next c reply) := by
  cases q with
  | free => exact absurd rfl h.1
  | guarded =>
    rw [PatchPhase.next_guarded hc]
    refine ⟨h.1, ?_⟩
    rintro server (hserver | hserver)
    · exact h.2 server hserver
    · exact ⟨htruthy server hserver, fun _ => rfl⟩
  | unguarded =>
    unfold PatchPhase.next
    rw [hc]
    simp only [Bool.false_eq_true, if_false, true_and]
    split
    · refine ⟨by decide, ?_⟩
      rintro server (hserver | hserver)
      · exact ⟨(h.2 server hserver).1, fun _ => rfl⟩
      · exact ⟨htruthy server hserver, fun _ => rfl⟩
    · next hnone =>
      refine ⟨by decide, ?_⟩
      rintro server (hserver | hserver)
      · exact h.2 server hserver
      · exact ⟨htruthy server hserver, fun hidle => absurd ⟨server, hserver, hidle⟩ hnone⟩

theorem Watching.mono {shown shown' : Json → Prop} (h : Watching shown q)
    (hshown : ∀ server, shown' server → shown server) : Watching shown' q :=
  ⟨h.1, fun server hserver => h.2 server (hshown server hserver)⟩

/-- Whatever it has been shown, a request may stop. -/
def Ends (_ : PyError) (_ : PatchPhase) : Prop := True

theorem cacheGet_watching (h : Watching (fun _ => False) q) :
    (JsServerCache.getServer name).Obeys (patchProtocol name)
      (fun server q' => Watching (server = some ·) q')
      (fun _ q' => Watching (fun _ => False) q') q := by
  apply Obeys.bind (fun reply q' =>
    Watching (fun server => server ∈ Call.shown (.cacheGet name) reply) q')
  · refine obeys_perform (.inl trivial) fun reply htruthy => ?_
    exact (h.next rfl htruthy).mono fun server => .inr
  · rintro reply q' hq'
    have hnone : Watching (fun _ => False) q' := hq'.mono fun _ => False.elim
    rcases reply with (n | _) | servers
    · exact hnone
    · exact hnone
    · apply obeys_ofExcept
      · intro server hserver
        apply hq'.mono
        rintro s rfl
        exact mem_of_single hserver
      · exact fun e _ => hnone

theorem apiGet_watching {ns : String} {shown : Json → Prop} (h : Watching shown q) :
    (NamespacedK8sClient.getServer ns name).Obeys (patchProtocol name)
      (fun server q' => Watching (fun s => shown s ∨ server = some s) q') Ends q := by
  apply Obeys.bind (fun reply q' =>
    Watching (fun server => shown server ∨ server ∈ Call.shown (.getServer ns name) reply) q')
  · exact obeys_perform (.inl trivial) fun reply htruthy => h.next rfl htruthy
  · rintro reply q' hq'
    have hnone : Watching (fun s => shown s ∨ none = some s) q' :=
      hq'.mono fun s hs => hs.imp_right nofun
    rcases reply with (n | _) | server
    · dsimp only [exceptApi]
      split
      · exact hnone
      · trivial
    · trivial
    · refine hq'.mono fun s hs => hs.imp_right ?_
      intro hserver
      rw [← Option.some.inj hserver]
      exact List.mem_singleton_self server

variable {k : K8sClient}

theorem getServerFromApi_watching (h : Watching (fun _ => False) q) :
    (k.getServerFromApi name).Obeys (patchProtocol name)
      (fun server q' => Watching (server = some ·) q') Ends q := by
  apply Obeys.bind (fun session q' => Watching (session = some ·) q')
  · unfold K8sClient.getSessionServer
    split
    · exact h.mono nofun
    · exact (apiGet_watching h).mono fun session q' hq' => hq'.mono fun s => .inr
  · intro session q' hq'
    apply Obeys.bind _ (apiGet_watching hq')
    intro renku q'' hq''
    apply obeys_ofExcept
    · intro server hserver
      apply hq''.mono
      rintro s rfl
      exact mem_of_single_found hserver
    · exact fun e _ => trivial

theorem getServer_watching {safeUsername : String} (h : Watching (fun _ => False) q) :
    (k.getServer name safeUsername).Obeys (patchProtocol name)
      (fun server q' => Watching (server = some ·) q') Ends q := by
  apply Obeys.bind (fun server q' => Watching (server = some ·) q')
  · apply Obeys.tryCatch _ (cacheGet_watching h)
    intro e q' hq'
    split
    · exact getServerFromApi_watching hq'
    · trivial
  · intro server q' hq'
    apply hq'.mono
    intro s hs
    exact (Option.filter_eq_some_iff.mp hs).1

/-- Calls that keep a guarded request guarded. -/
theorem obeys_of_spares {α : Type} {p : Service α} (hp : p.Calls Call.SparesServers) :
    p.Obeys (patchProtocol name) (fun _ q => q = .guarded) Ends .guarded := by
  have hraised : ∀ e, Ends e .guarded := fun _ => trivial
  have hobeys := hp.obeys (P := patchProtocol name) (returns_true p) hraised
    fun c hc => ⟨.inl hc, fun reply => PatchPhase.next_guarded hc.not_patches reply⟩
  exact hobeys.mono fun _ _ h => h.2

theorem obeys_of_inFree {α : Type} {p : Service α} (hp : p.Calls (Call.InFree name)) :
    p.Obeys (patchProtocol name) (fun _ q => q = .free) Ends .free := by
  have hraised : ∀ e, Ends e .free := fun _ => trivial
  have hobeys := hp.obeys (P := patchProtocol name) (returns_true p) hraised
    fun c hc => ⟨hc, fun reply => PatchPhase.next_free c reply⟩
  exact hobeys.mono fun _ _ h => h.2

theorem changeClass_obeys (classId : Int) (server : Json) :
    (api.changeClass user name classId server).Obeys (patchProtocol name) (fun _ q => q = .free)
      Ends .guarded := by
  have hvalidate : (Call.validateClassStorage classId).SparesServers := trivial
  apply Obeys.bind _ (obeys_of_spares ((calls_perform _).mpr hvalidate))
  rintro reply _ rfl
  apply Obeys.bind _ (obeys_of_spares (calls_ofExcept reply))
  rintro options _ rfl
  apply Obeys.bind (fun _ q => q = .free)
  · apply Obeys.bind _ (obeys_of_spares (K8sClient.calls_ownNamespace fun c hc => hc.spares))
    rintro ns _ rfl
    apply Obeys.bind (fun _ q => q = .free)
    · exact obeys_perform (.inr ⟨ns, _, rfl, rfl, _, _, _, _, rfl⟩) fun reply _ => rfl
    · rintro ((n | _) | patched) _ rfl
      · trivial
      · trivial
      · rfl
  · rintro newServer _ rfl
    apply obeys_of_inFree
    apply Calls.bind (NamespacedK8sClient.calls_patchStatefulset (.inl trivial))
    exact fun _ => trivial

theorem patchServer_obeys (user : User) (body : PatchServerRequest) :
    (api.handle user (.patchServer name body)).Obeys (patchProtocol name) (fun _ _ => True) Ends
      (.start body) := by
  cases hclass : body.resourceClassId with
  | none =>
    have hstart : PatchPhase.start body = .free := by simp [PatchPhase.start, hclass]
    rw [hstart]
    exact (obeys_of_inFree (calls_patchServer_without_class user hclass)).mono fun _ _ _ => trivial
  | some classId =>
    have hstart : PatchPhase.start body = .unguarded := by simp [PatchPhase.start, hclass]
    rw [hstart]
    dsimp only [Api.handle, Api.patchServer]
    split
    · trivial
    · cases user with
      | anonymous u => trivial
      | registered u =>
        apply Obeys.bind _ (getServer_watching ⟨by decide, nofun⟩)
        rintro (_ | server) q ⟨-, hserver⟩
        · trivial
        · obtain ⟨htruthy, hguarded⟩ := hserver server rfl
          dsimp only
          split
          · trivial
          · next hguard =>
            have hidle : Idle server := by
              by_contra hnot
              exact hguard ⟨htruthy, hnot, by rw [hclass]; rfl⟩
            rw [hguarded hidle]
            unfold Api.changeServer
            rw [hclass]
            apply Obeys.bind _ (changeClass_obeys classId server)
            rintro newServer _ rfl
            apply Obeys.mono (obeys_of_inFree _) fun _ _ _ => trivial
            apply Calls.bind (calls_changeState server newServer body.state)
            intro shown
            exact Calls.bind (calls_ofExcept _) fun _ => trivial

end Phases

/-! ### What a served call does to the servers -/

section Served

variable (env : Env) (w : World)

theorem Cluster.server_of_update {α : Type} (c : Cluster) {ns name : String}
    {f : Session → Except Fault (α × Session)}
    (hf : ∀ x a x', f x = .ok (a, x') → x'.server = x.server) (ns' name' : String) :
    ((c.update ns name f).2.get ns' name').map (·.server) =
      (c.get ns' name').map (·.server) := by
  cases hupdate : (c.update ns name f).1 with
  | error fault => rw [Cluster.update_of_error hupdate]
  | ok a =>
    obtain ⟨x, x', hid, hget, hx', hset⟩ := Cluster.exists_of_update_ok hupdate
    rw [hset]
    by_cases hplace : (ns', name') = (ns, name)
    · obtain ⟨rfl, rfl⟩ := Prod.mk.inj hplace
      rw [Cluster.get_set, hget, Option.map_some, Option.map_some, hf x a x' hx']
    · rw [Cluster.get_set_of_ne _ _ _ hplace]

theorem serve_spares {c : Call} (hc : c.SparesServers) (ns name : String) :
    ((serve env c w).2.cluster.get ns name).map (·.server) =
      (w.cluster.get ns name).map (·.server) := by
  unfold serve
  split
  · rfl
  · cases c with
    | createServer ns' name' manifest => exact hc.elim
    | patchServer ns' name' patch => exact hc.elim
    | deleteServer ns' name' forced => exact hc.elim
    | patchStatefulset ns' name' ops =>
      apply Cluster.server_of_update
      intro x a x' hx'
      cases hsts : x.statefulset with
      | none =>
        rw [hsts] at hx'
        cases hx'
      | some sts =>
        rw [hsts] at hx'
        obtain ⟨patched, -, hx'⟩ := Results.bind_eq_ok_iff.mp hx'
        cases hx'
        rfl
    | patchImageSecret ns' name' ops =>
      apply Cluster.server_of_update
      intro x a x' hx'
      split at hx'
      · cases hx'
      · split at hx' <;> cases hx'
        rfl
    | _ => rfl

/-- A patch of a server changes nothing, or the one server. -/
theorem serve_patchServer (ns name : String) (patch : ServerPatch) :
    (serve env (.patchServer ns name patch) w).2.cluster = w.cluster ∨
      ∃ x server, ∃ hid, env.faults w.log.length (.patchServer ns name patch) = none ∧
        w.cluster.get ns name = some x ∧ patch.applyTo x.server = .ok server ∧
        (serve env (.patchServer ns name patch) w).2.cluster =
          w.cluster.set ns name { x with server } hid := by
  unfold serve
  cases hfault : env.faults w.log.length (.patchServer ns name patch) with
  | some fault => exact .inl rfl
  | none =>
    dsimp only [answer]
    cases hreply : (w.cluster.patchServer ns name patch).1 with
    | error fault => exact .inl (Cluster.update_of_error hreply)
    | ok patched =>
      right
      obtain ⟨x, x', hid, hget, hx', hupdate⟩ := Cluster.exists_of_update_ok hreply
      obtain ⟨server, hserver, hx'⟩ := Results.bind_eq_ok_iff.mp hx'
      cases hx'
      exact ⟨x, patched, hid, rfl, hget, hserver, congrArg Prod.snd hupdate⟩

theorem serve_shown_truthy (c : Call) : ∀ server ∈ c.shown (serve env c w).1, server.truthy = true := by
  intro server hserver
  unfold serve at hserver
  cases hfault : env.faults w.log.length c with
  | some fault =>
    rw [hfault] at hserver
    cases c <;> cases hserver
  | none =>
    rw [hfault] at hserver
    cases c with
    | cacheGet name =>
      obtain ⟨ns, -, hns⟩ := List.mem_filterMap.mp hserver
      obtain ⟨x, hx, rfl⟩ := Option.map_eq_some_iff.mp hns
      exact (Cluster.get_identified hx).truthy
    | getServer ns name =>
      cases hget : w.cluster.get ns name with
      | none => simp [Call.shown, answer, hget, found, Except.toOption] at hserver
      | some x =>
        simp [Call.shown, answer, hget, found, Except.toOption] at hserver
        rw [hserver]
        exact (Cluster.get_identified hget).truthy
    | _ => cases hserver

end Served

/-! ### All interleavings -/

section Interleavings

variable {ι : Type} [DecidableEq ι] {api : Api} {name : String} {users : ι → User}
  {bodies : ι → PatchServerRequest} {m : Move ι} {s : RequestPool ι}

def AllIdle (name : String) (c : Cluster) : Prop :=
  ∀ ns x, c.get ns name = some x → Idle x.server

/-- The requests obey the protocol, and while one of them is about to patch the class, the session
is idle. -/
structure Prepared (name : String) (bodies : ι → PatchServerRequest) (s : RequestPool ι) : Prop where
  obedient : s.Obedient (patchProtocol name) (fun i => .start (bodies i)) (fun _ _ => True) Ends
  idle : (∃ i, PatchPending bodies i s) → AllIdle name s.state.cluster

theorem AllIdle.spares {c : Call} (hc : c.SparesServers) {env : Env} {w : World}
    (h : AllIdle name w.cluster) : AllIdle name (serve env c w).2.cluster := by
  intro ns x hx
  have hserver := serve_spares env w hc ns name
  rw [hx] at hserver
  obtain ⟨x₀, hx₀, hsame⟩ := Option.map_eq_some_iff.mp hserver.symm
  have hidle := h ns x₀ hx₀
  rwa [hsame] at hidle

theorem AllIdle.set {c : Cluster} (h : AllIdle name c) {ns : String} {x : Session}
    (hid : Identified ns name x.server) (hx : Idle x.server) : AllIdle name (c.set ns name x hid) := by
  intro ns' x' hx'
  by_cases hns : ns' = ns
  · subst hns
    rw [Cluster.get_set] at hx'
    rw [← Option.some.inj hx']
    exact hx
  · rw [Cluster.get_set_of_ne _ _ _ fun he => hns (congrArg Prod.fst he)] at hx'
    exact h ns' x' hx'

theorem progressAfter_concat (i : ι) (trace : List (Event ι Call Call.Reply))
    (e : Event ι Call Call.Reply) :
    progressAfter bodies i (trace ++ [e]) =
      if e.thread = i then (progressAfter bodies i trace).next e.call e.reply
      else progressAfter bodies i trace := by
  unfold progressAfter
  rw [List.foldl_append]
  rfl

/-- A request that is guarded after a call was guarded before, or the call has shown it an idle
server. -/
theorem guarded_before {i j : ι} {c : Call} {reply : c.Reply}
    {trace : List (Event ι Call Call.Reply)}
    (h : progressAfter bodies j (trace ++ [⟨i, c, reply⟩]) = .guarded) :
    progressAfter bodies j trace = .guarded ∨
      (c.patchesServer = false ∧ progressAfter bodies i trace = .unguarded ∧
        ∃ server ∈ c.shown reply, Idle server) := by
  rw [progressAfter_concat] at h
  split at h
  · next hij =>
    obtain rfl : i = j := hij
    unfold PatchPhase.next at h
    split at h
    · cases h
    · next hc =>
      split at h
      · next hshown => exact .inr ⟨by simpa using hc, hshown⟩
      · exact .inl h
  · exact .inl h

/-- A request that is about to patch the class after a call was so before, or the call has shown it
an idle server. -/
theorem pending_before {j : ι} {c : Call} {k : c.Reply → Service Response}
    (hi : s.threads m.1 = .call c k)
    (h : PatchPending bodies j (s.served (serve m.2) m.1 c k)) :
    PatchPending bodies j s ∨
      (c.patchesServer = false ∧ progressAfter bodies m.1 s.trace = .unguarded ∧
        ∃ server ∈ c.shown (serve m.2 c s.state).1, Idle server) := by
  obtain ⟨hphase, c', k', hgoing⟩ := h
  rcases guarded_before hphase with hphase | hshown
  · refine .inl ⟨hphase, ?_⟩
    by_cases hj : j = m.1
    · exact ⟨c, k, hj ▸ hi⟩
    · simp only [Pool.served, Function.update_of_ne hj] at hgoing
      exact ⟨c', k', hgoing⟩
  · exact .inr hshown

/-- Where no server changes, no resources do. -/
theorem resourcesGuarded_of_servers (h : ∀ ns n,
    ((serveNext m s).state.cluster.get ns n).map (·.server) =
      (s.state.cluster.get ns n).map (·.server)) : ResourcesGuarded m s := by
  intro ns n x x' hx hx' hne
  have hserver := h ns n
  rw [hx, hx'] at hserver
  have hsame : x'.server = x.server := Option.some.inj hserver
  rw [hsame] at hne
  exact absurd rfl hne

/-- Only the server that is set can have other resources. -/
theorem resources_of_set {c : Cluster} {ns ns' n : String} {x₀ x x' : Session} {server : Json}
    {hid : Identified ns name server} (hget : c.get ns name = some x₀)
    (hx : c.get ns' n = some x)
    (hx' : (c.set ns name { x₀ with server } hid).get ns' n = some x')
    (hne : x'.server.dig resourcesPath ≠ x.server.dig resourcesPath) :
    x = x₀ ∧ server.dig resourcesPath ≠ x₀.server.dig resourcesPath := by
  by_cases hplace : (ns', n) = (ns, name)
  · obtain ⟨rfl, rfl⟩ := Prod.mk.inj hplace
    rw [Cluster.get_set] at hx'
    rw [hget] at hx
    cases hx
    cases hx'
    exact ⟨rfl, hne⟩
  · rw [Cluster.get_set_of_ne _ _ _ hplace, hx] at hx'
    cases hx'
    exact absurd rfl hne

theorem Prepared.step (hs : Prepared name bodies s) (hm : Undisturbed name bodies m s) :
    ResourcesGuarded m s ∧ Prepared name bodies (serveNext m s) := by
  obtain hsame | ⟨c, k, hi⟩ := s.step_cases (serve m.2) m.1
  · have hstep : serveNext m s = s := hsame
    rw [hstep]
    exact ⟨resourcesGuarded_of_servers fun ns n => by rw [hstep], hs⟩
  have hstep : serveNext m s = s.served (serve m.2) m.1 c k := Pool.step_of_call hi
  have hobedient : (s.served (serve m.2) m.1 c k).Obedient (patchProtocol name)
      (fun i => .start (bodies i)) (fun _ _ => True) Ends :=
    hs.obedient.served hi (serve_shown_truthy m.2 s.state c)
  -- whoever is about to patch after the call, the session was idle before it
  have hbefore : (∃ j, PatchPending bodies j (serveNext m s)) →
      AllIdle name s.state.cluster := by
    rintro ⟨j, hj⟩
    rw [hstep] at hj
    rcases pending_before hi hj with hj | ⟨-, hphase, hshown⟩
    · exact hs.idle ⟨j, hj⟩
    · exact hm.fresh c k hi hphase hshown
  have hstate : (serveNext m s).state = (serve m.2 c s.state).2 := by
    rw [hstep]
    rfl
  obtain hspares | ⟨ns, patch, rfl, hallowed⟩ := hs.obedient.allowed hi
  · refine ⟨?_, hstep ▸ hobedient, fun hguarded => ?_⟩
    · apply resourcesGuarded_of_servers
      rw [hstate]
      exact serve_spares m.2 s.state hspares
    · rw [hstate]
      exact (hbefore hguarded).spares hspares
  · obtain hsame | ⟨x₀, server, hid, hfault, hget, happly, hset⟩ :=
      serve_patchServer m.2 s.state ns name patch
    · refine ⟨?_, hstep ▸ hobedient, fun hguarded => ?_⟩
      · apply resourcesGuarded_of_servers
        rw [hstate, hsame]
        exact fun _ _ => rfl
      · rw [hstate, hsame]
        exact hbefore hguarded
    · have hcluster : (serveNext m s).state.cluster =
          s.state.cluster.set ns name { x₀ with server } hid := (congrArg _ hstate).trans hset
      cases patch with
      | json ops =>
        obtain ⟨hguarded, options, enforceCpuLimits, classId, read, rfl⟩ := hallowed
        have hidle : Idle x₀.server := hs.idle ⟨m.1, hguarded, _, _, hi⟩ ns x₀ hget
        refine ⟨?_, hstep ▸ hobedient, fun hafter => ?_⟩
        · intro ns' n x x' hx hx' hne
          rw [hcluster] at hx'
          rw [(resources_of_set hget hx hx' hne).1]
          exact hidle
        · rw [hcluster]
          exact (hbefore hafter).set hid
            ((classPatch_idle_iff (applyOps_of_applyTo happly)).mpr hidle)
      | merge patch =>
        obtain ⟨-, hpatch⟩ := hallowed
        obtain rfl : Json.mergePatch patch x₀.server = server := Except.ok.inj happly
        refine ⟨?_, hstep ▸ hobedient, fun hafter => ?_⟩
        · intro ns' n x x' hx hx' hne
          rw [hcluster] at hx'
          exact absurd (statePatch_resources hpatch _) (resources_of_set hget hx hx' hne).2
        · rw [hcluster]
          apply (hbefore hafter).set hid
          apply statePatch_idle hpatch
          rintro rfl
          obtain ⟨j, hj⟩ := hafter
          rw [hstep] at hj
          rcases pending_before hi hj with hj | ⟨hnot, -⟩
          · exact hm.kept ns k hi hfault ⟨j, hj⟩ x₀ hget
          · cases hnot

theorem patchPool_prepared (w : World) :
    Prepared name bodies (patchPool api name users bodies w) := by
  refine ⟨fun i => patchServer_obeys (users i) (bodies i), ?_⟩
  rintro ⟨i, hi, -⟩
  have hstart : PatchPhase.start (bodies i) = .guarded := hi
  unfold PatchPhase.start at hstart
  split at hstart <;> cases hstart

/-- As long as no request acts on a server that is idle no more, the resources only change while
the session is idle. -/
theorem patches_resourcesGuarded {schedule : List (Move ι)} {w : World}
    (h : Runs.Along serveNext (Undisturbed name bodies) schedule
      (patchPool api name users bodies w)) :
    Runs.Along serveNext ResourcesGuarded schedule (patchPool api name users bodies w) :=
  Runs.Along.of_step (fun _ _ hs hm => hs.step hm) (patchPool_prepared w) h

/-- Once no request waits to patch the class, the others may act in any order. -/
theorem undisturbed_of_free (h : ∀ i, progressAfter bodies i s.trace = .free)
    (schedule : List (Move ι)) : Runs.Along serveNext (Undisturbed name bodies) schedule s := by
  induction schedule generalizing s with
  | nil => trivial
  | cons m schedule ih =>
    refine ⟨⟨?_, ?_⟩, ih ?_⟩
    · intro c k _ hphase
      rw [h m.1] at hphase
      cases hphase
    · rintro ns k _ _ ⟨j, hj, -⟩
      rw [h j] at hj
      cases hj
    · intro i
      unfold serveNext
      obtain hsame | ⟨c, k, hi⟩ := s.step_cases (serve m.2) m.1
      · rw [hsame, h i]
      · rw [Pool.step_of_call hi, Pool.served, progressAfter_concat, h i, PatchPhase.next_free, ite_self]

end Interleavings

/-! ### A change of class and a resumption -/

section Sample

/-- A hibernated session whose pod has no containers yet. -/
def pausedSession : Session :=
  { hibernatedSession (some "basic") with
    statefulset := some (.obj [("spec", .obj [("template", .obj [("spec", .obj [
      ("containers", .arr []), ("initContainers", .arr []),
      ("priorityClassName", "basic")])])])]) }

def pausedWorld : World where
  cluster := Cluster.empty.set "renku" "jane-1" pausedSession (hibernatedSession_identified _)
  log := []

/-- The first request asks for class 2, the second resumes the session. -/
def changeAndResume : Bool → PatchServerRequest
  | true => { resourceClassId := some ⟨2, by decide⟩ }
  | false => { state := some .running }

def samplePool : RequestPool Bool :=
  patchPool (sampleApi none) "jane-1" (fun _ => .registered sampleUser) changeAndResume pausedWorld

/-- Class 2 has more processors. -/
def sampleMove (i : Bool) : Move Bool :=
  (i, { calmEnv with crc := fun _ => .ok { sampleOptions (some "gold") with cpu := 2 } })

def waitsToResume {α : Type} : Service α → Bool
  | .call (.patchServer _ _ (.merge patch)) _ => patch = runningPatch
  | _ => false

theorem undisturbed_of_idle {ι : Type} [DecidableEq ι] {name : String}
    {bodies : ι → PatchServerRequest} {m : Move ι} {s : RequestPool ι}
    (hidle : AllIdle name s.state.cluster) (hwaits : waitsToResume (s.threads m.1) = false) :
    Undisturbed name bodies m s := by
  refine ⟨fun _ _ _ _ _ => hidle, ?_⟩
  intro ns k hi
  rw [hi] at hwaits
  simp [waitsToResume] at hwaits

theorem pausedWorld_allIdle : AllIdle "jane-1" pausedWorld.cluster := by
  have hempty : AllIdle "jane-1" Cluster.empty := by
    intro ns x hx
    simp [Cluster.get, Cluster.empty] at hx
  have hid : Identified "renku" "jane-1" pausedSession.server := hibernatedSession_identified _
  exact hempty.set hid (.inl (by decide))

/-- The class is changed before the session is resumed. -/
theorem change_then_resume_guarded :
    Runs.Along serveNext ResourcesGuarded
      ([true, true, true, true].map sampleMove ++ [true, false, false, false, false, false].map
        sampleMove) samplePool := by
  have hundisturbed : Runs.Along serveNext (Undisturbed "jane-1" changeAndResume)
      ([true, true, true, true].map sampleMove ++ [true, false, false, false, false, false].map
        sampleMove) samplePool := by
    apply Runs.along_append.mpr
    refine ⟨⟨?_, ?_, ?_, ?_, trivial⟩, undisturbed_of_free (by decide +kernel) _⟩
    · exact undisturbed_of_idle pausedWorld_allIdle (by decide +kernel)
    · exact undisturbed_of_idle pausedWorld_allIdle (by decide +kernel)
    · exact undisturbed_of_idle pausedWorld_allIdle (by decide +kernel)
    · exact undisturbed_of_idle pausedWorld_allIdle (by decide +kernel)
  exact patches_resourcesGuarded hundisturbed

/-- The change of class has been shown the hibernated session, then the session is resumed. -/
def resumed : RequestPool Bool :=
  Runs.final serveNext ([true, false, false, false, false, false, true, true].map sampleMove)
    samplePool

/-- The session is resumed after the change of class has checked that it is hibernated, and
before it patches the resources. -/
theorem resume_within_change_not_guarded :
    ¬Runs.Along serveNext ResourcesGuarded
      ([true, false, false, false, false, false, true, true].map sampleMove ++ [sampleMove true])
      samplePool := by
  intro h
  obtain ⟨hguarded, -⟩ := (Runs.along_append.mp h).2
  have hrunning : (resumed.state.cluster.get "renku" "jane-1").any
      fun x => ¬Idle x.server ∧ x.server.dig resourcesPath =
        some ((sampleOptions (some "basic")).toK8sResources .off) := by decide +kernel
  have hchanged : ((serveNext (sampleMove true) resumed).state.cluster.get "renku" "jane-1").any
      fun x => x.server.dig resourcesPath ≠
        some ((sampleOptions (some "basic")).toK8sResources .off) := by decide +kernel
  rw [Option.any_eq_true] at hrunning hchanged
  obtain ⟨x, hx, hrunning⟩ := hrunning
  obtain ⟨x', hx', hchanged⟩ := hchanged
  obtain ⟨hnot, hold⟩ := of_decide_eq_true hrunning
  have hne : x'.server.dig resourcesPath ≠ x.server.dig resourcesPath := by
    rw [hold]
    exact of_decide_eq_true hchanged
  exact hnot (hguarded "renku" "jane-1" x x' hx hx' hne)

end Sample

end RenkuNotebooks.Notebooks
