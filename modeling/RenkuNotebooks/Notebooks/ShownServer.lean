import RenkuNotebooks.Notebooks.ConcurrentPatches

/-!
# The server that a PATCH response shows

The handler keeps the server that it has read and the one that its patches return. A request to
hibernate a session that is already hibernated shows the former, whatever has been patched before.
-/

namespace RenkuNotebooks.Notebooks

open Prog

/-- What the response of a PATCH request is made of. -/
def Api.shownServer (api : Api) (user : RegisteredUser) (serverName : String)
    (body : PatchServerRequest) : Service Json :=
  if api.config.sessions.storage.pvsEnabled = false then .raise (.generic pvDisabledError)
  else do
    match ← api.client.getServer serverName user.safeUsername with
    | none => .raise .attributeError
    | some server =>
      if server.truthy ∧ ¬(currentlyHibernated server ∨ currentlyFailing server) ∧
          body.resourceClassId.isSome then
        .raise classNotChangeable
      else do
        let newServer ← api.changeClass? user serverName server body.resourceClassId
        api.changeState user serverName server newServer body.state

theorem Api.handle_patchServer (api : Api) (user : RegisteredUser) (name : String)
    (body : PatchServerRequest) : api.handle (.registered user) (.patchServer name body) =
      (api.shownServer user name body).bind api.rendered := by
  dsimp only [Api.handle, Api.patchServer, Api.shownServer]
  split
  · rfl
  · rw [bind_eq, bind_eq, bind_assoc]
    congr 1
    funext server
    cases server with
    | none => rfl
    | some server =>
      dsimp only
      split
      · rfl
      · rw [Api.changeServer, bind_eq, bind_eq, bind_assoc]
        rfl

/-- The server of the session in a cluster. -/
def Cluster.serverOf (c : Cluster) (ns name : String) : Option Json :=
  (c.get ns name).map (·.server)

/-- When the server `read`, which a request has looked up, is what the response has to show, it is
the server that the request leaves behind. -/
def ReadIsCurrent (crc : Int → Except PyError ServerOptions) (enforceCpuLimits : CPUEnforcement)
    (body : PatchServerRequest) (server read : Json) : Prop :=
  match body.state, body.resourceClassId with
  | some .running, _ => True
  | none, some _ => True
  | none, none => read = server
  | some .hibernated, none => currentlyHibernated read = true → read = server
  | some .hibernated, some classId => currentlyHibernated read = true →
    ∀ options, crc classId = .ok options →
      applyOps (classPatch options enforceCpuLimits classId read) server = .ok read

section Shown

variable {api : Api} {env : Env} {name home : String} {user : RegisteredUser}

/-- The session lives in `home` with this server. -/
structure HasServer (k : K8sClient) (name home : String) (server : Json) (w : World) : Prop where
  lives : Lives k w.cluster name home
  current : w.cluster.serverOf home name = some server

theorem HasServer.spares {k : K8sClient} {server : Json} {w : World}
    (h : HasServer k name home server w) {c : Call} (hc : c.SparesServers) :
    HasServer k name home server (serve env c w).2 := by
  have hsame : ∀ ns, ((serve env c w).2.cluster.get ns name).isSome =
      (w.cluster.get ns name).isSome := by
    intro ns
    rw [← Option.isSome_map (f := fun x : Session => x.server), serve_spares env w hc,
      Option.isSome_map]
  refine ⟨⟨?_, fun ns hns hsome => ?_⟩, ?_⟩
  · rw [hsame]
    exact h.lives.here
  · rw [hsame] at hsome
    exact h.lives.only ns hns hsome
  · exact (serve_spares env w hc home name).trans h.current

theorem Calls.hasServer {α : Type} {k : K8sClient} {p : Service α} (hp : p.Calls Call.SparesServers)
    (server : Json) : Triple (serve env) (HasServer k name home server) p
      (fun _ => HasServer k name home server) (fun _ _ => True) :=
  (hp.triple fun _ _ hc hw => hw.spares hc).weaken (fun _ h => h) (fun _ _ h => h)
    fun _ _ _ => trivial

theorem patchServer_hasServer {k : K8sClient} {server : Json} (patch : ServerPatch) :
    Triple (serve env) (HasServer k name home server) (k.patchServer name user.safeUsername patch)
      (fun patched w => patch.applyTo server = .ok patched ∧ HasServer k name home patched w)
      (fun _ _ => True) := by
  intro w hw
  obtain ⟨x, hget, rfl⟩ := Option.map_eq_some_iff.mp hw.current
  refine (patchServer_triple hw.lives hget patch).weaken (fun _ h => h) ?_ (fun _ _ _ => trivial) w
    rfl
  rintro patched v ⟨happly, hid, hv⟩
  refine ⟨happly, ?_, ?_⟩
  · rw [hv]
    exact hw.lives.set hid
  · rw [hv, Cluster.serverOf, Cluster.get_set]
    rfl

theorem changeClass_hasServer {server read : Json} (classId : Int) :
    Triple (serve env) (HasServer api.client name home server)
      (api.changeClass user name classId read)
      (fun patched w => HasServer api.client name home patched w ∧ ∃ options,
        env.crc classId = .ok options ∧
        applyOps (classPatch options api.config.sessions.enforceCpuLimits classId read) server =
          .ok patched)
      (fun _ _ => True) := by
  apply Triple.bind fun reply w => HasServer api.client name home server w ∧
    ∀ options, reply = .ok options → env.crc classId = .ok options
  · apply triple_perform
    intro w hw
    refine ⟨hw.spares trivial, ?_⟩
    unfold serve
    split
    · exact fun options h => nomatch h
    · exact fun options h => h
  intro reply
  apply Triple.bind fun options w => HasServer api.client name home server w ∧
    env.crc classId = .ok options
  · exact triple_ofExcept (fun options w hok hw => ⟨hw.1, hw.2 options hok⟩) fun _ _ _ _ => trivial
  intro options w hw
  refine Triple.bind _ (patchServer_hasServer _) ?_ w hw.1
  intro patched v hv
  have hstatefulset : (api.client.patchStatefulset name (priorityClassPatch options)).Calls
      Call.SparesServers := NamespacedK8sClient.calls_patchStatefulset trivial
  refine Triple.bind _ (Calls.hasServer hstatefulset patched) ?_ v hv.2
  intro _
  exact triple_ret fun u hu => ⟨hu, options, hw.2, applyOps_of_applyTo hv.1⟩

theorem changeClass?_hasServer {server read : Json} (classId : Option { n : Int // 0 < n }) :
    Triple (serve env) (HasServer api.client name home server)
      (api.changeClass? user name read classId)
      (fun newServer w => match classId with
        | none => newServer = read ∧ HasServer api.client name home server w
        | some classId => HasServer api.client name home newServer w ∧ ∃ options,
          env.crc classId = .ok options ∧
          applyOps (classPatch options api.config.sessions.enforceCpuLimits classId read) server =
            .ok newServer)
      (fun _ _ => True) := by
  cases classId with
  | none => exact triple_ret fun w hw => ⟨rfl, hw⟩
  | some classId => exact changeClass_hasServer classId

/-- The patch of the state returns the server that it leaves behind. -/
theorem patchState_hasServer {server : Json} (patch : Json) :
    Triple (serve env) (HasServer api.client name home server)
      (api.client.patchServer name user.safeUsername (.merge patch))
      (HasServer api.client name home) (fun _ _ => True) :=
  (patchServer_hasServer _).weaken (fun _ h => h) (fun _ _ h => h.2) fun _ _ h => h

theorem hibernate_hasServer {server read : Json} :
    Triple (serve env) (HasServer api.client name home server) (api.hibernate user name read)
      (HasServer api.client name home) (fun _ _ => True) := by
  have hstatus : (Api.sidecarStatus name read).Calls Call.SparesServers := by
    unfold Api.sidecarStatus
    split
    · exact ⟨trivial, fun reply => calls_ofExcept reply⟩
    · trivial
  apply Triple.bind _ (Calls.hasServer hstatus server)
  exact fun status => patchState_hasServer _

theorem resume_hasServer {server : Json} :
    Triple (serve env) (HasServer api.client name home server) (api.resume user name)
      (HasServer api.client name home) (fun _ _ => True) := by
  have htokens : (api.client.patchTokens api.decode api.py name
      { accessToken := user.accessToken, refreshToken := user.refreshToken }
      { accessToken := user.gitToken, expiresAt := user.gitTokenExpiresAt }).Calls
        Call.SparesServers := by
    apply Calls.bind
    · exact NamespacedK8sClient.calls_patchStatefulsetTokens trivial fun _ => trivial
    · exact fun _ => NamespacedK8sClient.calls_patchImagePullSecret trivial fun _ => trivial
  apply Triple.bind _ (Calls.hasServer htokens server)
  exact fun _ => patchState_hasServer _

/-- What a request shows, and the server that it leaves behind: the same one, or the one that was
read where nothing has been patched. -/
theorem changes_shown {server read : Json} (body : PatchServerRequest) :
    Triple (serve env) (HasServer api.client name home server)
      ((api.changeClass? user name read body.resourceClassId).bind fun newServer =>
        api.changeState user name read newServer body.state)
      (fun shown w => w.cluster.serverOf home name = some shown ↔
        ReadIsCurrent env.crc api.config.sessions.enforceCpuLimits body server read)
      (fun _ _ => True) := by
  have hpatched : ∀ {shown : Json} {w : World}, HasServer api.client name home shown w →
      (w.cluster.serverOf home name = some shown ↔ True) :=
    fun h => iff_true_intro h.current
  -- a server that has not been patched by the request
  have hunpatched : ∀ {current : Json} {w : World}, HasServer api.client name home current w →
      (w.cluster.serverOf home name = some read ↔ read = current) := by
    intro current w h
    rw [h.current, Option.some_inj]
    exact eq_comm
  apply Triple.bind _ (changeClass?_hasServer body.resourceClassId)
  intro newServer
  rcases body with ⟨_ | _ | _, _ | classId⟩
  · refine triple_ret fun w hw => ?_
    obtain ⟨rfl, hw⟩ := hw
    exact hunpatched hw
  · exact triple_ret fun w hw => hpatched hw.1
  · exact resume_hasServer.weaken (fun _ hw => hw.2) (fun _ _ => hpatched) fun _ _ h => h
  · exact resume_hasServer.weaken (fun _ hw => hw.1) (fun _ _ => hpatched) fun _ _ h => h
  · dsimp only [Api.changeState, ReadIsCurrent]
    split
    · next hhibernated =>
      refine triple_ret fun w hw => ?_
      rw [hunpatched hw.2]
      exact ⟨fun h _ => h, fun h => h hhibernated⟩
    · next hhibernated =>
      refine hibernate_hasServer.weaken (fun _ hw => hw.2) (fun shown w hw => ?_) fun _ _ h => h
      exact iff_of_true hw.current fun h => absurd h hhibernated
  · dsimp only [Api.changeState, ReadIsCurrent]
    split
    · next hhibernated =>
      refine triple_ret fun w hw => ?_
      obtain ⟨hw, options, hknown, hpatch⟩ := hw
      rw [hunpatched hw]
      constructor
      · rintro rfl _ options' hknown'
        rw [Except.ok.inj (hknown'.symm.trans hknown), hpatch]
      · intro h
        exact (Except.ok.inj (hpatch.symm.trans (h hhibernated options hknown))).symm
    · next hhibernated =>
      refine hibernate_hasServer.weaken (fun _ hw => hw.1) (fun shown w hw => ?_) fun _ _ h => h
      exact iff_of_true hw.current fun h => absurd h hhibernated

/-- The parts of a request that succeeds. -/
theorem exists_of_handle_ok {body : PatchServerRequest} {w w' : World} {x : Session} {read : Json}
    {response : Response} (hlives : Lives api.client w.cluster name home)
    (hget : w.cluster.get home name = some x)
    (hread : (execute env (api.client.getServer name user.safeUsername) w).1 = .ok (some read))
    (hrun : execute env (api.handle (.registered user) (.patchServer name body)) w =
      (.ok response, w')) :
    ∃ shown w₀, execute env (api.shownServer user name body) w = (.ok shown, w') ∧
      api.render shown = .ok response.body ∧ HasServer api.client name home x.server w₀ ∧
      execute env ((api.changeClass? user name read body.resourceClassId).bind fun newServer =>
        api.changeState user name read newServer body.state) w₀ = (.ok shown, w') := by
  rw [Api.handle_patchServer] at hrun
  obtain ⟨shown, w₁, hshown, hrendered⟩ := exists_of_run_bind _ hrun
  obtain ⟨rendered, w₂, hbody, hok⟩ := exists_of_run_bind _ hrendered
  rw [run_ofExcept] at hbody
  obtain rfl : w₁ = w₂ := congrArg Prod.snd hbody
  cases hok
  have hparts := hshown
  unfold Api.shownServer at hparts
  split at hparts
  · cases hparts
  · obtain ⟨found, w₀, hfound, hchanged⟩ := exists_of_run_bind _ hparts
    obtain rfl : found = some read := Except.ok.inj ((congrArg Prod.fst hfound).symm.trans hread)
    have hcluster : w₀.cluster = w.cluster := (getServer_triple.value rfl hfound).1
    have hstart : HasServer api.client name home x.server w₀ := by
      refine ⟨?_, ?_⟩
      · rw [hcluster]
        exact hlives
      · rw [hcluster, Cluster.serverOf, hget]
        rfl
    dsimp only at hchanged
    split at hchanged
    · cases hchanged
    · exact ⟨shown, w₀, hshown, congrArg Prod.fst hbody, hstart, hchanged⟩

/-- A request that succeeds shows the server as it is after all its patches exactly when the server
that it has read is the current one where it shows that. -/
theorem shows_current_iff {body : PatchServerRequest} {w w' : World} {x : Session} {read : Json}
    {response : Response} (hlives : Lives api.client w.cluster name home)
    (hget : w.cluster.get home name = some x)
    (hread : (execute env (api.client.getServer name user.safeUsername) w).1 = .ok (some read))
    (hrun : execute env (api.handle (.registered user) (.patchServer name body)) w =
      (.ok response, w')) :
    ∃ shown, execute env (api.shownServer user name body) w = (.ok shown, w') ∧
      api.render shown = .ok response.body ∧
      (w'.cluster.serverOf home name = some shown ↔
        ReadIsCurrent env.crc api.config.sessions.enforceCpuLimits body x.server read) := by
  obtain ⟨shown, w₀, hshown, hbody, hstart, hchanged⟩ :=
    exists_of_handle_ok hlives hget hread hrun
  exact ⟨shown, hshown, hbody, (changes_shown body).value hstart hchanged⟩

end Shown

/-! ### A change of class of a hibernated session -/

theorem classTwo_pos : (0 : Int) < 2 := by decide

/-- The session of class 1, in an environment where class 2 is known. -/
def classTwoEnv : Env := (sampleRequest ⟨2, classTwo_pos⟩ (some "gold")).env

def changeAndHibernate : PatchServerRequest where
  state := some .hibernated
  resourceClassId := some ⟨2, classTwo_pos⟩

/-- A request for the class alone shows the patched server. -/
theorem class_change_shown :
    ∃ response w', execute classTwoEnv ((sampleApi none).handle (.registered sampleUser)
        (.patchServer "jane-1" { resourceClassId := some ⟨2, by decide⟩ }))
        (hibernatedWorld (some "basic")) = (.ok response, w') ∧
      ∃ shown, execute classTwoEnv ((sampleApi none).shownServer sampleUser "jane-1"
        { resourceClassId := some ⟨2, by decide⟩ }) (hibernatedWorld (some "basic")) =
          (.ok shown, w') ∧
        (sampleApi none).render shown = .ok response.body ∧
        (w'.cluster.serverOf "renku" "jane-1" = some shown ↔
          ReadIsCurrent classTwoEnv.crc .off { resourceClassId := some ⟨2, by decide⟩ }
            (hibernatedSession (some "basic")).server (hibernatedSession (some "basic")).server) := by
  refine ⟨_, _, rfl, ?_⟩
  exact shows_current_iff (lives_single _ (hibernatedSession_identified _)) rfl rfl rfl

/-- The response shows class 1 when the server has been changed to class 2. -/
theorem changed_class_not_shown :
    ∃ response w', execute classTwoEnv ((sampleApi none).handle (.registered sampleUser)
        (.patchServer "jane-1" changeAndHibernate)) (hibernatedWorld (some "basic")) =
        (.ok response, w') ∧ response.status = 200 ∧
      response.body.dig classIdPath = some (.str "1") ∧
      (w'.cluster.serverOf "renku" "jane-1").bind (Json.dig classIdPath) = some (.str "2") ∧
      w'.cluster.serverOf "renku" "jane-1" ≠ some response.body := by
  have hmoved : ∀ {server : Option Json} {shown : Json},
      shown.dig classIdPath = some (.str "1") →
      server.bind (Json.dig classIdPath) = some (.str "2") →
      shown.dig classIdPath = some (.str "1") ∧
        server.bind (Json.dig classIdPath) = some (.str "2") ∧ server ≠ some shown := by
    intro server shown hshown hcurrent
    refine ⟨hshown, hcurrent, ?_⟩
    rintro rfl
    rw [Option.bind_some, hshown] at hcurrent
    exact absurd hcurrent (by decide)
  exact ⟨_, _, rfl, rfl, hmoved (by decide +kernel) (by decide +kernel)⟩

end RenkuNotebooks.Notebooks
