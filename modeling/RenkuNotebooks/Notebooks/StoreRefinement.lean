import RenkuNotebooks.Notebooks.SessionStore

/-!
# Requests as steps of the store

Each request that the service serves is a step of the store of sessions, and so is each request of
a run.
-/

namespace RenkuNotebooks.Notebooks

open Prog

/-! ### Requests -/

/-- The request is a step of the store that the cluster holds. -/
def StepsTo (home : String) (a : SessionStore) (request : SessionRequest)
    (outcome : Except PyError Response) (w : World) : Prop :=
  ∃ a', Stores home a' w ∧ a.Step request outcome a'

section Requests

variable {env : Env} {api : Api} {a : SessionStore} {name : String}

/-- The schema raises no error that says that a server is missing. -/
def Api.RendersPlainly (api : Api) : Prop :=
  ∀ server e, api.render server = .error e → ¬ e.IsMissing

theorem rendered_stores (hrender : api.RendersPlainly) (server : Json) :
    Triple (serve env) (Stores api.home a) (api.rendered server)
      (fun response w => response.status = 200 ∧ Stores api.home a w)
      (fun e w => ¬ e.IsMissing ∧ Stores api.home a w) := by
  apply Triple.bind fun _ => Stores api.home a
  · apply triple_ofExcept
    · exact fun _ w _ hw => hw
    · exact fun e w he hw => ⟨hrender server e he, hw⟩
  · exact fun body => triple_ret fun w hw => ⟨rfl, hw⟩

theorem stepsTo_failed {request : SessionRequest} {e : PyError} {w : World}
    (h : Stores api.home a w) (he : ¬ e.IsMissing) :
    StepsTo api.home a request (.error e) w :=
  ⟨a, h, .failed fun _ _ _ _ _ hmissing => absurd hmissing he⟩

/-- A failed request whose errors say nothing about a session. -/
theorem stepsTo_unchanged {request : SessionRequest} {e : PyError} {w : World}
    (h : Stores api.home a w) (hnone : ∀ user r, request = .handled user r → r.notFound? = none) :
    StepsTo api.home a request (.error e) w := by
  refine ⟨a, h, .failed ?_⟩
  intro user r name hrequest hname
  rw [hnone user r hrequest] at hname
  cases hname

theorem userServer_steps (henv : env.Honest api.home) (hrender : api.RendersPlainly) (user : User) :
    Triple (serve env) (Stores api.home a) (api.userServer user name)
      (fun response => StepsTo api.home a (.handled user (.userServer name)) (.ok response))
      (fun e => StepsTo api.home a (.handled user (.userServer name)) (.error e)) := by
  apply Triple.bind _ ((getServer_shows henv rfl a).weaken (fun _ h => h) (fun _ _ h => h)
    fun _ _ h => stepsTo_failed h.2 h.1)
  rintro (_ | server)
  · apply triple_raise
    rintro w ⟨hnot, hw⟩
    refine ⟨a, hw, .failed ?_⟩
    rintro _ _ _ ⟨⟩ ⟨⟩ -
    exact hnot
  · apply triple_of_and
    rintro ⟨-, hfound, howner⟩
    apply (rendered_stores hrender server).weaken (fun _ h => h)
    · rintro ⟨body, status⟩ w ⟨hstatus, hw⟩
      obtain rfl : status = 200 := hstatus
      exact ⟨a, hw, .shown rfl ⟨_, hfound, howner⟩⟩
    · exact fun _ _ h => stepsTo_failed h.2 h.1

theorem not_isMissing_of_namespaceOf {k : K8sClient} {server : Json} {e : PyError}
    (h : k.namespaceOf server = .error e) : ¬ e.IsMissing := by
  unfold K8sClient.namespaceOf at h
  split at h
  · cases h
  · split at h
    · cases h
    · cases h
      exact not_isMissing rfl

/-- The logs of a server that has been found. -/
def readLogs (k : K8sClient) (server : Json) (name : String) (maxLines : Int) :
    Service (List (String × Json)) :=
  (ofExcept (k.namespaceOf server)).bind fun ns =>
    NamespacedK8sClient.getPodLogs ns name maxLines
      (keysAt ["status", "containerStates", "init"] server ++
        keysAt ["status", "containerStates", "regular"] server) []

theorem calls_readLogs (k : K8sClient) (server : Json) (name : String) (maxLines : Int) :
    (readLogs k server name maxLines).Calls Call.SparesServers :=
  Calls.bind (calls_ofExcept _) fun _ => NamespacedK8sClient.calls_getPodLogs (fun _ => trivial) _ _

theorem raises_readLogs (k : K8sClient) (server : Json) (name : String) (maxLines : Int) :
    (readLogs k server name maxLines).Raises fun e => ¬ e.IsMissing := by
  have hcontainer : ∀ ns container,
      (NamespacedK8sClient.getContainerLogs ns name container maxLines).Raises
        fun e => ¬ e.IsMissing := by
    intro ns container
    apply Raises.bind
    · exact fun _ => trivial
    · rintro ((status | _) | logs)
      · dsimp only [exceptApi]
        split
        · trivial
        · exact not_isMissing rfl
      · exact not_isMissing rfl
      · trivial
  have hlogs : ∀ ns containers output,
      (NamespacedK8sClient.getPodLogs ns name maxLines containers output).Raises
        fun e => ¬ e.IsMissing := by
    intro ns containers
    induction containers with
    | nil => exact fun _ => trivial
    | cons container containers ih =>
      intro output
      apply Raises.bind (hcontainer ns container)
      rintro (_ | text)
      · exact ih output
      · dsimp only
        split
        · exact ih output
        · exact ih _
  apply Raises.bind
  · apply raises_ofExcept
    exact fun e he => not_isMissing_of_namespaceOf he
  · exact fun ns => hlogs ns _ _

theorem serverLogs_steps (henv : env.Honest api.home) (user : User) (maxLines : Int) :
    Triple (serve env) (Stores api.home a) (api.serverLogs user name maxLines)
      (fun response => StepsTo api.home a (.handled user (.serverLogs name maxLines)) (.ok response))
      (fun e => StepsTo api.home a (.handled user (.serverLogs name maxLines)) (.error e)) := by
  apply Triple.bind fun _ w => a.Owns user.safeUsername name ∧ Stores api.home a w
  · apply Triple.bind _ ((getServer_shows henv rfl a).weaken (fun _ h => h) (fun _ _ h => h)
      fun _ _ h => stepsTo_failed h.2 h.1)
    rintro (_ | server)
    · apply triple_raise
      rintro w ⟨hnot, hw⟩
      refine ⟨a, hw, .failed ?_⟩
      rintro _ _ _ ⟨⟩ ⟨⟩ -
      exact hnot
    · apply triple_of_and
      rintro ⟨-, hfound, howner⟩
      have hcalls := calls_readLogs api.client server name maxLines
      apply ((Calls.stores hcalls a).raises
        (raises_readLogs api.client server name maxLines)).weaken (fun _ h => h)
      · exact fun _ w hw => ⟨⟨_, hfound, howner⟩, hw⟩
      · exact fun _ _ h => stepsTo_failed h.1 h.2
  · intro logs
    apply triple_ret
    rintro w ⟨howns, hw⟩
    exact ⟨a, hw, .shown rfl howns⟩

theorem deleteServer_stores {ns : String} {forced : Bool} :
    Triple (serve env) (Stores api.home a) (NamespacedK8sClient.deleteServer ns name forced)
      (fun _ => Stores api.home (a.erase name))
      (fun e w => ¬ e.IsMissing ∧ Stores api.home a w) := by
  apply Triple.bind fun reply w => (∀ fault, reply = .error fault → Stores api.home a w) ∧
    (reply = .ok () → Stores api.home (a.erase name) w)
  · apply triple_perform
    intro w hw
    unfold serve
    cases env.faults w.log.length (.deleteServer ns name forced) with
    | some fault => exact ⟨fun _ _ => ⟨hw.store, hw.atHome⟩, nofun⟩
    | none =>
      dsimp only [answer, Cluster.deleteServer]
      cases hget : w.cluster.get ns name with
      | none => exact ⟨fun _ _ => ⟨hw.store, hw.atHome⟩, nofun⟩
      | some x =>
        refine ⟨nofun, fun _ => ?_⟩
        obtain rfl : ns = api.home := by
          by_contra hns
          rw [hw.atHome ns name hns] at hget
          cases hget
        refine ⟨?_, ?_⟩
        · funext n
          unfold storeOf SessionStore.erase
          by_cases hn : n = name
          · subst hn
            rw [Function.update_self, Cluster.get_erase]
            rfl
          · rw [Function.update_of_ne hn, Cluster.get_erase_of_ne _
              fun he => hn (congrArg Prod.snd he)]
            exact congrFun hw.store n
        · intro ns' n hns
          have hplace : (ns', n) ≠ (api.home, name) := fun he => hns (congrArg Prod.fst he)
          exact (Cluster.get_erase_of_ne _ hplace).trans (hw.atHome ns' n hns)
  · rintro ((status | _) | _)
    · exact triple_raise fun w hw => ⟨not_isMissing rfl, hw.1 _ rfl⟩
    · exact triple_raise fun w hw => ⟨not_isMissing rfl, hw.1 _ rfl⟩
    · exact triple_ret fun w hw => hw.2 rfl

/-- The look-up before a deletion finds the user's session, or says that there is none. -/
theorem ownNamespace_shows (henv : env.Honest api.home) {u purpose : String} :
    Triple (serve env) (Stores api.home a) (api.client.ownNamespace name u purpose)
      (fun _ w => a.Owns u name ∧ Stores api.home a w)
      (fun e w => (e.IsMissing → ¬ a.Owns u name) ∧ Stores api.home a w) := by
  apply Triple.bind _ ((getServer_shows henv rfl a).weaken (fun _ h => h) (fun _ _ h => h)
    fun _ _ h => ⟨fun hmissing => absurd hmissing h.1, h.2⟩)
  rintro (_ | server)
  · exact triple_raise fun w hw => ⟨fun _ => hw.1, hw.2⟩
  · apply triple_of_and
    rintro ⟨htruthy, hfound, howner⟩
    dsimp only
    rw [if_pos htruthy]
    apply triple_ofExcept
    · exact fun ns w _ hw => ⟨⟨_, hfound, howner⟩, hw⟩
    · exact fun e w he hw => ⟨fun hmissing => absurd hmissing (not_isMissing_of_namespaceOf he), hw⟩

theorem stopServer_steps (henv : env.Honest api.home) (user : User) (forced : Bool) :
    Triple (serve env) (Stores api.home a) (api.stopServer user name forced)
      (fun response => StepsTo api.home a (.handled user (.stopServer name forced)) (.ok response))
      (fun e => StepsTo api.home a (.handled user (.stopServer name forced)) (.error e)) := by
  apply Triple.bind fun _ w =>
    a.Owns user.safeUsername name ∧ Stores api.home (a.erase name) w
  · apply Triple.bind _ ((ownNamespace_shows henv).weaken (fun _ h => h) (fun _ _ h => h) ?_)
    · intro ns
      apply triple_of_and
      intro howns
      apply deleteServer_stores.weaken (fun _ h => h)
      · exact fun _ _ h => ⟨howns, h⟩
      · exact fun _ _ h => stepsTo_failed h.2 h.1
    · rintro e w ⟨hmissing, hw⟩
      refine ⟨a, hw, .failed ?_⟩
      rintro _ _ _ ⟨⟩ ⟨⟩ h
      exact hmissing h
  · intro _
    apply triple_ret
    rintro w ⟨howns, hw⟩
    exact ⟨_, hw, .deleted howns⟩

/-- An error that may come before or after the change of the state. -/
theorem stepsTo_patched {user : User} {body : PatchServerRequest} {e : PyError} {w : World}
    (howns : a.Owns user.safeUsername name) (h : Stores api.home (a.setState name body.state) w) :
    StepsTo api.home a (.handled user (.patchServer name body)) (.error e) w :=
  ⟨_, h, .patched howns nofun⟩

theorem notFound?_patchServer {user user' : User} {body : PatchServerRequest} {r : Request}
    (h : SessionRequest.handled user (.patchServer name body) = .handled user' r) :
    r.notFound? = none := by
  cases h
  rfl

theorem changeServer_steps (hrender : api.RendersPlainly) (user : RegisteredUser)
    (body : PatchServerRequest) {read : Json} (howns : a.Owns user.safeUsername name)
    (hread : a name = some (storedAs read)) :
    Triple (serve env) (Stores api.home a) (api.changeServer user name body read)
      (fun response =>
        StepsTo api.home a (.handled (.registered user) (.patchServer name body)) (.ok response))
      (fun e =>
        StepsTo api.home a (.handled (.registered user) (.patchServer name body)) (.error e)) := by
  apply Triple.bind _ ((changeClass?_stores body.resourceClassId read).weaken (fun _ h => h)
    (fun _ _ h => h) fun _ _ h => stepsTo_unchanged h fun _ _ => notFound?_patchServer)
  intro newServer
  apply Triple.bind _ ((changeState_stores hread body.state).weaken (fun _ h => h)
    (fun _ _ h => h) fun _ _ h => stepsTo_unchanged h fun _ _ => notFound?_patchServer)
  intro shown
  apply (rendered_stores hrender shown).weaken (fun _ h => h)
  · exact fun response w h => ⟨_, h.2, .patched howns fun _ he => Except.ok.inj he ▸ h.1⟩
  · exact fun e w h => stepsTo_patched howns h.2

theorem patchServer_steps (henv : env.Honest api.home) (hrender : api.RendersPlainly) (user : User)
    (body : PatchServerRequest) :
    Triple (serve env) (Stores api.home a) (api.patchServer user name body)
      (fun response => StepsTo api.home a (.handled user (.patchServer name body)) (.ok response))
      (fun e => StepsTo api.home a (.handled user (.patchServer name body)) (.error e)) := by
  unfold Api.patchServer
  split
  · exact triple_raise fun w hw => stepsTo_unchanged hw fun _ _ => notFound?_patchServer
  · cases user with
    | anonymous u => exact triple_raise fun w hw => stepsTo_unchanged hw fun _ _ => notFound?_patchServer
    | registered u =>
      apply Triple.bind _ ((getServer_shows henv rfl a).weaken (fun _ h => h) (fun _ _ h => h)
        fun _ _ h => stepsTo_unchanged h.2 fun _ _ => notFound?_patchServer)
      rintro (_ | read)
      · exact triple_raise fun w hw => stepsTo_unchanged hw.2 fun _ _ => notFound?_patchServer
      · apply triple_of_and
        rintro ⟨-, hfound, howner⟩
        dsimp only
        split
        · exact triple_raise fun w hw => stepsTo_unchanged hw fun _ _ => notFound?_patchServer
        · exact changeServer_steps hrender u body ⟨_, hfound, howner⟩ hfound

end Requests

/-! ### Lists of sessions -/

section Lists

variable {env : Env} {api : Api} {home u : String} {a : SessionStore} {c : Cluster} {k : K8sClient}

theorem mem_labelledServers {ns : String} {server : Json} :
    server ∈ labelledServers c ns usernameLabel u ↔
      ∃ name x, c.get ns name = some x ∧ x.server = server ∧ ownerOf server = some u := by
  unfold labelledServers
  simp only [List.mem_filter, List.mem_map, Prod.exists, decide_eq_true_eq, ownerOf_eq_some_iff]
  constructor
  · rintro ⟨⟨name, x, hmem, rfl⟩, hlabel⟩
    exact ⟨name, x, Cluster.mem_list_iff.mp hmem, rfl, hlabel⟩
  · rintro ⟨name, x, hget, rfl, hlabel⟩
    exact ⟨⟨name, x, Cluster.mem_list_iff.mpr hget, rfl⟩, hlabel⟩

theorem labelledServers_elsewhere (hhome : AtHome home c) {ns : String} (hns : ns ≠ home)
    {server : Json} : server ∉ labelledServers c ns usernameLabel u := by
  intro hmem
  obtain ⟨name, x, hget, -⟩ := mem_labelledServers.mp hmem
  rw [hhome ns name hns] at hget
  cases hget

/-- Exactly the user's servers. -/
def OwnServers (home : String) (c : Cluster) (u : String) (servers : List Json) : Prop :=
  ∀ server, server ∈ servers ↔ server ∈ labelledServers c home usernameLabel u

theorem cacheList_finds (henv : env.Honest home) (hhome : AtHome home c) :
    Triple (serve env) (fun w => w.cluster = c) (JsServerCache.listServers u)
      (fun servers w => OwnServers home c u servers ∧ w.cluster = c) (fun _ w => w.cluster = c) := by
  apply Triple.bind fun reply w =>
    (∀ servers, reply = .ok servers → OwnServers home c u servers) ∧ w.cluster = c
  · apply triple_perform
    rintro w rfl
    unfold serve
    split
    · exact ⟨nofun, rfl⟩
    · refine ⟨?_, rfl⟩
      intro servers hreply server
      obtain rfl := Except.ok.inj hreply
      rw [henv.current, id, List.mem_flatMap]
      constructor
      · rintro ⟨ns, -, hmem⟩
        by_cases hns : ns = home
        · rwa [hns] at hmem
        · exact absurd hmem (labelledServers_elsewhere hhome hns)
      · exact fun hmem => ⟨home, henv.watches, hmem⟩
  · rintro ((status | _) | servers)
    · exact triple_raise fun w hw => hw.2
    · exact triple_raise fun w hw => hw.2
    · exact triple_ret fun w hw => ⟨hw.1 servers rfl, hw.2⟩

theorem apiList_finds (henv : env.Honest home) {ns : String} :
    Triple (serve env) (fun w => w.cluster = c) (NamespacedK8sClient.listServers ns u)
      (fun servers w => servers = labelledServers c ns usernameLabel u ∧ w.cluster = c)
      (fun _ w => w.cluster = c) := by
  apply Triple.bind fun reply w =>
    ((∀ servers, reply = .ok servers → servers = labelledServers c ns usernameLabel u) ∧
      ∀ status, reply = .error (.status status) → status ≠ 400 ∧ status ≠ 404) ∧ w.cluster = c
  · apply triple_perform
    rintro w rfl
    unfold serve
    cases hfault : env.faults w.log.length (.listServers ns u) with
    | some fault =>
      refine ⟨⟨nofun, ?_⟩, rfl⟩
      intro status hreply
      obtain rfl := Except.error.inj hreply
      exact henv.listed _ _ _ _ hfault
    | none => exact ⟨⟨fun servers hreply => (Except.ok.inj hreply).symm, nofun⟩, rfl⟩
  · rintro ((status | _) | servers)
    · dsimp only [exceptApi]
      split
      · next hcode =>
        apply triple_ret
        rintro w ⟨⟨-, hstatus⟩, -⟩
        obtain ⟨h400, h404⟩ := hstatus status rfl
        exact absurd hcode (not_or.mpr ⟨h400, h404⟩)
      · exact triple_raise fun w hw => hw.2
    · exact triple_raise fun w hw => hw.2
    · exact triple_ret fun w hw => ⟨hw.1.1 servers rfl, hw.2⟩

theorem listServersFromApi_finds (henv : env.Honest home) (hhome : AtHome home c)
    (hk : k.preferredNamespace = home) :
    Triple (serve env) (fun w => w.cluster = c) (k.listServersFromApi u)
      (fun servers w => OwnServers home c u servers ∧ w.cluster = c) (fun _ w => w.cluster = c) := by
  apply Triple.bind _ (apiList_finds henv)
  intro renku
  apply triple_of_and
  rintro rfl
  unfold K8sClient.preferredNamespace at hk
  cases hsession : k.sessionNs with
  | none =>
    rw [hsession] at hk
    obtain rfl : k.renkuNs = home := hk
    exact triple_ret fun w hw => ⟨fun _ => Iff.rfl, hw⟩
  | some ns =>
    rw [hsession] at hk
    obtain rfl : ns = home := hk
    apply Triple.bind _ (apiList_finds henv)
    intro sessions
    apply triple_of_and
    rintro rfl
    apply triple_ret
    refine fun w hw => ⟨fun server => ?_, hw⟩
    rw [List.mem_append]
    constructor
    · rintro (hmem | hmem)
      · by_cases hns : k.renkuNs = ns
        · rwa [hns] at hmem
        · exact absurd hmem (labelledServers_elsewhere hhome hns)
      · exact hmem
    · exact .inr

/-- A list that is given to a user has the names of the user's sessions. -/
theorem listServers_lists (henv : env.Honest home) (hk : k.preferredNamespace = home)
    (a : SessionStore) :
    Triple (serve env) (Stores home a) (k.listServers u)
      (fun servers w => (∀ name, (∃ server ∈ servers, NamespacedK8sClient.manifestName server = name) ↔
        a.Owns u name) ∧ Stores home a w) (fun _ => Stores home a) := by
  intro w hw
  obtain ⟨hstore, hhome⟩ := hw
  have hkept : ∀ {v : World}, v.cluster = w.cluster → Stores home a v :=
    fun hv => ⟨hv ▸ hstore, hv ▸ hhome⟩
  have hfinds : Triple (serve env) (fun v => v.cluster = w.cluster) (k.listServers u)
      (fun servers v => OwnServers home w.cluster u servers ∧ v.cluster = w.cluster)
      (fun _ v => v.cluster = w.cluster) := by
    apply Triple.tryCatch _ (cacheList_finds henv hhome)
    intro e
    split
    · exact listServersFromApi_finds henv hhome hk
    · exact triple_raise fun v hv => hv
  refine (hfinds.weaken (fun _ h => h) ?_ fun _ _ h => hkept h) w rfl
  rintro servers v ⟨hservers, hv⟩
  refine ⟨fun name => ?_, hkept hv⟩
  have hname : ∀ {n x}, w.cluster.get home n = some x →
      NamespacedK8sClient.manifestName x.server = n := by
    intro n x hget
    unfold NamespacedK8sClient.manifestName
    rw [(Cluster.get_identified hget).1]
  have hat : ∀ n, a n = (w.cluster.get home n).map fun x => storedAs x.server :=
    fun n => (congrFun hstore n).symm
  constructor
  · rintro ⟨server, hmem, rfl⟩
    obtain ⟨n, x, hget, rfl, howner⟩ := mem_labelledServers.mp ((hservers server).mp hmem)
    rw [hname hget]
    exact ⟨storedAs x.server, by rw [hat, hget]; rfl, howner⟩
  · rintro ⟨x, hx, howner⟩
    rw [hat] at hx
    obtain ⟨y, hget, rfl⟩ := Option.map_eq_some_iff.mp hx
    refine ⟨y.server, (hservers _).mpr ?_, hname hget⟩
    exact mem_labelledServers.mpr ⟨name, y, hget, rfl, howner⟩

theorem mem_names_setMember {key name : String} {value : Json} {ms : List (String × Json)} :
    name ∈ (Json.setMember key value ms).map (·.1) ↔ name = key ∨ name ∈ ms.map (·.1) := by
  induction ms with
  | nil => simp [Json.setMember]
  | cons m ms ih =>
    unfold Json.setMember
    split
    · next hkey => simp [hkey]
    · simp only [List.map_cons, List.mem_cons, ih]
      exact or_left_comm

/-- The names of the servers that match the filters. -/
theorem names_filteredServers {filters : List (String × String)} {servers : List Json}
    {output filtered : List (String × Json)}
    (h : Api.filteredServers filters servers output = .ok filtered) :
    (∀ name ∈ filtered.map (·.1), name ∈ output.map (·.1) ∨
      ∃ server ∈ servers, NamespacedK8sClient.manifestName server = name) ∧
    (filters = [] → ∀ name, (name ∈ output.map (·.1) ∨
      ∃ server ∈ servers, NamespacedK8sClient.manifestName server = name) →
        name ∈ filtered.map (·.1)) := by
  induction servers generalizing output with
  | nil =>
    obtain rfl := Except.ok.inj h
    exact ⟨fun _ => .inl, fun _ name hname => hname.resolve_right (by simp)⟩
  | cons server servers ih =>
    obtain ⟨hit, hmatches, hrest⟩ := Results.bind_eq_ok_iff.mp h
    cases hit with
    | false =>
      obtain ⟨hsub, -⟩ := ih hrest
      refine ⟨?_, ?_⟩
      · intro name hname
        rcases hsub name hname with hout | ⟨s, hs, hname⟩
        · exact .inl hout
        · exact .inr ⟨s, List.mem_cons_of_mem _ hs, hname⟩
      · rintro rfl
        cases hmatches
    | true =>
      obtain ⟨hsub, hall⟩ := ih hrest
      refine ⟨?_, ?_⟩
      · intro name hname
        rcases hsub name hname with hout | ⟨s, hs, hname⟩
        · rcases mem_names_setMember.mp hout with rfl | hout
          · exact .inr ⟨server, List.mem_cons_self, rfl⟩
          · exact .inl hout
        · exact .inr ⟨s, List.mem_cons_of_mem _ hs, hname⟩
      · intro hnil name hname
        apply hall hnil name
        rcases hname with hout | ⟨s, hs, rfl⟩
        · exact .inl (mem_names_setMember.mpr (.inr hout))
        · rcases List.mem_cons.mp hs with rfl | hs
          · exact .inl (mem_names_setMember.mpr (.inl rfl))
          · exact .inr ⟨s, hs, rfl⟩

theorem names_rendered {filtered output : List (String × Json)}
    (h : filtered.mapM api.renderMember = .ok output) : output.map (·.1) = filtered.map (·.1) := by
  have hall := Results.forall2_of_mapM_eq_ok h
  clear h
  induction hall with
  | nil => rfl
  | cons hm _ ih =>
    obtain ⟨body, -, hm⟩ := Results.bind_eq_ok_iff.mp hm
    cases hm
    rw [List.map_cons, List.map_cons, ih]

theorem userServers_steps (henv : env.Honest api.home) (user : User)
    (filters : List (String × String)) :
    Triple (serve env) (Stores api.home a) (api.userServers user filters)
      (fun response => StepsTo api.home a (.handled user (.userServers filters)) (.ok response))
      (fun e => StepsTo api.home a (.handled user (.userServers filters)) (.error e)) := by
  have hfailed : ∀ {e w}, Stores api.home a w →
      StepsTo api.home a (.handled user (.userServers filters)) (.error e) w := by
    intro e w hw
    apply stepsTo_unchanged hw
    rintro _ _ ⟨⟩
    rfl
  apply Triple.bind _ ((listServers_lists henv rfl a).weaken (fun _ h => h) (fun _ _ h => h)
    fun _ _ h => hfailed h)
  intro servers
  apply triple_of_and
  intro hlists
  apply Triple.bind fun filtered w =>
    Api.filteredServers filters servers [] = .ok filtered ∧ Stores api.home a w
  · exact triple_ofExcept (fun _ _ h hw => ⟨h, hw⟩) fun _ _ _ hw => hfailed hw
  intro filtered
  apply triple_of_and
  intro hfiltered
  apply Triple.bind fun output w =>
    filtered.mapM api.renderMember = .ok output ∧ Stores api.home a w
  · exact triple_ofExcept (fun _ _ h hw => ⟨h, hw⟩) fun _ _ _ hw => hfailed hw
  intro output
  apply triple_of_and
  intro houtput
  refine triple_ret fun w hw => ⟨a, hw, .listed ⟨output, rfl, ?_⟩⟩
  rw [names_rendered houtput]
  obtain ⟨hsub, hall⟩ := names_filteredServers hfiltered
  refine ⟨?_, ?_⟩
  · intro name hname
    exact (hlists name).mp ((hsub name hname).resolve_left (by simp))
  · intro hnil name howns
    exact hall hnil name (.inr ((hlists name).mpr howns))

end Lists

/-! ### Launches -/

section Launches

variable {env : Env} {api : Api} {a : SessionStore} {request : LaunchRequest}

/-- What a launch has made when it comes to the creation. -/
structure Started (request : LaunchRequest) (server : UserServer) (manifest : Json) : Prop where
  user : server.user = request.user
  serverName : server.serverName = request.serverName
  manifestName : NamespacedK8sClient.manifestName manifest = request.serverName.text
  stored : ∀ ns uid, storedAs (storedServer ns uid manifest) =
    ⟨some request.user.safeUsername, false⟩

theorem hibernated_of_startManifest {config : Config} {py : PyText.Str}
    {server : UserServer} {branchFound commitFound : Bool} {manifest : Json}
    (h : server.startManifest config py branchFound commitFound = .ok manifest)
    (ns uid : String) : currentlyHibernated (storedServer ns uid manifest) = false := by
  unfold UserServer.startManifest at h
  dsimp only at h
  split at h
  · obtain ⟨patches, -, h⟩ := Results.bind_eq_ok_iff.mp h
    obtain ⟨-, -, h⟩ := Results.bind_eq_ok_iff.mp h
    cases h
    rfl
  · cases h

theorem lookUpAgain_finds (henv : env.Honest api.home)
    (hnot : ¬ a.Owns request.user.safeUsername request.serverName.text) :
    Triple (serve env) (Stores api.home a) (api.lookUpAgain request)
      (fun found w => (∃ server manifest, found = .missing server manifest ∧
        Started request server manifest) ∧ Stores api.home a w) (fun _ => Stores api.home a) := by
  apply Triple.bind fun server w => request.prepare = .ok server ∧ Stores api.home a w
  · exact triple_ofExcept (fun _ _ h hw => ⟨h, hw⟩) fun _ _ _ hw => hw
  intro server
  apply triple_of_and
  intro hserver
  have huser := request.prepare_user server hserver
  have hname := request.prepare_serverName server hserver
  apply Triple.bind fun _ => Stores api.home a
  · exact triple_ofExcept (fun _ _ _ hw => hw) fun _ _ _ hw => hw
  intro _
  apply Triple.bind fun manifest w => server.startManifest api.config api.py
    request.branchFound request.commitFound = .ok manifest ∧ Stores api.home a w
  · exact triple_ofExcept (fun _ _ h hw => ⟨h, hw⟩) fun _ _ _ hw => hw
  intro manifest
  apply triple_of_and
  intro hmanifest
  have hmanifestName : NamespacedK8sClient.manifestName manifest = request.serverName.text := by
    rw [manifestName_of_startManifest hmanifest, hname]
  have hstarted : Started request server manifest := by
    refine ⟨huser, hname, hmanifestName, fun ns uid => ?_⟩
    have howner := ownerOf_eq_some_iff.mpr (hasLabel_of_startManifest hmanifest ns uid)
    unfold storedAs
    rw [howner, hibernated_of_startManifest hmanifest, huser]
  unfold Api.lookUpFor
  rw [hmanifestName, huser]
  apply Triple.bind _ ((getServer_shows henv rfl a).weaken (fun _ h => h) (fun _ _ h => h)
    fun _ _ h => h.2)
  rintro (_ | existing)
  · exact triple_ret fun w hw => ⟨⟨server, manifest, rfl, hstarted⟩, hw.2⟩
  · apply triple_of_and
    rintro ⟨-, hfound, howner⟩
    exact absurd ⟨_, hfound, howner⟩ hnot

theorem beforeCreation_finds (henv : env.Honest api.home) :
    Triple (serve env) (Stores api.home a) (api.beforeCreation request)
      (fun found w => ((∃ existing, found = .early existing ∧
          a.Owns request.user.safeUsername request.serverName.text) ∨
        ∃ server manifest, found = .missing server manifest ∧ Started request server manifest) ∧
          Stores api.home a w) (fun _ => Stores api.home a) := by
  apply Triple.bind _ ((getServer_shows henv rfl a).weaken (fun _ h => h) (fun _ _ h => h)
    fun _ _ h => h.2)
  rintro (_ | existing)
  · apply triple_of_and
    intro hnot
    exact (lookUpAgain_finds henv hnot).weaken (fun _ h => h) (fun _ _ h => ⟨.inr h.1, h.2⟩)
      fun _ _ h => h
  · apply triple_of_and
    rintro ⟨htruthy, hfound, howner⟩
    dsimp only
    rw [if_pos htruthy]
    exact triple_ret fun w hw => ⟨.inl ⟨existing, rfl, ⟨_, hfound, howner⟩⟩, hw⟩

/-- A creation puts the session of its user where there has been none. -/
theorem createServer_stores {name : String} {manifest : Json} {x : StoredSession}
    (hname : NamespacedK8sClient.manifestName manifest = name)
    (hx : ∀ ns uid, storedAs (storedServer ns uid manifest) = x) :
    Triple (serve env) (Stores api.home a) (NamespacedK8sClient.createServer api.home manifest)
      (fun _ w => a name = none ∧ Stores api.home (a.put name x) w)
      (fun _ w => Stores api.home a w ∨
        (a name = none ∧ Stores api.home (a.put name x) w)) := by
  unfold NamespacedK8sClient.createServer
  rw [hname]
  apply Triple.bind fun reply w => (∀ fault, reply = .error fault → Stores api.home a w) ∧
    (reply = .ok () → a name = none ∧ Stores api.home (a.put name x) w)
  · apply triple_perform
    intro w hw
    obtain ⟨fault, hreply, hcluster⟩ | ⟨hok, habsent, -⟩ :=
      serve_createServer env w api.home name manifest
    · refine ⟨fun _ _ => ⟨hcluster ▸ hw.store, hcluster ▸ hw.atHome⟩, ?_⟩
      rw [hreply]
      exact nofun
    · rw [hok]
      refine ⟨nofun, fun _ => ?_⟩
      have hat : ∀ n, a n = (w.cluster.get api.home n).map fun x => storedAs x.server :=
        fun n => (congrFun hw.store n).symm
      refine ⟨by rw [hat, habsent]; rfl, ?_, ?_⟩
      · funext n
        obtain ⟨uid, hcreated⟩ := serve_createServer_ok hok
        unfold storeOf SessionStore.put
        by_cases hn : n = name
        · subst hn
          rw [Function.update_self, hcreated]
          exact congrArg some (hx _ uid)
        · have hobject : (Call.createServer api.home name manifest).object? ≠
              some (api.home, n) := by
            rintro ⟨⟩
            exact hn rfl
          rw [Function.update_of_ne hn, serve_of_not_addressed hobject, hat]
      · intro ns n hns
        have hregular : (Call.createServer api.home name manifest).Regular api.home := rfl
        exact serve_elsewhere hregular hns (hw.atHome ns n hns)
  · rintro ((status | _) | _)
    · exact triple_raise fun w hw => .inl (hw.1 _ rfl)
    · exact triple_raise fun w hw => .inl (hw.1 _ rfl)
    · have hwait : (NamespacedK8sClient.retryGetServer api.home name 10).Calls
          Call.SparesServers := (calls_retryGetServer 10).mono fun _ hc => hc.spares
      have hkept : Triple (serve env) (fun w => a name = none ∧ Stores api.home (a.put name x) w)
          _ (fun _ w => a name = none ∧ Stores api.home (a.put name x) w)
          (fun _ w => a name = none ∧ Stores api.home (a.put name x) w) :=
        hwait.triple fun _ _ hc hw => ⟨hw.1, hw.2.spares hc⟩
      exact hkept.weaken (fun w hw => hw.2 rfl) (fun _ _ h => h) fun _ _ h => .inr h

theorem onSecretError_stores {name u errorMsg : String} :
    Triple (serve env) (Stores api.home a) (api.onSecretError name u errorMsg)
      (fun _ _ => False)
      (fun _ w => Stores api.home a w ∨ Stores api.home (a.erase name) w) := by
  apply Triple.bind fun _ => Stores api.home (a.erase name)
  · apply Triple.bind _ ((Calls.stores calls_ownNamespace_spares a).weaken (fun _ h => h)
      (fun _ _ h => h) fun _ _ h => .inl h)
    intro ns
    exact deleteServer_stores.weaken (fun _ h => h) (fun _ _ h => h) fun _ _ h => .inl h.2
  · exact fun _ => triple_raise fun w hw => .inr hw

/-- A failure of a secret leaves the session, or deletes it. -/
theorem createSecrets_stores {name u : String} (secrets : List SecretRequest) :
    Triple (serve env) (Stores api.home a) (api.createSecrets name u secrets)
      (fun _ => Stores api.home a)
      (fun _ w => Stores api.home a w ∨ Stores api.home (a.erase name) w) := by
  induction secrets with
  | nil => exact triple_ret fun w hw => hw
  | cons secret secrets ih =>
    apply Triple.bind fun _ => Stores api.home a
    · exact triple_perform fun w hw => hw.spares trivial
    intro reply
    apply Triple.bind fun _ => Stores api.home a
    · cases reply with
      | connectionError text =>
        exact onSecretError_stores.weaken (fun _ h => h) (fun _ _ h => h.elim) fun _ _ h => h
      | otherError => exact triple_raise fun w hw => .inl hw
      | response status body =>
        unfold Api.secretReplied
        dsimp only
        split
        · exact triple_ret fun w hw => hw
        · cases body with
          | none => exact triple_raise fun w hw => .inl hw
          | some body =>
            exact onSecretError_stores.weaken (fun _ h => h) (fun _ _ h => h.elim) fun _ _ h => h
    · exact fun _ => ih

theorem finishLaunch_stores (server : UserServer) (manifest : Json) :
    Triple (serve env) (Stores api.home a) (api.finishLaunch server manifest)
      (fun response w => response.status = 201 ∧ Stores api.home a w)
      (fun _ w => Stores api.home a w ∨ Stores api.home (a.erase server.serverName.text) w) := by
  apply Triple.bind fun _ => Stores api.home a
  · exact triple_ofExcept (fun _ _ _ hw => hw) fun _ _ _ hw => .inl hw
  intro uid
  apply Triple.bind _ (createSecrets_stores _)
  intro _
  apply Triple.bind fun _ => Stores api.home a
  · exact triple_ofExcept (fun _ _ _ hw => hw) fun _ _ _ hw => .inl hw
  · exact fun body => triple_ret fun w hw => ⟨rfl, hw⟩

theorem launch_steps (henv : env.Honest api.home) (hrender : api.RendersPlainly) :
    Triple (serve env) (Stores api.home a) (api.launchNotebookHelper request)
      (fun response => StepsTo api.home a (.launch request) (.ok response))
      (fun e => StepsTo api.home a (.launch request) (.error e)) := by
  have hfailed : ∀ {e w}, Stores api.home a w →
      StepsTo api.home a (.launch request) (.error e) w :=
    fun hw => stepsTo_unchanged hw fun _ _ h => nomatch h
  rw [api.launchNotebookHelper_eq]
  apply Triple.bind _ ((beforeCreation_finds henv).weaken (fun _ h => h) (fun _ _ h => h)
    fun _ _ h => hfailed h)
  intro found
  apply triple_of_and
  rintro (⟨existing, rfl, howns⟩ | ⟨server, manifest, rfl, hstarted⟩)
  · apply (rendered_stores hrender existing).weaken (fun _ h => h)
    · rintro ⟨body, status⟩ w ⟨hstatus, hw⟩
      obtain rfl : status = 200 := hstatus
      exact ⟨a, hw, .existing howns⟩
    · exact fun _ _ h => hfailed h.2
  · have hlaunched : ∀ {outcome w}, (∀ response, outcome = .ok response → response.status = 201) →
        a request.serverName.text = none →
        Stores api.home (a.put request.serverName.text ⟨some request.user.safeUsername, false⟩) w →
        StepsTo api.home a (.launch request) outcome w :=
      fun hstatus habsent hw => ⟨_, hw, .launched habsent hstatus⟩
    apply Triple.bind _ ((createServer_stores hstarted.manifestName hstarted.stored).weaken
      (fun _ h => h) (fun _ _ h => h) ?_)
    · intro created
      apply triple_of_and
      intro habsent
      apply (finishLaunch_stores server created).weaken (fun _ h => h)
      · rintro response w ⟨hstatus, hw⟩
        exact hlaunched (fun _ he => Except.ok.inj he ▸ hstatus) habsent hw
      · rintro e w (hw | hw)
        · exact hlaunched nofun habsent hw
        · rw [hstarted.serverName, SessionStore.erase_put habsent] at hw
          exact hfailed hw
    · rintro e w (hw | ⟨habsent, hw⟩)
      · exact hfailed hw
      · exact hlaunched nofun habsent hw

end Launches

/-! ### All runs -/

section Runs

variable {env : Env} {api : Api} {a : SessionStore}

theorem program_steps (henv : env.Honest api.home) (hrender : api.RendersPlainly)
    (request : SessionRequest) :
    Triple (serve env) (Stores api.home a) (request.program api)
      (fun response => StepsTo api.home a request (.ok response))
      (fun e => StepsTo api.home a request (.error e)) := by
  cases request with
  | launch request => exact launch_steps henv hrender
  | handled user request =>
    cases request with
    | userServers filters => exact userServers_steps henv user filters
    | userServer serverName => exact userServer_steps henv hrender user
    | serverLogs serverName maxLines => exact serverLogs_steps henv user maxLines
    | patchServer serverName body => exact patchServer_steps henv hrender user body
    | stopServer serverName forced => exact stopServer_steps henv user forced

theorem refinesStore_of_atHome {v : Watcher} {m : Env × SessionRequest} {w : World}
    (hrender : api.RendersPlainly) (hm : Faithful v api m) (hw : AtHome api.home w.cluster) :
    RefinesStore v api m w ∧ AtHome api.home (requestNext v api m w).cluster := by
  have hout := program_steps hm.honest hrender m.2 w ⟨rfl, hw⟩
  unfold RefinesStore requestNext
  rw [run_eq_of_routed (calls_program_routed hm.routed)]
  rcases hrun : run (serve (v.plain m.1)) (m.2.program api) w with ⟨e | response, w'⟩ <;>
    rw [hrun] at hout
  · obtain ⟨a', hstores, hstep⟩ := hout
    rw [hstores.store]
    exact ⟨hstep, hstores.atHome⟩
  · obtain ⟨a', hstores, hstep⟩ := hout
    rw [hstores.store]
    exact ⟨hstep, hstores.atHome⟩

end Runs

theorem calmEnv_honest : (sampleWatcher.plain calmEnv).Honest (sampleApi none).home where
  current := rfl
  watches := by decide
  found := nofun
  listed := nofun

def janesRequests : List SessionRequest :=
  [.launch (sampleLaunch none), .handled (.registered sampleUser) (.userServer "jane-1"),
    .handled (.registered sampleUser) (.stopServer "jane-1" false)]

end RenkuNotebooks.Notebooks
