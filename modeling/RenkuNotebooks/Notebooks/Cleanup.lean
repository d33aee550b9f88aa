import RenkuNotebooks.Notebooks.EnvironmentOverrides
import RenkuNotebooks.Notebooks.Isolation
import RenkuNotebooks.Notebooks.Launch

/-!
# Failed launches

A launch that fails after it has created the server should leave no session behind. Some of the
failures are not followed by a deletion: the wait for the server, a request to the secret storage
that fails otherwise than with a connection error, an error without a JSON body, and a response
that cannot be made.
-/

namespace RenkuNotebooks.Notebooks

open Prog

section Cleanup

variable (env : Env) (api : Api) (request : LaunchRequest)

def LaunchRequest.name (request : LaunchRequest) : String := request.serverName.text

/-- The session that a launch creates. -/
def Api.launched (api : Api) (name : String) (c : Cluster) : Option Session :=
  c.get api.client.preferredNamespace name

/-- If the program ends with an error, there is no session of the name. -/
def EndsClean {α : Type} (name : String) (p : Service α) (w : World) : Prop :=
  ∀ e, (execute env p w).1 = .error e → api.launched name (execute env p w).2.cluster = none

/-- A launch that fails leaves no session that it has created. -/
def LeavesNothing (w : World) : Prop :=
  api.launched request.name w.cluster = none →
    EndsClean env api request.name (api.launchNotebookHelper request) w

/-- The launch comes to the creation in `w₁` and creates the server there. -/
structure CreatesAt (w w₁ : World) (server : UserServer) (manifest : Json) : Prop where
  absent : api.launched request.name w.cluster = none
  reaches : execute env (api.beforeCreation request) w = (.ok (.missing server manifest), w₁)
  accepted : env.faults w₁.log.length
    (.createServer api.client.preferredNamespace request.name manifest) = none
  identified : Identified api.client.preferredNamespace request.name
    (storedServer api.client.preferredNamespace (toString w₁.log.length) manifest)

/-- Cleaning up after the launch deletes its session. -/
def DeletionSucceeds (c : Cluster) : Prop :=
  ∀ log, (execute env (api.client.deleteServer request.name request.user.safeUsername true)
      ⟨c, log⟩).1 = .ok () ∧
    api.launched request.name (execute env (api.client.deleteServer request.name
      request.user.safeUsername true) ⟨c, log⟩).2.cluster = none

/-- The position after the look-up that finds the created server, if one of `tries` does. -/
def readBack (ns name : String) : Nat → Nat → Option Nat
  | 0, _ => none
  | tries + 1, n =>
    match env.faults n (.getServer ns name) with
    | none => some (n + 1)
    | some (.status status) =>
      if status = 400 ∨ status = 404 then readBack ns name tries (n + 1) else none
    | some .unreachable => none

def Env.secretReply (n : Nat) (payload : Json) : SecretReply :=
  match env.faults n (.postSecret payload) with
  | some fault => (Call.postSecret payload).failed fault
  | none => env.secretStorage n payload

/-- The first secret that is not created fails with a connection error or with a JSON body; if
there is none, `created` holds. -/
def SecretsHandled (created : Prop) : List SecretRequest → Nat → Prop
  | [], _ => created
  | secret :: secrets, n =>
    match env.secretReply n secret.payload with
    | .connectionError _ => True
    | .otherError => False
    | .response status body =>
      if status = 201 then SecretsHandled created secrets (n + 1) else body.isSome

/-- What has to go well, or to fail in a way that is cleaned up after, once the `n`-th call has
created the server. -/
def FailuresHandled (server : UserServer) (manifest : Json) (n : Nat) : Prop :=
  ∃ n', readBack env api.client.preferredNamespace request.name 10 (n + 1) = some n' ∧
    SecretsHandled env
      (∃ body, api.render
        (storedServer api.client.preferredNamespace (toString n) manifest) = .ok body)
      (server.secretRequests (ownerReference request.name (.str (toString n)))) n'

end Cleanup

section Tail

variable {env : Env} {api : Api} {request : LaunchRequest} {c : Cluster}

theorem manifestUid_storedServer (ns uid : String) (manifest : Json) :
    manifestUid (storedServer ns uid manifest) = .ok (.str uid) := by
  simp [manifestUid, storedServer, Json.get?]

theorem serve_postSecret (payload : Json) (w : World) :
    serve env (.postSecret payload) w =
      (env.secretReply w.log.length payload, ⟨w.cluster, w.log ++ [.postSecret payload]⟩) := by
  unfold serve Env.secretReply
  cases env.faults w.log.length (.postSecret payload) <;> rfl

/-- A look-up of a server that is there. -/
theorem run_getServer {ns name : String} {x : Session} (hget : c.get ns name = some x)
    (log : List Call) :
    run (serve env) (NamespacedK8sClient.getServer ns name) ⟨c, log⟩ =
      (match env.faults log.length (.getServer ns name) with
        | none => .ok (some x.server)
        | some (.status status) =>
          if status = 400 ∨ status = 404 then .ok none
          else .error (.generic (intermittentError
            ("Cannot get server " ++ name ++ " from the k8s API.")))
        | some .unreachable => .error .requestException,
      ⟨c, log ++ [.getServer ns name]⟩) := by
  have hserve : serve env (.getServer ns name) ⟨c, log⟩ =
      (match env.faults log.length (.getServer ns name) with
        | none => .ok x.server
        | some fault => .error fault,
      ⟨c, log ++ [.getServer ns name]⟩) := by
    unfold serve
    cases env.faults log.length (.getServer ns name) with
    | some fault => rfl
    | none => simp [answer, hget, found]
  unfold NamespacedK8sClient.getServer
  rw [bind_eq, run_bind, run_perform, hserve]
  rcases env.faults log.length (.getServer ns name) with _ | (status | _)
  · rfl
  · dsimp only [exceptApi]
    split <;> rfl
  · rfl

/-- The wait for a server that is there ends with it, or with an error; the cluster stays. -/
theorem run_retryGetServer {ns name : String} {x : Session} (hget : c.get ns name = some x)
    (tries : Nat) (log : List Call) :
    (∃ log', readBack env ns name tries log.length = some log'.length ∧
      run (serve env) (NamespacedK8sClient.retryGetServer ns name tries) ⟨c, log⟩ =
        (.ok x.server, ⟨c, log'⟩)) ∨
    (∃ e log', readBack env ns name tries log.length = none ∧
      run (serve env) (NamespacedK8sClient.retryGetServer ns name tries) ⟨c, log⟩ =
        (.error e, ⟨c, log'⟩)) := by
  induction tries generalizing log with
  | zero => exact .inr ⟨_, log, rfl, rfl⟩
  | succ tries ih =>
    have hlength : (log ++ [Call.getServer ns name]).length = log.length + 1 := by simp
    have hrest := ih (log ++ [.getServer ns name])
    unfold NamespacedK8sClient.retryGetServer readBack
    rw [bind_eq, run_bind, run_getServer hget, ← hlength]
    rcases env.faults log.length (.getServer ns name) with _ | (status | _)
    · exact .inl ⟨_, rfl, rfl⟩
    · dsimp only
      split
      · exact hrest
      · exact .inr ⟨_, _, rfl, rfl⟩
    · exact .inr ⟨_, _, rfl, rfl⟩

theorem onSecretError_endsClean (hdelete : DeletionSucceeds env api request c) (log : List Call)
    (errorMsg : String) (rest : Unit → Service Response) :
    EndsClean env api request.name
      ((api.onSecretError request.name request.user.safeUsername errorMsg).bind rest) ⟨c, log⟩ := by
  obtain ⟨hok, hgone⟩ := hdelete log
  intro e _
  unfold execute at hok hgone ⊢
  unfold Api.onSecretError
  rw [bind_eq, Prog.bind_assoc, run_bind]
  rcases hrun : run (serve env) (api.client.deleteServer request.name request.user.safeUsername true)
      ⟨c, log⟩ with ⟨e' | _, w⟩
  · rw [hrun] at hok
    cases hok
  · rw [hrun] at hgone
    exact hgone

/-- From the first secret on, the launch ends clean exactly if its failures are handled. -/
theorem createSecrets_endsClean_iff (hdelete : DeletionSucceeds env api request c)
    (hpresent : api.launched request.name c ≠ none) {rest : Service Response}
    (hrest : rest.Calls fun _ => False) (secrets : List SecretRequest) (log : List Call) :
    EndsClean env api request.name
        ((api.createSecrets request.name request.user.safeUsername secrets).bind fun _ => rest)
        ⟨c, log⟩ ↔
      SecretsHandled env (∃ a, rest = .ret a) secrets log.length := by
  induction secrets generalizing log with
  | nil =>
    cases rest with
    | ret a => exact ⟨fun _ => ⟨a, rfl⟩, fun _ e he => by cases he⟩
    | raise e =>
      constructor
      · intro h
        exact absurd (h e rfl) hpresent
      · rintro ⟨a, ha⟩
        cases ha
    | call call k => exact hrest.1.elim
  | cons secret secrets ih =>
    have hrun : execute env ((api.createSecrets request.name request.user.safeUsername
          (secret :: secrets)).bind fun _ => rest) ⟨c, log⟩ =
        execute env ((api.secretReplied request.name request.user.safeUsername secret
          (env.secretReply log.length secret.payload)).bind fun _ =>
            (api.createSecrets request.name request.user.safeUsername secrets).bind fun _ => rest)
          ⟨c, log ++ [.postSecret secret.payload]⟩ := by
      unfold execute
      rw [Api.createSecrets]
      simp only [bind_eq, Prog.bind_assoc]
      rw [run_bind, run_perform, serve_postSecret]
    have hlength : (log ++ [Call.postSecret secret.payload]).length = log.length + 1 := by simp
    unfold EndsClean SecretsHandled
    rw [hrun, ← hlength]
    cases env.secretReply log.length secret.payload with
    | connectionError text =>
      exact iff_of_true (onSecretError_endsClean hdelete _ _ _) trivial
    | otherError => exact iff_of_false (fun h => hpresent (h _ rfl)) id
    | response status body =>
      unfold Api.secretReplied
      dsimp only
      split
      · exact ih (log ++ [.postSecret secret.payload])
      · cases body with
        | none => exact iff_of_false (fun h => hpresent (h _ rfl)) (by simp)
        | some body => exact iff_of_true (onSecretError_endsClean hdelete _ _ _) rfl

/-- The rest of a launch that has created the server. -/
theorem created_endsClean_iff (hdelete : DeletionSucceeds env api request c) {server : UserServer}
    (huser : server.user = request.user) (hname : server.serverName = request.serverName)
    {manifest : Json} {n : Nat} {x : Session} (hget : api.launched request.name c = some x)
    (hserver : x.server = storedServer api.client.preferredNamespace (toString n) manifest)
    (log : List Call) (hlog : log.length = n + 1) :
    EndsClean env api request.name
        ((NamespacedK8sClient.retryGetServer api.client.preferredNamespace request.name 10).bind
          (api.finishLaunch server)) ⟨c, log⟩ ↔
      FailuresHandled env api request server manifest n := by
  have hpresent : api.launched request.name c ≠ none := by
    rw [hget]
    exact Option.some_ne_none x
  unfold EndsClean execute FailuresHandled
  rw [run_bind, ← hlog]
  obtain ⟨log', hfound, hrun⟩ | ⟨e, log', hfound, hrun⟩ := run_retryGetServer hget 10 log
  · rw [hrun, hfound]
    have hfinish : api.finishLaunch server x.server =
        (api.createSecrets request.name request.user.safeUsername
          (server.secretRequests (ownerReference request.name (.str (toString n))))).bind fun _ =>
            (ofExcept (api.render x.server)).bind fun body => .ret { body, status := 201 } := by
      unfold Api.finishLaunch
      rw [hserver, manifestUid_storedServer, huser, hname]
      rfl
    have hcalls : ((ofExcept (api.render x.server)).bind fun body =>
        .ret { body, status := 201 } : Service Response).Calls fun _ => False :=
      Calls.bind (calls_ofExcept _) fun _ => trivial
    have hsecrets := createSecrets_endsClean_iff hdelete hpresent hcalls
      (server.secretRequests (ownerReference request.name (.str (toString n)))) log'
    rw [hserver] at hfinish hsecrets
    have hrendered : (∃ a, ((ofExcept (api.render
          (storedServer api.client.preferredNamespace (toString n) manifest))).bind fun body =>
            .ret { body, status := 201 } : Service Response) = .ret a) ↔
        ∃ body, api.render
          (storedServer api.client.preferredNamespace (toString n) manifest) = .ok body := by
      cases api.render (storedServer api.client.preferredNamespace (toString n) manifest) with
      | ok body => exact iff_of_true ⟨_, rfl⟩ ⟨body, rfl⟩
      | error e => exact iff_of_false (by rintro ⟨a, ha⟩; cases ha) (by rintro ⟨body, hb⟩; cases hb)
    simp only [Option.some.injEq, exists_eq_left', hserver, hfinish]
    rw [propext hrendered] at hsecrets
    exact hsecrets
  · rw [hrun, hfound]
    simp only [reduceCtorEq, false_and, exists_false, iff_false]
    exact fun h => hpresent (h e rfl)

end Tail

/-! ### Launches that create nothing -/

section Absent

variable {env : Env} {api : Api} {request : LaunchRequest} {ns name : String}

theorem Cluster.get_update_of_none {α : Type} {c : Cluster} (h : c.get ns name = none)
    (ns' name' : String) (f : Session → Except Fault (α × Session)) :
    (c.update ns' name' f).2.get ns name = none := by
  by_cases hplace : (ns, name) = (ns', name')
  · obtain ⟨rfl, rfl⟩ := Prod.mk.inj hplace
    rw [update, h]
    exact h
  · rw [Cluster.get_update_of_ne _ _ hplace, h]

theorem Cluster.get_createServer_of_ne (c : Cluster) {ns' name' : String} (uid : String)
    (manifest : Json) (hne : (ns, name) ≠ (ns', name')) :
    (c.createServer uid ns' name' manifest).2.get ns name = c.get ns name := by
  unfold createServer
  split
  · rfl
  · dsimp only
    split
    · next hid => exact Cluster.get_set_of_ne c (.created _) hid hne
    · rfl

/-- Only a creation puts a session where there was none. -/
theorem serve_keeps_absent {call : Call} (hcall : ∀ manifest, call ≠ .createServer ns name manifest)
    {w : World} (h : w.cluster.get ns name = none) :
    (serve env call w).2.cluster.get ns name = none := by
  unfold serve
  split
  · exact h
  · cases call with
    | createServer ns' name' manifest =>
      have hplace : (ns, name) ≠ (ns', name') := by
        intro he
        obtain ⟨rfl, rfl⟩ := Prod.mk.inj he
        exact hcall manifest rfl
      dsimp only [answer]
      rw [Cluster.get_createServer_of_ne _ _ _ hplace, h]
    | deleteServer ns' name' forced =>
      dsimp only [answer]
      by_cases hplace : (ns, name) = (ns', name')
      · obtain ⟨rfl, rfl⟩ := Prod.mk.inj hplace
        rw [Cluster.deleteServer, h]
        exact h
      · rw [Cluster.get_deleteServer_of_ne _ hplace, h]
    | patchServer ns' name' patch => exact Cluster.get_update_of_none h ns' name' _
    | patchStatefulset ns' name' ops => exact Cluster.get_update_of_none h ns' name' _
    | patchImageSecret ns' name' ops => exact Cluster.get_update_of_none h ns' name' _
    | _ => exact h

theorem endsClean_of_calls {α : Type} {p : Service α}
    (hp : p.Calls fun call => call.creates = false) {w : World}
    (h : api.launched name w.cluster = none) : EndsClean env api name p w := by
  intro e _
  have habsent : Triple (serve env) (fun w => api.launched name w.cluster = none) p
      (fun _ w => api.launched name w.cluster = none)
      (fun _ w => api.launched name w.cluster = none) := by
    apply hp.triple
    rintro call w hcall hw
    apply serve_keeps_absent _ hw
    rintro manifest rfl
    cases hcall
  exact habsent.state h

theorem Call.LooksUp.not_creates {call : Call} (h : call.LooksUp name) : call.creates = false := by
  cases call <;> first | rfl | exact h.elim

end Absent

/-! ### All launches -/

section Launch

variable {env : Env} {api : Api} {request : LaunchRequest} {w w₁ : World} {server : UserServer}
  {manifest : Json}

/-- The creation by a launch that has found no server. -/
theorem missing_endsClean_iff
    (hreaches : execute env (api.beforeCreation request) w = (.ok (.missing server manifest), w₁))
    (habsent : api.launched request.name w.cluster = none)
    (hdelete : CreatesAt env api request w w₁ server manifest → DeletionSucceeds env api request
      (w.cluster.createServer (toString w₁.log.length) api.client.preferredNamespace request.name
        manifest).2) :
    EndsClean env api request.name (api.fromCreation (.missing server manifest)) w₁ ↔
      (CreatesAt env api request w w₁ server manifest →
        FailuresHandled env api request server manifest w₁.log.length) := by
  obtain ⟨hcluster, huser, hserverName, hname, -⟩ := beforeCreation_found hreaches
  have habsent₁ : w₁.cluster.get api.client.preferredNamespace request.name = none := by
    rw [hcluster]
    exact habsent
  have hrun : execute env (api.fromCreation (.missing server manifest)) w₁ =
      execute env ((exceptApi
          (serve env (.createServer api.client.preferredNamespace request.name manifest) w₁).1
          (fun _ => NamespacedK8sClient.retryGetServer api.client.preferredNamespace request.name 10)
          fun _ => .raise (.generic (cannotStartServerError
            ("Cannot start the session " ++ request.name)))).bind (api.finishLaunch server))
        (serve env (.createServer api.client.preferredNamespace request.name manifest) w₁).2 := by
    have hcreation : api.fromCreation (.missing server manifest) =
        (NamespacedK8sClient.createServer api.client.preferredNamespace manifest).bind
          (api.finishLaunch server) := rfl
    have hname' : NamespacedK8sClient.manifestName manifest = request.name := hname
    rw [hcreation, NamespacedK8sClient.createServer, hname']
    rfl
  unfold EndsClean
  rw [hrun]
  cases hfault : env.faults w₁.log.length
      (.createServer api.client.preferredNamespace request.name manifest) with
  | some fault =>
    apply iff_of_true
    · intro e _
      unfold serve
      rw [hfault]
      cases fault <;> exact habsent₁
    · intro hcreates
      rw [hcreates.accepted] at hfault
      cases hfault
  | none =>
    by_cases hid : Identified api.client.preferredNamespace request.name
        (storedServer api.client.preferredNamespace (toString w₁.log.length) manifest)
    · have hcreates : CreatesAt env api request w w₁ server manifest :=
        ⟨habsent, hreaches, hfault, hid⟩
      have hcreate := Cluster.createServer_of_none habsent hid
      have hserve : serve env (.createServer api.client.preferredNamespace request.name manifest)
          w₁ = (.ok (), ⟨w.cluster.set _ _ (.created (storedServer _ _ manifest)) hid,
            w₁.log ++ [.createServer api.client.preferredNamespace request.name manifest]⟩) := by
        unfold serve
        rw [hfault]
        dsimp only [answer]
        rw [hcluster, hcreate]
      rw [hserve]
      have hdeletes := hdelete hcreates
      rw [hcreate] at hdeletes
      have htail := created_endsClean_iff hdeletes huser hserverName
        (Cluster.get_set _ _ _ _ hid) rfl
        (w₁.log ++ [.createServer api.client.preferredNamespace request.name manifest]) (by simp)
      exact htail.trans ⟨fun h _ => h, fun h => h hcreates⟩
    · apply iff_of_true
      · intro e _
        unfold serve
        rw [hfault]
        simp only [answer, Cluster.createServer, habsent₁, hid, dite_false]
        exact habsent₁
      · exact fun hcreates => absurd hcreates.identified hid

/-- A launch leaves nothing behind exactly if, when it creates the server, it sees the server
within its tries and every failure of its secrets is handled. -/
theorem launch_leavesNothing_iff
    (hdelete : ∀ w₁ server manifest, CreatesAt env api request w w₁ server manifest →
      DeletionSucceeds env api request (w.cluster.createServer (toString w₁.log.length)
        api.client.preferredNamespace request.name manifest).2) :
    LeavesNothing env api request w ↔
      ∀ w₁ server manifest, CreatesAt env api request w w₁ server manifest →
        FailuresHandled env api request server manifest w₁.log.length := by
  by_cases habsent : api.launched request.name w.cluster = none
  · rcases hreaches : execute env (api.beforeCreation request) w with ⟨e | found, w₁⟩
    · apply iff_of_true
      · intro _ e' _
        have hlaunch : execute env ((api.beforeCreation request).bind api.fromCreation) w =
            (.error e, w₁) := run_bind_error _ hreaches
        rw [api.launchNotebookHelper_eq, hlaunch, beforeCreation_raised hreaches, habsent]
      · intro w₁ server manifest hcreates
        rw [hcreates.reaches] at hreaches
        cases hreaches
    · obtain ⟨hcluster, hfound⟩ := beforeCreation_found hreaches
      have habsent₁ : api.launched request.name w₁.cluster = none := by rw [hcluster, habsent]
      have hends : LeavesNothing env api request w ↔
          EndsClean env api request.name (api.fromCreation found) w₁ := by
        have hlaunch : execute env ((api.beforeCreation request).bind api.fromCreation) w =
            execute env (api.fromCreation found) w₁ := run_bind_ok _ hreaches
        unfold LeavesNothing EndsClean
        rw [api.launchNotebookHelper_eq, hlaunch]
        exact ⟨fun h => h habsent, fun h _ => h⟩
      rw [hends]
      cases found with
      | early existing =>
        apply iff_of_true
        · apply endsClean_of_calls _ habsent₁
          exact Calls.bind (calls_ofExcept _) fun body => trivial
        · intro w₂ server manifest hcreates
          rw [hcreates.reaches] at hreaches
          cases hreaches
      | late server existing =>
        apply iff_of_true
        · apply endsClean_of_calls _ habsent₁
          exact calls_finishLaunch (fun c h => h.not_creates) (fun _ => rfl) fun _ => rfl
        · intro w₂ server manifest hcreates
          rw [hcreates.reaches] at hreaches
          cases hreaches
      | missing server manifest =>
        rw [missing_endsClean_iff hreaches habsent (hdelete w₁ server manifest)]
        constructor
        · intro h w₂ server' manifest' hcreates
          have hsame := hcreates.reaches
          rw [hreaches] at hsame
          cases hsame
          exact h hcreates
        · exact fun h hcreates => h w₁ server manifest hcreates
  · exact iff_of_true (fun h => absurd h habsent) fun _ _ _ h => absurd h.absent habsent

end Launch

/-! ### A launch with a user secret -/

def sampleSecrets : K8sUserSecrets where
  name := "jane-1-secret"
  userSecretIds := ["01HZY"]
  mountPath := "/secrets"

def launchedServer (userSecrets : Option K8sUserSecrets) : UserServer where
  user := .registered sampleUser
  serverName := { text := "jane-1", wellFormed := PyText.forall_of_all (by decide) }
  image := some "renku/singleuser:latest"
  serverOptions := {
    cpu := 1, memory := 1000000000, gpu := 0, storage := 1000000000, defaultUrl := "/lab",
    lfsAutoFetch := false, priorityClass := none, nodeAffinities := [], tolerations := [],
    resourceClassId := none, idleThresholdSeconds := none, hibernationThresholdSeconds := none }
  environmentVariables := []
  userSecrets
  cloudstorage := []
  preferredNamespace := "renku"
  workspaceMountPath := .ofString "/work"
  workDir := .ofString "/work"
  isImagePrivate := false
  givenRepositories := []
  gitProviders := []
  kind := .renku2 "project" "launcher"

def sampleLaunch (userSecrets : Option K8sUserSecrets) : LaunchRequest where
  user := .registered sampleUser
  serverName := { text := "jane-1", wellFormed := PyText.forall_of_all (by decide) }
  prepare := .ok (launchedServer userSecrets)
  prepare_user := fun _ h => by cases h; rfl
  prepare_serverName := fun _ h => by cases h; rfl
  branchFound := true
  commitFound := true

def launchedPatches (userSecrets : Option K8sUserSecrets) : List Patch :=
  ((launchedServer userSecrets).getPatches defaultConfig (.ascii fun _ => "")).toOption.getD []

/-- The launch, with the manifest that it composes. -/
def sampleProgram (userSecrets : Option K8sUserSecrets) : Service Response :=
  ((sampleApi none).lookUpFirst (sampleLaunch userSecrets)
    ((sampleApi none).lookUpFor (launchedServer userSecrets)
      ((launchedServer userSecrets).manifestWith defaultConfig (launchedPatches userSecrets)))).bind
        (sampleApi none).fromCreation

theorem sampleLaunch_program (userSecrets : Option K8sUserSecrets) :
    (sampleApi none).launchNotebookHelper (sampleLaunch userSecrets) =
      sampleProgram userSecrets := by
  have hpatches : (launchedServer userSecrets).getPatches defaultConfig (.ascii fun _ => "") =
      .ok (launchedPatches userSecrets) := rfl
  have husername : (launchedServer userSecrets).checkUsername = .ok () := by
    have hlength : ¬ 63 < "jane".length := by decide
    exact if_neg hlength
  exact (sampleApi none).launch_of_startManifest (sampleLaunch userSecrets) rfl husername
    (EnvironmentOverrides.manifest_of_getPatches defaultConfig (.ascii fun _ => "") _ rfl hpatches)

section Calm

variable {request : LaunchRequest} {x : Session} (secretStorage : Nat → Json → SecretReply)
  (hid : Identified "renku" request.name x.server)
  (hlabel : hasLabel usernameLabel request.user.safeUsername x.server)

include hlabel in
theorem calm_getServer (log : List Call) :
    run (serve { calmEnv with secretStorage })
      ((sampleApi none).client.getServer request.name request.user.safeUsername)
      ⟨Cluster.empty.set "renku" request.name x hid, log⟩ =
    (.ok (some x.server),
      ⟨Cluster.empty.set "renku" request.name x hid, log ++ [.cacheGet request.name]⟩) := by
  have hrenku := Cluster.get_set Cluster.empty "renku" request.name x hid
  have hsessions : (Cluster.empty.set "renku" request.name x hid).get "sessions" request.name =
      none := by
    rw [Cluster.get_set_of_ne _ _ _ (by simp)]
    simp [Cluster.get, Cluster.empty]
  have hserve : serve { calmEnv with secretStorage } (.cacheGet request.name)
      ⟨Cluster.empty.set "renku" request.name x hid, log⟩ =
        (.ok [x.server],
          ⟨Cluster.empty.set "renku" request.name x hid, log ++ [.cacheGet request.name]⟩) := by
    simp [serve, calmEnv, answer, hrenku, hsessions]
  have htruthy : ∀ s ∈ some x.server, s.truthy = true := by
    rintro s ⟨⟩
    exact hid.truthy
  have hown : K8sClient.ownServer request.user.safeUsername (some x.server) = some x.server :=
    (ownServer_eq_some_iff htruthy).mpr ⟨rfl, hlabel⟩
  unfold K8sClient.getServer K8sClient.orBypass JsServerCache.getServer
  simp only [bind_eq, run_bind, run_tryCatch, run_perform, hserve, JsServerCache.orCacheError,
    run_ret, run_ofExcept, single, hown, pure_eq]

include hlabel in
/-- In a calm environment, deleting the only session of a name deletes it. -/
theorem calm_deletionSucceeds :
    DeletionSucceeds { calmEnv with secretStorage } (sampleApi none) request
      (Cluster.empty.set "renku" request.name x hid) := by
  intro log
  have hdelete : execute { calmEnv with secretStorage }
      ((sampleApi none).client.deleteServer request.name request.user.safeUsername true)
      ⟨Cluster.empty.set "renku" request.name x hid, log⟩ =
      execute { calmEnv with secretStorage }
        (NamespacedK8sClient.deleteServer "renku" request.name true)
        ⟨Cluster.empty.set "renku" request.name x hid, log ++ [.cacheGet request.name]⟩ := by
    have hns : (sampleApi none).client.namespaceOf x.server = .ok "renku" := by
      unfold K8sClient.namespaceOf
      exact if_pos hid.2
    unfold execute K8sClient.deleteServer K8sClient.ownNamespace
    simp only [bind_eq, run_bind, calm_getServer secretStorage hid hlabel, hid.truthy, if_true, hns,
      run_ofExcept]
  rw [hdelete]
  have hget := Cluster.get_set Cluster.empty "renku" request.name x hid
  constructor
  · simp [execute, NamespacedK8sClient.deleteServer, run_bind, serve, calmEnv, answer,
      Cluster.deleteServer, hget, exceptApi]
  · simp [execute, NamespacedK8sClient.deleteServer, run_bind, serve, calmEnv, answer,
      Cluster.deleteServer, hget, exceptApi, Api.launched, sampleApi, K8sClient.preferredNamespace]

end Calm

/-- The secret storage answers 502, with this body. -/
def badGateway (body : Option Json) : Env :=
  { calmEnv with secretStorage := fun _ _ => .response 502 body }

theorem badGateway_deletionSucceeds {body : Option Json} {userSecrets : Option K8sUserSecrets}
    {w₁ : World} {server : UserServer} {manifest : Json}
    (h : CreatesAt (badGateway body) (sampleApi none) (sampleLaunch userSecrets) ⟨.empty, []⟩ w₁
      server manifest) :
    DeletionSucceeds (badGateway body) (sampleApi none) (sampleLaunch userSecrets)
      (Cluster.empty.createServer (toString w₁.log.length) "renku" "jane-1" manifest).2 := by
  obtain ⟨-, -, -, -, hlabel⟩ := beforeCreation_found h.reaches
  have hid : Identified "renku" (sampleLaunch userSecrets).name
      (Session.created (storedServer "renku" (toString w₁.log.length) manifest)).server :=
    h.identified
  have hcreate : Cluster.empty.createServer (toString w₁.log.length) "renku" "jane-1" manifest =
      (.ok (), Cluster.empty.set "renku" (sampleLaunch userSecrets).name _ hid) :=
    Cluster.createServer_of_none h.absent h.identified
  rw [hcreate]
  exact calm_deletionSucceeds _ hid (hlabel _ _)

theorem badGateway_leavesNothing_iff :
    LeavesNothing (badGateway (some .null)) (sampleApi none) (sampleLaunch (some sampleSecrets))
        ⟨.empty, []⟩ ↔
      ∀ w₁ server manifest, CreatesAt (badGateway (some .null)) (sampleApi none)
        (sampleLaunch (some sampleSecrets)) ⟨.empty, []⟩ w₁ server manifest →
          FailuresHandled (badGateway (some .null)) (sampleApi none)
            (sampleLaunch (some sampleSecrets)) server manifest w₁.log.length :=
  launch_leavesNothing_iff fun _ _ _ h => badGateway_deletionSucceeds h

/-- Without a JSON body, `response.json()` raises before the session is deleted. -/
theorem badGateway_leaves_session :
    (∀ w₁ server manifest, CreatesAt (badGateway none) (sampleApi none)
        (sampleLaunch (some sampleSecrets)) ⟨.empty, []⟩ w₁ server manifest →
      DeletionSucceeds (badGateway none) (sampleApi none) (sampleLaunch (some sampleSecrets))
        (Cluster.empty.createServer (toString w₁.log.length) "renku" "jane-1" manifest).2) ∧
    ¬LeavesNothing (badGateway none) (sampleApi none) (sampleLaunch (some sampleSecrets))
      ⟨.empty, []⟩ := by
  refine ⟨fun _ _ _ h => badGateway_deletionSucceeds h, fun h => ?_⟩
  have hends := h (by simp [Api.launched, Cluster.get, Cluster.empty])
  have hoffends : (execute (badGateway none) ((sampleApi none).launchNotebookHelper
        (sampleLaunch (some sampleSecrets))) ⟨.empty, []⟩).1.toOption.isNone ∧
      ((sampleApi none).launched "jane-1" (execute (badGateway none)
        ((sampleApi none).launchNotebookHelper (sampleLaunch (some sampleSecrets)))
        ⟨.empty, []⟩).2.cluster).isSome := by
    rw [sampleLaunch_program]
    decide +kernel
  unfold EndsClean at hends
  rcases hresult : (execute (badGateway none) ((sampleApi none).launchNotebookHelper
      (sampleLaunch (some sampleSecrets))) ⟨.empty, []⟩).1 with e | response
  · have hgone : (sampleApi none).launched "jane-1" _ = none := hends e hresult
    rw [hgone] at hoffends
    exact absurd hoffends.2 (by decide)
  · rw [hresult] at hoffends
    exact absurd hoffends.1 (by simp [Except.toOption])

end RenkuNotebooks.Notebooks
