import RenkuNotebooks.Foundation.Results
import RenkuNotebooks.Notebooks.Lookup
import RenkuNotebooks.Notebooks.UserServer

/-!
# Launching sessions

`launch_notebook_helper` and `UserServer.start`. What the helper makes of the requested image,
resource class and storages before it has a `UserServer` is a parameter of the request.
-/

namespace RenkuNotebooks.Notebooks

open Prog

structure LaunchRequest where
  user : User
  serverName : ServerName
  /-- The server that the requested image, resource class and storages give. -/
  prepare : Except PyError UserServer
  prepare_user : ∀ server, prepare = .ok server → server.user = user
  prepare_serverName : ∀ server, prepare = .ok server → server.serverName = serverName
  /-- Whether GitLab finds the branch and the commit of the project. -/
  branchFound : Bool
  commitFound : Bool

/-! ### Starting a server -/

namespace UserServer

variable (server : UserServer)

def getStartErrors (branchFound commitFound : Bool) : List String :=
  let image := if server.image.isNone then ["image None does not exist or cannot be accessed"] else []
  match server.kind with
  | .renku2 _ _ => image
  | .renku1 _ project branch commitSha _ gitlabProject =>
    image ++
    (if gitlabProject.isNone then ["project " ++ project ++ " does not exist"] else []) ++
    (if gitlabProject.isSome ∧ branchFound then [] else ["branch " ++ branch ++ " does not exist"]) ++
    (if gitlabProject.isSome ∧ commitFound then []
     else ["commit " ++ commitSha ++ " does not exist"])

/-- What `start` does before it turns to the cluster. -/
def startManifest (config : Config) (py : PyText.Str) (branchFound commitFound : Bool) :
    Except PyError Json :=
  let errors := server.getStartErrors branchFound commitFound
  if errors.isEmpty then server.getSessionManifest config py
  else .error (.generic (missingResourceError
    ("Cannot start the session because the following Git or Docker resources are missing: " ++
      ", ".intercalate errors)))

def checkUsername : Except PyError Unit :=
  let length := server.user.safeUsername.length
  if 63 < length then
    .error (.generic (userInputError
      ("A username cannot be longer than 63 characters, your username is " ++ toString length ++
        " characters long.")
      (some "This can occur if your username has been changed manually or by an admin.")))
  else .ok ()

/-- The storages after `start`: composing the patches has given each its base name. -/
def namedStorages : List RCloneStorage :=
  server.cloudstorage.zipIdx.map fun (storage, i) =>
    { storage with baseName := some (AmaltheaPatches.storageBaseName server i) }

end UserServer

/-! ### The secrets of a session -/

structure SecretRequest where
  payload : Json
  typeMessage : String

def ownerReference (serverName : String) (uid : Json) : Json :=
  .obj [("apiVersion", "amalthea.dev/v1alpha1"), ("kind", "JupyterServer"), ("name", serverName),
    ("uid", uid)]

/-- `manifest["metadata"]["uid"]` -/
def manifestUid (manifest : Json) : Except PyError Json :=
  match manifest.get? "metadata" with
  | none => .error (.keyError "metadata")
  | some metadata =>
    match metadata.get? "uid" with
    | none => .error (.keyError "uid")
    | some uid => .ok uid

namespace UserServer

variable (server : UserServer) (owner : Json)

def userSecretRequest (secrets : K8sUserSecrets) : SecretRequest where
  payload := .obj [
    ("name", secrets.name),
    ("namespace", server.preferredNamespace),
    ("secret_ids", .arr (secrets.userSecretIds.map .str)),
    ("owner_references", .arr [owner])]
  typeMessage := "User secrets"

def storageSecretRequest (storage : RCloneStorage) (baseName : String) : SecretRequest where
  payload := .obj [
    ("name", .str (baseName ++ "-secrets")),
    ("namespace", server.preferredNamespace),
    ("secret_ids", .arr (storage.secrets.map (.str ·.1))),
    ("owner_references", .arr [owner]),
    ("key_mapping", .obj (storage.secrets.map fun secret => (secret.1, .str secret.2)))]
  typeMessage := "Saved storage secrets"

/-- The secret of a storage that has saved secrets. -/
def storageSecretRequest? (storage : RCloneStorage) : Option SecretRequest :=
  match storage.baseName with
  | none => none
  | some baseName =>
    if storage.secrets.isEmpty ∨ baseName = "" then none
    else some (server.storageSecretRequest owner storage baseName)

def secretRequests : List SecretRequest :=
  (server.userSecrets.elim [] fun secrets => [server.userSecretRequest owner secrets]) ++
    server.namedStorages.filterMap (server.storageSecretRequest? owner)

end UserServer

/-! ### The launch -/

namespace Api

variable (api : Api)

/-- `_on_error`: the server is deleted before the error is raised. -/
def onSecretError (serverName safeUsername errorMsg : String) : Service Unit := do
  api.client.deleteServer serverName safeUsername true
  .raise (.runtimeError errorMsg)

def secretReplied (serverName safeUsername : String) (secret : SecretRequest) :
    SecretReply → Service Unit
  | .connectionError text => api.onSecretError serverName safeUsername
      (secret.typeMessage ++ " storage service could not be contacted " ++ text)
  | .otherError => .raise .requestException
  | .response status body =>
    if status = 201 then pure ()
    else
      match body with
      -- `response.json()` is evaluated before the server is deleted
      | none => .raise .requestException
      | some body => api.onSecretError serverName safeUsername
          (secret.typeMessage ++ " could not be created " ++ api.py body)

def createSecrets (serverName safeUsername : String) : List SecretRequest → Service Unit
  | [] => pure ()
  | secret :: secrets => do
    let reply ← perform (.postSecret secret.payload)
    api.secretReplied serverName safeUsername secret reply
    createSecrets serverName safeUsername secrets

/-- The rest of the launch, once `start` has given the manifest of the server. -/
def finishLaunch (server : UserServer) (manifest : Json) : Service Response := do
  let uid ← ofExcept (manifestUid manifest)
  api.createSecrets server.serverName.text server.user.safeUsername
    (server.secretRequests (ownerReference server.serverName.text uid))
  let body ← ofExcept (api.render manifest)
  pure { body, status := 201 }

def start (request : LaunchRequest) (server : UserServer) : Service Json := do
  let manifest ← ofExcept (server.startManifest api.config api.py request.branchFound
    request.commitFound)
  api.client.createServer manifest server.user.safeUsername

def launchServer (request : LaunchRequest) : Service Response := do
  let server ← ofExcept request.prepare
  ofExcept server.checkUsername
  let manifest ← api.start request server
  api.finishLaunch server manifest

def launchNotebookHelper (request : LaunchRequest) : Service Response := do
  match ← api.client.getServer request.serverName.text request.user.safeUsername with
  | none => api.launchServer request
  | some server => if server.truthy then api.rendered server else api.launchServer request

end Api

/-! ### The launch around the creation of the server -/

/-- What a launch has found when it comes to the creation: a server at its first look-up, a server
at the look-up of `create_server`, or none. -/
inductive Found where
  | early (existing : Json)
  | late (server : UserServer) (existing : Json)
  | missing (server : UserServer) (manifest : Json)

namespace Api

variable (api : Api) (request : LaunchRequest)

def lookUpFor (server : UserServer) (manifest : Json) : Service Found := do
  match ← api.client.getServer (NamespacedK8sClient.manifestName manifest)
    server.user.safeUsername with
  | none => pure (.missing server manifest)
  | some existing =>
    if existing.truthy then pure (.late server existing) else pure (.missing server manifest)

def lookUpAgain : Service Found := do
  let server ← ofExcept request.prepare
  ofExcept server.checkUsername
  let manifest ← ofExcept (server.startManifest api.config api.py request.branchFound
    request.commitFound)
  api.lookUpFor server manifest

/-- The first look-up, with what comes after it. -/
def lookUpFirst (again : Service Found) : Service Found := do
  match ← api.client.getServer request.serverName.text request.user.safeUsername with
  | none => again
  | some server => if server.truthy then pure (.early server) else again

def beforeCreation : Service Found := api.lookUpFirst request (api.lookUpAgain request)

def fromCreation : Found → Service Response
  | .early existing => api.rendered existing
  | .late server existing => api.finishLaunch server existing
  | .missing server manifest => do
    let created ← NamespacedK8sClient.createServer api.client.preferredNamespace manifest
    api.finishLaunch server created

theorem launchServer_eq :
    api.launchServer request = (api.lookUpAgain request).bind api.fromCreation := by
  simp only [launchServer, lookUpAgain, lookUpFor, start, K8sClient.createServer, bind_eq,
    Prog.bind_assoc]
  congr 1
  funext server
  congr 1
  funext _
  congr 1
  funext manifest
  congr 1
  funext existing
  cases existing with
  | none => rfl
  | some existing =>
    dsimp only
    split <;> rfl

theorem launchNotebookHelper_eq :
    api.launchNotebookHelper request = (api.beforeCreation request).bind api.fromCreation := by
  simp only [launchNotebookHelper, beforeCreation, lookUpFirst, bind_eq, Prog.bind_assoc]
  congr 1
  funext server
  cases server with
  | none => exact api.launchServer_eq request
  | some server =>
    dsimp only
    split
    · rfl
    · exact api.launchServer_eq request

/-- A launch whose checks have passed is its look-ups and the creation. -/
theorem launch_of_startManifest {server : UserServer} {manifest : Json}
    (hprepare : request.prepare = .ok server) (husername : server.checkUsername = .ok ())
    (hmanifest : server.startManifest api.config api.py request.branchFound request.commitFound =
      .ok manifest) :
    api.launchNotebookHelper request =
      (api.lookUpFirst request (api.lookUpFor server manifest)).bind api.fromCreation := by
  have hagain : api.lookUpAgain request = api.lookUpFor server manifest := by
    unfold lookUpAgain
    rw [hprepare]
    change (ofExcept server.checkUsername).bind _ = _
    rw [husername]
    change (ofExcept (server.startManifest _ _ _ _)).bind _ = _
    rw [hmanifest]
    rfl
  rw [launchNotebookHelper_eq, beforeCreation, hagain]

end Api

/-- What the look-ups of a launch find is about the session that it asks for. -/
def Found.IsFor (request : LaunchRequest) : Found → Prop
  | .early _ => True
  | .late server _ => server.user = request.user ∧ server.serverName = request.serverName
  | .missing server manifest => server.user = request.user ∧
      server.serverName = request.serverName ∧
      NamespacedK8sClient.manifestName manifest = request.serverName.text ∧
      ∀ ns uid, hasLabel usernameLabel request.user.safeUsername (storedServer ns uid manifest)

theorem manifestName_of_startManifest {config : Config} {py : PyText.Str}
    {server : UserServer} {branchFound commitFound : Bool} {manifest : Json}
    (h : server.startManifest config py branchFound commitFound = .ok manifest) :
    NamespacedK8sClient.manifestName manifest = server.serverName.text := by
  unfold UserServer.startManifest at h
  dsimp only at h
  split at h
  · obtain ⟨patches, -, h⟩ := Results.bind_eq_ok_iff.mp h
    obtain ⟨-, -, h⟩ := Results.bind_eq_ok_iff.mp h
    cases h
    rfl
  · cases h

theorem getMember_usernameLabel (server : UserServer) :
    Json.getMember usernameLabel server.getLabels = some (.str server.user.safeUsername) := by
  have hbase : ∀ base : List (String × Json),
      Json.getMember usernameLabel base = some (.str server.user.safeUsername) → ∀ key value,
        usernameLabel ≠ key →
        Json.getMember usernameLabel (Json.setMember key value base) =
          some (.str server.user.safeUsername) := by
    intro base h key value hne
    rw [Json.getMember_setMember_of_ne hne, h]
  unfold UserServer.getLabels
  rcases server.kind with ⟨_, _, _, commitSha, _, _ | project⟩ | _
  · exact hbase _ rfl _ _ (by decide)
  · exact hbase _ (hbase _ rfl _ _ (by decide)) _ _ (by decide)
  · rfl

/-- The created server carries the label of its user. -/
theorem hasLabel_of_startManifest {config : Config} {py : PyText.Str}
    {server : UserServer} {branchFound commitFound : Bool} {manifest : Json}
    (h : server.startManifest config py branchFound commitFound = .ok manifest)
    (ns uid : String) :
    hasLabel usernameLabel server.user.safeUsername (storedServer ns uid manifest) := by
  unfold UserServer.startManifest at h
  dsimp only at h
  split at h
  · obtain ⟨patches, -, h⟩ := Results.bind_eq_ok_iff.mp h
    obtain ⟨-, -, h⟩ := Results.bind_eq_ok_iff.mp h
    cases h
    change (Json.getMember usernameLabel server.getLabels).bind some = _
    rw [getMember_usernameLabel]
    rfl
  · cases h

section Calls

variable {allowed : Call → Prop} {api : Api} {name safeUsername : String}

theorem calls_onSecretError (hlookup : ∀ c : Call, c.LooksUp name → allowed c)
    (hdelete : ∀ ns, allowed (.deleteServer ns name true)) (errorMsg : String) :
    (api.onSecretError name safeUsername errorMsg).Calls allowed := by
  apply Calls.bind
  · exact Calls.bind (K8sClient.calls_ownNamespace hlookup)
      fun ns => NamespacedK8sClient.calls_deleteServer (hdelete ns)
  · intro _
    trivial

theorem calls_createSecrets (hlookup : ∀ c : Call, c.LooksUp name → allowed c)
    (hsecret : ∀ payload, allowed (.postSecret payload))
    (hdelete : ∀ ns, allowed (.deleteServer ns name true)) (secrets : List SecretRequest) :
    (api.createSecrets name safeUsername secrets).Calls allowed := by
  induction secrets with
  | nil => trivial
  | cons secret secrets ih =>
    apply Calls.bind ((calls_perform _).mpr (hsecret secret.payload))
    intro reply
    apply Calls.bind
    · cases reply with
      | connectionError text => exact calls_onSecretError hlookup hdelete _
      | otherError => trivial
      | response status body =>
        unfold Api.secretReplied
        dsimp only
        split
        · trivial
        · cases body with
          | none => trivial
          | some body => exact calls_onSecretError hlookup hdelete _
    · exact fun _ => ih

theorem calls_finishLaunch {server : UserServer} {manifest : Json}
    (hlookup : ∀ c : Call, c.LooksUp server.serverName.text → allowed c)
    (hsecret : ∀ payload, allowed (.postSecret payload))
    (hdelete : ∀ ns, allowed (.deleteServer ns server.serverName.text true)) :
    (api.finishLaunch server manifest).Calls allowed := by
  apply Calls.bind (calls_ofExcept _)
  intro uid
  apply Calls.bind (calls_createSecrets hlookup hsecret hdelete _)
  intro _
  exact Calls.bind (calls_ofExcept _) fun body => trivial

end Calls

section LookUps

variable {api : Api} {request : LaunchRequest}

theorem calls_lookUpAgain {allowed : Call → Prop}
    (h : ∀ c : Call, c.LooksUp request.serverName.text → allowed c) :
    (api.lookUpAgain request).Calls allowed := by
  apply calls_ofExcept_bind
  intro server hserver
  apply Calls.bind (calls_ofExcept _)
  intro _
  apply calls_ofExcept_bind
  intro manifest hmanifest
  have hname : NamespacedK8sClient.manifestName manifest = request.serverName.text := by
    rw [manifestName_of_startManifest hmanifest, request.prepare_serverName server hserver]
  apply Calls.bind
  · rw [hname]
    exact K8sClient.calls_getServer h
  · rintro (_ | existing)
    · trivial
    · dsimp only
      split <;> trivial

theorem calls_beforeCreation {allowed : Call → Prop}
    (h : ∀ c : Call, c.LooksUp request.serverName.text → allowed c) :
    (api.beforeCreation request).Calls allowed := by
  apply Calls.bind (K8sClient.calls_getServer h)
  rintro (_ | server)
  · exact calls_lookUpAgain h
  · dsimp only
    split
    · trivial
    · exact calls_lookUpAgain h

theorem returns_lookUpAgain : (api.lookUpAgain request).Returns (·.IsFor request) := by
  apply Returns.bind (returns_ofExcept fun server h => h)
  intro server hserver
  have huser := request.prepare_user server hserver
  have hname := request.prepare_serverName server hserver
  apply Returns.bind (returns_true _)
  intro _ _
  apply Returns.bind (returns_ofExcept fun manifest h => h)
  intro manifest hmanifest
  have hmissing : (Found.missing server manifest).IsFor request := by
    refine ⟨huser, hname, ?_, fun ns uid => ?_⟩
    · rw [manifestName_of_startManifest hmanifest, hname]
    · rw [← huser]
      exact hasLabel_of_startManifest hmanifest ns uid
  apply Returns.bind (returns_true _)
  rintro (_ | existing) _
  · exact hmissing
  · dsimp only
    split
    · exact ⟨huser, hname⟩
    · exact hmissing

theorem returns_beforeCreation : (api.beforeCreation request).Returns (·.IsFor request) := by
  apply Returns.bind (returns_true _)
  rintro (_ | server) _
  · exact returns_lookUpAgain
  · dsimp only
    split
    · trivial
    · exact returns_lookUpAgain

variable {env : Env} {w w₁ : World}

/-- The look-ups of a launch leave the cluster as it is. -/
theorem beforeCreation_triple (env : Env) (api : Api) (request : LaunchRequest) (c : Cluster) :
    Triple (serve env) (fun w => w.cluster = c) (api.beforeCreation request)
      (fun found w => w.cluster = c ∧ found.IsFor request) (fun _ w => w.cluster = c) := by
  have hcalls : (api.beforeCreation request).Calls fun call =>
      ∀ w, (serve env call w).2.cluster = w.cluster :=
    calls_beforeCreation fun call hcall w => serve_lookup_cluster call hcall w
  have htriple : Triple (serve env) (fun w => w.cluster = c) (api.beforeCreation request)
      (fun _ w => w.cluster = c) (fun _ w => w.cluster = c) :=
    hcalls.triple fun call w hcall hw => (hcall w).trans hw
  exact htriple.returns returns_beforeCreation

theorem beforeCreation_found {found : Found}
    (h : execute env (api.beforeCreation request) w = (.ok found, w₁)) :
    w₁.cluster = w.cluster ∧ found.IsFor request := by
  have hout := beforeCreation_triple env api request _ w rfl
  unfold execute at h
  rw [h] at hout
  exact hout

theorem beforeCreation_raised {e : PyError}
    (h : execute env (api.beforeCreation request) w = (.error e, w₁)) :
    w₁.cluster = w.cluster := by
  have hout := beforeCreation_triple env api request _ w rfl
  unfold execute at h
  rw [h] at hout
  exact hout

end LookUps

end RenkuNotebooks.Notebooks
