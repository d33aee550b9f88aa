import RenkuNotebooks.Notebooks.AmaltheaPatches

/-!
# The session manifest

`UserServer`: the composed patches, labels and annotations, and the JupyterServer resource that
is sent to Kubernetes. Texts of values other than strings, booleans and integers are left to
`py`.
-/

namespace RenkuNotebooks.Notebooks.UserServer

open AmaltheaPatches

variable (config : Config) (py : PyText.Str) (server : UserServer)

def getPatches : Except PyError (List Patch) := do
  let envPatches ← env config server
  let imagePullSecretPatches ← imagePullSecret config py server
  let cloudstoragePatches ← AmaltheaPatches.cloudstorage config py server
  pure (
    test config server ++
    sessionTolerations config server ++
    sessionAffinity config server ++
    sessionNodeSelector config server ++
    priorityClass server ++
    devShm server ++
    args ++
    envPatches ++
    imagePullSecretPatches ++
    disableServiceLinks ++
    rstudioEnvVariables server ++
    AmaltheaPatches.userSecrets config server ++
    gitProxy config py server ++
    gitSidecar config server ++
    oidcUnverifiedEmail config server ++
    ssh config ++
    -- init container for certs must come before all other init containers
    -- so that it runs first before all other init containers
    certificates config ++
    downloadImage server ++
    gitClone config py server ++
    injectCertificates config server ++
    -- Cloud Storage needs to patch the git clone sidecar spec and so should come after
    -- the sidecars
    cloudstoragePatches)

/-- The container lists and names that variables are added to, with their values. -/
abbrev SeenEnv := List ((String × String) × Json)

def checkEnvOp (seen : SeenEnv) (op : PatchOp) : Except PyError SeenEnv := do
  let path := PyText.lower op.path
  if path.endsWith "/env/-" then
    let value ← match op with
      | .add _ v | .replace _ v | .test _ v => pure v
      | .remove _ => .error (.keyError "value")
    let name ← match value.get? "name" with
      | some (.str name) => pure name
      | _ => .error (.keyError "name")
    let envValue ← match value.get? "value" with
      | some v => pure v
      | none => .error (.keyError "value")
    match seen.lookup (path, name) with
    | some set =>
      if set ≠ envValue then
        .error (.generic (duplicateEnvironmentVariableError
          ("Environment variable " ++ path ++ "::" ++ name ++
            " is being overridden by multiple patches")))
      else pure seen
    | none => pure (((path, name), envValue) :: seen)
  else pure seen

theorem checkEnvOp_of_not_env {seen : SeenEnv} {op : PatchOp}
    (h : (PyText.lower op.path).endsWith "/env/-" = false) : checkEnvOp seen op = .ok seen := by
  unfold checkEnvOp
  exact if_neg (by rw [h]; decide)

def checkEnvironmentVariablesOverrides (patches : List Patch) : Except PyError Unit :=
  ((patches.flatMap (·.patch)).foldlM checkEnvOp []).map fun _ => ()

/-- The label or annotation of this name. -/
def prefixed (name : String) : String := renkuAnnotationPrefix ++ name

def getLabels : List (String × Json) :=
  let base : List (String × Json) := [
    ("app", "jupyter"),
    ("component", "singleuser-server"),
    (prefixed "commit-sha", .null),
    (prefixed "gitlabProjectId", .null),
    (prefixed "safe-username", server.user.safeUsername),
    (prefixed "quota", optStr server.serverOptions.priorityClass),
    (prefixed "userId", server.user.id)]
  match server.kind with
  | .renku2 _ _ => base
  | .renku1 _ _ _ commitSha _ gitlabProject =>
    let labels := Json.setMember (prefixed "commit-sha") commitSha base
    gitlabProject.elim labels fun project =>
      Json.setMember (prefixed "gitlabProjectId") (toString project.id) labels

/-- Annotations are set one after the other, as on a dictionary. -/
def setAll (updates : List (String × Json)) (annotations : List (String × Json)) :
    List (String × Json) :=
  updates.foldl (fun ms update => Json.setMember update.1 update.2 ms) annotations

def baseAnnotations : List (String × Json) :=
  let base : List (String × Json) := [
    (prefixed "commit-sha", .null),
    (prefixed "gitlabProjectId", .null),
    (prefixed "safe-username", server.user.safeUsername),
    (prefixed "username", server.user.username),
    (prefixed "userId", server.user.id),
    (prefixed "servername", server.serverName.text),
    (prefixed "branch", .null),
    (prefixed "git-host", .null),
    (prefixed "namespace", .null),
    (prefixed "projectName", .null),
    (prefixed "requested-image", optStr server.image),
    (prefixed "repository", .null),
    (prefixed "hibernation", ""),
    (prefixed "hibernationBranch", ""),
    (prefixed "hibernationCommitSha", ""),
    (prefixed "hibernationDirty", ""),
    (prefixed "hibernationSynchronized", ""),
    (prefixed "hibernationDate", ""),
    (prefixed "hibernatedSecondsThreshold",
      toString (server.hibernatedSecondsThreshold config)),
    (prefixed "lastActivityDate", ""),
    (prefixed "idleSecondsThreshold", toString (server.idleSecondsThreshold config))]
  match server.serverOptions.resourceClassId with
  | none => base
  | some id => if id = 0 then base else setAll [(prefixed "resourceClassId", toString id)] base

def getAnnotations : List (String × Json) :=
  match server.kind with
  | .renku1 namespace_ project branch commitSha gitHost gitlabProject =>
    let annotations := setAll [
      (prefixed "commit-sha", commitSha),
      (prefixed "branch", branch),
      (prefixed "git-host", gitHost),
      (prefixed "namespace", namespace_),
      (prefixed "projectName", project)] (server.baseAnnotations config)
    gitlabProject.elim annotations fun project =>
      setAll [
        (prefixed "gitlabProjectId", toString project.id),
        (prefixed "repository", project.webUrl)] annotations
  | .renku2 projectId launcherId =>
    setAll [
      (prefixed "renkuVersion", "2.0"),
      (prefixed "projectId", projectId),
      (prefixed "launcherId", launcherId)] (server.baseAnnotations config)

def sessionAuth : Json :=
  match server.user with
  | .registered u => .obj [
    ("token", ""),
    ("oidc", .obj [
      ("enabled", true),
      ("clientId", config.sessions.oidc.clientId),
      ("clientSecret", .obj [("value", config.sessions.oidc.clientSecret)]),
      ("issuerUrl", u.oidcIssuer),
      ("authorizedEmails", .arr [u.email])])]
  | .anonymous u => .obj [("token", u.username), ("oidc", .obj [("enabled", false)])]

def storage : Json :=
  let mountPath := server.workspaceMountPath.absolute.asPosix
  if config.sessions.storage.pvsEnabled then
    .obj [
      ("size", server.serverOptions.storage),
      ("pvc", .obj [
        ("enabled", true),
        ("storageClassName", optStr config.sessions.storage.pvsStorageClass),
        ("mountPath", mountPath)])]
  else
    let size : Json :=
      if config.sessions.storage.useEmptyDirSizeLimit then server.serverOptions.storage else ""
    .obj [("size", size), ("pvc", .obj [("enabled", false), ("mountPath", mountPath)])]

def PatchOp.toJson : PatchOp → Json
  | .add path value => .obj [("op", "add"), ("path", path), ("value", value)]
  | .remove path => .obj [("op", "remove"), ("path", path)]
  | .replace path value => .obj [("op", "replace"), ("path", path), ("value", value)]
  | .test path value => .obj [("op", "test"), ("path", path), ("value", value)]

def Patch.toJson (p : Patch) : Json :=
  .obj [("type", p.type), ("patch", .arr (p.patch.map PatchOp.toJson))]

/-- The path of the server's URL, without the query. -/
def routingPath : String := "/sessions/" ++ server.serverName.text

/-- The manifest with the patches that have been made. -/
def manifestWith (patches : List Patch) : Json :=
  let culling :=
    if server.user.isRegistered then config.sessions.culling.registered
    else config.sessions.culling.anonymous
  .obj [
    ("apiVersion", .str (config.amalthea.group ++ "/" ++ config.amalthea.version)),
    ("kind", "JupyterServer"),
    ("metadata", .obj [
      ("name", server.serverName.text),
      ("labels", .obj server.getLabels),
      ("annotations", .obj (server.getAnnotations config))]),
    ("spec", .obj [
      ("auth", server.sessionAuth config),
      ("culling", .obj [
        ("idleSecondsThreshold", server.idleSecondsThreshold config),
        ("maxAgeSecondsThreshold", culling.maxAgeSeconds),
        ("hibernatedSecondsThreshold", server.hibernatedSecondsThreshold config)]),
      ("jupyterServer", .obj [
        ("defaultUrl", server.serverOptions.defaultUrl),
        ("image", optStr server.image),
        ("rootDir", server.workDir.absolute.asPosix),
        ("resources", server.serverOptions.toK8sResources config.sessions.enforceCpuLimits)]),
      ("routing", .obj [
        ("host", PyUrl.netloc (server.serverUrl config)),
        ("path", server.routingPath),
        ("ingressAnnotations", config.sessions.ingress.annotations),
        ("tls", .obj [
          ("enabled", config.sessions.ingress.tlsSecret.isSome),
          ("secretName", optStr config.sessions.ingress.tlsSecret)])]),
      ("storage", server.storage config),
      ("patches", .arr (patches.map Patch.toJson))])]

def getSessionManifest : Except PyError Json := do
  let patches ← server.getPatches config py
  checkEnvironmentVariablesOverrides patches
  pure (server.manifestWith config patches)

end RenkuNotebooks.Notebooks.UserServer
