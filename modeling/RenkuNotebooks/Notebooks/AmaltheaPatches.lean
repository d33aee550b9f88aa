import RenkuNotebooks.Foundation.PyText
import RenkuNotebooks.Notebooks.ServerData

/-!
# Patch builders

The functions of `api/amalthea_patches`, file by file. Each gives entries of `spec.patches`;
Amalthea applies them in order to the resources it builds for a session.
-/

namespace RenkuNotebooks.Notebooks.AmaltheaPatches

/-- The volumes that are kept in memory. -/
def memoryVolume (name : String) : Json :=
  .obj [("emptyDir", .obj [("medium", "Memory")]), ("name", name)]

def requestsOnly (cpu memory : String) : Json :=
  .obj [("requests", .obj [("cpu", cpu), ("memory", memory)])]

def envVar (name : String) (value : Json) : Json := .obj [("name", name), ("value", value)]

/-! ### utils.py -/

def etcSslCerts (readOnly : Bool) : Json :=
  .obj [("mountPath", "/etc/ssl/certs/"), ("name", "etc-ssl-certs"), ("readOnly", readOnly)]

def customCaCerts (config : Config) : Json :=
  .obj [("mountPath", config.sessions.caCerts.path), ("name", "custom-ca-certs"), ("readOnly", true)]

def getCertificatesVolumeMounts (config : Config) (etcCerts customCerts readOnlyEtcCerts : Bool) :
    List Json :=
  (if etcCerts then [etcSslCerts readOnlyEtcCerts] else []) ++
    (if customCerts then [customCaCerts config] else [])

/-- `Path(volume_mount["mountPath"]) / "ca-certificates.crt"` -/
def caCertificatesFile (volumeMount : Json) : String :=
  match volumeMount.get? "mountPath" with
  | some (.str mountPath) =>
    ((PosixPath.ofString mountPath).join (.ofString "ca-certificates.crt")).asPosix
  | _ => ""

/-! ### general.py -/

def sessionTolerations (config : Config) (server : UserServer) : List Patch :=
  let key := renkuAnnotationPrefix ++ "dedicated"
  let defaultTolerations : List Json :=
    .obj [("key", key), ("operator", "Equal"), ("value", "user"), ("effect", "NoSchedule")] ::
      config.sessions.tolerations
  [{ patch := [
    .add "/statefulset/spec/template/spec/tolerations"
      (.arr (defaultTolerations ++ server.serverOptions.tolerations.map jsonMatchExpression))] }]

/-- A list below `.get(key, {})` steps, empty where there is none. -/
def listAt (path : List String) (j : Json) : List Json :=
  match Json.dig path j with
  | some (.arr xs) => xs
  | _ => []

def matchExpressions (affinities : List NodeAffinity) : Json :=
  .obj [("matchExpressions", .arr (affinities.map fun a => jsonMatchExpression a.key))]

def sessionAffinity (config : Config) (server : UserServer) : List Patch :=
  let affinities := server.serverOptions.nodeAffinities
  if affinities.isEmpty then
    [{ patch := [
      .add "/statefulset/spec/template/spec/affinity" config.sessions.affinity] }]
  else
    let preferred := affinities.filter fun a => !a.requiredDuringScheduling
    let required := affinities.filter fun a => a.requiredDuringScheduling
    let defaultPreferred :=
      listAt ["nodeAffinity", "preferredDuringSchedulingIgnoredDuringExecution"]
        config.sessions.affinity
    let defaultRequired :=
      listAt ["nodeAffinity", "requiredDuringSchedulingIgnoredDuringExecution",
        "nodeSelectorTerms"] config.sessions.affinity
    [{ patch := [
      .add "/statefulset/spec/template/spec/affinity"
        (.obj [("nodeAffinity", .obj [
          ("preferredDuringSchedulingIgnoredDuringExecution",
            .arr (defaultPreferred ++
              [.obj [("weight", .int 1), ("preference", matchExpressions preferred)]])),
          ("requiredDuringSchedulingIgnoredDuringExecution",
            .obj [("nodeSelectorTerms",
              .arr (defaultRequired ++ [matchExpressions required]))])])])] }]

def sessionNodeSelector (config : Config) (server : UserServer) : List Patch :=
  if server.serverOptions.nodeAffinities.isEmpty then
    [{ patch := [
      .add "/statefulset/spec/template/spec/nodeSelector" config.sessions.nodeSelector] }]
  else []

def priorityClass (server : UserServer) : List Patch :=
  match server.serverOptions.priorityClass with
  | none => []
  | some priorityClass =>
    [{ patch := [.add "/statefulset/spec/template/spec/priorityClassName" priorityClass] }]

/-- The containers are expected in this order from Amalthea; the others are patched in. -/
def test (config : Config) (server : UserServer) : List Patch :=
  let containerNames :=
    if server.user.isRegistered then config.sessions.containers.registered.take 2
    else config.sessions.containers.anonymous.take 1
  containerNames.zipIdx.map fun (containerName, containerInd) =>
    { patch := [
      .test ("/statefulset/spec/template/spec/containers/" ++ toString containerInd ++ "/name")
        containerName] }

def oidcUnverifiedEmail (config : Config) (server : UserServer) : List Patch :=
  if server.user.isRegistered then
    [{ patch := [
      .add "/statefulset/spec/template/spec/containers/1/env/-"
        (envVar "OAUTH2_PROXY_INSECURE_OIDC_ALLOW_UNVERIFIED_EMAIL"
          (boolText config.sessions.oidc.allowUnverifiedEmail))] }]
  else []

/-- `/dev/shm` gets up to half of the memory request. -/
def devShm (server : UserServer) : List Patch :=
  [{ patch := [
    .add "/statefulset/spec/template/spec/volumes/-"
      (.obj [
        ("name", "shm"),
        ("emptyDir", .obj [
          ("medium", "Memory"), ("sizeLimit", .int (server.serverOptions.memory.tdiv 2))])]),
    .add "/statefulset/spec/template/spec/containers/0/volumeMounts/-"
      (.obj [("mountPath", "/dev/shm"), ("name", "shm")])] }]

/-! ### jupyter_server.py -/

def addEnv (name : String) (value : Json) : PatchOp :=
  .add "/statefulset/spec/template/spec/containers/0/env/-" (envVar name value)

/-- The variables that the service itself sets in the main container. -/
def serviceEnv (config : Config) (server : UserServer) : List (String × Json) :=
  [("RENKU_USERNAME", server.user.username),
    ("CI_COMMIT_SHA", optStr server.commitSha),
    ("NOTEBOOK_DIR", server.workDir.absolute.asPosix),
    ("MOUNT_PATH", server.workDir.absolute.asPosix),
    ("SESSION_URL", server.serverUrl config),
    ("PROJECT_NAME", optStr server.project),
    ("GIT_CLONE_REPO", "true")]

def env (config : Config) (server : UserServer) : Except PyError (List Patch) := do
  let envVars := serviceEnv config server
  let userEnv ← server.environmentVariables.mapM fun (key, value) =>
    match Json.getMember key envVars with
    | some set =>
      if Json.str value ≠ set then
        .error (.generic (overriddenEnvironmentVariableError
          ("Cannot override environment variable '" ++ key ++ "'")))
      else .ok (addEnv key value)
    | none => .ok (addEnv key value)
  pure [{ patch := (envVars.map fun (name, value) => addEnv name value) ++ userEnv }]

def args : List Patch :=
  [{ patch := [
    .add "/statefulset/spec/template/spec/containers/0/args" (.arr ["jupyter", "notebook"])] }]

def registrySecret (config : Config) (server : UserServer) (gitlabUser : GitlabUser) : Json :=
  .obj [("auths", .obj [(config.gitRegistry, .obj [
    ("Username", "oauth2"),
    ("Password", optStr server.user.gitToken),
    ("Email", gitlabUser.email)])])]

def imagePullSecret (config : Config) (pyRepr : Json → String) (server : UserServer) :
    Except PyError (List Patch) := do
  if !server.isImagePrivate then
    return []
  let imagePullSecretName := server.serverName.text ++ "-image-secret"
  let gitlabUser ← server.user.gitlabUser
  let secret := PyText.b64encode (PyText.dumps pyRepr (registrySecret config server gitlabUser))
  return [
    { patch := [
      .add "/image_pull_secret"
        (.obj [
          ("apiVersion", "v1"),
          ("data", .obj [(".dockerconfigjson", secret)]),
          ("kind", "Secret"),
          ("metadata", .obj [
            ("name", imagePullSecretName), ("namespace", server.preferredNamespace)]),
          ("type", "kubernetes.io/dockerconfigjson")])] },
    { patch := [
      .add "/statefulset/spec/template/spec/imagePullSecrets/-"
        (.obj [("name", imagePullSecretName)])] }]

def disableServiceLinks : List Patch :=
  [{ patch := [.add "/statefulset/spec/template/spec/enableServiceLinks" false] }]

def rstudioEnvVariables (server : UserServer) : List Patch :=
  if server.environmentVariables.isEmpty then []
  else
    let secretName := server.serverName.text ++ "-renviron"
    let lines := server.environmentVariables.map fun (k, v) => k ++ "=" ++ v
    [{ patch := [
      .add "/renviron"
        (.obj [
          ("apiVersion", "v1"),
          ("kind", "Secret"),
          ("metadata", .obj [("name", secretName)]),
          ("stringData", .obj [(".Renviron", .str ("\n".intercalate lines))])]),
      .add "/statefulset/spec/template/spec/volumes/-"
        (.obj [("name", secretName), ("secret", .obj [("secretName", secretName)])]),
      .add "/statefulset/spec/template/spec/containers/0/volumeMounts/-"
        (.obj [
          ("name", secretName),
          ("mountPath", "/home/jovyan/.Renviron"),
          ("subPath", ".Renviron"),
          ("readOnly", true)])] }]

def initUserSecrets (config : Config) (server : UserServer) (k8sSecretName : String) : Json :=
  .obj [
    ("env", .arr [
      envVar "DATA_SERVICE_URL" config.dataServiceUrl,
      envVar "RENKU_ACCESS_TOKEN" (pyStr server.user.accessToken),
      envVar "ENCRYPTED_SECRETS_MOUNT_PATH" "/encrypted",
      envVar "DECRYPTED_SECRETS_MOUNT_PATH" "/decrypted"]),
    ("image", config.userSecretsImage),
    ("name", "init-user-secrets"),
    ("resources", requestsOnly "50m" "50Mi"),
    ("volumeMounts", .arr [
      .obj [("mountPath", "/encrypted"), ("name", .str (k8sSecretName ++ "-volume")),
        ("readOnly", true)],
      .obj [("mountPath", "/decrypted"), ("name", "user-secrets-volume"), ("readOnly", false)]])]

def userSecrets (config : Config) (server : UserServer) : List Patch :=
  match server.userSecrets with
  | none => []
  | some secrets => [
    { patch := [
      .add "/statefulset/spec/template/spec/initContainers/-"
        (initUserSecrets config server secrets.name)] },
    { patch := [
      .add "/statefulset/spec/template/spec/volumes/-" (memoryVolume "user-secrets-volume"),
      .add "/statefulset/spec/template/spec/volumes/-"
        (.obj [
          ("name", .str (secrets.name ++ "-volume")),
          ("secret", .obj [("secretName", secrets.name)])])] },
    { patch := [
      .add "/statefulset/spec/template/spec/containers/0/volumeMounts/-"
        (.obj [
          ("mountPath", secrets.mountPath), ("name", "user-secrets-volume"),
          ("readOnly", true)])] }]

/-! ### git_proxy.py -/

def gitProxyEnv (config : Config) (pyRepr : Json → String) (server : UserServer) : List Json :=
  let gitProxy := config.sessions.gitProxy
  [envVar "GIT_PROXY_PORT" (toString gitProxy.port),
    envVar "GIT_PROXY_HEALTH_PORT" (toString gitProxy.healthPort),
    envVar "GIT_PROXY_ANONYMOUS_SESSION" (boolText (!server.user.isRegistered)),
    envVar "GIT_PROXY_RENKU_ACCESS_TOKEN" (pyStr server.user.accessToken),
    envVar "GIT_PROXY_RENKU_REFRESH_TOKEN" (pyStr server.user.refreshToken),
    envVar "GIT_PROXY_RENKU_REALM" config.keycloakRealm,
    envVar "GIT_PROXY_RENKU_CLIENT_ID" gitProxy.renkuClientId,
    envVar "GIT_PROXY_RENKU_CLIENT_SECRET" gitProxy.renkuClientSecret,
    envVar "GIT_PROXY_RENKU_URL" (.str ("https://" ++ config.sessions.ingress.host)),
    envVar "GIT_PROXY_REPOSITORIES"
      (PyText.dumps pyRepr (.arr (server.repositories.map Repository.asDict))),
    envVar "GIT_PROXY_PROVIDERS"
      (PyText.dumps pyRepr (.arr (server.gitProviders.map GitProvider.asDict)))]

def gitProxy (config : Config) (pyRepr : Json → String) (server : UserServer) : List Patch :=
  if !server.user.isRegistered ∨ server.repositories.isEmpty then []
  else
    let probe : Json := .obj [
      ("httpGet", .obj [
        ("path", "/health"), ("port", config.sessions.gitProxy.healthPort)]),
      ("initialDelaySeconds", .int 3)]
    [{ patch := [
      .add "/statefulset/spec/template/spec/containers/-"
        (.obj [
          ("image", config.sessions.gitProxy.image),
          ("securityContext", .obj [
            ("fsGroup", .int 100), ("runAsGroup", .int 1000), ("runAsUser", .int 1000),
            ("allowPrivilegeEscalation", false), ("runAsNonRoot", true)]),
          ("name", "git-proxy"),
          ("env", .arr (gitProxyEnv config pyRepr server)),
          ("livenessProbe", probe),
          ("readinessProbe", probe),
          ("volumeMounts", .arr (getCertificatesVolumeMounts config true false true)),
          ("resources", .obj [("requests", .obj [("memory", "16Mi"), ("cpu", "50m")])])])] }]

/-! ### git_sidecar.py -/

def gitSidecarEnv (config : Config) (server : UserServer) : List Json :=
  let gitRpcServer := config.sessions.gitRpcServer
  let sidecarUrl := "/sessions/" ++ server.serverName.text ++ "/sidecar/"
  [envVar "GIT_RPC_MOUNT_PATH" server.workDir.absolute.asPosix,
    envVar "GIT_RPC_PORT" (toString gitRpcServer.port),
    envVar "GIT_RPC_HOST" gitRpcServer.host,
    envVar "GIT_RPC_URL_PREFIX" sidecarUrl,
    envVar "GIT_RPC_SENTRY__ENABLED" (boolText gitRpcServer.sentry.enabled),
    envVar "GIT_RPC_SENTRY__DSN" (optStr gitRpcServer.sentry.dsn),
    envVar "GIT_RPC_SENTRY__ENVIRONMENT" (optStr gitRpcServer.sentry.env),
    envVar "GIT_RPC_SENTRY__SAMPLE_RATE" gitRpcServer.sentry.sampleRate,
    envVar "SENTRY_RELEASE" (optStr config.sentryRelease),
    envVar "CI_COMMIT_SHA" (pyStr server.commitSha),
    envVar "RENKU_USERNAME" server.user.username,
    envVar "GIT_RPC_GIT_PROXY_HEALTH_PORT" (toString config.sessions.gitProxy.healthPort)]

def gitSidecarVolumeMount (server : UserServer) : Json :=
  let subPath : List (String × Json) :=
    match server.gitlabProject with
    | some project => if project.path = "" then [] else [("subPath", project.path)]
    | none => []
  .obj (("mountPath", .str server.workDir.absolute.asPosix) :: ("name", "workspace") :: subPath)

def gitSidecar (config : Config) (server : UserServer) : List Patch :=
  if !server.user.isRegistered ∨ server.repositories.isEmpty then []
  else
    let port := config.sessions.gitRpcServer.port
    let name := server.serverName.text
    let probe (failureThreshold : Int) : Json := .obj [
      ("httpGet", .obj [
        ("port", port), ("path", .str ("/sessions/" ++ name ++ "/sidecar/health"))]),
      ("periodSeconds", .int 10),
      ("failureThreshold", failureThreshold)]
    [{ patch := [
      .add "/statefulset/spec/template/spec/containers/-"
        (.obj [
          ("image", config.sessions.gitRpcServer.image),
          ("name", "git-sidecar"),
          ("ports", .arr [
            .obj [("containerPort", port), ("name", "git-port"), ("protocol", "TCP")]]),
          ("resources", .obj [("requests", .obj [("memory", "84Mi"), ("cpu", "100m")])]),
          ("env", .arr (gitSidecarEnv config server)),
          ("securityContext", .obj [
            ("allowPrivilegeEscalation", false), ("fsGroup", .int 100),
            ("runAsGroup", .int 1000), ("runAsUser", .int 1000), ("runAsNonRoot", true)]),
          ("volumeMounts", .arr [gitSidecarVolumeMount server]),
          ("livenessProbe", probe 2),
          ("readinessProbe", probe 6),
          ("startupProbe", probe 30)])] },
    -- the oauth2-proxy authenticates the requests for the sidecar
    { patch := [
      .replace "/statefulset/spec/template/spec/containers/1/args/6"
        (.str ("--upstream=http://127.0.0.1:8888/sessions/" ++ name ++ "/")),
      .add "/statefulset/spec/template/spec/containers/1/args/-"
        (.str ("--upstream=http://127.0.0.1:" ++ toString port ++ "/sessions/" ++ name ++ "/sidecar/")),
      .add "/statefulset/spec/template/spec/containers/1/args/-"
        (.str ("--skip-auth-route=^/sessions/" ++ name ++ "/sidecar/health$")),
      .add "/statefulset/spec/template/spec/containers/1/args/-"
        (.str ("--skip-auth-route=^/sessions/" ++ name ++ "/sidecar/health/$")),
      .add "/statefulset/spec/template/spec/containers/1/args/-" "--skip-jwt-bearer-tokens=true",
      .add "/statefulset/spec/template/spec/containers/1/args/-"
        (.str ("--skip-auth-route=^/sessions/" ++ name ++ "/sidecar/jsonrpc/map$")),
      .add "/statefulset/spec/template/spec/containers/1/args/-" "--oidc-extra-audience=renku"] },
    -- the UI server reaches the sidecar through this service
    { patch := [
      .add "/serviceRpcServer"
        (.obj [
          ("apiVersion", "v1"),
          ("kind", "Service"),
          ("metadata", .obj [
            ("name", .str (name ++ "-rpc-server")), ("namespace", server.preferredNamespace)]),
          ("spec", .obj [
            ("ports", .arr [.obj [
              ("name", "http"), ("port", .int 80), ("protocol", "TCP"), ("targetPort", port)]]),
            ("selector", .obj [("app", name)])])])] }]

/-! ### ssh.py -/

def ssh (config : Config) : List Patch :=
  if !config.sessions.ssh.enabled then []
  else
    { patch := [
      .add "/service/spec/ports/-"
        (.obj [
          ("name", "ssh"), ("port", config.sessions.ssh.servicePort), ("protocol", "TCP"),
          ("targetPort", "ssh")]),
      .add "/statefulset/spec/template/spec/containers/0/ports"
        (.arr [.obj [
          ("name", "ssh"), ("containerPort", config.sessions.ssh.containerPort),
          ("protocol", "TCP")]])] } ::
    match config.sessions.ssh.hostKeySecret with
    | none => []
    | some hostKeySecret =>
      if hostKeySecret = "" then []
      else
        [{ patch := [
          .add "/statefulset/spec/template/spec/containers/0/volumeMounts/-"
            (.obj [
              ("name", "ssh-host-keys"), ("mountPath", config.sessions.ssh.hostKeyLocation)]),
          .add "/statefulset/spec/template/spec/volumes/-"
            (.obj [
              ("name", "ssh-host-keys"),
              ("secret", .obj [("secretName", hostKeySecret)])])] }]

/-! ### init_containers.py -/

def gitCloneEnv (config : Config) (pyRepr : Json → String) (server : UserServer) : List Json :=
  let sentry := config.sessions.gitClone.sentry
  let certs := caCertificatesFile (etcSslCerts true)
  [envVar "GIT_CLONE_MOUNT_PATH" server.workspaceMountPath.absolute.asPosix,
    envVar "GIT_CLONE_LFS_AUTO_FETCH" (if server.serverOptions.lfsAutoFetch then "1" else "0"),
    envVar "GIT_CLONE_USER__USERNAME" server.user.username,
    envVar "GIT_CLONE_USER__RENKU_TOKEN" (pyStr server.user.accessToken),
    envVar "GIT_CLONE_IS_GIT_PROXY_ENABLED" (if server.user.isRegistered then "1" else "0"),
    envVar "GIT_CLONE_SENTRY__ENABLED" (boolText sentry.enabled),
    envVar "GIT_CLONE_SENTRY__DSN" (optStr sentry.dsn),
    envVar "GIT_CLONE_SENTRY__ENVIRONMENT" (optStr sentry.env),
    envVar "GIT_CLONE_SENTRY__SAMPLE_RATE" sentry.sampleRate,
    envVar "SENTRY_RELEASE" (optStr config.sentryRelease),
    envVar "REQUESTS_CA_BUNDLE" certs,
    envVar "SSL_CERT_FILE" certs] ++
  (match server.user with
    | .anonymous _ => []
    | .registered u => [
      envVar "GIT_CLONE_USER__EMAIL" u.gitlabUser.email,
      envVar "GIT_CLONE_USER__FULL_NAME" u.gitlabUser.name]) ++
  (server.repositories.zipIdx.map fun (repo, idx) =>
    envVar ("GIT_CLONE_REPOSITORIES_" ++ toString idx ++ "_") (PyText.dumps pyRepr repo.asDict)) ++
  (server.requiredGitProviders.zipIdx.map fun (provider, idx) =>
    envVar ("GIT_CLONE_GIT_PROVIDERS_" ++ toString idx ++ "_")
      (PyText.dumps pyRepr provider.asDict))

def gitCloneContainer (config : Config) (pyRepr : Json → String) (server : UserServer) : Json :=
  .obj [
    ("image", config.sessions.gitClone.image),
    ("name", "git-clone"),
    ("resources", requestsOnly "100m" "100Mi"),
    ("securityContext", .obj [
      ("allowPrivilegeEscalation", false), ("fsGroup", .int 100), ("runAsGroup", .int 100),
      ("runAsUser", .int 1000), ("runAsNonRoot", true)]),
    ("volumeMounts", .arr (
      .obj [("mountPath", .str server.workspaceMountPath.absolute.asPosix), ("name", "workspace")] ::
        getCertificatesVolumeMounts config true false true)),
    ("env", .arr (gitCloneEnv config pyRepr server))]

def gitClone (config : Config) (pyRepr : Json → String) (server : UserServer) : List Patch :=
  if server.repositories.isEmpty then []
  else
    [{ patch := [
      .add "/statefulset/spec/template/spec/initContainers/-"
        (gitCloneContainer config pyRepr server)] }]

def initCertificates (config : Config) : Json :=
  .obj [
    ("image", config.sessions.caCerts.image),
    ("name", "init-certificates"),
    ("resources", requestsOnly "50m" "50Mi"),
    ("volumeMounts", .arr (getCertificatesVolumeMounts config true true false))]

/-- The secrets of the configuration that are named. -/
def caCertsSources (config : Config) : List Json :=
  config.sessions.caCerts.secrets.filterMap fun i =>
    match i.get? "secret" with
    | none | some .null => none
    | some name => some (.obj [("secret", .obj [("name", name)])])

def certificates (config : Config) : List Patch := [
  { patch := [
    .add "/statefulset/spec/template/spec/initContainers/-" (initCertificates config)] },
  { patch := [
    .add "/statefulset/spec/template/spec/volumes/-" (memoryVolume "etc-ssl-certs")] },
  { patch := [
    .add "/statefulset/spec/template/spec/volumes/-"
      (.obj [
        ("name", "custom-ca-certs"),
        ("projected", .obj [
          ("defaultMode", .int 440), ("sources", .arr (caCertsSources config))])])] }]

def downloadImageContainer (server : UserServer) : Json :=
  let image : List (String × Json) := server.image.elim [] fun image => [("image", image)]
  .obj (("args", .arr ["exit", "0"]) :: ("command", .arr ["sh", "-c"]) :: image ++
    [("name", .str "download-image"), ("resources", requestsOnly "50m" "50Mi")])

def downloadImage (server : UserServer) : List Patch :=
  [{ patch := [
    .add "/statefulset/spec/template/spec/initContainers/-" (downloadImageContainer server)] }]

/-! ### inject_certificates.py -/

def injectCertificates (config : Config) (server : UserServer) : List Patch :=
  let etcCertVolumeMounts := getCertificatesVolumeMounts config true false true
  { patch := etcCertVolumeMounts.map fun volumeMount =>
      .add "/statefulset/spec/template/spec/containers/1/volumeMounts/-" volumeMount } ::
  if server.user.isRegistered then
    [{ patch := [
      .add "/statefulset/spec/template/spec/containers/1/env/-"
        (envVar "OAUTH2_PROXY_PROVIDER_CA_FILES"
          (.str (",".intercalate (etcCertVolumeMounts.map caCertificatesFile))))] }]
  else []

/-! ### cloudstorage.py -/

/-- `f"{server.server_name}-ds-{i}"` -/
def storageBaseName (server : UserServer) (i : Nat) : String :=
  server.serverName.text ++ "-ds-" ++ toString i

def storageMountEnv (i : Nat) (storage : RCloneStorage) : Json :=
  envVar ("GIT_CLONE_STORAGE_MOUNTS_" ++ toString i) storage.mountFolder

def cloudstorage (config : Config) (py : PyText.Str) (server : UserServer) :
    Except PyError (List Patch) := do
  let patches ← server.cloudstorage.zipIdx.mapM fun (storage, i) => do
    let manifestPatch ← storage.getManifestPatch config py (storageBaseName server i)
    let mountPatch : List Patch :=
      if server.repositories.isEmpty then []
      else [{ patch := [
        .add "/statefulset/spec/template/spec/initContainers/2/env/-"
          (storageMountEnv i storage)] }]
    pure (manifestPatch ++ mountPatch)
  pure patches.flatten

end RenkuNotebooks.Notebooks.AmaltheaPatches
