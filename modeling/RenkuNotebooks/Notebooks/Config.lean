import RenkuNotebooks.Foundation.Json

/-!
# Configuration

The values of `renku_notebooks/config` that the modelled functions read, already parsed: flags
are booleans, numbers are numbers, and what is loaded from YAML is JSON.
-/

namespace RenkuNotebooks.Notebooks

inductive CPUEnforcement where
  | lax
  | strict
  | off
  deriving DecidableEq, Repr

structure SentryConfig where
  enabled : Bool
  dsn : Option String
  env : Option String
  /-- The text `str` makes of the sample rate. -/
  sampleRate : String

structure GitProxyConfig where
  renkuClientSecret : String
  port : Int
  healthPort : Int
  image : String
  renkuClientId : String

structure GitRpcServerConfig where
  host : String
  port : Int
  image : String
  sentry : SentryConfig

structure GitCloneConfig where
  image : String
  sentry : SentryConfig

structure SessionOidcConfig where
  clientId : String
  clientSecret : String
  allowUnverifiedEmail : Bool

structure CustomCaCertsConfig where
  image : String
  path : String
  secrets : List Json

structure SessionIngress where
  host : String
  tlsSecret : Option String
  annotations : Json

structure SessionContainers where
  anonymous : List String
  registered : List String

structure SessionSshConfig where
  enabled : Bool
  servicePort : Int
  containerPort : Int
  hostKeySecret : Option String
  hostKeyLocation : String

structure GenericCullingConfig where
  idleSeconds : Int
  maxAgeSeconds : Int
  hibernatedSeconds : Int

structure SessionCullingConfig where
  anonymous : GenericCullingConfig
  registered : GenericCullingConfig

structure SessionStorageConfig where
  pvsEnabled : Bool
  pvsStorageClass : Option String
  useEmptyDirSizeLimit : Bool

structure SessionConfig where
  culling : SessionCullingConfig
  gitProxy : GitProxyConfig
  gitRpcServer : GitRpcServerConfig
  gitClone : GitCloneConfig
  ingress : SessionIngress
  caCerts : CustomCaCertsConfig
  oidc : SessionOidcConfig
  storage : SessionStorageConfig
  containers : SessionContainers
  ssh : SessionSshConfig
  enforceCpuLimits : CPUEnforcement
  nodeSelector : Json
  affinity : Json
  tolerations : List Json
  defaultImage : String

structure AmaltheaConfig where
  group : String
  version : String

structure Config where
  sessions : SessionConfig
  amalthea : AmaltheaConfig
  gitRegistry : String
  cloudStorageClass : String
  userSecretsImage : String
  secretsStorageServiceUrl : String
  keycloakRealm : String
  dataServiceUrl : String
  /-- `config.server_options.defaults["defaultUrl"]` -/
  defaultUrl : String
  /-- `os.environ.get("SENTRY_RELEASE")` -/
  sentryRelease : Option String

/-- `_ServersGetEndpointAnnotations.renku_annotation_prefix` -/
def renkuAnnotationPrefix : String := "renku.io/"

/-- The label that K8sClient compares with the user's safe username. -/
def usernameLabel : String := renkuAnnotationPrefix ++ "safe-username"

/-- `str` of an optional string. -/
def pyStr : Option String → String
  | none => "None"
  | some s => s

/-- `str(b).lower()` -/
def boolText (b : Bool) : String := if b then "true" else "false"

/-- An optional string as a JSON value. -/
def optStr : Option String → Json
  | none => .null
  | some s => .str s

/-- `default_config`; the ingress host and the client secrets have to be provided. -/
def defaultConfig : Config where
  sessions := {
    culling := {
      anonymous := { idleSeconds := 43200, maxAgeSeconds := 0, hibernatedSeconds := 1 }
      registered := { idleSeconds := 86400, maxAgeSeconds := 0, hibernatedSeconds := 259200 } }
    gitProxy := {
      renkuClientSecret := "renku-client-secret", port := 8080, healthPort := 8081,
      image := "renku/git-https-proxy:latest", renkuClientId := "renku" }
    gitRpcServer := {
      host := "0.0.0.0", port := 4000, image := "renku/git-rpc-server:latest",
      sentry := { enabled := false, dsn := none, env := none, sampleRate := "0.2" } }
    gitClone := {
      image := "renku/git-clone:latest",
      sentry := { enabled := false, dsn := none, env := none, sampleRate := "0.2" } }
    ingress := { host := "renku.example.org", tlsSecret := none, annotations := .obj [] }
    caCerts := {
      image := "renku/certificates:latest", path := "/usr/local/share/ca-certificates",
      secrets := [] }
    oidc := {
      clientId := "renku-jupyterserver", clientSecret := "secret", allowUnverifiedEmail := false }
    storage := { pvsEnabled := true, pvsStorageClass := none, useEmptyDirSizeLimit := false }
    containers := {
      anonymous := ["jupyter-server", "passthrough-proxy", "git-proxy"]
      registered := ["jupyter-server", "oauth2-proxy", "git-proxy", "git-sidecar"] }
    ssh := {
      enabled := false, servicePort := 22, containerPort := 2022, hostKeySecret := none,
      hostKeyLocation := "/opt/ssh/ssh_host_keys" }
    enforceCpuLimits := .off
    nodeSelector := .obj []
    affinity := .obj []
    tolerations := []
    defaultImage := "renku/singleuser:latest" }
  amalthea := { group := "amalthea.dev", version := "v1alpha1" }
  gitRegistry := "registry.gitlab.com"
  cloudStorageClass := "csi-rclone"
  userSecretsImage := "renku/secrets-mount:latest"
  secretsStorageServiceUrl := "http://renku-secrets-storage"
  keycloakRealm := "Renku"
  dataServiceUrl := "http://renku-data-service"
  defaultUrl := "/lab"
  sentryRelease := none

end RenkuNotebooks.Notebooks
