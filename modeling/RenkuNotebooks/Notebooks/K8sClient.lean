import RenkuNotebooks.Foundation.PyText
import RenkuNotebooks.Notebooks.Cluster

/-!
# The Kubernetes client

`NamespacedK8sClient`, `JsServerCache` and `K8sClient` as programs that call the API and the
cache.
-/

namespace RenkuNotebooks.Notebooks

open Prog

/-- The two kinds of tokens in a session. -/
structure RenkuTokens where
  accessToken : String
  refreshToken : String

structure GitlabToken where
  accessToken : Option String
  expiresAt : Int

/-- `try … except ApiException as err`, with the status of the error. -/
def exceptApi {α β : Type} (reply : Except Fault α) (body : α → Service β)
    (handler : Nat → Service β) : Service β :=
  match reply with
  | .ok a => body a
  | .error (.status status) => handler status
  | .error .unreachable => .raise .requestException

def raiseApi {β : Type} (status : Nat) : Service β := .raise (.apiException status)

/-- A missing object is not an error. -/
def ignoreMissing (status : Nat) : Service Unit :=
  if status = 404 then pure () else raiseApi status

/-- The keys of the dictionary below `.get(key, {})` steps. -/
def keysAt (path : List String) (j : Json) : List String :=
  ((j.dig path).elim [] Json.membersOf).map (·.1)

namespace NamespacedK8sClient

variable (ns : String)

def getContainerLogs (serverName container : String) (maxLogLines : Int) :
    Service (Option String) := do
  let reply ← perform (.readPodLog ns serverName container maxLogLines)
  exceptApi reply (fun logs => pure (some logs)) fun status =>
    if status = 400 ∨ status = 404 then pure none
    else .raise (.generic (intermittentError
      ("Logs cannot be read for pod " ++ serverName ++ "-0, container " ++ container ++ ".")))

/-- The logs of the containers added to the dictionary `output`. -/
def getPodLogs (serverName : String) (maxLogLines : Int) :
    List String → List (String × Json) → Service (List (String × Json))
  | [], output => pure output
  | container :: containers, output => do
    let logs ← getContainerLogs ns serverName container maxLogLines
    match logs with
    | some text =>
      if text = "" then getPodLogs serverName maxLogLines containers output
      else getPodLogs serverName maxLogLines containers (Json.setMember container text output)
    | none => getPodLogs serverName maxLogLines containers output

def getServer (name : String) : Service (Option Json) := do
  let reply ← perform (.getServer ns name)
  exceptApi reply (fun js => pure (some js)) fun status =>
    if status = 400 ∨ status = 404 then pure none
    else .raise (.generic (intermittentError ("Cannot get server " ++ name ++ " from the k8s API.")))

def listServers (labelValue : String) : Service (List Json) := do
  let reply ← perform (.listServers ns labelValue)
  exceptApi reply pure fun status =>
    if status = 400 ∨ status = 404 then pure []
    else .raise (.generic (intermittentError
      ("Cannot list servers from the k8s API with selector " ++ usernameLabel ++ "=" ++
        labelValue ++ ".")))

/-- `retry_with_exponential_backoff(lambda x: x is None)(self.get_server)`, with the number of
tries that are left. -/
def retryGetServer (name : String) : Nat → Service Json
  | 0 => .raise (.generic (retryTimeoutError
      "Retrying the function get_server timed out after 10 retries."))
  | tries + 1 => do
    match ← getServer ns name with
    | some server => pure server
    | none => retryGetServer name tries

def manifestName (manifest : Json) : String :=
  match manifest.dig ["metadata", "name"] with
  | some (.str name) => name
  | _ => ""

def createServer (manifest : Json) : Service Json := do
  let serverName := manifestName manifest
  let reply ← perform (.createServer ns serverName manifest)
  -- the wait is meant for the cache; the look-up goes to the API
  exceptApi reply (fun _ => retryGetServer ns serverName 10) fun _ =>
    .raise (.generic (cannotStartServerError ("Cannot start the session " ++ serverName)))

def patchServer (serverName : String) (patch : ServerPatch) : Service Json := do
  let reply ← perform (.patchServer ns serverName patch)
  exceptApi reply pure fun _ => .raise (.generic patchServerError)

def patchStatefulset (serverName : String) (patch : List PatchOp) : Service Unit := do
  let reply ← perform (.patchStatefulset ns serverName patch)
  exceptApi reply pure ignoreMissing

def deleteServer (serverName : String) (forced : Bool) : Service Unit := do
  let reply ← perform (.deleteServer ns serverName forced)
  exceptApi reply pure fun _ => .raise (.generic deleteServerError)

/-! ### Tokens -/

/-- The first container of this name with its index. -/
def findNamed (name : String) (containers : List Json) : Option (Json × Nat) :=
  containers.zipIdx.find? fun c => c.1.get? "name" = some (.str name)

/-- `find_env_var`: the index of the variable in the container. -/
def findEnvVar (container : Json) (envName : String) : Except PyError (Option Nat) :=
  match container.get? "env" with
  | some (.arr env) => .ok ((findNamed envName env).map (·.2))
  | _ => .error .typeError

/-- The replacement of one variable of one container, where both exist. -/
def tokenPatch (listName containerName envName token : String) (containers : List Json) :
    Except PyError (List PatchOp) :=
  match findNamed containerName containers with
  | none => .ok []
  | some (container, containerIndex) => do
    match ← findEnvVar container envName with
    | none => pure []
    | some envIndex => pure [.replace ("/spec/template/spec/" ++ listName ++ "/" ++
        toString containerIndex ++ "/env/" ++ toString envIndex ++ "/value") (.str token)]

def containersAt (listName : String) (sts : Json) : Except PyError (List Json) :=
  match sts.dig ["spec", "template", "spec", listName] with
  | some (.arr containers) => .ok containers
  | _ => .error .typeError

def getStatefulsetTokenPatches (sts : Json) (tokens : RenkuTokens) :
    Except PyError (List PatchOp) := do
  let containers ← containersAt "containers" sts
  let initContainers ← containersAt "initContainers" sts
  let access ← tokenPatch "containers" "git-proxy" "GIT_PROXY_RENKU_ACCESS_TOKEN"
    tokens.accessToken containers
  let refresh ← tokenPatch "containers" "git-proxy" "GIT_PROXY_RENKU_REFRESH_TOKEN"
    tokens.refreshToken containers
  let clone ← tokenPatch "initContainers" "git-clone" "GIT_CLONE_USER__RENKU_TOKEN"
    tokens.accessToken initContainers
  let secrets ← tokenPatch "initContainers" "init-user-secrets" "RENKU_ACCESS_TOKEN"
    tokens.accessToken initContainers
  pure (access ++ refresh ++ clone ++ secrets)

def patchStatefulsetTokens (name : String) (tokens : RenkuTokens) : Service Unit := do
  let reply ← perform (.readStatefulset ns name)
  let refresh (sts : Json) : Service Unit := do
    let patches ← ofExcept (getStatefulsetTokenPatches sts tokens)
    if patches.isEmpty then pure ()
    else do
      let reply ← perform (.patchStatefulset ns name patches)
      exceptApi reply pure raiseApi
  exceptApi reply refresh ignoreMissing

/-- The registry secret with a new password; `decode` reads the base64 text of the old one. -/
def refreshedDockerConfig (decode : String → Except PyError Json) (pyRepr : Json → String)
    (secret : Json) (token : GitlabToken) : Except PyError String := do
  let old ← match secret.dig ["data", ".dockerconfigjson"] with
    | some (.str text) => decode text
    | _ => .error (.keyError ".dockerconfigjson")
  let auths ← match old.get? "auths" with
    | some (.obj auths) => pure auths
    | _ => .error (.keyError "auths")
  let (hostname, auth) ← match auths with
    | (hostname, auth) :: _ =>
      if hostname ≠ "" then pure (hostname, auth)
      else .error (.generic (programmingError
        "Failed to refresh the access credentials in the image pull secret."
        "Please contact a Renku administrator."))
    | [] => .error (.generic (programmingError
        "Failed to refresh the access credentials in the image pull secret."
        "Please contact a Renku administrator."))
  let email ← match auth.get? "Email" with
    | some email => pure email
    | none => .error (.keyError "Email")
  let new : Json := .obj [("auths", .obj [(hostname, .obj [
    ("Username", "oauth2"), ("Password", optStr token.accessToken), ("Email", email)])])]
  pure (PyText.b64encode (PyText.dumps pyRepr new))

def patchImagePullSecret (decode : String → Except PyError Json) (pyRepr : Json → String)
    (serverName : String) (token : GitlabToken) : Service Unit := do
  let reply ← perform (.readImageSecret ns serverName)
  let refresh (secret : Json) : Service Unit := do
    let config ← ofExcept (refreshedDockerConfig decode pyRepr secret token)
    let reply ← perform (.patchImageSecret ns serverName
      [.replace "/data/.dockerconfigjson" (.str config)])
    exceptApi reply pure raiseApi
  exceptApi reply refresh ignoreMissing

end NamespacedK8sClient

/-- At most one server; `tooMany` is raised with the number of servers. -/
def single (tooMany : Nat → PyError) : List Json → Except PyError (Option Json)
  | [] => .ok none
  | [server] => .ok (some server)
  | servers => .error (tooMany servers.length)

namespace JsServerCache

def unavailable : PyError :=
  .generic (jsCacheError "The jupyter server cache is not available")

def unexpectedStatus (status : Nat) : PyError :=
  .generic (jsCacheError ("The JSCache produced an unexpected status code: " ++ toString status))

def orCacheError (reply : Except Fault (List Json)) : Service (List Json) :=
  match reply with
  | .ok servers => .ret servers
  | .error (.status status) => .raise (unexpectedStatus status)
  | .error .unreachable => .raise unavailable

def listServers (safeUsername : String) : Service (List Json) := do
  let reply ← perform (.cacheList safeUsername)
  orCacheError reply

def tooMany (name : String) (found : Nat) : PyError :=
  .generic (programmingError ("Expected to find 1 server when getting server " ++ name ++
    ", found " ++ toString found ++ ".") maintainersDetail)

def getServer (name : String) : Service (Option Json) := do
  let reply ← perform (.cacheGet name)
  let output ← orCacheError reply
  ofExcept (single (tooMany name) output)

end JsServerCache

structure K8sClient where
  renkuNs : String
  sessionNs : Option String
  bypassCacheOnFailure : Bool

def PyError.isJSCacheError : PyError → Bool
  | .generic e => e.errorClass = .jsCacheError
  | _ => false

namespace K8sClient

variable (k : K8sClient)

def preferredNamespace : String := k.sessionNs.getD k.renkuNs

/-- The namespace of the client for the server, `None` where that client is not configured. -/
def namespaceOf (server : Json) : Except PyError String :=
  if server.dig ["metadata", "namespace"] = some (.str k.renkuNs) then .ok k.renkuNs
  else
    match k.sessionNs with
    | some ns => .ok ns
    | none => .error .attributeError

/-- `except JSCacheError` around a read of the cache. -/
def orBypass {α : Type} (cached fallback : Service α) : Service α :=
  cached.tryCatch fun e =>
    if e.isJSCacheError ∧ k.bypassCacheOnFailure then fallback else .raise e

def listServersFromApi (safeUsername : String) : Service (List Json) := do
  let renku ← NamespacedK8sClient.listServers k.renkuNs safeUsername
  match k.sessionNs with
  | none => pure renku
  | some ns => do
    let sessions ← NamespacedK8sClient.listServers ns safeUsername
    pure (renku ++ sessions)

def listServers (safeUsername : String) : Service (List Json) :=
  k.orBypass (JsServerCache.listServers safeUsername) (k.listServersFromApi safeUsername)

/-- The results that count as found. -/
def foundServers (results : List (Option Json)) : List Json :=
  results.filterMap fun r => r.filter (·.truthy)

def tooMany (name : String) (found : Nat) : PyError :=
  .generic (programmingError ("Expected less than two results for searching for server " ++ name ++
    ", but got " ++ toString found) maintainersDetail)

/-- The look-up in the sessions namespace, where there is one. -/
def getSessionServer (name : String) : Service (Option Json) :=
  match k.sessionNs with
  | none => pure none
  | some ns => NamespacedK8sClient.getServer ns name

def getServerFromApi (name : String) : Service (Option Json) := do
  let session ← k.getSessionServer name
  let renku ← NamespacedK8sClient.getServer k.renkuNs name
  ofExcept (single (tooMany name) (foundServers [session, renku]))

/-- Servers of other users are not found. -/
def ownServer (safeUsername : String) (server : Option Json) : Option Json :=
  server.filter fun s => !s.truthy || decide (hasLabel usernameLabel safeUsername s)

def getServer (name safeUsername : String) : Service (Option Json) := do
  let server ← k.orBypass (JsServerCache.getServer name) (k.getServerFromApi name)
  pure (ownServer safeUsername server)

def missing (name safeUsername purpose : String) : PyError :=
  .generic (missingResourceError ("Cannot find server " ++ name ++ " for user " ++ safeUsername ++
    purpose))

def getServerLogs (serverName safeUsername : String) (maxLogLines : Int) :
    Service (List (String × Json)) := do
  match ← k.getServer serverName safeUsername with
  | none => .raise (missing serverName safeUsername " to read the logs from.")
  | some server => do
    let containers := keysAt ["status", "containerStates", "init"] server ++
      keysAt ["status", "containerStates", "regular"] server
    let ns ← ofExcept (k.namespaceOf server)
    NamespacedK8sClient.getPodLogs ns serverName maxLogLines containers []

def createServer (manifest : Json) (safeUsername : String) : Service Json := do
  let server ← k.getServer (NamespacedK8sClient.manifestName manifest) safeUsername
  match server with
  | some existing =>
    if existing.truthy then pure existing
    else NamespacedK8sClient.createServer k.preferredNamespace manifest
  | none => NamespacedK8sClient.createServer k.preferredNamespace manifest

/-- The look-up that `patch_server` and `delete_server` begin with. -/
def ownNamespace (serverName safeUsername purpose : String) : Service String := do
  match ← k.getServer serverName safeUsername with
  | none => .raise (missing serverName safeUsername purpose)
  | some server =>
    if server.truthy then ofExcept (k.namespaceOf server)
    else .raise (missing serverName safeUsername purpose)

def patchServer (serverName safeUsername : String) (patch : ServerPatch) : Service Json := do
  let ns ← k.ownNamespace serverName safeUsername " in order to patch it."
  NamespacedK8sClient.patchServer ns serverName patch

def patchStatefulset (serverName : String) (patch : List PatchOp) : Service Unit :=
  NamespacedK8sClient.patchStatefulset k.preferredNamespace serverName patch

def deleteServer (serverName safeUsername : String) (forced : Bool) : Service Unit := do
  let ns ← k.ownNamespace serverName safeUsername " in order to delete it."
  NamespacedK8sClient.deleteServer ns serverName forced

def patchTokens (decode : String → Except PyError Json) (pyRepr : Json → String)
    (serverName : String) (renkuTokens : RenkuTokens) (gitlabToken : GitlabToken) :
    Service Unit := do
  NamespacedK8sClient.patchStatefulsetTokens k.preferredNamespace serverName renkuTokens
  NamespacedK8sClient.patchImagePullSecret k.preferredNamespace decode pyRepr serverName gitlabToken

end K8sClient

end RenkuNotebooks.Notebooks
