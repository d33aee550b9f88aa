import RenkuNotebooks.Notebooks.K8sClient
import RenkuNotebooks.Notebooks.ServerData

/-!
# The session endpoints

The handlers of `api/notebooks.py` for listing, reading, patching and deleting sessions, for an
authenticated user and parsed arguments.
-/

namespace RenkuNotebooks.Notebooks

open Prog

inductive PatchServerStatusEnum where
  | running
  | hibernated
  deriving DecidableEq, Repr

structure PatchServerRequest where
  state : Option PatchServerStatusEnum := none
  resourceClassId : Option { n : Int // 0 < n } := none

inductive Request where
  /-- The annotations that the query filters by, without the prefix. -/
  | userServers (filters : List (String × String))
  | userServer (serverName : String)
  | serverLogs (serverName : String) (maxLines : Int)
  | patchServer (serverName : String) (body : PatchServerRequest)
  | stopServer (serverName : String) (forced : Bool)

/-- The blueprint with its configuration and with the parts that are not modelled: the response
schema, the clock, `json.loads(base64.b64decode(text))` and parts of `str`. -/
structure Api where
  config : Config
  client : K8sClient
  render : Json → Except PyError Json
  now : String
  decode : String → Except PyError Json
  py : PyText.Str

def currentlyHibernated (server : Json) : Bool :=
  (server.dig ["spec", "jupyterServer", "hibernated"]).elim false Json.truthy

def currentlyFailing (server : Json) : Prop :=
  server.dig ["status", "state"] = some (.str "failed")

instance (server : Json) : Decidable (currentlyFailing server) :=
  inferInstanceAs (Decidable (_ = _))

/-- The elements of a list below `.get(key, {})` steps; anything else counts as empty. -/
def elementsAt (path : List String) (j : Json) : List Json :=
  match j.dig path with
  | some (.arr xs) => xs
  | _ => []

/-- `find_container(patches, container_name)` -/
def findContainer (patches : List Json) (containerName : String) : Option Json :=
  (patches.flatMap (elementsAt ["patch"])).find? fun p =>
    p.get? "op" = some (.str "add") ∧
      p.get? "path" = some (.str "/statefulset/spec/template/spec/containers/-") ∧
      p.dig ["value", "name"] = some (.str containerName)

structure Hibernation where
  branch : Json := ""
  commit : Json := ""
  dirty : Json := ""
  synchronized : Json := ""

/-- `x == 0` -/
def isZero : Json → Bool
  | .int n => n = 0
  | .float q => q = 0
  | .bool b => !b
  | _ => false

namespace Hibernation

def ofStatus (status : Json) : Hibernation where
  branch := (status.get? "branch").getD ""
  commit := (status.get? "commit").getD ""
  dirty := !((status.get? "clean").getD true).truthy
  synchronized :=
    isZero ((status.get? "ahead").getD (.int 0)) && isZero ((status.get? "behind").getD (.int 0))

def ofStatus? : Option Json → Hibernation
  | some status => if status.truthy then ofStatus status else {}
  | none => {}

/-- `str(value).lower()` for a flag or the empty text. -/
def flagText : Json → Json
  | .bool b => boolText b
  | j => j

def patch (h : Hibernation) (pyRepr : Json → String) (date : String) : Json :=
  let text := PyText.dumps pyRepr (.obj [("branch", h.branch), ("commit", h.commit),
    ("dirty", h.dirty), ("synchronized", h.synchronized), ("date", date)])
  .obj [
    ("metadata", .obj [
      ("annotations", .obj [
        ("renku.io/hibernation", text),
        ("renku.io/hibernationBranch", h.branch),
        ("renku.io/hibernationCommitSha", h.commit),
        ("renku.io/hibernationDirty", flagText h.dirty),
        ("renku.io/hibernationSynchronized", flagText h.synchronized),
        ("renku.io/hibernationDate", date)])]),
    ("spec", .obj [("jupyterServer", .obj [("hibernated", true)])])]

end Hibernation

/-- The merge patch that resumes a session. -/
def runningPatch : Json := .obj [("spec", .obj [("jupyterServer", .obj [("hibernated", false)])])]

def quotaPath : String := "/metadata/labels/renku.io~1quota"

def quotaLabel (server : Json) : Option Json := server.dig ["metadata", "labels", "renku.io/quota"]

/-- The label is replaced by a class with a quota and removed, where there is one, by a class
without. -/
def quotaPatch (priorityClass : Option String) (server : Json) : List PatchOp :=
  if priorityClass.any (· ≠ "") then [.replace quotaPath (optStr priorityClass)]
  else if (quotaLabel server).any Json.truthy then [.remove quotaPath]
  else []

def classPatch (options : ServerOptions) (enforceCpuLimits : CPUEnforcement) (classId : Int)
    (server : Json) : List PatchOp :=
  [.replace "/spec/jupyterServer/resources" (options.toK8sResources enforceCpuLimits),
    .replace "/metadata/annotations/renku.io~1resourceClassId" (.str (toString classId))] ++
  quotaPatch options.priorityClass server

/-- The patch of the statefulset; a class without a quota sends null. -/
def priorityClassPatch (options : ServerOptions) : List PatchOp :=
  [.replace "/spec/template/spec/priorityClassName" (optStr options.priorityClass)]

def classNotChangeable : PyError :=
  .generic (userInputError
    "The resource class can be changed only if the server is hibernated or failing" none)

namespace Api

variable (api : Api)

def ok (body : Json) : Service Response := pure { body, status := 200 }

def rendered (server : Json) : Service Response := do
  let body ← ofExcept (api.render server)
  ok body

def annotations (server : Json) : Except PyError Json :=
  match server.dig ["metadata", "annotations"] with
  | some annotations => .ok annotations
  | none => .error (.keyError "annotations")

/-- Whether all filters match; the annotations are only read where there is a filter. -/
def matchesFilters (filters : List (String × String)) (server : Json) : Except PyError Bool :=
  if filters.isEmpty then .ok true
  else do
    let annotations ← annotations server
    pure (filters.all fun f =>
      annotations.get? (renkuAnnotationPrefix ++ f.1) = some (.str f.2))

/-- The responses for the matching servers, by name. -/
def filteredServers (filters : List (String × String)) :
    List Json → List (String × Json) → Except PyError (List (String × Json))
  | [], output => .ok output
  | server :: servers, output => do
    if ← matchesFilters filters server then
      filteredServers filters servers
        (Json.setMember (NamespacedK8sClient.manifestName server) server output)
    else filteredServers filters servers output

def renderMember (member : String × Json) : Except PyError (String × Json) := do
  let body ← api.render member.2
  pure (member.1, body)

def userServers (user : User) (filters : List (String × String)) : Service Response := do
  let servers ← api.client.listServers user.safeUsername
  let filtered ← ofExcept (filteredServers filters servers [])
  let output ← ofExcept (filtered.mapM api.renderMember)
  ok (.obj [("servers", .obj output)])

def userServer (user : User) (serverName : String) : Service Response := do
  match ← api.client.getServer serverName user.safeUsername with
  | none => .raise (.generic (missingResourceError
      ("The server " ++ serverName ++ " does not exist.")))
  | some server => api.rendered server

def serverLogs (user : User) (serverName : String) (maxLines : Int) : Service Response := do
  let logs ← api.client.getServerLogs serverName user.safeUsername maxLines
  ok (.obj logs)

/-- The JupyterServer gets the resources, the annotation and the label of the class, then the
statefulset its priority class. -/
def changeClass (user : RegisteredUser) (serverName : String) (classId : Int) (server : Json) :
    Service Json := do
  let reply ← perform (.validateClassStorage classId)
  let options ← ofExcept reply
  let newServer ← api.client.patchServer serverName user.safeUsername
    (.json (classPatch options api.config.sessions.enforceCpuLimits classId server))
  api.client.patchStatefulset serverName (priorityClassPatch options)
  pure newServer

def sidecarStatus (serverName : String) (server : Json) : Service (Option Json) :=
  if (findContainer (elementsAt ["spec", "patches"] server) "git-sidecar").isSome then do
    let reply ← perform (.gitStatus serverName)
    ofExcept reply
  else pure none

def hibernate (user : RegisteredUser) (serverName : String) (server : Json) : Service Json := do
  let status ← sidecarStatus serverName server
  api.client.patchServer serverName user.safeUsername
    (.merge ((Hibernation.ofStatus? status).patch api.py api.now))

def resume (user : RegisteredUser) (serverName : String) : Service Json := do
  let renkuTokens : RenkuTokens :=
    { accessToken := user.accessToken, refreshToken := user.refreshToken }
  let gitlabToken : GitlabToken :=
    { accessToken := user.gitToken, expiresAt := user.gitTokenExpiresAt }
  api.client.patchTokens api.decode api.py serverName renkuTokens gitlabToken
  api.client.patchServer serverName user.safeUsername (.merge runningPatch)

/-- What a request for a state does to the server; the result is what the response shows. -/
def changeState (user : RegisteredUser) (serverName : String) (server newServer : Json) :
    Option PatchServerStatusEnum → Service Json
  | none => pure newServer
  | some .hibernated =>
    if currentlyHibernated server then pure server else api.hibernate user serverName server
  | some .running => api.resume user serverName

/-- `new_server` before the state is changed. -/
def changeClass? (user : RegisteredUser) (serverName : String) (server : Json) :
    Option { n : Int // 0 < n } → Service Json
  | none => pure server
  | some classId => api.changeClass user serverName classId server

def changeServer (user : RegisteredUser) (serverName : String) (body : PatchServerRequest)
    (server : Json) : Service Response := do
  let newServer ← api.changeClass? user serverName server body.resourceClassId
  let shown ← api.changeState user serverName server newServer body.state
  api.rendered shown

def patchServer (user : User) (serverName : String) (body : PatchServerRequest) :
    Service Response :=
  if api.config.sessions.storage.pvsEnabled = false then .raise (.generic pvDisabledError)
  else
    match user with
    | .anonymous _ => .raise (.generic anonymousUserPatchError)
    | .registered user => do
      match ← api.client.getServer serverName user.safeUsername with
      -- `server.get` on None
      | none => .raise .attributeError
      | some server =>
        if server.truthy ∧ ¬(currentlyHibernated server ∨ currentlyFailing server) ∧
            body.resourceClassId.isSome then
          .raise classNotChangeable
        else api.changeServer user serverName body server

def stopServer (user : User) (serverName : String) (forced : Bool) : Service Response := do
  api.client.deleteServer serverName user.safeUsername forced
  pure { body := "", status := 204 }

def handle (user : User) : Request → Service Response
  | .userServers filters => api.userServers user filters
  | .userServer serverName => api.userServer user serverName
  | .serverLogs serverName maxLines => api.serverLogs user serverName maxLines
  | .patchServer serverName body => api.patchServer user serverName body
  | .stopServer serverName forced => api.stopServer user serverName forced

end Api

/-- What the client gets. -/
def respond : Except PyError Response → Response
  | .ok response => response
  | .error e => handleException e

end RenkuNotebooks.Notebooks
