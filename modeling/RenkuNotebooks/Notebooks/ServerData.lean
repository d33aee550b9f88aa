import RenkuNotebooks.Foundation.JsonPatch
import RenkuNotebooks.Foundation.PosixPath
import RenkuNotebooks.Foundation.PyUrl
import RenkuNotebooks.Notebooks.CloudStorage
import RenkuNotebooks.Notebooks.ServerOptions

/-!
# The data of a user session

Users, repositories, secrets and the attributes of `UserServer`, with the properties that are
computed from them.
-/

namespace RenkuNotebooks.Notebooks

/-! ### Users -/

structure GitlabUser where
  email : String
  name : String

structure AnonymousUser where
  username : String
  safeUsername : String
  id : String

structure RegisteredUser where
  email : String
  fullName : String
  username : String
  safeUsername : String
  oidcIssuer : String
  id : String
  accessToken : String
  refreshToken : String
  gitToken : Option String
  gitTokenExpiresAt : Int
  gitlabUser : GitlabUser

inductive User where
  | anonymous (u : AnonymousUser)
  | registered (u : RegisteredUser)

namespace User

def username : User → String
  | .anonymous u => u.username
  | .registered u => u.username

def safeUsername : User → String
  | .anonymous u => u.safeUsername
  | .registered u => u.safeUsername

def id : User → String
  | .anonymous u => u.id
  | .registered u => u.id

def accessToken : User → Option String
  | .anonymous _ => none
  | .registered u => some u.accessToken

def refreshToken : User → Option String
  | .anonymous _ => none
  | .registered u => some u.refreshToken

def gitToken : User → Option String
  | .anonymous _ => none
  | .registered u => u.gitToken

/-- Anonymous users have no `gitlab_user` attribute. -/
def gitlabUser : User → Except PyError GitlabUser
  | .anonymous _ => .error .attributeError
  | .registered u => .ok u.gitlabUser

def isRegistered : User → Bool
  | .anonymous _ => false
  | .registered _ => true

theorem exists_registered {user : User} (h : user.isRegistered = true) :
    ∃ u, user = .registered u := by
  cases user with
  | anonymous u => cases h
  | registered u => exact ⟨u, rfl⟩

end User

/-! ### Repositories -/

structure Repository where
  url : String
  provider : Option String := none
  dirname : Option String := none
  branch : Option String := none
  commitSha : Option String := none
  deriving DecidableEq, Repr

/-- `asdict(repo)` -/
def Repository.asDict (r : Repository) : Json :=
  .obj [("url", r.url), ("provider", optStr r.provider), ("dirname", optStr r.dirname),
    ("branch", optStr r.branch), ("commit_sha", optStr r.commitSha)]

structure GitProvider where
  id : String
  url : String
  connectionId : String
  accessTokenUrl : String
  deriving DecidableEq, Repr

/-- `dict(id=provider.id, access_token_url=provider.access_token_url)` -/
def GitProvider.asDict (p : GitProvider) : Json :=
  .obj [("id", p.id), ("access_token_url", p.accessTokenUrl)]

/-! ### Sessions -/

structure K8sUserSecrets where
  name : String
  userSecretIds : List String
  mountPath : String

structure GitlabProject where
  id : Int
  path : String
  webUrl : String

/-- What Renku 1.0 and Renku 2.0 sessions add to `UserServer`. -/
inductive ServerKind where
  | renku1 (namespace_ project branch commitSha gitHost : String)
      (gitlabProject : Option GitlabProject)
  | renku2 (projectId launcherId : String)

/-- The names that `renku_1_make_server_name` and `renku_2_make_server_name` give. -/
structure ServerName where
  text : String
  wellFormed : ∀ c ∈ text.toList, c.isAlphanum = true ∨ c = '-'

structure UserServer where
  user : User
  serverName : ServerName
  image : Option String
  serverOptions : ServerOptions
  environmentVariables : List (String × String)
  userSecrets : Option K8sUserSecrets
  cloudstorage : List RCloneStorage
  /-- `k8s_client.preferred_namespace` -/
  preferredNamespace : String
  workspaceMountPath : PosixPath
  workDir : PosixPath
  isImagePrivate : Bool
  givenRepositories : List Repository
  gitProviders : List GitProvider
  kind : ServerKind

namespace UserServer

variable (server : UserServer)

/-- The repositories, each with the first provider on the same host. -/
def repositories : List Repository :=
  server.givenRepositories.map fun repo =>
    match server.gitProviders.find?
        (fun provider => PyUrl.netloc provider.url = PyUrl.netloc repo.url) with
    | some provider => { repo with provider := some provider.id }
    | none => repo

def requiredGitProviders : List GitProvider :=
  server.gitProviders.filter fun p =>
    server.repositories.any fun r => r.provider = some p.id ∧ p.id ≠ ""

/-- `getattr(server, "commit_sha", None)` -/
def commitSha : Option String :=
  match server.kind with
  | .renku1 _ _ _ commitSha _ _ => some commitSha
  | .renku2 _ _ => none

/-- `getattr(server, "project", None)` -/
def project : Option String :=
  match server.kind with
  | .renku1 _ project _ _ _ _ => some project
  | .renku2 _ _ => none

/-- `getattr(server, "gitlab_project", None)` -/
def gitlabProject : Option GitlabProject :=
  match server.kind with
  | .renku1 _ _ _ _ _ gitlabProject => gitlabProject
  | .renku2 _ _ => none

def serverUrl (config : Config) : String :=
  let url := "https://" ++ config.sessions.ingress.host ++ "/sessions/" ++ server.serverName.text
  if server.user.isRegistered then url else url ++ "?token=" ++ server.user.username

def idleSecondsThreshold (config : Config) : Int :=
  server.serverOptions.idleThresholdSeconds.getD
    (if server.user.isRegistered then config.sessions.culling.registered.idleSeconds
     else config.sessions.culling.anonymous.idleSeconds)

def hibernatedSecondsThreshold (config : Config) : Int :=
  server.serverOptions.hibernationThresholdSeconds.getD
    (if server.user.isRegistered then config.sessions.culling.registered.hibernatedSeconds
     else config.sessions.culling.anonymous.hibernatedSeconds)

end UserServer

end RenkuNotebooks.Notebooks
