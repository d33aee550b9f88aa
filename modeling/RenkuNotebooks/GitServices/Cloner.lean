import RenkuNotebooks.Foundation.PosixPath
import RenkuNotebooks.Foundation.Program
import RenkuNotebooks.Foundation.PyUrl

/-!
# The git-clone init container

`GitCloner` clones the repositories of a session into its workspace before the session starts, and
again when it is resumed.
-/

namespace RenkuNotebooks.GitServices

/-! ### What the program is given -/

structure ConfigRepo where
  url : String
  provider : Option String := none
  dirname : Option String := none
  branch : Option String := none
  commitSha : Option String := none
  deriving DecidableEq, Repr

structure Provider where
  id : String
  accessTokenUrl : String
  deriving DecidableEq, Repr

/-- Name and email are already quoted. -/
structure User where
  fullName : Option String
  email : Option String
  renkuToken : Option String
  deriving DecidableEq, Repr

structure Config where
  mountPath : String
  user : User
  repositories : List ConfigRepo
  gitProviders : List Provider
  lfsAutoFetch : Bool
  storageMounts : List String
  isGitProxyEnabled : Bool
  gitProxyPort : Nat
  /-- `CloudStorageMountPathNotAbsolute` is not raised. -/
  mounts_absolute : ∀ mount ∈ storageMounts, mount.toList.head? = some '/'

def User.isAnonymous (user : User) : Bool := user.renkuToken.getD "" == ""

/-- What the program takes from the standard library as it is. -/
structure PyLibrary where
  rejects : List Char → Bool
  lower : List Char → List Char
  urljoin : String → String → Except String String
  loads : String → Except String Json
  traceback : String → String

/-! ### What the program asks for -/

structure GitOutput where
  returncode : Int
  stdout : String
  stderr : String
  deriving DecidableEq, Repr

/-- The body is the access token that is found in it. -/
structure TokenResponse where
  statusCode : Int
  accessToken : Except String (Option String)

/-- What `Path.exists` is called for: `git_cli`, `GitCLI.__init__` or a storage mount. -/
inductive Existence
  | repository
  | gitDirectory
  | storageMount
  deriving DecidableEq, Repr

inductive CloneCall
  | pathExists (asked : Existence) (path : PosixPath)
  | mkdir (path : PosixPath)
  | git (dir : PosixPath) (args : List String)
  | openWrite (path : PosixPath)
  | openAppend (path : PosixPath)
  | write (path : PosixPath) (text : String)
  | unlink (path : PosixPath)
  /-- `requests.get`, with the requests for the redirects. -/
  | getToken (url : String) (bearer : String)
  | diskFree (path : PosixPath)
  | rmtree (path : PosixPath)
  deriving DecidableEq, Repr

/-- What Python raises is given as a text. -/
abbrev CloneCall.Reply : CloneCall → Type
  | .pathExists _ _ => Except String Bool
  | .mkdir _ => Except String Unit
  | .git _ _ => Except String GitOutput
  | .openWrite _ => Except String Unit
  | .openAppend _ => Except String Unit
  | .write _ _ => Except String Unit
  | .unlink _ => Except String Unit
  | .getToken _ _ => Except String TokenResponse
  | .diskFree _ => Except String Int
  | .rmtree _ => Unit

inductive CloneError
  | gitCommand (output : GitOutput)
  | repoDirectoryDoesNotExist
  | gitFetch
  | branchDoesNotExist
  | noDiskSpace
  | cloudStorageOverwritesExistingFiles
  | python (text : String)
  deriving DecidableEq, Repr

abbrev CloneProg := Prog CloneCall CloneCall.Reply CloneError

namespace CloneProg

def ofReply {α : Type} (reply : Except String α) : CloneProg α :=
  .ofExcept (reply.mapError .python)

def pathExists (asked : Existence) (path : PosixPath) : CloneProg Bool :=
  (Prog.perform (.pathExists asked path)).bind fun reply => ofReply reply

def mkdir (path : PosixPath) : CloneProg Unit :=
  (Prog.perform (.mkdir path)).bind fun reply => ofReply reply

def openWrite (path : PosixPath) : CloneProg Unit :=
  (Prog.perform (.openWrite path)).bind fun reply => ofReply reply

def openAppend (path : PosixPath) : CloneProg Unit :=
  (Prog.perform (.openAppend path)).bind fun reply => ofReply reply

def write (path : PosixPath) (text : String) : CloneProg Unit :=
  (Prog.perform (.write path text)).bind fun reply => ofReply reply

def unlink (path : PosixPath) : CloneProg Unit :=
  (Prog.perform (.unlink path)).bind fun reply => ofReply reply

def getToken (url bearer : String) : CloneProg TokenResponse :=
  (Prog.perform (.getToken url bearer)).bind fun reply => ofReply reply

def diskFree (path : PosixPath) : CloneProg Int :=
  (Prog.perform (.diskFree path)).bind fun reply => ofReply reply

/-- `GitCLI._execute_command` -/
def git (dir : PosixPath) (args : List String) : CloneProg String :=
  (Prog.perform (.git dir args)).bind fun reply =>
    (ofReply reply).bind fun output =>
      if 0 < output.stderr.length ∧ output.returncode ≠ 0 then .raise (.gitCommand output)
      else .ret output.stdout

def onlyIf (condition : Bool) (p : CloneProg Unit) : CloneProg Unit :=
  if condition then p else pure ()

/-- `except GitCommandError` -/
def exceptGitCommand {α : Type} (p : CloneProg α) (handler : GitOutput → CloneProg α) :
    CloneProg α :=
  p.tryCatch fun
    | .gitCommand output => handler output
    | e => .raise e

end CloneProg

/-! ### Repositories -/

structure Repository where
  url : String
  dirname : String
  absolutePath : PosixPath
  provider : Option String
  branch : Option String
  commitSha : Option String
  deriving DecidableEq, Repr

namespace Repository

open CloneProg

def removeSuffix (s suffix : List Char) : List Char :=
  if suffix.isSuffixOf s then s.take (s.length - suffix.length) else s

/-- The random letters are used where the URL gives no name. -/
def makeDirname (lib : PyLibrary) (random : String) (url : String) : Except String String := do
  let parsed ← PyUrl.urlparse lib.rejects url
  let path := if parsed.path ≠ [] then parsed.path else parsed.hostname lib.lower
  let path := removeSuffix (removeSuffix path ".git".toList) "/".toList
  let dirname := PyUrl.afterLast '/' path
  if dirname ≠ [] then .ok (String.ofList dirname) else .ok ("repo-" ++ random)

/-- `data.dirname or cls._make_dirname(data.url)` -/
def dirnameOf (lib : PyLibrary) (random : String) (data : ConfigRepo) : Except String String :=
  match data.dirname with
  | some dirname => if dirname ≠ "" then .ok dirname else makeDirname lib random data.url
  | none => makeDirname lib random data.url

def fromConfigRepo (lib : PyLibrary) (mountPath : PosixPath) (data : ConfigRepo)
    (random : String) : Except String Repository := do
  let dirname ← dirnameOf lib random data
  .ok
    { url := data.url
      dirname := dirname
      absolutePath := mountPath.join (.ofString dirname)
      provider := data.provider
      branch := data.branch
      commitSha := data.commitSha }

variable (repository : Repository)

/-- The first use of `git_cli`, which keeps the `GitCLI` that it makes. -/
def openGitCli : CloneProg Unit := do
  let present ← pathExists .repository repository.absolutePath
  onlyIf (!present) (mkdir repository.absolutePath)
  let present ← pathExists .gitDirectory repository.absolutePath
  onlyIf (!present) (.raise .repoDirectoryDoesNotExist)

def gitCli (args : List String) : CloneProg String := git repository.absolutePath args

/-- `exists` -/
def repoExists : CloneProg Bool :=
  exceptGitCommand
    (do
      openGitCli repository
      let isInside ← repository.gitCli ["rev-parse", "--is-inside-work-tree"]
      pure (PyText.strip (PyText.lower isInside) == "true"))
    fun _ => pure false

end Repository

/-! ### Cloning -/

structure GitCloner where
  mountPath : PosixPath
  gitProviders : List Provider
  user : User
  repositories : List Repository
  lfsAutoFetch : Bool
  isGitProxyEnabled : Bool
  proxyUrl : String

namespace GitCloner

open CloneProg

def remoteName : String := "origin"

/-- `_access_tokens` -/
abbrev AccessTokens := List (String × Option String)

def credentialLoc : PosixPath := .ofString "/tmp/git-credentials"

section

variable (lib : PyLibrary) (cloner : GitCloner)

/-- Set in the git config where the value is known. -/
def configure (repository : Repository) (setting : String) : Option String → CloneProg Unit
  | some value => do
    let _ ← repository.gitCli ["config", setting, value]
  | none => pure ()

def initializeRepo (repository : Repository) : CloneProg Unit := do
  let _ ← repository.gitCli ["init"]
  configure repository "user.email" cloner.user.email
  configure repository "user.name" cloner.user.fullName
  let _ ← repository.gitCli ["config", "push.default", "simple"]

/-- The lines for the mounts that lie inside the repository. -/
def excludeLines (repository : Repository) (storages : List String) : List String :=
  storages.filterMap fun storage =>
    let storagePath := PosixPath.ofString storage
    if repository.absolutePath.isParentOf storagePath then
      some ("/".intercalate (storagePath.relativeTo repository.absolutePath) ++ "\n")
    else none

def excludeStoragesFromGit (repository : Repository) (storages : List String) : CloneProg Unit :=
  if storages.isEmpty then pure ()
  else do
    let excludeFile := repository.absolutePath.child [".git", "info", "exclude"]
    openAppend excludeFile
    write excludeFile (String.join ("\n" :: excludeLines repository storages))

/-- `{p.id: p for p in git_providers}[provider_id]` -/
def findProvider (providerId : String) : Option Provider :=
  cloner.gitProviders.reverse.find? (·.id == providerId)

/-- `_get_access_token`, with the tokens that are known afterwards. -/
def getAccessToken (tokens : AccessTokens) (providerId : String) :
    CloneProg (Option String × AccessTokens) :=
  match tokens.lookup providerId with
  | some token => pure (token, tokens)
  | none =>
    match cloner.findProvider providerId with
    | none => pure (none, tokens)
    | some provider => do
      let res ← getToken provider.accessTokenUrl (cloner.user.renkuToken.getD "None")
      if res.statusCode ≠ 200 then pure (none, tokens)
      else do
        let token ← ofReply res.accessToken
        pure (token, (providerId, token) :: tokens)

/-- The tear-down of `_temp_plaintext_credentials`. -/
def removeCredentials (repository : Repository) (lfsAuthSetting : String) : CloneProg Unit := do
  unlink credentialLoc
  exceptGitCommand
    (do
      let _ ← repository.gitCli ["config", "--unset", "credential.helper"]
      let _ ← repository.gitCli ["config", "--unset", lfsAuthSetting])
    fun _ => pure ()

/-- The body runs between the set-up and the tear-down of `_temp_plaintext_credentials`. -/
def withTempPlaintextCredentials (repository : Repository) (gitUser gitAccessToken : String)
    (body : CloneProg Unit) : CloneProg Unit := do
  let lfsAccess ← ofReply (lib.urljoin (repository.url ++ "/") "info/lfs.access")
  let lfsAuthSetting := "lfs." ++ lfsAccess
  Prog.finallyDo
    (do
      openWrite credentialLoc
      let parsed ← ofReply (PyUrl.urlparse lib.rejects repository.url)
      write credentialLoc
        ("https://" ++ gitUser ++ ":" ++ gitAccessToken ++ "@" ++ String.ofList parsed.netloc)
      let _ ← repository.gitCli ["config", lfsAuthSetting, "basic"]
      let _ ← repository.gitCli
        ["config", "credential.helper", "store --file=" ++ credentialLoc.asPosix]
      body)
    (removeCredentials repository lfsAuthSetting)

/-- The sizes that a file list of git-lfs gives, `none` where Python raises. -/
def lfsFileSize : Json → Option Rat
  | .obj ms =>
    match ms.lookup "size" with
    | none => some 0
    | some (.int n) => some n
    | some (.float q) => some q
    | some (.bool b) => some (if b then 1 else 0)
    | some _ => none
  | _ => none

def lfsFileSizes (files : List Json) : Option Rat :=
  (files.mapM lfsFileSize).map fun sizes => sizes.foldl (· + ·) 0

def lfsTotalSize : Json → Option Rat
  | .obj ms =>
    match ms.lookup "files" with
    | none => some 0
    | some (.arr files) => lfsFileSizes files
    | some files => if files.truthy then none else some 0
  | _ => none

/-- `_get_lfs_total_size_bytes` -/
def getLfsTotalSizeBytes (repository : Repository) : CloneProg Rat :=
  let listed : CloneProg (Option String) := exceptGitCommand
    (do
      let res ← repository.gitCli ["lfs", "ls-files", "--json"]
      pure (some res))
    fun _ => pure none
  listed.bind fun
    | none => pure 0
    | some res => do
      let resJson ← ofReply (lib.loads res)
      match lfsTotalSize resJson with
      | some size => pure size
      | none => .raise (.python "TypeError")

def remoteHeadStart : List Char := "refs/remotes/origin/".toList

/-- The branch in `^refs/remotes/origin/(?P<branch>.*)$`. -/
def matchRemoteHead (res : String) : Option String :=
  if remoteHeadStart.isPrefixOf res.toList then
    let rest := res.toList.drop remoteHeadStart.length
    let branch := rest.takeWhile (· ≠ '\n')
    let after := rest.dropWhile (· ≠ '\n')
    if after = [] ∨ after = ['\n'] then some (String.ofList branch) else none
  else none

def getDefaultBranch (repository : Repository) : CloneProg String := do
  let res ← exceptGitCommand
    (do
      let _ ← repository.gitCli ["remote", "set-head", remoteName, "--auto"]
      repository.gitCli ["symbolic-ref", "refs/remotes/" ++ remoteName ++ "/HEAD"])
    fun _ => .raise .branchDoesNotExist
  match matchRemoteHead res with
  | some branch => pure branch
  | none => .raise .branchDoesNotExist

def checkout (repository : Repository) (branch : String) : CloneProg Unit :=
  exceptGitCommand
    (do
      let _ ← repository.gitCli ["checkout", branch])
    fun output =>
      if PyText.contains (PyText.lower output.stderr) "no space left on device" then
        .raise .noDiskSpace
      else .raise .branchDoesNotExist

/-- `repository.branch or self._get_default_branch(…)` -/
def chosenBranch (repository : Repository) : CloneProg String :=
  match repository.branch with
  | some branch => if branch ≠ "" then pure branch else getDefaultBranch repository
  | none => getDefaultBranch repository

def pullLfs (repository : Repository) : CloneProg Unit := do
  let totalLfsSizeBytes ← getLfsTotalSizeBytes lib repository
  let freeSpaceBytes ← diskFree repository.absolutePath
  if (freeSpaceBytes : Rat) < totalLfsSizeBytes then .raise .noDiskSpace
  else do
    let _ ← repository.gitCli ["lfs", "install", "--local"]
    let _ ← repository.gitCli ["lfs", "pull"]

def updateSubmodules (repository : Repository) : CloneProg Unit :=
  exceptGitCommand
    (do
      let _ ← repository.gitCli ["submodule", "init"]
      let _ ← repository.gitCli ["submodule", "update"])
    fun _ => pure ()

/-- `_clone` -/
def clone (repository : Repository) : CloneProg Unit := do
  let _ ← repository.gitCli
    (if cloner.lfsAutoFetch then ["lfs", "install", "--local"]
      else ["lfs", "install", "--skip-smudge", "--local"])
  let _ ← repository.gitCli ["remote", "add", remoteName, repository.url]
  let _ ← exceptGitCommand (repository.gitCli ["fetch", remoteName]) fun _ => .raise .gitFetch
  let branch ← chosenBranch repository
  checkout repository branch
  onlyIf cloner.lfsAutoFetch (pullLfs lib repository)
  updateSubmodules repository

def setupProxy (repository : Repository) : CloneProg Unit :=
  onlyIf cloner.isGitProxyEnabled do
    let _ ← repository.gitCli ["config", "http.proxy", cloner.proxyUrl]
    let _ ← repository.gitCli ["config", "http.sslVerify", "false"]

/-- The access token for a repository, none without a provider. -/
def repositoryToken (tokens : AccessTokens) (repository : Repository) :
    CloneProg (Option String × AccessTokens) :=
  match repository.provider with
  | some provider =>
    if provider ≠ "" then cloner.getAccessToken tokens provider else pure (none, tokens)
  | none => pure (none, tokens)

def cloneWith (repository : Repository) (gitAccessToken : Option String) : CloneProg Unit :=
  match gitAccessToken with
  | some token =>
    if cloner.user.isAnonymous then cloner.clone lib repository
    else
      withTempPlaintextCredentials lib repository "oauth2" token (cloner.clone lib repository)
  | none => cloner.clone lib repository

/-- The body of the `try` in `run_helper`. -/
def cloneAndReset (repository : Repository) (gitAccessToken : Option String) : CloneProg Unit := do
  cloner.cloneWith lib repository gitAccessToken
  let commitSha := repository.commitSha.getD ""
  onlyIf (commitSha ≠ "") do
    let _ ← repository.gitCli ["reset", "--hard", commitSha]

/-- Whether `run_helper` goes on after an error of the body. -/
def handleCloneError (repository : Repository) : CloneError → CloneProg Bool
  | .gitFetch => do
    let errorFile := repository.absolutePath.child ["ERROR"]
    openWrite errorFile
    write errorFile (lib.traceback "GitFetchError")
    pure false
  | .branchDoesNotExist => pure true
  | e => .raise e

def checkStorageMounts : List String → CloneProg Unit
  | [] => pure ()
  | mount :: mounts => do
    let present ← pathExists .storageMount (PosixPath.ofString mount)
    if present then .raise .cloudStorageOverwritesExistingFiles else checkStorageMounts mounts

def runHelper (tokens : AccessTokens) (storageMounts : List String) (repository : Repository) :
    CloneProg AccessTokens := do
  let present ← repository.repoExists
  if present then do
    cloner.setupProxy repository
    pure tokens
  else do
    let (gitAccessToken, tokens) ← cloner.repositoryToken tokens repository
    cloner.initializeRepo repository
    let goOn ←
      ((cloner.cloneAndReset lib repository gitAccessToken).bind fun _ => pure true).tryCatch
        (handleCloneError lib repository)
    if goOn then do
      checkStorageMounts storageMounts
      excludeStoragesFromGit repository storageMounts
      cloner.setupProxy repository
      pure tokens
    else pure tokens

def runAll (storageMounts : List String) (tokens : AccessTokens) :
    List Repository → CloneProg AccessTokens
  | [] => pure tokens
  | repository :: repositories => do
    let tokens ← cloner.runHelper lib tokens storageMounts repository
    runAll storageMounts tokens repositories

def run (storageMounts : List String) : CloneProg AccessTokens :=
  cloner.runAll lib storageMounts [] cloner.repositories

end

/-- The cloner of the main script, with the random letters for each repository. -/
def fromConfig (lib : PyLibrary) (random : Nat → String) (config : Config) :
    Except String GitCloner := do
  let basePath := PosixPath.ofString config.mountPath
  let repositories ← config.repositories.zipIdx.mapM fun (repository, i) =>
    Repository.fromConfigRepo lib basePath repository (random i)
  .ok
    { mountPath := basePath
      gitProviders := config.gitProviders
      user := config.user
      repositories := repositories
      lfsAutoFetch := config.lfsAutoFetch
      isGitProxyEnabled := config.isGitProxyEnabled
      proxyUrl := "http://localhost:" ++ toString config.gitProxyPort }

end GitCloner

/-- The exception hook clears the mount path before the program exits. -/
def handleException (config : Config) (e : CloneError) : CloneProg Unit := do
  Prog.perform (CloneCall.rmtree (PosixPath.ofString config.mountPath))
  .raise e

/-- The main script. -/
def cloneMain (lib : PyLibrary) (random : Nat → String) (config : Config) : CloneProg Unit :=
  Prog.tryCatch
    (do
      let cloner ← CloneProg.ofReply (GitCloner.fromConfig lib random config)
      let _ ← cloner.run lib config.storageMounts)
    (handleException config)

end RenkuNotebooks.GitServices
