import RenkuNotebooks.GitServices.Cloner
import RenkuNotebooks.GitServices.PorcelainStatus

/-!
# The methods of the sidecar

`sidecar/commands/base.py` behind JSON-RPC: every method ends in a result or in an error object.
-/

namespace RenkuNotebooks.GitServices.Sidecar

open Prog CloneProg

/-! ### The commands -/

/-- `GitCLI(path)` -/
def openGit (path : PosixPath) : CloneProg Unit := do
  let present ← pathExists .gitDirectory path
  onlyIf (!present) (.raise .repoDirectoryDoesNotExist)

def statusArgs : List String := ["status", "--porcelain=v2", "--branch"]

/-- `status` -/
def repositoryStatus (path : PosixPath) : CloneProg RepositoryStatus := do
  openGit path
  let _ ← git path ["fetch"]
  let output ← git path statusArgs
  ofReply ((status output).mapError fun _ => "ValueError")

def discardUnsavedChanges (path : PosixPath) : CloneProg Unit := do
  openGit path
  let _ ← git path ["fetch", "--all"]
  let remoteSha ← git path ["rev-parse", "@{u}"]
  let _ ← git path ["reset", "--hard", PyText.strip remoteSha]
  let _ ← git path ["clean", "-fd"]

def pull (path : PosixPath) (fastForwardOnly : Bool) : CloneProg Unit := do
  openGit path
  let _ ← git path ["fetch", "--all"]
  let _ ← git path ["pull", if fastForwardOnly then "--ff-only" else "--ff"]

/-! ### JSON-RPC -/

/-- `JSONRPCDispatchException` -/
structure RpcError where
  code : Int
  message : String
  deriving DecidableEq, Repr

/-- `json_rpc_errors`; the text names the class of an error that is not expected. -/
def jsonRpcErrors (unexpected : CloneError → String) : CloneError → RpcError
  | .gitCommand output =>
    ⟨-32000, "Running a git command failed with the error: " ++ output.stderr⟩
  | e => ⟨-32603, unexpected e⟩

def rpcResponse (unexpected : CloneError → String) : Except CloneError Json → Json
  | .ok result => .obj [("result", result), ("id", .int 0), ("jsonrpc", "2.0")]
  | .error e =>
    let error := jsonRpcErrors unexpected e
    .obj [("error", .obj [("code", .int error.code), ("message", error.message)]), ("id", .int 0),
      ("jsonrpc", "2.0")]

def statusJson (read : RepositoryStatus) : Json :=
  .obj [("clean", read.clean), ("ahead", .int read.ahead), ("behind", .int read.behind),
    ("branch", read.branch), ("commit", read.commit), ("status", read.status)]

section GetStatus

variable (reply : List CloneCall → (c : CloneCall) → c.Reply) (path : PosixPath)

/-- What the repository is asked in one request for its status. -/
def statusOutcome : Except CloneError RepositoryStatus :=
  (run (recorded reply) (repositoryStatus path) []).1

/-- The method `git/get_status`. -/
def getStatusMethod (unexpected : CloneError → String) : Json :=
  rpcResponse unexpected ((statusOutcome reply path).map statusJson)

/-- All that git prints about the repository is these lines. -/
def Prints (lines : List StatusLine) : Prop :=
  ∀ history result, reply history (.git path statusArgs) = .ok result →
    result.stdout = output lines

variable {reply path}

/-- What git prints is what is read. -/
theorem exists_of_git {dir : PosixPath} {args : List String} {history history' : List CloneCall}
    {stdout : String} (h : run (recorded reply) (git dir args) history = (.ok stdout, history')) :
    ∃ result, reply history (.git dir args) = .ok result ∧ result.stdout = stdout := by
  obtain ⟨answer, _, hcall, h⟩ := exists_of_run_bind _ h
  rw [run_perform] at hcall
  cases hcall
  obtain ⟨result, _, hresult, h⟩ := exists_of_run_bind _ h
  cases hreply : reply history (.git dir args) with
  | error e =>
    rw [recorded, hreply] at hresult
    cases hresult
  | ok result' =>
    rw [recorded, hreply] at hresult
    cases hresult
    refine ⟨_, rfl, ?_⟩
    split at h
    · cases h
    · cases h
      rfl

/-- A status that is reported is that of the lines. -/
theorem reported_of_statusOutcome {lines : List StatusLine} (hprints : Prints reply path lines)
    (hreadable : Readable lines) {read : RepositoryStatus}
    (h : statusOutcome reply path = .ok read) : Reported lines read := by
  obtain ⟨history, hrun⟩ : ∃ history, run (recorded reply) (repositoryStatus path) [] =
      (.ok read, history) := ⟨_, Prod.ext h rfl⟩
  obtain ⟨_, _, -, hrun⟩ := exists_of_run_bind _ hrun
  obtain ⟨_, _, -, hrun⟩ := exists_of_run_bind _ hrun
  obtain ⟨stdout, _, hgit, hrun⟩ := exists_of_run_bind _ hrun
  obtain ⟨result, hresult, rfl⟩ := exists_of_git hgit
  rw [hprints _ _ hresult] at hrun
  obtain ⟨read', hread', hreported⟩ := (reportsStatus_iff_readable lines).mpr hreadable
  rw [hread'] at hrun
  cases hrun
  exact hreported

end GetStatus

end RenkuNotebooks.GitServices.Sidecar
