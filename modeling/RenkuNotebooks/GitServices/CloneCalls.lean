import RenkuNotebooks.GitServices.Cloner

/-!
# What a clone asks for

The parts of `run_helper` with the calls that they make for one repository.
-/

namespace RenkuNotebooks.GitServices

open Prog

/-- The settings that stay. -/
def clonerSettings : List String :=
  ["user.email", "user.name", "push.default", "http.proxy", "http.sslVerify"]

def Repository.errorFile (repository : Repository) : PosixPath :=
  repository.absolutePath.child ["ERROR"]

def Repository.excludeFile (repository : Repository) : PosixPath :=
  repository.absolutePath.child [".git", "info", "exclude"]

/-- Allows what is asked for a repository, the question of `exists` and the credentials aside. -/
structure AllowsClone (allowed : CloneCall → Prop) (repository : Repository) : Prop where
  pathExists : ∀ asked path, allowed (.pathExists asked path)
  mkdir : ∀ path, allowed (.mkdir path)
  diskFree : ∀ path, allowed (.diskFree path)
  getToken : ∀ url bearer, allowed (.getToken url bearer)
  command : ∀ command args, command ≠ "config" → command ≠ "rev-parse" →
    allowed (.git repository.absolutePath (command :: args))
  config : ∀ key value, key ∈ clonerSettings →
    allowed (.git repository.absolutePath ["config", key, value])
  errorFile : allowed (.openWrite repository.errorFile) ∧
    ∀ text, allowed (.write repository.errorFile text)
  excludeFile : allowed (.openAppend repository.excludeFile) ∧
    ∀ text, allowed (.write repository.excludeFile text)

section Calls

variable {allowed : CloneCall → Prop} {repository : Repository} {α : Type}

theorem calls_ofReply {x : Except String α} : (CloneProg.ofReply x).Calls allowed :=
  calls_ofExcept _

theorem calls_call (c : CloneCall) {f : c.Reply → Except String α} (hc : allowed c) :
    ((perform c).bind fun r => CloneProg.ofReply (f r)).Calls allowed :=
  Calls.bind ((calls_perform c).mpr hc) fun _ => calls_ofReply

theorem calls_git {dir : PosixPath} {args : List String} (h : allowed (.git dir args)) :
    (CloneProg.git dir args).Calls allowed := by
  apply Calls.bind ((calls_perform _).mpr h)
  intro r
  apply Calls.bind calls_ofReply
  intro output
  show Calls _ (if _ then _ else _)
  split <;> trivial

theorem calls_onlyIf {condition : Bool} {p : CloneProg Unit} (hp : p.Calls allowed) :
    (CloneProg.onlyIf condition p).Calls allowed := by
  unfold CloneProg.onlyIf
  split
  · exact hp
  · trivial

theorem calls_exceptGitCommand {p : CloneProg α} {handler : GitOutput → CloneProg α}
    (hp : p.Calls allowed) (hhandler : ∀ output, (handler output).Calls allowed) :
    (CloneProg.exceptGitCommand p handler).Calls allowed := by
  apply Calls.tryCatch hp
  intro e
  cases e with
  | gitCommand output => exact hhandler output
  | _ => trivial

section Parts

variable (h : AllowsClone allowed repository)
include h

/-- A git command other than `git config` and the question of `exists`. -/
theorem calls_command {command : String} {args : List String}
    (hcommand : command ≠ "config" ∧ command ≠ "rev-parse") :
    (repository.gitCli (command :: args)).Calls allowed :=
  calls_git (h.command command args hcommand.1 hcommand.2)

theorem calls_config {key value : String} (hkey : key ∈ clonerSettings) :
    (repository.gitCli ["config", key, value]).Calls allowed :=
  calls_git (h.config key value hkey)

theorem calls_openGitCli : repository.openGitCli.Calls allowed := by
  apply Calls.bind (calls_call (.pathExists _ _) (h.pathExists _ _))
  intro present
  apply Calls.bind (calls_onlyIf (calls_call (.mkdir _) (h.mkdir _)))
  intro _
  apply Calls.bind (calls_call (.pathExists _ _) (h.pathExists _ _))
  intro present
  exact calls_onlyIf trivial

theorem calls_repoExists
    (hrevParse : allowed (.git repository.absolutePath ["rev-parse", "--is-inside-work-tree"])) :
    repository.repoExists.Calls allowed := by
  apply calls_exceptGitCommand
  · apply Calls.bind (calls_openGitCli h)
    intro _
    apply Calls.bind (calls_git hrevParse)
    intro _
    trivial
  · exact fun _ => trivial

theorem calls_configure {setting : String} (hsetting : setting ∈ clonerSettings)
    (value : Option String) : (GitCloner.configure repository setting value).Calls allowed := by
  cases value with
  | none => trivial
  | some value => exact Calls.bind (calls_config h hsetting) fun _ => trivial

theorem calls_initializeRepo (cloner : GitCloner) :
    (cloner.initializeRepo repository).Calls allowed := by
  apply Calls.bind (calls_command h (by decide))
  intro _
  apply Calls.bind (calls_configure h (by simp [clonerSettings]) _)
  intro _
  apply Calls.bind (calls_configure h (by simp [clonerSettings]) _)
  intro _
  exact Calls.bind (calls_config h (by simp [clonerSettings])) fun _ => trivial

theorem calls_excludeStoragesFromGit (storages : List String) :
    (GitCloner.excludeStoragesFromGit repository storages).Calls allowed := by
  unfold GitCloner.excludeStoragesFromGit
  split
  · trivial
  · apply Calls.bind (calls_call (.openAppend _) h.excludeFile.1)
    exact fun _ => calls_call (.write _ _) (h.excludeFile.2 _)

theorem calls_getAccessToken (cloner : GitCloner) (tokens : GitCloner.AccessTokens)
    (providerId : String) : (cloner.getAccessToken tokens providerId).Calls allowed := by
  unfold GitCloner.getAccessToken
  split
  · trivial
  · split
    · trivial
    · apply Calls.bind (calls_call (.getToken _ _) (h.getToken _ _))
      intro response
      show Calls _ (if _ then _ else _)
      split
      · trivial
      · exact Calls.bind calls_ofReply fun _ => trivial

theorem calls_repositoryToken (cloner : GitCloner) (tokens : GitCloner.AccessTokens)
    (repository' : Repository) : (cloner.repositoryToken tokens repository').Calls allowed := by
  unfold GitCloner.repositoryToken
  split
  · split
    · exact calls_getAccessToken h cloner tokens _
    · trivial
  · trivial

theorem calls_getLfsTotalSizeBytes (lib : PyLibrary) :
    (GitCloner.getLfsTotalSizeBytes lib repository).Calls allowed := by
  apply Calls.bind
  · apply calls_exceptGitCommand
    · exact Calls.bind (calls_command h (by decide)) fun _ => trivial
    · exact fun _ => trivial
  · rintro (_ | res)
    · trivial
    · apply Calls.bind calls_ofReply
      intro resJson
      cases GitCloner.lfsTotalSize resJson <;> trivial

theorem calls_getDefaultBranch : (GitCloner.getDefaultBranch repository).Calls allowed := by
  apply Calls.bind
  · apply calls_exceptGitCommand
    · exact Calls.bind (calls_command h (by decide)) fun _ => calls_command h (by decide)
    · exact fun _ => trivial
  · intro res
    cases GitCloner.matchRemoteHead res <;> trivial

theorem calls_chosenBranch : (GitCloner.chosenBranch repository).Calls allowed := by
  unfold GitCloner.chosenBranch
  split
  · split
    · trivial
    · exact calls_getDefaultBranch h
  · exact calls_getDefaultBranch h

theorem calls_checkout (branch : String) :
    (GitCloner.checkout repository branch).Calls allowed := by
  apply calls_exceptGitCommand
  · exact Calls.bind (calls_command h (by decide)) fun _ => trivial
  · intro output
    split <;> trivial

theorem calls_pullLfs (lib : PyLibrary) : (GitCloner.pullLfs lib repository).Calls allowed := by
  apply Calls.bind (calls_getLfsTotalSizeBytes h lib)
  intro size
  apply Calls.bind (calls_call (.diskFree _) (h.diskFree _))
  intro free
  show Calls _ (if _ then _ else _)
  split
  · trivial
  · apply Calls.bind (calls_command h (by decide))
    intro _
    exact Calls.bind (calls_command h (by decide)) fun _ => trivial

theorem calls_updateSubmodules : (GitCloner.updateSubmodules repository).Calls allowed := by
  apply calls_exceptGitCommand
  · apply Calls.bind (calls_command h (by decide))
    intro _
    exact Calls.bind (calls_command h (by decide)) fun _ => trivial
  · exact fun _ => trivial

theorem calls_clone (lib : PyLibrary) (cloner : GitCloner) :
    (cloner.clone lib repository).Calls allowed := by
  apply Calls.bind
  · show Calls _ (CloneProg.git _ (if _ then _ else _))
    split <;> exact calls_command h (by decide)
  · intro _
    apply Calls.bind (calls_command h (by decide))
    intro _
    apply Calls.bind
    · exact calls_exceptGitCommand (calls_command h (by decide)) fun _ => trivial
    · intro _
      apply Calls.bind (calls_chosenBranch h)
      intro branch
      apply Calls.bind (calls_checkout h branch)
      intro _
      apply Calls.bind (calls_onlyIf (calls_pullLfs h lib))
      exact fun _ => calls_updateSubmodules h

/-- The end of `cloneAndReset`. -/
theorem calls_reset (commitSha : String) :
    (CloneProg.onlyIf (commitSha ≠ "") do
      let _ ← repository.gitCli ["reset", "--hard", commitSha]).Calls allowed := by
  apply calls_onlyIf
  exact Calls.bind (calls_command h (by decide)) fun _ => trivial

theorem calls_setupProxy (cloner : GitCloner) :
    (cloner.setupProxy repository).Calls allowed := by
  apply calls_onlyIf
  apply Calls.bind (calls_config h (by simp [clonerSettings]))
  intro _
  exact Calls.bind (calls_config h (by simp [clonerSettings])) fun _ => trivial

theorem calls_handleCloneError (lib : PyLibrary) (e : CloneError) :
    (GitCloner.handleCloneError lib repository e).Calls allowed := by
  cases e with
  | gitFetch =>
    apply Calls.bind (calls_call (.openWrite _) h.errorFile.1)
    intro _
    apply Calls.bind (calls_call (.write _ _) (h.errorFile.2 _))
    exact fun _ => trivial
  | _ => trivial

theorem calls_checkStorageMounts (mounts : List String) :
    (GitCloner.checkStorageMounts mounts).Calls allowed := by
  induction mounts with
  | nil => trivial
  | cons mount mounts ih =>
    apply Calls.bind (calls_call (.pathExists _ _) (h.pathExists _ _))
    intro present
    cases present with
    | true => trivial
    | false => exact ih

end Parts

end Calls

end RenkuNotebooks.GitServices
