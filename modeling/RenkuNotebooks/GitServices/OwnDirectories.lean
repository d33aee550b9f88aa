import RenkuNotebooks.Foundation.Results
import RenkuNotebooks.GitServices.Cloner

/-!
# A directory for each repository

A repository is skipped where its directory lies in a work tree already. In an empty workspace
this happens exactly if the directory lies in the one of a repository that comes before it.
-/

namespace RenkuNotebooks.GitServices

open Prog

section Statement

/-! ### What git documents -/

def revParseArgs : List String := ["rev-parse", "--is-inside-work-tree"]

def remoteHeadArgs : List String := ["symbolic-ref", "refs/remotes/origin/HEAD"]

/-- Whether a directory is inside a work tree, with the given roots; none outside of all
repositories. The `.git` directory of a work tree is not inside it. -/
def insideWorkTree (trees : List Directory) : Directory → Option Bool
  | [] => if [] ∈ trees then some true else none
  | name :: dir =>
    if name :: dir ∈ trees then some true
    else if name = ".git" ∧ dir ∈ trees then some false
    else insideWorkTree trees dir

def IsRevParse : Option Bool → GitOutput → Prop
  | some inside, output =>
    output.returncode = 0 ∧ output.stdout = if inside then "true\n" else "false\n"
  | none, output => output.returncode ≠ 0 ∧ output.stderr ≠ ""

/-- The directories in which `git init` has been run. -/
def initialised (history : List CloneCall) : List Directory :=
  history.filterMap fun
    | .git dir ["init"] => some dir.resolve
    | _ => none

/-- Every git command succeeds, and `rev-parse` knows the given work trees and those made in the
run. -/
structure GitSucceeds (reply : List CloneCall → (c : CloneCall) → c.Reply)
    (trees : List Directory) : Prop where
  revParse : ∀ history dir, ∃ output, reply history (.git dir revParseArgs) = .ok output ∧
    IsRevParse (insideWorkTree (trees ++ initialised history) dir.resolve) output
  remoteHead : ∀ history dir, ∃ output branch, reply history (.git dir remoteHeadArgs) = .ok output ∧
    output.returncode = 0 ∧ output.stdout = "refs/remotes/origin/" ++ branch ++ "\n" ∧
    '\n' ∉ branch.toList
  others : ∀ history dir args, args ≠ revParseArgs →
    ∃ output, reply history (.git dir args) = .ok output ∧ output.returncode = 0

/-! ### What is to be shown -/

/-- The calls by which a repository is cloned. -/
def cloneCalls (r : Repository) (branch : String) : List CloneCall :=
  [.git r.absolutePath ["init"], .git r.absolutePath ["remote", "add", "origin", r.url],
    .git r.absolutePath ["fetch", "origin"], .git r.absolutePath ["checkout", branch]]

def Cloned (history : List CloneCall) (r : Repository) : Prop :=
  ∃ branch, (cloneCalls r branch).Sublist history

def Repository.directory (r : Repository) : Directory := r.absolutePath.resolve

structure OwnClones (mount : Directory) (repositories : List Repository)
    (history : List CloneCall) : Prop where
  cloned : ∀ r ∈ repositories, Cloned history r
  apart : repositories.Pairwise fun r r' => r.directory ≠ r'.directory
  below : ∀ r ∈ repositories, mount.Below r.directory

/-- Each directory is below the mount path and not inside the work tree of an earlier one, or
another one that is there. -/
def OwnDirectories (trees : List Directory) (mount : Directory) (dirs : List Directory) : Prop :=
  ∀ earlier dir later, dirs = earlier ++ dir :: later →
    mount.Below dir ∧ insideWorkTree (trees ++ earlier) dir ≠ some true

/-- Nothing else stops the run: the system does what is asked of it, tokens are refused or given,
no cloud storage lies on a file, and the disk is large enough. -/
structure NothingElseFails (lib : PyLibrary)
    (reply : List CloneCall → (c : CloneCall) → c.Reply) (config : Config) : Prop where
  pathExists : ∀ history asked path, ∃ there, reply history (.pathExists asked path) = .ok there
  stillThere : ∀ history asked asked' path, reply history (.pathExists asked path) = .ok true →
    reply (history ++ [.pathExists asked path]) (.pathExists asked' path) = .ok true
  mkdir : ∀ history path, reply history (.mkdir path) = .ok () ∧
    ∀ asked, reply (history ++ [.mkdir path]) (.pathExists asked path) = .ok true
  openWrite : ∀ history path, reply history (.openWrite path) = .ok ()
  openAppend : ∀ history path, reply history (.openAppend path) = .ok ()
  write : ∀ history path text, reply history (.write path text) = .ok ()
  unlink : ∀ history path, reply history (.unlink path) = .ok ()
  getToken : ∀ history url bearer, ∃ response, reply history (.getToken url bearer) = .ok response ∧
    (response.statusCode = 200 → ∃ token, response.accessToken = .ok token)
  mounts : ∀ mount ∈ config.storageMounts, ∀ history,
    reply history (.pathExists .storageMount (PosixPath.ofString mount)) = .ok false
  urls : ∀ r ∈ config.repositories, (∃ parsed, PyUrl.urlparse lib.rejects r.url = .ok parsed) ∧
    ∃ joined, lib.urljoin (r.url ++ "/") "info/lfs.access" = .ok joined
  disk : ∀ history dir output,
    reply history (.git dir ["lfs", "ls-files", "--json"]) = .ok output →
    ∃ json size, lib.loads output.stdout = .ok json ∧ GitCloner.lfsTotalSize json = some size ∧
      ∀ history', ∃ free, reply history' (.diskFree dir) = .ok free ∧ size ≤ free

end Statement

section Steps

variable {lib : PyLibrary} {reply : List CloneCall → (c : CloneCall) → c.Reply}
  {trees : List Directory} {config : Config} {cloner : GitCloner} {α β : Type}
  {P Q : List CloneCall → Prop}

/-- The errors that end a run although git succeeds. -/
def Stops (lib : PyLibrary) (reply : List CloneCall → (c : CloneCall) → c.Reply)
    (config : Config) : CloneError → List CloneCall → Prop
  | .gitCommand _, _ => False
  | .gitFetch, _ => False
  | .branchDoesNotExist, _ => False
  | _, _ => ¬ NothingElseFails lib reply config

/-- Kept by every call other than `git init`. -/
def Quiet (P : List CloneCall → Prop) : Prop :=
  ∀ history c, (∀ dir, c ≠ .git dir ["init"]) → P history → P (history ++ [c])

theorem quiet_stops {e : CloneError} : Quiet (Stops lib reply config e) := by
  intro _ _ _ hstops
  cases e <;> exact hstops

theorem triple_ofReply {x : Except String α} {post : α → List CloneCall → Prop}
    (hok : ∀ a history, x = .ok a → P history → post a history)
    (herror : ∀ history, P history → NothingElseFails lib reply config → ∃ a, x = .ok a) :
    Triple (recorded reply) P (CloneProg.ofReply x) post (Stops lib reply config) := by
  cases x with
  | ok a => exact triple_ret fun history hP => hok a history rfl hP
  | error text =>
    apply triple_raise
    intro history hP hcooperates
    obtain ⟨a, ha⟩ := herror history hP hcooperates
    cases ha

/-- A call that is not one of git. -/
theorem triple_call (c : CloneCall) {f : c.Reply → Except String α}
    {post : α → List CloneCall → Prop}
    (hpost : ∀ history a, P history → f (reply history c) = .ok a → post a (history ++ [c]))
    (hok : ∀ history, P history → NothingElseFails lib reply config →
      ∃ a, f (reply history c) = .ok a) :
    Triple (recorded reply) P ((perform c).bind fun r => CloneProg.ofReply (f r)) post
      (Stops lib reply config) := by
  apply Triple.bind fun r history =>
    ∃ before, P before ∧ history = before ++ [c] ∧ r = reply before c
  · apply triple_perform
    intro history hhistory
    exact ⟨history, hhistory, rfl, rfl⟩
  · intro r
    apply triple_ofReply
    · rintro a _ ha ⟨before, hbefore, rfl, rfl⟩
      exact hpost before a hbefore ha
    · rintro _ ⟨before, hbefore, -, rfl⟩ hcooperates
      exact hok before hbefore hcooperates

theorem triple_quiet_call (c : CloneCall) {f : c.Reply → Except String α} (hP : Quiet P)
    (hc : ∀ dir, c ≠ .git dir ["init"])
    (hok : NothingElseFails lib reply config → ∀ history, ∃ a, f (reply history c) = .ok a) :
    Triple (recorded reply) P ((perform c).bind fun r => CloneProg.ofReply (f r))
      (fun a history => P history ∧ ∃ before, f (reply before c) = .ok a)
      (Stops lib reply config) :=
  triple_call c (fun history _ hhistory ha => ⟨hP history c hc hhistory, history, ha⟩)
    (fun history _ hcooperates => hok hcooperates history)

theorem keeps_call (c : CloneCall) {f : c.Reply → Except String α} (hP : Quiet P)
    (hc : ∀ dir, c ≠ .git dir ["init"])
    (hok : NothingElseFails lib reply config → ∀ history, ∃ a, f (reply history c) = .ok a) :
    Triple (recorded reply) P ((perform c).bind fun r => CloneProg.ofReply (f r))
      (fun _ => P) (Stops lib reply config) :=
  (triple_quiet_call c hP hc hok).weaken (fun _ h => h) (fun _ _ h => h.1) (fun _ _ h => h)

theorem keeps_onlyIf {condition : Bool} {p : CloneProg Unit}
    (hp : Triple (recorded reply) P p (fun _ => P) (Stops lib reply config)) :
    Triple (recorded reply) P (CloneProg.onlyIf condition p) (fun _ => P)
      (Stops lib reply config) := by
  unfold CloneProg.onlyIf
  split
  · exact hp
  · exact triple_ret fun _ h => h

theorem keeps_openWrite (hP : Quiet P) (path : PosixPath) :
    Triple (recorded reply) P (CloneProg.openWrite path) (fun _ => P) (Stops lib reply config) :=
  keeps_call (.openWrite path) hP (by simp) fun hcooperates history =>
    ⟨(), hcooperates.openWrite history path⟩

theorem keeps_openAppend (hP : Quiet P) (path : PosixPath) :
    Triple (recorded reply) P (CloneProg.openAppend path) (fun _ => P) (Stops lib reply config) :=
  keeps_call (.openAppend path) hP (by simp) fun hcooperates history =>
    ⟨(), hcooperates.openAppend history path⟩

theorem keeps_write (hP : Quiet P) (path : PosixPath) (text : String) :
    Triple (recorded reply) P (CloneProg.write path text) (fun _ => P) (Stops lib reply config) :=
  keeps_call (.write path text) hP (by simp) fun hcooperates history =>
    ⟨(), hcooperates.write history path text⟩

theorem keeps_unlink (hP : Quiet P) (path : PosixPath) :
    Triple (recorded reply) P (CloneProg.unlink path) (fun _ => P) (Stops lib reply config) :=
  keeps_call (.unlink path) hP (by simp) fun hcooperates history =>
    ⟨(), hcooperates.unlink history path⟩

/-- A git command that succeeds. -/
theorem triple_git (hgit : GitSucceeds reply trees) {dir : PosixPath} {args : List String}
    (hargs : args ≠ revParseArgs) (hnext : ∀ history, P history → Q (history ++ [.git dir args])) :
    Triple (recorded reply) P (CloneProg.git dir args)
      (fun stdout history => Q history ∧
        ∃ before output, reply before (.git dir args) = .ok output ∧ output.stdout = stdout)
      (Stops lib reply config) := by
  intro history hhistory
  obtain ⟨output, hreply, hcode⟩ := hgit.others history dir args hargs
  have hrun : (CloneProg.git dir args).run (recorded reply) history =
      (.ok output.stdout, history ++ [.git dir args]) := by
    simp [CloneProg.git, perform, Prog.bind, recorded, hreply, CloneProg.ofReply,
      Prog.ofExcept, Except.mapError, hcode]
  rw [hrun]
  exact ⟨hnext history hhistory, history, output, hreply, rfl⟩

theorem triple_exceptGitCommand {p : CloneProg α} {handler : GitOutput → CloneProg α}
    {post : α → List CloneCall → Prop}
    (hp : Triple (recorded reply) P p post (Stops lib reply config)) :
    Triple (recorded reply) P (CloneProg.exceptGitCommand p handler) post
      (Stops lib reply config) := by
  apply Triple.tryCatch (Stops lib reply config) hp
  intro e
  cases e with
  | gitCommand output => exact fun _ hstops => hstops.elim
  | _ => exact triple_raise fun _ hstops => hstops

/-! ### The parts of `run_helper` that make no work tree -/

/-- A command that is not `git init` and not the question of `exists`. -/
def Plain (args : List String) : Prop := args ≠ revParseArgs ∧ args ≠ ["init"]

theorem plain_cons {command : String} (args : List String)
    (hcommand : command ≠ "rev-parse" ∧ command ≠ "init") : Plain (command :: args) := by
  constructor
  · intro heq
    exact hcommand.1 (List.cons.inj heq).1
  · intro heq
    exact hcommand.2 (List.cons.inj heq).1

theorem matchRemoteHead_line {branch : String} (hbranch : '\n' ∉ branch.toList) :
    GitCloner.matchRemoteHead ("refs/remotes/origin/" ++ branch ++ "\n") = some branch := by
  have hline : ("refs/remotes/origin/" ++ branch ++ "\n").toList =
      GitCloner.remoteHeadStart ++ (branch.toList ++ ['\n']) := by
    rw [String.toList_append, String.toList_append, List.append_assoc]
    rfl
  have hne : ∀ c ∈ branch.toList, decide (c ≠ '\n') = true := by
    intro c hc
    exact decide_eq_true fun heq => hbranch (heq ▸ hc)
  have htake : (branch.toList ++ ['\n']).takeWhile (· ≠ '\n') = branch.toList := by
    rw [List.takeWhile_append_of_pos hne]
    simp
  have hdrop : (branch.toList ++ ['\n']).dropWhile (· ≠ '\n') = ['\n'] := by
    rw [List.dropWhile_append_of_pos hne]
    simp
  rw [GitCloner.matchRemoteHead, hline, if_pos (by simp), List.drop_left]
  dsimp only
  rw [htake, hdrop]
  simp

section Keeps

variable (lib) (config) (cloner) (hgit : GitSucceeds reply trees) (hP : Quiet P)
include hgit hP

theorem triple_gitCli (repository : Repository) {args : List String} (hargs : Plain args) :
    Triple (recorded reply) P (repository.gitCli args)
      (fun stdout history => P history ∧ ∃ before output,
        reply before (.git repository.absolutePath args) = .ok output ∧ output.stdout = stdout)
      (Stops lib reply config) := by
  apply triple_git hgit hargs.1
  intro history hhistory
  apply hP history _ _ hhistory
  intro dir heq
  exact hargs.2 (CloneCall.git.inj heq).2

theorem keeps_gitCli (repository : Repository) {args : List String} (hargs : Plain args) :
    Triple (recorded reply) P (repository.gitCli args) (fun _ => P) (Stops lib reply config) :=
  (triple_gitCli lib config hgit hP repository hargs).weaken (fun _ h => h) (fun _ _ h => h.1)
    (fun _ _ h => h)

theorem keeps_commands (repository : Repository) {args args' : List String} (hargs : Plain args)
    (hargs' : Plain args') :
    Triple (recorded reply) P
      (do
        let _ ← repository.gitCli args
        let _ ← repository.gitCli args')
      (fun _ => P) (Stops lib reply config) := by
  apply Triple.bind (fun _ => P) (keeps_gitCli lib config hgit hP repository hargs)
  intro _
  apply Triple.bind (fun _ => P) (keeps_gitCli lib config hgit hP repository hargs')
  exact fun _ => triple_ret fun _ h => h

theorem keeps_setupProxy (repository : Repository) :
    Triple (recorded reply) P (cloner.setupProxy repository) (fun _ => P)
      (Stops lib reply config) := by
  apply keeps_onlyIf
  exact keeps_commands lib config hgit hP repository (plain_cons _ (by decide))
    (plain_cons _ (by decide))

theorem keeps_updateSubmodules (repository : Repository) :
    Triple (recorded reply) P (GitCloner.updateSubmodules repository) (fun _ => P)
      (Stops lib reply config) := by
  apply triple_exceptGitCommand
  exact keeps_commands lib config hgit hP repository (plain_cons _ (by decide))
    (plain_cons _ (by decide))

theorem keeps_removeCredentials (repository : Repository) (lfsAuthSetting : String) :
    Triple (recorded reply) P (GitCloner.removeCredentials repository lfsAuthSetting) (fun _ => P)
      (Stops lib reply config) := by
  apply Triple.bind (fun _ => P) (keeps_unlink hP GitCloner.credentialLoc)
  intro _
  apply triple_exceptGitCommand
  exact keeps_commands lib config hgit hP repository (plain_cons _ (by decide))
    (plain_cons _ (by decide))

/-- The size is one for which the disk is large enough, where nothing else fails. -/
theorem triple_getLfsTotalSizeBytes (repository : Repository) :
    Triple (recorded reply) P (GitCloner.getLfsTotalSizeBytes lib repository)
      (fun size history => P history ∧ (NothingElseFails lib reply config →
        ∀ before, ∃ free, reply before (.diskFree repository.absolutePath) = .ok free ∧
          size ≤ free))
      (Stops lib reply config) := by
  apply Triple.bind fun listed history => P history ∧ ∃ before output,
    reply before (.git repository.absolutePath ["lfs", "ls-files", "--json"]) = .ok output ∧
      listed = some output.stdout
  · apply triple_exceptGitCommand
    apply Triple.bind _ (triple_gitCli lib config hgit hP repository (plain_cons _ (by decide)))
    intro stdout
    apply triple_ret
    rintro history ⟨hhistory, before, output, hreply, rfl⟩
    exact ⟨hhistory, before, output, hreply, rfl⟩
  · intro listed history ⟨hhistory, before, output, hreply, hlisted⟩
    subst hlisted
    have hsize : NothingElseFails lib reply config → ∃ json size,
        lib.loads output.stdout = .ok json ∧ GitCloner.lfsTotalSize json = some size ∧
          ∀ before, ∃ free, reply before (.diskFree repository.absolutePath) = .ok free ∧
            size ≤ free :=
      fun hcooperates => hcooperates.disk before repository.absolutePath output hreply
    revert history
    apply Triple.bind fun json history => P history ∧ lib.loads output.stdout = .ok json
    · apply triple_ofReply
      · exact fun json history hjson hhistory => ⟨hhistory, hjson⟩
      · intro _ _ hcooperates
        obtain ⟨json, _, hjson, -⟩ := hsize hcooperates
        exact ⟨json, hjson⟩
    · intro json
      cases htotal : GitCloner.lfsTotalSize json with
      | some size =>
        apply triple_ret
        intro history ⟨hhistory, hjson⟩
        refine ⟨hhistory, fun hcooperates => ?_⟩
        obtain ⟨json', size', hjson', htotal', hdisk⟩ := hsize hcooperates
        cases hjson.symm.trans hjson'
        cases htotal.symm.trans htotal'
        exact hdisk
      | none =>
        apply triple_raise
        intro history ⟨_, hjson⟩ hcooperates
        obtain ⟨json', size', hjson', htotal', -⟩ := hsize hcooperates
        cases hjson.symm.trans hjson'
        cases htotal.symm.trans htotal'

theorem keeps_pullLfs (repository : Repository) :
    Triple (recorded reply) P (GitCloner.pullLfs lib repository) (fun _ => P)
      (Stops lib reply config) := by
  apply Triple.bind _ (triple_getLfsTotalSizeBytes lib config hgit hP repository)
  intro size
  apply Triple.bind fun (free : Int) history =>
    P history ∧ (NothingElseFails lib reply config → size ≤ (free : Rat))
  · intro history ⟨hhistory, hsize⟩
    have hfree : Triple (recorded reply) P (CloneProg.diskFree repository.absolutePath)
        (fun free history => P history ∧ ∃ before,
          reply before (.diskFree repository.absolutePath) = .ok free)
        (Stops lib reply config) :=
      triple_quiet_call (.diskFree repository.absolutePath) hP (by simp) fun hcooperates before =>
        (hsize hcooperates before).imp fun _ h => h.1
    apply hfree.weaken (fun _ h => h) _ (fun _ _ h => h) history hhistory
    rintro free after ⟨hafter, before, hreply⟩
    refine ⟨hafter, fun hcooperates => ?_⟩
    obtain ⟨free', hreply', hle⟩ := hsize hcooperates before
    cases hreply.symm.trans hreply'
    exact hle
  · intro free
    by_cases hfull : (free : Rat) < size
    · rw [if_pos hfull]
      apply triple_raise
      intro history ⟨_, hle⟩ hcooperates
      exact absurd hfull (Rat.not_lt.mpr (hle hcooperates))
    · rw [if_neg hfull]
      apply (keeps_commands lib config hgit hP repository (plain_cons _ (by decide))
        (plain_cons _ (by decide))).weaken
      · exact fun _ h => h.1
      · exact fun _ _ h => h
      · exact fun _ _ h => h

theorem keeps_getDefaultBranch (repository : Repository) :
    Triple (recorded reply) P (GitCloner.getDefaultBranch repository) (fun _ => P)
      (Stops lib reply config) := by
  apply Triple.bind fun res history => P history ∧ ∃ branch, GitCloner.matchRemoteHead res = some branch
  · apply triple_exceptGitCommand
    apply Triple.bind (fun _ => P) (keeps_gitCli lib config hgit hP repository
      (plain_cons _ (by decide)))
    intro _
    have hplain : Plain remoteHeadArgs := plain_cons _ (by decide)
    apply (triple_gitCli lib config hgit hP repository hplain).weaken (fun _ h => h) _
      (fun _ _ h => h)
    rintro res history ⟨hhistory, before, output, hreply, rfl⟩
    obtain ⟨output', branch, hreply', -, hstdout, hbranch⟩ :=
      hgit.remoteHead before repository.absolutePath
    cases hreply.symm.trans hreply'
    rw [hstdout]
    exact ⟨hhistory, branch, matchRemoteHead_line hbranch⟩
  · intro res history ⟨hhistory, branch, hbranch⟩
    simp only [hbranch]
    exact hhistory

end Keeps

theorem keeps_excludeStoragesFromGit (lib : PyLibrary) (config : Config) (hP : Quiet P)
    (repository : Repository) (storages : List String) :
    Triple (recorded reply) P (GitCloner.excludeStoragesFromGit repository storages) (fun _ => P)
      (Stops lib reply config) := by
  unfold GitCloner.excludeStoragesFromGit
  split
  · exact triple_ret fun _ h => h
  · apply Triple.bind (fun _ => P) (keeps_openAppend hP _)
    exact fun _ => keeps_write hP _ _

theorem keeps_checkStorageMounts (lib : PyLibrary) (hP : Quiet P) {mounts : List String}
    (hmounts : ∀ mount ∈ mounts, mount ∈ config.storageMounts) :
    Triple (recorded reply) P (GitCloner.checkStorageMounts mounts) (fun _ => P)
      (Stops lib reply config) := by
  induction mounts with
  | nil => exact triple_ret fun _ h => h
  | cons mount mounts ih =>
    have hthere : Triple (recorded reply) P (CloneProg.pathExists .storageMount (PosixPath.ofString mount))
        (fun there history => P history ∧
          ∃ before, reply before (.pathExists .storageMount (PosixPath.ofString mount)) = .ok there)
        (Stops lib reply config) :=
      triple_quiet_call (.pathExists .storageMount (PosixPath.ofString mount)) hP (by simp)
        fun hcooperates before => hcooperates.pathExists before _ _
    apply Triple.bind _ hthere
    intro there
    cases there with
    | true =>
      apply triple_raise
      intro history ⟨_, before, hreply⟩ hcooperates
      have hfree := hcooperates.mounts mount (hmounts mount List.mem_cons_self) before
      cases hreply.symm.trans hfree
    | false =>
      apply (ih fun mount hmount => hmounts mount (List.mem_cons_of_mem _ hmount)).weaken
      · exact fun _ h => h.1
      · exact fun _ _ h => h
      · exact fun _ _ h => h

theorem keeps_getAccessToken (lib : PyLibrary) (config : Config) (hP : Quiet P)
    (tokens : GitCloner.AccessTokens) (providerId : String) :
    Triple (recorded reply) P (cloner.getAccessToken tokens providerId) (fun _ => P)
      (Stops lib reply config) := by
  unfold GitCloner.getAccessToken
  split
  · exact triple_ret fun _ h => h
  · split
    · exact triple_ret fun _ h => h
    · rename_i provider _
      have hresponse : Triple (recorded reply) P
          (CloneProg.getToken provider.accessTokenUrl (cloner.user.renkuToken.getD "None"))
          (fun response history => P history ∧ ∃ before, reply before
            (.getToken provider.accessTokenUrl (cloner.user.renkuToken.getD "None")) = .ok response)
          (Stops lib reply config) :=
        triple_quiet_call (.getToken provider.accessTokenUrl (cloner.user.renkuToken.getD "None")) hP
          (by simp) fun hcooperates before => (hcooperates.getToken before _ _).imp fun _ h => h.1
      apply Triple.bind _ hresponse
      intro response
      by_cases hcode : response.statusCode = 200
      · rw [if_neg (by simp [hcode])]
        apply Triple.bind (fun _ => P)
        · apply triple_ofReply
          · exact fun _ _ _ h => h.1
          · intro history ⟨_, before, hreply⟩ hcooperates
            obtain ⟨response', hreply', htoken⟩ := hcooperates.getToken before
              provider.accessTokenUrl (cloner.user.renkuToken.getD "None")
            cases hreply.symm.trans hreply'
            exact htoken hcode
        · exact fun _ => triple_ret fun _ h => h
      · rw [if_pos hcode]
        exact triple_ret fun _ h => h.1

theorem keeps_repositoryToken (lib : PyLibrary) (config : Config) (hP : Quiet P)
    (tokens : GitCloner.AccessTokens) (repository : Repository) :
    Triple (recorded reply) P (cloner.repositoryToken tokens repository) (fun _ => P)
      (Stops lib reply config) := by
  unfold GitCloner.repositoryToken
  split
  · split
    · exact keeps_getAccessToken lib config hP tokens _
    · exact triple_ret fun _ h => h
  · exact triple_ret fun _ h => h

/-! ### The calls that clone a repository -/

/-- The milestones are among the calls since the start, which have made the work trees. -/
def Reached (start milestones : List CloneCall) (made : List Directory)
    (history : List CloneCall) : Prop :=
  ∃ new, history = start ++ new ∧ milestones.Sublist new ∧ initialised new = made

theorem initialised_append (history new : List CloneCall) :
    initialised (history ++ new) = initialised history ++ initialised new :=
  List.filterMap_append

theorem initialised_of_quiet {c : CloneCall} (hc : ∀ dir, c ≠ .git dir ["init"]) :
    initialised [c] = [] := by
  unfold initialised
  rw [List.filterMap_cons]
  split
  · rfl
  · rename_i heq
    split at heq
    · exact absurd rfl (hc _)
    · cases heq

variable {start milestones : List CloneCall} {made : List Directory}

theorem quiet_reached : Quiet (Reached start milestones made) := by
  rintro _ c hc ⟨new, rfl, hmilestones, hmade⟩
  refine ⟨new ++ [c], List.append_assoc .., ?_, ?_⟩
  · exact hmilestones.trans (List.sublist_append_left new [c])
  · rw [initialised_append, initialised_of_quiet hc, List.append_nil, hmade]

theorem Reached.git {history : List CloneCall} {dir : PosixPath} {args : List String}
    (h : Reached start milestones made history) (hargs : args ≠ ["init"]) :
    Reached start (milestones ++ [.git dir args]) made (history ++ [.git dir args]) := by
  obtain ⟨new, rfl, hmilestones, hmade⟩ := h
  refine ⟨new ++ [.git dir args], List.append_assoc .., ?_, ?_⟩
  · exact hmilestones.append (List.Sublist.refl _)
  · have hquiet : ∀ dir', CloneCall.git dir args ≠ .git dir' ["init"] :=
      fun _ heq => hargs (CloneCall.git.inj heq).2
    rw [initialised_append, initialised_of_quiet hquiet, List.append_nil, hmade]

theorem Reached.init {history : List CloneCall} {dir : PosixPath}
    (h : Reached start milestones made history) :
    Reached start (milestones ++ [.git dir ["init"]]) (made ++ [dir.resolve])
      (history ++ [.git dir ["init"]]) := by
  obtain ⟨new, rfl, hmilestones, hmade⟩ := h
  refine ⟨new ++ [.git dir ["init"]], List.append_assoc .., ?_, ?_⟩
  · exact hmilestones.append (List.Sublist.refl _)
  · rw [initialised_append, hmade]
    rfl

/-- A command that is a milestone. -/
theorem triple_milestone (hgit : GitSucceeds reply trees) (lib : PyLibrary) (config : Config)
    (repository : Repository) {args : List String} (hargs : Plain args) :
    Triple (recorded reply) (Reached start milestones made) (repository.gitCli args)
      (fun _ => Reached start (milestones ++ [.git repository.absolutePath args]) made)
      (Stops lib reply config) := by
  have hnext : ∀ history, Reached start milestones made history →
      Reached start (milestones ++ [.git repository.absolutePath args]) made
        (history ++ [.git repository.absolutePath args]) :=
    fun history hhistory => hhistory.git hargs.2
  apply (triple_git hgit hargs.1 hnext).weaken
  · exact fun _ h => h
  · exact fun _ _ h => h.1
  · exact fun _ _ h => h

/-- All the calls by which a repository is cloned. -/
def Complete (start : List CloneCall) (made : List Directory) (repository : Repository)
    (history : List CloneCall) : Prop :=
  ∃ branch, Reached start (cloneCalls repository branch) made history

theorem quiet_complete {repository : Repository} : Quiet (Complete start made repository) := by
  rintro history c hc ⟨branch, hbranch⟩
  exact ⟨branch, quiet_reached history c hc hbranch⟩

theorem triple_clone (hgit : GitSucceeds reply trees) (config : Config) (repository : Repository) :
    Triple (recorded reply)
      (Reached start [.git repository.absolutePath ["init"]] made) (cloner.clone lib repository)
      (fun _ => Complete start made repository) (Stops lib reply config) := by
  apply Triple.bind (fun _ => Reached start [.git repository.absolutePath ["init"]] made)
  · split
    · exact keeps_gitCli lib config hgit quiet_reached repository (plain_cons _ (by decide))
    · exact keeps_gitCli lib config hgit quiet_reached repository (plain_cons _ (by decide))
  intro _
  apply Triple.bind _ (triple_milestone hgit lib config repository (plain_cons _ (by decide)))
  intro _
  apply Triple.bind _ (triple_exceptGitCommand
    (triple_milestone hgit lib config repository (plain_cons _ (by decide))))
  intro _
  apply Triple.bind fun _ => Reached start
    [.git repository.absolutePath ["init"],
      .git repository.absolutePath ["remote", "add", "origin", repository.url],
      .git repository.absolutePath ["fetch", "origin"]] made
  · unfold GitCloner.chosenBranch
    split
    · split
      · exact triple_ret fun _ h => h
      · exact keeps_getDefaultBranch lib config hgit quiet_reached repository
    · exact keeps_getDefaultBranch lib config hgit quiet_reached repository
  intro branch
  apply Triple.bind fun _ => Complete start made repository
  · apply triple_exceptGitCommand
    apply Triple.bind _ (triple_milestone hgit lib config repository (plain_cons _ (by decide)))
    exact fun _ => triple_ret fun _ h => ⟨branch, h⟩
  intro _
  apply Triple.bind fun _ => Complete start made repository
  · apply keeps_onlyIf
    exact keeps_pullLfs lib config hgit quiet_complete repository
  intro _
  exact keeps_updateSubmodules lib config hgit quiet_complete repository

theorem keeps_withTempPlaintextCredentials (hgit : GitSucceeds reply trees) (hP : Quiet P)
    (hQ : Quiet Q) {repository : Repository} {user token : String} {body : CloneProg Unit}
    (hurl : ∃ r ∈ config.repositories, r.url = repository.url)
    (hbody : Triple (recorded reply) P body (fun _ => Q) (Stops lib reply config)) :
    Triple (recorded reply) P
      (GitCloner.withTempPlaintextCredentials lib repository user token body) (fun _ => Q)
      (Stops lib reply config) := by
  obtain ⟨r, hr, hurl⟩ := hurl
  apply Triple.bind fun _ => P
  · apply triple_ofReply
    · exact fun _ _ _ h => h
    · intro _ _ hcooperates
      rw [← hurl]
      exact (hcooperates.urls r hr).2
  intro lfsAccess
  apply Triple.finallyDo (fun _ => Q) (Stops lib reply config)
  · apply Triple.bind (fun _ => P) (keeps_openWrite hP _)
    intro _
    apply Triple.bind fun _ => P
    · apply triple_ofReply
      · exact fun _ _ _ h => h
      · intro _ _ hcooperates
        rw [← hurl]
        exact (hcooperates.urls r hr).1
    intro parsed
    apply Triple.bind (fun _ => P) (keeps_write hP _ _)
    intro _
    apply Triple.bind (fun _ => P) (keeps_gitCli lib config hgit hP repository
      (plain_cons _ (by decide)))
    intro _
    apply Triple.bind (fun _ => P) (keeps_gitCli lib config hgit hP repository
      (plain_cons _ (by decide)))
    exact fun _ => hbody
  · exact fun _ => keeps_removeCredentials lib config hgit hQ repository _
  · exact fun _ => keeps_removeCredentials lib config hgit quiet_stops repository _

theorem triple_cloneAndReset (hgit : GitSucceeds reply trees) {repository : Repository}
    (hurl : ∃ r ∈ config.repositories, r.url = repository.url) (token : Option String) :
    Triple (recorded reply) (Reached start [.git repository.absolutePath ["init"]] made)
      (cloner.cloneAndReset lib repository token) (fun _ => Complete start made repository)
      (Stops lib reply config) := by
  have hclone : Triple (recorded reply)
      (Reached start [.git repository.absolutePath ["init"]] made) (cloner.clone lib repository)
      (fun _ => Complete start made repository) (Stops lib reply config) :=
    triple_clone hgit config repository
  apply Triple.bind fun _ => Complete start made repository
  · unfold GitCloner.cloneWith
    split
    · split
      · exact hclone
      · exact keeps_withTempPlaintextCredentials hgit quiet_reached quiet_complete hurl hclone
    · exact hclone
  intro _
  apply keeps_onlyIf
  apply Triple.bind (fun _ => Complete start made repository)
    (keeps_gitCli lib config hgit quiet_complete repository (plain_cons _ (by decide)))
  exact fun _ => triple_ret fun _ h => h

/-! ### One repository -/

theorem triple_openGitCli (lib : PyLibrary) (config : Config) (repository : Repository) :
    Triple (recorded reply) (fun history => history = start) repository.openGitCli
      (fun _ => Reached start [] []) (Stops lib reply config) := by
  have hstart : Reached start [] [] start := ⟨[], by simp, List.Sublist.refl _, rfl⟩
  have hquiet : ∀ asked dir,
      CloneCall.pathExists asked repository.absolutePath ≠ .git dir ["init"] := by simp
  apply Triple.bind fun there history =>
    history = start ++ [.pathExists .repository repository.absolutePath] ∧
      reply start (.pathExists .repository repository.absolutePath) = .ok there
  · apply triple_call (.pathExists .repository repository.absolutePath)
    · rintro history there rfl hthere
      exact ⟨rfl, hthere⟩
    · rintro history - hcooperates
      exact hcooperates.pathExists history _ _
  intro there
  apply Triple.bind fun _ history => Reached start [] [] history ∧
    (NothingElseFails lib reply config →
      reply history (.pathExists .gitDirectory repository.absolutePath) = .ok true)
  · cases there with
    | true =>
      apply triple_ret
      rintro history ⟨rfl, hthere⟩
      refine ⟨quiet_reached _ _ (hquiet _) hstart, fun hcooperates => ?_⟩
      exact hcooperates.stillThere start _ _ _ hthere
    | false =>
      apply triple_call (.mkdir repository.absolutePath)
      · rintro history _ ⟨rfl, -⟩ -
        refine ⟨quiet_reached _ _ (by simp) (quiet_reached _ _ (hquiet _) hstart),
          fun hcooperates => ?_⟩
        exact (hcooperates.mkdir _ _).2 _
      · rintro history - hcooperates
        exact ⟨(), (hcooperates.mkdir history _).1⟩
  intro _
  apply Triple.bind fun there history => Reached start [] [] history ∧
    (NothingElseFails lib reply config → there = true)
  · apply triple_call (.pathExists .gitDirectory repository.absolutePath)
    · rintro history there ⟨hhistory, htrue⟩ hthere
      refine ⟨quiet_reached _ _ (hquiet _) hhistory, fun hcooperates => ?_⟩
      exact Except.ok.inj (hthere.symm.trans (htrue hcooperates))
    · rintro history - hcooperates
      exact hcooperates.pathExists history _ _
  intro there
  cases there with
  | true => exact triple_ret fun _ h => h.1
  | false =>
    apply triple_raise
    intro history ⟨_, htrue⟩ hcooperates
    cases htrue hcooperates

theorem initialised_of_reached {history : List CloneCall}
    (h : Reached start milestones made history) :
    initialised history = initialised start ++ made := by
  obtain ⟨new, rfl, -, hmade⟩ := h
  rw [initialised_append, hmade]

/-- How the question of `exists` ends. -/
theorem run_revParse (hgit : GitSucceeds reply trees) (dir : PosixPath)
    (history : List CloneCall) :
    ∃ output, (CloneProg.git dir revParseArgs).run (recorded reply) history =
      (match insideWorkTree (trees ++ initialised history) dir.resolve with
        | some inside => .ok (if inside then "true\n" else "false\n")
        | none => .error (.gitCommand output), history ++ [.git dir revParseArgs]) := by
  obtain ⟨output, hreply, houtput⟩ := hgit.revParse history dir
  refine ⟨output, ?_⟩
  have hrun : (CloneProg.git dir revParseArgs).run (recorded reply) history =
      (if 0 < output.stderr.length ∧ output.returncode ≠ 0 then .error (.gitCommand output)
        else .ok output.stdout, history ++ [.git dir revParseArgs]) := by
    simp only [CloneProg.git, perform, Prog.bind, run_call, recorded, hreply, CloneProg.ofReply,
      Prog.ofExcept, Except.mapError]
    split
    · rfl
    · rfl
  rw [hrun]
  cases hinside : insideWorkTree (trees ++ initialised history) dir.resolve with
  | some inside =>
    rw [hinside] at houtput
    rw [if_neg (fun h => h.2 houtput.1), houtput.2]
  | none =>
    rw [hinside] at houtput
    have hstderr : 0 < output.stderr.length := by
      apply Nat.pos_of_ne_zero
      intro hzero
      exact houtput.2 (String.length_eq_zero_iff.mp hzero)
    rw [if_pos ⟨hstderr, houtput.1⟩]

/-- What a question that git refuses leaves behind. -/
def Refused (lib : PyLibrary) (reply : List CloneCall → (c : CloneCall) → c.Reply)
    (config : Config) (outside : List CloneCall → Prop) : CloneError → List CloneCall → Prop
  | .gitCommand _, history => outside history
  | e, history => Stops lib reply config e history

/-- A repository is found to exist if its directory is inside a work tree. -/
theorem triple_repoExists (hgit : GitSucceeds reply trees) (lib : PyLibrary) (config : Config)
    (repository : Repository) :
    Triple (recorded reply) (fun history => history = start) repository.repoExists
      (fun there history => (there = true ↔
        insideWorkTree (trees ++ initialised start) repository.directory = some true) ∧
          Reached start [] [] history)
      (Stops lib reply config) := by
  apply Triple.tryCatch (Refused lib reply config fun history =>
    insideWorkTree (trees ++ initialised start) repository.directory ≠ some true ∧
      Reached start [] [] history)
  · apply Triple.bind fun _ => Reached start [] []
    · apply (triple_openGitCli lib config repository).weaken (fun _ h => h) (fun _ _ h => h)
      intro e history hstops
      cases e with
      | gitCommand output => exact hstops.elim
      | _ => exact hstops
    intro _
    apply Triple.bind fun answer history => (PyText.strip (PyText.lower answer) = "true" ↔
      insideWorkTree (trees ++ initialised start) repository.directory = some true) ∧
        Reached start [] [] history
    · intro history hhistory
      obtain ⟨output, hrun⟩ := run_revParse hgit repository.absolutePath history
      have hnext : Reached start [] [] (history ++ [.git repository.absolutePath revParseArgs]) :=
        quiet_reached _ _ (by simp [revParseArgs]) hhistory
      rw [initialised_of_reached hhistory, List.append_nil] at hrun
      change Outcome _ _ ((CloneProg.git repository.absolutePath revParseArgs).run _ history)
      rw [hrun]
      cases hinside : insideWorkTree (trees ++ initialised start) repository.directory with
      | some inside =>
        rw [Repository.directory] at hinside
        rw [hinside]
        refine ⟨?_, hnext⟩
        cases inside with
        | true => exact iff_of_true (by decide) rfl
        | false => exact iff_of_false (by decide) (by simp)
      | none =>
        rw [Repository.directory] at hinside
        rw [hinside]
        exact And.intro nofun hnext
    · intro answer
      apply triple_ret
      rintro history ⟨hanswer, hhistory⟩
      exact ⟨by simpa using hanswer, hhistory⟩
  · intro e
    cases e with
    | gitCommand output =>
      apply triple_ret
      rintro history ⟨houtside, hhistory⟩
      exact ⟨by simpa using houtside, hhistory⟩
    | _ => exact triple_raise fun _ hstops => hstops

theorem keeps_configure (hgit : GitSucceeds reply trees) (lib : PyLibrary) (config : Config)
    (hP : Quiet P) (repository : Repository) (setting : String) (value : Option String) :
    Triple (recorded reply) P (GitCloner.configure repository setting value) (fun _ => P)
      (Stops lib reply config) := by
  cases value with
  | some value =>
    apply Triple.bind (fun _ => P) (keeps_gitCli lib config hgit hP repository
      (plain_cons _ (by decide)))
    exact fun _ => triple_ret fun _ h => h
  | none => exact triple_ret fun _ h => h

theorem triple_initializeRepo (hgit : GitSucceeds reply trees) (lib : PyLibrary) (config : Config)
    (repository : Repository) :
    Triple (recorded reply) (Reached start [] []) (cloner.initializeRepo repository)
      (fun _ => Reached start [.git repository.absolutePath ["init"]] [repository.directory])
      (Stops lib reply config) := by
  have hnext : ∀ history, Reached start [] [] history →
      Reached start [.git repository.absolutePath ["init"]] [repository.directory]
        (history ++ [.git repository.absolutePath ["init"]]) :=
    fun history hhistory => hhistory.init
  apply Triple.bind _ (triple_git hgit (by decide) hnext)
  intro _
  apply Triple.bind fun _ =>
    Reached start [.git repository.absolutePath ["init"]] [repository.directory]
  · apply (keeps_configure hgit lib config quiet_reached repository _ _).weaken
    · exact fun _ h => h.1
    · exact fun _ _ h => h
    · exact fun _ _ h => h
  intro _
  apply Triple.bind _ (keeps_configure hgit lib config quiet_reached repository _ _)
  intro _
  apply Triple.bind _ (keeps_gitCli lib config hgit quiet_reached repository
    (plain_cons _ (by decide)))
  exact fun _ => triple_ret fun _ h => h

/-- A repository whose directory is inside a work tree is left as it is, another one is cloned. -/
def Handled (trees : List Directory) (start : List CloneCall) (repository : Repository)
    (history : List CloneCall) : Prop :=
  if insideWorkTree (trees ++ initialised start) repository.directory = some true then
    Reached start [] [] history
  else Complete start [repository.directory] repository history

theorem triple_runHelper (hgit : GitSucceeds reply trees) (lib : PyLibrary)
    (cloner : GitCloner) {repository : Repository}
    (hurl : ∃ r ∈ config.repositories, r.url = repository.url)
    (tokens : GitCloner.AccessTokens) :
    Triple (recorded reply) (fun history => history = start)
      (cloner.runHelper lib tokens config.storageMounts repository)
      (fun _ => Handled trees start repository) (Stops lib reply config) := by
  apply Triple.bind _ (triple_repoExists hgit lib config repository)
  intro there
  apply triple_of_and
  intro hthere
  cases there with
  | true =>
    have hhandled : ∀ history, Reached start [] [] history →
        Handled trees start repository history := by
      intro history hhistory
      rwa [Handled, if_pos (hthere.mp rfl)]
    apply Triple.bind _ (keeps_setupProxy lib config cloner hgit quiet_reached repository)
    exact fun _ => triple_ret hhandled
  | false =>
    have hhandled : ∀ history, Complete start [repository.directory] repository history →
        Handled trees start repository history := by
      intro history hhistory
      rwa [Handled, if_neg fun hinside => Bool.false_ne_true (hthere.mpr hinside)]
    apply Triple.bind _ (keeps_repositoryToken lib config quiet_reached tokens repository)
    intro token
    apply Triple.bind _ (triple_initializeRepo hgit lib config repository)
    intro _
    apply Triple.bind fun goOn history =>
      goOn = true ∧ Complete start [repository.directory] repository history
    · apply Triple.tryCatch (Stops lib reply config)
      · apply Triple.bind _ (triple_cloneAndReset hgit hurl token.1)
        exact fun _ => triple_ret fun _ h => ⟨rfl, h⟩
      · intro e
        cases e with
        | gitFetch => exact fun _ hstops => hstops.elim
        | branchDoesNotExist => exact fun _ hstops => hstops.elim
        | _ => exact triple_raise fun _ hstops => hstops
    intro goOn
    apply triple_of_and
    rintro rfl
    apply Triple.bind _ (keeps_checkStorageMounts lib quiet_complete fun _ hmount => hmount)
    intro _
    apply Triple.bind _ (keeps_excludeStoragesFromGit lib config quiet_complete repository _)
    intro _
    apply Triple.bind _ (keeps_setupProxy lib config cloner hgit quiet_complete repository)
    exact fun _ => triple_ret hhandled

/-! ### All repositories -/

/-- The directories in which work trees are made, one after the other. -/
def madeBy (trees : List Directory) : List Directory → List Directory
  | [] => []
  | dir :: dirs =>
    if insideWorkTree trees dir = some true then madeBy trees dirs
    else dir :: madeBy (trees ++ [dir]) dirs

/-- No directory is inside the work tree of an earlier one. -/
def Free (trees : List Directory) : List Directory → Prop
  | [] => True
  | dir :: dirs => insideWorkTree trees dir ≠ some true ∧ Free (trees ++ [dir]) dirs

theorem Cloned.of_sublist {history new : List CloneCall} {r : Repository} (h : Cloned new r)
    (hnew : new.Sublist history) : Cloned history r :=
  h.imp fun _ hcalls => hcalls.trans hnew

/-- The run over a list of repositories. -/
def AllHandled (trees : List Directory) (start : List CloneCall) (repositories : List Repository)
    (history : List CloneCall) : Prop :=
  ∃ new, history = start ++ new ∧
    initialised new = madeBy (trees ++ initialised start) (repositories.map Repository.directory) ∧
    (Free (trees ++ initialised start) (repositories.map Repository.directory) →
      ∀ r ∈ repositories, Cloned new r)

theorem allHandled_cons {repository : Repository} {repositories : List Repository}
    {history history' : List CloneCall} (h : Handled trees start repository history)
    (h' : AllHandled trees history repositories history') :
    AllHandled trees start (repository :: repositories) history' := by
  obtain ⟨later, rfl, hlater, hcloned⟩ := h'
  rw [Handled] at h
  by_cases hinside : insideWorkTree (trees ++ initialised start) repository.directory = some true
  · rw [if_pos hinside] at h
    have hmade := initialised_of_reached h
    obtain ⟨new, rfl, -, hnew⟩ := h
    rw [List.append_nil] at hmade
    rw [hmade] at hlater hcloned
    refine ⟨new ++ later, List.append_assoc .., ?_, ?_⟩
    · rw [initialised_append, hnew, hlater, List.map_cons, madeBy, if_pos hinside]
      rfl
    · exact fun hfree => absurd hinside hfree.1
  · rw [if_neg hinside] at h
    obtain ⟨branch, h⟩ := h
    have hmade := initialised_of_reached h
    obtain ⟨new, rfl, hcalls, hnew⟩ := h
    rw [hmade, ← List.append_assoc] at hlater hcloned
    refine ⟨new ++ later, List.append_assoc .., ?_, ?_⟩
    · rw [initialised_append, hnew, hlater, List.map_cons, madeBy, if_neg hinside]
      rfl
    · intro hfree r hr
      rcases List.mem_cons.mp hr with rfl | hr
      · exact ⟨branch, hcalls.trans (List.sublist_append_left new later)⟩
      · exact (hcloned hfree.2 r hr).of_sublist (List.sublist_append_right new later)

theorem triple_runAll (hgit : GitSucceeds reply trees) (lib : PyLibrary) (cloner : GitCloner)
    {repositories : List Repository}
    (hurls : ∀ repository ∈ repositories, ∃ r ∈ config.repositories, r.url = repository.url)
    (tokens : GitCloner.AccessTokens) (start : List CloneCall) :
    Triple (recorded reply) (fun history => history = start)
      (cloner.runAll lib config.storageMounts tokens repositories)
      (fun _ => AllHandled trees start repositories) (Stops lib reply config) := by
  induction repositories generalizing tokens start with
  | nil =>
    apply triple_ret
    rintro _ rfl
    exact ⟨[], by simp, rfl, fun _ r hr => by cases hr⟩
  | cons repository repositories ih =>
    apply Triple.bind _ (triple_runHelper hgit lib cloner (hurls repository List.mem_cons_self) tokens)
    intro tokens history hhistory
    apply (ih (fun r hr => hurls r (List.mem_cons_of_mem _ hr)) tokens history).weaken
    · exact fun _ h => h
    · exact fun _ _ h => allHandled_cons hhistory h
    · exact fun _ _ h => h
    · rfl

end Steps

section Directories

variable {trees : List Directory} {mount : Directory}

theorem insideWorkTree_of_mem {dir : Directory} (h : dir ∈ trees) :
    insideWorkTree trees dir = some true := by
  cases dir with
  | nil => rw [insideWorkTree, if_pos h]
  | cons name dir => rw [insideWorkTree, if_pos h]

theorem madeBy_subset {dirs : List Directory} : madeBy trees dirs ⊆ dirs := by
  induction dirs generalizing trees with
  | nil => exact List.Subset.refl _
  | cons dir dirs ih =>
    unfold madeBy
    split
    · exact List.subset_cons_of_subset dir ih
    · exact List.cons_subset_cons dir ih

/-- If each directory has been made a work tree, none was inside an earlier one. -/
theorem free_of_made {dirs : List Directory} (hnodup : dirs.Nodup)
    (hnew : ∀ dir ∈ dirs, dir ∉ trees) (hmade : ∀ dir ∈ dirs, dir ∈ madeBy trees dirs) :
    Free trees dirs := by
  induction dirs generalizing trees with
  | nil => trivial
  | cons dir dirs ih =>
    obtain ⟨hfirst, hnodup⟩ := List.nodup_cons.mp hnodup
    have hfree : insideWorkTree trees dir ≠ some true := by
      intro hinside
      have hmem := hmade dir List.mem_cons_self
      rw [madeBy, if_pos hinside] at hmem
      exact hfirst (madeBy_subset hmem)
    refine ⟨hfree, ih hnodup ?_ ?_⟩
    · intro d hd hmem
      rcases List.mem_append.mp hmem with hmem | hmem
      · exact hnew d (List.mem_cons_of_mem _ hd) hmem
      · rw [List.mem_singleton.mp hmem] at hd
        exact hfirst hd
    · intro d hd
      have hmem := hmade d (List.mem_cons_of_mem _ hd)
      rw [madeBy, if_neg hfree] at hmem
      rcases List.mem_cons.mp hmem with rfl | hmem
      · exact absurd hd hfirst
      · exact hmem

theorem free_iff {dirs : List Directory} :
    Free trees dirs ↔ ∀ earlier dir later, dirs = earlier ++ dir :: later →
      insideWorkTree (trees ++ earlier) dir ≠ some true := by
  induction dirs generalizing trees with
  | nil =>
    refine ⟨fun _ earlier dir later heq => ?_, fun _ => trivial⟩
    simp at heq
  | cons first dirs ih =>
    rw [Free, ih]
    constructor
    · intro ⟨hfirst, hrest⟩ earlier dir later heq
      cases earlier with
      | nil =>
        obtain ⟨rfl, -⟩ := List.cons.inj heq
        rwa [List.append_nil]
      | cons first' earlier =>
        obtain ⟨rfl, hdirs⟩ := List.cons.inj heq
        have hdir := hrest earlier dir later hdirs
        rwa [List.append_assoc] at hdir
    · intro h
      constructor
      · have hfirst := h [] first dirs rfl
        rwa [List.append_nil] at hfirst
      · intro earlier dir later heq
        rw [List.append_assoc]
        apply h (first :: earlier) dir later
        rw [heq]
        rfl

theorem ownDirectories_iff {dirs : List Directory} :
    OwnDirectories trees mount dirs ↔ (∀ dir ∈ dirs, mount.Below dir) ∧ Free trees dirs := by
  rw [free_iff]
  constructor
  · intro h
    refine ⟨?_, fun earlier dir later heq => (h earlier dir later heq).2⟩
    intro dir hdir
    obtain ⟨earlier, later, heq⟩ := List.append_of_mem hdir
    exact (h earlier dir later heq).1
  · intro ⟨hbelow, hfree⟩ earlier dir later heq
    refine ⟨hbelow dir ?_, hfree earlier dir later heq⟩
    rw [heq]
    simp

theorem nodup_of_free {dirs : List Directory} (h : Free trees dirs) : dirs.Nodup := by
  induction dirs generalizing trees with
  | nil => exact List.nodup_nil
  | cons dir dirs ih =>
    apply List.nodup_cons.mpr
    refine ⟨?_, ih h.2⟩
    intro hdir
    obtain ⟨earlier, later, heq⟩ := List.append_of_mem hdir
    apply free_iff.mp h.2 earlier dir later heq
    exact insideWorkTree_of_mem (by simp)

end Directories

section Clones

variable {lib : PyLibrary} {reply : List CloneCall → (c : CloneCall) → c.Reply}
  {trees : List Directory} {random : Nat → String} {config : Config} {cloner : GitCloner}

theorem url_of_fromConfigRepo {mountPath : PosixPath} {data : ConfigRepo} {random : String}
    {repository : Repository}
    (h : Repository.fromConfigRepo lib mountPath data random = .ok repository) :
    data.url = repository.url := by
  unfold Repository.fromConfigRepo at h
  obtain ⟨dirname, -, h⟩ := Results.bind_eq_ok_iff.mp h
  cases h
  rfl

theorem urls_of_fromConfig (h : GitCloner.fromConfig lib random config = .ok cloner) :
    ∀ repository ∈ cloner.repositories, ∃ r ∈ config.repositories, r.url = repository.url := by
  obtain ⟨repositories, hrepositories, h⟩ := Results.bind_eq_ok_iff.mp h
  cases h
  intro repository hrepository
  obtain ⟨⟨r, i⟩, hr, hfrom⟩ :=
    Results.exists_of_mem_forall2 (Results.forall2_of_mapM_eq_ok hrepositories) hrepository
  exact ⟨r, List.fst_mem_of_mem_zipIdx hr, url_of_fromConfigRepo hfrom⟩

theorem directory_mem_of_cloned {history : List CloneCall} {r : Repository}
    (h : Cloned history r) : r.directory ∈ initialised history := by
  obtain ⟨branch, hcalls⟩ := h
  have hinit : CloneCall.git r.absolutePath ["init"] ∈ history :=
    hcalls.subset (by simp [cloneCalls])
  exact List.mem_filterMap.mpr ⟨_, hinit, rfl⟩

theorem ownClones_iff_of_allHandled {mount : Directory} {repositories : List Repository}
    {history : List CloneCall} (hempty : ∀ tree ∈ trees, ¬ mount.Within tree)
    (h : AllHandled trees [] repositories history) :
    OwnClones mount repositories history ↔
      OwnDirectories trees mount (repositories.map Repository.directory) := by
  obtain ⟨new, rfl, hmade, hcloned⟩ := h
  have hstart : trees ++ initialised [] = trees := List.append_nil trees
  rw [hstart] at hmade hcloned
  rw [ownDirectories_iff]
  constructor
  · intro hown
    have hbelow : ∀ dir ∈ repositories.map Repository.directory, mount.Below dir := by
      intro dir hdir
      obtain ⟨r, hr, rfl⟩ := List.mem_map.mp hdir
      exact hown.below r hr
    refine ⟨hbelow, free_of_made (List.pairwise_map.mpr hown.apart) ?_ ?_⟩
    · exact fun dir hdir htree => hempty dir htree (hbelow dir hdir).1
    · intro dir hdir
      obtain ⟨r, hr, rfl⟩ := List.mem_map.mp hdir
      rw [← hmade]
      exact directory_mem_of_cloned (hown.cloned r hr)
  · intro ⟨hbelow, hfree⟩
    exact
      { cloned := hcloned hfree
        apart := List.pairwise_map.mp (nodup_of_free hfree)
        below := fun r hr => hbelow _ (List.mem_map_of_mem hr) }

end Clones

/-- In an empty workspace, if git succeeds, each repository gets its own clone in its own directory
if and only if the directories do not get in each other's way. -/
theorem own_clones_iff {lib : PyLibrary} {reply : List CloneCall → (c : CloneCall) → c.Reply}
    {trees : List Directory} {random : Nat → String} {config : Config} {cloner : GitCloner}
    (hgit : GitSucceeds reply trees)
    (hempty : ∀ tree ∈ trees, ¬ (PosixPath.ofString config.mountPath).resolve.Within tree)
    (hconfig : GitCloner.fromConfig lib random config = .ok cloner) :
    (∀ tokens history, (cloner.run lib config.storageMounts).run (recorded reply) [] =
        (.ok tokens, history) →
      (OwnClones (PosixPath.ofString config.mountPath).resolve cloner.repositories history ↔
        OwnDirectories trees (PosixPath.ofString config.mountPath).resolve
          (cloner.repositories.map Repository.directory))) ∧
      (NothingElseFails lib reply config → ∃ tokens history,
        (cloner.run lib config.storageMounts).run (recorded reply) [] = (.ok tokens, history)) := by
  have hrun := triple_runAll hgit lib cloner (urls_of_fromConfig hconfig) [] []
  constructor
  · intro tokens history hok
    exact ownClones_iff_of_allHandled hempty (hrun.value rfl hok)
  · intro hcooperates
    have hout := hrun [] rfl
    rcases hresult : (cloner.run lib config.storageMounts).run (recorded reply) [] with
      ⟨e | tokens, history⟩
    · rw [GitCloner.run] at hresult
      rw [hresult] at hout
      cases e with
      | gitCommand output => exact hout.elim
      | gitFetch => exact hout.elim
      | branchDoesNotExist => exact hout.elim
      | _ => exact absurd hcooperates hout
    · exact ⟨tokens, history, rfl⟩

/-! ### Two repositories with the same name -/

def sampleLibrary : PyLibrary where
  rejects := fun _ => false
  lower := List.map Char.toLower
  urljoin := fun base path => .ok (base ++ path)
  loads := fun _ => .ok (.obj [("files", .null)])
  traceback := fun error => error

/-- A container with a git for which every remote has a branch `main`. -/
def sampleReply (history : List CloneCall) : (c : CloneCall) → c.Reply
  | .pathExists _ path => .ok (decide (.mkdir path ∈ history))
  | .mkdir _ => .ok ()
  | .git dir args =>
    if args = revParseArgs then
      match insideWorkTree (initialised history) dir.resolve with
      | some true => .ok ⟨0, "true\n", ""⟩
      | some false => .ok ⟨0, "false\n", ""⟩
      | none => .ok ⟨128, "", "fatal: not a git repository"⟩
    else if args = remoteHeadArgs then .ok ⟨0, "refs/remotes/origin/main\n", ""⟩
    else .ok ⟨0, "", ""⟩
  | .openWrite _ => .ok ()
  | .openAppend _ => .ok ()
  | .write _ _ => .ok ()
  | .unlink _ => .ok ()
  | .getToken _ _ => .ok ⟨404, .error "KeyError"⟩
  | .diskFree _ => .ok 1000000000
  | .rmtree _ => ()

def sampleConfig (urls : List String) : Config where
  mountPath := "/work"
  user := ⟨none, none, none⟩
  repositories := urls.map fun url => { url := url }
  gitProviders := []
  lfsAutoFetch := false
  storageMounts := []
  isGitProxyEnabled := false
  gitProxyPort := 8080
  mounts_absolute := fun _ h => by cases h

/-- The cloner for URLs and the names that are found in them. -/
def sampleCloner (repositories : List (String × String)) : GitCloner where
  mountPath := .ofString "/work"
  gitProviders := []
  user := ⟨none, none, none⟩
  repositories := repositories.map fun (url, dirname) =>
    ⟨url, dirname, (PosixPath.ofString "/work").join (.ofString dirname), none, none, none⟩
  lfsAutoFetch := false
  isGitProxyEnabled := false
  proxyUrl := "http://localhost:8080"

theorem sample_gitSucceeds : GitSucceeds sampleReply [] where
  revParse := by
    intro history dir
    simp only [sampleReply, if_pos]
    cases hinside : insideWorkTree (initialised history) dir.resolve with
    | some inside =>
      cases inside with
      | true => exact ⟨_, rfl, by rw [List.nil_append, hinside]; exact ⟨rfl, rfl⟩⟩
      | false => exact ⟨_, rfl, by rw [List.nil_append, hinside]; exact ⟨rfl, rfl⟩⟩
    | none => exact ⟨_, rfl, by rw [List.nil_append, hinside]; exact ⟨by decide, by decide⟩⟩
  remoteHead := fun _ _ => ⟨_, "main", rfl, rfl, by decide, by decide⟩
  others := by
    intro history dir args hargs
    simp only [sampleReply, if_neg hargs]
    split
    · exact ⟨_, rfl, rfl⟩
    · exact ⟨_, rfl, rfl⟩

def sameNames : Config :=
  sampleConfig ["https://gitlab.com/alice/project.git", "https://gitlab.com/bob/project.git"]

def sameNamesCloner : GitCloner :=
  sampleCloner [("https://gitlab.com/alice/project.git", "project"),
    ("https://gitlab.com/bob/project.git", "project")]

/-- The second repository with the same name is skipped. -/
theorem sameNames_not_own_clones :
    GitSucceeds sampleReply [] ∧
      GitCloner.fromConfig sampleLibrary (fun _ => "abc") sameNames = .ok sameNamesCloner ∧
      ∃ tokens history,
        (sameNamesCloner.run sampleLibrary sameNames.storageMounts).run (recorded sampleReply) [] =
          (.ok tokens, history) ∧
        ¬ OwnClones (PosixPath.ofString sameNames.mountPath).resolve sameNamesCloner.repositories
          history := by
  refine ⟨sample_gitSucceeds, rfl, _, _, rfl, ?_⟩
  intro hown
  exact (List.pairwise_cons.mp hown.apart).1 _ List.mem_cons_self rfl

theorem sample_nothingElseFails (urls : List String) :
    NothingElseFails sampleLibrary sampleReply (sampleConfig urls) where
  pathExists := fun _ _ _ => ⟨_, rfl⟩
  stillThere := by
    intro history asked asked' path hthere
    have hmem : decide (CloneCall.mkdir path ∈ history) = true := Except.ok.inj hthere
    simp only [sampleReply, List.mem_append, of_decide_eq_true hmem, true_or, decide_true]
  mkdir := fun history path => ⟨rfl, by simp [sampleReply]⟩
  openWrite := fun _ _ => rfl
  openAppend := fun _ _ => rfl
  write := fun _ _ _ => rfl
  unlink := fun _ _ => rfl
  getToken := fun _ _ _ => ⟨_, rfl, fun hcode => by cases hcode⟩
  mounts := fun mount hmount => by cases hmount
  urls := by
    intro r _
    refine ⟨?_, r.url ++ "/" ++ "info/lfs.access", rfl⟩
    simp [PyUrl.urlparse, sampleLibrary]
  disk := by
    intro _ _ _ _
    refine ⟨.obj [("files", .null)], 0, rfl, rfl, ?_⟩
    exact fun _ => ⟨1000000000, rfl, by decide⟩

def otherNames : Config :=
  sampleConfig ["https://gitlab.com/alice/project.git", "https://gitlab.com/alice/notes.git"]

def otherNamesCloner : GitCloner :=
  sampleCloner [("https://gitlab.com/alice/project.git", "project"),
    ("https://gitlab.com/alice/notes.git", "notes")]

theorem otherNames_own_clones :
    ∃ tokens history,
      (otherNamesCloner.run sampleLibrary otherNames.storageMounts).run (recorded sampleReply) [] =
        (.ok tokens, history) ∧
      OwnClones (PosixPath.ofString otherNames.mountPath).resolve otherNamesCloner.repositories
        history := by
  have hcloner : GitCloner.fromConfig sampleLibrary (fun _ => "abc") otherNames =
      .ok otherNamesCloner := rfl
  obtain ⟨hiff, hreturns⟩ := own_clones_iff sample_gitSucceeds
    (fun tree htree => by cases htree) hcloner
  obtain ⟨tokens, history, hrun⟩ := hreturns (sample_nothingElseFails _)
  refine ⟨tokens, history, hrun, ?_⟩
  apply (hiff tokens history hrun).mpr
  rw [ownDirectories_iff]
  refine ⟨?_, by decide, by decide, trivial⟩
  decide

end RenkuNotebooks.GitServices
