import RenkuNotebooks.GitServices.OwnDirectories
import RenkuNotebooks.GitServices.TemporaryCredentials

/-!
# The work of earlier sessions

When a session is resumed, the mount path holds the repositories of the earlier one. Their files are
left alone as long as no call fails in a way that reaches the exception hook, which clears the mount
path, and neither git nor the program writes over one of them.
-/

namespace RenkuNotebooks.GitServices.ExistingWork

open Prog

section Statement

/-- What is around the program: the answers to its calls, which depend on the calls so far, and the
files that a git command removes or rewrites, the git config aside. -/
structure System where
  reply : List CloneCall → (c : CloneCall) → c.Reply
  rewrites : List CloneCall → PosixPath → List String → Directory → Prop

/-- `_execute_command` raises. -/
def Failed (output : GitOutput) : Prop :=
  0 < output.stderr.length ∧ output.returncode ≠ 0

instance (output : GitOutput) : Decidable (Failed output) := inferInstanceAs (Decidable (_ ∧ _))

def fetchArgs : List String := ["fetch", "origin"]

def lsFilesArgs : List String := ["lfs", "ls-files", "--json"]

/-- The program goes on after this failure of a git command. -/
def Tolerated (args : List String) (output : GitOutput) : Prop :=
  args = revParseArgs ∨ args = fetchArgs ∨ args = ["remote", "set-head", "origin", "--auto"] ∨
    args = remoteHeadArgs ∨
    (args.head? = some "checkout" ∧
      PyText.contains (PyText.lower output.stderr) "no space left on device" = false) ∨
    args.head? = some "submodule" ∨ args = lsFilesArgs ∨ ∃ key, args = ["config", "--unset", key]

variable (lib : PyLibrary) (system : System) (storageMounts : List String) (files : List Directory)

/-- The size of the files that `git lfs ls-files` lists, `none` where the list cannot be read. -/
def listedSize (output : GitOutput) : Option Rat :=
  if Failed output then some 0
  else match lib.loads output.stdout with
    | .ok json => GitCloner.lfsTotalSize json
    | .error _ => none

/-- The answer to a call is one after which the program goes on. -/
def Continues (before : List CloneCall) : CloneCall → Prop
  | .pathExists .repository path =>
    ∃ there, system.reply before (.pathExists .repository path) = .ok there
  | .pathExists .gitDirectory path =>
    system.reply before (.pathExists .gitDirectory path) = .ok true
  | .pathExists .storageMount path =>
    system.reply before (.pathExists .storageMount path) = .ok false
  | .mkdir path => system.reply before (.mkdir path) = .ok ()
  | .git dir args => ∃ output, system.reply before (.git dir args) = .ok output ∧
    (Failed output → Tolerated args output) ∧
    (args = lsFilesArgs → ∃ size, listedSize lib output = some size)
  | .openWrite path => system.reply before (.openWrite path) = .ok ()
  | .openAppend path => system.reply before (.openAppend path) = .ok ()
  | .write path text => system.reply before (.write path text) = .ok ()
  | .unlink path => system.reply before (.unlink path) = .ok ()
  | .getToken url bearer => ∃ response, system.reply before (.getToken url bearer) = .ok response ∧
    (response.statusCode = 200 → ∃ token, response.accessToken = .ok token)
  -- there is room for what has just been listed
  | .diskFree path => ∃ free, system.reply before (.diskFree path) = .ok free ∧
    ∀ start dir output size, before = start ++ [.git dir lsFilesArgs] →
      system.reply start (.git dir lsFilesArgs) = .ok output →
      listedSize lib output = some size → size ≤ (free : Rat)
  | .rmtree _ => True

/-- Git rewrites none of the files. A fetch that fails leads to a file `ERROR`, and one that does not
to new lines in the exclude file where there are storage mounts. -/
def Spares (before : List CloneCall) : CloneCall → Prop
  | .git dir args => (∀ file ∈ files, ¬ system.rewrites before dir args file) ∧
    (args = fetchArgs → ∀ output, system.reply before (.git dir args) = .ok output →
      if Failed output then (dir.child ["ERROR"]).resolve ∉ files
      else storageMounts = [] ∨ (dir.child [".git", "info", "exclude"]).resolve ∉ files)
  | _ => True

/-- A call removes or rewrites a file. The file for the credentials is the program's own. -/
def Harms (before : List CloneCall) (file : Directory) : CloneCall → Prop
  | .git dir args => system.rewrites before dir args file
  | .openWrite path => system.reply before (.openWrite path) = .ok () ∧ ¬ LeadsToFile path ∧
    path.resolve = file
  | .write path text => system.reply before (.write path text) = .ok () ∧ ¬ LeadsToFile path ∧
    path.resolve = file
  | .unlink path => ¬ LeadsToFile path ∧ path.resolve = file
  | .rmtree path => path.resolve.Within file
  | _ => False

/-- No call of a run removes or rewrites one of the files. -/
def Intact (history : List CloneCall) : Prop :=
  ∀ before c, before ++ [c] <+: history → ∀ file ∈ files, ¬ Harms system before file c

/-- Every call of a run is answered so that the program goes on and the files are spared. -/
def Undisturbed (history : List CloneCall) : Prop :=
  ∀ before c, before ++ [c] <+: history →
    Continues lib system before c ∧ Spares system storageMounts files before c

/-- `urllib.parse` can split the URLs of the repositories and join them with another one. -/
def ReadsUrls (config : Config) : Prop :=
  ∀ r ∈ config.repositories, (∃ parsed, PyUrl.urlparse lib.rejects r.url = .ok parsed) ∧
    ∃ joined, lib.urljoin (r.url ++ "/") "info/lfs.access" = .ok joined

end Statement

/-! ### What has happened in a run -/

section Histories

variable {P : List CloneCall → CloneCall → Prop} {history : List CloneCall} {c : CloneCall}

def Ever (P : List CloneCall → CloneCall → Prop) (history : List CloneCall) : Prop :=
  ∃ before c, before ++ [c] <+: history ∧ P before c

theorem not_ever_nil : ¬ Ever P [] := by
  rintro ⟨before, c, hprefix, -⟩
  simpa using List.prefix_nil.mp hprefix

theorem ever_concat : Ever P (history ++ [c]) ↔ Ever P history ∨ P history c := by
  constructor
  · rintro ⟨before, c', hprefix, h⟩
    rcases List.prefix_concat_iff.mp hprefix with heq | hprefix
    · obtain ⟨rfl, hlast⟩ := List.append_inj' heq rfl
      obtain rfl := List.singleton_inj.mp hlast
      exact .inr h
    · exact .inl ⟨before, c', hprefix, h⟩
  · rintro (⟨before, c', hprefix, h⟩ | h)
    · exact ⟨before, c', hprefix.trans (List.prefix_append _ _), h⟩
    · exact ⟨history, c, List.prefix_rfl, h⟩

end Histories

section Run

variable {lib : PyLibrary} {system : System} {storageMounts : List String}
  {files : List Directory} {readable : Prop} {pending : Prop} {history : List CloneCall}
  {c : CloneCall} {cloner : GitCloner} {repository : Repository} {α : Type}

/-- A file has been removed or rewritten. -/
def Harmed (system : System) (files : List Directory) (history : List CloneCall) : Prop :=
  Ever (fun before c => ∃ file ∈ files, Harms system before file c) history

def Unspared (system : System) (storageMounts : List String) (files : List Directory)
    (history : List CloneCall) : Prop :=
  Ever (fun before c => ¬ Spares system storageMounts files before c) history

/-- The hook is reached: a call has failed for good, or a URL cannot be read. -/
def Fatal (lib : PyLibrary) (system : System) (readable : Prop) (history : List CloneCall) : Prop :=
  Ever (fun before c => ¬ Continues lib system before c) history ∨ ¬ readable

/-- All calls go on, and the files are harmed exactly if they have not been spared, but for harm that
is still to come. -/
structure Even (lib : PyLibrary) (system : System) (storageMounts : List String)
    (files : List Directory) (pending : Prop) (history : List CloneCall) : Prop where
  continues : ¬ Ever (fun before c => ¬ Continues lib system before c) history
  harmed : Unspared system storageMounts files history ↔ Harmed system files history ∨ pending

theorem even_nil : Even lib system storageMounts files False [] where
  continues := not_ever_nil
  harmed := ⟨fun h => absurd h not_ever_nil,
    fun h => h.elim (fun h => absurd h not_ever_nil) False.elim⟩

theorem Fatal.concat (h : Fatal lib system readable history) :
    Fatal lib system readable (history ++ [c]) :=
  h.imp_left fun hfailed => ever_concat.mpr (.inl hfailed)

theorem fatal_of_not_continues (hc : ¬ Continues lib system history c) :
    Fatal lib system readable (history ++ [c]) :=
  .inl (ever_concat.mpr (.inr hc))

/-- A call that does as much harm as it is not spared. -/
theorem Even.concat (h : Even lib system storageMounts files pending history)
    (hc : Continues lib system history c)
    (hharms : ¬ Spares system storageMounts files history c ↔
      ∃ file ∈ files, Harms system history file c) :
    Even lib system storageMounts files pending (history ++ [c]) where
  continues := fun hever => (ever_concat.mp hever).elim h.continues fun hnot => hnot hc
  harmed := by
    unfold Unspared Harmed
    rw [ever_concat, ever_concat, hharms, ← Unspared, ← Harmed, h.harmed]
    exact or_right_comm

/-- Neither harms a file nor is what the files are not spared. -/
def Neutral (system : System) (storageMounts : List String) (files : List Directory)
    (c : CloneCall) : Prop :=
  ∀ before, Spares system storageMounts files before c ∧ ∀ file, ¬ Harms system before file c

theorem Even.neutral (h : Even lib system storageMounts files pending history)
    (hc : Continues lib system history c) (hneutral : Neutral system storageMounts files c) :
    Even lib system storageMounts files pending (history ++ [c]) := by
  apply h.concat hc
  obtain ⟨hspares, hharms⟩ := hneutral history
  exact ⟨fun hnot => absurd hspares hnot, fun ⟨file, _, hfile⟩ => absurd hfile (hharms file)⟩

/-! ### Single calls -/

variable (lib system storageMounts files readable) in
/-- What an error of a part leaves behind, with a state for the errors of git. -/
def Stopped (git : List CloneCall → Prop) : CloneError → List CloneCall → Prop
  | .gitCommand _, history => git history
  | .gitFetch, _ => False
  | .branchDoesNotExist, _ => False
  | _, history => Fatal lib system readable history

variable {git P : List CloneCall → Prop}

theorem stopped_of_false {e : CloneError}
    (h : Stopped lib system readable (fun _ => False) e history) :
    Stopped lib system readable git e history := by
  cases e with
  | gitCommand output => exact h.elim
  | _ => exact h

theorem triple_call (c : CloneCall) {f : c.Reply → Except String α}
    (hok : ∀ history text, f (system.reply history c) = .error text →
      ¬ Continues lib system history c) :
    Triple (recorded system.reply) P ((perform c).bind fun r => CloneProg.ofReply (f r))
      (fun a history => ∃ before, P before ∧ history = before ++ [c] ∧
        f (system.reply before c) = .ok a)
      (Stopped lib system readable git) := by
  apply Triple.bind fun r history => ∃ before, P before ∧ history = before ++ [c] ∧
    r = system.reply before c
  · exact triple_perform fun history hhistory => ⟨history, hhistory, rfl, rfl⟩
  · intro r
    apply triple_ofExcept
    · rintro a _ ha ⟨before, hbefore, rfl, rfl⟩
      refine ⟨before, hbefore, rfl, ?_⟩
      cases hreply : f (system.reply before c) with
      | error text =>
        rw [hreply] at ha
        cases ha
      | ok a' =>
        rw [hreply] at ha
        cases ha
        rfl
    · rintro e _ he ⟨before, hbefore, rfl, rfl⟩
      cases hreply : f (system.reply before c) with
      | error text =>
        rw [hreply] at he
        cases he
        exact fatal_of_not_continues (hok before text hreply)
      | ok a =>
        rw [hreply] at he
        cases he

/-- A call that does no harm and goes on where nothing is raised. -/
theorem even_call (c : CloneCall) {f : c.Reply → Except String α}
    (hneutral : Neutral system storageMounts files c)
    (hok : ∀ history, Continues lib system history c ↔ ∃ a, f (system.reply history c) = .ok a) :
    Triple (recorded system.reply) (Even lib system storageMounts files pending)
      ((perform c).bind fun r => CloneProg.ofReply (f r))
      (fun _ => Even lib system storageMounts files pending) (Stopped lib system readable git) := by
  refine (triple_call c ?_).weaken (fun _ h => h) ?_ fun _ _ h => h
  · intro history text htext hcontinues
    obtain ⟨a, ha⟩ := (hok history).mp hcontinues
    cases htext.symm.trans ha
  · rintro a _ ⟨before, hbefore, rfl, ha⟩
    exact hbefore.neutral ((hok before).mpr ⟨a, ha⟩) hneutral

theorem exists_unit {x : Except String Unit} : x = .ok () ↔ ∃ u, x = .ok u :=
  ⟨fun h => ⟨(), h⟩, fun ⟨_, h⟩ => h⟩

def Answered (system : System) (dir : PosixPath) (args : List String) (output : GitOutput)
    (before : List CloneCall) : Prop :=
  system.reply before (.git dir args) = .ok output

theorem triple_git (lib : PyLibrary) (dir : PosixPath) (args : List String) :
    Triple (recorded system.reply) P (CloneProg.git dir args)
      (fun stdout history => ∃ before output, P before ∧ history = before ++ [.git dir args] ∧
        Answered system dir args output before ∧ ¬ Failed output ∧ output.stdout = stdout)
      (fun e history => ∃ before, P before ∧ history = before ++ [.git dir args] ∧
        match e with
        | .gitCommand output => Answered system dir args output before ∧ Failed output
        | .python _ => ¬ Continues lib system before (.git dir args)
        | _ => False) := by
  apply Triple.bind fun r history => ∃ before, P before ∧ history = before ++ [.git dir args] ∧
    r = system.reply before (.git dir args)
  · exact triple_perform fun history hhistory => ⟨history, hhistory, rfl, rfl⟩
  · rintro (text | output)
    · apply triple_raise
      rintro _ ⟨before, hbefore, rfl, hreply⟩
      refine ⟨before, hbefore, rfl, ?_⟩
      rintro ⟨output, houtput, -⟩
      cases hreply.trans houtput
    · show Triple _ _ (if _ then _ else _) _ _
      split
      · rename_i hfailed
        apply triple_raise
        rintro _ ⟨before, hbefore, rfl, hreply⟩
        exact ⟨before, hbefore, rfl, hreply.symm, hfailed⟩
      · rename_i hgoes
        apply triple_ret
        rintro _ ⟨before, hbefore, rfl, hreply⟩
        exact ⟨before, output, hbefore, rfl, hreply.symm, hgoes, rfl⟩

theorem harms_git {dir : PosixPath} {args : List String} (hargs : args ≠ fetchArgs)
    (before : List CloneCall) : ¬ Spares system storageMounts files before (.git dir args) ↔
      ∃ file ∈ files, Harms system before file (.git dir args) := by
  have hspares : Spares system storageMounts files before (.git dir args) ↔
      ∀ file ∈ files, ¬ Harms system before file (.git dir args) :=
    and_iff_left fun heq => absurd heq hargs
  rw [hspares]
  push Not
  rfl

theorem Even.answered (h : Even lib system storageMounts files pending history) {dir : PosixPath}
    {args : List String} {output : GitOutput} (hanswered : Answered system dir args output history)
    (hfailed : Failed output → Tolerated args output) (hargs : args ≠ fetchArgs)
    (hls : args ≠ lsFilesArgs) :
    Even lib system storageMounts files pending (history ++ [.git dir args]) := by
  have hcontinues : Continues lib system history (.git dir args) :=
    ⟨output, hanswered, hfailed, fun heq => absurd heq hls⟩
  exact h.concat hcontinues (harms_git hargs history)

/-- A command whose failure is handled. -/
theorem even_tolerated {args : List String} (hargs : args ≠ fetchArgs) (hls : args ≠ lsFilesArgs)
    (htolerated : ∀ output, Tolerated args output) :
    Triple (recorded system.reply) (Even lib system storageMounts files pending)
      (repository.gitCli args) (fun _ => Even lib system storageMounts files pending)
      (Stopped lib system readable (Even lib system storageMounts files pending)) := by
  apply (triple_git lib _ args).weaken (fun _ h => h)
  · rintro _ _ ⟨before, output, hbefore, rfl, hanswered, -⟩
    exact hbefore.answered hanswered (fun _ => htolerated output) hargs hls
  · rintro e _ ⟨before, hbefore, rfl, he⟩
    cases e with
    | gitCommand output => exact hbefore.answered he.1 (fun _ => htolerated output) hargs hls
    | python text => exact fatal_of_not_continues he
    | _ => exact he.elim

/-- A command whose failure ends the run. -/
theorem even_command {args : List String} (hargs : args ≠ fetchArgs)
    (hfatal : ∀ output, ¬ Tolerated args output) :
    Triple (recorded system.reply) (Even lib system storageMounts files pending)
      (repository.gitCli args) (fun _ => Even lib system storageMounts files pending)
      (Stopped lib system readable (Fatal lib system readable)) := by
  apply (triple_git lib _ args).weaken (fun _ h => h)
  · rintro _ _ ⟨before, output, hbefore, rfl, hanswered, hgoes, -⟩
    refine hbefore.answered hanswered (fun hfailed => absurd hfailed hgoes) hargs ?_
    rintro rfl
    exact hfatal output (by simp [Tolerated])
  · rintro e _ ⟨before, hbefore, rfl, he⟩
    cases e with
    | gitCommand output =>
      apply fatal_of_not_continues
      rintro ⟨output', hanswered, htolerated, -⟩
      obtain rfl : output = output' := Except.ok.inj (he.1.symm.trans hanswered)
      exact hfatal output (htolerated he.2)
    | python text => exact fatal_of_not_continues he
    | _ => exact he.elim

theorem even_onlyIf {condition : Bool} {p : CloneProg Unit}
    {raised : CloneError → List CloneCall → Prop}
    (hp : Triple (recorded system.reply) (Even lib system storageMounts files pending) p
      (fun _ => Even lib system storageMounts files pending) raised) :
    Triple (recorded system.reply) (Even lib system storageMounts files pending)
      (CloneProg.onlyIf condition p)
      (fun _ => Even lib system storageMounts files pending) raised := by
  unfold CloneProg.onlyIf
  split
  · exact hp
  · exact triple_ret fun _ h => h

/-- Two commands, one after the other. -/
theorem even_commands {args args' : List String} {raised : CloneError → List CloneCall → Prop}
    (hp : Triple (recorded system.reply) (Even lib system storageMounts files pending)
      (repository.gitCli args) (fun _ => Even lib system storageMounts files pending) raised)
    (hp' : Triple (recorded system.reply) (Even lib system storageMounts files pending)
      (repository.gitCli args') (fun _ => Even lib system storageMounts files pending) raised) :
    Triple (recorded system.reply) (Even lib system storageMounts files pending)
      (do
        let _ ← repository.gitCli args
        let _ ← repository.gitCli args')
      (fun _ => Even lib system storageMounts files pending) raised := by
  apply Triple.bind (fun _ => Even lib system storageMounts files pending) hp
  intro _
  apply Triple.bind (fun _ => Even lib system storageMounts files pending) hp'
  exact fun _ => triple_ret fun _ h => h

/-- `except GitCommandError`, where the failure is tolerated. -/
theorem even_exceptGitCommand {p : CloneProg α} {handler : GitOutput → CloneProg α}
    {post : α → List CloneCall → Prop} {raised : CloneError → List CloneCall → Prop}
    (hp : Triple (recorded system.reply) (Even lib system storageMounts files pending) p post
      (Stopped lib system readable (Even lib system storageMounts files pending)))
    (hhandler : ∀ output, Triple (recorded system.reply)
      (Even lib system storageMounts files pending) (handler output) post raised)
    (hraised : ∀ e history, Stopped lib system readable (fun _ => False) e history →
      raised e history) :
    Triple (recorded system.reply) (Even lib system storageMounts files pending)
      (CloneProg.exceptGitCommand p handler) post raised := by
  apply Triple.tryCatch _ hp
  intro e
  cases e with
  | gitCommand output => exact hhandler output
  | _ => exact triple_raise fun history h => hraised _ history h

theorem even_handled {p : CloneProg α} {handler : GitOutput → CloneProg α}
    {post : α → List CloneCall → Prop}
    (hp : Triple (recorded system.reply) (Even lib system storageMounts files pending) p post
      (Stopped lib system readable (Even lib system storageMounts files pending)))
    (hhandler : ∀ output, Triple (recorded system.reply)
      (Even lib system storageMounts files pending) (handler output) post
      (Stopped lib system readable git)) :
    Triple (recorded system.reply) (Even lib system storageMounts files pending)
      (CloneProg.exceptGitCommand p handler) post (Stopped lib system readable git) :=
  even_exceptGitCommand hp hhandler fun _ _ => stopped_of_false

/-! ### The parts of `run_helper` -/

theorem even_openGitCli :
    Triple (recorded system.reply) (Even lib system storageMounts files pending)
      repository.openGitCli (fun _ => Even lib system storageMounts files pending)
      (Stopped lib system readable git) := by
  apply Triple.bind fun _ => Even lib system storageMounts files pending
  · exact even_call (.pathExists .repository _) (fun _ => ⟨trivial, fun _ h => h⟩)
      fun _ => Iff.rfl
  intro present
  apply Triple.bind fun _ => Even lib system storageMounts files pending
  · exact even_onlyIf (even_call (.mkdir _) (fun _ => ⟨trivial, fun _ h => h⟩)
      fun _ => exists_unit)
  intro _
  apply Triple.bind _ (triple_call (.pathExists .gitDirectory repository.absolutePath) _)
  · rintro (_ | _)
    · apply triple_raise
      rintro _ ⟨before, _, rfl, hreply⟩
      apply fatal_of_not_continues
      intro hthere
      cases hreply.symm.trans hthere
    · apply triple_ret
      rintro _ ⟨before, hbefore, rfl, hreply⟩
      exact hbefore.neutral hreply fun _ => ⟨trivial, fun _ h => h⟩
  · intro history text htext hthere
    cases htext.symm.trans hthere

theorem even_repoExists :
    Triple (recorded system.reply) (Even lib system storageMounts files pending)
      repository.repoExists (fun _ => Even lib system storageMounts files pending)
      (Stopped lib system readable git) := by
  refine even_handled ?_ fun _ => triple_ret fun _ h => h
  apply Triple.bind _ even_openGitCli
  intro _
  apply Triple.bind _ (even_tolerated (by decide) (by decide) fun _ => .inl rfl)
  exact fun _ => triple_ret fun _ h => h

/-- A setting of the git config. -/
theorem even_config {key value : String} (hkey : key ≠ "--unset") :
    Triple (recorded system.reply) (Even lib system storageMounts files pending)
      (repository.gitCli ["config", key, value])
      (fun _ => Even lib system storageMounts files pending)
      (Stopped lib system readable (Fatal lib system readable)) := by
  apply even_command (by simp [fetchArgs])
  intro output
  simp [Tolerated, revParseArgs, fetchArgs, remoteHeadArgs, lsFilesArgs, hkey]

theorem even_configure {setting : String} (hsetting : setting ≠ "--unset")
    (value : Option String) :
    Triple (recorded system.reply) (Even lib system storageMounts files pending)
      (GitCloner.configure repository setting value)
      (fun _ => Even lib system storageMounts files pending)
      (Stopped lib system readable (Fatal lib system readable)) := by
  cases value with
  | none => exact triple_ret fun _ h => h
  | some value =>
    apply Triple.bind _ (even_config hsetting)
    exact fun _ => triple_ret fun _ h => h

theorem even_initializeRepo :
    Triple (recorded system.reply) (Even lib system storageMounts files pending)
      (cloner.initializeRepo repository) (fun _ => Even lib system storageMounts files pending)
      (Stopped lib system readable (Fatal lib system readable)) := by
  apply Triple.bind (fun _ => Even lib system storageMounts files pending)
  · apply even_command (by decide)
    intro output
    simp [Tolerated, revParseArgs, fetchArgs, remoteHeadArgs, lsFilesArgs]
  intro _
  apply Triple.bind _ (even_configure (by decide) _)
  intro _
  apply Triple.bind _ (even_configure (by decide) _)
  intro _
  apply Triple.bind _ (even_config (by decide))
  exact fun _ => triple_ret fun _ h => h

theorem even_setupProxy :
    Triple (recorded system.reply) (Even lib system storageMounts files pending)
      (cloner.setupProxy repository) (fun _ => Even lib system storageMounts files pending)
      (Stopped lib system readable (Fatal lib system readable)) :=
  even_onlyIf (even_commands (even_config (by decide)) (even_config (by decide)))

theorem even_getAccessToken (tokens : GitCloner.AccessTokens) (providerId : String) :
    Triple (recorded system.reply) (Even lib system storageMounts files pending)
      (cloner.getAccessToken tokens providerId)
      (fun _ => Even lib system storageMounts files pending)
      (Stopped lib system readable git) := by
  unfold GitCloner.getAccessToken
  split
  · exact triple_ret fun _ h => h
  · split
    · exact triple_ret fun _ h => h
    · rename_i provider _
      have hneutral : Neutral system storageMounts files
          (.getToken provider.accessTokenUrl (cloner.user.renkuToken.getD "None")) :=
        fun _ => ⟨trivial, fun _ h => h⟩
      apply Triple.bind _ (triple_call
        (.getToken provider.accessTokenUrl (cloner.user.renkuToken.getD "None")) _)
      · intro response
        show Triple _ _ (if _ then _ else _) _ _
        split
        · rename_i hcode
          apply triple_ret
          rintro _ ⟨before, hbefore, rfl, hreply⟩
          exact hbefore.neutral ⟨response, hreply, fun h => absurd h hcode⟩ hneutral
        · rename_i hcode
          -- an answer with status 200 has to hold a token
          apply Triple.bind fun _ => Even lib system storageMounts files pending
          · apply triple_ofExcept
            · rintro token _ htoken ⟨before, hbefore, rfl, hreply⟩
              cases hfound : response.accessToken with
              | error text =>
                rw [hfound] at htoken
                cases htoken
              | ok found =>
                exact hbefore.neutral ⟨response, hreply, fun _ => ⟨found, hfound⟩⟩ hneutral
            · rintro e _ he ⟨before, hbefore, rfl, hreply⟩
              cases hfound : response.accessToken with
              | ok found =>
                rw [hfound] at he
                cases he
              | error text =>
                rw [hfound] at he
                cases he
                apply fatal_of_not_continues
                rintro ⟨response', hreply', htoken⟩
                obtain rfl : response = response' := Except.ok.inj (hreply.symm.trans hreply')
                obtain ⟨token, htoken⟩ := htoken (not_not.mp hcode)
                cases hfound.symm.trans htoken
          · exact fun _ => triple_ret fun _ h => h
      · rintro history text htext ⟨response, hreply, -⟩
        cases htext.symm.trans hreply

theorem even_repositoryToken (tokens : GitCloner.AccessTokens) :
    Triple (recorded system.reply) (Even lib system storageMounts files pending)
      (cloner.repositoryToken tokens repository)
      (fun _ => Even lib system storageMounts files pending)
      (Stopped lib system readable git) := by
  unfold GitCloner.repositoryToken
  split
  · split
    · exact even_getAccessToken tokens _
    · exact triple_ret fun _ h => h
  · exact triple_ret fun _ h => h

theorem even_checkStorageMounts (mounts : List String) :
    Triple (recorded system.reply) (Even lib system storageMounts files pending)
      (GitCloner.checkStorageMounts mounts)
      (fun _ => Even lib system storageMounts files pending)
      (Stopped lib system readable git) := by
  induction mounts with
  | nil => exact triple_ret fun _ h => h
  | cons mount mounts ih =>
    apply Triple.bind _ (triple_call (.pathExists .storageMount (PosixPath.ofString mount)) _)
    · rintro (_ | _)
      · apply ih.weaken _ (fun _ _ h => h) fun _ _ h => h
        rintro _ ⟨before, hbefore, rfl, hreply⟩
        exact hbefore.neutral hreply fun _ => ⟨trivial, fun _ h => h⟩
      · apply triple_raise
        rintro _ ⟨before, _, rfl, hreply⟩
        apply fatal_of_not_continues
        intro hfree
        cases hreply.symm.trans hfree
    · intro history text htext hfree
      cases htext.symm.trans hfree

theorem even_updateSubmodules :
    Triple (recorded system.reply) (Even lib system storageMounts files pending)
      (GitCloner.updateSubmodules repository)
      (fun _ => Even lib system storageMounts files pending)
      (Stopped lib system readable git) := by
  have hsubmodule : ∀ command, Triple (recorded system.reply)
      (Even lib system storageMounts files pending) (repository.gitCli ["submodule", command])
      (fun _ => Even lib system storageMounts files pending)
      (Stopped lib system readable (Even lib system storageMounts files pending)) := by
    intro command
    apply even_tolerated (by simp [fetchArgs]) (by simp [lsFilesArgs])
    intro output
    simp [Tolerated]
  refine even_handled ?_ fun _ => triple_ret fun _ h => h
  exact even_commands (hsubmodule "init") (hsubmodule "update")

theorem even_unlink :
    Triple (recorded system.reply) (Even lib system storageMounts files pending)
      (CloneProg.unlink GitCloner.credentialLoc)
      (fun _ => Even lib system storageMounts files pending) (Stopped lib system readable git) :=
  even_call (.unlink _) (fun _ => ⟨trivial, fun _ h => h.1 rfl⟩) fun _ => exists_unit

theorem even_removeCredentials (lfsAuthSetting : String) :
    Triple (recorded system.reply) (Even lib system storageMounts files pending)
      (GitCloner.removeCredentials repository lfsAuthSetting)
      (fun _ => Even lib system storageMounts files pending)
      (Stopped lib system readable git) := by
  have hunset : ∀ key, Triple (recorded system.reply)
      (Even lib system storageMounts files pending) (repository.gitCli ["config", "--unset", key])
      (fun _ => Even lib system storageMounts files pending)
      (Stopped lib system readable (Even lib system storageMounts files pending)) := by
    intro key
    apply even_tolerated (by simp [fetchArgs]) (by simp [lsFilesArgs])
    intro output
    simp [Tolerated]
  apply Triple.bind _ even_unlink
  intro _
  refine even_handled ?_ fun _ => triple_ret fun _ h => h
  exact even_commands (hunset "credential.helper") (hunset lfsAuthSetting)

/-! ### The LFS files -/

/-- Git has just been asked for the LFS files. -/
structure Asked (lib : PyLibrary) (system : System) (storageMounts : List String)
    (files : List Directory) (pending : Prop) (repository : Repository) (output : GitOutput)
    (before history : List CloneCall) : Prop where
  even : Even lib system storageMounts files pending before
  last : history = before ++ [.git repository.absolutePath lsFilesArgs]
  answered : Answered system repository.absolutePath lsFilesArgs output before

theorem Asked.listed {output : GitOutput} {before : List CloneCall} {size : Rat}
    (h : Asked lib system storageMounts files pending repository output before history)
    (hsize : listedSize lib output = some size) :
    Even lib system storageMounts files pending history := by
  obtain ⟨heven, rfl, hanswered⟩ := h
  exact heven.concat ⟨output, hanswered, fun _ => by simp [Tolerated], fun _ => ⟨size, hsize⟩⟩
    (harms_git (by decide) before)

theorem Asked.unreadable {output : GitOutput} {before : List CloneCall}
    (h : Asked lib system storageMounts files pending repository output before history)
    (hsize : listedSize lib output = none) : Fatal lib system readable history := by
  obtain ⟨-, rfl, hanswered⟩ := h
  apply fatal_of_not_continues
  rintro ⟨output', hanswered', -, hlisted⟩
  obtain rfl : output = output' := Except.ok.inj (hanswered.symm.trans hanswered')
  obtain ⟨size, hlisted⟩ := hlisted rfl
  cases hsize.symm.trans hlisted

theorem triple_getLfsTotalSizeBytes :
    Triple (recorded system.reply) (Even lib system storageMounts files pending)
      (GitCloner.getLfsTotalSizeBytes lib repository)
      (fun size history => ∃ output before,
        Asked lib system storageMounts files pending repository output before history ∧
          listedSize lib output = some size)
      (Stopped lib system readable git) := by
  apply Triple.bind fun listed history => ∃ output before,
    Asked lib system storageMounts files pending repository output before history ∧
      listed.elim (Failed output) fun res => ¬ Failed output ∧ output.stdout = res
  · apply Triple.tryCatch _
    · apply Triple.bind _ (triple_git lib _ lsFilesArgs)
      intro res
      apply triple_ret
      rintro history ⟨before, output, heven, hlast, hanswered, hgoes, rfl⟩
      exact ⟨output, before, ⟨heven, hlast, hanswered⟩, hgoes, rfl⟩
    · intro e
      cases e with
      | gitCommand output =>
        apply triple_ret
        rintro history ⟨before, heven, hlast, hanswered, hfailed⟩
        exact ⟨output, before, ⟨heven, hlast, hanswered⟩, hfailed⟩
      | python text =>
        apply triple_raise
        rintro _ ⟨before, heven, rfl, hnot⟩
        exact fatal_of_not_continues hnot
      | _ =>
        apply triple_raise
        rintro _ ⟨before, heven, -, hnot⟩
        exact hnot.elim
  · rintro (_ | res)
    · apply triple_ret
      rintro history ⟨output, before, hasked, hfailed⟩
      exact ⟨output, before, hasked, if_pos hfailed⟩
    · rintro history ⟨output, before, hasked, hgoes, rfl⟩
      have hlisted : listedSize lib output =
          match lib.loads output.stdout with
          | .ok json => GitCloner.lfsTotalSize json
          | .error _ => none := if_neg hgoes
      dsimp only
      rw [bind_eq, run_bind, CloneProg.ofReply, run_ofExcept]
      cases hjson : lib.loads output.stdout with
      | error text =>
        rw [hjson] at hlisted
        exact hasked.unreadable hlisted
      | ok json =>
        rw [hjson] at hlisted
        dsimp only [Except.mapError]
        cases hsize : GitCloner.lfsTotalSize json with
        | none => exact hasked.unreadable (hlisted.trans hsize)
        | some size => exact ⟨output, before, hasked, hlisted.trans hsize⟩

theorem even_pullLfs :
    Triple (recorded system.reply) (Even lib system storageMounts files pending)
      (GitCloner.pullLfs lib repository) (fun _ => Even lib system storageMounts files pending)
      (Stopped lib system readable (Fatal lib system readable)) := by
  have hneutral : Neutral system storageMounts files (.diskFree repository.absolutePath) :=
    fun _ => ⟨trivial, fun _ h => h⟩
  have hlfs : ∀ args, args = ["lfs", "install", "--local"] ∨ args = ["lfs", "pull"] →
      Triple (recorded system.reply) (Even lib system storageMounts files pending)
        (repository.gitCli args) (fun _ => Even lib system storageMounts files pending)
        (Stopped lib system readable (Fatal lib system readable)) := by
    rintro args (rfl | rfl)
    · exact even_command (by decide) fun output => by
        simp [Tolerated, revParseArgs, fetchArgs, remoteHeadArgs, lsFilesArgs]
    · exact even_command (by decide) fun output => by
        simp [Tolerated, revParseArgs, fetchArgs, remoteHeadArgs, lsFilesArgs]
  apply Triple.bind _ triple_getLfsTotalSizeBytes
  intro size
  apply Triple.bind _ (triple_call (.diskFree repository.absolutePath) _)
  · intro free
    show Triple _ _ (if _ then _ else _) _ _
    split
    · rename_i hfull
      apply triple_raise
      rintro _ ⟨_, ⟨output, before, ⟨-, rfl, hanswered⟩, hlisted⟩, rfl, hreply⟩
      apply fatal_of_not_continues
      rintro ⟨free', hreply', hroom⟩
      obtain rfl : free = free' := Except.ok.inj (hreply.symm.trans hreply')
      exact absurd hfull (Rat.not_lt.mpr (hroom _ _ _ _ rfl hanswered hlisted))
    · rename_i hroom
      refine (even_commands (hlfs _ (.inl rfl)) (hlfs _ (.inr rfl))).weaken ?_ (fun _ _ h => h)
        fun _ _ h => h
      rintro _ ⟨_, ⟨output, before, hasked, hlisted⟩, rfl, hreply⟩
      refine (hasked.listed hlisted).neutral ⟨free, hreply, ?_⟩ hneutral
      -- the size is the one that has just been listed
      rintro start dir output' size' hlast hanswered' hlisted'
      obtain ⟨rfl, heq⟩ := List.append_inj' (hasked.last.symm.trans hlast) rfl
      obtain rfl := (CloneCall.git.inj (List.singleton_inj.mp heq)).1
      obtain rfl : output = output' := Except.ok.inj (hasked.answered.symm.trans hanswered')
      obtain rfl : size = size' := Option.some.inj (hlisted.symm.trans hlisted')
      exact Rat.not_lt.mp hroom
  · rintro history text htext ⟨free, hreply, -⟩
    cases htext.symm.trans hreply

/-! ### The clone of a repository -/

/-- Writing `ERROR` is still to come, and it is a file that was there. -/
def ErrorPending (files : List Directory) (repository : Repository) : Prop :=
  repository.errorFile.resolve ∈ files

/-- Lines are still to be written into an exclude file that was there. -/
def ExcludePending (storageMounts : List String) (files : List Directory)
    (repository : Repository) : Prop :=
  storageMounts ≠ [] ∧ repository.excludeFile.resolve ∈ files

variable (lib system storageMounts files readable repository) in
/-- What an error of the clone leaves behind; `run_helper` catches two of them. -/
def Caught : CloneError → List CloneCall → Prop
  | .gitFetch, history =>
    Even lib system storageMounts files (ErrorPending files repository) history
  | .branchDoesNotExist, history =>
    Even lib system storageMounts files (ExcludePending storageMounts files repository) history
  | _, history => Fatal lib system readable history

theorem caught_of_stopped {e : CloneError}
    (h : Stopped lib system readable (Fatal lib system readable) e history) :
    Caught lib system storageMounts files readable repository e history := by
  cases e with
  | gitFetch => exact h.elim
  | branchDoesNotExist => exact h.elim
  | _ => exact h

theorem triple_caught {P : List CloneCall → Prop} {p : CloneProg α}
    {post : α → List CloneCall → Prop}
    (h : Triple (recorded system.reply) P p post
      (Stopped lib system readable (Fatal lib system readable))) :
    Triple (recorded system.reply) P p post
      (Caught lib system storageMounts files readable repository) :=
  h.weaken (fun _ h => h) (fun _ _ h => h) fun _ _ => caught_of_stopped

/-- What is not spared by a fetch is written over later. -/
theorem Even.fetched {output : GitOutput}
    (h : Even lib system storageMounts files False history)
    (hanswered : Answered system repository.absolutePath fetchArgs output history) :
    Even lib system storageMounts files
      (if Failed output then ErrorPending files repository
        else ExcludePending storageMounts files repository)
      (history ++ [.git repository.absolutePath fetchArgs]) where
  continues := by
    intro hever
    refine (ever_concat.mp hever).elim h.continues fun hnot => hnot ?_
    exact ⟨output, hanswered, fun _ => .inr (.inl rfl), fun heq => absurd heq (by decide)⟩
  harmed := by
    have hspares : ¬ Spares system storageMounts files history
          (.git repository.absolutePath fetchArgs) ↔
        (∃ file ∈ files, Harms system history file (.git repository.absolutePath fetchArgs)) ∨
          (if Failed output then ErrorPending files repository
            else ExcludePending storageMounts files repository) := by
      have hsame : ∀ output', system.reply history (.git repository.absolutePath fetchArgs) =
          .ok output' ↔ output = output' :=
        fun output' => ⟨fun h' => Except.ok.inj (hanswered.symm.trans h'), fun h' => h' ▸ hanswered⟩
      simp only [Spares, hsame, forall_eq', true_imp_iff, not_and_or]
      push Not
      apply or_congr Iff.rfl
      split
      · exact not_not
      · exact not_or.trans (and_congr_right fun _ => not_not)
    unfold Unspared Harmed
    rw [ever_concat, ever_concat, hspares, ← Unspared, ← Harmed, h.harmed, or_false, or_assoc]

theorem triple_fetch :
    Triple (recorded system.reply) (Even lib system storageMounts files False)
      (CloneProg.exceptGitCommand (repository.gitCli ["fetch", GitCloner.remoteName])
        fun _ => .raise .gitFetch)
      (fun _ => Even lib system storageMounts files
        (ExcludePending storageMounts files repository))
      (Caught lib system storageMounts files readable repository) := by
  apply Triple.tryCatch _
  · apply (triple_git lib _ fetchArgs).weaken (fun _ h => h) _ fun _ _ h => h
    rintro _ _ ⟨before, output, heven, rfl, hanswered, hgoes, -⟩
    have hnext := heven.fetched hanswered
    rwa [if_neg hgoes] at hnext
  · intro e
    cases e with
    | gitCommand output =>
      apply triple_raise
      rintro _ ⟨before, heven, rfl, hanswered, hfailed⟩
      have hnext := heven.fetched hanswered
      rwa [if_pos hfailed] at hnext
    | python text =>
      apply triple_raise
      rintro _ ⟨before, heven, rfl, hnot⟩
      exact fatal_of_not_continues hnot
    | _ =>
      apply triple_raise
      rintro _ ⟨before, heven, -, hnot⟩
      exact hnot.elim

section Branch

variable (hpending : pending = ExcludePending storageMounts files repository)
include hpending

theorem even_getDefaultBranch :
    Triple (recorded system.reply) (Even lib system storageMounts files pending)
      (GitCloner.getDefaultBranch repository)
      (fun _ => Even lib system storageMounts files pending)
      (Caught lib system storageMounts files readable repository) := by
  subst hpending
  apply Triple.bind fun _ => Even lib system storageMounts files
    (ExcludePending storageMounts files repository)
  · refine even_exceptGitCommand ?_ (fun _ => triple_raise fun _ h => h)
      fun _ _ h => caught_of_stopped (stopped_of_false h)
    apply Triple.bind _ (even_tolerated (by decide) (by decide) fun _ => .inr (.inr (.inl rfl)))
    intro _
    exact even_tolerated (by decide) (by decide) fun _ => .inr (.inr (.inr (.inl rfl)))
  · intro res
    cases GitCloner.matchRemoteHead res with
    | none => exact triple_raise fun _ h => h
    | some branch => exact triple_ret fun _ h => h

theorem even_chosenBranch :
    Triple (recorded system.reply) (Even lib system storageMounts files pending)
      (GitCloner.chosenBranch repository)
      (fun _ => Even lib system storageMounts files pending)
      (Caught lib system storageMounts files readable repository) := by
  unfold GitCloner.chosenBranch
  split
  · split
    · exact triple_ret fun _ h => h
    · exact even_getDefaultBranch hpending
  · exact even_getDefaultBranch hpending

/-- The checkout, whose failure ends the run where the disk is full. -/
theorem even_checkoutOr {args : List String} {full : GitOutput → Bool} (hargs : args ≠ fetchArgs)
    (hls : args ≠ lsFilesArgs) (htolerated : ∀ output, Tolerated args output ↔ full output = false) :
    Triple (recorded system.reply) (Even lib system storageMounts files pending)
      (CloneProg.exceptGitCommand ((repository.gitCli args).bind fun _ => pure ())
        fun output => if full output then .raise .noDiskSpace else .raise .branchDoesNotExist)
      (fun _ => Even lib system storageMounts files pending)
      (Caught lib system storageMounts files readable repository) := by
  subst hpending
  apply Triple.tryCatch _
  · apply Triple.bind _ (triple_git lib _ args)
    intro _
    apply triple_ret
    rintro _ ⟨before, output, heven, rfl, hanswered, hgoes, -⟩
    exact heven.answered hanswered (fun h => absurd h hgoes) hargs hls
  · intro e
    cases e with
    | gitCommand output =>
      show Triple _ _ (if _ then _ else _) _ _
      by_cases hfull : full output = true
      · rw [if_pos hfull]
        apply triple_raise
        rintro _ ⟨before, heven, rfl, hanswered, hfailed⟩
        apply fatal_of_not_continues
        rintro ⟨output', hanswered', hgoes, -⟩
        obtain rfl : output = output' := Except.ok.inj (hanswered.symm.trans hanswered')
        cases hfull.symm.trans ((htolerated output).mp (hgoes hfailed))
      · rw [if_neg hfull]
        apply triple_raise
        rintro _ ⟨before, heven, rfl, hanswered, hfailed⟩
        refine heven.answered hanswered (fun _ => (htolerated output).mpr ?_) hargs hls
        exact Bool.eq_false_iff.mpr hfull
    | python text =>
      apply triple_raise
      rintro _ ⟨before, heven, rfl, hnot⟩
      exact fatal_of_not_continues hnot
    | _ =>
      apply triple_raise
      rintro _ ⟨before, heven, -, hnot⟩
      exact hnot.elim

theorem even_checkout (branch : String) :
    Triple (recorded system.reply) (Even lib system storageMounts files pending)
      (GitCloner.checkout repository branch)
      (fun _ => Even lib system storageMounts files pending)
      (Caught lib system storageMounts files readable repository) := by
  apply even_checkoutOr hpending (by simp [fetchArgs]) (by simp [lsFilesArgs])
  intro output
  simp [Tolerated, revParseArgs, fetchArgs, remoteHeadArgs, lsFilesArgs]

end Branch

theorem triple_clone :
    Triple (recorded system.reply) (Even lib system storageMounts files False)
      (cloner.clone lib repository)
      (fun _ => Even lib system storageMounts files
        (ExcludePending storageMounts files repository))
      (Caught lib system storageMounts files readable repository) := by
  apply Triple.bind fun _ => Even lib system storageMounts files False
  · apply triple_caught
    show Triple _ _ (CloneProg.git _ (if _ then _ else _)) _ _
    split
    · exact even_command (by decide) fun output => by
        simp [Tolerated, revParseArgs, fetchArgs, remoteHeadArgs, lsFilesArgs]
    · exact even_command (by decide) fun output => by
        simp [Tolerated, revParseArgs, fetchArgs, remoteHeadArgs, lsFilesArgs]
  intro _
  apply Triple.bind fun _ => Even lib system storageMounts files False
  · apply triple_caught
    exact even_command (by simp [fetchArgs]) fun output => by
      simp [Tolerated, revParseArgs, fetchArgs, remoteHeadArgs, lsFilesArgs]
  intro _
  apply Triple.bind _ triple_fetch
  intro _
  apply Triple.bind _ (even_chosenBranch rfl)
  intro branch
  apply Triple.bind _ (even_checkout rfl branch)
  intro _
  apply Triple.bind _ (triple_caught (even_onlyIf even_pullLfs))
  intro _
  exact triple_caught even_updateSubmodules

/-! ### The temporary credentials -/

theorem raises_removeCredentials (lfsAuthSetting : String) :
    (GitCloner.removeCredentials repository lfsAuthSetting).Raises
      fun e => ∃ text, e = .python text := by
  have hreply : ∀ {α : Type} (x : Except String α) (errors : CloneError → Prop),
      (∀ text, errors (.python text)) → (CloneProg.ofReply x).Raises errors := by
    intro α x errors herrors
    cases x with
    | ok a => trivial
    | error text => exact herrors text
  have hgit : ∀ args, (repository.gitCli args).Raises
      fun e => (∃ output, e = .gitCommand output) ∨ ∃ text, e = .python text := by
    intro args r
    apply Raises.bind (hreply r _ fun text => .inr ⟨text, rfl⟩)
    intro output
    show Raises _ (if _ then _ else _)
    split
    · exact .inl ⟨output, rfl⟩
    · trivial
  apply Raises.bind
  · exact fun r => hreply r _ fun text => ⟨text, rfl⟩
  intro _
  apply Raises.tryCatch
  · apply Raises.bind (hgit _)
    intro _
    apply Raises.bind (hgit _)
    exact fun _ => trivial
  · rintro e (⟨output, rfl⟩ | ⟨text, rfl⟩)
    · trivial
    · exact ⟨text, rfl⟩

/-- The tear-down after an error, which it keeps. -/
theorem triple_removeCredentials (e : CloneError) (lfsAuthSetting : String) :
    Triple (recorded system.reply) (Caught lib system storageMounts files readable repository e)
      (GitCloner.removeCredentials repository lfsAuthSetting)
      (fun _ => Caught lib system storageMounts files readable repository e)
      (Caught lib system storageMounts files readable repository) := by
  have hfatal : Triple (recorded system.reply) (Fatal lib system readable)
      (GitCloner.removeCredentials repository lfsAuthSetting)
      (fun _ => Fatal lib system readable)
      (Caught lib system storageMounts files readable repository) := by
    have hkeeps : Triple (recorded system.reply) (Fatal lib system readable)
        (GitCloner.removeCredentials repository lfsAuthSetting)
        (fun _ => Fatal lib system readable) (fun _ => Fatal lib system readable) :=
      (calls_true _).triple fun _ _ _ h => h.concat
    refine (hkeeps.raises (raises_removeCredentials lfsAuthSetting)).weaken (fun _ h => h)
      (fun _ _ h => h) ?_
    rintro _ _ ⟨h, text, rfl⟩
    exact h
  cases e with
  | gitFetch => exact triple_caught (even_removeCredentials lfsAuthSetting)
  | branchDoesNotExist => exact triple_caught (even_removeCredentials lfsAuthSetting)
  | _ => exact hfatal

/-- The file for the credentials is none of the files. -/
theorem even_openCredentials :
    Triple (recorded system.reply) (Even lib system storageMounts files pending)
      (CloneProg.openWrite GitCloner.credentialLoc)
      (fun _ => Even lib system storageMounts files pending) (Stopped lib system readable git) :=
  even_call (.openWrite _) (fun _ => ⟨trivial, fun _ h => h.2.1 rfl⟩) fun _ => exists_unit

theorem even_writeCredentials (text : String) :
    Triple (recorded system.reply) (Even lib system storageMounts files pending)
      (CloneProg.write GitCloner.credentialLoc text)
      (fun _ => Even lib system storageMounts files pending) (Stopped lib system readable git) :=
  even_call (.write _ text) (fun _ => ⟨trivial, fun _ h => h.2.1 rfl⟩) fun _ => exists_unit

variable (hreads : readable → (∃ parsed, PyUrl.urlparse lib.rejects repository.url = .ok parsed) ∧
  ∃ joined, lib.urljoin (repository.url ++ "/") "info/lfs.access" = .ok joined)

theorem even_ofReply {x : Except String α} (hx : readable → ∃ a, x = .ok a) :
    Triple (recorded system.reply) (Even lib system storageMounts files pending)
      (CloneProg.ofReply x) (fun _ => Even lib system storageMounts files pending)
      (Stopped lib system readable git) := by
  cases x with
  | ok a => exact triple_ret fun _ h => h
  | error text =>
    refine triple_raise fun _ _ => .inr fun hreadable => ?_
    obtain ⟨a, ha⟩ := hx hreadable
    cases ha

include hreads in
theorem triple_withTempPlaintextCredentials (gitUser token : String) {body : CloneProg Unit}
    (hbody : Triple (recorded system.reply) (Even lib system storageMounts files False) body
      (fun _ => Even lib system storageMounts files
        (ExcludePending storageMounts files repository))
      (Caught lib system storageMounts files readable repository)) :
    Triple (recorded system.reply) (Even lib system storageMounts files False)
      (GitCloner.withTempPlaintextCredentials lib repository gitUser token body)
      (fun _ => Even lib system storageMounts files
        (ExcludePending storageMounts files repository))
      (Caught lib system storageMounts files readable repository) := by
  apply Triple.bind _ (triple_caught (even_ofReply fun hreadable => (hreads hreadable).2))
  intro lfsAccess
  refine Triple.finallyDo
    (fun _ => Even lib system storageMounts files (ExcludePending storageMounts files repository))
    (Caught lib system storageMounts files readable repository) ?_
    (fun _ => triple_caught (even_removeCredentials _))
    (fun e => triple_removeCredentials e _)
  apply Triple.bind _ (triple_caught even_openCredentials)
  intro _
  apply Triple.bind _ (triple_caught (even_ofReply fun hreadable => (hreads hreadable).1))
  intro parsed
  apply Triple.bind _ (triple_caught (even_writeCredentials _))
  intro _
  have hkey : "lfs." ++ lfsAccess ≠ "--unset" := by
    intro heq
    have hfirst := congrArg (fun s => s.toList.head?) heq
    rw [String.toList_append] at hfirst
    cases hfirst
  apply Triple.bind _ (triple_caught (even_config hkey))
  intro _
  apply Triple.bind _ (triple_caught (even_config (by decide)))
  exact fun _ => hbody

include hreads in
theorem triple_cloneAndReset (gitAccessToken : Option String) :
    Triple (recorded system.reply) (Even lib system storageMounts files False)
      (cloner.cloneAndReset lib repository gitAccessToken)
      (fun _ => Even lib system storageMounts files
        (ExcludePending storageMounts files repository))
      (Caught lib system storageMounts files readable repository) := by
  apply Triple.bind fun _ => Even lib system storageMounts files
    (ExcludePending storageMounts files repository)
  · cases gitAccessToken with
    | none => exact triple_clone
    | some token =>
      show Triple _ _ (if _ then _ else _) _ _
      split
      · exact triple_clone
      · exact triple_withTempPlaintextCredentials hreads "oauth2" token triple_clone
  · intro _
    apply even_onlyIf
    apply Triple.bind (fun _ => Even lib system storageMounts files
      (ExcludePending storageMounts files repository))
    · apply triple_caught
      exact even_command (by simp [fetchArgs]) fun output => by
        simp [Tolerated, revParseArgs, fetchArgs, remoteHeadArgs, lsFilesArgs]
    · exact fun _ => triple_ret fun _ h => h

/-! ### What is written into a repository -/

/-- The harm that was still to come. -/
theorem Even.written (h : Even lib system storageMounts files pending history)
    (hc : Continues lib system history c) (hspares : Spares system storageMounts files history c)
    (hharms : (∃ file ∈ files, Harms system history file c) ↔ pending) :
    Even lib system storageMounts files False (history ++ [c]) ∧
      (pending → Harmed system files (history ++ [c])) := by
  have hharmed : Harmed system files (history ++ [c]) ↔ Harmed system files history ∨ pending := by
    rw [← hharms]
    exact ever_concat
  refine ⟨⟨fun hever => (ever_concat.mp hever).elim h.continues fun hnot => hnot hc, ?_⟩,
    fun hpending => hharmed.mpr (.inr hpending)⟩
  rw [hharmed, or_false, ← h.harmed]
  exact ever_concat.trans (or_iff_left fun hnot => hnot hspares)

/-- Harm that has been done before. -/
theorem Even.rewritten (h : Even lib system storageMounts files False history)
    (hdone : pending → Harmed system files history) (hc : Continues lib system history c)
    (hspares : Spares system storageMounts files history c)
    (hharms : (∃ file ∈ files, Harms system history file c) → pending) :
    Even lib system storageMounts files False (history ++ [c]) := by
  have hharmed : Harmed system files (history ++ [c]) ↔ Harmed system files history :=
    ever_concat.trans (or_iff_left_of_imp fun hfile => hdone (hharms hfile))
  refine ⟨fun hever => (ever_concat.mp hever).elim h.continues fun hnot => hnot hc, ?_⟩
  rw [hharmed, ← h.harmed]
  exact ever_concat.trans (or_iff_left fun hnot => hnot hspares)

theorem harms_openWrite {path : PosixPath} (hfile : ¬ LeadsToFile path)
    (hreply : system.reply history (.openWrite path) = .ok ()) :
    (∃ file ∈ files, Harms system history file (.openWrite path)) ↔ path.resolve ∈ files := by
  constructor
  · rintro ⟨file, hmem, -, -, rfl⟩
    exact hmem
  · exact fun hmem => ⟨_, hmem, hreply, hfile, rfl⟩

theorem harms_write {path : PosixPath} {text : String} (hfile : ¬ LeadsToFile path)
    (hreply : system.reply history (.write path text) = .ok ()) :
    (∃ file ∈ files, Harms system history file (.write path text)) ↔ path.resolve ∈ files := by
  constructor
  · rintro ⟨file, hmem, -, -, rfl⟩
    exact hmem
  · exact fun hmem => ⟨_, hmem, hreply, hfile, rfl⟩

theorem errorFile_not_credentials : ¬ LeadsToFile repository.errorFile :=
  @not_leadsToFile repository.absolutePath [] "ERROR" (by decide) (by decide)

theorem excludeFile_not_credentials : ¬ LeadsToFile repository.excludeFile :=
  @not_leadsToFile repository.absolutePath [".git", "info"] "exclude" (by decide) (by decide)

theorem triple_handleCloneError (e : CloneError) :
    Triple (recorded system.reply) (Caught lib system storageMounts files readable repository e)
      (GitCloner.handleCloneError lib repository e)
      (fun goOn => Even lib system storageMounts files
        (goOn = true ∧ ExcludePending storageMounts files repository))
      (Stopped lib system readable (Fatal lib system readable)) := by
  cases e with
  | gitFetch =>
    apply Triple.bind _ (triple_call (.openWrite repository.errorFile) fun _ _ htext hc => by
      cases htext.symm.trans hc)
    rintro ⟨⟩
    apply Triple.bind _ (triple_call
      (.write repository.errorFile (lib.traceback "GitFetchError")) fun _ _ htext hc => by
        cases htext.symm.trans hc)
    rintro ⟨⟩
    apply triple_ret
    rintro _ ⟨_, ⟨before, heven, rfl, hopened⟩, rfl, hwritten⟩
    have hopens : Continues lib system before (.openWrite repository.errorFile) := hopened
    have hwrites : Continues lib system (before ++ [.openWrite repository.errorFile])
      (.write repository.errorFile (lib.traceback "GitFetchError")) := hwritten
    obtain ⟨heven', hdone⟩ := heven.written hopens trivial
      (harms_openWrite errorFile_not_credentials hopened)
    have hend := heven'.rewritten hdone hwrites trivial
      (harms_write errorFile_not_credentials hwritten).mp
    simpa using hend
  | branchDoesNotExist =>
    apply triple_ret
    intro history h
    have heven : Even lib system storageMounts files
      (ExcludePending storageMounts files repository) history := h
    simpa using heven
  | _ => exact triple_raise fun _ h => h

theorem triple_excludeStoragesFromGit :
    Triple (recorded system.reply)
      (Even lib system storageMounts files (ExcludePending storageMounts files repository))
      (GitCloner.excludeStoragesFromGit repository storageMounts)
      (fun _ => Even lib system storageMounts files False)
      (Stopped lib system readable git) := by
  unfold GitCloner.excludeStoragesFromGit
  split
  · rename_i hempty
    have hnone : ¬ ExcludePending storageMounts files repository :=
      fun h => h.1 (List.isEmpty_iff.mp hempty)
    apply triple_ret
    intro history h
    rwa [eq_false hnone] at h
  · rename_i hne
    have hmounts : storageMounts ≠ [] := fun hnil => hne (List.isEmpty_iff.mpr hnil)
    apply Triple.bind fun _ => Even lib system storageMounts files
      (ExcludePending storageMounts files repository)
    · exact even_call (.openAppend _) (fun _ => ⟨trivial, fun _ h => h⟩) fun _ => exists_unit
    · intro _
      apply (triple_call (.write repository.excludeFile _) fun _ _ htext hc => by
        cases htext.symm.trans hc).weaken (fun _ h => h) _ fun _ _ h => h
      rintro ⟨⟩ _ ⟨before, heven, rfl, hwritten⟩
      have hwrites : Continues lib system before (.write repository.excludeFile
        (String.join ("\n" :: GitCloner.excludeLines repository storageMounts))) := hwritten
      refine (heven.written hwrites trivial ?_).1
      rw [harms_write excludeFile_not_credentials hwritten]
      exact (and_iff_right hmounts).symm

/-! ### One repository after the other -/

include hreads in
theorem triple_runHelper (tokens : GitCloner.AccessTokens) :
    Triple (recorded system.reply) (Even lib system storageMounts files False)
      (cloner.runHelper lib tokens storageMounts repository)
      (fun _ => Even lib system storageMounts files False)
      (Stopped lib system readable (Fatal lib system readable)) := by
  apply Triple.bind _ even_repoExists
  intro present
  cases present with
  | true =>
    apply Triple.bind _ even_setupProxy
    exact fun _ => triple_ret fun _ h => h
  | false =>
    apply Triple.bind _ (even_repositoryToken tokens)
    rintro ⟨gitAccessToken, tokens'⟩
    apply Triple.bind _ even_initializeRepo
    intro _
    apply Triple.bind fun goOn => Even lib system storageMounts files
      (goOn = true ∧ ExcludePending storageMounts files repository)
    · apply Triple.tryCatch (Caught lib system storageMounts files readable repository) _
        fun e => triple_handleCloneError e
      apply Triple.bind _ (triple_cloneAndReset hreads gitAccessToken)
      intro _
      apply triple_ret
      intro history h
      simpa using h
    · intro goOn
      cases goOn with
      | false =>
        apply triple_ret
        intro history h
        simpa using h
      | true =>
        have hcheck : Triple (recorded system.reply)
            (Even lib system storageMounts files
              (true = true ∧ ExcludePending storageMounts files repository))
            (GitCloner.checkStorageMounts storageMounts)
            (fun _ => Even lib system storageMounts files
              (ExcludePending storageMounts files repository))
            (Stopped lib system readable (Fatal lib system readable)) := by
          simpa using even_checkStorageMounts storageMounts
        apply Triple.bind _ hcheck
        intro _
        apply Triple.bind _ triple_excludeStoragesFromGit
        intro _
        apply Triple.bind _ even_setupProxy
        exact fun _ => triple_ret fun _ h => h

theorem triple_runAll {repositories : List Repository}
    (hreads : ∀ r ∈ repositories, readable →
      (∃ parsed, PyUrl.urlparse lib.rejects r.url = .ok parsed) ∧
        ∃ joined, lib.urljoin (r.url ++ "/") "info/lfs.access" = .ok joined)
    (tokens : GitCloner.AccessTokens) :
    Triple (recorded system.reply) (Even lib system storageMounts files False)
      (cloner.runAll lib storageMounts tokens repositories)
      (fun _ => Even lib system storageMounts files False)
      (Stopped lib system readable (Fatal lib system readable)) := by
  induction repositories generalizing tokens with
  | nil => exact triple_ret fun _ h => h
  | cons repository repositories ih =>
    obtain ⟨hfirst, hrest⟩ := List.forall_mem_cons.mp hreads
    apply Triple.bind _ (triple_runHelper hfirst tokens)
    exact fun tokens' => ih hrest tokens'

end Run

/-! ### The whole run -/

section Main

variable {lib : PyLibrary} {system : System} {random : Nat → String} {config : Config}
  {files : List Directory}

/-- A configuration whose URLs can be read is one that the main script accepts. -/
theorem exists_fromConfig (h : ReadsUrls lib config) :
    ∃ cloner, GitCloner.fromConfig lib random config = .ok cloner := by
  have hdirname : ∀ r ∈ config.repositories, ∀ name,
      ∃ dirname, Repository.dirnameOf lib name r = .ok dirname := by
    intro r hr name
    obtain ⟨⟨parsed, hparsed⟩, -⟩ := h r hr
    have hmake : ∃ dirname, Repository.makeDirname lib name r.url = .ok dirname := by
      rw [Repository.makeDirname, hparsed, Results.ok_bind]
      exact ⟨_, (apply_ite Except.ok _ _ _).symm⟩
    unfold Repository.dirnameOf
    split
    · split
      · exact ⟨_, rfl⟩
      · exact hmake
    · exact hmake
  obtain ⟨repositories, hrepositories⟩ | ⟨⟨r, i⟩, hr, text, htext, -⟩ :=
    Results.mapM_cases (fun entry => Repository.fromConfigRepo lib
      (PosixPath.ofString config.mountPath) entry.1 (random entry.2)) config.repositories.zipIdx
  · exact ⟨_, congrArg (· >>= _) hrepositories⟩
  · obtain ⟨dirname, hname⟩ := hdirname r (List.fst_mem_of_mem_zipIdx hr) (random i)
    dsimp only at htext
    rw [Repository.fromConfigRepo, hname] at htext
    cases htext

/-- The calls of the main script. -/
def historyOf (lib : PyLibrary) (system : System) (random : Nat → String) (config : Config) :
    List CloneCall :=
  ((cloneMain lib random config).run (recorded system.reply) []).2

/-- The script gets through, with no call but those of the cloner, or the hook clears the mount path
after a call has failed for good. -/
theorem historyOf_cases :
    Even lib system config.storageMounts files False (historyOf lib system random config) ∨
      ∃ history, Fatal lib system (ReadsUrls lib config) history ∧
        historyOf lib system random config =
          history ++ [.rmtree (PosixPath.ofString config.mountPath)] := by
  rw [historyOf, cloneMain, run_tryCatch, bind_eq, run_bind, CloneProg.ofReply, run_ofExcept]
  cases hfrom : GitCloner.fromConfig lib random config with
  | error text =>
    refine .inr ⟨[], .inr fun hreads => ?_, rfl⟩
    obtain ⟨cloner, hcloner⟩ := @exists_fromConfig lib random config hreads
    cases hfrom.symm.trans hcloner
  | ok cloner =>
    have hreads : ∀ r ∈ cloner.repositories, ReadsUrls lib config →
        (∃ parsed, PyUrl.urlparse lib.rejects r.url = .ok parsed) ∧
          ∃ joined, lib.urljoin (r.url ++ "/") "info/lfs.access" = .ok joined := by
      intro r hr hreads
      obtain ⟨data, hdata, hurl⟩ := urls_of_fromConfig hfrom r hr
      rw [← hurl]
      exact hreads data hdata
    have hout := @triple_runAll lib system config.storageMounts files (ReadsUrls lib config) cloner
      cloner.repositories hreads [] [] even_nil
    simp only [Except.mapError, bind_eq, run_bind]
    rw [GitCloner.run]
    rcases hrun : (cloner.runAll lib config.storageMounts [] cloner.repositories).run
      (recorded system.reply) [] with ⟨e | tokens, history⟩
    · rw [hrun] at hout
      refine .inr ⟨history, ?_, rfl⟩
      cases e with
      | gitFetch => exact hout.elim
      | branchDoesNotExist => exact hout.elim
      | _ => exact hout
    · rw [hrun] at hout
      exact .inl hout

theorem intact_iff {history : List CloneCall} :
    Intact system files history ↔ ¬ Harmed system files history := by
  unfold Intact Harmed Ever
  push Not
  rfl

/-- Files at or below the mount path are cleared by the hook. -/
theorem harmed_of_rmtree {history : List CloneCall} {path : PosixPath} (hne : files ≠ [])
    (hbelow : ∀ file ∈ files, path.resolve.Within file) :
    Harmed system files (history ++ [.rmtree path]) := by
  obtain ⟨file, hfile⟩ := List.exists_mem_of_ne_nil files hne
  exact ever_concat.mpr (.inr ⟨file, hfile, hbelow file hfile⟩)

end Main

/-! ### A resumed session with one repository -/

def resumedConfig : Config :=
  { sampleConfig ["https://gitlab.com/alice/project.git"] with isGitProxyEnabled := true }

/-- The repository is there, the outcome of `git config` is the given one, and git rewrites nothing
but its config. -/
def resumed (configured : GitOutput) : System where
  reply history
    | .pathExists _ _ => .ok true
    | .git _ args => if args = revParseArgs then .ok ⟨0, "true\n", ""⟩ else .ok configured
    | c => sampleReply history c
  rewrites _ _ _ _ := False

/-- The lock that an interrupted command has left. -/
def configLocked : GitOutput :=
  ⟨255, "", "error: could not lock config file .git/config: File exists\n"⟩

/-- A file with uncommitted work. -/
def notebook : Directory := ["analysis.ipynb", "project", "work"]

/-- The calls for a repository that is there. -/
def resumedCalls (directory : PosixPath) : List CloneCall :=
  [.pathExists .repository directory, .pathExists .gitDirectory directory,
    .git directory revParseArgs,
    .git directory ["config", "http.proxy", "http://localhost:8080"]]

end RenkuNotebooks.GitServices.ExistingWork
