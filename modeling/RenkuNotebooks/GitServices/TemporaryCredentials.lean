import RenkuNotebooks.GitServices.CloneCalls

/-!
# The plaintext credentials

To clone a repository with an access token, the cloner puts the token into a file that git's
credential store reads. Neither the file nor the settings that lead to it outlive the clone.
-/

namespace RenkuNotebooks.GitServices

open Prog

/-! ### The file and the settings -/

section Statement

variable (reply : List CloneCall → (c : CloneCall) → c.Reply)

/-- What git's credential store makes of the file during a git command. -/
abbrev CredentialStore :=
  List CloneCall → PosixPath → List String → Option (List String) → Option (List String)

/-- The store writes no entries but those that it finds, and makes no file. -/
structure StoreRewrites (store : CredentialStore) : Prop where
  absent : ∀ past dir args, store past dir args none = none
  entries : ∀ past dir args before after, store past dir args (some before) = some after →
    after ⊆ before

def LeadsToFile (path : PosixPath) : Prop :=
  path.resolve = GitCloner.credentialLoc.resolve

instance (path : PosixPath) : Decidable (LeadsToFile path) :=
  inferInstanceAs (Decidable (path.resolve = GitCloner.credentialLoc.resolve))

/-- The file after a call, as the list of its entries, `none` where there is no file. What a failed
write leaves counts as an entry. -/
def credentialsStep (store : CredentialStore) (past : List CloneCall) (file : Option (List String)) :
    CloneCall → Option (List String)
  | .openWrite path =>
    if LeadsToFile path then
      match reply past (.openWrite path) with
      | .ok _ => some []
      | .error _ => file
    else file
  | .openAppend path =>
    if LeadsToFile path then
      match reply past (.openAppend path) with
      | .ok _ => some (file.getD [])
      | .error _ => file
    else file
  | .write path text => if LeadsToFile path then file.map (· ++ [text]) else file
  | .unlink path =>
    if LeadsToFile path then
      match reply past (.unlink path) with
      | .ok _ => none
      | .error _ => file
    else file
  | .git dir args => store past dir args file
  | _ => file

/-- The settings in the git config of each directory, as far as the cloner has made them. -/
abbrev Settings := List (Directory × String)

/-- `git config` ends with 0, or with 5 and no message where a setting to remove is not there. -/
def unsetSucceeds : Except String GitOutput → Bool
  | .ok output => output.returncode == 0 || (output.returncode == 5 && output.stderr == "")
  | .error _ => false

def settingsStep (past : List CloneCall) (settings : Settings) : CloneCall → Settings
  | .git dir [command, key, value] =>
    if command = "config" then
      if key = "--unset" then
        if unsetSucceeds (reply past (.git dir [command, key, value])) then
          settings.filter (· ≠ (dir.resolve, value))
        else settings
      else
        match reply past (.git dir [command, key, value]) with
        | .ok output =>
          if output.returncode = 0 then (dir.resolve, key) :: settings else settings
        | .error _ => settings
    else settings
  | _ => settings

variable (store : CredentialStore) (lib : PyLibrary) (cloner : GitCloner)

def credentialsAfter (history : List CloneCall) : Option (List String) :=
  replay (credentialsStep reply store) none history

def settingsAfter (history : List CloneCall) : Settings :=
  replay (settingsStep reply) [] history

/-! ### What is to be shown -/

/-- The provider has given the token. -/
def Granted (history : List CloneCall) (providerId token : String) : Prop :=
  ∃ past provider bearer response,
    past ++ [.getToken provider.accessTokenUrl bearer] <+: history ∧
    cloner.findProvider providerId = some provider ∧
    reply past (.getToken provider.accessTokenUrl bearer) = .ok response ∧
    response.accessToken = .ok (some token)

/-- An entry for the host of the repository, with a token of the repository's provider. -/
def CredentialOf (history : List CloneCall) (repository : Repository) (entry : String) : Prop :=
  ∃ providerId token parsed, repository.provider = some providerId ∧
    Granted reply cloner history providerId token ∧
    PyUrl.urlparse lib.rejects repository.url = .ok parsed ∧
    entry = "https://" ++ "oauth2" ++ ":" ++ token ++ "@" ++ String.ofList parsed.netloc

/-- The commands that remove settings of a directory have succeeded. -/
def UnsetsSucceed (history : List CloneCall) (dir : Directory) : Prop :=
  ∀ past path key, past ++ [.git path ["config", "--unset", key]] <+: history →
    path.resolve = dir → unsetSucceeds (reply past (.git path ["config", "--unset", key])) = true

/-- What `_temp_plaintext_credentials` sets for a repository. -/
def temporarySettings (repository : Repository) : List String :=
  match lib.urljoin (repository.url ++ "/") "info/lfs.access" with
  | .ok lfsAccess => ["credential.helper", "lfs." ++ lfsAccess]
  | .error _ => ["credential.helper"]

/-- After a part of the run that is about one repository. -/
structure CleanedUp (repository : Repository) (start history : List CloneCall) : Prop where
  absent : credentialsAfter reply store history = none
  unset : UnsetsSucceed reply history repository.absolutePath.resolve →
    ∀ setting ∈ temporarySettings lib repository,
      (repository.absolutePath.resolve, setting) ∉ settingsAfter reply history
  own : ∀ now, start <+: now → now <+: history → ∀ entries,
    credentialsAfter reply store now = some entries →
    ∀ entry ∈ entries, CredentialOf reply lib cloner now repository entry

/-- The loop comes to a repository with these tokens, after these calls. -/
def Reaches (storageMounts : List String) (repository : Repository)
    (tokens : GitCloner.AccessTokens) (history : List CloneCall) : Prop :=
  ∃ earlier later, cloner.repositories = earlier ++ repository :: later ∧
    (cloner.runAll lib storageMounts [] earlier).run (recorded reply) [] = (.ok tokens, history)

end Statement

section Steps

variable {reply : List CloneCall → (c : CloneCall) → c.Reply} {store : CredentialStore}
  {lib : PyLibrary} {cloner : GitCloner} {repository : Repository} {left : Settings}
  {start history : List CloneCall} {c : CloneCall} {α : Type}

theorem credentialsAfter_concat (history : List CloneCall) (c : CloneCall) :
    credentialsAfter reply store (history ++ [c]) =
      credentialsStep reply store history (credentialsAfter reply store history) c :=
  replay_concat _ _ _ _

theorem settingsAfter_concat (history : List CloneCall) (c : CloneCall) :
    settingsAfter reply (history ++ [c]) =
      settingsStep reply history (settingsAfter reply history) c :=
  replay_concat _ _ _ _

/-! ### What one call does -/

def Temporary (setting : String) : Prop :=
  setting = "credential.helper" ∨ "lfs.".toList <+: setting.toList

instance (setting : String) : Decidable (Temporary setting) :=
  inferInstanceAs
    (Decidable (setting = "credential.helper" ∨ "lfs.".toList <+: setting.toList))

/-- Neither opens the file nor writes into it. -/
def LeavesFile : CloneCall → Prop
  | .openWrite path => ¬ LeadsToFile path
  | .openAppend path => ¬ LeadsToFile path
  | .write path _ => ¬ LeadsToFile path
  | _ => True

/-- Makes no temporary setting. -/
def LeavesSettings : CloneCall → Prop
  | .git _ args => ∀ key value, args = ["config", key, value] → ¬ Temporary key
  | _ => True

abbrev Leaves (c : CloneCall) : Prop := LeavesFile c ∧ LeavesSettings c

theorem entries_of_leavesFile (hstore : StoreRewrites store) (hc : LeavesFile c)
    {entries : List String}
    (h : credentialsAfter reply store (history ++ [c]) = some entries) :
    ∃ before, credentialsAfter reply store history = some before ∧ entries ⊆ before := by
  rw [credentialsAfter_concat] at h
  cases c with
  | openWrite path =>
    rw [credentialsStep, if_neg hc] at h
    exact ⟨entries, h, List.Subset.refl entries⟩
  | openAppend path =>
    rw [credentialsStep, if_neg hc] at h
    exact ⟨entries, h, List.Subset.refl entries⟩
  | write path text =>
    rw [credentialsStep, if_neg hc] at h
    exact ⟨entries, h, List.Subset.refl entries⟩
  | unlink path =>
    rw [credentialsStep] at h
    split at h
    · split at h
      · cases h
      · exact ⟨entries, h, List.Subset.refl entries⟩
    · exact ⟨entries, h, List.Subset.refl entries⟩
  | git dir args =>
    rw [credentialsStep] at h
    cases hfile : credentialsAfter reply store history with
    | none =>
      rw [hfile, hstore.absent] at h
      cases h
    | some before =>
      rw [hfile] at h
      exact ⟨before, rfl, hstore.entries history dir args before entries h⟩
  | pathExists asked path => exact ⟨entries, h, List.Subset.refl entries⟩
  | mkdir path => exact ⟨entries, h, List.Subset.refl entries⟩
  | getToken url bearer => exact ⟨entries, h, List.Subset.refl entries⟩
  | diskFree path => exact ⟨entries, h, List.Subset.refl entries⟩
  | rmtree path => exact ⟨entries, h, List.Subset.refl entries⟩

theorem absent_of_leavesFile (hstore : StoreRewrites store) (hc : LeavesFile c)
    (h : credentialsAfter reply store history = none) :
    credentialsAfter reply store (history ++ [c]) = none := by
  cases hfile : credentialsAfter reply store (history ++ [c]) with
  | none => rfl
  | some entries =>
    obtain ⟨before, hbefore, -⟩ := entries_of_leavesFile hstore hc hfile
    rw [h] at hbefore
    cases hbefore

/-- The settings that are there after a call were there before, or the call has made them. -/
theorem mem_settingsStep {settings : Settings} {dir : Directory} {key : String}
    (h : (dir, key) ∈ settingsStep reply history settings c) :
    (dir, key) ∈ settings ∨
      ∃ path value, c = .git path ["config", key, value] ∧ path.resolve = dir := by
  unfold settingsStep at h
  split at h
  · rename_i path command key' value
    split at h
    · rename_i hcommand
      split at h
      · split at h
        · exact Or.inl (List.mem_of_mem_filter h)
        · exact Or.inl h
      · split at h
        · split at h
          · rcases List.mem_cons.mp h with hnew | hold
            · cases hnew
              exact Or.inr ⟨path, value, by rw [hcommand], rfl⟩
            · exact Or.inl hold
          · exact Or.inl h
        · exact Or.inl h
    · exact Or.inl h
  · exact Or.inl h

theorem settings_of_leavesSettings (hc : LeavesSettings c) {dir : Directory} {key : String}
    (hkey : Temporary key) (h : (dir, key) ∈ settingsAfter reply (history ++ [c])) :
    (dir, key) ∈ settingsAfter reply history := by
  rw [settingsAfter_concat] at h
  rcases mem_settingsStep h with hold | ⟨path, value, rfl, -⟩
  · exact hold
  · exact (hc key value rfl hkey).elim

/-! ### What is kept between the calls -/

theorem Granted.mono {providerId token : String} (h : Granted reply cloner history providerId token)
    {history' : List CloneCall} (hlater : history <+: history') :
    Granted reply cloner history' providerId token := by
  obtain ⟨past, provider, bearer, response, hpast, h⟩ := h
  exact ⟨past, provider, bearer, response, hpast.trans hlater, h⟩

theorem CredentialOf.mono {entry : String}
    (h : CredentialOf reply lib cloner history repository entry) {history' : List CloneCall}
    (hlater : history <+: history') :
    CredentialOf reply lib cloner history' repository entry := by
  obtain ⟨providerId, token, parsed, hprovider, hgranted, h⟩ := h
  exact ⟨providerId, token, parsed, hprovider, hgranted.mono hlater, h⟩

theorem UnsetsSucceed.of_concat {dir : Directory}
    (h : UnsetsSucceed reply (history ++ [c]) dir) : UnsetsSucceed reply history dir :=
  fun past path key hpast => h past path key (hpast.trans (List.prefix_append history [c]))

/-- The entries since the start are those of the repository. -/
def OwnEntries (reply : List CloneCall → (c : CloneCall) → c.Reply) (store : CredentialStore)
    (lib : PyLibrary) (cloner : GitCloner) (repository : Repository)
    (start history : List CloneCall) : Prop :=
  ∀ now, start <+: now → now <+: history → ∀ entries,
    credentialsAfter reply store now = some entries →
    ∀ entry ∈ entries, CredentialOf reply lib cloner now repository entry

/-- Where the commands that remove settings have succeeded, these are the temporary ones that are
left. -/
def LeftOnly (reply : List CloneCall → (c : CloneCall) → c.Reply) (left : Settings)
    (history : List CloneCall) : Prop :=
  ∀ dir key, Temporary key → UnsetsSucceed reply history dir →
    (dir, key) ∈ settingsAfter reply history → (dir, key) ∈ left

theorem OwnEntries.concat (h : OwnEntries reply store lib cloner repository start history)
    (hc : ∀ entries, credentialsAfter reply store (history ++ [c]) = some entries →
      ∀ entry ∈ entries, CredentialOf reply lib cloner (history ++ [c]) repository entry) :
    OwnEntries reply store lib cloner repository start (history ++ [c]) := by
  intro now hstart hnow
  rcases List.prefix_concat_iff.mp hnow with rfl | hnow
  · exact hc
  · exact h now hstart hnow

theorem OwnEntries.leaves (hstore : StoreRewrites store) (hstart : start <+: history)
    (h : OwnEntries reply store lib cloner repository start history) (hc : LeavesFile c) :
    OwnEntries reply store lib cloner repository start (history ++ [c]) := by
  apply h.concat
  intro entries hentries entry hentry
  obtain ⟨before, hbefore, hsubset⟩ := entries_of_leavesFile hstore hc hentries
  exact (h history hstart List.prefix_rfl before hbefore entry (hsubset hentry)).mono
    (List.prefix_append history [c])

theorem LeftOnly.leaves (h : LeftOnly reply left history) (hc : LeavesSettings c) :
    LeftOnly reply left (history ++ [c]) :=
  fun dir key hkey hunsets hmem =>
    h dir key hkey hunsets.of_concat (settings_of_leavesSettings hc hkey hmem)

/-! ### The commands that remove settings -/

theorem LeftOnly.unset {path : PosixPath} {key : String}
    (h : LeftOnly reply ((path.resolve, key) :: left) history) :
    LeftOnly reply left (history ++ [.git path ["config", "--unset", key]]) := by
  intro dir key' hkey' hunsets hmem
  have hremoved := hunsets history path key List.prefix_rfl
  rw [settingsAfter_concat] at hmem
  simp only [settingsStep, if_true] at hmem
  split at hmem
  · obtain ⟨hmem, hne⟩ := List.mem_filter.mp hmem
    rcases List.mem_cons.mp (h dir key' hkey' hunsets.of_concat hmem) with heq | hleft
    · exact (of_decide_eq_true hne heq).elim
    · exact hleft
  · rename_i hfails
    rcases List.mem_cons.mp (h dir key' hkey' hunsets.of_concat hmem) with heq | hleft
    · cases heq
      exact (hfails (hremoved rfl)).elim
    · exact hleft

theorem LeftOnly.unset_fails {path : PosixPath} {key : String} (h : LeftOnly reply left history)
    (hleft : ∀ setting ∈ left, setting.1 = path.resolve)
    (hfails : unsetSucceeds (reply history (.git path ["config", "--unset", key])) = false) :
    LeftOnly reply [] (history ++ [.git path ["config", "--unset", key]]) := by
  intro dir key' hkey' hunsets hmem
  have hleaves : LeavesSettings (.git path ["config", "--unset", key]) := by
    intro key'' value heq
    obtain ⟨rfl, rfl⟩ : "--unset" = key'' ∧ key = value := by simpa using heq
    decide
  have hold := h dir key' hkey' hunsets.of_concat
    (settings_of_leavesSettings hleaves hkey' hmem)
  have hdir := hleft _ hold
  rw [hunsets history path key List.prefix_rfl hdir.symm] at hfails
  cases hfails

/-! ### Rules for runs -/

variable {P Q : List CloneCall → Prop} {R : List CloneCall → Prop}

/-- A git command is one call, and it is not 0 that it ends with where it raises. -/
theorem triple_gitCall {dir : PosixPath} {args : List String}
    (hok : ∀ history, P history → Q (history ++ [.git dir args]))
    (herror : ∀ history, P history → unsetSucceeds (reply history (.git dir args)) = false →
      R (history ++ [.git dir args])) :
    Triple (recorded reply) P (CloneProg.git dir args) (fun _ => Q) (fun _ => R) := by
  apply Triple.bind fun r history =>
    ∃ before, P before ∧ history = before ++ [.git dir args] ∧ r = reply before (.git dir args)
  · apply triple_perform
    intro history hhistory
    exact ⟨history, hhistory, rfl, rfl⟩
  · rintro (text | output)
    · apply triple_raise
      rintro _ ⟨before, hbefore, rfl, hreply⟩
      exact herror before hbefore (by rw [← hreply]; rfl)
    · show Triple _ _ (if _ then _ else _) _ _
      split
      · rename_i hfailed
        apply triple_raise
        rintro _ ⟨before, hbefore, rfl, hreply⟩
        apply herror before hbefore
        have hstderr : output.stderr ≠ "" := by
          rintro hempty
          rw [hempty] at hfailed
          exact absurd hfailed.1 (by decide)
        rw [← hreply]
        simp [unsetSucceeds, hfailed.2, hstderr]
      · apply triple_ret
        rintro _ ⟨before, hbefore, rfl, -⟩
        exact hok before hbefore

theorem triple_exceptGitCommand_keeps {p : CloneProg α} {handler : GitOutput → CloneProg α}
    (hp : Triple (recorded reply) P p (fun _ => Q) (fun _ => Q))
    (hhandler : ∀ output, Triple (recorded reply) Q (handler output) (fun _ => Q) (fun _ => Q)) :
    Triple (recorded reply) P (CloneProg.exceptGitCommand p handler) (fun _ => Q) (fun _ => Q) := by
  apply Triple.tryCatch (fun _ => Q) hp
  intro e
  cases e with
  | gitCommand output => exact hhandler output
  | _ => exact triple_raise fun _ h => h

/-! ### The clone step -/

/-- Where the part of the run that is about one repository has come to. -/
structure Guarded (reply : List CloneCall → (c : CloneCall) → c.Reply) (store : CredentialStore)
    (lib : PyLibrary) (cloner : GitCloner) (repository : Repository) (start : List CloneCall)
    (left : Settings) (history : List CloneCall) : Prop where
  since : start <+: history
  own : OwnEntries reply store lib cloner repository start history
  left : LeftOnly reply left history

/-- There is no file, and no temporary setting. -/
structure Safe (reply : List CloneCall → (c : CloneCall) → c.Reply) (store : CredentialStore)
    (lib : PyLibrary) (cloner : GitCloner) (repository : Repository) (start history : List CloneCall)
    extends Guarded reply store lib cloner repository start [] history where
  absent : credentialsAfter reply store history = none

theorem Guarded.leaves (hstore : StoreRewrites store)
    (h : Guarded reply store lib cloner repository start left history) (hc : Leaves c) :
    Guarded reply store lib cloner repository start left (history ++ [c]) where
  since := h.since.trans (List.prefix_append history [c])
  own := h.own.leaves hstore h.since hc.1
  left := h.left.leaves hc.2

theorem Safe.leaves (hstore : StoreRewrites store)
    (h : Safe reply store lib cloner repository start history) (hc : Leaves c) :
    Safe reply store lib cloner repository start (history ++ [c]) where
  toGuarded := h.toGuarded.leaves hstore hc
  absent := absent_of_leavesFile hstore hc.1 h.absent

theorem leavesFile_git (dir : PosixPath) (args : List String) : LeavesFile (.git dir args) :=
  trivial

theorem Safe.unset_fails (hstore : StoreRewrites store) {path : PosixPath} {key : String}
    (h : Guarded reply store lib cloner repository start left history)
    (habsent : credentialsAfter reply store history = none)
    (hleft : ∀ setting ∈ left, setting.1 = path.resolve)
    (hfails : unsetSucceeds (reply history (.git path ["config", "--unset", key])) = false) :
    Safe reply store lib cloner repository start
      (history ++ [.git path ["config", "--unset", key]]) where
  since := h.since.trans (List.prefix_append _ _)
  own := h.own.leaves hstore h.since (leavesFile_git _ _)
  left := h.left.unset_fails hleft hfails
  absent := absent_of_leavesFile hstore (leavesFile_git _ _) habsent

theorem Guarded.unset (hstore : StoreRewrites store) {path : PosixPath} {key : String}
    (h : Guarded reply store lib cloner repository start ((path.resolve, key) :: left) history) :
    Guarded reply store lib cloner repository start left
      (history ++ [.git path ["config", "--unset", key]]) where
  since := h.since.trans (List.prefix_append _ _)
  own := h.own.leaves hstore h.since (leavesFile_git _ _)
  left := h.left.unset

/-- The settings of a clone with credentials. -/
abbrev cloneSettings (repository : Repository) (lfsAuthSetting : String) : Settings :=
  [(repository.absolutePath.resolve, "credential.helper"),
    (repository.absolutePath.resolve, lfsAuthSetting)]

theorem safe_removeCredentials (hstore : StoreRewrites store)
    (hunlink : ∀ past, reply past (.unlink GitCloner.credentialLoc) = .ok ())
    (lfsAuthSetting : String) :
    Triple (recorded reply)
      (Guarded reply store lib cloner repository start (cloneSettings repository lfsAuthSetting))
      (GitCloner.removeCredentials repository lfsAuthSetting)
      (fun _ => Safe reply store lib cloner repository start)
      (fun _ => Safe reply store lib cloner repository start) := by
  apply Triple.bind fun _ history =>
    Guarded reply store lib cloner repository start (cloneSettings repository lfsAuthSetting)
      history ∧ credentialsAfter reply store history = none
  · intro history hhistory
    have habsent : credentialsAfter reply store
        (history ++ [.unlink GitCloner.credentialLoc]) = none := by
      rw [credentialsAfter_concat, credentialsStep, if_pos (by rfl), hunlink]
    have hrun : (CloneProg.unlink GitCloner.credentialLoc).run (recorded reply) history =
        (.ok (), history ++ [.unlink GitCloner.credentialLoc]) := by
      simp [CloneProg.unlink, perform, Prog.bind, recorded, hunlink, CloneProg.ofReply,
        Prog.ofExcept, Except.mapError]
    rw [hrun]
    exact ⟨hhistory.leaves hstore ⟨trivial, trivial⟩, habsent⟩
  · intro _
    apply triple_exceptGitCommand_keeps
    · apply Triple.bind fun _ history =>
        Guarded reply store lib cloner repository start
          [(repository.absolutePath.resolve, lfsAuthSetting)] history ∧
          credentialsAfter reply store history = none
      · apply triple_gitCall
        · rintro history ⟨hguarded, habsent⟩
          exact ⟨hguarded.unset hstore,
            absent_of_leavesFile hstore (leavesFile_git _ _) habsent⟩
        · rintro history ⟨hguarded, habsent⟩ hfails
          exact Safe.unset_fails hstore hguarded habsent (by simp) hfails
      · intro _
        apply Triple.bind fun _ => Safe reply store lib cloner repository start
        · apply triple_gitCall
          · rintro history ⟨hguarded, habsent⟩
            exact ⟨hguarded.unset hstore,
              absent_of_leavesFile hstore (leavesFile_git _ _) habsent⟩
          · rintro history ⟨hguarded, habsent⟩ hfails
            exact Safe.unset_fails hstore hguarded habsent (by simp) hfails
        · exact fun _ => triple_ret fun _ h => h
    · exact fun _ => triple_ret fun _ h => h

/-! ### What leaves the file and the settings -/

/-- A path with a last part other than that of the file does not lead to it. -/
theorem not_leadsToFile {path : PosixPath} {names : List String} {part : String}
    (hup : ".." ∉ names ++ [part]) (hpart : part ≠ "git-credentials") :
    ¬ LeadsToFile (path.child (names ++ [part])) := by
  intro h
  have hfile : GitCloner.credentialLoc.resolve = ["git-credentials", "tmp"] := by decide +kernel
  rw [LeadsToFile, PosixPath.resolve_child path hup, hfile, List.reverse_append] at h
  exact hpart (List.cons.inj h).1

/-- A git command other than `git config`. -/
theorem leaves_command (dir : PosixPath) {command : String} {args : List String}
    (h : command ≠ "config") : Leaves (.git dir (command :: args)) :=
  ⟨trivial, fun _ _ heq => (h (List.cons.inj heq).1).elim⟩

theorem not_temporary_of_mem {key : String} (h : key ∈ clonerSettings) : ¬ Temporary key := by
  simp only [clonerSettings, List.mem_cons, List.not_mem_nil, or_false] at h
  rcases h with rfl | rfl | rfl | rfl | rfl <;> decide

theorem leaves_allowsClone (repository : Repository) : AllowsClone Leaves repository where
  pathExists := fun _ _ => ⟨trivial, trivial⟩
  mkdir := fun _ => ⟨trivial, trivial⟩
  diskFree := fun _ => ⟨trivial, trivial⟩
  getToken := fun _ _ => ⟨trivial, trivial⟩
  command := fun _ _ hcommand _ => leaves_command _ hcommand
  config := by
    intro key value hkey
    refine ⟨trivial, fun key' value' heq => ?_⟩
    obtain ⟨rfl, rfl⟩ : key = key' ∧ value = value' := by simpa using heq
    exact not_temporary_of_mem hkey
  errorFile := by
    have herrorFile : ¬ LeadsToFile repository.errorFile :=
      @not_leadsToFile repository.absolutePath [] "ERROR" (by decide) (by decide)
    exact ⟨⟨herrorFile, trivial⟩, fun _ => ⟨herrorFile, trivial⟩⟩
  excludeFile := by
    have hexclude : ¬ LeadsToFile repository.excludeFile :=
      @not_leadsToFile repository.absolutePath [".git", "info"] "exclude" (by decide) (by decide)
    exact ⟨⟨hexclude, trivial⟩, fun _ => ⟨hexclude, trivial⟩⟩

/-! ### The tokens -/

/-- Each known token was given by its provider. -/
def TokensGranted (reply : List CloneCall → (c : CloneCall) → c.Reply) (cloner : GitCloner)
    (tokens : GitCloner.AccessTokens) (history : List CloneCall) : Prop :=
  ∀ providerId token, (providerId, some token) ∈ tokens →
    Granted reply cloner history providerId token

/-- The provider of the repository has given the token that is used, if there is one. -/
def TokenGranted (reply : List CloneCall → (c : CloneCall) → c.Reply) (cloner : GitCloner)
    (repository : Repository) (gitAccessToken : Option String) (history : List CloneCall) : Prop :=
  ∀ token, gitAccessToken = some token → ∃ providerId, repository.provider = some providerId ∧
    Granted reply cloner history providerId token

variable {tokens : GitCloner.AccessTokens}

theorem TokenGranted.mono {gitAccessToken : Option String}
    (h : TokenGranted reply cloner repository gitAccessToken history)
    {history' : List CloneCall} (hlater : history <+: history') :
    TokenGranted reply cloner repository gitAccessToken history' := by
  intro token htoken
  obtain ⟨providerId, hprovider, hgranted⟩ := h token htoken
  exact ⟨providerId, hprovider, hgranted.mono hlater⟩

theorem TokensGranted.mono (h : TokensGranted reply cloner tokens history)
    {history' : List CloneCall} (hlater : history <+: history') :
    TokensGranted reply cloner tokens history' :=
  fun providerId token hmem => (h providerId token hmem).mono hlater

theorem mem_of_lookup {providerId : String} {token : Option String}
    (h : tokens.lookup providerId = some token) : (providerId, token) ∈ tokens := by
  induction tokens with
  | nil => cases h
  | cons entry tokens ih =>
    obtain ⟨known, token'⟩ := entry
    rw [List.lookup_cons] at h
    split at h
    · rename_i heq
      cases h
      rw [eq_of_beq heq]
      exact List.mem_cons_self
    · exact List.mem_cons_of_mem _ (ih h)

/-- A state between the parts of `run_helper` outside of the clone step. -/
def Between (reply : List CloneCall → (c : CloneCall) → c.Reply) (store : CredentialStore)
    (lib : PyLibrary) (cloner : GitCloner) (repository : Repository) (start : List CloneCall)
    (tokens : GitCloner.AccessTokens) (history : List CloneCall) : Prop :=
  Safe reply store lib cloner repository start history ∧ TokensGranted reply cloner tokens history

theorem Between.leaves (hstore : StoreRewrites store)
    (h : Between reply store lib cloner repository start tokens history) (hc : Leaves c) :
    Between reply store lib cloner repository start tokens (history ++ [c]) :=
  ⟨h.1.leaves hstore hc, h.2.mono (List.prefix_append history [c])⟩

/-- What leaves the file and the settings keeps such a state. -/
theorem triple_between (hstore : StoreRewrites store) {p : CloneProg α} (hp : p.Calls Leaves) :
    Triple (recorded reply) (Between reply store lib cloner repository start tokens) p
      (fun _ => Between reply store lib cloner repository start tokens)
      (fun _ => Safe reply store lib cloner repository start) := by
  have hkeeps : Triple (recorded reply)
      (Between reply store lib cloner repository start tokens) p
      (fun _ => Between reply store lib cloner repository start tokens)
      (fun _ => Between reply store lib cloner repository start tokens) :=
    hp.triple fun c history hc hhistory => hhistory.leaves hstore hc
  exact hkeeps.weaken (fun _ h => h) (fun _ _ h => h) fun _ _ h => h.1

theorem triple_getAccessToken (hstore : StoreRewrites store) (providerId : String) :
    Triple (recorded reply) (Between reply store lib cloner repository start tokens)
      (cloner.getAccessToken tokens providerId)
      (fun found history =>
        Between reply store lib cloner repository start found.2 history ∧
        ∀ token, found.1 = some token → Granted reply cloner history providerId token)
      (fun _ => Safe reply store lib cloner repository start) := by
  unfold GitCloner.getAccessToken
  split
  · rename_i known hknown
    apply triple_ret
    intro history hhistory
    refine ⟨hhistory, fun token htoken => ?_⟩
    exact hhistory.2 providerId token (mem_of_lookup (hknown.trans (congrArg some htoken)))
  · split
    · apply triple_ret
      intro history hhistory
      exact ⟨hhistory, fun token htoken => by cases htoken⟩
    · rename_i provider hprovider
      rw [bind_eq, CloneProg.getToken, bind_assoc]
      apply Triple.bind fun r history => ∃ past,
        Between reply store lib cloner repository start tokens past ∧
        history = past ++ [.getToken provider.accessTokenUrl (cloner.user.renkuToken.getD "None")] ∧
        r = reply past (.getToken provider.accessTokenUrl (cloner.user.renkuToken.getD "None"))
      · apply triple_perform
        intro history hhistory
        exact ⟨history, hhistory, rfl, rfl⟩
      · rintro (text | res)
        · apply triple_raise
          rintro _ ⟨past, hpast, rfl, -⟩
          exact hpast.1.leaves hstore ⟨trivial, trivial⟩
        · show Triple _ _ (if _ then _ else _) _ _
          split
          · apply triple_ret
            rintro _ ⟨past, hpast, rfl, -⟩
            exact ⟨hpast.leaves hstore ⟨trivial, trivial⟩, fun token htoken => by cases htoken⟩
          · apply Triple.bind fun token history =>
              Between reply store lib cloner repository start tokens history ∧
                ∀ known, token = some known → Granted reply cloner history providerId known
            · apply triple_ofExcept
              · rintro token _ htoken ⟨past, hpast, rfl, hreply⟩
                refine ⟨hpast.leaves hstore ⟨trivial, trivial⟩, ?_⟩
                rintro known rfl
                have hgiven : res.accessToken = .ok (some known) := by
                  cases hres : res.accessToken with
                  | error text =>
                    rw [hres] at htoken
                    cases htoken
                  | ok given =>
                    rw [hres] at htoken
                    cases htoken
                    rfl
                exact ⟨past, provider, _, res, List.prefix_rfl, hprovider, hreply.symm, hgiven⟩
              · rintro _ _ _ ⟨past, hpast, rfl, -⟩
                exact hpast.1.leaves hstore ⟨trivial, trivial⟩
            · intro token
              apply triple_ret
              rintro history ⟨hhistory, hgranted⟩
              refine ⟨⟨hhistory.1, ?_⟩, hgranted⟩
              intro providerId' known hmem
              rcases List.mem_cons.mp hmem with heq | hmem
              · cases heq
                exact hgranted known rfl
              · exact hhistory.2 providerId' known hmem

theorem triple_repositoryToken (hstore : StoreRewrites store) :
    Triple (recorded reply) (Between reply store lib cloner repository start tokens)
      (cloner.repositoryToken tokens repository)
      (fun found history =>
        Between reply store lib cloner repository start found.2 history ∧
        TokenGranted reply cloner repository found.1 history)
      (fun _ => Safe reply store lib cloner repository start) := by
  unfold GitCloner.repositoryToken
  split
  · rename_i providerId hprovider
    split
    · apply (triple_getAccessToken hstore providerId).weaken (fun _ h => h) ?_ (fun _ _ h => h)
      rintro found history ⟨hbetween, hgranted⟩
      exact ⟨hbetween, fun token htoken => ⟨providerId, hprovider, hgranted token htoken⟩⟩
    · exact triple_ret fun history hhistory => ⟨hhistory, fun token htoken => by cases htoken⟩
  · exact triple_ret fun history hhistory => ⟨hhistory, fun token htoken => by cases htoken⟩

/-! ### Cloning with credentials -/

theorem LeftOnly.mono {left' : Settings} (h : LeftOnly reply left history) (hsubset : left ⊆ left') :
    LeftOnly reply left' history :=
  fun dir key hkey hunsets hmem => hsubset (h dir key hkey hunsets hmem)

/-- A setting of the clone step is one of those that are left. -/
theorem LeftOnly.config {path : PosixPath} {key value : String} (h : LeftOnly reply left history)
    (hleft : (path.resolve, key) ∈ left) :
    LeftOnly reply left (history ++ [.git path ["config", key, value]]) := by
  intro dir key' hkey' hunsets hmem
  rw [settingsAfter_concat] at hmem
  rcases mem_settingsStep hmem with hold | ⟨path', value', heq, rfl⟩
  · exact h dir key' hkey' hunsets.of_concat hold
  · cases heq
    exact hleft

theorem Guarded.config (hstore : StoreRewrites store) {path : PosixPath} {key value : String}
    (h : Guarded reply store lib cloner repository start left history)
    (hleft : (path.resolve, key) ∈ left) :
    Guarded reply store lib cloner repository start left
      (history ++ [.git path ["config", key, value]]) where
  since := h.since.trans (List.prefix_append _ _)
  own := h.own.leaves hstore h.since (leavesFile_git _ _)
  left := h.left.config hleft

theorem leadsToFile_credentialLoc : LeadsToFile GitCloner.credentialLoc := rfl

theorem Guarded.openWrite (h : Guarded reply store lib cloner repository start left history)
    (habsent : credentialsAfter reply store history = none) :
    Guarded reply store lib cloner repository start left
      (history ++ [.openWrite GitCloner.credentialLoc]) where
  since := h.since.trans (List.prefix_append _ _)
  own := by
    apply h.own.concat
    intro entries hentries entry hentry
    rw [credentialsAfter_concat, credentialsStep, if_pos leadsToFile_credentialLoc] at hentries
    split at hentries
    · cases hentries
      cases hentry
    · rw [habsent] at hentries
      cases hentries
  left := h.left.leaves trivial

theorem Guarded.write {text : String}
    (h : Guarded reply store lib cloner repository start left history)
    (htext : CredentialOf reply lib cloner history repository text) :
    Guarded reply store lib cloner repository start left
      (history ++ [.write GitCloner.credentialLoc text]) where
  since := h.since.trans (List.prefix_append _ _)
  own := by
    apply h.own.concat
    intro entries hentries entry hentry
    rw [credentialsAfter_concat, credentialsStep, if_pos leadsToFile_credentialLoc] at hentries
    obtain ⟨before, hbefore, rfl⟩ := Option.map_eq_some_iff.mp hentries
    rcases List.mem_append.mp hentry with hold | hnew
    · exact (h.own history h.since List.prefix_rfl before hbefore entry hold).mono
        (List.prefix_append _ _)
    · rw [List.mem_singleton.mp hnew]
      exact htext.mono (List.prefix_append _ _)
  left := h.left.leaves trivial

theorem safe_withTempPlaintextCredentials (hstore : StoreRewrites store)
    (hunlink : ∀ past, reply past (.unlink GitCloner.credentialLoc) = .ok ())
    {providerId token : String} (hprovider : repository.provider = some providerId)
    {body : CloneProg Unit} (hbody : body.Calls Leaves) :
    Triple (recorded reply)
      (fun history => Safe reply store lib cloner repository start history ∧
        Granted reply cloner history providerId token)
      (GitCloner.withTempPlaintextCredentials lib repository "oauth2" token body)
      (fun _ => Safe reply store lib cloner repository start)
      (fun _ => Safe reply store lib cloner repository start) := by
  apply Triple.bind fun _ history => Safe reply store lib cloner repository start history ∧
    Granted reply cloner history providerId token
  · exact triple_ofExcept (fun _ _ _ h => h) fun _ _ _ h => h.1
  intro lfsAccess
  -- the tear-down starts from the same states whether the body has raised or not
  apply Triple.finallyDo
    (fun _ => Guarded reply store lib cloner repository start
      (cloneSettings repository ("lfs." ++ lfsAccess)))
    (fun _ => Guarded reply store lib cloner repository start
      (cloneSettings repository ("lfs." ++ lfsAccess))) _
    (fun _ => safe_removeCredentials hstore hunlink _)
    (fun _ => safe_removeCredentials hstore hunlink _)
  have hall : ∀ history, Guarded reply store lib cloner repository start [] history →
      Guarded reply store lib cloner repository start
        (cloneSettings repository ("lfs." ++ lfsAccess)) history :=
    fun history h => ⟨h.since, h.own, h.left.mono (List.nil_subset _)⟩
  apply Triple.bind fun _ history =>
    Guarded reply store lib cloner repository start
      (cloneSettings repository ("lfs." ++ lfsAccess)) history ∧
    Granted reply cloner history providerId token
  · apply Triple.bind fun _ history =>
      Guarded reply store lib cloner repository start
        (cloneSettings repository ("lfs." ++ lfsAccess)) history ∧
      Granted reply cloner history providerId token
    · apply triple_perform
      rintro history ⟨hsafe, hgranted⟩
      exact ⟨(hall history hsafe.toGuarded).openWrite hsafe.absent,
        hgranted.mono (List.prefix_append _ _)⟩
    · intro r
      exact triple_ofExcept (fun _ _ _ h => h) fun _ _ _ h => h.1
  · intro _
    apply Triple.bind fun parsed history =>
      Guarded reply store lib cloner repository start
        (cloneSettings repository ("lfs." ++ lfsAccess)) history ∧
      CredentialOf reply lib cloner history repository
        ("https://" ++ "oauth2" ++ ":" ++ token ++ "@" ++ String.ofList parsed.netloc)
    · apply triple_ofExcept
      · rintro parsed history hparsed ⟨hguarded, hgranted⟩
        refine ⟨hguarded, providerId, token, parsed, hprovider, hgranted, ?_, rfl⟩
        cases hurl : PyUrl.urlparse lib.rejects repository.url with
        | error text =>
          rw [hurl] at hparsed
          cases hparsed
        | ok parsed' =>
          rw [hurl] at hparsed
          cases hparsed
          rfl
      · exact fun _ _ _ h => h.1
    · intro parsed
      apply Triple.bind fun _ => Guarded reply store lib cloner repository start
        (cloneSettings repository ("lfs." ++ lfsAccess))
      · apply Triple.bind fun _ => Guarded reply store lib cloner repository start
          (cloneSettings repository ("lfs." ++ lfsAccess))
        · apply triple_perform
          rintro history ⟨hguarded, hcredential⟩
          exact hguarded.write hcredential
        · exact fun _ => triple_ofExcept (fun _ _ _ h => h) fun _ _ _ h => h
      · intro _
        apply Triple.bind fun _ => Guarded reply store lib cloner repository start
          (cloneSettings repository ("lfs." ++ lfsAccess))
        · exact triple_gitCall (fun _ h => h.config hstore (by simp))
            fun _ h _ => h.config hstore (by simp)
        · intro _
          apply Triple.bind fun _ => Guarded reply store lib cloner repository start
            (cloneSettings repository ("lfs." ++ lfsAccess))
          · exact triple_gitCall (fun _ h => h.config hstore (by simp))
              fun _ h _ => h.config hstore (by simp)
          · exact fun _ => hbody.triple fun c history hc h => h.leaves hstore hc

/-! ### A repository, and all of them -/

theorem safe_cloneWith (hstore : StoreRewrites store)
    (hunlink : ∀ past, reply past (.unlink GitCloner.credentialLoc) = .ok ())
    (gitAccessToken : Option String) :
    Triple (recorded reply)
      (fun history => Safe reply store lib cloner repository start history ∧
        TokenGranted reply cloner repository gitAccessToken history)
      (cloner.cloneWith lib repository gitAccessToken)
      (fun _ => Safe reply store lib cloner repository start)
      (fun _ => Safe reply store lib cloner repository start) := by
  have hclone : Triple (recorded reply) (Safe reply store lib cloner repository start)
      (cloner.clone lib repository) (fun _ => Safe reply store lib cloner repository start)
      (fun _ => Safe reply store lib cloner repository start) :=
    (calls_clone (leaves_allowsClone repository) lib cloner).triple fun c history hc h => h.leaves hstore hc
  cases gitAccessToken with
  | none => exact hclone.weaken (fun _ h => h.1) (fun _ _ h => h) fun _ _ h => h
  | some token =>
    show Triple _ _ (if _ then _ else _) _ _
    split
    · exact hclone.weaken (fun _ h => h.1) (fun _ _ h => h) fun _ _ h => h
    · rintro history ⟨hsafe, hgranted⟩
      obtain ⟨providerId, hprovider, hgranted⟩ := hgranted token rfl
      exact safe_withTempPlaintextCredentials hstore hunlink hprovider
        (calls_clone (leaves_allowsClone repository) lib cloner) history ⟨hsafe, hgranted⟩

theorem safe_cloneAndReset (hstore : StoreRewrites store)
    (hunlink : ∀ past, reply past (.unlink GitCloner.credentialLoc) = .ok ())
    (gitAccessToken : Option String) :
    Triple (recorded reply)
      (fun history => Safe reply store lib cloner repository start history ∧
        TokenGranted reply cloner repository gitAccessToken history)
      (cloner.cloneAndReset lib repository gitAccessToken)
      (fun _ => Safe reply store lib cloner repository start)
      (fun _ => Safe reply store lib cloner repository start) := by
  apply Triple.bind (fun _ => Safe reply store lib cloner repository start)
    (safe_cloneWith hstore hunlink gitAccessToken)
  intro _
  have hreset := calls_reset (leaves_allowsClone repository) (repository.commitSha.getD "")
  exact hreset.triple fun c history hc h => h.leaves hstore hc

theorem between_runHelper (hstore : StoreRewrites store)
    (hunlink : ∀ past, reply past (.unlink GitCloner.credentialLoc) = .ok ())
    (storageMounts : List String) :
    Triple (recorded reply) (Between reply store lib cloner repository start tokens)
      (cloner.runHelper lib tokens storageMounts repository)
      (fun tokens' => Between reply store lib cloner repository start tokens')
      (fun _ => Safe reply store lib cloner repository start) := by
  have hallows := leaves_allowsClone repository
  apply Triple.bind (fun _ => Between reply store lib cloner repository start tokens)
    (triple_between hstore (calls_repoExists hallows (leaves_command _ (by decide))))
  intro present
  split
  · apply Triple.bind (fun _ => Between reply store lib cloner repository start tokens)
      (triple_between hstore (calls_setupProxy hallows cloner))
    exact fun _ => triple_ret fun _ h => h
  · apply Triple.bind _ (triple_repositoryToken hstore)
    rintro ⟨gitAccessToken, tokens'⟩
    apply Triple.bind fun _ history =>
      Between reply store lib cloner repository start tokens' history ∧
        TokenGranted reply cloner repository gitAccessToken history
    · have hkeeps : Triple (recorded reply)
          (fun history => Between reply store lib cloner repository start tokens' history ∧
            TokenGranted reply cloner repository gitAccessToken history)
          (cloner.initializeRepo repository)
          (fun _ history => Between reply store lib cloner repository start tokens' history ∧
            TokenGranted reply cloner repository gitAccessToken history)
          (fun _ history => Between reply store lib cloner repository start tokens' history ∧
            TokenGranted reply cloner repository gitAccessToken history) :=
        (calls_initializeRepo hallows cloner).triple fun c history hc h =>
          ⟨h.1.leaves hstore hc, h.2.mono (List.prefix_append history [c])⟩
      exact hkeeps.weaken (fun _ h => h) (fun _ _ h => h) fun _ _ h => h.1.1
    · intro _
      -- the tokens that are known stay granted whatever the clone step asks for
      have hclone : Triple (recorded reply)
          (fun history => Between reply store lib cloner repository start tokens' history ∧
            TokenGranted reply cloner repository gitAccessToken history)
          (cloner.cloneAndReset lib repository gitAccessToken)
          (fun _ => Between reply store lib cloner repository start tokens')
          (fun _ => Between reply store lib cloner repository start tokens') := by
        have hgranted : Triple (recorded reply) (TokensGranted reply cloner tokens')
            (cloner.cloneAndReset lib repository gitAccessToken)
            (fun _ => TokensGranted reply cloner tokens')
            (fun _ => TokensGranted reply cloner tokens') :=
          (calls_true _).triple fun c history _ h => h.mono (List.prefix_append history [c])
        exact ((safe_cloneAndReset hstore hunlink gitAccessToken).and hgranted).weaken (fun _ h => ⟨⟨h.1.1, h.2⟩, h.1.2⟩) (fun _ _ h => h)
          fun _ _ h => h
      apply Triple.bind fun _ => Between reply store lib cloner repository start tokens'
      · apply Triple.tryCatch fun _ => Between reply store lib cloner repository start tokens'
        · exact Triple.bind _ hclone fun _ => triple_ret fun _ h => h
        · exact fun e => triple_between hstore (calls_handleCloneError hallows lib e)
      · intro goOn
        split
        · apply Triple.bind _ (triple_between hstore (calls_checkStorageMounts hallows storageMounts))
          intro _
          apply Triple.bind _
            (triple_between hstore (calls_excludeStoragesFromGit hallows storageMounts))
          intro _
          apply Triple.bind _ (triple_between hstore (calls_setupProxy hallows cloner))
          exact fun _ => triple_ret fun _ h => h
        · exact triple_ret fun _ h => h

/-- Between two repositories. -/
structure Idle (reply : List CloneCall → (c : CloneCall) → c.Reply) (store : CredentialStore)
    (cloner : GitCloner) (tokens : GitCloner.AccessTokens) (history : List CloneCall) : Prop where
  absent : credentialsAfter reply store history = none
  left : LeftOnly reply [] history
  granted : TokensGranted reply cloner tokens history

theorem Idle.between (h : Idle reply store cloner tokens history) (lib : PyLibrary)
    (repository : Repository) :
    Between reply store lib cloner repository history tokens history where
  left :=
    { since := List.prefix_rfl
      own := by
        intro now hstart hnow entries hentries
        obtain rfl := hnow.eq_of_length_le hstart.length_le
        rw [h.absent] at hentries
        cases hentries
      left := h.left
      absent := h.absent }
  right := h.granted

theorem idle_nil : Idle reply store cloner [] [] where
  absent := rfl
  left := fun _ _ _ _ hmem => by cases hmem
  granted := fun _ _ hmem => by cases hmem

theorem idle_runAll (hstore : StoreRewrites store)
    (hunlink : ∀ past, reply past (.unlink GitCloner.credentialLoc) = .ok ())
    (lib : PyLibrary) (storageMounts : List String) (repositories : List Repository) :
    Triple (recorded reply) (Idle reply store cloner tokens)
      (cloner.runAll lib storageMounts tokens repositories)
      (fun tokens' => Idle reply store cloner tokens')
      (fun _ history => credentialsAfter reply store history = none) := by
  induction repositories generalizing tokens with
  | nil => exact triple_ret fun _ h => h
  | cons repository repositories ih =>
    apply Triple.bind (fun tokens' => Idle reply store cloner tokens')
    · intro history hidle
      have hout := between_runHelper hstore hunlink storageMounts history
        (hidle.between lib repository)
      rcases hrun : (cloner.runHelper lib tokens storageMounts repository).run (recorded reply)
        history with ⟨e | tokens', history'⟩ <;> rw [hrun] at hout
      · exact hout.absent
      · exact ⟨hout.1.absent, hout.1.left, hout.2⟩
    · exact fun tokens' => ih

end Steps

/-! ### Every repository of a run -/

theorem temporary_of_mem {lib : PyLibrary} {repository : Repository} {setting : String}
    (h : setting ∈ temporarySettings lib repository) : Temporary setting := by
  unfold temporarySettings at h
  split at h
  · rcases List.mem_cons.mp h with rfl | h
    · exact Or.inl rfl
    · rw [List.mem_singleton.mp h]
      exact Or.inr (by rw [String.toList_append]; exact List.prefix_append _ _)
  · exact Or.inl (List.mem_singleton.mp h)

/-- Whether `run_helper` returns or raises, the credentials of the repository are removed, and no
others were in the file meanwhile. -/
theorem runHelper_cleanedUp (reply : List CloneCall → (c : CloneCall) → c.Reply)
    (store : CredentialStore) (lib : PyLibrary) (cloner : GitCloner) (storageMounts : List String)
    (repository : Repository) (tokens : GitCloner.AccessTokens) (history : List CloneCall)
    (hstore : StoreRewrites store)
    (hunlink : ∀ past, reply past (.unlink GitCloner.credentialLoc) = .ok ())
    (hreaches : Reaches reply lib cloner storageMounts repository tokens history) :
    CleanedUp reply store lib cloner repository history
      ((cloner.runHelper lib tokens storageMounts repository).run (recorded reply) history).2 := by
  obtain ⟨earlier, later, -, hrun⟩ := hreaches
  have hidle : Idle reply store cloner tokens history :=
    (idle_runAll hstore hunlink lib storageMounts earlier).value idle_nil hrun
  have hhelper : Triple (recorded reply)
      (Between reply store lib cloner repository history tokens)
      (cloner.runHelper lib tokens storageMounts repository)
      (fun _ => Safe reply store lib cloner repository history)
      (fun _ => Safe reply store lib cloner repository history) :=
    (between_runHelper hstore hunlink storageMounts).weaken (fun _ h => h) (fun _ _ h => h.1)
      fun _ _ h => h
  have hsafe := hhelper.state (hidle.between lib repository)
  refine ⟨hsafe.absent, ?_, hsafe.own⟩
  intro hunsets setting hsetting hmem
  cases hsafe.left _ setting (temporary_of_mem hsetting) hunsets hmem

/-! ### Two repositories of one provider -/

def privateRepository (name : String) : Repository where
  url := "https://gitlab.com/alice/" ++ name
  dirname := name
  absolutePath := (PosixPath.ofString "/work").child [name]
  provider := some "gitlab"
  branch := some "main"
  commitSha := none

def privateCloner : GitCloner where
  mountPath := .ofString "/work"
  gitProviders := [⟨"gitlab", "https://renkulab.io/api/gitlab/token"⟩]
  user := ⟨none, none, some "renku-token"⟩
  repositories := [privateRepository "project", privateRepository "notes"]
  lfsAutoFetch := false
  isGitProxyEnabled := false
  proxyUrl := "http://localhost:8080"

def privateLibrary : PyLibrary where
  rejects := fun _ => false
  lower := List.map Char.toLower
  urljoin := fun base rest => .ok (base ++ rest)
  loads := fun _ => .error "JSONDecodeError"
  traceback := fun name => name

/-- The provider gives a token, and the second repository cannot be fetched. -/
def privateReply (_ : List CloneCall) : (c : CloneCall) → c.Reply
  | .pathExists _ _ => .ok true
  | .mkdir _ => .ok ()
  | .git dir args =>
    if args = ["rev-parse", "--is-inside-work-tree"] ∨
        (args = ["fetch", "origin"] ∧ dir = .ofString "/work/notes") then .ok ⟨128, "", "fatal"⟩
    else .ok ⟨0, "", ""⟩
  | .openWrite _ => .ok ()
  | .openAppend _ => .ok ()
  | .write _ _ => .ok ()
  | .unlink _ => .ok ()
  | .getToken _ _ => .ok ⟨200, .ok (some "gitlab-token")⟩
  | .diskFree _ => .ok 0
  | .rmtree _ => ()

/-- A git that leaves the file to the cloner. -/
def untouched : CredentialStore := fun _ _ _ file => file

theorem unfetched_cleanedUp :
    ∃ tokens history, Reaches privateReply privateLibrary privateCloner []
        (privateRepository "notes") tokens history ∧
      CleanedUp privateReply untouched privateLibrary privateCloner (privateRepository "notes")
        history ((privateCloner.runHelper privateLibrary tokens [] (privateRepository "notes")).run
          (recorded privateReply) history).2 := by
  have hstore : StoreRewrites untouched :=
    { absent := fun _ _ _ => rfl
      entries := fun _ _ _ before after heq => by cases heq; exact List.Subset.refl before }
  obtain ⟨tokens, history, hrun⟩ : ∃ tokens history,
      (privateCloner.runAll privateLibrary [] [] [privateRepository "project"]).run
        (recorded privateReply) [] = (.ok tokens, history) := ⟨_, _, rfl⟩
  have hreaches : Reaches privateReply privateLibrary privateCloner []
      (privateRepository "notes") tokens history :=
    ⟨[privateRepository "project"], [], rfl, hrun⟩
  exact ⟨tokens, history, hreaches,
    runHelper_cleanedUp privateReply untouched privateLibrary privateCloner [] _ tokens history
      hstore (fun _ => rfl) hreaches⟩

end RenkuNotebooks.GitServices
