import RenkuNotebooks.Foundation.Results
import RenkuNotebooks.GitServices.CloneCalls

/-!
# The requests for access tokens

The cloner sends the user's own token to the URLs of its configured providers and to no other.
-/

namespace RenkuNotebooks.GitServices

open Prog

/-- Anything but a request for a token, which goes to one of these URLs. -/
def AsksAt (urls : String → Prop) : CloneCall → Prop
  | .getToken url _ => urls url
  | _ => True

section Asks

variable {urls : String → Prop} {repository : Repository} {α : Type}

theorem asksAt_command {args : List String} :
    (repository.gitCli args).Calls (AsksAt urls) :=
  calls_git trivial

theorem asksAt_openGitCli : repository.openGitCli.Calls (AsksAt urls) := by
  apply Calls.bind (calls_call (.pathExists _ _) trivial)
  intro present
  apply Calls.bind (calls_onlyIf (calls_call (.mkdir _) trivial))
  intro _
  apply Calls.bind (calls_call (.pathExists _ _) trivial)
  intro present
  exact calls_onlyIf trivial

theorem asksAt_repoExists : repository.repoExists.Calls (AsksAt urls) := by
  apply calls_exceptGitCommand
  · apply Calls.bind asksAt_openGitCli
    intro _
    exact Calls.bind asksAt_command fun _ => trivial
  · exact fun _ => trivial

theorem asksAt_configure (setting : String) (value : Option String) :
    (GitCloner.configure repository setting value).Calls (AsksAt urls) := by
  cases value with
  | none => trivial
  | some value => exact Calls.bind asksAt_command fun _ => trivial

theorem asksAt_initializeRepo (cloner : GitCloner) :
    (cloner.initializeRepo repository).Calls (AsksAt urls) := by
  apply Calls.bind asksAt_command
  intro _
  apply Calls.bind (asksAt_configure _ _)
  intro _
  apply Calls.bind (asksAt_configure _ _)
  intro _
  exact Calls.bind asksAt_command fun _ => trivial

theorem asksAt_excludeStoragesFromGit (storages : List String) :
    (GitCloner.excludeStoragesFromGit repository storages).Calls (AsksAt urls) := by
  unfold GitCloner.excludeStoragesFromGit
  split
  · trivial
  · apply Calls.bind (calls_call (.openAppend _) trivial)
    exact fun _ => calls_call (.write _ _) trivial

theorem asksAt_getLfsTotalSizeBytes (lib : PyLibrary) :
    (GitCloner.getLfsTotalSizeBytes lib repository).Calls (AsksAt urls) := by
  apply Calls.bind
  · apply calls_exceptGitCommand
    · exact Calls.bind asksAt_command fun _ => trivial
    · exact fun _ => trivial
  · rintro (_ | res)
    · trivial
    · apply Calls.bind calls_ofReply
      intro resJson
      cases GitCloner.lfsTotalSize resJson <;> trivial

theorem asksAt_getDefaultBranch :
    (GitCloner.getDefaultBranch repository).Calls (AsksAt urls) := by
  apply Calls.bind
  · apply calls_exceptGitCommand
    · exact Calls.bind asksAt_command fun _ => asksAt_command
    · exact fun _ => trivial
  · intro res
    cases GitCloner.matchRemoteHead res <;> trivial

theorem asksAt_chosenBranch : (GitCloner.chosenBranch repository).Calls (AsksAt urls) := by
  unfold GitCloner.chosenBranch
  split
  · split
    · trivial
    · exact asksAt_getDefaultBranch
  · exact asksAt_getDefaultBranch

theorem asksAt_checkout (branch : String) :
    (GitCloner.checkout repository branch).Calls (AsksAt urls) := by
  apply calls_exceptGitCommand
  · exact Calls.bind asksAt_command fun _ => trivial
  · intro output
    split <;> trivial

theorem asksAt_pullLfs (lib : PyLibrary) :
    (GitCloner.pullLfs lib repository).Calls (AsksAt urls) := by
  apply Calls.bind (asksAt_getLfsTotalSizeBytes lib)
  intro size
  apply Calls.bind (calls_call (.diskFree _) trivial)
  intro free
  show Calls _ (if _ then _ else _)
  split
  · trivial
  · apply Calls.bind asksAt_command
    intro _
    exact Calls.bind asksAt_command fun _ => trivial

theorem asksAt_updateSubmodules :
    (GitCloner.updateSubmodules repository).Calls (AsksAt urls) := by
  apply calls_exceptGitCommand
  · apply Calls.bind asksAt_command
    intro _
    exact Calls.bind asksAt_command fun _ => trivial
  · exact fun _ => trivial

theorem asksAt_clone (lib : PyLibrary) (cloner : GitCloner) :
    (cloner.clone lib repository).Calls (AsksAt urls) := by
  apply Calls.bind asksAt_command
  intro _
  apply Calls.bind asksAt_command
  intro _
  apply Calls.bind
  · exact calls_exceptGitCommand asksAt_command fun _ => trivial
  · intro _
    apply Calls.bind asksAt_chosenBranch
    intro branch
    apply Calls.bind (asksAt_checkout branch)
    intro _
    apply Calls.bind (calls_onlyIf (asksAt_pullLfs lib))
    exact fun _ => asksAt_updateSubmodules

theorem asksAt_setupProxy (cloner : GitCloner) :
    (cloner.setupProxy repository).Calls (AsksAt urls) := by
  apply calls_onlyIf
  apply Calls.bind asksAt_command
  intro _
  exact Calls.bind asksAt_command fun _ => trivial

theorem asksAt_removeCredentials (lfsAuthSetting : String) :
    (GitCloner.removeCredentials repository lfsAuthSetting).Calls (AsksAt urls) := by
  apply Calls.bind (calls_call (.unlink _) trivial)
  intro _
  apply calls_exceptGitCommand
  · apply Calls.bind asksAt_command
    intro _
    exact Calls.bind asksAt_command fun _ => trivial
  · exact fun _ => trivial

theorem asksAt_withTempPlaintextCredentials (lib : PyLibrary) (gitUser gitAccessToken : String)
    {body : CloneProg Unit} (hbody : body.Calls (AsksAt urls)) :
    (GitCloner.withTempPlaintextCredentials lib repository gitUser gitAccessToken body).Calls
      (AsksAt urls) := by
  apply Calls.bind calls_ofReply
  intro lfsAccess
  apply Calls.finallyDo
  · apply Calls.bind (calls_call (.openWrite _) trivial)
    intro _
    apply Calls.bind calls_ofReply
    intro parsed
    apply Calls.bind (calls_call (.write _ _) trivial)
    intro _
    apply Calls.bind asksAt_command
    intro _
    apply Calls.bind asksAt_command
    exact fun _ => hbody
  · exact asksAt_removeCredentials _

theorem asksAt_cloneAndReset (lib : PyLibrary) (cloner : GitCloner)
    (gitAccessToken : Option String) :
    (cloner.cloneAndReset lib repository gitAccessToken).Calls (AsksAt urls) := by
  apply Calls.bind
  · cases gitAccessToken with
    | none => exact asksAt_clone lib cloner
    | some token =>
      show Calls _ (if _ then _ else _)
      split
      · exact asksAt_clone lib cloner
      · exact asksAt_withTempPlaintextCredentials lib _ _ (asksAt_clone lib cloner)
  · intro _
    apply calls_onlyIf
    exact Calls.bind asksAt_command fun _ => trivial

theorem asksAt_handleCloneError (lib : PyLibrary) (e : CloneError) :
    (GitCloner.handleCloneError lib repository e).Calls (AsksAt urls) := by
  cases e with
  | gitFetch =>
    apply Calls.bind (calls_call (.openWrite _) trivial)
    intro _
    apply Calls.bind (calls_call (.write _ _) trivial)
    exact fun _ => trivial
  | _ => trivial

theorem asksAt_checkStorageMounts (mounts : List String) :
    (GitCloner.checkStorageMounts mounts).Calls (AsksAt urls) := by
  induction mounts with
  | nil => trivial
  | cons mount mounts ih =>
    apply Calls.bind (calls_call (.pathExists _ _) trivial)
    intro present
    cases present with
    | true => trivial
    | false => exact ih

end Asks

section Configured

variable {urls : String → Prop} {cloner : GitCloner}
  (hproviders : ∀ p ∈ cloner.gitProviders, urls p.accessTokenUrl)
include hproviders

theorem asksAt_getAccessToken (tokens : GitCloner.AccessTokens) (providerId : String) :
    (cloner.getAccessToken tokens providerId).Calls (AsksAt urls) := by
  unfold GitCloner.getAccessToken
  split
  · trivial
  · split
    · trivial
    · rename_i provider hfind
      have hprovider : provider ∈ cloner.gitProviders :=
        List.mem_reverse.mp (List.mem_of_find?_eq_some hfind)
      apply Calls.bind (calls_call (.getToken _ _) (hproviders provider hprovider))
      intro response
      show Calls _ (if _ then _ else _)
      split
      · trivial
      · exact Calls.bind calls_ofReply fun _ => trivial

theorem asksAt_runHelper (lib : PyLibrary) (tokens : GitCloner.AccessTokens)
    (storageMounts : List String) (repository : Repository) :
    (cloner.runHelper lib tokens storageMounts repository).Calls (AsksAt urls) := by
  apply Calls.bind asksAt_repoExists
  intro present
  split
  · exact Calls.bind (asksAt_setupProxy cloner) fun _ => trivial
  · apply Calls.bind
    · unfold GitCloner.repositoryToken
      split
      · split
        · exact asksAt_getAccessToken hproviders tokens _
        · trivial
      · trivial
    rintro ⟨gitAccessToken, tokens'⟩
    apply Calls.bind (asksAt_initializeRepo cloner)
    intro _
    apply Calls.bind
    · apply Calls.tryCatch
      · exact Calls.bind (asksAt_cloneAndReset lib cloner gitAccessToken) fun _ => trivial
      · exact asksAt_handleCloneError lib
    · intro goOn
      split
      · apply Calls.bind (asksAt_checkStorageMounts storageMounts)
        intro _
        apply Calls.bind (asksAt_excludeStoragesFromGit storageMounts)
        intro _
        exact Calls.bind (asksAt_setupProxy cloner) fun _ => trivial
      · trivial

theorem asksAt_runAll (lib : PyLibrary) (storageMounts : List String)
    (repositories : List Repository) (tokens : GitCloner.AccessTokens) :
    (cloner.runAll lib storageMounts tokens repositories).Calls (AsksAt urls) := by
  induction repositories generalizing tokens with
  | nil => trivial
  | cons repository repositories ih =>
    exact Calls.bind (asksAt_runHelper hproviders lib tokens storageMounts repository) ih

end Configured

/-- The cloner has the repositories and the providers of its configuration. -/
theorem GitCloner.of_fromConfig {lib : PyLibrary} {random : Nat → String} {config : Config}
    {cloner : GitCloner} (h : GitCloner.fromConfig lib random config = .ok cloner) :
    cloner.gitProviders = config.gitProviders ∧ cloner.user = config.user ∧
      ∀ r ∈ cloner.repositories, ∃ data ∈ config.repositories,
        r.url = data.url ∧ r.provider = data.provider := by
  obtain ⟨repositories, hrepositories, h⟩ := Results.bind_eq_ok_iff.mp h
  cases h
  refine ⟨rfl, rfl, ?_⟩
  intro r hr
  obtain ⟨⟨data, i⟩, hdata, hr⟩ :=
    Results.exists_of_mem_forall2 (Results.forall2_of_mapM_eq_ok hrepositories) hr
  obtain ⟨dirname, _, hr⟩ := Results.bind_eq_ok_iff.mp hr
  cases hr
  exact ⟨data, List.fst_mem_of_mem_zipIdx hdata, rfl, rfl⟩

/-- The main script asks for tokens at the URLs of its configuration. -/
theorem asksAt_cloneMain {urls : String → Prop} {config : Config}
    (hproviders : ∀ p ∈ config.gitProviders, urls p.accessTokenUrl) (lib : PyLibrary)
    (random : Nat → String) : (cloneMain lib random config).Calls (AsksAt urls) := by
  apply Calls.tryCatch
  · apply calls_ofExcept_bind
    intro cloner hcloner
    have hfrom : GitCloner.fromConfig lib random config = .ok cloner := by
      cases hconfig : GitCloner.fromConfig lib random config with
      | error e =>
        rw [hconfig] at hcloner
        cases hcloner
      | ok cloner' =>
        rw [hconfig] at hcloner
        cases hcloner
        rfl
    have hcloners : ∀ p ∈ cloner.gitProviders, urls p.accessTokenUrl := by
      rw [(GitCloner.of_fromConfig hfrom).1]
      exact hproviders
    exact Calls.bind (asksAt_runAll hcloners lib _ _ _) fun _ => trivial
  · intro e
    exact ⟨trivial, fun _ => trivial⟩

end RenkuNotebooks.GitServices
