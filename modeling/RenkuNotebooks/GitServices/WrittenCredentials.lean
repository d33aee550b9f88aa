import RenkuNotebooks.GitServices.TemporaryCredentials
import RenkuNotebooks.GitServices.TokenRequests

/-!
# What is written into the credentials file

Each text that a run of the main script writes into the file is the credential of one of its
repositories, with a token that the repository's provider has given before.
-/

namespace RenkuNotebooks.GitServices

open Prog

section Written

variable {reply : List CloneCall → (c : CloneCall) → c.Reply} {lib : PyLibrary}
  {cloner : GitCloner} {repository : Repository} {tokens : GitCloner.AccessTokens}
  {history : List CloneCall} {c : CloneCall} {α : Type}

/-- At the time of each write into the file, the text was the credential of a repository. -/
def WrittenOwn (reply : List CloneCall → (c : CloneCall) → c.Reply) (lib : PyLibrary)
    (cloner : GitCloner) (history : List CloneCall) : Prop :=
  ∀ past path text, past ++ [.write path text] <+: history → LeadsToFile path →
    ∃ repository ∈ cloner.repositories, CredentialOf reply lib cloner past repository text

theorem writtenOwn_nil : WrittenOwn reply lib cloner [] := by
  intro past path text hpast
  cases past <;> cases List.prefix_nil.mp hpast

theorem WrittenOwn.concat (h : WrittenOwn reply lib cloner history)
    (hc : ∀ path text, c = .write path text → LeadsToFile path →
      ∃ repository ∈ cloner.repositories, CredentialOf reply lib cloner history repository text) :
    WrittenOwn reply lib cloner (history ++ [c]) := by
  intro past path text hpast hfile
  rcases List.prefix_concat_iff.mp hpast with heq | hpast
  · obtain ⟨rfl, hlast⟩ := List.append_inj' heq rfl
    exact hc path text (List.cons.inj hlast).1.symm hfile
  · exact h past path text hpast hfile

theorem WrittenOwn.leaves (h : WrittenOwn reply lib cloner history) (hc : LeavesFile c) :
    WrittenOwn reply lib cloner (history ++ [c]) := by
  apply h.concat
  rintro path text rfl hfile
  exact absurd hfile hc

theorem triple_writtenOwn {p : CloneProg α} (hp : p.Calls Leaves) :
    Triple (recorded reply) (WrittenOwn reply lib cloner) p
      (fun _ => WrittenOwn reply lib cloner) (fun _ => WrittenOwn reply lib cloner) :=
  hp.triple fun _ _ hc h => h.leaves hc.1

/-! ### The tokens that are known -/

theorem granted_getAccessToken (providerId : String) :
    Triple (recorded reply) (TokensGranted reply cloner tokens)
      (cloner.getAccessToken tokens providerId)
      (fun found history => TokensGranted reply cloner found.2 history ∧
        ∀ token, found.1 = some token → Granted reply cloner history providerId token)
      (fun _ _ => True) := by
  unfold GitCloner.getAccessToken
  split
  · rename_i known hknown
    apply triple_ret
    intro history hhistory
    refine ⟨hhistory, fun token htoken => ?_⟩
    exact hhistory providerId token (mem_of_lookup (hknown.trans (congrArg some htoken)))
  · split
    · exact triple_ret fun history hhistory => ⟨hhistory, nofun⟩
    · rename_i provider hprovider
      rw [bind_eq, CloneProg.getToken, bind_assoc]
      apply Triple.bind fun r history => ∃ past, TokensGranted reply cloner tokens past ∧
        history = past ++ [.getToken provider.accessTokenUrl (cloner.user.renkuToken.getD "None")] ∧
        r = reply past (.getToken provider.accessTokenUrl (cloner.user.renkuToken.getD "None"))
      · exact triple_perform fun history hhistory => ⟨history, hhistory, rfl, rfl⟩
      · rintro (text | res)
        · exact triple_raise fun _ _ => trivial
        · show Triple _ _ (if _ then _ else _) _ _
          split
          · apply triple_ret
            rintro _ ⟨past, hpast, rfl, -⟩
            exact ⟨hpast.mono (List.prefix_append _ _), nofun⟩
          · -- a token that is returned and remembered has just been given
            apply Triple.bind fun token history => TokensGranted reply cloner tokens history ∧
              ∀ known, token = some known → Granted reply cloner history providerId known
            · apply triple_ofExcept
              · rintro token _ htoken ⟨past, hpast, rfl, hreply⟩
                refine ⟨hpast.mono (List.prefix_append _ _), ?_⟩
                rintro known rfl
                have hgiven : res.accessToken = .ok (some known) := by
                  cases hres : res.accessToken with
                  | error text =>
                    rw [hres] at htoken
                    cases htoken
                  | ok given =>
                    rw [hres] at htoken
                    cases htoken
                    rfl
                exact ⟨past, provider, _, res, List.prefix_rfl, hprovider, hreply.symm, hgiven⟩
              · exact fun _ _ _ _ => trivial
            · intro token
              apply triple_ret
              rintro history ⟨hhistory, hgranted⟩
              refine ⟨?_, hgranted⟩
              intro providerId' known hmem
              rcases List.mem_cons.mp hmem with heq | hmem
              · cases heq
                exact hgranted known rfl
              · exact hhistory providerId' known hmem

theorem granted_repositoryToken :
    Triple (recorded reply) (TokensGranted reply cloner tokens)
      (cloner.repositoryToken tokens repository)
      (fun found history => TokensGranted reply cloner found.2 history ∧
        TokenGranted reply cloner repository found.1 history)
      (fun _ _ => True) := by
  unfold GitCloner.repositoryToken
  split
  · rename_i providerId hprovider
    split
    · apply (granted_getAccessToken providerId).weaken (fun _ h => h) ?_ (fun _ _ h => h)
      rintro found history ⟨htokens, hgranted⟩
      exact ⟨htokens, fun token htoken => ⟨providerId, hprovider, hgranted token htoken⟩⟩
    · exact triple_ret fun history hhistory => ⟨hhistory, nofun⟩
  · exact triple_ret fun history hhistory => ⟨hhistory, nofun⟩

/-! ### The write -/

theorem written_withTempPlaintextCredentials (hrepository : repository ∈ cloner.repositories)
    {providerId token : String} (hprovider : repository.provider = some providerId)
    {body : CloneProg Unit} (hbody : body.Calls Leaves) :
    Triple (recorded reply)
      (fun history => WrittenOwn reply lib cloner history ∧
        Granted reply cloner history providerId token)
      (GitCloner.withTempPlaintextCredentials lib repository "oauth2" token body)
      (fun _ => WrittenOwn reply lib cloner) (fun _ => WrittenOwn reply lib cloner) := by
  have hremove : ∀ lfsAuthSetting, Triple (recorded reply) (WrittenOwn reply lib cloner)
      (GitCloner.removeCredentials repository lfsAuthSetting)
      (fun _ => WrittenOwn reply lib cloner) (fun _ => WrittenOwn reply lib cloner) := by
    intro lfsAuthSetting
    have hcalls : (GitCloner.removeCredentials repository lfsAuthSetting).Calls LeavesFile := by
      apply Calls.bind (calls_call (.unlink _) trivial)
      intro _
      apply calls_exceptGitCommand
      · apply Calls.bind (calls_git trivial)
        intro _
        exact Calls.bind (calls_git trivial) fun _ => trivial
      · exact fun _ => trivial
    exact hcalls.triple fun _ _ hc h => h.leaves hc
  apply Triple.bind fun _ history => WrittenOwn reply lib cloner history ∧
    Granted reply cloner history providerId token
  · exact triple_ofExcept (fun _ _ _ h => h) fun _ _ _ h => h.1
  intro lfsAccess
  apply Triple.finallyDo (fun _ => WrittenOwn reply lib cloner)
    (fun _ => WrittenOwn reply lib cloner) _ (fun _ => hremove _) (fun _ => hremove _)
  apply Triple.bind fun _ history => WrittenOwn reply lib cloner history ∧
    Granted reply cloner history providerId token
  · apply Triple.bind fun _ history => WrittenOwn reply lib cloner history ∧
      Granted reply cloner history providerId token
    · apply triple_perform
      rintro history ⟨hwritten, hgranted⟩
      exact ⟨hwritten.concat nofun, hgranted.mono (List.prefix_append _ _)⟩
    · exact fun _ => triple_ofExcept (fun _ _ _ h => h) fun _ _ _ h => h.1
  · intro _
    apply Triple.bind fun parsed history => WrittenOwn reply lib cloner history ∧
      CredentialOf reply lib cloner history repository
        ("https://" ++ "oauth2" ++ ":" ++ token ++ "@" ++ String.ofList parsed.netloc)
    · apply triple_ofExcept
      · rintro parsed history hparsed ⟨hwritten, hgranted⟩
        refine ⟨hwritten, providerId, token, parsed, hprovider, hgranted, ?_, rfl⟩
        cases hurl : PyUrl.urlparse lib.rejects repository.url with
        | error text =>
          rw [hurl] at hparsed
          cases hparsed
        | ok parsed' =>
          rw [hurl] at hparsed
          cases hparsed
          rfl
      · exact fun _ _ _ h => h.1
    · intro parsed
      apply Triple.bind fun _ => WrittenOwn reply lib cloner
      · apply Triple.bind fun _ => WrittenOwn reply lib cloner
        · apply triple_perform
          rintro history ⟨hwritten, hcredential⟩
          apply hwritten.concat
          rintro path text heq -
          cases heq
          exact ⟨repository, hrepository, hcredential⟩
        · exact fun _ => triple_ofExcept (fun _ _ _ h => h) fun _ _ _ h => h
      · intro _
        have hgit : ∀ args, Triple (recorded reply) (WrittenOwn reply lib cloner)
            (repository.gitCli args) (fun _ => WrittenOwn reply lib cloner)
            (fun _ => WrittenOwn reply lib cloner) := by
          intro args
          have hcalls : (repository.gitCli args).Calls LeavesFile := calls_git trivial
          exact hcalls.triple fun _ _ hc h => h.leaves hc
        apply Triple.bind _ (hgit _)
        intro _
        apply Triple.bind _ (hgit _)
        exact fun _ => triple_writtenOwn hbody

/-! ### A repository, and all of them -/

theorem written_cloneAndReset (hrepository : repository ∈ cloner.repositories)
    (gitAccessToken : Option String) :
    Triple (recorded reply)
      (fun history => WrittenOwn reply lib cloner history ∧
        TokenGranted reply cloner repository gitAccessToken history)
      (cloner.cloneAndReset lib repository gitAccessToken)
      (fun _ => WrittenOwn reply lib cloner) (fun _ => WrittenOwn reply lib cloner) := by
  have hallows := leaves_allowsClone repository
  have hclone : Triple (recorded reply) (WrittenOwn reply lib cloner)
      (cloner.clone lib repository) (fun _ => WrittenOwn reply lib cloner)
      (fun _ => WrittenOwn reply lib cloner) :=
    triple_writtenOwn (calls_clone hallows lib cloner)
  apply Triple.bind fun _ => WrittenOwn reply lib cloner
  · cases gitAccessToken with
    | none => exact hclone.weaken (fun _ h => h.1) (fun _ _ h => h) fun _ _ h => h
    | some token =>
      show Triple _ _ (if _ then _ else _) _ _
      split
      · exact hclone.weaken (fun _ h => h.1) (fun _ _ h => h) fun _ _ h => h
      · rintro history ⟨hwritten, hgranted⟩
        obtain ⟨providerId, hprovider, hgranted⟩ := hgranted token rfl
        exact written_withTempPlaintextCredentials hrepository hprovider
          (calls_clone hallows lib cloner) history ⟨hwritten, hgranted⟩
  · exact fun _ => triple_writtenOwn (calls_reset hallows (repository.commitSha.getD ""))

/-- Between two repositories. -/
def WrittenSoFar (reply : List CloneCall → (c : CloneCall) → c.Reply) (lib : PyLibrary)
    (cloner : GitCloner) (tokens : GitCloner.AccessTokens) (history : List CloneCall) : Prop :=
  WrittenOwn reply lib cloner history ∧ TokensGranted reply cloner tokens history

theorem triple_writtenSoFar {p : CloneProg α} (hp : p.Calls Leaves) :
    Triple (recorded reply) (WrittenSoFar reply lib cloner tokens) p
      (fun _ => WrittenSoFar reply lib cloner tokens) (fun _ => WrittenOwn reply lib cloner) := by
  have hgranted : Triple (recorded reply) (TokensGranted reply cloner tokens) p
      (fun _ => TokensGranted reply cloner tokens)
      (fun _ => TokensGranted reply cloner tokens) :=
    (calls_true p).triple fun _ _ _ h => h.mono (List.prefix_append _ _)
  exact ((triple_writtenOwn hp).and hgranted).weaken (fun _ h => h) (fun _ _ h => h)
    fun _ _ h => h.1

theorem written_runHelper (hrepository : repository ∈ cloner.repositories)
    (storageMounts : List String) :
    Triple (recorded reply) (WrittenSoFar reply lib cloner tokens)
      (cloner.runHelper lib tokens storageMounts repository)
      (fun tokens' => WrittenSoFar reply lib cloner tokens')
      (fun _ => WrittenOwn reply lib cloner) := by
  have hallows := leaves_allowsClone repository
  apply Triple.bind _
    (triple_writtenSoFar (calls_repoExists hallows (leaves_command _ (by decide))))
  intro present
  split
  · apply Triple.bind _ (triple_writtenSoFar (calls_setupProxy hallows cloner))
    exact fun _ => triple_ret fun _ h => h
  · apply Triple.bind fun found history => WrittenSoFar reply lib cloner found.2 history ∧
      TokenGranted reply cloner repository found.1 history
    · have hwritten : Triple (recorded reply) (WrittenOwn reply lib cloner)
          (cloner.repositoryToken tokens repository) (fun _ => WrittenOwn reply lib cloner)
          (fun _ => WrittenOwn reply lib cloner) :=
        triple_writtenOwn (calls_repositoryToken hallows cloner tokens repository)
      exact (hwritten.and granted_repositoryToken).weaken (fun _ h => h)
        (fun _ _ h => ⟨⟨h.1, h.2.1⟩, h.2.2⟩) fun _ _ h => h.1
    rintro ⟨gitAccessToken, tokens'⟩
    apply Triple.bind fun _ history => WrittenSoFar reply lib cloner tokens' history ∧
      TokenGranted reply cloner repository gitAccessToken history
    · have hgranted : Triple (recorded reply)
          (TokenGranted reply cloner repository gitAccessToken) (cloner.initializeRepo repository)
          (fun _ => TokenGranted reply cloner repository gitAccessToken)
          (fun _ => TokenGranted reply cloner repository gitAccessToken) :=
        (calls_true _).triple fun _ _ _ h => h.mono (List.prefix_append _ _)
      exact ((triple_writtenSoFar (calls_initializeRepo hallows cloner)).and hgranted).weaken
        (fun _ h => h) (fun _ _ h => h) fun _ _ h => h.1
    · intro _
      have hclone : Triple (recorded reply)
          (fun history => WrittenSoFar reply lib cloner tokens' history ∧
            TokenGranted reply cloner repository gitAccessToken history)
          (cloner.cloneAndReset lib repository gitAccessToken)
          (fun _ => WrittenSoFar reply lib cloner tokens')
          (fun _ => WrittenSoFar reply lib cloner tokens') := by
        have hgranted : Triple (recorded reply) (TokensGranted reply cloner tokens')
            (cloner.cloneAndReset lib repository gitAccessToken)
            (fun _ => TokensGranted reply cloner tokens')
            (fun _ => TokensGranted reply cloner tokens') :=
          (calls_true _).triple fun _ _ _ h => h.mono (List.prefix_append _ _)
        exact ((written_cloneAndReset hrepository gitAccessToken).and hgranted).weaken
          (fun _ h => ⟨⟨h.1.1, h.2⟩, h.1.2⟩) (fun _ _ h => h) fun _ _ h => h
      apply Triple.bind fun _ => WrittenSoFar reply lib cloner tokens'
      · apply Triple.tryCatch fun _ => WrittenSoFar reply lib cloner tokens'
        · exact Triple.bind _ hclone fun _ => triple_ret fun _ h => h
        · exact fun e => triple_writtenSoFar (calls_handleCloneError hallows lib e)
      · intro goOn
        split
        · apply Triple.bind _
            (triple_writtenSoFar (calls_checkStorageMounts hallows storageMounts))
          intro _
          apply Triple.bind _
            (triple_writtenSoFar (calls_excludeStoragesFromGit hallows storageMounts))
          intro _
          apply Triple.bind _ (triple_writtenSoFar (calls_setupProxy hallows cloner))
          exact fun _ => triple_ret fun _ h => h
        · exact triple_ret fun _ h => h

theorem written_runAll (storageMounts : List String) {repositories : List Repository}
    (hrepositories : repositories ⊆ cloner.repositories) :
    Triple (recorded reply) (WrittenSoFar reply lib cloner tokens)
      (cloner.runAll lib storageMounts tokens repositories)
      (fun tokens' => WrittenSoFar reply lib cloner tokens')
      (fun _ => WrittenOwn reply lib cloner) := by
  induction repositories generalizing tokens with
  | nil => exact triple_ret fun _ h => h
  | cons repository repositories ih =>
    apply Triple.bind _
      (written_runHelper (hrepositories List.mem_cons_self) storageMounts)
    exact fun tokens' => ih fun _ h => hrepositories (List.mem_cons_of_mem _ h)

end Written

/-- Each text that a run of the main script writes into the credentials file. -/
theorem credentialOf_of_write {reply : List CloneCall → (c : CloneCall) → c.Reply}
    {lib : PyLibrary} {random : Nat → String} {config : Config} {past : List CloneCall}
    {path : PosixPath} {text : String}
    (h : past ++ [.write path text] <+: ((cloneMain lib random config).run (recorded reply) []).2)
    (hfile : LeadsToFile path) :
    ∃ cloner, GitCloner.fromConfig lib random config = .ok cloner ∧
      ∃ repository ∈ cloner.repositories, CredentialOf reply lib cloner past repository text := by
  cases hconfig : GitCloner.fromConfig lib random config with
  | error e =>
    have hrun : ((cloneMain lib random config).run (recorded reply) []).2 =
        [.rmtree (PosixPath.ofString config.mountPath)] := by
      simp [cloneMain, hconfig, CloneProg.ofReply, Except.mapError, Prog.ofExcept, Prog.bind,
        Prog.tryCatch, handleException, perform, recorded]
    rw [hrun] at h
    cases past with
    | nil => cases (List.cons_prefix_cons.mp h).1
    | cons c past =>
      have hnil := List.prefix_nil.mp (List.cons_prefix_cons.mp h).2
      exact absurd (List.append_eq_nil_iff.mp hnil).2 (List.cons_ne_nil _ _)
  | ok cloner =>
    refine ⟨cloner, rfl, ?_⟩
    have hmain : Triple (recorded reply) (WrittenSoFar reply lib cloner [])
        (cloneMain lib random config) (fun _ => WrittenOwn reply lib cloner)
        (fun _ => WrittenOwn reply lib cloner) := by
      apply Triple.tryCatch fun _ => WrittenOwn reply lib cloner
      · rw [hconfig]
        apply Triple.bind _ (written_runAll config.storageMounts (List.Subset.refl _))
        exact fun _ => triple_ret fun _ h => h.1
      · intro e history hwritten
        apply hwritten.concat
        intro path text heq
        cases heq
    have hstart : WrittenSoFar reply lib cloner [] [] := by
      refine ⟨writtenOwn_nil, ?_⟩
      intro providerId token htoken
      exact (List.not_mem_nil htoken).elim
    exact hmain.state hstart past path text h hfile

end RenkuNotebooks.GitServices
