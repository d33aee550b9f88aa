import RenkuNotebooks.Notebooks.Isolation
import RenkuNotebooks.Notebooks.LaunchChecks

/-!
# Launches for missing projects, branches and commits

The existence checks of a Renku 1.0 session are made when its server is started. The handler uses
the project before that.
-/

namespace RenkuNotebooks.Notebooks

open Prog LaunchChecks

/-- What GitLab tells of a project that the user can see. -/
structure LaunchProject extends GitlabProject where
  httpUrlToRepo : String
  pathWithNamespace : String
  visibility : Option String

/-- A Renku 1.0 launch request, with what GitLab, the image registries and, about the user, the data
service answer. -/
structure Renku1LaunchRequest where
  user : User
  serverName : ServerName
  namespace_ : String
  project : String
  branch : String
  commitSha : String
  /-- The host of the configured GitLab. -/
  gitHost : String
  image : Option String
  options : OptionsRequest
  environmentVariables : List (String × String)
  userSecrets : Option (List String × String)
  cloudstorage : List RCloneStorageRequest
  /-- `user.get_renku_project`; a failure of any kind gives none. -/
  glProject : Option LaunchProject
  branchFound : Bool
  commitFound : Bool
  registry : List HttpGet → HttpGet → Except HttpFault HttpReply
  userAnswers : UserAnswers

namespace Renku1LaunchRequest

variable (config : Config) (library : ImageLibrary) (encryptionKey : String → String → String)
  (services : LaunchServices) (request : Renku1LaunchRequest) (glProject : LaunchProject)

/-- What the choice of the image reads of the project. -/
def imageProject : ImageProject where
  pathWithNamespace := glProject.pathWithNamespace
  visibility := glProject.visibility
  commitSha := request.commitSha

/-- The choice of the image, with the requests that it has made. -/
def chosenImage : Except PyError ChosenImage × List HttpGet :=
  run (recorded request.registry)
    (chooseImage config library request.user.gitToken request.image
      (some (request.imageProject glProject))) []

def imageWorkdir : Except PyError (Option PosixPath) := do
  let chosen ← (request.chosenImage config library glProject).1
  (run (recorded request.registry) (chosen.imageRepo.imageWorkdir library chosen.parsedImage)
    (request.chosenImage config library glProject).2).1

def launchServices : LaunchServices :=
  { services with
    chosenImage := (request.chosenImage config library glProject).1
    imageWorkdir := request.imageWorkdir config library glProject
    userKey := request.userAnswers.getUserKey encryptionKey }

/-- What `launch_notebook` passes on. -/
def inputs : LaunchInputs where
  user := request.user
  serverName := request.serverName
  options := request.options
  environmentVariables := request.environmentVariables
  userSecrets := request.userSecrets
  cloudstorage := request.cloudstorage
  cloudstorageEndpoint := "storage"
  glProjectPath := some glProject.path
  givenRepositories := [{
    url := glProject.httpUrlToRepo, dirname := some glProject.path, branch := some request.branch,
    commitSha := some request.commitSha }]
  kind := .renku1 request.namespace_ request.project request.branch request.commitSha
    request.gitHost (some glProject.toGitlabProject)

/-- The server that is prepared for the request. -/
def prepare : Except PyError UserServer :=
  (request.inputs glProject).prepare config
    (request.launchServices config library encryptionKey services glProject)

end Renku1LaunchRequest

/-- `launch_notebook` -/
def Api.launchNotebook (api : Api) (library : ImageLibrary)
    (encryptionKey : String → String → String) (services : LaunchServices)
    (request : Renku1LaunchRequest) : Service Response :=
  match request.glProject with
  -- `gl_project.path`
  | none => .raise .attributeError
  | some glProject => api.launchNotebookHelper
      ((request.inputs glProject).toRequest api.config
        (request.launchServices api.config library encryptionKey services glProject)
        request.branchFound request.commitFound)

/-! ### What is raised before the start -/

section Raised

variable {k : K8sClient} {name safeUsername : String}

theorem raises_getServerFromApi :
    (k.getServerFromApi name).Raises fun e => ¬ IsMissingResource e := by
  have hget : ∀ ns, (NamespacedK8sClient.getServer ns name).Raises fun e => ¬ IsMissingResource e := by
    intro ns
    apply Raises.bind (raises_perform _)
    rintro ((n | _) | js)
    · dsimp only [exceptApi]
      split
      · trivial
      · exact fun h => nomatch h
    · exact fun h => h
    · trivial
  apply Raises.bind
  · unfold K8sClient.getSessionServer
    split
    · trivial
    · exact hget _
  · intro session
    apply Raises.bind (hget _)
    intro renku
    apply raises_ofExcept
    intro e he
    unfold single at he
    split at he
    · cases he
    · cases he
    · cases he
      exact fun h => nomatch h

theorem raises_getServer :
    (k.getServer name safeUsername).Raises fun e => ¬ IsMissingResource e := by
  have hcache : (JsServerCache.getServer name).Raises fun e => ¬ IsMissingResource e := by
    apply Raises.bind (raises_perform _)
    intro reply
    apply Raises.bind
    · rcases reply with (n | _) | servers
      · exact fun h => nomatch h
      · exact fun h => nomatch h
      · trivial
    · intro output
      apply raises_ofExcept
      intro e he
      unfold single at he
      split at he
      · cases he
      · cases he
      · cases he
        exact fun h => nomatch h
  apply Raises.bind
  · apply Raises.tryCatch hcache
    intro e he
    split
    · exact raises_getServerFromApi
    · exact he
  · exact fun server => trivial

end Raised

/-! ### The start -/

section Start

variable {config : Config} {library : ImageLibrary} {encryptionKey : String → String → String}
  {services : LaunchServices} {request : Renku1LaunchRequest} {glProject : LaunchProject}

theorem prepare_kind {inputs : LaunchInputs} {server : UserServer}
    (h : inputs.prepare config services = .ok server) : server.kind = inputs.kind := by
  obtain ⟨chosen, _, h⟩ := Results.bind_eq_ok_iff.mp h
  obtain ⟨options, _, h⟩ := Results.bind_eq_ok_iff.mp h
  obtain ⟨imageWorkdir, _, h⟩ := Results.bind_eq_ok_iff.mp h
  obtain ⟨userSecretKey, _, h⟩ := Results.bind_eq_ok_iff.mp h
  obtain ⟨storages, _, h⟩ := Results.bind_eq_ok_iff.mp h
  cases h
  rfl

/-- The start finds that the branch or the commit is missing. -/
theorem startManifest_missing {server : UserServer} {py : PyText.Str}
    (h : request.prepare config library encryptionKey services glProject = .ok server)
    (hmissing : request.branchFound = false ∨ request.commitFound = false) :
    ∃ e, server.startManifest config py request.branchFound request.commitFound = .error e ∧
      IsMissingResource e := by
  have herrors : (server.getStartErrors request.branchFound request.commitFound).isEmpty = false := by
    unfold UserServer.getStartErrors
    rw [prepare_kind h]
    rcases hmissing with hbranch | hcommit
    · simp [Renku1LaunchRequest.inputs, hbranch]
    · simp [Renku1LaunchRequest.inputs, hcommit]
  unfold UserServer.startManifest
  dsimp only
  rw [if_neg (by rw [herrors]; decide)]
  exact ⟨_, rfl, rfl⟩

/-- The working directory of the image that the answers of the registries lead to. -/
def FindsWorkdir (config : Config) (library : ImageLibrary) (request : Renku1LaunchRequest)
    (glProject : LaunchProject) (imageWorkdir : Option PosixPath) : Prop :=
  ∃ repo image asked,
    FindsImage config library request.user.gitToken request.registry request.image
      (request.imageProject glProject) repo image asked ∧
    (run (recorded request.registry) (repo.imageWorkdir library image) asked).1 = .ok imageWorkdir

/-- The key of the user is read, where there are storages. -/
def ReadsKey (encryptionKey : String → String → String) (request : Renku1LaunchRequest) : Prop :=
  request.cloudstorage = [] ∨ ∃ key, request.userAnswers.getUserKey encryptionKey = .ok key

/-- The first thing that is not there is the image of the commit, a storage, or, at the start, the
branch or the commit itself. -/
inductive LeadsToMissing (config : Config) (library : ImageLibrary)
    (encryptionKey : String → String → String) (services : LaunchServices)
    (request : Renku1LaunchRequest) (glProject : LaunchProject) : Prop
  | image (hmissing : ImageMissing config library request.user.gitToken request.registry request.image
      (request.imageProject glProject))
  | storage (imageWorkdir : Option PosixPath)
      (hworkdir : FindsWorkdir config library request glProject imageWorkdir)
      (hclass : GetsClass services.crc config.defaultUrl request.user request.options)
      (hkey : ReadsKey encryptionKey request)
      (hmissing : StorageMissing services.validator request.user "storage" request.cloudstorage)
  | start (imageWorkdir : Option PosixPath)
      (hworkdir : FindsWorkdir config library request glProject imageWorkdir)
      (hclass : GetsClass services.crc config.defaultUrl request.user request.options)
      (hkey : ReadsKey encryptionKey request)
      (hstorages : StoragesFit services.validator request.user "storage"
        ((request.inputs glProject).serverWorkDir imageWorkdir).absolute request.cloudstorage)
      (hname : request.user.safeUsername.length ≤ 63)

theorem findsWorkdir_iff {imageWorkdir : Option PosixPath} :
    ((∃ chosen, (request.chosenImage config library glProject).1 = .ok chosen) ∧
        request.imageWorkdir config library glProject = .ok imageWorkdir) ↔
      FindsWorkdir config library request glProject imageWorkdir := by
  constructor
  · rintro ⟨-, h⟩
    obtain ⟨chosen, hchosen, h⟩ := Results.bind_eq_ok_iff.mp h
    exact ⟨_, _, _, (chosenImage_ok_iff config library _ _ _ _ _ _ _).mp
      ⟨chosen, Prod.ext hchosen rfl, rfl, rfl⟩, h⟩
  · rintro ⟨repo, image, asked, hfinds, h⟩
    obtain ⟨chosen, hchosen, rfl, rfl⟩ := (chosenImage_ok_iff config library _ _ _ _ _ _ _).mpr hfinds
    have hrun : request.chosenImage config library glProject = (.ok chosen, asked) := hchosen
    refine ⟨⟨chosen, congrArg Prod.fst hrun⟩, ?_⟩
    unfold Renku1LaunchRequest.imageWorkdir
    rw [hrun]
    exact h

theorem imageWorkdir_not_missing {chosen : ChosenImage}
    (hchosen : (request.chosenImage config library glProject).1 = .ok chosen) :
    ¬ FindsMissing (request.imageWorkdir config library glProject) := by
  unfold Renku1LaunchRequest.imageWorkdir
  rw [hchosen]
  exact LaunchChecks.imageWorkdir_not_missing _ _ _ _ _

theorem readsKey_iff : (∃ key, (request.inputs glProject).userSecretKey
      (request.launchServices config library encryptionKey services glProject) = .ok key) ↔
    ReadsKey encryptionKey request := by
  unfold LaunchInputs.userSecretKey ReadsKey
  change (∃ key, (if request.cloudstorage.isEmpty then _ else _) = _) ↔ _
  cases hcloudstorage : request.cloudstorage with
  | nil => exact iff_of_true ⟨"", rfl⟩ (.inl rfl)
  | cons data rest =>
    rw [List.isEmpty_cons, if_neg Bool.false_ne_true, exists_ok_bind_iff]
    constructor
    · rintro ⟨key, hkey, -⟩
      exact .inr ⟨key, hkey⟩
    · rintro (h | ⟨key, hkey⟩)
      · cases h
      · exact ⟨key, hkey, _, rfl⟩

theorem userSecretKey_not_missing : ¬ FindsMissing ((request.inputs glProject).userSecretKey
    (request.launchServices config library encryptionKey services glProject)) := by
  unfold LaunchInputs.userSecretKey
  split
  · exact not_findsMissing_ok _
  · rw [findsMissing_bind_iff]
    rintro (h | ⟨key, -, h⟩)
    · exact UserAnswers.getUserKey_not_missing _ _ h
    · exact not_findsMissing_ok _ h

theorem parsedServerOptions_not_missing {crc : ResourceService} {options : OptionsRequest}
    {user : User} : ¬ FindsMissing (options.parsedServerOptions crc config.defaultUrl user) := by
  unfold OptionsRequest.parsedServerOptions
  rw [findsMissing_bind_iff]
  rintro (h | ⟨o, -, h⟩)
  · exact classOptions_not_missing options h
  · exact not_findsMissing_ok _ h

theorem parsedServerOptions_ok_iff {crc : ResourceService} {options : OptionsRequest} {user : User} :
    (∃ o, options.parsedServerOptions crc config.defaultUrl user = .ok o) ↔
      GetsClass crc config.defaultUrl user options := by
  rw [← classOptions_ok_iff]
  unfold OptionsRequest.parsedServerOptions
  rw [exists_ok_bind_iff]
  exact exists_congr fun o => and_iff_left ⟨_, rfl⟩

/-- Preparing the server finds a missing resource, or it goes through for a name that is short. -/
def LaunchPrepared (config : Config) (library : ImageLibrary)
    (encryptionKey : String → String → String) (services : LaunchServices)
    (request : Renku1LaunchRequest) (glProject : LaunchProject) : Prop :=
  let prepared := request.prepare config library encryptionKey services glProject
  FindsMissing prepared ∨ (∃ server, prepared = .ok server) ∧ request.user.safeUsername.length ≤ 63

/-- The preparation finds something missing. -/
theorem prepare_missing_iff :
    FindsMissing (request.prepare config library encryptionKey services glProject) ↔
      ImageMissing config library request.user.gitToken request.registry request.image
        (request.imageProject glProject) ∨
      ∃ imageWorkdir, FindsWorkdir config library request glProject imageWorkdir ∧
        GetsClass services.crc config.defaultUrl request.user request.options ∧
        ReadsKey encryptionKey request ∧
        StorageMissing services.validator request.user "storage" request.cloudstorage := by
  unfold Renku1LaunchRequest.prepare LaunchInputs.prepare
  rw [findsMissing_bind_iff]
  constructor
  · rintro (himage | ⟨chosen, hchosen, h⟩)
    · exact .inl ((chosenImage_missing_iff config library _ _ _ _).mp himage)
    rcases findsMissing_bind_iff.mp h with h | ⟨options, hoptions, h⟩
    · exact absurd h parsedServerOptions_not_missing
    rcases findsMissing_bind_iff.mp h with h | ⟨imageWorkdir, hworkdir, h⟩
    · exact absurd h (imageWorkdir_not_missing hchosen)
    rcases findsMissing_bind_iff.mp h with h | ⟨key, hkey, h⟩
    · exact absurd h userSecretKey_not_missing
    rcases findsMissing_bind_iff.mp h with h | ⟨storages, -, h⟩
    · exact .inr ⟨imageWorkdir, findsWorkdir_iff.mp ⟨⟨chosen, hchosen⟩, hworkdir⟩,
        parsedServerOptions_ok_iff.mp ⟨options, hoptions⟩, readsKey_iff.mp ⟨key, hkey⟩,
        mountStorages_missing_iff.mp h⟩
    · exact absurd h (not_findsMissing_ok _)
  · rintro (himage | ⟨imageWorkdir, hworkdir, hclass, hkey, hstorage⟩)
    · exact .inl ((chosenImage_missing_iff config library _ _ _ _).mpr himage)
    obtain ⟨⟨chosen, hchosen⟩, hworkdir⟩ := findsWorkdir_iff.mpr hworkdir
    obtain ⟨options, hoptions⟩ := parsedServerOptions_ok_iff.mpr hclass
    obtain ⟨key, hkey⟩ := readsKey_iff.mpr hkey
    refine .inr ⟨chosen, hchosen, findsMissing_bind_iff.mpr (.inr ⟨options, hoptions, ?_⟩)⟩
    refine findsMissing_bind_iff.mpr (.inr ⟨imageWorkdir, hworkdir, ?_⟩)
    refine findsMissing_bind_iff.mpr (.inr ⟨key, hkey, ?_⟩)
    exact findsMissing_bind_iff.mpr (.inl (mountStorages_missing_iff.mpr hstorage))

/-- The preparation leads to a server. -/
theorem prepare_ok_iff :
    (∃ server, request.prepare config library encryptionKey services glProject = .ok server) ↔
      ∃ imageWorkdir, FindsWorkdir config library request glProject imageWorkdir ∧
        GetsClass services.crc config.defaultUrl request.user request.options ∧
        ReadsKey encryptionKey request ∧
        StoragesFit services.validator request.user "storage"
          ((request.inputs glProject).serverWorkDir imageWorkdir).absolute
          request.cloudstorage := by
  unfold Renku1LaunchRequest.prepare LaunchInputs.prepare
  rw [exists_ok_bind_iff]
  constructor
  · rintro ⟨chosen, hchosen, h⟩
    obtain ⟨options, hoptions, h⟩ := exists_ok_bind_iff.mp h
    obtain ⟨imageWorkdir, hworkdir, h⟩ := exists_ok_bind_iff.mp h
    obtain ⟨key, hkey, h⟩ := exists_ok_bind_iff.mp h
    obtain ⟨storages, hstorages, -⟩ := exists_ok_bind_iff.mp h
    exact ⟨imageWorkdir, findsWorkdir_iff.mp ⟨⟨chosen, hchosen⟩, hworkdir⟩,
      parsedServerOptions_ok_iff.mp ⟨options, hoptions⟩, readsKey_iff.mp ⟨key, hkey⟩,
      mountStorages_ok_iff.mp ⟨storages, hstorages⟩⟩
  · rintro ⟨imageWorkdir, hworkdir, hclass, hkey, hfit⟩
    obtain ⟨⟨chosen, hchosen⟩, hworkdir⟩ := findsWorkdir_iff.mpr hworkdir
    obtain ⟨options, hoptions⟩ := parsedServerOptions_ok_iff.mpr hclass
    obtain ⟨key, hkey⟩ := readsKey_iff.mpr hkey
    obtain ⟨storages, hstorages⟩ := mountStorages_ok_iff.mpr hfit
    exact ⟨chosen, hchosen, exists_ok_bind_iff.mpr ⟨options, hoptions, exists_ok_bind_iff.mpr
      ⟨imageWorkdir, hworkdir, exists_ok_bind_iff.mpr ⟨key, hkey, exists_ok_bind_iff.mpr
        ⟨storages, hstorages, _, rfl⟩⟩⟩⟩⟩

theorem prepared_iff :
    LaunchPrepared config library encryptionKey services request glProject ↔
      LeadsToMissing config library encryptionKey services request glProject := by
  unfold LaunchPrepared
  dsimp only
  rw [prepare_missing_iff, prepare_ok_iff]
  constructor
  · rintro ((himage | ⟨imageWorkdir, hworkdir, hclass, hkey, hstorage⟩) |
      ⟨⟨imageWorkdir, hworkdir, hclass, hkey, hfit⟩, hname⟩)
    · exact .image himage
    · exact .storage imageWorkdir hworkdir hclass hkey hstorage
    · exact .start imageWorkdir hworkdir hclass hkey hfit hname
  · rintro (himage | ⟨imageWorkdir, hworkdir, hclass, hkey, hstorage⟩ |
      ⟨imageWorkdir, hworkdir, hclass, hkey, hfit, hname⟩)
    · exact .inl (.inl himage)
    · exact .inl (.inr ⟨imageWorkdir, hworkdir, hclass, hkey, hstorage⟩)
    · exact .inr ⟨⟨imageWorkdir, hworkdir, hclass, hkey, hfit⟩, hname⟩

/-- The launch itself ends with an error before it calls anything. -/
theorem launchServer_missing {api : Api} (glProject : LaunchProject)
    (hmissing : request.branchFound = false ∨ request.commitFound = false) :
    ∃ e, api.launchServer ((request.inputs glProject).toRequest api.config
        (request.launchServices api.config library encryptionKey services glProject) request.branchFound
        request.commitFound) = .raise e ∧
      (IsMissingResource e ↔ LeadsToMissing api.config library encryptionKey services request glProject) := by
  rw [← prepared_iff]
  unfold LaunchPrepared
  dsimp only
  cases hprepare : request.prepare api.config library encryptionKey services glProject with
  | error e =>
    refine ⟨e, ?_, ?_⟩
    · unfold Api.launchServer
      change (ofExcept (request.prepare api.config library encryptionKey services
        glProject)).bind _ = _
      rw [hprepare]
      rfl
    · rw [findsMissing_error_iff, or_iff_left]
      rintro ⟨⟨server, h⟩, -⟩
      cases h
  | ok server =>
    have huser : server.user = request.user :=
      ((request.inputs glProject).of_prepare api.config _ hprepare).1
    obtain ⟨missing, hstart, hmissing⟩ : ∃ e, server.startManifest api.config api.py
        request.branchFound request.commitFound = .error e ∧ IsMissingResource e :=
      startManifest_missing hprepare hmissing
    rw [or_iff_right (not_findsMissing_ok server)]
    unfold Api.launchServer
    change ∃ e, (ofExcept (request.prepare api.config library encryptionKey services
      glProject)).bind _ = _ ∧ _
    rw [hprepare]
    change ∃ e, (ofExcept server.checkUsername).bind _ = _ ∧ _
    unfold UserServer.checkUsername
    dsimp only
    rw [huser]
    split
    · next hlong =>
      exact ⟨_, rfl, iff_of_false (fun h => nomatch h) fun h => absurd h.2 (by omega)⟩
    · next hshort =>
      refine ⟨missing, ?_, iff_of_true hmissing ⟨⟨server, rfl⟩, by omega⟩⟩
      change ((ofExcept (server.startManifest api.config api.py request.branchFound
        request.commitFound)).bind _).bind _ = _
      rw [hstart]
      rfl

variable {api : Api} {env : Env} {w : World}

/-- A launch for a branch or a commit that is missing. -/
theorem launchNotebook_eq {glProject : LaunchProject} (hproject : request.glProject = some glProject)
    (hmissing : request.branchFound = false ∨ request.commitFound = false) :
    ∃ e, api.launchNotebook library encryptionKey services request =
        (api.client.getServer request.serverName.text request.user.safeUsername).bind
          (fun
            | none => .raise e
            | some server => if server.truthy then api.rendered server else .raise e) ∧
      (IsMissingResource e ↔ LeadsToMissing api.config library encryptionKey services request glProject) := by
  obtain ⟨e, hlaunch, hiff⟩ : ∃ e, api.launchServer ((request.inputs glProject).toRequest api.config
      (request.launchServices api.config library encryptionKey services glProject) request.branchFound
      request.commitFound) = .raise e ∧
        (IsMissingResource e ↔ LeadsToMissing api.config library encryptionKey services request glProject) :=
    launchServer_missing glProject hmissing
  refine ⟨e, ?_, hiff⟩
  unfold Api.launchNotebook
  rw [hproject]
  dsimp only
  unfold Api.launchNotebookHelper
  rw [hlaunch]
  rfl

/-- All its calls are look-ups. -/
theorem calls_launchNotebook_missing
    (hmissing : request.glProject = none ∨ request.branchFound = false ∨
      request.commitFound = false) :
    (api.launchNotebook library encryptionKey services request).Calls
      (Call.LooksUp request.serverName.text) := by
  cases hproject : request.glProject with
  | none =>
    unfold Api.launchNotebook
    rw [hproject]
    trivial
  | some glProject =>
    rw [hproject] at hmissing
    obtain ⟨e, heq, -⟩ : ∃ e, api.launchNotebook library encryptionKey services request = _ ∧ _ :=
      launchNotebook_eq hproject (hmissing.resolve_left fun h => nomatch h)
    rw [heq]
    apply Calls.bind (K8sClient.calls_getServer fun c hc => hc)
    rintro (_ | server)
    · trivial
    · dsimp only
      split
      · exact Calls.bind (calls_ofExcept _) fun _ => trivial
      · trivial

/-- Since `w`, the session of this name has been looked for, and nothing else has happened. -/
structure OnlyLookedUp (name : String) (w v : World) : Prop where
  cluster : v.cluster = w.cluster
  calls : ∀ c ∈ v.log.drop w.log.length, c.LooksUp name

theorem OnlyLookedUp.serve {name : String} {v : World} (h : OnlyLookedUp name w v) {c : Call}
    (hc : c.LooksUp name) : OnlyLookedUp name w (serve env c v).2 := by
  refine ⟨(serve_lookup_cluster c hc v).trans h.cluster, fun c' hc' => ?_⟩
  rw [serve_log, List.drop_append] at hc'
  rcases List.mem_append.mp hc' with hc' | hc'
  · exact h.calls c' hc'
  · rw [List.mem_singleton.mp (List.mem_of_mem_drop hc')]
    exact hc

/-- A launch for a project, a branch or a commit that is missing creates nothing. It ends in a
missing resource exactly when the project exists, the look-up for a session does not fail, and what
is looked up leads to one. -/
theorem launchNotebook_missing_iff
    (hnew : ∀ server, ¬ Seen env w.cluster request.serverName.text server)
    (hmissing : request.glProject = none ∨ request.branchFound = false ∨
      request.commitFound = false) :
    let outcome := execute env (api.launchNotebook library encryptionKey services request) w
    OnlyLookedUp request.serverName.text w outcome.2 ∧
      ((∃ e, outcome.1 = .error e ∧ IsMissingResource e) ↔
        ∃ glProject, request.glProject = some glProject ∧
          (execute env (api.client.getServer request.serverName.text request.user.safeUsername)
            w).1 = .ok none ∧
          LeadsToMissing api.config library encryptionKey services request glProject) := by
  intro outcome
  have hcalls : (api.launchNotebook library encryptionKey services request).Calls
      (Call.LooksUp request.serverName.text) := calls_launchNotebook_missing hmissing
  have hframe : Triple (serve env) (OnlyLookedUp request.serverName.text w) _ _ _ :=
    hcalls.triple fun _ _ hc hv => hv.serve hc
  refine ⟨hframe.state ⟨rfl, by simp⟩, ?_⟩
  cases hproject : request.glProject with
  | none =>
    have houtcome : outcome.1 = .error .attributeError := by
      change (execute env (api.launchNotebook library encryptionKey services request) w).1 = _
      unfold Api.launchNotebook
      rw [hproject]
      rfl
    rw [houtcome]
    constructor
    · rintro ⟨e, he, hmissing⟩
      cases he
      exact hmissing.elim
    · rintro ⟨glProject, h, -⟩
      cases h
  | some glProject =>
    rw [hproject] at hmissing
    obtain ⟨e, heq, hiff⟩ : ∃ e, api.launchNotebook library encryptionKey services request = _ ∧
        (IsMissingResource e ↔ LeadsToMissing api.config library encryptionKey services request glProject) :=
      launchNotebook_eq hproject (hmissing.resolve_left fun h => nomatch h)
    have houtcome : outcome = execute env _ w := congrArg (fun p => execute env p w) heq
    rw [houtcome, execute, run_bind, execute]
    rcases hlookup : run (serve env) (api.client.getServer request.serverName.text
        request.user.safeUsername) w with ⟨e' | _ | server, v⟩
    · have hnot : ¬ IsMissingResource e' := raises_getServer.run _ hlookup
      constructor
      · rintro ⟨e, he, hmissing⟩
        cases he
        exact absurd hmissing hnot
      · rintro ⟨_, -, h, -⟩
        cases h
    · constructor
      · rintro ⟨e', he, hmissing⟩
        cases he
        exact ⟨glProject, rfl, rfl, hiff.mp hmissing⟩
      · rintro ⟨_, h, -, hreaches⟩
        cases h
        exact ⟨e, rfl, hiff.mpr hreaches⟩
    · exact absurd ((getServer_triple.value rfl hlookup).2 server rfl).1 (hnew server)

end Start

/-! ### A missing branch and a missing project -/

def weatherProject : LaunchProject where
  id := 1
  path := "weather"
  webUrl := "https://gitlab.com/group/weather"
  httpUrlToRepo := "https://gitlab.com/group/weather.git"
  pathWithNamespace := "group/weather"
  visibility := none

/-- A launch for a branch that is missing; the image of the commit exists. -/
def weatherLaunch (glProject : Option LaunchProject) : Renku1LaunchRequest where
  user := ClosestFit.sampleGuest
  serverName := { text := "anon-weather-0a1b2c3d", wellFormed := PyText.forall_of_all (by decide) }
  namespace_ := "group"
  project := "weather"
  branch := "missing"
  commitSha := "0a1b2c3d4e"
  gitHost := "gitlab.com"
  image := none
  options := {
    resourceClassId := none, storage := some 1, serverOptions := none, defaultUrl := none
    lfsAutoFetch := none }
  environmentVariables := []
  userSecrets := none
  cloudstorage := []
  glProject := glProject
  branchFound := false
  commitFound := glProject.isSome
  registry := fun _ _ => .ok {
    status := 200, headers := [("Content-Type", ManifestTypes.dockerV2)], json := some (.obj []) }
  userAnswers := { user := .error .connectionError, secretKey := .error .connectionError }

def imageLibrary : ImageLibrary where
  parseAuthenticate := fun _ => none
  encodeCredentials := id
  pyRepr := fun _ => ""

def sampleEncryptionKey (secretKey userId : String) : String := secretKey ++ userId

def emptyWorld : World where
  cluster := Cluster.empty
  log := []

theorem emptyWorld_not_seen (name : String) (server : Json) :
    ¬ Seen calmEnv emptyWorld.cluster name server := by
  have hnone : ∀ ns, Cluster.empty.get ns name = none := by
    intro ns
    simp [Cluster.get, Cluster.empty]
  rintro ⟨ns, x, hget | hget, -⟩
  · cases (hnone ns).symm.trans hget
  · cases (hnone ns).symm.trans hget

theorem missing_branch_reported_iff :
    let request := weatherLaunch (some weatherProject)
    let outcome := execute calmEnv
      ((sampleApi none).launchNotebook imageLibrary sampleEncryptionKey
        LaunchedOptions.sampleServices request) emptyWorld
    OnlyLookedUp request.serverName.text emptyWorld outcome.2 ∧
      ((∃ e, outcome.1 = .error e ∧ IsMissingResource e) ↔
        ∃ glProject, request.glProject = some glProject ∧
          (execute calmEnv ((sampleApi none).client.getServer request.serverName.text
            request.user.safeUsername) emptyWorld).1 = .ok none ∧
          LeadsToMissing (sampleApi none).config imageLibrary sampleEncryptionKey
            LaunchedOptions.sampleServices request glProject) :=
  launchNotebook_missing_iff (emptyWorld_not_seen _) (.inr (.inl rfl))

/-- A launch for a missing project ends in an internal error. -/
theorem missing_project_not_reported :
    let outcome := execute calmEnv
      ((sampleApi none).launchNotebook imageLibrary sampleEncryptionKey
        LaunchedOptions.sampleServices (weatherLaunch none)) emptyWorld
    outcome.1 = .error .attributeError ∧ (respond outcome.1).status = 500 ∧
      ¬ ∃ e, outcome.1 = .error e ∧ IsMissingResource e := by
  refine ⟨rfl, rfl, ?_⟩
  rintro ⟨e, he, hmissing⟩
  cases he
  exact hmissing

end RenkuNotebooks.Notebooks
