import RenkuNotebooks.Notebooks.Images
import RenkuNotebooks.Notebooks.Launch
import RenkuNotebooks.Notebooks.ResourceClasses

/-!
# From a launch request to a server

The middle of `launch_notebook_helper`: the server options, the storages and the server that is
started with them.
-/

namespace RenkuNotebooks.Notebooks

/-! ### Server options -/

/-- What a request says about the resources of its session. Storage is in gigabytes. -/
structure OptionsRequest where
  resourceClassId : Option Int
  storage : Option Int
  serverOptions : Option ServerOptions
  defaultUrl : Option String
  lfsAutoFetch : Option Bool

namespace OptionsRequest

open CRCValidator

variable (crc : ResourceService) (defaultUrl : String) (user : User) (request : OptionsRequest)

/-- The default class, for a request with neither a class nor options. -/
def defaultClassOptions : Except PyError ServerOptions := do
  let defaultClass ← getDefaultClass crc
  let maxStorageGb := defaultClass.maxStorage.getD 0
  if request.storage.any (maxStorageGb < ·) then
    .error (.generic (userInputError
      ("The requested storage amount is higher than the allowable maximum for the default " ++
        "resource class of " ++ toString maxStorageGb ++ "GB.") none))
  else
    let storage := request.storage.getD defaultClass.defaultStorage
    pure ((ServerOptions.fromResourceClass defaultUrl defaultClass).setStorage storage true)

def acceptableClassOptions (requested : ServerOptions) : Except PyError ServerOptions := do
  match ← findAcceptableClass crc defaultUrl requested user with
  | some options => pure options
  | none =>
    .error (.generic (userInputError
      ("Cannot find suitable server options based on your request and " ++
        "the available resource classes.")
      (some ("You are receiving this error because you are using the old API for " ++
        "selecting resources. Updating to the new API which includes specifying only " ++
        "a specific resource class ID and storage is preferred and more convenient."))))

def classOptions : Except PyError ServerOptions :=
  match request.resourceClassId, request.serverOptions with
  | some classId, _ => validateClassStorage crc defaultUrl user classId request.storage
  | none, some requested => acceptableClassOptions crc defaultUrl user requested
  | none, none => request.defaultClassOptions crc defaultUrl

/-- The URL and the LFS setting of the request, if there are any. -/
def override (options : ServerOptions) : ServerOptions :=
  let options := request.defaultUrl.elim options fun url => { options with defaultUrl := url }
  request.lfsAutoFetch.elim options fun fetch => { options with lfsAutoFetch := fetch }

def parsedServerOptions : Except PyError ServerOptions := do
  let options ← request.classOptions crc defaultUrl user
  pure (request.override options)

@[simp] theorem override_storage (options : ServerOptions) :
    (request.override options).storage = options.storage := by
  unfold override
  cases request.defaultUrl <;> cases request.lfsAutoFetch <;> rfl

@[simp] theorem override_priorityClass (options : ServerOptions) :
    (request.override options).priorityClass = options.priorityClass := by
  unfold override
  cases request.defaultUrl <;> cases request.lfsAutoFetch <;> rfl

@[simp] theorem override_idleThresholdSeconds (options : ServerOptions) :
    (request.override options).idleThresholdSeconds = options.idleThresholdSeconds := by
  unfold override
  cases request.defaultUrl <;> cases request.lfsAutoFetch <;> rfl

@[simp] theorem override_hibernationThresholdSeconds (options : ServerOptions) :
    (request.override options).hibernationThresholdSeconds =
      options.hibernationThresholdSeconds := by
  unfold override
  cases request.defaultUrl <;> cases request.lfsAutoFetch <;> rfl

end OptionsRequest

/-! ### Cloud storages -/

structure RCloneStorageRequest where
  sourcePath : Option String
  targetPath : Option String
  configuration : Option (List (String × Json))
  storageId : Option String
  readonly : Bool

structure CloudStorageConfig where
  config : List (String × Json)
  sourcePath : String
  targetPath : String
  readonly : Bool
  name : String
  secrets : List (String × String)

/-- `config.storage_validator` -/
structure StorageValidator where
  getStorageById : String → String → Except PyError CloudStorageConfig
  validateStorageConfiguration : List (String × Json) → String → Except PyError Unit

namespace RCloneStorage

/-- `data[key]` -/
def required {α : Type} (key : String) : Option α → Except PyError α
  | some value => .ok value
  | none => .error (.keyError key)

/-- `{**configuration, **overrides}` -/
def mergeConfiguration (configuration overrides : List (String × Json)) : List (String × Json) :=
  overrides.foldl (fun ms member => Json.setMember member.1 member.2 ms) configuration

def mountFolderIn (workDir : PosixPath) (targetPath : String) : String :=
  (workDir.join (.ofString targetPath)).asPosix

variable (validator : StorageValidator) (user : User) (endpoint : String) (workDir : PosixPath)
  (userSecretKey : String)

def storageConfig (data : RCloneStorageRequest) :
    Except PyError (CloudStorageConfig × Option String) :=
  match data.storageId.filter (· ≠ "") with
  | some storageId =>
    match user.accessToken with
    | none => .error (.validationError
        "Storage mounting is only supported for logged-in users.")
    | some _ => do
      let stored ← validator.getStorageById endpoint storageId
      match data.configuration with
      | none => .error .typeError
      | some overrides =>
        pure ({ stored with config := mergeConfiguration stored.config overrides }, some stored.name)
  | none => do
    let sourcePath ← required "source_path" data.sourcePath
    let targetPath ← required "target_path" data.targetPath
    let configuration := data.configuration.getD []
    pure ({ config := configuration, sourcePath, targetPath, readonly := data.readonly, name := "",
            secrets := [] }, none)

def storageFromSchema (data : RCloneStorageRequest) : Except PyError RCloneStorage := do
  let (stored, name) ← storageConfig validator user endpoint data
  validator.validateStorageConfiguration stored.config stored.sourcePath
  pure {
    configuration := stored.config, sourcePath := stored.sourcePath,
    mountFolder := mountFolderIn workDir stored.targetPath, readonly := stored.readonly, name,
    secrets := stored.secrets, userSecretKey, baseName := none }

/-- The storages of a request; validation errors are reported to the user. -/
def loadStorages (cloudstorage : List RCloneStorageRequest) :
    Except PyError (List RCloneStorage) :=
  match cloudstorage.mapM (storageFromSchema validator user endpoint workDir userSecretKey) with
  | .error (.validationError message) => .error (.generic (userInputError
      ("Couldn't load cloud storage config: " ++ message) none))
  | result => result

/-- Some element starts with another one that stands elsewhere in the list. -/
def anyStartsWith (folders : List String) : Bool :=
  folders.zipIdx.any fun s1 => folders.zipIdx.any fun s2 =>
    s1.2 ≠ s2.2 ∧ s2.1.toList.isPrefixOf s1.1.toList

def checkMountPoints (folders : List String) : Except PyError Unit :=
  let mountPoints := (folders.filter fun folder => folder ≠ "" ∧ folder ≠ "/").dedup
  if mountPoints.length ≠ folders.length then
    .error (.generic (userInputError
      "Storage mount points must be set, can't be at the root of the project and must be unique."
      none))
  else if anyStartsWith folders then
    .error (.generic (userInputError
      "Cannot mount a cloud storage into the mount point of another cloud storage." none))
  else .ok ()

def mountStorages (cloudstorage : List RCloneStorageRequest) :
    Except PyError (List RCloneStorage) := do
  if cloudstorage.isEmpty then pure []
  else do
    let storages ← loadStorages validator user endpoint workDir userSecretKey cloudstorage
    checkMountPoints (storages.map (·.mountFolder))
    pure storages

end RCloneStorage

/-! ### The server -/

structure LaunchInputs where
  user : User
  serverName : ServerName
  options : OptionsRequest
  environmentVariables : List (String × String)
  /-- The identifiers of the secrets and their mount path. -/
  userSecrets : Option (List String × String)
  cloudstorage : List RCloneStorageRequest
  cloudstorageEndpoint : String
  glProjectPath : Option String
  givenRepositories : List Repository
  kind : ServerKind

/-- What the launch asks of other services. -/
structure LaunchServices where
  chosenImage : Except PyError ChosenImage
  imageWorkdir : Except PyError (Option PosixPath)
  crc : ResourceService
  validator : StorageValidator
  /-- `get_user_key` -/
  userKey : Except PyError (Option String)
  gitProviders : List GitProvider
  preferredNamespace : String

namespace LaunchInputs

variable (config : Config) (services : LaunchServices) (inputs : LaunchInputs)

def mountPath (imageWorkdir : Option PosixPath) : PosixPath :=
  (imageWorkdir.getD (.ofString "/")).join (.ofString "work")

def serverWorkDir (imageWorkdir : Option PosixPath) : PosixPath :=
  (mountPath imageWorkdir).join (.ofString (inputs.glProjectPath.getD ""))

def userSecretKey : Except PyError String := do
  if inputs.cloudstorage.isEmpty then pure ""
  else do
    let key ← services.userKey
    pure (key.getD "")

def prepare : Except PyError UserServer := do
  let chosen ← services.chosenImage
  let options ← inputs.options.parsedServerOptions services.crc config.defaultUrl inputs.user
  let imageWorkdir ← services.imageWorkdir
  let workDir := inputs.serverWorkDir imageWorkdir
  let userSecretKey ← inputs.userSecretKey services
  let storages ← RCloneStorage.mountStorages services.validator inputs.user
    inputs.cloudstorageEndpoint workDir.absolute userSecretKey inputs.cloudstorage
  pure {
    user := inputs.user
    serverName := inputs.serverName
    image := some chosen.image
    serverOptions := options
    environmentVariables := inputs.environmentVariables
    userSecrets := inputs.userSecrets.map fun secrets => {
      name := inputs.serverName.text ++ "-secret", userSecretIds := secrets.1
      mountPath := secrets.2 }
    cloudstorage := storages
    preferredNamespace := services.preferredNamespace
    workspaceMountPath := mountPath imageWorkdir
    workDir := workDir
    isImagePrivate := chosen.isImagePrivate
    givenRepositories := inputs.givenRepositories
    gitProviders := services.gitProviders
    kind := inputs.kind }

/-- What preparing a server has gone through. -/
theorem of_prepare {server : UserServer} (h : inputs.prepare config services = .ok server) :
    server.user = inputs.user ∧ server.serverName = inputs.serverName ∧
      inputs.options.parsedServerOptions services.crc config.defaultUrl inputs.user =
        .ok server.serverOptions ∧
      ∃ imageWorkdir userSecretKey, services.imageWorkdir = .ok imageWorkdir ∧
        RCloneStorage.mountStorages services.validator inputs.user inputs.cloudstorageEndpoint
          (inputs.serverWorkDir imageWorkdir).absolute userSecretKey inputs.cloudstorage =
            .ok server.cloudstorage := by
  obtain ⟨chosen, _, h⟩ := Results.bind_eq_ok_iff.mp h
  obtain ⟨options, hoptions, h⟩ := Results.bind_eq_ok_iff.mp h
  obtain ⟨imageWorkdir, hworkdir, h⟩ := Results.bind_eq_ok_iff.mp h
  obtain ⟨userSecretKey, _, h⟩ := Results.bind_eq_ok_iff.mp h
  obtain ⟨storages, hstorages, h⟩ := Results.bind_eq_ok_iff.mp h
  cases h
  exact ⟨rfl, rfl, hoptions, imageWorkdir, userSecretKey, hworkdir, hstorages⟩

/-- The launch of these inputs. -/
def toRequest (branchFound commitFound : Bool) : LaunchRequest where
  user := inputs.user
  serverName := inputs.serverName
  prepare := inputs.prepare config services
  prepare_user := fun _ h => (inputs.of_prepare config services h).1
  prepare_serverName := fun _ h => (inputs.of_prepare config services h).2.1
  branchFound := branchFound
  commitFound := commitFound

end LaunchInputs

end RenkuNotebooks.Notebooks
