import RenkuNotebooks.Notebooks.Preparation
import RenkuNotebooks.Notebooks.PyDict
import RenkuNotebooks.Notebooks.StorageConfiguration
import RenkuNotebooks.Notebooks.StorageErrors

/-!
# Answers about storages

The storage validator and `RCloneStorage` with whatever the data service answers: the values that
Python reads from an answer are JSON values of any kind.
-/

namespace RenkuNotebooks.Notebooks

open PyDict

/-- What `requests` returns, with the JSON of the body if it is JSON. -/
structure HttpAnswer where
  statusCode : Int
  body : Option Json

/-- `res.json()` -/
def HttpAnswer.json (res : HttpAnswer) : Except PyError Json :=
  res.body.elim (.error .requestException) .ok

abbrev Headers := List (String × String)

/-- The data service at a URL without a slash at its end. -/
structure DataService where
  url : String
  get : String → Option Headers → HttpAnswer
  post : String → Option (List (String × Json)) → HttpAnswer

/-- `CloudStorageConfig` with what the answers hold; of two secrets with one id the last counts. -/
structure AnsweredStorage where
  config : Json
  sourcePath : Json
  targetPath : Json
  readonly : Json
  name : Json
  secrets : List (Json × Json)

namespace AnsweredStorage

/-- `for value in values` -/
def iterate : Json → Except PyError (List Json)
  | .arr xs => .ok xs
  | .obj ms => .ok (ms.map fun m => .str m.1)
  | .str s => .ok (s.toList.map fun c => .str (String.singleton c))
  | _ => .error .typeError

def hashable : Json → Bool
  | .arr _ | .obj _ => false
  | _ => true

def secretEntry (s : Json) : Except PyError (Json × Json) := do
  let secretId ← getItem "secret_id" s
  let name ← getItem "name" s
  if hashable secretId then pure (secretId, name) else .error .typeError

/-- `{s["secret_id"]: s["name"] for s in secrets}` -/
def readSecrets (secrets : Json) : Except PyError (List (Json × Json)) := do
  let entries ← iterate secrets
  entries.mapM secretEntry

/-- The configuration of a storage under the name that `named` has. -/
def read (storage named : Json) (secrets : List (Json × Json)) :
    Except PyError AnsweredStorage := do
  let config ← getItem "configuration" storage
  let sourcePath ← getItem "source_path" storage
  let targetPath ← getItem "target_path" storage
  let readonly ← getOr "readonly" true storage
  let name ← getItem "name" named
  pure { config, sourcePath, targetPath, readonly, name, secrets }

end AnsweredStorage

/-! ### The storage validator -/

namespace DataService

def unexpectedResponse : String :=
  "The data service sent an unexpected response, please try again later"

/-- What is raised for an answer with another status than 200. -/
def refusal (missing unauthorized : String) (denied : List Int) (res : HttpAnswer) :
    Option GenericError :=
  if res.statusCode = 404 then some (missingResourceError missing)
  else if res.statusCode ∈ denied then some (authenticationError unauthorized)
  else if res.statusCode ≠ 200 then some (intermittentError unexpectedResponse)
  else none

/-- The body of an answer that is not refused. -/
def accepted (refused : Option GenericError) (res : HttpAnswer) : Except PyError Json :=
  match refused with
  | some e => .error (.generic e)
  | none => res.json

/-- `endpoint.strip("/")` -/
def stripSlashes (endpoint : String) : String :=
  let inner := endpoint.toList.dropWhile (· = '/')
  String.ofList (inner.reverse.dropWhile (· = '/')).reverse

def storageHeaders (user : User) : Option Headers :=
  match user.accessToken, user.gitToken with
  | some accessToken, some gitToken =>
    some [("Authorization", "bearer " ++ accessToken), ("Gitlab-Access-Token", gitToken)]
  | _, _ => none

variable (service : DataService) (py : PyText.Str) (user : User)

def requestUrl (endpoint storageId : String) : String :=
  service.url ++ "/" ++ stripSlashes endpoint ++ "/" ++ storageId

def storageRefusal (storageId : String) : HttpAnswer → Option GenericError :=
  refusal ("Couldn't find cloud storage with id " ++ storageId)
    "User is not authorized to access this storage on this project." [401]

def connectorRefusal (dataConnectorId : String) : HttpAnswer → Option GenericError :=
  refusal ("Couldn't find data connector with id " ++ dataConnectorId)
    "User is not authorized to access this data connector." [401, 403]

def connectorSecretsRefusal (dataConnectorId : String) : HttpAnswer → Option GenericError :=
  refusal ("Couldn't find secrets for data connector with id " ++ dataConnectorId)
    "User is not authorized to access this data connector." [401, 403]

/-- Secrets are read for users with tokens only. -/
def connectorSecrets (dataConnectorId requestUrl : String) :
    Option Headers → Except PyError (List (Json × Json))
  | none => .ok []
  | some headers => do
    let res := service.get (requestUrl ++ "/secrets") (some headers)
    let response ← accepted (connectorSecretsRefusal dataConnectorId res) res
    AnsweredStorage.readSecrets response

/-- `_get_data_connector_by_id` -/
def getDataConnectorById (dataConnectorId requestUrl : String) (headers : Option Headers) :
    Except PyError AnsweredStorage := do
  let res := service.get requestUrl headers
  let dataConnector ← accepted (connectorRefusal dataConnectorId res) res
  let storage ← getItem "storage" dataConnector
  let secrets ← service.connectorSecrets dataConnectorId requestUrl headers
  AnsweredStorage.read storage dataConnector secrets

/-- The secrets of a response that has some; it is a dictionary, as its storage has been read. -/
def responseSecrets (response : Json) : Except PyError (List (Json × Json)) :=
  match response.get? "secrets" with
  | some secrets => AnsweredStorage.readSecrets secrets
  | none => .ok []

def getStorageById (endpoint storageId : String) : Except PyError AnsweredStorage :=
  let headers := storageHeaders user
  let url := service.requestUrl endpoint storageId
  if stripSlashes endpoint = "data_connectors" then
    service.getDataConnectorById storageId url headers
  else do
    let res := service.get url headers
    let response ← accepted (storageRefusal storageId res) res
    let storage ← getItem "storage" response
    let secrets ← responseSecrets response
    AnsweredStorage.read storage storage secrets

def validateStorageConfiguration (configuration : Option (List (String × Json))) :
    Except PyError Unit :=
  let res := service.post (service.url ++ "/storage_schema/validate") configuration
  if res.statusCode = 422 then do
    let body ← res.json
    .error (.generic (invalidCloudStorageConfiguration
      ("The provided cloud storage configuration isn't valid: " ++ py body)))
  else if res.statusCode ≠ 204 then .error (.generic (intermittentError unexpectedResponse))
  else .ok ()

end DataService

/-! ### The storage -/

/-- `RCloneStorage` as it is made of a request and of answers. -/
structure AnyStorage where
  configuration : Option (List (String × Json))
  sourcePath : Json
  mountFolder : String
  readonly : Json
  name : Json
  secrets : List (Json × Json)
  userSecretKey : String

namespace AnyStorage

/-- `{**configuration, **overrides}`, a dictionary whatever the answer is. -/
def unpack (configuration overrides : List (String × Json)) : List (String × Json) :=
  RCloneStorage.mergeConfiguration (RCloneStorage.mergeConfiguration [] configuration) overrides

/-- The configuration of a stored storage with the values of the request. -/
def storedConfiguration (config : Json) (overrides : Option (List (String × Json))) :
    Except PyError (List (String × Json)) :=
  match config, overrides with
  | .obj ms, some overrides => .ok (unpack ms overrides)
  | _, _ => .error .typeError

/-- `str(work_dir / target_path)` -/
def folder (workDir : PosixPath) : Json → Except PyError String
  | .str targetPath => .ok (RCloneStorage.mountFolderIn workDir targetPath)
  | _ => .error .typeError

section Request

variable (service : DataService) (py : PyText.Str) (user : User) (endpoint : String)
  (workDir : PosixPath) (userSecretKey : String)

/-- The constructor, which has the configuration validated. -/
def make (configuration : Option (List (String × Json))) (sourcePath targetPath readonly name : Json)
    (secrets : List (Json × Json)) : Except PyError AnyStorage := do
  let mountFolder ← folder workDir targetPath
  service.validateStorageConfiguration py configuration
  pure { configuration, sourcePath, mountFolder, readonly, name, secrets, userSecretKey }

def storageFromSchema (data : RCloneStorageRequest) : Except PyError AnyStorage :=
  match data.storageId.filter (· ≠ "") with
  | some storageId =>
    match user.accessToken with
    | none => .error (.validationError
        "Storage mounting is only supported for logged-in users.")
    | some _ => do
      let stored ← service.getStorageById user endpoint storageId
      let configuration ← storedConfiguration stored.config data.configuration
      make service py workDir userSecretKey (some configuration) stored.sourcePath
        stored.targetPath stored.readonly stored.name stored.secrets
  | none => do
    let sourcePath ← RCloneStorage.required "source_path" data.sourcePath
    let targetPath ← RCloneStorage.required "target_path" data.targetPath
    make service py workDir userSecretKey data.configuration (.str sourcePath) (.str targetPath)
      (.bool data.readonly) .null []

/-- The part of `launch_notebook_helper` about one storage. -/
def load (data : RCloneStorageRequest) : Except PyError AnyStorage := do
  let storage ←
    match storageFromSchema service py user endpoint workDir userSecretKey data with
    | .error (.validationError message) => .error (.generic (userInputError
        ("Couldn't load cloud storage config: " ++ message) none))
    | result => result
  RCloneStorage.checkMountPoints [storage.mountFolder]
  pure storage

end Request

/-! ### The manifest patch -/

/-- `self.name or base_name` -/
def remoteName (s : AnyStorage) (baseName : String) : Json :=
  if s.name.truthy then s.name else .str baseName

/-- The part of the storage that `config_string` rewrites. -/
def configured (s : AnyStorage) (configuration : List (String × Json)) : RCloneStorage :=
  { configuration, sourcePath := "", mountFolder := s.mountFolder, readonly := s.readonly.truthy,
    name := none, secrets := [], userSecretKey := s.userSecretKey, baseName := none }

/-- `add_section` takes texts only. -/
def configString (py : PyText.Str) (s : AnyStorage) (name : Json) : Except PyError String :=
  let configuration := s.configuration.getD []
  match name with
  | .str name => ((s.configured configuration).configString py name).map Prod.fst
  | _ => do
    if configuration.isEmpty then
      .error (.validationError "Missing configuration for cloud storage")
    let _ ← (s.configured configuration).rewriteConfiguration
    .error .typeError

def getManifestPatch (config : Config) (py : PyText.Str) (s : AnyStorage)
    (baseName : String) : Except PyError (List Patch) := do
  let configData ← s.configString py (s.remoteName baseName)
  let accessMode : Json := if s.readonly.truthy then "ReadOnlyMany" else "ReadWriteMany"
  pure [{ patch := [
    .add ("/" ++ (baseName ++ "-pv"))
      (.obj [
        ("apiVersion", "v1"),
        ("kind", "PersistentVolumeClaim"),
        ("metadata", .obj [("name", baseName), ("labels", .obj [("name", baseName)])]),
        ("spec", .obj [
          ("accessModes", .arr [accessMode]),
          ("resources", .obj [("requests", .obj [("storage", "10Gi")])]),
          ("storageClassName", config.cloudStorageClass)])]),
    .add ("/" ++ (baseName ++ "-secret"))
      (.obj [
        ("apiVersion", "v1"),
        ("kind", "Secret"),
        ("metadata", .obj [("name", baseName), ("labels", .obj [("name", baseName)])]),
        ("type", "Opaque"),
        ("stringData", .obj [
          ("remote", s.remoteName baseName),
          ("remotePath", s.sourcePath),
          ("secretKey", s.userSecretKey),
          ("configData", configData)])]),
    .add "/statefulset/spec/template/spec/containers/0/volumeMounts/-"
      (.obj [("mountPath", s.mountFolder), ("name", baseName), ("readOnly", s.readonly)]),
    .add "/statefulset/spec/template/spec/volumes/-"
      (.obj [
        ("name", baseName),
        ("persistentVolumeClaim", .obj [("claimName", baseName), ("readOnly", s.readonly)])])] }]

end AnyStorage

/-! ### Values of the documented types -/

/-- A storage whose values are of the documented types. -/
def RCloneStorage.toAny (s : RCloneStorage) : AnyStorage :=
  { configuration := some s.configuration, sourcePath := s.sourcePath, mountFolder := s.mountFolder
    readonly := s.readonly, name := s.name.elim .null .str
    secrets := s.secrets.map fun secret => (.str secret.1, .str secret.2)
    userSecretKey := s.userSecretKey }

def CloudStorageConfig.toAnswered (stored : CloudStorageConfig) : AnsweredStorage :=
  { config := .obj stored.config, sourcePath := stored.sourcePath, targetPath := stored.targetPath
    readonly := stored.readonly, name := stored.name
    secrets := stored.secrets.map fun secret => (.str secret.1, .str secret.2) }

namespace RCloneStorage

/-- Rewriting reads and writes the configuration only. -/
theorem rewriteConfiguration_of_configuration {s t : RCloneStorage}
    (h : t.configuration = s.configuration) :
    s.rewriteConfiguration = t.rewriteConfiguration.map fun u => s.withMembers u.configuration := by
  have hswitch : ∀ s t : RCloneStorage, ∀ base : RCloneStorage, t.configuration = s.configuration →
      base.withMembers s.configuration = s → switchStep s =
        (switchStep t).map fun u => base.withMembers u.configuration := by
    intro s t base h hbase
    unfold switchStep
    rw [h]
    split
    · rfl
    · split
      · rw [← hbase]
        simp only [Except.map, setConfig, h, withMembers]
      · rw [← hbase]
        simp only [Except.map, h, withMembers]
  cases hpolybox : isPolyboxOrSwitch (storageType s.configuration) with
  | true =>
    rw [rewriteConfiguration_of_webdav hpolybox, rewriteConfiguration_of_webdav (h ▸ hpolybox), h]
    split
    · split
      · exact hswitch _ _ s rfl rfl
      · rfl
    · exact hswitch _ _ s rfl rfl
  | false =>
    by_cases hhashable : HashableType s.configuration
    · rw [rewriteConfiguration_of_other hpolybox hhashable,
        rewriteConfiguration_of_other (h ▸ hpolybox) (h ▸ hhashable)]
      exact hswitch s t s h rfl
    · rw [rewriteConfiguration_of_unhashable hhashable,
        rewriteConfiguration_of_unhashable (h ▸ hhashable)]
      rfl

theorem configString_of_configuration (py : PyText.Str) {s t : RCloneStorage}
    (h : t.configuration = s.configuration) (name : String) :
    (s.configString py name).map Prod.fst = (t.configString py name).map Prod.fst := by
  unfold configString
  rw [rewriteConfiguration_of_configuration h, h]
  dsimp only
  by_cases hempty : s.configuration.isEmpty = true
  · rw [if_pos hempty, if_pos hempty]
    rfl
  · rw [if_neg hempty, if_neg hempty]
    cases t.rewriteConfiguration with
    | error e => rfl
    | ok u =>
      change Except.map Prod.fst (if name = "DEFAULT" then _ else _) =
        Except.map Prod.fst (if name = "DEFAULT" then _ else _)
      by_cases hname : name = "DEFAULT"
      · rw [if_pos hname, if_pos hname]
        rfl
      · rw [if_neg hname, if_neg hname]
        change Except.map Prod.fst (u.configuration.foldlM _ _ >>= _) =
          Except.map Prod.fst (u.configuration.foldlM _ _ >>= _)
        cases u.configuration.foldlM (fun items item =>
          parserSet py.lower items item.1 (stringify py item.2)) [] <;> rfl

theorem remoteName_toAny (s : RCloneStorage) (baseName : String) :
    s.toAny.remoteName baseName = .str (s.remoteName baseName) := by
  unfold AnyStorage.remoteName remoteName toAny
  cases s.name with
  | none => rfl
  | some name =>
    by_cases hname : name = ""
    · simp [hname, Json.truthy]
    · simp [hname, Json.truthy]

/-- The manifest patch of a storage with values of the documented types. -/
theorem getManifestPatch_toAny (config : Config) (py : PyText.Str) (s : RCloneStorage)
    (baseName : String) :
    s.toAny.getManifestPatch config py baseName = s.getManifestPatch config py baseName := by
  have hconfigString : s.toAny.configString py (.str (s.remoteName baseName)) =
      (s.configString py (s.remoteName baseName)).map Prod.fst :=
    @configString_of_configuration py (s.toAny.configured s.configuration) s rfl _
  have hreadonly : s.toAny.readonly.truthy = s.readonly := rfl
  unfold AnyStorage.getManifestPatch getManifestPatch
  rw [remoteName_toAny, hconfigString, hreadonly]
  cases s.configString py (s.remoteName baseName) <;> rfl

theorem mergeConfiguration_nil {ms : List (String × Json)} (hnodup : (ms.map Prod.fst).Nodup) :
    mergeConfiguration [] ms = ms := by
  have happend : ∀ start ms : List (String × Json), ((start ++ ms).map Prod.fst).Nodup →
      mergeConfiguration start ms = start ++ ms := by
    intro start ms
    induction ms generalizing start with
    | nil => exact fun _ => (List.append_nil _).symm
    | cons m ms ih =>
      intro hkeys
      have hassoc : start ++ m :: ms = (start ++ [m]) ++ ms := by simp
      have hnew : Json.setMember m.1 m.2 start = start ++ [m] := by
        rw [List.map_append, List.map_cons, List.nodup_append] at hkeys
        have hfresh : m.1 ∉ start.map Prod.fst := fun hmem =>
          hkeys.2.2 _ hmem _ List.mem_cons_self rfl
        clear hkeys hassoc
        induction start with
        | nil => rfl
        | cons first start ih =>
          rw [List.map_cons, List.mem_cons, not_or] at hfresh
          rw [Json.setMember, if_neg (Ne.symm hfresh.1), ih hfresh.2, List.cons_append]
      rw [hassoc] at hkeys ⊢
      rw [← ih _ hkeys, ← hnew]
      rfl
  exact happend [] ms hnodup

/-- Where the answers are of the documented types, the storage is made of them as by a validator
that returns them. -/
theorem storageFromSchema_toAny {service : DataService} {py : PyText.Str} {user : User}
    {endpoint : String} {validator : StorageValidator} (workDir : PosixPath) (userSecretKey : String)
    (hget : ∀ storageId, service.getStorageById user endpoint storageId =
      (validator.getStorageById endpoint storageId).map CloudStorageConfig.toAnswered)
    (hkeys : ∀ storageId stored, validator.getStorageById endpoint storageId = .ok stored →
      (stored.config.map Prod.fst).Nodup)
    (hvalidate : ∀ configuration sourcePath,
      validator.validateStorageConfiguration configuration sourcePath =
        service.validateStorageConfiguration py (some configuration))
    {data : RCloneStorageRequest} {configuration : List (String × Json)}
    (hconfiguration : data.configuration = some configuration) :
    AnyStorage.storageFromSchema service py user endpoint workDir userSecretKey data =
      (storageFromSchema validator user endpoint workDir userSecretKey data).map toAny := by
  have hmake : ∀ (stored : CloudStorageConfig) (name : Option String),
      AnyStorage.make service py workDir userSecretKey (some stored.config) stored.sourcePath
        (.str stored.targetPath) stored.readonly (name.elim .null .str)
        (stored.secrets.map fun secret => (.str secret.1, .str secret.2)) =
      (validator.validateStorageConfiguration stored.config stored.sourcePath >>= fun _ =>
        Except.ok (RCloneStorage.mk stored.config stored.sourcePath
          (mountFolderIn workDir stored.targetPath) stored.readonly name stored.secrets userSecretKey
          none)).map toAny := by
    intro stored name
    unfold AnyStorage.make
    rw [hvalidate]
    cases service.validateStorageConfiguration py (some stored.config) <;> rfl
  unfold AnyStorage.storageFromSchema storageFromSchema storageConfig
  rw [hconfiguration]
  cases data.storageId.filter (· ≠ "") with
  | some storageId =>
    cases user.accessToken with
    | none => rfl
    | some token =>
      dsimp only
      rw [hget]
      cases hstored : validator.getStorageById endpoint storageId with
      | error e => rfl
      | ok stored =>
        have hmerge := mergeConfiguration_nil (hkeys storageId stored hstored)
        have hunpack : AnyStorage.unpack stored.config configuration =
            mergeConfiguration stored.config configuration := by
          rw [AnyStorage.unpack, hmerge]
        refine Eq.trans ?_ (hmake { stored with
          config := mergeConfiguration stored.config configuration } (some stored.name))
        rw [← hunpack]
        rfl
  | none =>
    cases data.sourcePath with
    | none => rfl
    | some sourcePath =>
      cases data.targetPath with
      | none => rfl
      | some targetPath =>
        exact hmake ⟨configuration, sourcePath, targetPath, data.readonly, "", []⟩ none

end RCloneStorage

end RenkuNotebooks.Notebooks
