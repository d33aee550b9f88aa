import Mathlib.Data.List.Dedup
import RenkuNotebooks.Notebooks.StorageAnswers

/-!
# How mounting a storage ends

A request for a storage is to end with a manifest patch or with an error of the service's own.
Python raises errors of its own where a request leaves out its paths, where an answer is not of the
documented form, and where the configuration cannot be written for rclone.
-/

namespace RenkuNotebooks.Notebooks.StorageOutcomes

open PyDict DataService AnyStorage RCloneStorage StorageErrors

/-! ### Handled results -/

section

variable {α β : Type}

/-- A computation that ends, or that raises a `GenericError`. -/
def Handled (result : Except PyError α) : Prop := ∀ e, result = .error e → ∃ own, e = .generic own

theorem handled_ok (a : α) : Handled (.ok a) := by
  intro e h
  cases h

theorem handled_generic (own : GenericError) : Handled (.error (.generic own) : Except PyError α) := by
  intro e h
  cases h
  exact ⟨own, rfl⟩

theorem handled_bind_iff {x : Except PyError α} {f : α → Except PyError β} :
    Handled (x >>= f) ↔ Handled x ∧ ∀ a, x = .ok a → Handled (f a) := by
  constructor
  · intro h
    refine ⟨fun e hx => h e (Results.bind_eq_error_iff.mpr (.inl hx)), ?_⟩
    rintro a rfl e hf
    exact h e hf
  · rintro ⟨hx, hf⟩ e h
    obtain hraised | ⟨a, hok, hraised⟩ := Results.bind_eq_error_iff.mp h
    · exact hx e hraised
    · exact hf a hok e hraised

/-- What raises no error of the service's own is handled if it raises nothing. -/
theorem handled_iff_of_foreign {x : Except PyError α} (h : Foreign x) :
    Handled x ↔ ∃ a, x = .ok a := by
  cases x with
  | ok a => exact ⟨fun _ => ⟨a, rfl⟩, fun _ => handled_ok a⟩
  | error e =>
    constructor
    · intro hhandled
      obtain ⟨own, rfl⟩ := hhandled e rfl
      exact absurd rfl (h own)
    · rintro ⟨a, ha⟩
      cases ha

end

/-! ### Errors of reading -/

/-- What Python raises where a value is not of the kind that is read. -/
def ReadError : PyError → Prop
  | .keyError _ | .typeError | .attributeError | .requestException => True
  | _ => False

def Reads {α : Type} (result : Except PyError α) : Prop := ∀ e, result = .error e → ReadError e

section

variable {α β : Type}

theorem reads_ok (a : α) : Reads (.ok a) := by
  intro e h
  cases h

theorem reads_error {e : PyError} (h : ReadError e) : Reads (.error e : Except PyError α) := by
  intro e' heq
  rwa [← Except.error.inj heq]

theorem Reads.bind {x : Except PyError α} {f : α → Except PyError β} (hx : Reads x)
    (hf : ∀ a, Reads (f a)) : Reads (x >>= f) := by
  intro e h
  obtain hraised | ⟨a, -, hraised⟩ := Results.bind_eq_error_iff.mp h
  · exact hx e hraised
  · exact hf a e hraised

theorem Reads.mapM {f : α → Except PyError β} (hf : ∀ a, Reads (f a)) (as : List α) :
    Reads (as.mapM f) := by
  intro e h
  obtain ⟨bs, hok⟩ | ⟨a, -, e', he, herror⟩ := Results.mapM_cases f as
  · cases hok.symm.trans h
  · obtain rfl := Except.error.inj (herror.symm.trans h)
    exact hf a e' he

end

/-! ### The conditions -/

/-- What marshmallow has checked, with the keys of a dictionary. -/
structure Accepted (data : RCloneStorageRequest) : Prop where
  exclusive : data.storageId.getD "" ≠ "" →
    data.sourcePath.getD "" = "" ∧ data.targetPath.getD "" = ""
  nodup : ∀ configuration, data.configuration = some configuration →
    (configuration.map Prod.fst).Nodup
  notNull : ∀ configuration, data.configuration = some configuration →
    ∀ m ∈ configuration, m.2 ≠ .null

/-- The keys whose values are replaced for polybox and switchDrive. -/
def replacedKeys (members : List (String × Json)) : List String :=
  if isPolyboxOrSwitch (storageType members) then
    if access members = .str "shared" then ["type", "provider", "url", "user"]
    else if access members = .str "personal" then ["type", "provider", "url"]
    else ["type", "provider"]
  else []

/-- A text that interpolation accepts. -/
def NoStrayPercent (value : String) : Prop := beforeSet value = .ok ()

instance (value : String) : Decidable (NoStrayPercent value) :=
  match h : beforeSet value with
  | .ok () => .isTrue h
  | .error _ => .isFalse fun hok => nomatch h.symm.trans hok

/-- The members of a configuration without these keys have no stray percent sign. -/
def CleanBut (py : PyText.Str) (keys : List String) (members : List (String × Json)) :
    Prop :=
  ∀ m ∈ members, m.1 ∈ keys ∨ NoStrayPercent (stringify py m.2)

/-- A configuration that can be written under a name: there is a type, a link that is a text, and no
value with a stray percent sign but those that are replaced. -/
structure Composable (py : PyText.Str) (members : List (String × Json)) (remote : Json) :
    Prop where
  type : (Json.getMember "type" members).isSome
  hashable : HashableType members
  link : isSharedLink members →
    ∃ link, publicLink members = some link ∧ NoStrayPercent (lastSegment link)
  remote : ∃ name, remote = .str name ∧ name ≠ "DEFAULT"
  values : CleanBut py (replacedKeys members) members

/-- Each secret has a name and an id that can be a key. -/
def SecretsForm (secrets : Json) : Prop :=
  ∃ entries, AnsweredStorage.iterate secrets = .ok entries ∧ ∀ s ∈ entries, ∃ secretId,
    s.get? "secret_id" = some secretId ∧ AnsweredStorage.hashable secretId = true ∧
      (s.get? "name").isSome

/-- A storage with this configuration, this path and the name of `named`. -/
structure StorageForm (storage named : Json) (configuration : List (String × Json))
    (targetPath : String) (name : Json) : Prop where
  config : storage.get? "configuration" = some (.obj configuration)
  sourcePath : (storage.get? "source_path").isSome
  targetPath : storage.get? "target_path" = some (.str targetPath)
  name : named.get? "name" = some name

section Conditions

variable (service : DataService) (py : PyText.Str) (user : User) (endpoint : String)
  (workDir : PosixPath) (baseName : String)

def storedAnswer (storageId : String) : HttpAnswer :=
  service.get (service.requestUrl endpoint storageId) (storageHeaders user)

def secretsAnswer (storageId : String) : HttpAnswer :=
  service.get (service.requestUrl endpoint storageId ++ "/secrets") (storageHeaders user)

/-- Secrets are asked for. -/
def AsksSecrets : Prop := (storageHeaders user).isSome

instance : Decidable (AsksSecrets user) := inferInstanceAs (Decidable ((storageHeaders user).isSome))

/-- The data service refuses the storage, or the secrets of a data connector that it gave. -/
def Refused (storageId : String) : Prop :=
  (storedAnswer service user endpoint storageId).statusCode ≠ 200 ∨
    (stripSlashes endpoint = "data_connectors" ∧ AsksSecrets user ∧
      (∃ connector, (storedAnswer service user endpoint storageId).body = some connector ∧
        (connector.get? "storage").isSome) ∧
      (secretsAnswer service user endpoint storageId).statusCode ≠ 200)

/-- The answers describe a storage with this configuration, path and name. -/
def Described (storageId : String) (configuration : List (String × Json)) (targetPath : String)
    (name : Json) : Prop :=
  ∃ response storage, (storedAnswer service user endpoint storageId).body = some response ∧
    response.get? "storage" = some storage ∧
    if stripSlashes endpoint = "data_connectors" then
      (AsksSecrets user → ∃ secrets,
        (secretsAnswer service user endpoint storageId).body = some secrets ∧ SecretsForm secrets) ∧
      StorageForm storage response configuration targetPath name
    else
      (∀ secrets, response.get? "secrets" = some secrets → SecretsForm secrets) ∧
      StorageForm storage storage configuration targetPath name

/-- A rejected configuration is explained in JSON, and one that is found valid and has a place for
its mount can be written. -/
def Placed (configuration : Option (List (String × Json))) (targetPath : String) (name : Json) :
    Prop :=
  let res := service.post (service.url ++ "/storage_schema/validate") configuration
  (res.statusCode = 422 → res.body.isSome) ∧
    (res.statusCode = 204 → mountFolderIn workDir targetPath ≠ "" →
      mountFolderIn workDir targetPath ≠ "/" →
        Composable py (configuration.getD []) (if name.truthy then name else .str baseName))

/-- A request with both paths, or with the id of a storage that the data service refuses or
describes, for a configuration that can be written. -/
def Mountable (data : RCloneStorageRequest) : Prop :=
  match data.storageId.filter (· ≠ "") with
  | none =>
    ∃ sourcePath targetPath, data.sourcePath = some sourcePath ∧ data.targetPath = some targetPath ∧
      Placed service py workDir baseName data.configuration targetPath .null
  | some storageId =>
    user.accessToken = none ∨ Refused service user endpoint storageId ∨
      ∃ overrides configuration targetPath name, data.configuration = some overrides ∧
        Described service user endpoint storageId configuration targetPath name ∧
        Placed service py workDir baseName (some (unpack configuration overrides)) targetPath name

end Conditions

/-! ### Reading answers -/

theorem getItem_eq_ok_iff {key : String} {value found : Json} :
    getItem key value = .ok found ↔ value.get? key = some found :=
  ⟨get?_of_getItem, getItem_of_get?⟩

theorem reads_getItem (key : String) (value : Json) : Reads (getItem key value) := by
  cases value with
  | obj ms =>
    rw [getItem]
    cases Json.getMember key ms with
    | none => exact reads_error trivial
    | some found => exact reads_ok _
  | _ => exact reads_error trivial

theorem reads_getOr (key : String) (default_ value : Json) :
    Reads (getOr key default_ value) := by
  cases value with
  | obj ms => exact reads_ok _
  | _ => exact reads_error trivial

theorem reads_iterate (value : Json) : Reads (AnsweredStorage.iterate value) := by
  cases value with
  | arr xs => exact reads_ok _
  | obj ms => exact reads_ok _
  | str s => exact reads_ok _
  | _ => exact reads_error trivial

theorem reads_secretEntry (s : Json) : Reads (AnsweredStorage.secretEntry s) := by
  apply (reads_getItem _ _).bind
  intro secretId
  apply (reads_getItem _ _).bind
  intro name
  split
  · exact reads_ok _
  · exact reads_error trivial

theorem reads_readSecrets (secrets : Json) : Reads (AnsweredStorage.readSecrets secrets) :=
  (reads_iterate secrets).bind fun entries => Reads.mapM reads_secretEntry entries

theorem reads_read (storage named : Json) (secrets : List (Json × Json)) :
    Reads (AnsweredStorage.read storage named secrets) := by
  apply (reads_getItem _ _).bind
  intro config
  apply (reads_getItem _ _).bind
  intro sourcePath
  apply (reads_getItem _ _).bind
  intro targetPath
  apply (reads_getOr _ _ _).bind
  intro readonly
  exact (reads_getItem _ _).bind fun name => reads_ok _

theorem reads_json (res : HttpAnswer) : Reads res.json := by
  rw [HttpAnswer.json]
  cases res.body with
  | none => exact reads_error trivial
  | some body => exact reads_ok _

theorem json_eq_ok_iff {res : HttpAnswer} {body : Json} :
    res.json = .ok body ↔ res.body = some body := by
  rw [HttpAnswer.json]
  cases res.body with
  | none => simp
  | some found => simp

theorem secretEntry_ok_iff {s : Json} :
    (∃ entry, AnsweredStorage.secretEntry s = .ok entry) ↔ ∃ secretId,
      s.get? "secret_id" = some secretId ∧ AnsweredStorage.hashable secretId = true ∧
        (s.get? "name").isSome := by
  constructor
  · rintro ⟨entry, h⟩
    obtain ⟨secretId, hid, h⟩ := Results.bind_eq_ok_iff.mp h
    obtain ⟨name, hname, h⟩ := Results.bind_eq_ok_iff.mp h
    split at h
    next hhashable =>
      exact ⟨secretId, getItem_eq_ok_iff.mp hid, hhashable,
        Option.isSome_iff_exists.mpr ⟨name, getItem_eq_ok_iff.mp hname⟩⟩
    next => cases h
  · rintro ⟨secretId, hid, hhashable, hname⟩
    obtain ⟨name, hname⟩ := Option.isSome_iff_exists.mp hname
    refine ⟨(secretId, name), Results.bind_eq_ok_iff.mpr ⟨_, getItem_eq_ok_iff.mpr hid, ?_⟩⟩
    refine Results.bind_eq_ok_iff.mpr ⟨_, getItem_eq_ok_iff.mpr hname, ?_⟩
    rw [if_pos hhashable]
    rfl

theorem readSecrets_ok_iff {secrets : Json} :
    (∃ entries, AnsweredStorage.readSecrets secrets = .ok entries) ↔ SecretsForm secrets := by
  constructor
  · rintro ⟨entries, h⟩
    obtain ⟨read, hread, h⟩ := Results.bind_eq_ok_iff.mp h
    exact ⟨read, hread, fun s hs => secretEntry_ok_iff.mp (Results.exists_ok_of_mapM h hs)⟩
  · rintro ⟨read, hread, hform⟩
    obtain ⟨entries, hentries⟩ | ⟨s, hs, e, he, -⟩ := Results.mapM_cases AnsweredStorage.secretEntry read
    · exact ⟨entries, Results.bind_eq_ok_iff.mpr ⟨read, hread, hentries⟩⟩
    · obtain ⟨entry, hentry⟩ := secretEntry_ok_iff.mpr (hform s hs)
      cases hentry.symm.trans he

/-- What a storage is read from. -/
theorem read_ok_iff {storage named : Json} {secrets : List (Json × Json)}
    {configuration : List (String × Json)} {targetPath : String} {name : Json} :
    (∃ stored, AnsweredStorage.read storage named secrets = .ok stored ∧
      stored.config = .obj configuration ∧ stored.targetPath = .str targetPath ∧
        stored.name = name) ↔ StorageForm storage named configuration targetPath name := by
  constructor
  · rintro ⟨stored, h, hconfig, htarget, hname⟩
    obtain ⟨config, hc, h⟩ := Results.bind_eq_ok_iff.mp h
    obtain ⟨sourcePath, hs, h⟩ := Results.bind_eq_ok_iff.mp h
    obtain ⟨target, ht, h⟩ := Results.bind_eq_ok_iff.mp h
    obtain ⟨readonly, -, h⟩ := Results.bind_eq_ok_iff.mp h
    obtain ⟨named', hn, h⟩ := Results.bind_eq_ok_iff.mp h
    cases h
    subst hconfig htarget hname
    exact ⟨getItem_eq_ok_iff.mp hc,
      Option.isSome_iff_exists.mpr ⟨sourcePath, getItem_eq_ok_iff.mp hs⟩, getItem_eq_ok_iff.mp ht,
      getItem_eq_ok_iff.mp hn⟩
  · rintro ⟨hconfig, hsource, htarget, hname⟩
    obtain ⟨sourcePath, hsource⟩ := Option.isSome_iff_exists.mp hsource
    -- A value with a member is a dictionary.
    obtain ⟨readonly, hreadonly⟩ : ∃ readonly, getOr "readonly" true storage = .ok readonly := by
      cases storage with
      | obj ms => exact ⟨_, rfl⟩
      | _ => cases hconfig
    refine ⟨⟨.obj configuration, sourcePath, .str targetPath, readonly, name, secrets⟩, ?_, rfl, rfl,
      rfl⟩
    refine Results.bind_eq_ok_iff.mpr ⟨_, getItem_eq_ok_iff.mpr hconfig, ?_⟩
    refine Results.bind_eq_ok_iff.mpr ⟨_, getItem_eq_ok_iff.mpr hsource, ?_⟩
    refine Results.bind_eq_ok_iff.mpr ⟨_, getItem_eq_ok_iff.mpr htarget, ?_⟩
    refine Results.bind_eq_ok_iff.mpr ⟨_, hreadonly, ?_⟩
    exact Results.bind_eq_ok_iff.mpr ⟨_, getItem_eq_ok_iff.mpr hname, rfl⟩

/-! ### Refusals -/

theorem refusal_of_status {missing unauthorized : String} {denied : List Int} {res : HttpAnswer}
    (h : res.statusCode ≠ 200) : ∃ own, refusal missing unauthorized denied res = some own := by
  unfold refusal
  split
  · exact ⟨_, rfl⟩
  · split
    · exact ⟨_, rfl⟩
    · exact ⟨_, rfl⟩

theorem refusal_of_ok {missing unauthorized : String} {denied : List Int} {res : HttpAnswer}
    (h : res.statusCode = 200) (hdenied : (200 : Int) ∉ denied) :
    refusal missing unauthorized denied res = none := by
  unfold refusal
  rw [h, if_neg (by decide), if_neg hdenied, if_neg (by decide)]

theorem accepted_of_status {missing unauthorized : String} {denied : List Int} {res : HttpAnswer}
    (h : res.statusCode ≠ 200) :
    ∃ own, accepted (refusal missing unauthorized denied res) res = .error (.generic own) := by
  obtain ⟨own, hown⟩ := @refusal_of_status missing unauthorized denied res h
  exact ⟨own, by rw [hown]; rfl⟩

theorem accepted_of_ok {missing unauthorized : String} {denied : List Int} {res : HttpAnswer}
    (h : res.statusCode = 200) (hdenied : (200 : Int) ∉ denied) :
    accepted (refusal missing unauthorized denied res) res = res.json := by
  rw [refusal_of_ok h hdenied]
  rfl

section

variable {service : DataService} {user : User} {endpoint storageId : String}

/-- The secrets of a data connector, where they are not refused. -/
theorem connectorSecrets_eq
    (h : AsksSecrets user → (secretsAnswer service user endpoint storageId).statusCode = 200) :
    service.connectorSecrets storageId (service.requestUrl endpoint storageId)
        (storageHeaders user) =
      if AsksSecrets user then do
        let response ← (secretsAnswer service user endpoint storageId).json
        AnsweredStorage.readSecrets response
      else .ok [] := by
  by_cases hasks : AsksSecrets user
  · have hstatus := h hasks
    obtain ⟨headers, hheaders⟩ := Option.isSome_iff_exists.mp hasks
    rw [if_pos hasks]
    unfold secretsAnswer at hstatus ⊢
    rw [hheaders] at hstatus ⊢
    exact congrArg (· >>= AnsweredStorage.readSecrets) (accepted_of_ok hstatus (by decide))
  · rw [if_neg hasks, Option.not_isSome_iff_eq_none.mp hasks]
    rfl

theorem reads_connectorSecrets
    (h : AsksSecrets user → (secretsAnswer service user endpoint storageId).statusCode = 200) :
    Reads (service.connectorSecrets storageId (service.requestUrl endpoint storageId)
      (storageHeaders user)) := by
  rw [connectorSecrets_eq h]
  split
  · exact (reads_json _).bind fun response => reads_readSecrets response
  · exact reads_ok _

theorem connectorSecrets_ok_iff
    (h : AsksSecrets user → (secretsAnswer service user endpoint storageId).statusCode = 200) :
    (∃ secrets, service.connectorSecrets storageId (service.requestUrl endpoint storageId)
      (storageHeaders user) = .ok secrets) ↔
      (AsksSecrets user → ∃ secrets,
        (secretsAnswer service user endpoint storageId).body = some secrets ∧
          SecretsForm secrets) := by
  rw [connectorSecrets_eq h]
  by_cases hasks : AsksSecrets user
  · rw [if_pos hasks]
    constructor
    · rintro ⟨secrets, hsecrets⟩ _
      obtain ⟨response, hbody, hread⟩ := Results.bind_eq_ok_iff.mp hsecrets
      exact ⟨response, json_eq_ok_iff.mp hbody, readSecrets_ok_iff.mp ⟨secrets, hread⟩⟩
    · intro hform
      obtain ⟨response, hbody, hform⟩ := hform hasks
      obtain ⟨secrets, hread⟩ := readSecrets_ok_iff.mpr hform
      exact ⟨secrets, Results.bind_eq_ok_iff.mpr ⟨response, json_eq_ok_iff.mpr hbody, hread⟩⟩
  · rw [if_neg hasks]
    exact ⟨fun _ hyes => absurd hyes hasks, fun _ => ⟨[], rfl⟩⟩

theorem reads_responseSecrets (response : Json) : Reads (responseSecrets response) := by
  unfold responseSecrets
  split
  · exact reads_readSecrets _
  · exact reads_ok _

theorem responseSecrets_ok_iff {response : Json} :
    (∃ secrets, responseSecrets response = .ok secrets) ↔
      ∀ secrets, response.get? "secrets" = some secrets → SecretsForm secrets := by
  unfold responseSecrets
  cases response.get? "secrets" with
  | none => simp
  | some secrets => simp [readSecrets_ok_iff]

theorem getStorageById_refused (h : Refused service user endpoint storageId) :
    ∃ own, service.getStorageById user endpoint storageId = .error (.generic own) := by
  unfold getStorageById
  dsimp only
  obtain hstatus | ⟨hendpoint, hasks, ⟨connector, hbody, hstorage⟩, hstatus⟩ := h
  · split
    · obtain ⟨own, hown⟩ : ∃ own, accepted (connectorRefusal storageId
          (storedAnswer service user endpoint storageId))
          (storedAnswer service user endpoint storageId) = .error (.generic own) :=
        accepted_of_status hstatus
      exact ⟨own, Results.bind_eq_error_iff.mpr (.inl hown)⟩
    · obtain ⟨own, hown⟩ : ∃ own, accepted (storageRefusal storageId
          (storedAnswer service user endpoint storageId))
          (storedAnswer service user endpoint storageId) = .error (.generic own) :=
        accepted_of_status hstatus
      exact ⟨own, Results.bind_eq_error_iff.mpr (.inl hown)⟩
  · by_cases hfirst : (storedAnswer service user endpoint storageId).statusCode = 200
    swap
    · rw [if_pos hendpoint]
      obtain ⟨own, hown⟩ : ∃ own, accepted (connectorRefusal storageId
          (storedAnswer service user endpoint storageId))
          (storedAnswer service user endpoint storageId) = .error (.generic own) :=
        accepted_of_status hfirst
      exact ⟨own, Results.bind_eq_error_iff.mpr (.inl hown)⟩
    rw [if_pos hendpoint]
    obtain ⟨own, hown⟩ : ∃ own, service.connectorSecrets storageId
        (service.requestUrl endpoint storageId) (storageHeaders user) = .error (.generic own) := by
      unfold AsksSecrets at hasks
      unfold secretsAnswer at hstatus
      cases hheaders : storageHeaders user with
      | none =>
        rw [hheaders] at hasks
        cases hasks
      | some headers =>
        rw [hheaders] at hstatus
        obtain ⟨own, hown⟩ : ∃ own, accepted (connectorSecretsRefusal storageId
            (service.get (service.requestUrl endpoint storageId ++ "/secrets") (some headers)))
            (service.get (service.requestUrl endpoint storageId ++ "/secrets") (some headers)) =
              .error (.generic own) :=
          accepted_of_status hstatus
        exact ⟨own, Results.bind_eq_error_iff.mpr (.inl hown)⟩
    obtain ⟨storage, hstorage⟩ := Option.isSome_iff_exists.mp hstorage
    refine ⟨own, Results.bind_eq_error_iff.mpr (.inr ⟨connector, ?_, ?_⟩)⟩
    · exact (accepted_of_ok hfirst (by decide)).trans (json_eq_ok_iff.mpr hbody)
    · refine Results.bind_eq_error_iff.mpr (.inr ⟨storage, getItem_eq_ok_iff.mpr hstorage, ?_⟩)
      exact Results.bind_eq_error_iff.mpr (.inl hown)

/-- The storage is read from the answers where the data service does not refuse it. -/
theorem getStorageById_eq (h : (storedAnswer service user endpoint storageId).statusCode = 200) :
    service.getStorageById user endpoint storageId = (do
      let response ← (storedAnswer service user endpoint storageId).json
      let storage ← getItem "storage" response
      if stripSlashes endpoint = "data_connectors" then do
        let secrets ← service.connectorSecrets storageId (service.requestUrl endpoint storageId)
          (storageHeaders user)
        AnsweredStorage.read storage response secrets
      else do
        let secrets ← responseSecrets response
        AnsweredStorage.read storage storage secrets) := by
  unfold getStorageById
  dsimp only
  by_cases hendpoint : stripSlashes endpoint = "data_connectors"
  · simp only [if_pos hendpoint]
    exact congrArg (· >>= fun connector => getItem "storage" connector >>= fun storage =>
        service.connectorSecrets storageId (service.requestUrl endpoint storageId)
          (storageHeaders user) >>= fun secrets => AnsweredStorage.read storage connector secrets)
      (accepted_of_ok h (by decide))
  · simp only [if_neg hendpoint]
    exact congrArg (· >>= fun response => getItem "storage" response >>= fun storage =>
        responseSecrets response >>= fun secrets => AnsweredStorage.read storage storage secrets)
      (accepted_of_ok h (by decide))

theorem status_of_not_refused (h : ¬ Refused service user endpoint storageId) :
    (storedAnswer service user endpoint storageId).statusCode = 200 :=
  not_not.mp fun hstatus => h (.inl hstatus)

theorem reads_getStorageById (h : ¬ Refused service user endpoint storageId) :
    Reads (service.getStorageById user endpoint storageId) := by
  rw [getStorageById_eq (status_of_not_refused h)]
  -- The secrets are asked for only where the storage has been found in the first answer.
  intro e herror
  obtain hjson | ⟨response, hresponse, herror⟩ := Results.bind_eq_error_iff.mp herror
  · exact reads_json _ e hjson
  obtain hitem | ⟨storage, hstorage, herror⟩ := Results.bind_eq_error_iff.mp herror
  · exact reads_getItem _ _ e hitem
  split at herror
  next hendpoint =>
    have hsecrets : AsksSecrets user →
        (secretsAnswer service user endpoint storageId).statusCode = 200 := by
      intro hasks
      refine not_not.mp fun hstatus => h (.inr ⟨hendpoint, hasks, ⟨response, ?_, ?_⟩, hstatus⟩)
      · exact json_eq_ok_iff.mp hresponse
      · exact Option.isSome_iff_exists.mpr ⟨storage, getItem_eq_ok_iff.mp hstorage⟩
    exact ((reads_connectorSecrets hsecrets).bind fun _ => reads_read _ _ _) e herror
  next => exact ((reads_responseSecrets response).bind fun _ => reads_read _ _ _) e herror

theorem described_iff (h : ¬ Refused service user endpoint storageId)
    {configuration : List (String × Json)} {targetPath : String} {name : Json} :
    (∃ stored, service.getStorageById user endpoint storageId = .ok stored ∧
      stored.config = .obj configuration ∧ stored.targetPath = .str targetPath ∧
        stored.name = name) ↔
      Described service user endpoint storageId configuration targetPath name := by
  rw [getStorageById_eq (status_of_not_refused h)]
  have hsecrets : ∀ response storage,
      (storedAnswer service user endpoint storageId).body = some response →
        response.get? "storage" = some storage → stripSlashes endpoint = "data_connectors" →
          AsksSecrets user → (secretsAnswer service user endpoint storageId).statusCode = 200 := by
    intro response storage hresponse hstorage hendpoint hasks
    refine not_not.mp fun hstatus => h (.inr ⟨hendpoint, hasks, ⟨response, hresponse, ?_⟩, hstatus⟩)
    exact Option.isSome_iff_exists.mpr ⟨storage, hstorage⟩
  constructor
  · rintro ⟨stored, hstored, hfields⟩
    obtain ⟨response, hresponse, hstored⟩ := Results.bind_eq_ok_iff.mp hstored
    obtain ⟨storage, hstorage, hstored⟩ := Results.bind_eq_ok_iff.mp hstored
    rw [json_eq_ok_iff] at hresponse
    rw [getItem_eq_ok_iff] at hstorage
    refine ⟨response, storage, hresponse, hstorage, ?_⟩
    split at hstored
    next hendpoint =>
      obtain ⟨secrets, hread, hstored⟩ := Results.bind_eq_ok_iff.mp hstored
      rw [if_pos hendpoint]
      exact ⟨(connectorSecrets_ok_iff (hsecrets response storage hresponse hstorage hendpoint)).mp
        ⟨secrets, hread⟩, read_ok_iff.mp ⟨stored, hstored, hfields⟩⟩
    next hendpoint =>
      obtain ⟨secrets, hread, hstored⟩ := Results.bind_eq_ok_iff.mp hstored
      rw [if_neg hendpoint]
      exact ⟨responseSecrets_ok_iff.mp ⟨secrets, hread⟩, read_ok_iff.mp ⟨stored, hstored, hfields⟩⟩
  · rintro ⟨response, storage, hresponse, hstorage, hforms⟩
    by_cases hendpoint : stripSlashes endpoint = "data_connectors"
    · rw [if_pos hendpoint] at hforms
      obtain ⟨secrets, hread⟩ := (connectorSecrets_ok_iff
        (hsecrets response storage hresponse hstorage hendpoint)).mpr hforms.1
      obtain ⟨stored, hstored, hfields⟩ := read_ok_iff.mpr hforms.2
      refine ⟨stored, ?_, hfields⟩
      refine Results.bind_eq_ok_iff.mpr ⟨response, json_eq_ok_iff.mpr hresponse, ?_⟩
      refine Results.bind_eq_ok_iff.mpr ⟨storage, getItem_eq_ok_iff.mpr hstorage, ?_⟩
      rw [if_pos hendpoint]
      exact Results.bind_eq_ok_iff.mpr ⟨secrets, hread, hstored⟩
    · rw [if_neg hendpoint] at hforms
      obtain ⟨secrets, hread⟩ := responseSecrets_ok_iff.mpr hforms.1
      obtain ⟨stored, hstored, hfields⟩ := read_ok_iff.mpr hforms.2
      refine ⟨stored, ?_, hfields⟩
      refine Results.bind_eq_ok_iff.mpr ⟨response, json_eq_ok_iff.mpr hresponse, ?_⟩
      refine Results.bind_eq_ok_iff.mpr ⟨storage, getItem_eq_ok_iff.mpr hstorage, ?_⟩
      rw [if_neg hendpoint]
      exact Results.bind_eq_ok_iff.mpr ⟨secrets, hread, hstored⟩

end

/-! ### Writing the configuration -/

theorem forall_mem_setMember {P : String × Json → Prop} {key : String} {value : Json}
    {ms : List (String × Json)} (hnodup : (ms.map Prod.fst).Nodup) :
    (∀ m ∈ Json.setMember key value ms, P m) ↔ P (key, value) ∧ ∀ m ∈ ms, m.1 = key ∨ P m := by
  induction ms with
  | nil => simp [Json.setMember]
  | cons m ms ih =>
    obtain ⟨hnew, hrest⟩ := List.nodup_cons.mp hnodup
    by_cases hkey : m.1 = key
    · rw [Json.setMember, if_pos hkey, List.forall_mem_cons, List.forall_mem_cons]
      have hothers : ∀ other ∈ ms, other.1 ≠ key := fun other hother heq =>
        hnew (List.mem_map.mpr ⟨other, hother, heq.trans hkey.symm⟩)
      constructor
      · rintro ⟨hvalue, hms⟩
        exact ⟨hkey ▸ hvalue, .inl hkey, fun other hother => .inr (hms other hother)⟩
      · rintro ⟨hvalue, -, hms⟩
        exact ⟨hkey ▸ hvalue, fun other hother =>
          (hms other hother).resolve_left (hothers other hother)⟩
    · rw [Json.setMember, if_neg hkey, List.forall_mem_cons, ih hrest, List.forall_mem_cons]
      constructor
      · rintro ⟨hm, hvalue, hms⟩
        exact ⟨hvalue, .inr hm, hms⟩
      · rintro ⟨hvalue, hm, hms⟩
        exact ⟨hm.resolve_left hkey, hvalue, hms⟩

section Writing

variable {py : PyText.Str} {members : List (String × Json)}

theorem cleanBut_setMember (keys : List String) {key text : String} {ms : List (String × Json)}
    (hnodup : (ms.map Prod.fst).Nodup) (htext : NoStrayPercent text) :
    CleanBut py keys (Json.setMember key (.str text) ms) ↔ CleanBut py (key :: keys) ms := by
  unfold CleanBut
  rw [forall_mem_setMember hnodup]
  constructor
  · rintro ⟨-, h⟩ m hm
    obtain hkey | hkeys | hclean := h m hm
    · exact .inl (hkey ▸ List.mem_cons_self)
    · exact .inl (List.mem_cons_of_mem _ hkeys)
    · exact .inr hclean
  · intro h
    refine ⟨.inr htext, fun m hm => ?_⟩
    obtain hkeys | hclean := h m hm
    · obtain rfl | hkeys := List.mem_cons.mp hkeys
      · exact .inl rfl
      · exact .inr (.inl hkeys)
    · exact .inr (.inr hclean)

theorem endpointUrl_of_known {storageType access : Json}
    (htype : isPolyboxOrSwitch storageType = true)
    (haccess : access = .str "shared" ∨ access = .str "personal") :
    ∃ url, endpointUrl storageType access = some url ∧ NoStrayPercent url := by
  have hst : storageType = .str "polybox" ∨ storageType = .str "switchDrive" := by
    simpa [isPolyboxOrSwitch] using htype
  obtain rfl | rfl := hst <;> obtain rfl | rfl := haccess
  · exact ⟨"https://polybox.ethz.ch/public.php/webdav/", by decide +kernel, by decide +kernel⟩
  · exact ⟨"https://polybox.ethz.ch/remote.php/webdav/", by decide +kernel, by decide +kernel⟩
  · exact ⟨"https://drive.switch.ch/public.php/webdav/", by decide +kernel, by decide +kernel⟩
  · exact ⟨"https://drive.switch.ch/remote.php/webdav/", by decide +kernel, by decide +kernel⟩

theorem endpointUrl_of_unknown {storageType access : Json} (hshared : access ≠ .str "shared")
    (hpersonal : access ≠ .str "personal") : endpointUrl storageType access = none := by
  simp [endpointUrl, hshared, hpersonal]

theorem nodup_webdavMembers (hnodup : (members.map Prod.fst).Nodup) :
    ((webdavMembers members).map Prod.fst).Nodup := by
  have hprovider := Json.nodup_setMember "provider" (.str "")
    (Json.nodup_setMember "type" (.str "webdav") hnodup)
  unfold webdavMembers
  cases endpointUrl (storageType members) (access members) with
  | none => exact hprovider
  | some url => exact Json.nodup_setMember _ _ hprovider

theorem cleanBut_webdavMembers (keys : List String) (hnodup : (members.map Prod.fst).Nodup)
    (htype : isPolyboxOrSwitch (storageType members) = true) :
    CleanBut py keys (webdavMembers members) ↔
      if access members = .str "shared" ∨ access members = .str "personal" then
        CleanBut py ("type" :: "provider" :: "url" :: keys) members
      else CleanBut py ("type" :: "provider" :: keys) members := by
  have hwebdav : NoStrayPercent "webdav" := by decide +kernel
  have hempty : NoStrayPercent "" := by decide +kernel
  have htypeNodup := Json.nodup_setMember "type" (.str "webdav") hnodup
  have hprovider := Json.nodup_setMember "provider" (.str "") htypeNodup
  unfold webdavMembers
  dsimp only
  split
  next haccess =>
    obtain ⟨url, hurl, hclean⟩ := endpointUrl_of_known htype haccess
    rw [hurl, Option.elim_some, cleanBut_setMember _ hprovider hclean,
      cleanBut_setMember _ htypeNodup hempty, cleanBut_setMember _ hnodup hwebdav]
  next haccess =>
    obtain ⟨hshared, hpersonal⟩ := not_or.mp haccess
    rw [endpointUrl_of_unknown hshared hpersonal, Option.elim_none,
      cleanBut_setMember _ htypeNodup hempty, cleanBut_setMember _ hnodup hwebdav]

theorem value_of_access (hnodup : (members.map Prod.fst).Nodup) {m : String × Json}
    (hm : m ∈ members) (hkey : m.1 = "provider") {text : String}
    (haccess : access members = .str text) : m.2 = .str text := by
  have hget : ∀ ms : List (String × Json), (ms.map Prod.fst).Nodup → m ∈ ms →
      Json.getMember "provider" ms = some m.2 := by
    intro ms hms hmem
    induction ms with
    | nil => cases hmem
    | cons first ms ih =>
      obtain ⟨hnew, hrest⟩ := List.nodup_cons.mp hms
      obtain rfl | hmem := List.mem_cons.mp hmem
      · rw [Json.getMember, if_pos hkey]
      · have hfirst : first.1 ≠ "provider" := fun heq =>
          hnew (List.mem_map.mpr ⟨m, hmem, hkey.trans heq.symm⟩)
        rw [Json.getMember, if_neg hfirst, ih hrest hmem]
  rw [access, hget members hnodup hm, Option.getD_some] at haccess
  exact haccess

/-- The values that the parser is given are the values that are not replaced, and the user of a
shared link. -/
theorem clean_rewritten_iff (hnodup : (members.map Prod.fst).Nodup)
    (hlink : LinkIsText members) :
    CleanBut py [] (rewritten members) ↔
      (isSharedLink members →
        ∃ link, publicLink members = some link ∧ NoStrayPercent (lastSegment link)) ∧
      CleanBut py (replacedKeys members) members := by
  unfold rewritten replacedKeys
  by_cases htype : isPolyboxOrSwitch (storageType members) = true
  · rw [if_pos htype, if_pos htype]
    by_cases hshared : access members = .str "shared"
    · obtain ⟨link, hsome⟩ := Option.isSome_iff_exists.mp (hlink ⟨htype, hshared⟩)
      rw [if_pos hshared, if_pos hshared, hsome, Option.getD_some]
      constructor
      · intro hclean
        unfold CleanBut at hclean
        rw [forall_mem_setMember (nodup_webdavMembers hnodup)] at hclean
        obtain ⟨huser, hrest⟩ := hclean
        have huser' : NoStrayPercent (lastSegment link) := huser.resolve_left List.not_mem_nil
        refine ⟨fun _ => ⟨link, rfl, huser'⟩, ?_⟩
        have hwebdav : CleanBut py ["user"] (webdavMembers members) := fun m hm =>
          (hrest m hm).imp List.mem_singleton.mpr fun h => h.resolve_left List.not_mem_nil
        rwa [cleanBut_webdavMembers _ hnodup htype, if_pos (.inl hshared)] at hwebdav
      · rintro ⟨huser, hclean⟩
        obtain ⟨link', hlink', huser⟩ := huser ⟨htype, hshared⟩
        obtain rfl := Option.some.inj hlink'
        rw [cleanBut_setMember _ (nodup_webdavMembers hnodup) huser,
          cleanBut_webdavMembers _ hnodup htype, if_pos (.inl hshared)]
        exact hclean
    · have hnotShared : ¬ isSharedLink members := fun h => hshared h.2
      rw [if_neg hshared, if_neg hshared, cleanBut_webdavMembers _ hnodup htype]
      simp only [hshared, hnotShared, false_or, false_imp_iff, true_and]
      split
      · exact Iff.rfl
      · exact Iff.rfl
  · have hnotShared : ¬ isSharedLink members := fun h => htype h.1
    have hother : NoStrayPercent "Other" := by decide +kernel
    rw [if_neg htype, if_neg htype]
    simp only [hnotShared, false_imp_iff, true_and]
    split
    next hswitch =>
      -- The text `Switch` that is replaced has no percent sign either.
      rw [cleanBut_setMember _ hnodup hother]
      constructor
      · intro hclean m hm
        obtain hkey | hclean := hclean m hm
        · have hprovider : m.1 = "provider" := List.mem_singleton.mp hkey
          have hvalue : m.2 = .str "Switch" := value_of_access hnodup hm hprovider hswitch.2
          rw [hvalue]
          exact .inr (by decide +kernel : NoStrayPercent "Switch")
        · exact .inr hclean
      · exact fun hclean m hm => (hclean m hm).imp (fun h => absurd h List.not_mem_nil) id
    next => exact Iff.rfl

end Writing

section Manifest

variable {py : PyText.Str}

theorem clean_iff_stringified (members : List (String × Json)) :
    (∀ item ∈ stringified py members, beforeSet item.2 = .ok ()) ↔
      CleanBut py [] members := by
  constructor
  · exact fun h m hm => .inr (h _ (List.mem_map_of_mem hm))
  · intro h item hitem
    obtain ⟨m, hm, rfl⟩ := List.mem_map.mp hitem
    exact (h m hm).resolve_left List.not_mem_nil

theorem typedConfigString_ok_iff {s : RCloneStorage}
    (hnodup : (s.configuration.map Prod.fst).Nodup) (name : String) :
    (∃ result, s.configString py name = .ok result) ↔
      Composable py s.configuration (.str name) := by
  by_cases hne : s.configuration = []
  · constructor
    · rintro ⟨result, h⟩
      rw [RCloneStorage.configString, hne] at h
      cases h
    · intro h
      exact absurd hne (ne_nil_of_isSome h.type)
  · constructor
    · rintro ⟨⟨fileText, after⟩, h⟩
      obtain ⟨hrewrite, hname, hclean, -⟩ := (configString_eq_ok_iff hne).mp h
      obtain ⟨hlink, hhashable, htype, rfl⟩ := rewriteConfiguration_eq_ok_iff.mp hrewrite
      have hrewritten := (clean_rewritten_iff hnodup hlink).mp ((clean_iff_stringified _).mp hclean)
      exact ⟨htype, hhashable, hrewritten.1, ⟨name, rfl, hname⟩, hrewritten.2⟩
    · rintro ⟨htype, hhashable, hlink, ⟨name', hname', hname⟩, hvalues⟩
      obtain rfl := Json.str.inj hname'
      have htext : LinkIsText s.configuration := by
        intro hshared
        obtain ⟨link, hsome, -⟩ := hlink hshared
        exact Option.isSome_iff_exists.mpr ⟨link, hsome⟩
      have hrewrite := rewriteConfiguration_eq_ok_iff.mpr ⟨htext, hhashable, htype, rfl⟩
      have hclean := (clean_rewritten_iff hnodup htext).mpr ⟨hlink, hvalues⟩
      exact ⟨_, (configString_eq_ok_iff hne).mpr
        ⟨hrewrite, hname, (clean_iff_stringified _).mpr hclean, rfl⟩⟩

theorem foreign_map {α β : Type} {x : Except PyError α} (h : Foreign x) (f : α → β) :
    Foreign (x.map f) := by
  intro e herror
  cases x with
  | ok a => cases herror
  | error e' =>
    cases herror
    exact h e rfl

theorem anyConfigString_foreign (s : AnyStorage) (remote : Json) :
    Foreign (s.configString py remote) := by
  have hmissing : ∀ message, Foreign (.error (.validationError message) : Except PyError Unit) :=
    fun message => foreign_error (by simp)
  have hrest : Foreign (do
      let _ ← (s.configured (s.configuration.getD [])).rewriteConfiguration
      (.error .typeError : Except PyError String)) :=
    (rewriteConfiguration_foreign _).bind fun _ => foreign_error (by simp)
  unfold AnyStorage.configString
  cases remote with
  | str name => exact foreign_map (configString_foreign py _ name) Prod.fst
  | _ =>
    dsimp only
    by_cases hempty : (s.configuration.getD []).isEmpty = true
    · rw [if_pos hempty]
      exact (hmissing _).bind fun _ => hrest
    · rw [if_neg hempty]
      exact hrest

theorem anyConfigString_ok_iff {s : AnyStorage}
    (hnodup : ((s.configuration.getD []).map Prod.fst).Nodup) (remote : Json) :
    (∃ text, s.configString py remote = .ok text) ↔
      Composable py (s.configuration.getD []) remote := by
  have hother : (∀ name, remote ≠ .str name) → ¬ Composable py (s.configuration.getD []) remote := by
    intro hremote h
    obtain ⟨name, hname, -⟩ := h.remote
    exact hremote name hname
  cases remote with
  | str name =>
    have htyped := @typedConfigString_ok_iff py (s.configured (s.configuration.getD [])) hnodup name
    refine Iff.trans ?_ htyped
    constructor
    · rintro ⟨text, h⟩
      obtain ⟨result, hresult, -⟩ := Results.map_eq_ok_iff.mp h
      exact ⟨result, hresult⟩
    · rintro ⟨result, h⟩
      exact ⟨result.1, Results.map_eq_ok_iff.mpr ⟨result, h, rfl⟩⟩
  | _ =>
    refine ⟨?_, fun h => absurd h (hother (by simp))⟩
    rintro ⟨text, h⟩
    exfalso
    unfold AnyStorage.configString at h
    dsimp only at h
    split at h
    · cases h
    · obtain ⟨_, -, h⟩ := Results.bind_eq_ok_iff.mp h
      cases h

theorem handled_getManifestPatch_iff (config : Config) {s : AnyStorage}
    (hnodup : ((s.configuration.getD []).map Prod.fst).Nodup) (baseName : String) :
    Handled (s.getManifestPatch config py baseName) ↔
      Composable py (s.configuration.getD []) (s.remoteName baseName) := by
  rw [← anyConfigString_ok_iff hnodup, ← handled_iff_of_foreign (anyConfigString_foreign s _)]
  exact handled_bind_iff.trans (and_iff_left fun _ _ => handled_ok _)

end Manifest

/-! ### The whole request -/

theorem checkMountPoints_single (mountFolder : String) :
    checkMountPoints [mountFolder] =
      if mountFolder ≠ "" ∧ mountFolder ≠ "/" then .ok ()
      else .error (.generic (userInputError
        "Storage mount points must be set, can't be at the root of the project and must be unique."
        none)) := by
  have hsingle : [mountFolder].dedup = [mountFolder] :=
    List.Nodup.dedup (List.nodup_singleton mountFolder)
  have hnil : ([] : List String).dedup = [] := List.dedup_nil
  unfold checkMountPoints
  by_cases h : mountFolder ≠ "" ∧ mountFolder ≠ "/"
  · simp [h, hsingle, anyStartsWith]
  · simp [h, hnil]

section Requests

variable (service : DataService) (config : Config) (py : PyText.Str) (user : User)
  (endpoint : String) (workDir : PosixPath) (userSecretKey baseName : String)

/-- The manifest patch of a storage that is requested. -/
def requestedPatch (data : RCloneStorageRequest) : Except PyError (List Patch) := do
  let storage ← AnyStorage.load service py user endpoint workDir userSecretKey data
  storage.getManifestPatch config py baseName

/-- What is done with a storage that has been made. -/
def finish (storage : AnyStorage) : Except PyError (List Patch) := do
  checkMountPoints [storage.mountFolder]
  storage.getManifestPatch config py baseName

variable {service config py user endpoint workDir userSecretKey baseName}

theorem requestedPatch_of_not_validation {data : RCloneStorageRequest}
    (h : ∀ message, AnyStorage.storageFromSchema service py user endpoint workDir userSecretKey
      data ≠ .error (.validationError message)) :
    requestedPatch service config py user endpoint workDir userSecretKey baseName data =
      (AnyStorage.storageFromSchema service py user endpoint workDir userSecretKey data >>=
        finish config py baseName) := by
  unfold requestedPatch AnyStorage.load
  cases hresult : AnyStorage.storageFromSchema service py user endpoint workDir userSecretKey
      data with
  | ok storage =>
    change ((checkMountPoints [storage.mountFolder] >>= fun _ => Except.ok storage) >>= _) =
      (checkMountPoints [storage.mountFolder] >>= _)
    cases checkMountPoints [storage.mountFolder] <;> rfl
  | error e =>
    cases e with
    | validationError message => exact absurd hresult (h message)
    | _ => rfl

theorem handled_validate_iff (configuration : Option (List (String × Json))) :
    Handled (service.validateStorageConfiguration py configuration) ↔
      ((service.post (service.url ++ "/storage_schema/validate") configuration).statusCode = 422 →
        (service.post (service.url ++ "/storage_schema/validate") configuration).body.isSome) := by
  unfold validateStorageConfiguration
  dsimp only
  generalize service.post (service.url ++ "/storage_schema/validate") configuration = res
  split
  next hinvalid =>
    rw [handled_bind_iff]
    constructor
    · rintro ⟨hjson, -⟩ _
      obtain ⟨body, hbody⟩ | ⟨e, he⟩ : (∃ body, res.json = .ok body) ∨ ∃ e, res.json = .error e := by
        cases res.json with
        | ok body => exact .inl ⟨body, rfl⟩
        | error e => exact .inr ⟨e, rfl⟩
      · exact Option.isSome_iff_exists.mpr ⟨body, json_eq_ok_iff.mp hbody⟩
      · obtain ⟨own, rfl⟩ := hjson e he
        cases reads_json res _ he
    · intro hbody
      obtain ⟨body, hbody⟩ := Option.isSome_iff_exists.mp (hbody hinvalid)
      refine ⟨?_, fun _ _ => handled_generic _⟩
      rw [json_eq_ok_iff.mpr hbody]
      exact handled_ok body
  next hinvalid =>
    refine ⟨fun _ heq => absurd heq hinvalid, fun _ => ?_⟩
    split
    · exact handled_generic _
    · exact handled_ok ()

theorem validate_ok_iff (configuration : Option (List (String × Json))) :
    service.validateStorageConfiguration py configuration = .ok () ↔
      (service.post (service.url ++ "/storage_schema/validate") configuration).statusCode = 204 := by
  unfold validateStorageConfiguration
  dsimp only
  generalize service.post (service.url ++ "/storage_schema/validate") configuration = res
  split
  next hinvalid =>
    rw [hinvalid]
    constructor
    · intro h
      obtain ⟨body, -, h⟩ := Results.bind_eq_ok_iff.mp h
      cases h
    · intro h
      cases h
  next =>
    split
    next hstatus =>
      refine ⟨fun h => ?_, fun h => absurd h hstatus⟩
      cases h
    next hstatus => exact ⟨fun _ => not_not.mp hstatus, fun _ => rfl⟩

/-- A storage with a target path that is a text. -/
theorem handled_make_iff {configuration : Option (List (String × Json))}
    (hnodup : ((configuration.getD []).map Prod.fst).Nodup) (sourcePath readonly name : Json)
    (targetPath : String) (secrets : List (Json × Json)) :
    Handled (AnyStorage.make service py workDir userSecretKey configuration sourcePath
        (.str targetPath) readonly name secrets >>= finish config py baseName) ↔
      Placed service py workDir baseName configuration targetPath name := by
  have hmake : AnyStorage.make service py workDir userSecretKey configuration sourcePath
      (.str targetPath) readonly name secrets =
      service.validateStorageConfiguration py configuration >>= fun _ =>
        .ok ⟨configuration, sourcePath, mountFolderIn workDir targetPath, readonly, name, secrets,
          userSecretKey⟩ := rfl
  have hassoc : ∀ {x : Except PyError Unit} {storage : AnyStorage},
      (x >>= fun _ => .ok storage) >>= finish config py baseName =
        x >>= fun _ => finish config py baseName storage := by
    intro x storage
    cases x <;> rfl
  rw [hmake, hassoc, handled_bind_iff, handled_validate_iff, Placed]
  refine and_congr_right fun _ => ?_
  have hunit : ∀ {p : Prop}, (∀ a : Unit,
      service.validateStorageConfiguration py configuration = .ok a → p) ↔
      ((service.post (service.url ++ "/storage_schema/validate") configuration).statusCode = 204 →
        p) := by
    intro p
    rw [← @validate_ok_iff service py]
    exact ⟨fun h => h (), fun h a => h⟩
  rw [hunit]
  refine imp_congr_right fun _ => ?_
  rw [finish, handled_bind_iff, checkMountPoints_single]
  by_cases hmount : mountFolderIn workDir targetPath ≠ "" ∧ mountFolderIn workDir targetPath ≠ "/"
  · rw [if_pos hmount, ← and_imp, imp_iff_right hmount]
    refine (and_iff_right (handled_ok ())).trans ?_
    have hpatch := @handled_getManifestPatch_iff py config ⟨configuration, sourcePath,
      mountFolderIn workDir targetPath, readonly, name, secrets, userSecretKey⟩ hnodup baseName
    exact ⟨fun h => hpatch.mp (h () rfl), fun h _ _ => hpatch.mpr h⟩
  · rw [if_neg hmount, ← and_imp]
    refine ⟨fun _ h => absurd h hmount, fun _ => ⟨handled_generic _, ?_⟩⟩
    intro a ha
    cases ha

theorem nodup_mergeConfiguration {ms : List (String × Json)} (hnodup : (ms.map Prod.fst).Nodup)
    (overrides : List (String × Json)) : ((mergeConfiguration ms overrides).map Prod.fst).Nodup := by
  unfold mergeConfiguration
  induction overrides generalizing ms with
  | nil => exact hnodup
  | cons m overrides ih => exact ih (Json.nodup_setMember m.1 m.2 hnodup)

theorem nodup_unpack (configuration overrides : List (String × Json)) :
    (((some (unpack configuration overrides)).getD []).map Prod.fst).Nodup :=
  nodup_mergeConfiguration (@nodup_mergeConfiguration [] List.nodup_nil configuration) overrides

theorem not_validation_of_bind {α : Type} {x : Except PyError α} {f : α → Except PyError AnyStorage}
    (hx : Reads x) (hf : ∀ a message, f a ≠ .error (.validationError message)) (message : String) :
    (x >>= f) ≠ .error (.validationError message) := by
  intro h
  obtain hraised | ⟨a, -, hraised⟩ := Results.bind_eq_error_iff.mp h
  · cases hx _ hraised
  · exact hf a message hraised

theorem reads_folder (targetPath : Json) : Reads (folder workDir targetPath) := by
  cases targetPath with
  | str path => exact reads_ok _
  | _ => exact reads_error trivial

theorem make_not_validation (configuration : Option (List (String × Json)))
    (sourcePath targetPath readonly name : Json) (secrets : List (Json × Json)) (message : String) :
    AnyStorage.make service py workDir userSecretKey configuration sourcePath targetPath readonly
      name secrets ≠ .error (.validationError message) := by
  apply not_validation_of_bind (reads_folder targetPath)
  intro mountFolder message h
  obtain hraised | ⟨_, -, hraised⟩ := Results.bind_eq_error_iff.mp h
  · unfold validateStorageConfiguration at hraised
    dsimp only at hraised
    split at hraised
    · obtain hjson | ⟨body, -, hraised⟩ := Results.bind_eq_error_iff.mp hraised
      · cases reads_json _ _ hjson
      · cases hraised
    · split at hraised <;> cases hraised
  · cases hraised

theorem reads_required {α : Type} (key : String) (value : Option α) : Reads (required key value) := by
  cases value with
  | none => exact reads_error trivial
  | some value => exact reads_ok value

theorem reads_storedConfiguration (config : Json) (overrides : Option (List (String × Json))) :
    Reads (storedConfiguration config overrides) := by
  unfold storedConfiguration
  split
  · exact reads_ok _
  · exact reads_error trivial

/-- A value has been read where what is made of it is handled. -/
theorem ok_of_handled_bind {α β : Type} {x : Except PyError α} {f : α → Except PyError β}
    (hx : Reads x) (h : Handled (x >>= f)) : ∃ a, x = .ok a ∧ Handled (f a) := by
  obtain ⟨hhandled, hf⟩ := handled_bind_iff.mp h
  cases x with
  | ok a => exact ⟨a, rfl, hf a rfl⟩
  | error e =>
    obtain ⟨own, rfl⟩ := hhandled e rfl
    cases hx _ rfl

theorem bind_finish_assoc {α : Type} (x : Except PyError α) (f : α → Except PyError AnyStorage) :
    (x >>= f) >>= finish config py baseName =
      x >>= fun a => f a >>= finish config py baseName := by
  cases x <;> rfl

/-- A request that gives its paths itself. -/
theorem handled_inline_iff {data : RCloneStorageRequest} (hdata : Accepted data)
    (hid : data.storageId.filter (· ≠ "") = none) :
    Handled (requestedPatch service config py user endpoint workDir userSecretKey baseName data) ↔
      ∃ sourcePath targetPath, data.sourcePath = some sourcePath ∧
        data.targetPath = some targetPath ∧
          Placed service py workDir baseName data.configuration targetPath .null := by
  have hnodup : ((data.configuration.getD []).map Prod.fst).Nodup := by
    cases hconfiguration : data.configuration with
    | none => exact List.nodup_nil
    | some configuration => exact hdata.nodup configuration hconfiguration
  have hschema : AnyStorage.storageFromSchema service py user endpoint workDir userSecretKey data =
      (do
        let sourcePath ← required "source_path" data.sourcePath
        let targetPath ← required "target_path" data.targetPath
        AnyStorage.make service py workDir userSecretKey data.configuration (.str sourcePath)
          (.str targetPath) (.bool data.readonly) .null []) := by
    unfold AnyStorage.storageFromSchema
    rw [hid]
  rw [requestedPatch_of_not_validation, hschema]
  · rw [bind_finish_assoc]
    constructor
    · intro h
      obtain ⟨sourcePath, hsource, h⟩ := ok_of_handled_bind (reads_required _ _) h
      rw [bind_finish_assoc] at h
      obtain ⟨targetPath, htarget, h⟩ := ok_of_handled_bind (reads_required _ _) h
      have hsource' : data.sourcePath = some sourcePath := by
        cases hpath : data.sourcePath with
        | none => rw [hpath] at hsource; cases hsource
        | some path => rw [hpath] at hsource; cases hsource; rfl
      have htarget' : data.targetPath = some targetPath := by
        cases hpath : data.targetPath with
        | none => rw [hpath] at htarget; cases htarget
        | some path => rw [hpath] at htarget; cases htarget; rfl
      exact ⟨sourcePath, targetPath, hsource', htarget', (handled_make_iff hnodup _ _ _ _ _).mp h⟩
    · rintro ⟨sourcePath, targetPath, hsource, htarget, hplaced⟩
      rw [hsource, htarget]
      exact (handled_make_iff hnodup _ _ _ _ _).mpr hplaced
  · intro message
    rw [hschema]
    apply not_validation_of_bind (reads_required _ _)
    intro sourcePath message
    apply not_validation_of_bind (reads_required _ _)
    exact fun targetPath message => make_not_validation _ _ _ _ _ _ message

/-- A request for a storage that the data service knows. -/
theorem handled_stored_iff {data : RCloneStorageRequest} {storageId token : String}
    (hid : data.storageId.filter (· ≠ "") = some storageId) (htoken : user.accessToken = some token) :
    Handled (requestedPatch service config py user endpoint workDir userSecretKey baseName data) ↔
      Refused service user endpoint storageId ∨
        ∃ overrides configuration targetPath name, data.configuration = some overrides ∧
          Described service user endpoint storageId configuration targetPath name ∧
          Placed service py workDir baseName (some (unpack configuration overrides)) targetPath
            name := by
  have hschema : AnyStorage.storageFromSchema service py user endpoint workDir userSecretKey data =
      (do
        let stored ← service.getStorageById user endpoint storageId
        let configuration ← storedConfiguration stored.config data.configuration
        AnyStorage.make service py workDir userSecretKey (some configuration) stored.sourcePath
          stored.targetPath stored.readonly stored.name stored.secrets) := by
    unfold AnyStorage.storageFromSchema
    rw [hid, htoken]
  have hmake : ∀ (stored : AnsweredStorage) message,
      (storedConfiguration stored.config data.configuration >>= fun configuration =>
        AnyStorage.make service py workDir userSecretKey (some configuration) stored.sourcePath
          stored.targetPath stored.readonly stored.name stored.secrets) ≠
        .error (.validationError message) := fun stored message =>
    not_validation_of_bind (reads_storedConfiguration _ _)
      (fun configuration message => make_not_validation _ _ _ _ _ _ message) message
  by_cases hrefused : Refused service user endpoint storageId
  · obtain ⟨own, hown⟩ := getStorageById_refused hrefused
    refine ⟨fun _ => .inl hrefused, fun _ => ?_⟩
    have herror : AnyStorage.storageFromSchema service py user endpoint workDir userSecretKey data =
        .error (.generic own) := by
      rw [hschema, hown]
      rfl
    rw [requestedPatch_of_not_validation, herror]
    · exact handled_generic own
    · rw [herror]
      simp
  · rw [requestedPatch_of_not_validation, hschema, bind_finish_assoc]
    swap
    · rw [hschema]
      exact not_validation_of_bind (reads_getStorageById hrefused) hmake
    constructor
    · intro h
      obtain ⟨stored, hstored, h⟩ := ok_of_handled_bind (reads_getStorageById hrefused) h
      rw [bind_finish_assoc] at h
      obtain ⟨merged, hmerged, h⟩ := ok_of_handled_bind (reads_storedConfiguration _ _) h
      obtain ⟨configuration, overrides, hconfig, hoverrides, rfl⟩ : ∃ configuration overrides,
          stored.config = .obj configuration ∧ data.configuration = some overrides ∧
            merged = unpack configuration overrides := by
        unfold storedConfiguration at hmerged
        split at hmerged
        next configuration overrides hconfig hoverrides =>
          exact ⟨configuration, overrides, hconfig, hoverrides, (Except.ok.inj hmerged).symm⟩
        next => cases hmerged
      obtain ⟨targetPath, htarget⟩ : ∃ targetPath, stored.targetPath = .str targetPath := by
        unfold AnyStorage.make at h
        rw [bind_finish_assoc] at h
        obtain ⟨mountFolder, hfolder, -⟩ := ok_of_handled_bind (reads_folder _) h
        cases htarget : stored.targetPath with
        | str targetPath => exact ⟨targetPath, rfl⟩
        | _ =>
          rw [htarget] at hfolder
          cases hfolder
      rw [htarget] at h
      exact .inr ⟨overrides, configuration, targetPath, stored.name, hoverrides,
        (described_iff hrefused).mp ⟨stored, hstored, hconfig, htarget, rfl⟩,
        (handled_make_iff (nodup_unpack _ _) _ _ _ _ _).mp h⟩
    · rintro (hyes | ⟨overrides, configuration, targetPath, name, hoverrides, hdescribed, hplaced⟩)
      · exact absurd hyes hrefused
      obtain ⟨stored, hstored, hconfig, htarget, rfl⟩ := (described_iff hrefused).mpr hdescribed
      rw [hstored, hoverrides]
      change Handled ((storedConfiguration stored.config (some overrides) >>= _) >>= _)
      rw [hconfig, htarget]
      exact (handled_make_iff (nodup_unpack _ _) _ _ _ _ _).mpr hplaced

end Requests

/-- A data service that knows no storage and finds every configuration valid. -/
def emptyService : DataService where
  url := "https://renku/data"
  get := fun _ _ => { statusCode := 404, body := none }
  post := fun _ _ => { statusCode := 204, body := none }

def guest : User := .anonymous { username := "anon-1", safeUsername := "anon-1", id := "anon-1" }

def bucketRequest : RCloneStorageRequest :=
  { sourcePath := some "bucket", targetPath := some "data", configuration := some [("type", .str "s3")]
    storageId := none, readonly := true }

def emptyRequest : RCloneStorageRequest :=
  { sourcePath := none, targetPath := none, configuration := some [], storageId := none
    readonly := true }

end RenkuNotebooks.Notebooks.StorageOutcomes
