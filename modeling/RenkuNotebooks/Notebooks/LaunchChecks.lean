import RenkuNotebooks.Notebooks.ImageFallback
import RenkuNotebooks.Notebooks.LaunchedOptions
import RenkuNotebooks.Notebooks.MountPoints
import RenkuNotebooks.Notebooks.PyDict

/-!
# The checks before a start

Before a server is started, the handler asks the registries for the image, the resource service for
the class and the data service for the key of the user and for the storages. An image and a storage
can be reported missing, a class and a key cannot.
-/

namespace RenkuNotebooks.Notebooks

open Prog

def IsMissingResource : PyError → Prop
  | .generic e => e.errorClass = .missingResourceError
  | _ => False

namespace LaunchChecks

open ImageFallback

/-! ### Missing resources -/

section

variable {α β : Type}

/-- A computation that ends in a missing resource. -/
def FindsMissing (result : Except PyError α) : Prop :=
  ∃ e, result = .error e ∧ IsMissingResource e

theorem not_findsMissing_ok (a : α) : ¬ FindsMissing (.ok a) := by
  rintro ⟨e, he, -⟩
  cases he

theorem findsMissing_error_iff {e : PyError} :
    FindsMissing (.error e : Except PyError α) ↔ IsMissingResource e := by
  constructor
  · rintro ⟨e', he, hmissing⟩
    cases he
    exact hmissing
  · exact fun h => ⟨e, rfl, h⟩

theorem not_missing_of_foreign {e : PyError} (h : Foreign e) : ¬ IsMissingResource e := by
  cases e with
  | generic g => exact absurd rfl (h g)
  | _ => exact fun hmissing => hmissing

theorem findsMissing_bind_iff {x : Except PyError α} {f : α → Except PyError β} :
    FindsMissing (x >>= f) ↔ FindsMissing x ∨ ∃ a, x = .ok a ∧ FindsMissing (f a) := by
  constructor
  · rintro ⟨e, he, hmissing⟩
    rcases Results.bind_eq_error_iff.mp he with hx | ⟨a, ha, hf⟩
    · exact .inl ⟨e, hx, hmissing⟩
    · exact .inr ⟨a, ha, e, hf, hmissing⟩
  · rintro (⟨e, hx, hmissing⟩ | ⟨a, ha, e, hf, hmissing⟩)
    · exact ⟨e, Results.bind_eq_error_iff.mpr (.inl hx), hmissing⟩
    · exact ⟨e, Results.bind_eq_error_iff.mpr (.inr ⟨a, ha, hf⟩), hmissing⟩

theorem exists_ok_bind_iff {x : Except PyError α} {f : α → Except PyError β} :
    (∃ b, x >>= f = .ok b) ↔ ∃ a, x = .ok a ∧ ∃ b, f a = .ok b := by
  constructor
  · rintro ⟨b, h⟩
    obtain ⟨a, ha, hf⟩ := Results.bind_eq_ok_iff.mp h
    exact ⟨a, ha, b, hf⟩
  · rintro ⟨a, ha, b, hf⟩
    exact ⟨b, Results.bind_eq_ok_iff.mpr ⟨a, ha, hf⟩⟩

end

/-! ### The image -/

section Image

variable (config : Config) (library : ImageLibrary) (gitToken : Option String)
  (registry : List HttpGet → HttpGet → Except HttpFault HttpReply)

/-- The image that is built for the commit of a project. -/
def commitImage (project : ImageProject) : Image where
  hostname := config.gitRegistry
  name := PyText.lower project.pathWithNamespace
  tag := String.ofList (project.commitSha.toList.take 7)

/-- The client that is asked about it: with the token of the user for a project that is not
public. -/
def commitRepo (project : ImageProject) : ImageRepoDockerAPI :=
  match gitToken with
  | some gitToken =>
    if project.visibility.any (· ≠ "public") ∧ gitToken ≠ "" then
      (commitImage config project).repoApi.withOauth2Token gitToken
    else (commitImage config project).repoApi
  | none => (commitImage config project).repoApi

theorem commitRepo_hostname (project : ImageProject) :
    (commitImage config project).hostname = (commitRepo config gitToken project).hostname := by
  unfold commitRepo
  cases gitToken with
  | none => rfl
  | some gitToken =>
    dsimp only
    split <;> rfl

/-- No image is requested, and the registry says that there is none for the commit. -/
def ImageMissing (image : Option String) (project : ImageProject) : Prop :=
  image.filter (· ≠ "") = none ∧
    (run (recorded registry) ((commitRepo config gitToken project).imageExists library
      (commitImage config project)) []).1 = .ok false

/-- The image that the answers of the registries lead to, with the client that is kept for it and
the requests made on the way. -/
inductive FindsImage (image : Option String) (project : ImageProject) :
    ImageRepoDockerAPI → Image → List HttpGet → Prop
  | publicly (requested : String) (parsedImage : Image) (asked : List HttpGet)
      (hrequested : image.filter (· ≠ "") = some requested)
      (hparse : Image.fromPath requested = .ok parsedImage)
      (hfind : run (recorded registry) (findImage config library gitToken parsedImage) [] =
        (.ok (some false), asked)) :
      FindsImage image project parsedImage.repoApi parsedImage asked
  | privately (requested : String) (parsedImage : Image) (asked : List HttpGet)
      (hrequested : image.filter (· ≠ "") = some requested)
      (hparse : Image.fromPath requested = .ok parsedImage)
      (hfind : run (recorded registry) (findImage config library gitToken parsedImage) [] =
        (.ok (some true), asked)) :
      FindsImage image project (lastRepo config gitToken parsedImage) parsedImage asked
  | default_ (requested : String) (parsedImage defaultImage : Image) (asked : List HttpGet)
      (hrequested : image.filter (· ≠ "") = some requested)
      (hparse : Image.fromPath requested = .ok parsedImage)
      (hfind : run (recorded registry) (findImage config library gitToken parsedImage) [] =
        (.ok none, asked))
      (hdefault : Image.fromPath config.sessions.defaultImage = .ok defaultImage) :
      FindsImage image project (lastRepo config gitToken parsedImage) defaultImage asked
  | built (asked : List HttpGet)
      (hrequested : image.filter (· ≠ "") = none)
      (hexists : run (recorded registry) ((commitRepo config gitToken project).imageExists library
        (commitImage config project)) [] = (.ok true, asked)) :
      FindsImage image project (commitRepo config gitToken project) (commitImage config project) asked

variable {config library gitToken registry}

theorem projectImage_eq (project : ImageProject) :
    projectImage config library gitToken project =
      ((commitRepo config gitToken project).imageExists library (commitImage config project)).bind
        fun found =>
          if found then pure {
            image := config.gitRegistry ++ "/" ++ PyText.lower project.pathWithNamespace ++ ":" ++
              String.ofList (project.commitSha.toList.take 7)
            parsedImage := commitImage config project
            imageRepo := commitRepo config gitToken project
            usingDefaultImage := false
            isImagePrivate := project.visibility.any (· ≠ "public") }
          else .raise (.generic (missingResourceError
            ("Cannot start the session because the following the image " ++
              (config.gitRegistry ++ "/" ++ PyText.lower project.pathWithNamespace ++ ":" ++
                String.ofList (project.commitSha.toList.take 7)) ++
              " does not exist or " ++ "the user does not have the permissions to access it."))) := by
  cases gitToken with
  | none => rfl
  | some gitToken => rfl

theorem raises_imageExists {repo : ImageRepoDockerAPI} {image : Image}
    (h : image.hostname = repo.hostname) : (repo.imageExists library image).Raises Foreign :=
  Raises.bind (raises_getImageManifest library repo image h) fun _ => trivial

theorem raises_findImage (parsedImage : Image) :
    (findImage config library gitToken parsedImage).Raises Foreign := by
  apply Raises.bind (raises_imageExists rfl)
  intro existsPublicly
  split
  · trivial
  · cases hrepo : privateRepo config gitToken parsedImage with
    | none => trivial
    | some imageRepo =>
      apply Raises.bind (raises_imageExists (privateRepo_hostname config gitToken hrepo).symm)
      exact fun existsPrivately => trivial

theorem fromPath_not_missing {path : String} {e : PyError} (h : Image.fromPath path = .error e) :
    ¬ IsMissingResource e := by
  unfold Image.fromPath at h
  dsimp only at h
  split at h
  all_goals
    cases h
  all_goals
    exact fun hmissing => nomatch hmissing

theorem raises_requestedImage (image : String) :
    (requestedImage config library gitToken image).Raises fun e => ¬ IsMissingResource e := by
  cases hparse : Image.fromPath image with
  | error e =>
    unfold requestedImage
    rw [hparse]
    exact fromPath_not_missing hparse
  | ok parsedImage =>
    rw [requestedImage_eq config library gitToken hparse]
    apply Raises.bind ((raises_findImage parsedImage).mono fun _ he => not_missing_of_foreign he)
    rintro (_ | _ | _)
    · apply Raises.bind (raises_ofExcept fun e he => fromPath_not_missing he)
      exact fun _ => trivial
    · trivial
    · trivial

variable (config library gitToken registry)

/-- The choice of an image ends in a missing resource where the image of the commit is missing. -/
theorem chosenImage_missing_iff (image : Option String) (project : ImageProject) :
    FindsMissing (run (recorded registry)
        (chooseImage config library gitToken image (some project)) []).1 ↔
      ImageMissing config library gitToken registry image project := by
  unfold chooseImage ImageMissing
  cases hrequested : image.filter (· ≠ "") with
  | some requested =>
    refine iff_of_false ?_ fun h => nomatch h.1
    rintro ⟨e, he, hmissing⟩
    exact (raises_requestedImage requested).run (recorded registry) (Prod.ext he rfl) hmissing
  | none =>
    dsimp only
    rw [projectImage_eq, run_bind]
    rcases hexists : run (recorded registry) ((commitRepo config gitToken project).imageExists library
      (commitImage config project)) [] with ⟨e | found, asked⟩
    · refine iff_of_false ?_ fun h => nomatch h.2
      rw [findsMissing_error_iff]
      exact not_missing_of_foreign
        ((raises_imageExists (commitRepo_hostname config gitToken project)).run _ hexists)
    · cases found with
      | true => exact iff_of_false (not_findsMissing_ok _) fun h => nomatch h.2
      | false => exact iff_of_true ⟨_, rfl, rfl⟩ ⟨rfl, rfl⟩

/-- The image that is chosen is the one that the answers lead to. -/
theorem chosenImage_ok_iff (image : Option String) (project : ImageProject)
    (repo : ImageRepoDockerAPI) (parsedImage : Image) (asked : List HttpGet) :
    (∃ chosen, run (recorded registry) (chooseImage config library gitToken image (some project)) [] =
        (.ok chosen, asked) ∧ chosen.imageRepo = repo ∧ chosen.parsedImage = parsedImage) ↔
      FindsImage config library gitToken registry image project repo parsedImage asked := by
  constructor
  · rintro ⟨chosen, hchosen, rfl, rfl⟩
    unfold chooseImage at hchosen
    cases hrequested : image.filter (· ≠ "") with
    | some requested =>
      rw [hrequested] at hchosen
      dsimp only at hchosen
      cases hparse : Image.fromPath requested with
      | error e =>
        unfold requestedImage at hchosen
        rw [hparse] at hchosen
        cases hchosen
      | ok image =>
        rw [requestedImage_eq config library gitToken hparse] at hchosen
        obtain ⟨found, asked', hfind, hrun⟩ := exists_of_run_bind _ hchosen
        rcases found with _ | _ | _
        · cases hdefault : Image.fromPath config.sessions.defaultImage with
          | error e =>
            simp only [chosenFor, defaultImage, hdefault] at hrun
            cases hrun
          | ok default_ =>
            simp only [chosenFor, defaultImage, hdefault] at hrun
            cases hrun
            exact .default_ requested image default_ _ hrequested hparse hfind hdefault
        · cases hrun
          exact .publicly requested image _ hrequested hparse hfind
        · cases hrun
          exact .privately requested image _ hrequested hparse hfind
    | none =>
      rw [hrequested] at hchosen
      dsimp only at hchosen
      rw [projectImage_eq] at hchosen
      obtain ⟨found, asked', hexists, hrun⟩ := exists_of_run_bind _ hchosen
      cases found with
      | false => cases hrun
      | true =>
        cases hrun
        exact .built _ hrequested hexists
  · rintro (⟨requested, _, _, hrequested, hparse, hfind⟩ | ⟨requested, _, _, hrequested, hparse, hfind⟩ |
      ⟨requested, _, _, _, hrequested, hparse, hfind, hdefault⟩ | ⟨_, hrequested, hexists⟩)
    all_goals
      unfold chooseImage
      rw [hrequested]
      dsimp only
    · rw [requestedImage_eq config library gitToken hparse, run_bind_ok _ hfind]
      exact ⟨_, rfl, rfl, rfl⟩
    · rw [requestedImage_eq config library gitToken hparse, run_bind_ok _ hfind]
      exact ⟨_, rfl, rfl, rfl⟩
    · rw [requestedImage_eq config library gitToken hparse, run_bind_ok _ hfind]
      simp only [chosenFor, defaultImage, hdefault]
      exact ⟨_, rfl, rfl, rfl⟩
    · rw [projectImage_eq, run_bind_ok _ hexists]
      exact ⟨_, rfl, rfl, rfl⟩

/-- The working directory is looked for without a missing resource. -/
theorem imageWorkdir_not_missing (repo : ImageRepoDockerAPI) (image : Image) (asked : List HttpGet) :
    ¬ FindsMissing (run (recorded registry) (repo.imageWorkdir library image) asked).1 := by
  rintro ⟨e, he, hmissing⟩
  by_cases hhost : image.hostname = repo.hostname
  · exact not_missing_of_foreign
      ((raises_imageWorkdir library repo image hhost).run (recorded registry) (Prod.ext he rfl)) hmissing
  · rw [imageWorkdir_of_ne library repo image hhost] at he
    cases he
    cases hmissing

end Image

/-! ### The class -/

section Class

open CRCValidator ClosestFit LaunchedOptions

variable (crc : ResourceService) (defaultUrl : String) (user : User)

/-- The answer of the resource service has a class for the request, and the storage that is compared
with it fits. -/
inductive GetsClass (request : OptionsRequest) : Prop
  | byId (classId : Int) (pools : List ResourcePool) (a : Candidate) (maxStorage : Int)
      (hid : request.resourceClassId = some classId)
      (hpools : getResourcePools crc (some user) none = .ok pools)
      (hfound : findClass classId pools = some a)
      (hmax : a.2.maxStorage = some maxStorage)
      (hstorage : 1 ≤ request.storage.getD a.2.defaultStorage ∧
        request.storage.getD a.2.defaultStorage ≤ maxStorage)
  | byOptions (requested : ServerOptions) (pools : List ResourcePool) (a : Candidate)
      (hid : request.resourceClassId = none) (hoptions : request.serverOptions = some requested)
      (hpools : getResourcePools crc (some user) (some requested) = .ok pools)
      (hmem : a ∈ candidates pools) (hfits : Acceptable defaultUrl requested a)
  | byDefault (pools : List ResourcePool) (a : Candidate)
      (hid : request.resourceClassId = none) (hoptions : request.serverOptions = none)
      (hpools : getResourcePools crc none none = .ok pools)
      (hpool : (pools.filter (·.default_)).head? = some a.1)
      (hclass : (a.1.classes.filter (·.default_)).head? = some a.2)
      (hstorage : ∀ storage ∈ request.storage, storage ≤ a.2.maxStorage.getD 0)

variable {crc defaultUrl user}

theorem validateStorage_of_le {c : ResourceClass} {storage maxStorage : Int}
    (hmax : c.maxStorage = some maxStorage) (h : 1 ≤ storage ∧ storage ≤ maxStorage) :
    validateStorage c storage = .ok () := by
  unfold validateStorage
  rw [if_neg (by omega), hmax]
  dsimp only
  rw [if_neg (by omega)]

theorem classOptions_ok_iff {request : OptionsRequest} :
    (∃ options, request.classOptions crc defaultUrl user = .ok options) ↔
      GetsClass crc defaultUrl user request := by
  constructor
  · rintro ⟨o, ho⟩
    obtain ⟨a, huses, -, hchecked⟩ := classOptions_eq_ok crc defaultUrl user ho
    cases huses with
    | byId classId pools hid hpools hfound =>
      simp only [StorageChecked, hid] at hchecked
      obtain ⟨hone, maxStorage, hmax, hle⟩ := validateStorage_eq_ok hchecked
      exact .byId classId pools a maxStorage hid hpools hfound hmax ⟨hone, hle⟩
    | byOptions requested pools hid hoptions hpools hfound =>
      have hall : Improvement.Found (Below defaultUrl requested) (Acceptable defaultUrl requested)
        _ _ := Improvement.found_search (candidates pools)
      obtain ⟨hmem, hfits⟩ := hall.mem a hfound
      exact .byOptions requested pools a hid hoptions hpools hmem hfits
    | byDefault pools hid hoptions hpools hpool hclass =>
      simp only [StorageChecked, hid, hoptions] at hchecked
      exact .byDefault pools a hid hoptions hpools hpool hclass hchecked
  · intro h
    unfold OptionsRequest.classOptions
    cases h with
    | byId classId pools a maxStorage hid hpools hfound hmax hstorage =>
      rw [hid]
      dsimp only
      unfold validateClassStorage
      rw [hpools, Results.ok_bind, hfound]
      dsimp only
      rw [validateStorage_of_le hmax hstorage]
      exact ⟨_, rfl⟩
    | byOptions requested pools a hid hoptions hpools hmem hfits =>
      rw [hid, hoptions]
      dsimp only
      have hall : Improvement.Found (Below defaultUrl requested) (Acceptable defaultUrl requested)
        _ _ := Improvement.found_search (candidates pools)
      unfold OptionsRequest.acceptableClassOptions findAcceptableClass
      rw [hpools, Results.ok_bind, bestClass_eq]
      cases hfound : Improvement.search (Below defaultUrl requested) (Acceptable defaultUrl requested)
          (candidates pools) with
      | none => exact absurd hfits (hall.none_iff.mp hfound a hmem)
      | some best => exact ⟨_, rfl⟩
    | byDefault pools a hid hoptions hpools hpool hclass hstorage =>
      rw [hid, hoptions]
      dsimp only
      have hdefault : getDefaultClass crc = .ok a.2 := by
        obtain ⟨rest, hrest⟩ := List.head?_eq_some_iff.mp hpool
        obtain ⟨rest', hrest'⟩ := List.head?_eq_some_iff.mp hclass
        unfold getDefaultClass
        rw [hpools, Results.ok_bind, hrest]
        dsimp only
        rw [hrest']
        rfl
      unfold OptionsRequest.defaultClassOptions
      rw [hdefault, Results.ok_bind]
      dsimp only
      have hfits : ¬ request.storage.any (a.2.maxStorage.getD 0 < ·) = true := by
        rw [Option.any_eq_true]
        rintro ⟨storage, hmem, hlt⟩
        have hle : storage ≤ a.2.maxStorage.getD 0 := hstorage storage hmem
        simp only [decide_eq_true_eq] at hlt
        omega
      rw [if_neg hfits]
      exact ⟨_, rfl⟩

theorem getResourcePools_not_missing {user : Option User} {serverOptions : Option ServerOptions} :
    ¬ FindsMissing (getResourcePools crc user serverOptions) := by
  unfold getResourcePools
  dsimp only
  split
  · rw [findsMissing_error_iff]
    exact fun h => nomatch h
  · exact not_findsMissing_ok _

theorem validateStorage_not_missing (c : ResourceClass) (storage : Int) :
    ¬ FindsMissing (validateStorage c storage) := by
  unfold validateStorage
  split
  · rw [findsMissing_error_iff]
    exact fun h => nomatch h
  · split
    · rw [findsMissing_error_iff]
      exact fun h => h
    · split
      · rw [findsMissing_error_iff]
        exact fun h => nomatch h
      · exact not_findsMissing_ok _

/-- No class is reported missing. -/
theorem classOptions_not_missing (request : OptionsRequest) :
    ¬ FindsMissing (request.classOptions crc defaultUrl user) := by
  unfold OptionsRequest.classOptions
  cases request.resourceClassId with
  | some classId =>
    dsimp only
    unfold validateClassStorage
    rw [findsMissing_bind_iff]
    rintro (hpools | ⟨pools, -, h⟩)
    · exact getResourcePools_not_missing hpools
    · split at h
      · rw [findsMissing_error_iff] at h
        cases h
      · rcases findsMissing_bind_iff.mp h with hstorage | ⟨_, -, h⟩
        · exact validateStorage_not_missing _ _ hstorage
        · exact not_findsMissing_ok _ h
  | none =>
    cases request.serverOptions with
    | some requested =>
      dsimp only
      unfold OptionsRequest.acceptableClassOptions findAcceptableClass
      rw [findsMissing_bind_iff]
      rintro (hfind | ⟨found, -, h⟩)
      · rcases findsMissing_bind_iff.mp hfind with hpools | ⟨pools, -, h⟩
        · exact getResourcePools_not_missing hpools
        · exact not_findsMissing_ok _ h
      · split at h
        · exact not_findsMissing_ok _ h
        · rw [findsMissing_error_iff] at h
          cases h
    | none =>
      dsimp only
      unfold OptionsRequest.defaultClassOptions getDefaultClass
      rw [findsMissing_bind_iff]
      rintro (hdefault | ⟨c, -, h⟩)
      · rcases findsMissing_bind_iff.mp hdefault with hpools | ⟨pools, -, h⟩
        · exact getResourcePools_not_missing hpools
        · split at h
          · rw [findsMissing_error_iff] at h
            cases h
          · split at h
            · rw [findsMissing_error_iff] at h
              cases h
            · exact not_findsMissing_ok _ h
      · dsimp only at h
        split at h
        · rw [findsMissing_error_iff] at h
          cases h
        · exact not_findsMissing_ok _ h

end Class

/-! ### The key of the user -/

/-- What the data service answers about the user and about the key of the user. -/
structure UserAnswers where
  user : Except HttpFault HttpReply
  secretKey : Except HttpFault HttpReply

namespace UserAnswers

open PyDict

def received : Except HttpFault HttpReply → Except PyError HttpReply
  | .ok reply => .ok reply
  | .error _ => .error .requestException

/-- `response.json()`; where the status is another than 200, the error is logged with it. -/
def json (reply : HttpReply) : Except PyError Json := reply.json.elim (.error .valueError) .ok

/-- `get_user_key`, over `get_encryption_key`. -/
def getUserKey (encryptionKey : String → String → String) (answers : UserAnswers) :
    Except PyError (Option String) := do
  let user ← received answers.user
  let userInfo ← json user
  if user.status ≠ 200 then pure none
  else do
    let userId ← getItem "id" userInfo
    let reply ← received answers.secretKey
    let userKey ← json reply
    if reply.status ≠ 200 then pure none
    else do
      let secretKey ← getItem "secret_key" userKey
      let secretKey ← text secretKey
      let userId ← text userId
      pure (some (encryptionKey secretKey userId))

theorem received_not_missing (answer : Except HttpFault HttpReply) :
    ¬ FindsMissing (received answer) := by
  cases answer with
  | ok reply => exact not_findsMissing_ok reply
  | error fault => exact fun h => findsMissing_error_iff.mp h

theorem json_not_missing (reply : HttpReply) : ¬ FindsMissing (json reply) := by
  unfold json
  cases reply.json with
  | none => exact fun h => findsMissing_error_iff.mp h
  | some body => exact not_findsMissing_ok body

theorem getItem_not_missing (key : String) (value : Json) : ¬ FindsMissing (getItem key value) := by
  unfold getItem
  split
  · cases Json.getMember key _ with
    | none => exact fun h => findsMissing_error_iff.mp h
    | some found => exact not_findsMissing_ok found
  · exact fun h => findsMissing_error_iff.mp h

theorem text_not_missing (value : Json) : ¬ FindsMissing (text value) := by
  unfold text
  split
  · exact not_findsMissing_ok _
  · exact fun h => findsMissing_error_iff.mp h

theorem getUserKey_not_missing (encryptionKey : String → String → String) (answers : UserAnswers) :
    ¬ FindsMissing (answers.getUserKey encryptionKey) := by
  unfold getUserKey
  rw [findsMissing_bind_iff]
  rintro (h | ⟨user, -, h⟩)
  · exact received_not_missing _ h
  rcases findsMissing_bind_iff.mp h with h | ⟨userInfo, -, h⟩
  · exact json_not_missing _ h
  split at h
  · exact not_findsMissing_ok _ h
  rcases findsMissing_bind_iff.mp h with h | ⟨userId, -, h⟩
  · exact getItem_not_missing _ _ h
  rcases findsMissing_bind_iff.mp h with h | ⟨reply, -, h⟩
  · exact received_not_missing _ h
  rcases findsMissing_bind_iff.mp h with h | ⟨userKey, -, h⟩
  · exact json_not_missing _ h
  split at h
  · exact not_findsMissing_ok _ h
  rcases findsMissing_bind_iff.mp h with h | ⟨secretKey, -, h⟩
  · exact getItem_not_missing _ _ h
  rcases findsMissing_bind_iff.mp h with h | ⟨secretKey, -, h⟩
  · exact text_not_missing _ h
  rcases findsMissing_bind_iff.mp h with h | ⟨userId, -, h⟩
  · exact text_not_missing _ h
  · exact not_findsMissing_ok _ h

end UserAnswers

/-! ### The storages -/

section Storages

open RCloneStorage MountPoints

variable (validator : StorageValidator) (user : User) (endpoint : String) (workDir : PosixPath)
  (userSecretKey : String)

/-- The data service says that what a request for a storage names is missing. -/
inductive ReportedMissing (data : RCloneStorageRequest) : Prop
  | stored (storageId token : String) (e : PyError)
      (hid : data.storageId.filter (· ≠ "") = some storageId)
      (htoken : user.accessToken = some token)
      (hget : validator.getStorageById endpoint storageId = .error e) (hmissing : IsMissingResource e)
  | validated (stored : CloudStorageConfig) (name : Option String) (e : PyError)
      (hstored : storageConfig validator user endpoint data = .ok (stored, name))
      (hvalidate : validator.validateStorageConfiguration stored.config stored.sourcePath = .error e)
      (hmissing : IsMissingResource e)

/-- The storage of a request is there, with this target path, and its configuration is found valid. -/
def Available (data : RCloneStorageRequest) (target : String) : Prop :=
  ∃ stored name, storageConfig validator user endpoint data = .ok (stored, name) ∧
    validator.validateStorageConfiguration stored.config stored.sourcePath = .ok () ∧
    stored.targetPath = target

/-- Among the storages, one is reported missing, and those before it are available. -/
def StorageMissing (cloudstorage : List RCloneStorageRequest) : Prop :=
  ∃ before data after, cloudstorage = before ++ data :: after ∧
    (∀ d ∈ before, ∃ target, Available validator user endpoint d target) ∧
    ReportedMissing validator user endpoint data

/-- All storages are available, and no mount folder is the root or at the start of another one. -/
def StoragesFit (cloudstorage : List RCloneStorageRequest) : Prop :=
  ∃ targets, List.Forall₂ (Available validator user endpoint) cloudstorage targets ∧
    (∀ folder ∈ targets.map (mountFolderIn workDir), folder ≠ "" ∧ folder ≠ "/") ∧
    ¬ TwoOf (targets.map (mountFolderIn workDir)) fun f g => f.toList <+: g.toList

variable {validator user endpoint workDir userSecretKey}

theorem storageConfig_missing_iff {data : RCloneStorageRequest} :
    FindsMissing (storageConfig validator user endpoint data) ↔
      ∃ storageId token e, data.storageId.filter (· ≠ "") = some storageId ∧
        user.accessToken = some token ∧ validator.getStorageById endpoint storageId = .error e ∧
        IsMissingResource e := by
  unfold storageConfig
  cases hid : data.storageId.filter (· ≠ "") with
  | some storageId =>
    dsimp only
    cases htoken : user.accessToken with
    | none =>
      refine iff_of_false (fun h => findsMissing_error_iff.mp h) ?_
      rintro ⟨_, _, _, -, h, -⟩
      cases h
    | some token =>
      dsimp only
      rw [findsMissing_bind_iff]
      constructor
      · rintro (⟨e, he, hmissing⟩ | ⟨stored, -, h⟩)
        · exact ⟨storageId, token, e, rfl, rfl, he, hmissing⟩
        · cases hconfiguration : data.configuration with
          | none =>
            rw [hconfiguration] at h
            exact (findsMissing_error_iff.mp h).elim
          | some overrides =>
            rw [hconfiguration] at h
            exact absurd h (not_findsMissing_ok _)
      · rintro ⟨_, _, e, hsome, -, he, hmissing⟩
        cases hsome
        exact .inl ⟨e, he, hmissing⟩
  | none =>
    refine iff_of_false ?_ ?_
    · dsimp only
      cases data.sourcePath with
      | none => exact fun h => findsMissing_error_iff.mp h
      | some sourcePath =>
        cases data.targetPath with
        | none => exact fun h => findsMissing_error_iff.mp h
        | some targetPath => exact not_findsMissing_ok _
    · rintro ⟨_, _, _, h, -⟩
      cases h

theorem storageFromSchema_missing_iff {data : RCloneStorageRequest} :
    FindsMissing (storageFromSchema validator user endpoint workDir userSecretKey data) ↔
      ReportedMissing validator user endpoint data := by
  unfold storageFromSchema
  rw [findsMissing_bind_iff, storageConfig_missing_iff]
  constructor
  · rintro (⟨storageId, token, e, hid, htoken, hget, hmissing⟩ | ⟨⟨stored, name⟩, hstored, h⟩)
    · exact .stored storageId token e hid htoken hget hmissing
    · rcases findsMissing_bind_iff.mp h with ⟨e, he, hmissing⟩ | ⟨_, -, h⟩
      · exact .validated stored name e hstored he hmissing
      · exact absurd h (not_findsMissing_ok _)
  · rintro (⟨storageId, token, e, hid, htoken, hget, hmissing⟩ | ⟨stored, name, e, hstored, he, hmissing⟩)
    · exact .inl ⟨storageId, token, e, hid, htoken, hget, hmissing⟩
    · exact .inr ⟨(stored, name), hstored, findsMissing_bind_iff.mpr (.inl ⟨e, he, hmissing⟩)⟩

theorem storageFromSchema_ok_iff {data : RCloneStorageRequest} {folder : String} :
    (∃ storage, storageFromSchema validator user endpoint workDir userSecretKey data = .ok storage ∧
        storage.mountFolder = folder) ↔
      ∃ target, Available validator user endpoint data target ∧
        mountFolderIn workDir target = folder := by
  constructor
  · rintro ⟨storage, h, rfl⟩
    obtain ⟨⟨stored, name⟩, hstored, h⟩ := Results.bind_eq_ok_iff.mp h
    obtain ⟨_, hvalid, h⟩ := Results.bind_eq_ok_iff.mp h
    cases h
    exact ⟨stored.targetPath, ⟨stored, name, hstored, hvalid, rfl⟩, rfl⟩
  · rintro ⟨_, ⟨stored, name, hstored, hvalid, rfl⟩, rfl⟩
    unfold storageFromSchema
    rw [hstored, Results.ok_bind]
    dsimp only
    rw [hvalid]
    exact ⟨_, rfl, rfl⟩

theorem mountStorages_missing_iff {cloudstorage : List RCloneStorageRequest} :
    FindsMissing (mountStorages validator user endpoint workDir userSecretKey cloudstorage) ↔
      StorageMissing validator user endpoint cloudstorage := by
  have hcheck : ∀ folders, ¬ FindsMissing (checkMountPoints folders) := by
    intro folders
    unfold checkMountPoints
    dsimp only
    split
    · exact fun h => nomatch findsMissing_error_iff.mp h
    · split
      · exact fun h => nomatch findsMissing_error_iff.mp h
      · exact not_findsMissing_ok _
  have hload : FindsMissing (loadStorages validator user endpoint workDir userSecretKey cloudstorage) ↔
      FindsMissing (cloudstorage.mapM
        (storageFromSchema validator user endpoint workDir userSecretKey)) := by
    unfold loadStorages
    split
    next h =>
      rw [h]
      exact iff_of_false (fun h => nomatch findsMissing_error_iff.mp h)
        fun h => findsMissing_error_iff.mp h
    next => exact Iff.rfl
  have hmap : FindsMissing (cloudstorage.mapM
      (storageFromSchema validator user endpoint workDir userSecretKey)) ↔
        StorageMissing validator user endpoint cloudstorage := by
    have hok : ∀ d, (∃ s, storageFromSchema validator user endpoint workDir userSecretKey d = .ok s) ↔
        ∃ target, Available validator user endpoint d target := by
      intro d
      constructor
      · rintro ⟨s, hs⟩
        obtain ⟨target, havailable, -⟩ := storageFromSchema_ok_iff.mp ⟨s, hs, rfl⟩
        exact ⟨target, havailable⟩
      · rintro ⟨target, havailable⟩
        obtain ⟨s, hs, -⟩ := storageFromSchema_ok_iff.mpr ⟨target, havailable, rfl⟩
        exact ⟨s, hs⟩
    constructor
    · rintro ⟨e, he, hmissing⟩
      obtain ⟨before, data, after, heq, hbefore, hdata⟩ := Results.mapM_eq_error_iff.mp he
      exact ⟨before, data, after, heq, fun d hd => (hok d).mp (hbefore d hd),
        storageFromSchema_missing_iff.mp ⟨e, hdata, hmissing⟩⟩
    · rintro ⟨before, data, after, heq, hbefore, hdata⟩
      obtain ⟨e, he, hmissing⟩ := storageFromSchema_missing_iff.mpr hdata
      exact ⟨e, Results.mapM_eq_error_iff.mpr
        ⟨before, data, after, heq, fun d hd => (hok d).mpr (hbefore d hd), he⟩, hmissing⟩
  unfold mountStorages
  split
  · rename_i hempty
    rw [List.isEmpty_iff] at hempty
    subst hempty
    refine iff_of_false (not_findsMissing_ok _) ?_
    rintro ⟨before, data, after, heq, -⟩
    simp at heq
  · rw [findsMissing_bind_iff, hload, hmap, or_iff_left]
    rintro ⟨storages, -, h⟩
    rcases findsMissing_bind_iff.mp h with h | ⟨_, -, h⟩
    · exact hcheck _ h
    · exact not_findsMissing_ok _ h

theorem mountStorages_ok_iff {cloudstorage : List RCloneStorageRequest} :
    (∃ storages, mountStorages validator user endpoint workDir userSecretKey cloudstorage =
        .ok storages) ↔
      StoragesFit validator user endpoint workDir cloudstorage := by
  have hload : ∀ storages,
      loadStorages validator user endpoint workDir userSecretKey cloudstorage = .ok storages ↔
        cloudstorage.mapM (storageFromSchema validator user endpoint workDir userSecretKey) =
          .ok storages := by
    intro storages
    unfold loadStorages
    split
    next h =>
      rw [h]
      exact iff_of_false (fun h => nomatch h) fun h => nomatch h
    next => exact Iff.rfl
  unfold mountStorages
  split
  · rename_i hempty
    rw [List.isEmpty_iff] at hempty
    subst hempty
    refine iff_of_true ⟨[], rfl⟩ ⟨[], .nil, fun folder h => (nomatch h), ?_⟩
    rintro ⟨i, j, f, g, -, hf, -⟩
    simp at hf
  · constructor
    · rintro ⟨storages, h⟩
      obtain ⟨loaded, hloaded, h⟩ := Results.bind_eq_ok_iff.mp h
      obtain ⟨_, hchecked, -⟩ := Results.bind_eq_ok_iff.mp h
      obtain ⟨targets, htargets, hfolders⟩ : ∃ targets,
          List.Forall₂ (Available validator user endpoint) cloudstorage targets ∧
            targets.map (mountFolderIn workDir) = loaded.map (·.mountFolder) :=
        Results.exists_forall2_of_forall2
          (fun d s hs => storageFromSchema_ok_iff.mp ⟨s, hs, rfl⟩)
          (Results.forall2_of_mapM_eq_ok ((hload loaded).mp hloaded))
      refine ⟨targets, htargets, ?_⟩
      rw [hfolders]
      exact (checkMountPoints_eq_ok_iff _).mp hchecked
    · rintro ⟨targets, htargets, hfit⟩
      obtain ⟨loaded, hloaded, hfolders⟩ : ∃ loaded, List.Forall₂ (fun d s =>
          storageFromSchema validator user endpoint workDir userSecretKey d = .ok s) cloudstorage
            loaded ∧ loaded.map (·.mountFolder) = targets.map (mountFolderIn workDir) :=
        Results.exists_forall2_of_forall2
          (fun d target hd => storageFromSchema_ok_iff.mpr ⟨target, hd, rfl⟩) htargets
      rw [← hfolders] at hfit
      rw [(hload loaded).mpr (Results.mapM_eq_ok_of_forall2 hloaded), Results.ok_bind,
        (checkMountPoints_eq_ok_iff _).mpr hfit]
      exact ⟨loaded, rfl⟩

end Storages

end LaunchChecks

end RenkuNotebooks.Notebooks
