import Mathlib.Data.List.Induction
import RenkuNotebooks.Notebooks.ClosestFit
import RenkuNotebooks.Notebooks.EnvironmentOverrides
import RenkuNotebooks.Notebooks.Preparation

/-!
# The resource class of a launched session

A class can be chosen by its identifier, by old-style options or by default. The three ways copy
different parts of the pool of the class and check the storage differently.
-/

namespace RenkuNotebooks.Notebooks

namespace LaunchedOptions

open CRCValidator ClosestFit

variable (crc : ResourceService) (defaultUrl : String) (user : User)

/-- The class that the options of a request are taken from, with its pool. -/
inductive Uses (request : OptionsRequest) (a : Candidate) : Prop where
  | byId (classId : Int) (pools : List ResourcePool)
      (hid : request.resourceClassId = some classId)
      (hpools : getResourcePools crc (some user) none = .ok pools)
      (hfound : findClass classId pools = some a)
  | byOptions (requested : ServerOptions) (pools : List ResourcePool)
      (hid : request.resourceClassId = none) (hoptions : request.serverOptions = some requested)
      (hpools : getResourcePools crc (some user) (some requested) = .ok pools)
      (hfound : Improvement.search (Below defaultUrl requested) (Acceptable defaultUrl requested)
        (candidates pools) = some a)
  | byDefault (pools : List ResourcePool)
      (hid : request.resourceClassId = none) (hoptions : request.serverOptions = none)
      (hpools : getResourcePools crc none none = .ok pools)
      (hpool : (pools.filter (·.default_)).head? = some a.1)
      (hclass : (a.1.classes.filter (·.default_)).head? = some a.2)

/-- The options that each of the ways takes from a class and its pool. -/
def optionsFor (request : OptionsRequest) (a : Candidate) : ServerOptions :=
  let storage := request.storage.getD a.2.defaultStorage
  match request.resourceClassId, request.serverOptions with
  | some _, _ =>
    ({ ServerOptions.fromResourceClass defaultUrl a.2 with
      idleThresholdSeconds := a.1.idleThreshold
      hibernationThresholdSeconds := a.1.hibernationThreshold }.setStorage storage true).withQuota
        a.1.quota
  | none, some _ => options defaultUrl a
  | none, none => (ServerOptions.fromResourceClass defaultUrl a.2).setStorage storage true

theorem getResourcePools_eq_ok {crc : ResourceService} {user : Option User}
    {serverOptions : Option ServerOptions} {pools : List ResourcePool}
    (h : getResourcePools crc user serverOptions = .ok pools) :
    ∃ request, crc request = (200, pools) := by
  unfold getResourcePools at h
  dsimp only at h
  split at h
  · cases h
  · rename_i hstatus
    rw [not_not] at hstatus
    refine ⟨_, Prod.ext hstatus ?_⟩
    exact Except.ok.inj h

theorem findClass_concat (classId : Int) (pools : List ResourcePool) (pool : ResourcePool) :
    findClass classId (pools ++ [pool]) =
      match pool.classes.find? (·.id = classId) with
      | some c => some (pool, c)
      | none => findClass classId pools := by
  unfold findClass
  rw [List.foldl_append]
  rfl

theorem findClass_mem {classId : Int} {pools : List ResourcePool} {a : Candidate}
    (h : findClass classId pools = some a) : a.1 ∈ pools ∧ a.2 ∈ a.1.classes := by
  induction pools using List.reverseRecOn with
  | nil => cases h
  | append_singleton pools pool ih =>
    rw [findClass_concat] at h
    split at h
    · rename_i c hfind
      cases h
      exact ⟨by simp, List.mem_of_find?_eq_some hfind⟩
    · obtain ⟨hpool, hc⟩ := ih h
      exact ⟨List.mem_append_left _ hpool, hc⟩

theorem Uses.mem {request : OptionsRequest} {a : Candidate}
    (h : Uses crc defaultUrl user request a) :
    ∃ poolRequest pools, crc poolRequest = (200, pools) ∧ a.1 ∈ pools ∧ a.2 ∈ a.1.classes := by
  cases h with
  | byId classId pools _ hpools hfound =>
    obtain ⟨poolRequest, hanswer⟩ := getResourcePools_eq_ok hpools
    exact ⟨poolRequest, pools, hanswer, findClass_mem hfound⟩
  | byOptions requested pools _ _ hpools hfound =>
    obtain ⟨poolRequest, hanswer⟩ := getResourcePools_eq_ok hpools
    have hall : Improvement.Found (Below defaultUrl requested) (Acceptable defaultUrl requested) _ _ :=
      Improvement.found_search (candidates pools)
    exact ⟨poolRequest, pools, hanswer, mem_candidates.mp (hall.mem a hfound).1⟩
  | byDefault pools _ _ hpools hpool hclass =>
    obtain ⟨poolRequest, hanswer⟩ := getResourcePools_eq_ok hpools
    refine ⟨poolRequest, pools, hanswer, ?_, ?_⟩
    · exact (List.mem_filter.mp (List.mem_of_head? hpool)).1
    · exact (List.mem_filter.mp (List.mem_of_head? hclass)).1

/-- What the explicit way has checked. -/
theorem validateStorage_eq_ok {c : ResourceClass} {storage : Int}
    (h : validateStorage c storage = .ok ()) :
    1 ≤ storage ∧ ∃ maxStorage, c.maxStorage = some maxStorage ∧ storage ≤ maxStorage := by
  unfold validateStorage at h
  split at h
  · cases h
  · split at h
    · cases h
    · rename_i maxStorage hmax
      split at h
      · cases h
      · refine ⟨by omega, maxStorage, hmax, by omega⟩

/-- The storage of the request was compared with the class, where the way does so. -/
def StorageChecked (request : OptionsRequest) (a : Candidate) : Prop :=
  match request.resourceClassId, request.serverOptions with
  | some _, _ => validateStorage a.2 (request.storage.getD a.2.defaultStorage) = .ok ()
  | none, some requested => requested.storage ≤ a.2.defaultStorage * 1000000000
  | none, none => ∀ storage ∈ request.storage, storage ≤ a.2.maxStorage.getD 0

theorem classOptions_eq_ok {request : OptionsRequest} {o : ServerOptions}
    (h : request.classOptions crc defaultUrl user = .ok o) :
    ∃ a, Uses crc defaultUrl user request a ∧ o = optionsFor defaultUrl request a ∧
      StorageChecked request a := by
  unfold OptionsRequest.classOptions at h
  cases hid : request.resourceClassId with
  | some classId =>
    rw [hid] at h
    obtain ⟨pools, hpools, h⟩ := Results.bind_eq_ok_iff.mp h
    cases hfound : findClass classId pools with
    | none =>
      rw [hfound] at h
      cases h
    | some a =>
      rw [hfound] at h
      obtain ⟨_, hchecked, h⟩ := Results.bind_eq_ok_iff.mp h
      cases h
      refine ⟨a, .byId classId pools hid hpools hfound, ?_, ?_⟩
      · simp only [optionsFor, hid]
      · simp only [StorageChecked, hid]
        exact hchecked
  | none =>
    cases hoptions : request.serverOptions with
    | some requested =>
      rw [hid, hoptions] at h
      obtain ⟨found, hfind, h⟩ := Results.bind_eq_ok_iff.mp h
      obtain ⟨pools, hpools, hfind⟩ := Results.bind_eq_ok_iff.mp hfind
      cases hfind
      have hall : Improvement.Found (Below defaultUrl requested) (Acceptable defaultUrl requested) _ _ :=
        Improvement.found_search (candidates pools)
      rw [bestClass_eq] at h
      cases hfound : Improvement.search (Below defaultUrl requested) (Acceptable defaultUrl requested)
          (candidates pools) with
      | none =>
        rw [hfound] at h
        cases h
      | some a =>
        rw [hfound] at h
        cases h
        refine ⟨a, .byOptions requested pools hid hoptions hpools hfound, ?_, ?_⟩
        · simp only [optionsFor, hid, hoptions]
        · simp only [StorageChecked, hid, hoptions]
          exact (ServerOptions.sizes_le_iff.mp (hall.mem a hfound).2.2).2.2.2
    | none =>
      rw [hid, hoptions] at h
      obtain ⟨c, hdefault, h⟩ := Results.bind_eq_ok_iff.mp h
      obtain ⟨pools, hpools, hdefault⟩ := Results.bind_eq_ok_iff.mp hdefault
      split at hdefault
      · cases hdefault
      · rename_i pool rest hpool
        split at hdefault
        · cases hdefault
        · rename_i c' rest' hclass
          cases hdefault
          dsimp only at h
          split at h
          · cases h
          · rename_i hmax
            cases h
            refine ⟨(pool, c), .byDefault pools hid hoptions hpools ?_ ?_, ?_, ?_⟩
            · rw [hpool]
              rfl
            · dsimp only
              rw [hclass]
              rfl
            · simp only [optionsFor, hid, hoptions]
            · simp only [StorageChecked, hid, hoptions]
              intro storage hstorage
              rw [hstorage] at hmax
              simpa using hmax

/-! ### The storage of a manifest -/

/-- The service keeps the default storage of its classes within their bounds. -/
def HealthyClasses : Prop :=
  ∀ poolRequest pools, crc poolRequest = (200, pools) → ∀ pool ∈ pools, ∀ c ∈ pool.classes,
    1 ≤ c.defaultStorage ∧ ∃ maxStorage, c.maxStorage = some maxStorage ∧
      c.defaultStorage ≤ maxStorage

/-- The storage that a request asks for, in bytes and in the option that is honoured. -/
def askedStorage (request : OptionsRequest) : Option Int :=
  match request.resourceClassId, request.serverOptions with
  | none, some requested => some requested.storage
  | _, _ => request.storage.map (· * 1000000000)

/-- The deployment writes the size of the storage into its manifests. -/
def StatesStorage (config : Config) : Prop :=
  config.sessions.storage.pvsEnabled = true ∨ config.sessions.storage.useEmptyDirSizeLimit = true

/-- The size in the manifest is at least one gigabyte, at most the maximum of the class that is
used, and at least what was asked for. -/
def StorageWithinBounds (request : OptionsRequest) (manifest : Json) : Prop :=
  ∃ a size maxStorage, Uses crc defaultUrl user request a ∧
    manifest.dig ["spec", "storage", "size"] = some (.int size) ∧
    a.2.maxStorage = some maxStorage ∧
    1000000000 ≤ size ∧ size ≤ maxStorage * 1000000000 ∧ ∀ asked ∈ askedStorage request, asked ≤ size

/-- The default class is used for a request that asks for less than one gigabyte. -/
def DefaultWithoutStorage (request : OptionsRequest) : Prop :=
  request.resourceClassId = none ∧ request.serverOptions = none ∧
    ∃ storage ∈ request.storage, storage < 1

theorem size_of_manifest {config : Config} {py : PyText.Str} {server : UserServer}
    {branchFound commitFound : Bool} {manifest : Json}
    (h : server.startManifest config py branchFound commitFound = .ok manifest) :
    manifest.dig ["spec", "storage", "size"] = (server.storage config).dig ["size"] := by
  unfold UserServer.startManifest at h
  dsimp only at h
  split at h
  · obtain ⟨patches, _, h⟩ := Results.bind_eq_ok_iff.mp h
    obtain ⟨_, _, h⟩ := Results.bind_eq_ok_iff.mp h
    cases h
    rfl
  · cases h

theorem size_of_states {config : Config} (server : UserServer) (hstates : StatesStorage config) :
    (server.storage config).dig ["size"] = some (.int server.serverOptions.storage) := by
  unfold UserServer.storage
  cases hpvs : config.sessions.storage.pvsEnabled with
  | true => rfl
  | false =>
    have hlimit : config.sessions.storage.useEmptyDirSizeLimit = true := by
      rcases hstates with hstates | hstates
      · rw [hpvs] at hstates
        cases hstates
      · exact hstates
    simp only [hlimit]
    rfl

theorem size_of_not_states {config : Config} (server : UserServer)
    (hstates : ¬ StatesStorage config) : (server.storage config).dig ["size"] = some "" := by
  have hpvs : config.sessions.storage.pvsEnabled = false := by
    by_contra h
    exact hstates (.inl (eq_true_of_ne_false h))
  have hlimit : config.sessions.storage.useEmptyDirSizeLimit = false := by
    by_contra h
    exact hstates (.inr (eq_true_of_ne_false h))
  unfold UserServer.storage
  simp only [hpvs, hlimit]
  rfl

theorem withQuota_storage (o : ServerOptions) (quota : Quota) :
    (o.withQuota quota).storage = o.storage := by
  cases quota <;> rfl

/-- The storage of the options that a request ends up with, in gigabytes. -/
theorem optionsFor_storage (request : OptionsRequest) (a : Candidate) :
    (optionsFor defaultUrl request a).storage =
      (match request.resourceClassId, request.serverOptions with
        | none, some _ => a.2.defaultStorage
        | _, _ => request.storage.getD a.2.defaultStorage) * 1000000000 := by
  unfold optionsFor
  cases request.resourceClassId with
  | some classId => exact withQuota_storage _ _
  | none =>
    cases request.serverOptions with
    | some requested => rfl
    | none => rfl

theorem storageWithinBounds_iff {config : Config} {services : LaunchServices}
    {inputs : LaunchInputs} {server : UserServer} {py : PyText.Str}
    {branchFound commitFound : Bool} {manifest : Json} (hhealthy : HealthyClasses services.crc)
    (hprepare : inputs.prepare config services = .ok server)
    (hmanifest : server.startManifest config py branchFound commitFound = .ok manifest) :
    StorageWithinBounds services.crc config.defaultUrl inputs.user inputs.options manifest ↔
      StatesStorage config ∧ ¬ DefaultWithoutStorage inputs.options := by
  obtain ⟨_, _, hparsed, _⟩ := inputs.of_prepare config services hprepare
  obtain ⟨o, hoptions, hoverride⟩ := Results.bind_eq_ok_iff.mp hparsed
  obtain ⟨a, huses, rfl, hchecked⟩ := classOptions_eq_ok _ _ _ hoptions
  have hstorage : server.serverOptions.storage =
      (optionsFor config.defaultUrl inputs.options a).storage := by
    rw [← Except.ok.inj hoverride, OptionsRequest.override_storage]
  have hsize := size_of_manifest hmanifest
  obtain ⟨poolRequest, pools, hanswer, hpool, hclass⟩ := huses.mem
  obtain ⟨hdefault, maxStorage, hmax, hle⟩ := hhealthy _ _ hanswer _ hpool _ hclass
  constructor
  · rintro ⟨b, size, maxStorage', _, hsize', _, hone, _, _⟩
    rw [hsize] at hsize'
    have hstates : StatesStorage config := by
      by_contra hnot
      rw [size_of_not_states server hnot] at hsize'
      cases hsize'
    refine ⟨hstates, ?_⟩
    rintro ⟨hid, hnone, storage, hrequested, hlt⟩
    rw [size_of_states server hstates, hstorage, optionsFor_storage] at hsize'
    simp only [hid, hnone, Option.mem_def.mp hrequested, Option.getD_some] at hsize'
    cases hsize'
    omega
  · rintro ⟨hstates, hbad⟩
    rw [size_of_states server hstates, hstorage, optionsFor_storage] at hsize
    refine ⟨a, _, maxStorage, huses, hsize, hmax, ?_⟩
    unfold StorageChecked at hchecked
    unfold askedStorage
    cases hid : inputs.options.resourceClassId with
    | some classId =>
      simp only [hid] at hchecked ⊢
      obtain ⟨hone, maxStorage', hmax', hle'⟩ := validateStorage_eq_ok hchecked
      cases hmax.symm.trans hmax'
      refine ⟨by omega, by omega, ?_⟩
      intro asked hasked
      obtain ⟨storage, hstorage, rfl⟩ := Option.mem_map.mp hasked
      rw [Option.mem_def.mp hstorage, Option.getD_some]
    | none =>
      cases hrequested : inputs.options.serverOptions with
      | some requested =>
        simp only [hid, hrequested] at hchecked ⊢
        refine ⟨by omega, by omega, ?_⟩
        intro asked hasked
        cases hasked
        exact hchecked
      | none =>
        simp only [hid, hrequested] at hchecked ⊢
        cases hstorage : inputs.options.storage with
        | none =>
          rw [Option.getD_none]
          refine ⟨by omega, by omega, ?_⟩
          intro asked hasked
          cases hasked
        | some storage =>
          have hle' := hchecked storage hstorage
          rw [hmax, Option.getD_some] at hle'
          have hpositive : 1 ≤ storage := by
            by_contra hlt
            exact hbad ⟨hid, hrequested, storage, hstorage, by omega⟩
          rw [Option.getD_some]
          refine ⟨by omega, by omega, ?_⟩
          intro asked hasked
          cases hasked
          exact le_refl _

/-! ### Requests for no storage -/

def sampleClass : ResourceClass where
  id := 1
  cpu := 1
  memory := 1
  gpu := 0
  defaultStorage := 1
  maxStorage := some 10
  default_ := true
  matching := true
  nodeAffinities := []
  tolerations := []

def samplePool : ResourcePool where
  classes := [sampleClass]
  quota := .object (some "quota")
  default_ := true
  idleThreshold := some 3600
  hibernationThreshold := none

def sampleCrc : ResourceService := answering [samplePool]

def sampleServices : LaunchServices where
  chosenImage := .ok {
    image := "renku/singleuser:latest"
    parsedImage := ⟨"registry-1.docker.io", "renku/singleuser", "latest"⟩
    imageRepo := { hostname := "registry-1.docker.io" }
    usingDefaultImage := false
    isImagePrivate := false }
  imageWorkdir := .ok none
  crc := sampleCrc
  validator := {
    getStorageById := fun _ _ => .error .requestException
    validateStorageConfiguration := fun _ _ => .ok () }
  userKey := .ok none
  gitProviders := []
  preferredNamespace := "renku"

def sampleInputs (resourceClassId storage : Option Int) (serverOptions : Option ServerOptions) :
    LaunchInputs where
  user := sampleGuest
  serverName := { text := "anon-renku-2-0a1b2c", wellFormed := PyText.forall_of_all (by decide) }
  options := { resourceClassId, storage, serverOptions, defaultUrl := none, lfsAutoFetch := none }
  environmentVariables := []
  userSecrets := none
  cloudstorage := []
  cloudstorageEndpoint := "data_connectors"
  glProjectPath := none
  givenRepositories := []
  kind := .renku2 "project" "launcher"

theorem sampleCrc_healthy : HealthyClasses sampleCrc := by
  intro poolRequest pools hanswer pool hpool c hc
  cases hanswer
  rw [List.mem_singleton] at hpool
  subst hpool
  rw [samplePool, List.mem_singleton] at hc
  subst hc
  exact ⟨by decide, 10, rfl, by decide⟩

/-- A launch without storage goes through. -/
theorem sample_manifest : ∃ server manifest,
    (sampleInputs none (some 0) none).prepare defaultConfig sampleServices = .ok server ∧
    server.startManifest defaultConfig (.ascii fun _ => "") true true = .ok manifest := by
  have hchecked : ((sampleInputs none (some 0) none).prepare defaultConfig sampleServices).toOption.any
      (fun server => server.environmentVariables.isEmpty && (server.getStartErrors true true).isEmpty &&
        (server.getPatches defaultConfig (.ascii fun _ => "")).toOption.isSome) = true := by
    decide +kernel
  cases hserver : (sampleInputs none (some 0) none).prepare defaultConfig sampleServices with
  | error e =>
    rw [hserver] at hchecked
    cases hchecked
  | ok server =>
    rw [hserver] at hchecked
    obtain ⟨hboth, hpatches⟩ := Bool.and_eq_true_iff.mp hchecked
    obtain ⟨hown, herrors⟩ := Bool.and_eq_true_iff.mp hboth
    cases hmade : server.getPatches defaultConfig (.ascii fun _ => "") with
    | error e =>
      rw [hmade] at hpatches
      cases hpatches
    | ok patches =>
      have hmanifest := EnvironmentOverrides.manifest_of_getPatches defaultConfig
        (.ascii fun _ => "") server (List.isEmpty_iff.mp hown) hmade
      exact ⟨server, _, rfl, (if_pos herrors).trans hmanifest⟩

theorem sample_storageWithinBounds_iff : ∃ server manifest,
    (sampleInputs none (some 0) none).prepare defaultConfig sampleServices = .ok server ∧
    server.startManifest defaultConfig (.ascii fun _ => "") true true = .ok manifest ∧
    (StorageWithinBounds sampleCrc "/lab" sampleGuest (sampleInputs none (some 0) none).options
        manifest ↔
      StatesStorage defaultConfig ∧
        ¬ DefaultWithoutStorage (sampleInputs none (some 0) none).options) := by
  obtain ⟨server, manifest, hserver, hmanifest⟩ := sample_manifest
  exact ⟨server, manifest, hserver, hmanifest,
    storageWithinBounds_iff sampleCrc_healthy hserver hmanifest⟩

/-- The default class lets a request for no storage through. -/
theorem no_storage_accepted : ∃ server manifest,
    (sampleInputs none (some 0) none).prepare defaultConfig sampleServices = .ok server ∧
    server.startManifest defaultConfig (.ascii fun _ => "") true true = .ok manifest ∧
    manifest.dig ["spec", "storage", "size"] = some (.int 0) ∧
    ¬ StorageWithinBounds sampleCrc "/lab" sampleGuest (sampleInputs none (some 0) none).options
        manifest := by
  obtain ⟨server, manifest, hserver, hmanifest⟩ := sample_manifest
  have hzero : server.serverOptions.storage = 0 := by
    obtain ⟨_, _, hparsed, _⟩ := (sampleInputs none (some 0) none).of_prepare _ _ hserver
    rw [← Except.ok.inj hparsed]
    rfl
  have hsize := size_of_manifest hmanifest
  rw [size_of_states server (.inl rfl), hzero] at hsize
  refine ⟨server, manifest, hserver, hmanifest, hsize, ?_⟩
  rintro ⟨a, size, maxStorage, _, hsize', _, hone, _, _⟩
  rw [hsize] at hsize'
  cases hsize'
  omega

/-! ### What a session takes from its pool -/

/-- The label, the patch of the priority class and the thresholds of a session. -/
structure PoolAttributes where
  quotaLabel : Option Json
  priorityClass : List Patch
  idleSecondsThreshold : Int
  hibernatedSecondsThreshold : Int

/-- As the server writes them into its manifest. -/
def attributesOf (config : Config) (server : UserServer) : PoolAttributes where
  quotaLabel := Json.getMember "renku.io/quota" server.getLabels
  priorityClass := AmaltheaPatches.priorityClass server
  idleSecondsThreshold := server.idleSecondsThreshold config
  hibernatedSecondsThreshold := server.hibernatedSecondsThreshold config

def culling (config : Config) (user : User) : GenericCullingConfig :=
  if user.isRegistered then config.sessions.culling.registered
  else config.sessions.culling.anonymous

/-- The attributes that go with a priority class and thresholds. -/
def attributesFor (config : Config) (user : User) (priorityClass : Option String)
    (idleThreshold hibernationThreshold : Option Int) : PoolAttributes where
  quotaLabel := some (optStr priorityClass)
  priorityClass := priorityClass.elim [] fun name =>
    [{ patch := [.add "/statefulset/spec/template/spec/priorityClassName" name] }]
  idleSecondsThreshold := idleThreshold.getD (culling config user).idleSeconds
  hibernatedSecondsThreshold := hibernationThreshold.getD (culling config user).hibernatedSeconds

/-- The quota of a pool and its thresholds, where it has any. -/
def poolAttributes (config : Config) (user : User) (pool : ResourcePool) : PoolAttributes :=
  attributesFor config user pool.quota.id pool.idleThreshold pool.hibernationThreshold

theorem quotaLabel_eq (server : UserServer) :
    Json.getMember "renku.io/quota" server.getLabels =
      some (optStr server.serverOptions.priorityClass) := by
  have hset : ∀ base : List (String × Json), ∀ key value, "renku.io/quota" ≠ key →
      Json.getMember "renku.io/quota" (Json.setMember key value base) =
        Json.getMember "renku.io/quota" base := by
    intro base key value hne
    exact Json.getMember_setMember_of_ne hne value base
  unfold UserServer.getLabels
  rcases server.kind with ⟨_, _, _, commitSha, _, _ | project⟩ | _
  · exact hset _ _ _ (by decide)
  · exact (hset _ _ _ (by decide)).trans (hset _ _ _ (by decide))
  · rfl

theorem attributesOf_eq (config : Config) (server : UserServer) :
    attributesOf config server =
      attributesFor config server.user server.serverOptions.priorityClass
        server.serverOptions.idleThresholdSeconds
        server.serverOptions.hibernationThresholdSeconds := by
  unfold attributesOf attributesFor
  rw [quotaLabel_eq]
  have hpriority : AmaltheaPatches.priorityClass server =
      server.serverOptions.priorityClass.elim [] fun name =>
        [{ patch := [.add "/statefulset/spec/template/spec/priorityClassName" name] }] := by
    unfold AmaltheaPatches.priorityClass
    cases server.serverOptions.priorityClass <;> rfl
  rw [hpriority]
  unfold UserServer.idleSecondsThreshold UserServer.hibernatedSecondsThreshold culling
  cases server.user.isRegistered <;> rfl

/-- A launch of a user that has got its server. -/
structure PreparedLaunch (config : Config) (crc : ResourceService) (user : User) where
  inputs : LaunchInputs
  services : LaunchServices
  server : UserServer
  inputs_user : inputs.user = user
  services_crc : services.crc = crc
  prepared : inputs.prepare config services = .ok server

namespace PreparedLaunch

variable {config : Config} {crc : ResourceService} {user : User}

/-- The server has the options of the class that the request uses, and the attributes that go
with them. -/
theorem attributes (launch : PreparedLaunch config crc user) :
    ∃ a, Uses crc config.defaultUrl user launch.inputs.options a ∧
      attributesOf config launch.server = attributesFor config user
        (optionsFor config.defaultUrl launch.inputs.options a).priorityClass
        (optionsFor config.defaultUrl launch.inputs.options a).idleThresholdSeconds
        (optionsFor config.defaultUrl launch.inputs.options a).hibernationThresholdSeconds := by
  obtain ⟨huser, _, hparsed, _⟩ := launch.inputs.of_prepare config launch.services launch.prepared
  obtain ⟨o, hoptions, hoverride⟩ := Results.bind_eq_ok_iff.mp hparsed
  obtain ⟨a, huses, rfl, _⟩ := classOptions_eq_ok _ _ _ hoptions
  rw [launch.services_crc, launch.inputs_user] at huses
  refine ⟨a, huses, ?_⟩
  rw [attributesOf_eq, huser, launch.inputs_user, ← Except.ok.inj hoverride]
  simp only [OptionsRequest.override_priorityClass, OptionsRequest.override_idleThresholdSeconds,
    OptionsRequest.override_hibernationThresholdSeconds]

end PreparedLaunch

/-- A request uses one class. -/
theorem Uses.unique {crc : ResourceService} {defaultUrl : String} {user : User}
    {request : OptionsRequest} {a b : Candidate} (ha : Uses crc defaultUrl user request a)
    (hb : Uses crc defaultUrl user request b) : a = b := by
  cases ha with
  | byId classId pools hid hpools hfound =>
    cases hb with
    | byId classId' pools' hid' hpools' hfound' =>
      cases hid.symm.trans hid'
      cases hpools.symm.trans hpools'
      exact Option.some.inj (hfound.symm.trans hfound')
    | byOptions _ _ hid' => cases hid.symm.trans hid'
    | byDefault _ hid' => cases hid.symm.trans hid'
  | byOptions requested pools hid hoptions hpools hfound =>
    cases hb with
    | byId _ _ hid' => cases hid.symm.trans hid'
    | byOptions requested' pools' hid' hoptions' hpools' hfound' =>
      cases hoptions.symm.trans hoptions'
      cases hpools.symm.trans hpools'
      exact Option.some.inj (hfound.symm.trans hfound')
    | byDefault _ _ hoptions' => cases hoptions.symm.trans hoptions'
  | byDefault pools hid hoptions hpools hpool hclass =>
    cases hb with
    | byId _ _ hid' => cases hid.symm.trans hid'
    | byOptions _ _ _ hoptions' => cases hoptions.symm.trans hoptions'
    | byDefault pools' hid' hoptions' hpools' hpool' hclass' =>
      cases hpools.symm.trans hpools'
      have hpoolEq : a.1 = b.1 := Option.some.inj (hpool.symm.trans hpool')
      rw [hpoolEq] at hclass
      exact Prod.ext hpoolEq (Option.some.inj (hclass.symm.trans hclass'))

theorem optionsFor_byId (defaultUrl : String) {request : OptionsRequest} (a : Candidate)
    (hid : request.resourceClassId.isSome) :
    (optionsFor defaultUrl request a).priorityClass = a.1.quota.id ∧
      (optionsFor defaultUrl request a).idleThresholdSeconds = a.1.idleThreshold ∧
      (optionsFor defaultUrl request a).hibernationThresholdSeconds = a.1.hibernationThreshold := by
  obtain ⟨classId, hclassId⟩ := Option.isSome_iff_exists.mp hid
  simp only [optionsFor, hclassId]
  cases a.1.quota with
  | missing => exact ⟨rfl, rfl, rfl⟩
  | object id => exact ⟨rfl, rfl, rfl⟩
  | other value => exact ⟨rfl, rfl, rfl⟩

/-- The pool has no quota, and its thresholds, where it has any, are the default ones. -/
def NothingToCopy (config : Config) (user : User) (pool : ResourcePool) : Prop :=
  pool.quota.id = none ∧
    pool.idleThreshold.getD (culling config user).idleSeconds = (culling config user).idleSeconds ∧
    pool.hibernationThreshold.getD (culling config user).hibernatedSeconds =
      (culling config user).hibernatedSeconds

theorem attributesFor_eq_iff (config : Config) (user : User) (pool : ResourcePool) :
    attributesFor config user none none none = poolAttributes config user pool ↔
      NothingToCopy config user pool := by
  unfold poolAttributes attributesFor NothingToCopy
  rw [PoolAttributes.mk.injEq]
  constructor
  · rintro ⟨_, hpriority, hidle, hhibernated⟩
    refine ⟨?_, hidle.symm, hhibernated.symm⟩
    cases hid : pool.quota.id with
    | none => rfl
    | some id =>
      rw [hid] at hpriority
      cases hpriority
  · rintro ⟨hid, hidle, hhibernated⟩
    rw [hid]
    exact ⟨rfl, rfl, hidle.symm, hhibernated.symm⟩

/-- Three launches that choose the same class of the same pool by its identifier, by options and
by default. -/
structure SameClass (config : Config) (crc : ResourceService) (user : User) (a : Candidate) where
  byId : PreparedLaunch config crc user
  byOptions : PreparedLaunch config crc user
  byDefault : PreparedLaunch config crc user
  byId_class : byId.inputs.options.resourceClassId.isSome
  byOptions_class : byOptions.inputs.options.resourceClassId = none ∧
    byOptions.inputs.options.serverOptions.isSome
  byDefault_class : byDefault.inputs.options.resourceClassId = none ∧
    byDefault.inputs.options.serverOptions = none
  byId_uses : Uses crc config.defaultUrl user byId.inputs.options a
  byOptions_uses : Uses crc config.defaultUrl user byOptions.inputs.options a
  byDefault_uses : Uses crc config.defaultUrl user byDefault.inputs.options a

theorem sameAttributes_iff {config : Config} {crc : ResourceService} {user : User} {a : Candidate}
    (launches : SameClass config crc user a) :
    (attributesOf config launches.byId.server = poolAttributes config user a.1 ∧
      attributesOf config launches.byOptions.server = poolAttributes config user a.1 ∧
      attributesOf config launches.byDefault.server = poolAttributes config user a.1) ↔
    NothingToCopy config user a.1 := by
  obtain ⟨a₁, huses₁, hid⟩ := launches.byId.attributes
  obtain ⟨a₂, huses₂, hoptions⟩ := launches.byOptions.attributes
  obtain ⟨a₃, huses₃, hdefault⟩ := launches.byDefault.attributes
  cases huses₁.unique launches.byId_uses
  cases huses₂.unique launches.byOptions_uses
  cases huses₃.unique launches.byDefault_uses
  have hexplicit : attributesOf config launches.byId.server = poolAttributes config user a.1 := by
    obtain ⟨hpriority, hidle, hhibernated⟩ :=
      optionsFor_byId config.defaultUrl a launches.byId_class
    rw [hid, hpriority, hidle, hhibernated]
    rfl
  have hold : attributesOf config launches.byOptions.server =
      attributesFor config user a.1.quota.id none none := by
    obtain ⟨requested, hrequested⟩ := Option.isSome_iff_exists.mp launches.byOptions_class.2
    rw [hoptions]
    simp only [optionsFor, launches.byOptions_class.1, hrequested]
    rfl
  have hnone : attributesOf config launches.byDefault.server =
      attributesFor config user none none none := by
    rw [hdefault]
    simp only [optionsFor, launches.byDefault_class.1, launches.byDefault_class.2]
    rfl
  rw [hexplicit, hold, hnone, attributesFor_eq_iff]
  constructor
  · exact fun h => h.2.2
  · intro h
    refine ⟨rfl, ?_, h⟩
    rw [← (attributesFor_eq_iff config user a.1).mpr h, h.1]

/-! ### A pool with a quota -/

def sampleServerWith (o : ServerOptions) : UserServer where
  user := sampleGuest
  serverName := { text := "anon-renku-2-0a1b2c", wellFormed := PyText.forall_of_all (by decide) }
  image := some "renku/singleuser:latest"
  serverOptions := o
  environmentVariables := []
  userSecrets := none
  cloudstorage := []
  preferredNamespace := "renku"
  workspaceMountPath := LaunchInputs.mountPath none
  workDir := (sampleInputs none none none).serverWorkDir none
  isImagePrivate := false
  givenRepositories := []
  gitProviders := []
  kind := .renku2 "project" "launcher"

theorem prepare_sample {resourceClassId storage : Option Int} {serverOptions : Option ServerOptions}
    {o : ServerOptions}
    (h : (sampleInputs resourceClassId storage serverOptions).options.classOptions sampleCrc "/lab"
      sampleGuest = .ok o) :
    (sampleInputs resourceClassId storage serverOptions).prepare defaultConfig sampleServices =
      .ok (sampleServerWith o) := by
  have hparsed : (sampleInputs resourceClassId storage serverOptions).options.parsedServerOptions
      sampleServices.crc defaultConfig.defaultUrl sampleGuest = .ok o := by
    unfold OptionsRequest.parsedServerOptions
    exact Results.bind_eq_ok_iff.mpr ⟨o, h, rfl⟩
  apply Results.bind_eq_ok_iff.mpr ⟨_, rfl, _⟩
  apply Results.bind_eq_ok_iff.mpr ⟨_, hparsed, _⟩
  rfl

def samplePrepared (resourceClassId storage : Option Int) (serverOptions : Option ServerOptions)
    (o : ServerOptions)
    (h : (sampleInputs resourceClassId storage serverOptions).options.classOptions sampleCrc "/lab"
      sampleGuest = .ok o) : PreparedLaunch defaultConfig sampleCrc sampleGuest where
  inputs := sampleInputs resourceClassId storage serverOptions
  services := sampleServices
  server := sampleServerWith o
  inputs_user := rfl
  services_crc := rfl
  prepared := prepare_sample h

theorem sample_search :
    Improvement.search (Below "/lab" requestedOptions) (Acceptable "/lab" requestedOptions)
      (candidates [samplePool]) = some (samplePool, sampleClass) := by
  apply Improvement.search_cons_of_not_lt
  · refine ⟨rfl, ?_⟩
    rw [ServerOptions.sizes_le_iff]
    exact ⟨le_refl _, le_refl _, le_refl _, le_refl _⟩
  · intro b hb
    cases hb

theorem sample_acceptable : (sampleInputs none none (some requestedOptions)).options.classOptions
    sampleCrc "/lab" sampleGuest = .ok (options "/lab" (samplePool, sampleClass)) := by
  have hfound := findAcceptableClass_eq "/lab" requestedOptions [samplePool] sampleGuest
  rw [sample_search] at hfound
  exact Results.bind_eq_ok_iff.mpr ⟨_, hfound, rfl⟩

def sampleLaunches : SameClass defaultConfig sampleCrc sampleGuest (samplePool, sampleClass) where
  byId := samplePrepared (some 1) none none _ rfl
  byOptions := samplePrepared none none (some requestedOptions) _ sample_acceptable
  byDefault := samplePrepared none none none _ rfl
  byId_class := rfl
  byOptions_class := ⟨rfl, rfl⟩
  byDefault_class := ⟨rfl, rfl⟩
  byId_uses := .byId 1 [samplePool] rfl rfl rfl
  byOptions_uses := .byOptions requestedOptions [samplePool] rfl rfl rfl sample_search
  byDefault_uses := .byDefault [samplePool] rfl rfl rfl rfl rfl

theorem sample_sameAttributes_iff :
    (attributesOf defaultConfig sampleLaunches.byId.server =
        poolAttributes defaultConfig sampleGuest samplePool ∧
      attributesOf defaultConfig sampleLaunches.byOptions.server =
        poolAttributes defaultConfig sampleGuest samplePool ∧
      attributesOf defaultConfig sampleLaunches.byDefault.server =
        poolAttributes defaultConfig sampleGuest samplePool) ↔
    NothingToCopy defaultConfig sampleGuest samplePool :=
  sameAttributes_iff sampleLaunches

/-- The default way leaves the quota out, and only the explicit one takes the idle threshold. -/
theorem pool_attributes_differ :
    (attributesOf defaultConfig sampleLaunches.byId.server).quotaLabel = some "quota" ∧
    (attributesOf defaultConfig sampleLaunches.byDefault.server).quotaLabel = some .null ∧
    (attributesOf defaultConfig sampleLaunches.byId.server).idleSecondsThreshold = 3600 ∧
    (attributesOf defaultConfig sampleLaunches.byOptions.server).idleSecondsThreshold = 43200 ∧
    ¬ (attributesOf defaultConfig sampleLaunches.byId.server =
        attributesOf defaultConfig sampleLaunches.byOptions.server ∧
      attributesOf defaultConfig sampleLaunches.byOptions.server =
        attributesOf defaultConfig sampleLaunches.byDefault.server) := by
  have hid : (attributesOf defaultConfig sampleLaunches.byId.server).idleSecondsThreshold = 3600 :=
    rfl
  have hoptions :
      (attributesOf defaultConfig sampleLaunches.byOptions.server).idleSecondsThreshold = 43200 :=
    rfl
  refine ⟨?_, ?_, hid, hoptions, ?_⟩
  · exact quotaLabel_eq _
  · exact quotaLabel_eq _
  · rintro ⟨hsame, _⟩
    rw [hsame, hoptions] at hid
    exact absurd hid (by decide)

end LaunchedOptions

end RenkuNotebooks.Notebooks
