import RenkuNotebooks.Notebooks.EnvironmentOverrides
import RenkuNotebooks.Notebooks.PyDict

/-!
# Cloud storages read back from a manifest

`ExistingCloudStorage.from_manifest` looks for persistent volumes of the CSI driver. The storages
of a session are written as a claim and a secret, and so none of them is found.
-/

namespace RenkuNotebooks.Notebooks

structure ExistingCloudStorage where
  remote : Json
  type : String
  deriving DecidableEq, Repr

namespace ExistingCloudStorage

open PyDict

/-- The value of the first line that starts with `type`. -/
def storageType (configData : String) : Except PyError String :=
  match (PyText.splitlines configData).find? fun line => "type".toList.isPrefixOf line.toList with
  | none => .ok "Unknown"
  | some line =>
    match PyText.split (PyText.strip line) '=' with
    | [_, storageType] => .ok (PyText.strip storageType)
    | _ => .error .valueError

section Reader

variable (config : Config)

/-- The volume attributes of a persistent volume of the driver. -/
def fromAttributes (value : Json) : Except PyError ExistingCloudStorage := do
  let spec ← getItem "spec" value
  let csi ← getItem "csi" spec
  let attributes ← getItem "volumeAttributes" csi
  let configData ← getItem "configData" attributes
  let data ← text configData
  let type ← storageType data
  let remote ← getItem "remote" attributes
  pure { remote, type }

def fromValue (value : Json) : Except PyError (Option ExistingCloudStorage) := do
  let kind ← getOr "kind" .null value
  let spec ← getOr "spec" (.obj []) value
  let csi ← getOr "csi" (.obj []) spec
  let driver ← getOr "driver" "" csi
  if kind = .str "PersistentVolume" ∧ driver = .str config.cloudStorageClass then
    some <$> fromAttributes value
  else pure none

def fromPatch (patch : Json) : Except PyError (Option ExistingCloudStorage) := do
  let op ← getItem "op" patch
  if op = .str "test" then pure none
  else do
    let value ← getItem "value" patch
    match value with
    | .obj _ => fromValue config value
    | _ => pure none

def fromManifest (manifest : Json) : Except PyError (List ExistingCloudStorage) := do
  let spec ← getItem "spec" manifest
  let patches ← getItem "patches" spec
  let collections ← elements patches
  let found ← collections.mapM fun collection => do
    let patch ← getItem "patch" collection
    let ops ← elements patch
    let storages ← ops.mapM (fromPatch config)
    pure (storages.filterMap id)
  pure found.flatten

end Reader

end ExistingCloudStorage

/-- `UserServerManifest.cloudstorage` -/
def UserServerManifest.cloudstorage (config : Config) (manifest : Json) :
    Except PyError (List ExistingCloudStorage) :=
  ExistingCloudStorage.fromManifest config manifest

/-! ### What the patches of a session look like to the reader -/

namespace StorageReadback

open AmaltheaPatches Notebooks.Composition ExistingCloudStorage PyDict

variable (config : Config) (py : PyText.Str) (server : UserServer)

def Unread (op : PatchOp) : Prop := fromPatch config (UserServer.PatchOp.toJson op) = .ok none

def UnreadOps (ops : List PatchOp) : Prop := ∀ op ∈ ops, Unread config op

variable {config} in
theorem UnreadOps.nil : UnreadOps config [] := by
  intro op hop
  cases hop

variable {config} in
theorem UnreadOps.cons {op : PatchOp} {ops : List PatchOp} (hop : Unread config op)
    (hops : UnreadOps config ops) : UnreadOps config (op :: ops) :=
  List.forall_mem_cons.mpr ⟨hop, hops⟩

variable {config} in
theorem UnreadOps.append {ops ops' : List PatchOp} (h : UnreadOps config ops)
    (h' : UnreadOps config ops') : UnreadOps config (ops ++ ops') :=
  List.forall_mem_append.mpr ⟨h, h'⟩

/-- Settings that say where pods run, and are no volumes. -/
def PlainSettings : Prop :=
  ∀ value ∈ [config.sessions.affinity, config.sessions.nodeSelector],
    value.get? "kind" ≠ some (.str "PersistentVolume") ∧ value.get? "spec" = none

theorem unread_setting {path : String} {value : Json}
    (hkind : value.get? "kind" ≠ some (.str "PersistentVolume")) (hspec : value.get? "spec" = none) :
    Unread config (.add path value) := by
  cases value with
  | obj ms =>
    have hkind' : (Json.getMember "kind" ms).getD .null ≠ .str "PersistentVolume" := by
      intro hvolume
      apply hkind
      have hmember : ∀ found : Option Json, found.getD .null = .str "PersistentVolume" →
          found = some (.str "PersistentVolume") := by
        intro found hfound
        cases found with
        | none => cases hfound
        | some value => exact congrArg some hfound
      exact hmember _ hvolume
    have hspec' : Json.getMember "spec" ms = none := hspec
    have hvalue : fromValue config (.obj ms) = .ok none := by
      simp only [fromValue, getOr, hspec']
      exact if_neg fun hboth => hkind' hboth.1
    exact hvalue
  | _ => rfl

theorem test_unread : UnreadOps config (opsOf (test config server)) := by
  intro op hop
  obtain ⟨patch, hpatch, hop⟩ := List.mem_flatMap.mp hop
  obtain ⟨⟨name, i⟩, _, rfl⟩ := List.mem_map.mp hpatch
  rw [List.mem_singleton] at hop
  subst hop
  rfl

theorem sessionTolerations_unread : UnreadOps config (opsOf (sessionTolerations config server)) :=
  .cons rfl .nil

theorem sessionAffinity_unread (hsettings : PlainSettings config) :
    UnreadOps config (opsOf (sessionAffinity config server)) := by
  obtain ⟨hkind, hspec⟩ := hsettings config.sessions.affinity (by simp)
  dsimp only [sessionAffinity]
  split
  · exact .cons (unread_setting config hkind hspec) .nil
  · exact .cons rfl .nil

theorem sessionNodeSelector_unread (hsettings : PlainSettings config) :
    UnreadOps config (opsOf (sessionNodeSelector config server)) := by
  obtain ⟨hkind, hspec⟩ := hsettings config.sessions.nodeSelector (by simp)
  unfold sessionNodeSelector
  split
  · exact .cons (unread_setting config hkind hspec) .nil
  · exact .nil

theorem priorityClass_unread : UnreadOps config (opsOf (priorityClass server)) := by
  unfold priorityClass
  split
  · exact .nil
  · exact .cons rfl .nil

theorem devShm_unread : UnreadOps config (opsOf (devShm server)) := .cons rfl (.cons rfl .nil)

theorem args_unread : UnreadOps config (opsOf args) := .cons rfl .nil

theorem env_unread {patches : List Patch} (h : env config server = .ok patches) :
    UnreadOps config (opsOf patches) := by
  obtain ⟨userEnv, huserEnv, h⟩ := Results.bind_eq_ok_iff.mp h
  cases h
  have huser : UnreadOps config userEnv := by
    intro op hop
    have hforall := Results.forall2_of_mapM_eq_ok huserEnv
    obtain ⟨⟨key, value⟩, _, hstep⟩ := Results.exists_of_mem_forall2 hforall hop
    dsimp only at hstep
    split at hstep
    · split at hstep
      · exact absurd hstep (by simp)
      · cases hstep
        rfl
    · cases hstep
      rfl
  rw [opsOf_cons, opsOf_nil, List.append_nil]
  apply UnreadOps.append _ huser
  intro op hop
  obtain ⟨⟨name, value⟩, _, rfl⟩ := List.mem_map.mp hop
  rfl

theorem imagePullSecret_unread {patches : List Patch}
    (h : imagePullSecret config py server = .ok patches) : UnreadOps config (opsOf patches) := by
  unfold imagePullSecret at h
  split at h
  · cases h
    exact .nil
  · obtain ⟨gitlabUser, _, h⟩ := Results.bind_eq_ok_iff.mp h
    cases h
    exact .cons rfl (.cons rfl .nil)

theorem disableServiceLinks_unread : UnreadOps config (opsOf disableServiceLinks) := .cons rfl .nil

theorem rstudioEnvVariables_unread : UnreadOps config (opsOf (rstudioEnvVariables server)) := by
  unfold rstudioEnvVariables
  split
  · exact .nil
  · exact .cons rfl (.cons rfl (.cons rfl .nil))

theorem userSecrets_unread :
    UnreadOps config (opsOf (AmaltheaPatches.userSecrets config server)) := by
  unfold AmaltheaPatches.userSecrets
  split
  · exact .nil
  · exact .cons rfl (.cons rfl (.cons rfl (.cons rfl .nil)))

theorem gitProxy_unread : UnreadOps config (opsOf (gitProxy config py server)) := by
  unfold gitProxy
  split
  · exact .nil
  · exact .cons rfl .nil

theorem gitSidecar_unread : UnreadOps config (opsOf (gitSidecar config server)) := by
  unfold gitSidecar
  split
  · exact .nil
  · exact .cons rfl (.cons rfl (.cons rfl (.cons rfl (.cons rfl (.cons rfl (.cons rfl (.cons rfl
      (.cons rfl .nil))))))))

theorem oidcUnverifiedEmail_unread :
    UnreadOps config (opsOf (oidcUnverifiedEmail config server)) := by
  unfold oidcUnverifiedEmail
  split
  · exact .cons rfl .nil
  · exact .nil

theorem ssh_unread : UnreadOps config (opsOf (ssh config)) := by
  unfold ssh
  split
  · exact .nil
  · rw [opsOf_cons]
    apply UnreadOps.append
    · exact .cons rfl (.cons rfl .nil)
    · split
      · exact .nil
      · split
        · exact .nil
        · exact .cons rfl (.cons rfl .nil)

theorem certificates_unread : UnreadOps config (opsOf (certificates config)) :=
  .cons rfl (.cons rfl (.cons rfl .nil))

theorem downloadImage_unread : UnreadOps config (opsOf (downloadImage server)) := by
  have hcontainer : Unread config
      (.add "/statefulset/spec/template/spec/initContainers/-" (downloadImageContainer server)) := by
    unfold downloadImageContainer
    cases server.image with
    | none => rfl
    | some image => rfl
  exact .cons hcontainer .nil

theorem gitClone_unread : UnreadOps config (opsOf (gitClone config py server)) := by
  unfold gitClone
  split
  · exact .nil
  · exact .cons rfl .nil

theorem injectCertificates_unread :
    UnreadOps config (opsOf (injectCertificates config server)) := by
  dsimp only [injectCertificates]
  rw [opsOf_cons]
  apply UnreadOps.append
  · exact .cons rfl .nil
  · split
    · exact .cons rfl .nil
    · exact .nil

/-- A storage is written as a claim and a secret. -/
theorem getManifestPatch_unread {storage : RCloneStorage} {base : String} {patches : List Patch}
    (h : storage.getManifestPatch config py base = .ok patches) :
    UnreadOps config (opsOf patches) := by
  obtain ⟨configData, _, h⟩ := Results.bind_eq_ok_iff.mp h
  cases h
  exact .cons rfl (.cons rfl (.cons rfl (.cons rfl .nil)))

theorem cloudstorage_unread {patches : List Patch}
    (h : AmaltheaPatches.cloudstorage config py server = .ok patches) :
    UnreadOps config (opsOf patches) := by
  obtain ⟨patchLists, hlists, h⟩ := Results.bind_eq_ok_iff.mp h
  cases h
  have hforall := Results.forall2_of_mapM_eq_ok hlists
  clear hlists h
  generalize server.cloudstorage.zipIdx = storages at hforall
  induction hforall with
  | nil => exact .nil
  | @cons storageIdx ps storages pss hstep _ ih =>
    obtain ⟨storage, i⟩ := storageIdx
    obtain ⟨manifestPatch, hmanifest, hstep⟩ := Results.bind_eq_ok_iff.mp hstep
    cases hstep
    rw [List.flatten_cons, opsOf_append, opsOf_append]
    apply UnreadOps.append _ ih
    apply (getManifestPatch_unread config py hmanifest).append
    split
    · exact .nil
    · exact .cons rfl .nil

theorem getPatches_unread (hsettings : PlainSettings config) {patches : List Patch}
    (h : server.getPatches config py = .ok patches) : UnreadOps config (opsOf patches) := by
  obtain ⟨envPatches, henv, h⟩ := Results.bind_eq_ok_iff.mp h
  obtain ⟨pullPatches, hpull, h⟩ := Results.bind_eq_ok_iff.mp h
  obtain ⟨storagePatches, hstorage, h⟩ := Results.bind_eq_ok_iff.mp h
  rw [← Except.ok.inj h]
  simp only [opsOf_append]
  have hbefore := (test_unread config server).append
    (sessionTolerations_unread config server) |>.append
    (sessionAffinity_unread config server hsettings) |>.append
    (sessionNodeSelector_unread config server hsettings) |>.append
    (priorityClass_unread config server) |>.append
    (devShm_unread config server) |>.append
    (args_unread config) |>.append
    (env_unread config server henv) |>.append
    (imagePullSecret_unread config py server hpull) |>.append
    (disableServiceLinks_unread config) |>.append
    (rstudioEnvVariables_unread config server)
  exact hbefore.append
    (userSecrets_unread config server) |>.append
    (gitProxy_unread config py server) |>.append
    (gitSidecar_unread config server) |>.append
    (oidcUnverifiedEmail_unread config server) |>.append
    (ssh_unread config) |>.append
    (certificates_unread config) |>.append
    (downloadImage_unread config server) |>.append
    (gitClone_unread config py server) |>.append
    (injectCertificates_unread config server) |>.append
    (cloudstorage_unread config py server hstorage)

/-! ### What is read back -/

theorem storages_of_unread {ops : List PatchOp} (h : UnreadOps config ops) :
    (ops.map UserServer.PatchOp.toJson).mapM (fromPatch config) =
      .ok ((ops.map UserServer.PatchOp.toJson).map fun _ => none) := by
  apply Results.mapM_eq_ok_map
  intro value hvalue
  obtain ⟨op, hop, rfl⟩ := List.mem_map.mp hvalue
  exact h op hop

theorem fromManifest_of_unread {spec : Json} {manifest : Json} {patches : List Patch}
    (hspec : manifest.get? "spec" = some spec)
    (hpatches : spec.get? "patches" = some (.arr (patches.map UserServer.Patch.toJson)))
    (h : UnreadOps config (opsOf patches)) : fromManifest config manifest = .ok [] := by
  have hcollection : ∀ collection ∈ patches.map UserServer.Patch.toJson,
      (do
        let patch ← getItem "patch" collection
        let ops ← elements patch
        let storages ← ops.mapM (fromPatch config)
        pure (storages.filterMap id)) = Except.ok (ε := PyError) [] := by
    intro collection hcollection
    obtain ⟨patch, hpatch, rfl⟩ := List.mem_map.mp hcollection
    have hops : UnreadOps config patch.patch := fun op hop =>
      h op (List.mem_flatMap.mpr ⟨patch, hpatch, hop⟩)
    have hnone : ((patch.patch.map UserServer.PatchOp.toJson).map
        fun _ => (none : Option ExistingCloudStorage)).filterMap id = [] := by
      rw [List.filterMap_eq_nil_iff]
      intro storage hstorage
      obtain ⟨_, _, rfl⟩ := List.mem_map.mp hstorage
      rfl
    have hpatchItem : getItem "patch" (UserServer.Patch.toJson patch) =
        .ok (.arr (patch.patch.map UserServer.PatchOp.toJson)) := getItem_of_get? rfl
    rw [hpatchItem]
    apply Results.bind_eq_ok_iff.mpr ⟨_, rfl, _⟩
    apply Results.bind_eq_ok_iff.mpr ⟨_, rfl, _⟩
    apply Results.bind_eq_ok_iff.mpr ⟨_, storages_of_unread config hops, _⟩
    rw [hnone]
    rfl
  have hflatten : ((patches.map UserServer.Patch.toJson).map
      fun _ => ([] : List ExistingCloudStorage)).flatten = [] := by
    rw [List.flatten_eq_nil_iff]
    intro storages hstorages
    obtain ⟨_, _, rfl⟩ := List.mem_map.mp hstorages
    rfl
  apply Results.bind_eq_ok_iff.mpr ⟨_, getItem_of_get? hspec, _⟩
  apply Results.bind_eq_ok_iff.mpr ⟨_, getItem_of_get? hpatches, _⟩
  apply Results.bind_eq_ok_iff.mpr ⟨_, rfl, _⟩
  apply Results.bind_eq_ok_iff.mpr ⟨_, Results.mapM_eq_ok_map hcollection, _⟩
  rw [hflatten]
  rfl

theorem cloudstorage_of_manifest (hsettings : PlainSettings config) {manifest : Json}
    (hmanifest : server.getSessionManifest config py = .ok manifest) :
    UserServerManifest.cloudstorage config manifest = .ok [] := by
  obtain ⟨patches, hpatches, hmanifest⟩ := Results.bind_eq_ok_iff.mp hmanifest
  obtain ⟨_, _, hmanifest⟩ := Results.bind_eq_ok_iff.mp hmanifest
  cases hmanifest
  exact fromManifest_of_unread config rfl rfl
    (getPatches_unread config py server hsettings hpatches)

/-- One entry for each storage, in order, with the remote and the type that were written. -/
def ReadsBack (manifest : Json) : Prop :=
  ∃ entries, UserServerManifest.cloudstorage config manifest = .ok entries ∧
    List.Forall₂ (fun (storageIdx : RCloneStorage × Nat) entry =>
      entry.remote = .str (storageIdx.1.remoteName (storageBaseName server storageIdx.2)) ∧
      ∃ written type, storageIdx.1.rewriteConfiguration = .ok written ∧
        Json.getMember "type" written.configuration = some type ∧
        entry.type = RCloneStorage.stringify py type)
      server.cloudstorage.zipIdx entries

/-- The storages of a session are read back exactly when there are none. -/
theorem readsBack_iff_no_cloudstorage (hsettings : PlainSettings config) {manifest : Json}
    (hmanifest : server.getSessionManifest config py = .ok manifest) :
    ReadsBack config py server manifest ↔ server.cloudstorage = [] := by
  have hread := cloudstorage_of_manifest config py server hsettings hmanifest
  constructor
  · rintro ⟨entries, hentries, hall⟩
    cases hread.symm.trans hentries
    have hlength := hall.length_eq
    rw [List.length_zipIdx] at hlength
    exact List.eq_nil_of_length_eq_zero hlength
  · intro hnone
    refine ⟨[], hread, ?_⟩
    rw [hnone]
    exact .nil

theorem defaultConfig_plainSettings : PlainSettings defaultConfig := by
  intro value hvalue
  have hempty : value = .obj [] := by
    rcases List.mem_pair.mp hvalue with rfl | rfl
    · rfl
    · rfl
  rw [hempty]
  exact ⟨by decide, rfl⟩

/-- An anonymous session with one storage and no repository. -/
def anonymousServer : UserServer :=
  { exampleServer none with
    user := .anonymous { id := "anon-1", username := "anon-1", safeUsername := "anon-1" }
    givenRepositories := [] }

theorem anonymousServer_manifest : ∃ manifest,
    anonymousServer.getSessionManifest defaultConfig (.ascii fun _ => "") = .ok manifest := by
  have hpatches : anonymousServer.getPatches defaultConfig (.ascii fun _ => "") = .ok _ := rfl
  exact ⟨_, EnvironmentOverrides.manifest_of_getPatches defaultConfig (.ascii fun _ => "") _ rfl
    hpatches⟩

theorem sample_readsBack_iff : ∃ manifest,
    anonymousServer.getSessionManifest defaultConfig (.ascii fun _ => "") = .ok manifest ∧
    (ReadsBack defaultConfig (.ascii fun _ => "") anonymousServer manifest ↔
      anonymousServer.cloudstorage = []) := by
  obtain ⟨manifest, hmanifest⟩ := anonymousServer_manifest
  exact ⟨manifest, hmanifest, readsBack_iff_no_cloudstorage defaultConfig (.ascii fun _ => "")
    anonymousServer defaultConfig_plainSettings hmanifest⟩

theorem storage_not_read_back : ∃ manifest,
    anonymousServer.getSessionManifest defaultConfig (.ascii fun _ => "") = .ok manifest ∧
    anonymousServer.cloudstorage.length = 1 ∧
    ¬ ReadsBack defaultConfig (.ascii fun _ => "") anonymousServer manifest := by
  obtain ⟨manifest, hmanifest⟩ := anonymousServer_manifest
  refine ⟨manifest, hmanifest, rfl, ?_⟩
  rintro ⟨entries, hentries, hall⟩
  have hread := cloudstorage_of_manifest defaultConfig (.ascii fun _ => "") anonymousServer
    defaultConfig_plainSettings hmanifest
  cases hread.symm.trans hentries
  cases hall

end StorageReadback

end RenkuNotebooks.Notebooks
