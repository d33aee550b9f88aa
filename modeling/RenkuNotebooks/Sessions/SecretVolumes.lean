import RenkuNotebooks.Sessions.UserSecretsMount

/-!
# Who sees the secrets of a user

No container that the patches add mounts the plain secrets, and none but the init container that
decrypts them mounts the Kubernetes secret.
-/

namespace RenkuNotebooks.Sessions

open Json
open Notebooks (UserServer K8sUserSecrets Config Patch RCloneStorage applyPatches SessionShape
  podSpec containersLoc addEnvToThird)
open Notebooks.AmaltheaPatches
open Notebooks.Additions (built attempted getPatches_eq storagePatches uncheckedEnv)
open Notebooks.AppendedLists
open Notebooks.Composition hiding hasEnv
open Notebooks.TokenRefresh (addedContainer getPatches_refreshes names_of_patches)
open SecretsMount

def Sees (volume : String) (container : Json) : Prop :=
  ∃ mount ∈ mountsOf container, mount.volume = volume

/-- The volume that the secrets are decrypted to. -/
def plainVolume : String := "user-secrets-volume"

/-- The volume of the Kubernetes secret. -/
def encryptedVolume (serverName : String) : String := serverName ++ "-secret" ++ "-volume"

/-- What the operation adds leaves the plain secrets to the first container, and the encrypted ones
to nobody. -/
structure Keeps (serverName : String) (op : PatchOp) : Prop where
  session : ∀ value, appendedAt sessionMountsLoc op = some value →
    textAt "name" value ≠ some (encryptedVolume serverName)
  proxy : ∀ value, appendedAt proxyMountsLoc op = some value →
    textAt "name" value ≠ some plainVolume ∧ textAt "name" value ≠ some (encryptedVolume serverName)
  containers : ∀ container ∈ addedContainer op,
    ¬ Sees plainVolume container ∧ ¬ Sees (encryptedVolume serverName) container

def KeepOps (serverName : String) (ops : List PatchOp) : Prop :=
  ∀ op ∈ ops, Keeps serverName op

section Operations

variable {serverName path : String} {value : Json} {ops ops' : List PatchOp}

theorem KeepOps.nil : KeepOps serverName [] := List.forall_mem_nil _

theorem KeepOps.cons {op : PatchOp} (hop : Keeps serverName op)
    (hops : KeepOps serverName ops) : KeepOps serverName (op :: ops) :=
  List.forall_mem_cons.mpr ⟨hop, hops⟩

theorem KeepOps.append (h : KeepOps serverName ops) (h' : KeepOps serverName ops') :
    KeepOps serverName (ops ++ ops') :=
  List.forall_mem_append.mpr ⟨h, h'⟩

/-- The lists that matter. -/
def seenLists : List (List String) := [sessionMountsLoc, proxyMountsLoc, containersLoc]

def Elsewhere (path : String) : Prop :=
  ∀ loc ∈ seenLists, JsonPointer.parse path ≠ some (loc ++ ["-"])

instance (path : String) : Decidable (Elsewhere path) :=
  inferInstanceAs (Decidable (∀ loc ∈ seenLists, JsonPointer.parse path ≠ some (loc ++ ["-"])))

theorem appendedAt_elsewhere (h : Elsewhere path) {loc : List String} (hloc : loc ∈ seenLists)
    (value : Json) : appendedAt loc (.add path value) = none :=
  if_neg (h loc hloc)

theorem addedContainer_elsewhere (h : Elsewhere path) (value : Json) :
    addedContainer (.add path value) = [] :=
  if_neg (h containersLoc (by simp [seenLists]))

theorem keeps_elsewhere (h : Elsewhere path) (value : Json) :
    Keeps serverName (.add path value) where
  session v hv := by
    rw [appendedAt_elsewhere h (by simp [seenLists])] at hv
    cases hv
  proxy v hv := by
    rw [appendedAt_elsewhere h (by simp [seenLists])] at hv
    cases hv
  containers c hc := by
    rw [addedContainer_elsewhere h] at hc
    cases hc

theorem keeps_replace (path : String) (value : Json) :
    Keeps serverName (.replace path value) where
  session _ h := by cases h
  proxy _ h := by cases h
  containers _ h := by cases h

theorem keeps_test (path : String) (value : Json) : Keeps serverName (.test path value) where
  session _ h := by cases h
  proxy _ h := by cases h
  containers _ h := by cases h

def sessionMountsPath : String := "/statefulset/spec/template/spec/containers/0/volumeMounts/-"

def proxyMountsPath : String := "/statefulset/spec/template/spec/containers/1/volumeMounts/-"

def containersPath : String := "/statefulset/spec/template/spec/containers/-"

theorem parse_sessionMounts :
    JsonPointer.parse sessionMountsPath = some (sessionMountsLoc ++ ["-"]) := by
  decide

theorem parse_proxyMounts :
    JsonPointer.parse proxyMountsPath = some (proxyMountsLoc ++ ["-"]) := by
  decide

theorem parse_containers : JsonPointer.parse containersPath = some (containersLoc ++ ["-"]) := by
  decide

theorem keeps_sessionMount (h : textAt "name" value ≠ some (encryptedVolume serverName)) :
    Keeps serverName (.add sessionMountsPath value) where
  session v hv := by
    rw [appendedAt, if_pos parse_sessionMounts] at hv
    cases hv
    exact h
  proxy v hv := by
    rw [appendedAt, parse_sessionMounts, if_neg (by decide)] at hv
    cases hv
  containers c hc := by
    rw [addedContainer, parse_sessionMounts, if_neg (by decide)] at hc
    cases hc

theorem keeps_proxyMount (hplain : textAt "name" value ≠ some plainVolume)
    (hencrypted : textAt "name" value ≠ some (encryptedVolume serverName)) :
    Keeps serverName (.add proxyMountsPath value) where
  session v hv := by
    rw [appendedAt, parse_proxyMounts, if_neg (by decide)] at hv
    cases hv
  proxy v hv := by
    rw [appendedAt, if_pos parse_proxyMounts] at hv
    cases hv
    exact ⟨hplain, hencrypted⟩
  containers c hc := by
    rw [addedContainer, parse_proxyMounts, if_neg (by decide)] at hc
    cases hc

theorem keeps_container (hplain : ¬ Sees plainVolume value)
    (hencrypted : ¬ Sees (encryptedVolume serverName) value) :
    Keeps serverName (.add containersPath value) where
  session v hv := by
    rw [appendedAt, parse_containers, if_neg (by decide)] at hv
    cases hv
  proxy v hv := by
    rw [appendedAt, parse_containers, if_neg (by decide)] at hv
    cases hv
  containers c hc := by
    rw [addedContainer, if_pos parse_containers, List.mem_singleton] at hc
    rw [hc]
    exact ⟨hplain, hencrypted⟩

end Operations

/-! ### The builders -/

/-- The fixed paths elsewhere. -/
def elsewherePaths : List String :=
  [ "/statefulset/spec/template/spec/tolerations",
    "/statefulset/spec/template/spec/affinity",
    "/statefulset/spec/template/spec/nodeSelector",
    "/statefulset/spec/template/spec/priorityClassName",
    "/statefulset/spec/template/spec/volumes/-",
    "/statefulset/spec/template/spec/containers/0/args",
    "/statefulset/spec/template/spec/containers/0/env/-",
    "/statefulset/spec/template/spec/containers/0/ports",
    "/statefulset/spec/template/spec/containers/1/args/-",
    "/statefulset/spec/template/spec/containers/1/env/-",
    "/statefulset/spec/template/spec/initContainers/-",
    "/statefulset/spec/template/spec/initContainers/2/env/-",
    "/statefulset/spec/template/spec/imagePullSecrets/-",
    "/statefulset/spec/template/spec/enableServiceLinks",
    "/image_pull_secret",
    "/renviron",
    "/serviceRpcServer",
    "/service/spec/ports/-" ]

theorem elsewhere_of_mem {path : String} (h : path ∈ elsewherePaths) : Elsewhere path := by
  have hall : ∀ path ∈ elsewherePaths, Elsewhere path := by decide +kernel
  exact hall path h

section Builders

variable {config : Config} {py : PyText.Str} {server : UserServer}
variable {serverName : String}

theorem keeps_known {path : String} (hpath : path ∈ elsewherePaths) (value : Json) :
    Keeps serverName (.add path value) :=
  keeps_elsewhere (elsewhere_of_mem hpath) value

theorem test_keeps : KeepOps serverName (opsOf (test config server)) := by
  intro op hop
  obtain ⟨patch, hpatch, hop⟩ := List.mem_flatMap.mp hop
  obtain ⟨⟨name, i⟩, -, rfl⟩ := List.mem_map.mp hpatch
  rw [List.mem_singleton.mp hop]
  exact keeps_test _ _

theorem sessionTolerations_keeps :
    KeepOps serverName (opsOf (sessionTolerations config server)) :=
  .cons (keeps_known (by simp [elsewherePaths]) _) .nil

theorem sessionAffinity_keeps :
    KeepOps serverName (opsOf (sessionAffinity config server)) := by
  dsimp only [sessionAffinity]
  split
  · exact .cons (keeps_known (by simp [elsewherePaths]) _) .nil
  · exact .cons (keeps_known (by simp [elsewherePaths]) _) .nil

theorem sessionNodeSelector_keeps :
    KeepOps serverName (opsOf (sessionNodeSelector config server)) := by
  unfold sessionNodeSelector
  split
  · exact .cons (keeps_known (by simp [elsewherePaths]) _) .nil
  · exact .nil

theorem priorityClass_keeps : KeepOps serverName (opsOf (priorityClass server)) := by
  unfold priorityClass
  split
  · exact .nil
  · exact .cons (keeps_known (by simp [elsewherePaths]) _) .nil

theorem keeps_volume (value : Json) :
    Keeps serverName (.add "/statefulset/spec/template/spec/volumes/-" value) :=
  keeps_known (by simp [elsewherePaths]) value

theorem keeps_mount {name : String} (hname : name ≠ encryptedVolume serverName)
    (members : List (String × Json)) (h : getMember "name" members = some (.str name)) :
    Keeps serverName (.add sessionMountsPath (.obj members)) := by
  apply keeps_sessionMount
  have htext : textAt "name" (.obj members) = some name := by
    simp only [textAt, Json.get?, h]
  rw [htext]
  exact fun heq => hname (Option.some.inj heq)

/-- No name with another ending is that of the Kubernetes secret's volume. -/
theorem ne_encryptedVolume {name : String} (ending : String)
    (hsuffix : ending.toList <:+ name.toList)
    (hlength : ending.toList.length ≤ "-secret-volume".toList.length)
    (hother : ¬ ending.toList <:+ "-secret-volume".toList) : name ≠ encryptedVolume serverName := by
  rintro rfl
  have hvolume : "-secret-volume".toList <:+ (encryptedVolume serverName).toList := by
    rw [encryptedVolume, String.toList_append, String.toList_append, List.append_assoc]
    exact List.suffix_append _ _
  exact hother (List.suffix_of_suffix_length_le hsuffix hvolume hlength)

theorem devShm_keeps : KeepOps serverName (opsOf (devShm server)) :=
  .cons (keeps_volume _) (.cons (keeps_mount (ne_encryptedVolume "shm"
    List.suffix_rfl (by decide) (by decide)) _ rfl) .nil)

theorem args_keeps : KeepOps serverName (opsOf args) :=
  .cons (keeps_known (by simp [elsewherePaths]) _) .nil

theorem uncheckedEnv_keeps : KeepOps serverName (opsOf (uncheckedEnv config server)) := by
  intro op hop
  simp only [uncheckedEnv, opsOf, List.flatMap_cons, List.flatMap_nil, List.append_nil] at hop
  obtain ⟨⟨name, value⟩, -, rfl⟩ := List.mem_map.mp hop
  exact keeps_known (by simp [elsewherePaths]) _

theorem imagePullSecret_keeps {patches : List Patch}
    (h : imagePullSecret config py server = .ok patches) :
    KeepOps serverName (opsOf patches) := by
  unfold imagePullSecret at h
  split at h
  · cases h
    exact .nil
  · obtain ⟨gitlabUser, -, h⟩ := Results.bind_eq_ok_iff.mp h
    cases h
    exact .cons (keeps_known (by simp [elsewherePaths]) _)
      (.cons (keeps_known (by simp [elsewherePaths]) _) .nil)

theorem disableServiceLinks_keeps : KeepOps serverName (opsOf disableServiceLinks) :=
  .cons (keeps_known (by simp [elsewherePaths]) _) .nil

theorem rstudioEnvVariables_keeps :
    KeepOps serverName (opsOf (rstudioEnvVariables server)) := by
  unfold rstudioEnvVariables
  split
  · exact .nil
  · have hsuffix : "-renviron".toList <:+ (server.serverName.text ++ "-renviron").toList := by
      rw [String.toList_append]
      exact List.suffix_append _ _
    exact .cons (keeps_known (by simp [elsewherePaths]) _) (.cons (keeps_volume _)
      (.cons (keeps_mount (ne_encryptedVolume _ hsuffix (by decide) (by decide)) _ rfl) .nil))

theorem userSecrets_keeps :
    KeepOps serverName (opsOf (Notebooks.AmaltheaPatches.userSecrets config server)) := by
  cases hsecrets : server.userSecrets with
  | none =>
    simp only [Notebooks.AmaltheaPatches.userSecrets, hsecrets]
    exact .nil
  | some secrets =>
    rw [opsOf_userSecrets config hsecrets]
    exact .cons (keeps_known (by simp [elsewherePaths]) _) (.cons (keeps_volume _)
      (.cons (keeps_volume _) (.cons (keeps_mount (volumes_apart serverName).symm _ rfl) .nil)))

/-- A container with its mounts among these volumes. -/
theorem not_sees {container : Json} {known : List String}
    (hmounts : ∀ mount ∈ mountsOf container, mount.volume ∈ known) {volume : String}
    (hvolume : volume ∉ known) : ¬ Sees volume container := by
  rintro ⟨mount, hmount, rfl⟩
  exact hvolume (hmounts mount hmount)

def knownVolumes : List String := ["workspace", "etc-ssl-certs", "custom-ca-certs"]

theorem plainVolume_unknown : plainVolume ∉ knownVolumes := by decide

theorem encryptedVolume_unknown (serverName : String) :
    encryptedVolume serverName ∉ knownVolumes := by
  have hlength : ∀ volume ∈ knownVolumes, volume ≠ encryptedVolume serverName := by
    intro volume hvolume
    simp only [knownVolumes, List.mem_cons, List.not_mem_nil, or_false] at hvolume
    rcases hvolume with rfl | rfl | rfl
    · exact ne_encryptedVolume "space" (by decide) (by decide) (by decide)
    · exact ne_encryptedVolume "certs" (by decide) (by decide) (by decide)
    · exact ne_encryptedVolume "certs" (by decide) (by decide) (by decide)
  exact fun hmem => hlength _ hmem rfl

theorem keeps_knownContainer {container : Json}
    (hmounts : ∀ mount ∈ mountsOf container, mount.volume ∈ knownVolumes) :
    Keeps serverName (.add containersPath container) :=
  keeps_container (not_sees hmounts plainVolume_unknown)
    (not_sees hmounts (encryptedVolume_unknown serverName))

theorem gitProxy_keeps : KeepOps serverName (opsOf (gitProxy config py server)) := by
  unfold gitProxy
  split
  · exact .nil
  · apply KeepOps.cons _ .nil
    apply keeps_knownContainer
    intro mount hmount
    rw [List.mem_singleton.mp hmount]
    decide

theorem gitSidecar_keeps : KeepOps serverName (opsOf (gitSidecar config server)) := by
  have harg (value : Json) :
      Keeps serverName (.add "/statefulset/spec/template/spec/containers/1/args/-" value) :=
    keeps_known (by simp [elsewherePaths]) value
  unfold gitSidecar
  split
  · exact .nil
  · apply KeepOps.cons
    · apply keeps_knownContainer
      intro mount hmount
      rw [List.mem_singleton.mp hmount]
      exact List.mem_cons_self
    · exact .cons (keeps_replace _ _) (.cons (harg _) (.cons (harg _) (.cons (harg _)
        (.cons (harg _) (.cons (harg _) (.cons (harg _)
          (.cons (keeps_known (by simp [elsewherePaths]) _) .nil)))))))

theorem oidcUnverifiedEmail_keeps :
    KeepOps serverName (opsOf (oidcUnverifiedEmail config server)) := by
  unfold oidcUnverifiedEmail
  split
  · exact .cons (keeps_known (by simp [elsewherePaths]) _) .nil
  · exact .nil

theorem ssh_keeps : KeepOps serverName (opsOf (ssh config)) := by
  unfold ssh
  split
  · exact .nil
  · rw [opsOf_cons]
    apply KeepOps.append
    · exact .cons (keeps_known (by simp [elsewherePaths]) _)
        (.cons (keeps_known (by simp [elsewherePaths]) _) .nil)
    · split
      · exact .nil
      · split
        · exact .nil
        · exact .cons (keeps_mount (ne_encryptedVolume "ssh-host-keys" List.suffix_rfl
            (by decide) (by decide)) _ rfl) (.cons (keeps_volume _) .nil)

theorem certificates_keeps : KeepOps serverName (opsOf (certificates config)) :=
  .cons (keeps_known (by simp [elsewherePaths]) _)
    (.cons (keeps_volume _) (.cons (keeps_volume _) .nil))

theorem downloadImage_keeps : KeepOps serverName (opsOf (downloadImage server)) :=
  .cons (keeps_known (by simp [elsewherePaths]) _) .nil

theorem gitClone_keeps : KeepOps serverName (opsOf (gitClone config py server)) := by
  unfold gitClone
  split
  · exact .nil
  · exact .cons (keeps_known (by simp [elsewherePaths]) _) .nil

theorem injectCertificates_keeps :
    KeepOps serverName (opsOf (injectCertificates config server)) := by
  have hmount : Keeps serverName (.add proxyMountsPath (etcSslCerts true)) := by
    apply keeps_proxyMount
    · exact fun heq => absurd (Option.some.inj heq) (by decide)
    · intro heq
      exact encryptedVolume_unknown serverName (Option.some.inj heq ▸ by decide)
  dsimp only [injectCertificates]
  rw [opsOf_cons]
  apply KeepOps.append (.cons hmount .nil)
  split
  · exact .cons (keeps_known (by simp [elsewherePaths]) _) .nil
  · exact .nil

/-- The name of a storage ends with a digit. -/
theorem storageBaseName_ne (i : Nat) : storageBaseName server i ≠ encryptedVolume serverName := by
  intro heq
  have hdigits : (toString i).toList <:+ (encryptedVolume serverName).toList := by
    rw [← heq, storageBaseName, String.toList_append]
    exact List.suffix_append _ _
  have hlast : ['e'] <:+ (encryptedVolume serverName).toList := by
    have hvolume : "-volume".toList = "-volum".toList ++ ['e'] := by decide
    rw [encryptedVolume, String.toList_append, hvolume, ← List.append_assoc]
    exact List.suffix_append _ _
  have hlength : ['e'].length ≤ (toString i).toList.length := by
    have hne : (toString i).toList ≠ [] := by
      simp [Nat.repr, Nat.toDigits_ne_nil]
    exact List.length_pos_of_ne_nil hne
  have hmem : 'e' ∈ (toString i).toList :=
    (List.suffix_of_suffix_length_le hlast hdigits hlength).subset List.mem_cons_self
  have hdigit : 'e' ∈ Nat.toDigits 10 i := by simpa [Nat.repr] using hmem
  exact absurd (Nat.isDigit_of_mem_toDigits (by decide) (by decide) hdigit) (by decide)

/-- A member added at the root of the document. -/
theorem elsewhere_root {name : String} (hname : ∀ c ∈ name.toList, c.isAlphanum = true ∨ c = '-') :
    Elsewhere ("/" ++ name) := by
  intro loc hloc heq
  rw [JsonPointer.parse_root_member (plain_of_alphanum hname)] at heq
  have hlength := congrArg List.length (Option.some.inj heq)
  have hlong : ∀ loc ∈ seenLists, 2 ≤ loc.length := by decide
  have hloc' := hlong loc hloc
  rw [List.length_append, List.length_singleton, List.length_singleton] at hlength
  omega

theorem getManifestPatch_keeps {storage : RCloneStorage} {i : Nat} {patches : List Patch}
    (h : storage.getManifestPatch config py (storageBaseName server i) = .ok patches) :
    KeepOps serverName (opsOf patches) := by
  obtain ⟨configData, -, h⟩ := Results.bind_eq_ok_iff.mp h
  cases h
  have hpv : ∀ c ∈ "-pv".toList, c.isAlphanum = true ∨ c = '-' := PyText.forall_of_all (by decide)
  have hsecret : ∀ c ∈ "-secret".toList, c.isAlphanum = true ∨ c = '-' :=
    PyText.forall_of_all (by decide)
  exact .cons (keeps_elsewhere (elsewhere_root (storageBaseName_wellFormed server i hpv)) _)
    (.cons (keeps_elsewhere (elsewhere_root (storageBaseName_wellFormed server i hsecret)) _)
      (.cons (keeps_mount (storageBaseName_ne i) _ rfl) (.cons (keeps_volume _) .nil)))

theorem storages_keeps :
    KeepOps serverName
      (opsOf (server.cloudstorage.zipIdx.flatMap (storagePatches config py server))) := by
  generalize server.cloudstorage.zipIdx = storages
  induction storages with
  | nil => exact .nil
  | cons storageIdx storages ih =>
    obtain ⟨storage, i⟩ := storageIdx
    have hmanifest : KeepOps serverName (opsOf
        (built (storage.getManifestPatch config py (storageBaseName server i)))) := by
      cases h : storage.getManifestPatch config py (storageBaseName server i) with
      | error e => exact .nil
      | ok patches => exact getManifestPatch_keeps h
    rw [List.flatMap_cons, opsOf_append, storagePatches, opsOf_append]
    refine (hmanifest.append ?_).append ih
    split
    · exact .nil
    · exact .cons (keeps_known (by simp [elsewherePaths, Notebooks.Additions.cloneEnvPath]) _) .nil

theorem attempted_keeps : KeepOps serverName (opsOf (attempted config py server)) := by
  have hpull : KeepOps serverName (opsOf (built (imagePullSecret config py server))) := by
    cases h : imagePullSecret config py server with
    | error e => exact .nil
    | ok patches => exact imagePullSecret_keeps h
  unfold attempted
  simp only [opsOf_append]
  exact test_keeps.append sessionTolerations_keeps |>.append
    sessionAffinity_keeps |>.append
    sessionNodeSelector_keeps |>.append
    priorityClass_keeps |>.append
    devShm_keeps |>.append
    args_keeps |>.append
    uncheckedEnv_keeps |>.append
    hpull |>.append
    disableServiceLinks_keeps |>.append
    rstudioEnvVariables_keeps |>.append
    userSecrets_keeps |>.append
    gitProxy_keeps |>.append
    gitSidecar_keeps |>.append
    oidcUnverifiedEmail_keeps |>.append
    ssh_keeps |>.append
    certificates_keeps |>.append
    downloadImage_keeps |>.append
    gitClone_keeps |>.append
    injectCertificates_keeps |>.append
    storages_keeps

end Builders

/-! ### The pod -/

section Pod

variable {config : Config} {py : PyText.Str} {server : UserServer}

/-- Behind the user's secrets, the third init container has no list of variables. -/
theorem addEnvToThird_downloadImage (variable_ first second : Json) (rest : List Json) :
    addEnvToThird variable_ (first :: second :: downloadImageContainer server :: rest) = none := by
  have hzero : Nat.repr 0 ≠ "2" := by decide
  have hone : Nat.repr 1 ≠ "2" := by decide
  have htwo : Nat.repr 2 = "2" := by decide
  have henv : alterAt ["env"] (insertChild "-" variable_) (downloadImageContainer server) =
      none := by
    unfold downloadImageContainer
    cases server.image with
    | none => rfl
    | some image => rfl
  simp [addEnvToThird, alterElem, hzero, hone, htwo, henv]

theorem initEffect_eq_of_userSecrets {secrets : K8sUserSecrets}
    (hsecrets : server.userSecrets = some secrets) {inits : List Json}
    (h : initEffect config py server [] = some inits) :
    inits = initUserSecrets config server secrets.name :: initCertificates config ::
      downloadImageContainer server :: gitCloneInit config py server := by
  unfold initEffect at h
  simp only [userSecretsInit, hsecrets, List.nil_append, List.cons_append] at h
  split at h
  · exact (Option.some.inj h).symm
  · cases hstorages : server.cloudstorage.zipIdx with
    | nil =>
      rw [hstorages] at h
      exact (Option.some.inj h).symm
    | cons storageIdx storages =>
      obtain ⟨storage, i⟩ := storageIdx
      rw [hstorages, addStorageMounts, List.foldlM_cons] at h
      obtain ⟨mid, hmid, -⟩ := Option.bind_eq_some_iff.mp h
      cases (addEnvToThird_downloadImage _ _ _ _).symm.trans hmid

theorem sees_init {init : Json} {volume : String} (hvolume : volume ∉ knownVolumes)
    (hinit : init ∈ initCertificates config :: downloadImageContainer server ::
      gitCloneInit config py server) : ¬ Sees volume init := by
  apply not_sees _ hvolume
  intro mount hmount
  rcases List.mem_cons.mp hinit with rfl | hinit
  · have hmounts : mountsOf (initCertificates config) =
        [⟨"/etc/ssl/certs/", "etc-ssl-certs", false⟩,
          ⟨config.sessions.caCerts.path, "custom-ca-certs", true⟩] := rfl
    rw [hmounts] at hmount
    rcases List.mem_pair.mp hmount with rfl | rfl
    · simp [knownVolumes]
    · simp [knownVolumes]
  rcases List.mem_cons.mp hinit with rfl | hinit
  · have hmounts : mountsOf (downloadImageContainer server) = [] := by
      unfold downloadImageContainer
      cases server.image with
      | none => rfl
      | some image => rfl
    rw [hmounts] at hmount
    exact (List.not_mem_nil hmount).elim
  · unfold gitCloneInit at hinit
    split at hinit
    · exact (List.not_mem_nil hinit).elim
    · rw [List.mem_singleton.mp hinit] at hmount
      have hmounts : mountsOf (gitCloneContainer config py server) =
          [⟨server.workspaceMountPath.absolute.asPosix, "workspace", false⟩,
            ⟨"/etc/ssl/certs/", "etc-ssl-certs", true⟩] := rfl
      rw [hmounts] at hmount
      rcases List.mem_pair.mp hmount with rfl | rfl
      · simp [knownVolumes]
      · simp [knownVolumes]

theorem mountsOf_eq {doc container : Json} {i : String} {mounts : List Json}
    (hcontainer : getAt (containersLoc ++ [i]) doc = some container)
    (hmounts : getAt (containersLoc ++ [i] ++ ["volumeMounts"]) doc = some (.arr mounts)) :
    mountsOf container = mounts.filterMap mountOf := by
  rw [getAt_append, hcontainer, Option.bind_some,
    getAt_of_named (fun t ht => by rw [List.mem_singleton.mp ht]; decide)] at hmounts
  have hget : container.get? "volumeMounts" = some (.arr mounts) := by
    simpa [dig] using hmounts
  rw [mountsOf, hget]

theorem textAt_of_mountOf {value : Json} {mount : Mount} (h : mountOf value = some mount) :
    textAt "name" value = some mount.volume := by
  obtain ⟨mountPath, -, h⟩ := Option.bind_eq_some_iff.mp h
  obtain ⟨volume, hvolume, h⟩ := Option.bind_eq_some_iff.mp h
  rw [hvolume, ← Option.some.inj h]

/-- The first two containers have what they had, and what is appended to their lists. -/
theorem sees_provided {base doc container : Json} {inits : List Json}
    (hbase : SessionShape base inits) {i : String}
    (hloc : containersLoc ++ [i] ++ ["volumeMounts"] ∈ appendedLocs) {ops : List PatchOp}
    (hops : ∀ op ∈ ops, Notebooks.TokenRefresh.SessionOp op) (h : applyOps ops base = .ok doc)
    (hcontainer : getAt (containersLoc ++ [i]) doc = some container) {volume : String}
    (hsees : Sees volume container) :
    (∃ given, getAt (containersLoc ++ [i]) base = some given ∧ Sees volume given) ∨
      ∃ op ∈ ops, ∃ value, appendedAt (containersLoc ++ [i] ++ ["volumeMounts"]) op = some value ∧
        textAt "name" value = some volume := by
  obtain ⟨x, hx, xs, rfl⟩ := hbase.anchored (_, .array) (anchored_of_appended _ hloc)
  have hmounts := mountsOf_eq hcontainer (run_appends hloc hops hbase h hx)
  obtain ⟨mount, hmount, rfl⟩ := hsees
  rw [hmounts] at hmount
  obtain ⟨value, hvalue, hof⟩ := List.mem_filterMap.mp hmount
  rcases List.mem_append.mp hvalue with hvalue | hvalue
  · left
    have hgiven := hx
    rw [getAt_append] at hgiven
    obtain ⟨given, hgiven, -⟩ := Option.bind_eq_some_iff.mp hgiven
    refine ⟨given, hgiven, mount, ?_, rfl⟩
    rw [mountsOf_eq hgiven hx]
    exact List.mem_filterMap.mpr ⟨value, hvalue, hof⟩
  · right
    obtain ⟨op, hop, happended⟩ := List.mem_filterMap.mp hvalue
    exact ⟨op, hop, value, happended, textAt_of_mountOf hof⟩

theorem getAt_first {doc : Json} {inits : List Json} (hshape : SessionShape doc inits) :
    getAt (containersLoc ++ ["0"]) doc = (containersOf doc)[0]? := by
  obtain ⟨first, second, rest, hcs⟩ := exists_first_containers hshape
  have hzero : Nat.repr 0 = "0" := by decide
  rw [getAt_append, getAt_containersLoc hshape, Option.bind_some, hcs]
  simp [getAt, child, elemAt, hzero]

theorem getAt_second {doc : Json} {inits : List Json} (hshape : SessionShape doc inits) :
    getAt (containersLoc ++ ["1"]) doc = (containersOf doc)[1]? := by
  obtain ⟨first, second, rest, hcs⟩ := exists_first_containers hshape
  have hzero : Nat.repr 0 ≠ "1" := by decide
  have hone : Nat.repr 1 = "1" := by decide
  rw [getAt_append, getAt_containersLoc hshape, Option.bind_some, hcs]
  simp [getAt, child, elemAt, hzero, hone]

/-- Of the containers of a session, only the first is given a mount of the plain secrets, and none
is given one of the Kubernetes secret; of the init containers, only the one that decrypts them. -/
theorem secrets_kept_apart (huser : server.user.isRegistered = true) {secrets : K8sUserSecrets}
    (hsecrets : server.userSecrets = some secrets)
    (hname : secrets.name = server.serverName.text ++ "-secret") {base doc : Json}
    (hbase : AmaltheaBase base) {patches : List Patch}
    (hpatches : server.getPatches config py = .ok patches)
    (hdoc : applyPatches patches base = .ok doc) :
    ∀ volume, volume = plainVolume ∨ volume = secrets.name ++ "-volume" →
      (∀ i container, (containersOf doc)[i]? = some container → Sees volume container →
        i = 0 ∧ volume = plainVolume ∨
          ∃ given, (containersOf base)[i]? = some given ∧ Sees volume given) ∧
      ∀ i init, (initContainers doc)[i]? = some init → Sees volume init → i = 0 := by
  intro volume hvolume
  rw [hname] at hvolume
  change volume = plainVolume ∨ volume = encryptedVolume server.serverName.text at hvolume
  have hunknown : volume ∉ knownVolumes := by
    rcases hvolume with rfl | rfl
    · exact plainVolume_unknown
    · exact encryptedVolume_unknown _
  have hnames := names_of_patches config py server huser hbase hpatches hdoc
  obtain ⟨u, hu⟩ := Notebooks.User.exists_registered huser
  obtain ⟨_, -, hrefreshes⟩ := getPatches_refreshes config py server ⟨"", ""⟩ hu hnames hpatches
  have hops := hrefreshes.session
  have hkeeps : KeepOps server.serverName.text (opsOf patches) := by
    rw [getPatches_eq config py server hpatches]
    exact attempted_keeps
  obtain ⟨inits, heffect, hshape⟩ := composed_shape huser hbase hpatches hdoc
  constructor
  · intro i container hcontainer hsees
    match i with
    | 0 =>
      rw [← getAt_first hshape] at hcontainer
      rcases sees_provided hbase (by decide) hops hdoc hcontainer hsees with
        ⟨given, hgiven, hsees⟩ | ⟨op, hop, value, happended, hname⟩
      · exact .inr ⟨given, getAt_first hbase ▸ hgiven, hsees⟩
      · refine .inl ⟨rfl, hvolume.resolve_right ?_⟩
        rintro rfl
        exact (hkeeps op hop).session value happended hname
    | 1 =>
      rw [← getAt_second hshape] at hcontainer
      rcases sees_provided hbase (by decide) hops hdoc hcontainer hsees with
        ⟨given, hgiven, hsees⟩ | ⟨op, hop, value, happended, hname⟩
      · exact .inr ⟨given, getAt_second hbase ▸ hgiven, hsees⟩
      · have hproxy := (hkeeps op hop).proxy value happended
        rcases hvolume with rfl | rfl
        · exact (hproxy.1 hname).elim
        · exact (hproxy.2 hname).elim
    | i + 2 =>
      right
      have hdrop := run_containers hops hbase hdoc
      rw [Nat.add_comm, ← List.getElem?_drop, hdrop, List.getElem?_append] at hcontainer
      split at hcontainer
      · refine ⟨container, ?_, hsees⟩
        rwa [Nat.add_comm, ← List.getElem?_drop]
      · obtain ⟨op, hop, hadded⟩ := List.mem_flatMap.mp (List.mem_of_getElem? hcontainer)
        have hkept := (hkeeps op hop).containers container hadded
        rcases hvolume with rfl | rfl
        · exact (hkept.1 hsees).elim
        · exact (hkept.2 hsees).elim
  · intro i init hinit hsees
    rw [initContainers_of_shape hshape, initEffect_eq_of_userSecrets hsecrets heffect] at hinit
    cases i with
    | zero => rfl
    | succ i =>
      rw [List.getElem?_cons_succ] at hinit
      exact (sees_init hunknown (List.mem_of_getElem? hinit) hsees).elim

end Pod

theorem janes_secrets_kept_apart :
    applyPatches secretsPatches sampleBase = .ok secretsDoc ∧
    ∀ volume, volume = plainVolume ∨ volume = "jane-renku-2-0a1b2c-secret" ++ "-volume" →
      (∀ i container, (containersOf secretsDoc)[i]? = some container → Sees volume container →
        i = 0 ∧ volume = plainVolume ∨
          ∃ given, (containersOf sampleBase)[i]? = some given ∧ Sees volume given) ∧
      ∀ i init, (initContainers secretsDoc)[i]? = some init → Sees volume init → i = 0 :=
  ⟨secretsDoc_composed, @secrets_kept_apart Notebooks.defaultConfig (.ascii fun _ => "") secretsServer rfl
    _ rfl (by decide +kernel) _ _ sampleBase_amaltheaBase secretsPatches rfl secretsDoc_composed⟩

end RenkuNotebooks.Sessions
