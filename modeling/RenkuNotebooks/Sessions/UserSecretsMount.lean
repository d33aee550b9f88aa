import RenkuNotebooks.Notebooks.AppendedLists
import RenkuNotebooks.SecretsMount.Decryption

/-!
# The secrets of a user in the session

The patches of the service give a session the volume of a Kubernetes secret, a volume in memory, and
an init container that decrypts the one into the other. Only the main container reads the result.
-/

namespace RenkuNotebooks.Sessions

open Json
open Notebooks (UserServer K8sUserSecrets User Config Patch applyPatches SessionShape podSpec
  containersLoc)
open Notebooks.AmaltheaPatches (memoryVolume initUserSecrets)
open Notebooks.Composition
open Notebooks.TokenRefresh (names_of_patches)
open Notebooks.AppendedLists
open SecretsMount Prog

/-! ### Reading the pod -/

def textAt (key : String) (j : Json) : Option String :=
  match j.get? key with
  | some (.str s) => some s
  | _ => none

def mountOf (j : Json) : Option Mount := do
  let mountPath ← textAt "mountPath" j
  let volume ← textAt "name" j
  some { mountPath, volume, readOnly := j.get? "readOnly" = some (.bool true) }

def mountsOf (container : Json) : List Mount :=
  match container.get? "volumeMounts" with
  | some (.arr mounts) => mounts.filterMap mountOf
  | _ => []

/-- The last variable of a name counts. -/
def environOf (container : Json) (name : String) : Option String :=
  match container.get? "env" with
  | some (.arr vars) =>
    (vars.reverse.find? fun v => textAt "name" v = some name).bind (textAt "value")
  | _ => none

def podVolumes (doc : Json) : List Json :=
  match getAt volumesLoc doc with
  | some (.arr volumes) => volumes
  | _ => []

/-- A pod starts with empty volumes in memory, and with the files of its Kubernetes secrets. -/
structure Started (secretData : String → Listing) (doc : Json) (volumes : Volumes) : Prop where
  memory : ∀ v ∈ podVolumes doc, ∀ name, textAt "name" v = some name →
    (v.get? "emptyDir").isSome → volumes name = []
  secret : ∀ v ∈ podVolumes doc, ∀ name source secretName, textAt "name" v = some name →
    v.get? "secret" = some source → textAt "secretName" source = some secretName →
      volumes name = secretData secretName

/-! ### The init container -/

section InitContainer

variable {config : Config} {server : UserServer} {secrets : K8sUserSecrets}

def encryptedMount (secrets : K8sUserSecrets) : Mount :=
  ⟨"/encrypted", secrets.name ++ "-volume", true⟩

def decryptedMount : Mount := ⟨"/decrypted", "user-secrets-volume", false⟩

/-- The name of the Kubernetes secret ends otherwise. -/
theorem volumes_apart (serverName : String) :
    serverName ++ "-secret" ++ "-volume" ≠ "user-secrets-volume" := by
  intro heq
  have hsuffix : "-secret-volume".toList <:+ "user-secrets-volume".toList := by
    rw [← heq, String.toList_append, String.toList_append, List.append_assoc]
    exact List.suffix_append _ _
  exact absurd hsuffix (by decide)

theorem encryptedPath_initUserSecrets :
    encryptedSecretsMountPath (environOf (initUserSecrets config server secrets.name)) =
      PosixPath.ofString "/encrypted" :=
  rfl

theorem decryptedPath_initUserSecrets :
    decryptedSecretsMountPath (environOf (initUserSecrets config server secrets.name)) =
      PosixPath.ofString "/decrypted" :=
  rfl

theorem initUserSecrets_mounted (hname : secrets.name = server.serverName.text ++ "-secret") :
    Mounted (mountsOf (initUserSecrets config server secrets.name))
      (encryptedSecretsMountPath (environOf (initUserSecrets config server secrets.name)))
      (decryptedSecretsMountPath (environOf (initUserSecrets config server secrets.name)))
      (encryptedMount secrets) decryptedMount where
  source := by
    rw [encryptedPath_initUserSecrets]
    exact List.find?_cons_of_pos (decide_eq_true rfl)
  target := by
    rw [decryptedPath_initUserSecrets]
    have hapart : PosixPath.ofString "/encrypted" ≠ PosixPath.ofString "/decrypted" := by decide
    exact (List.find?_cons_of_neg (by simpa using hapart)).trans
      (List.find?_cons_of_pos (decide_eq_true rfl))
  apart := by
    rw [encryptedMount, decryptedMount, hname]
    exact volumes_apart _
  writable := rfl

/-- The init container, on volumes as they are when the pod starts. -/
theorem run_initUserSecrets (config : Config) {Key : Type} (crypto : Cryptography Key)
    (answer : String → String → Except Failure HttpResponse)
    (hname : secrets.name = server.serverName.text ++ "-secret") {volumes : Volumes}
    (hempty : volumes "user-secrets-volume" = []) :
    let init := initUserSecrets config server secrets.name
    let outcome := run (serve answer (mountsOf init)) (main crypto (environOf init)) volumes
    (∀ volume, volume ≠ "user-secrets-volume" → outcome.2 volume = volumes volume) ∧
      Delivered crypto (userKey answer crypto config.dataServiceUrl
          (Notebooks.pyStr server.user.accessToken)) (volumes (secrets.name ++ "-volume"))
        (outcome.1, outcome.2 "user-secrets-volume") :=
  run_main (environOf (initUserSecrets config server secrets.name)) rfl rfl
    (initUserSecrets_mounted hname) hempty

end InitContainer

/-! ### The session -/

/-- The container of the session, at the first place. -/
def sessionContainer (doc : Json) : Option Json := getAt (containersLoc ++ ["0"]) doc

section Session

variable {config : Config} {py : PyText.Str} {server : UserServer}

/-- What the patches make of the init containers. -/
theorem composed_shape (huser : server.user.isRegistered = true) {base doc : Json}
    (hbase : AmaltheaBase base) {patches : List Patch}
    (hpatches : server.getPatches config py = .ok patches)
    (hdoc : applyPatches patches base = .ok doc) :
    ∃ inits, initEffect config py server [] = some inits ∧ SessionShape doc inits := by
  have hnames := names_of_patches config py server huser hbase hpatches hdoc
  have hsim := getPatches_simulates config py server huser hnames hpatches base [] hbase
  cases heffect : initEffect config py server [] with
  | none =>
    obtain ⟨path, hpath⟩ := hsim.2 heffect
    cases hdoc.symm.trans hpath
  | some inits =>
    obtain ⟨doc', hdoc', hshape⟩ := hsim.1 inits heffect
    cases hdoc.symm.trans hdoc'
    exact ⟨inits, rfl, hshape⟩

theorem userSecrets_ops_of_patches {patches : List Patch}
    (hpatches : server.getPatches config py = .ok patches) {op : PatchOp}
    (hop : op ∈ opsOf (Notebooks.AmaltheaPatches.userSecrets config server)) :
    op ∈ opsOf patches := by
  obtain ⟨_, _, h⟩ := Results.bind_eq_ok_iff.mp hpatches
  obtain ⟨_, _, h⟩ := Results.bind_eq_ok_iff.mp h
  obtain ⟨_, _, h⟩ := Results.bind_eq_ok_iff.mp h
  rw [← Except.ok.inj h]
  simp only [opsOf_append, List.mem_append]
  tauto

def secretVolume (secretName : String) : Json :=
  .obj [("name", .str (secretName ++ "-volume")), ("secret", .obj [("secretName", secretName)])]

def secretsMount (mountPath : String) : Json :=
  .obj [("mountPath", mountPath), ("name", "user-secrets-volume"), ("readOnly", true)]

theorem opsOf_userSecrets (config : Config) {secrets : K8sUserSecrets}
    (hsecrets : server.userSecrets = some secrets) :
    opsOf (Notebooks.AmaltheaPatches.userSecrets config server) = [
      .add "/statefulset/spec/template/spec/initContainers/-"
        (initUserSecrets config server secrets.name),
      .add "/statefulset/spec/template/spec/volumes/-" (memoryVolume "user-secrets-volume"),
      .add "/statefulset/spec/template/spec/volumes/-" (secretVolume secrets.name),
      .add "/statefulset/spec/template/spec/containers/0/volumeMounts/-"
        (secretsMount secrets.mountPath)] := by
  simp only [Notebooks.AmaltheaPatches.userSecrets, hsecrets]
  rfl

theorem mem_podVolumes (huser : server.user.isRegistered = true) {base doc : Json}
    (hbase : AmaltheaBase base) {patches : List Patch}
    (hpatches : server.getPatches config py = .ok patches)
    (hdoc : applyPatches patches base = .ok doc) {v : Json}
    (hop : .add "/statefulset/spec/template/spec/volumes/-" v ∈
      opsOf (Notebooks.AmaltheaPatches.userSecrets config server)) : v ∈ podVolumes doc := by
  obtain ⟨volumes, hvolumes, hmem⟩ := mem_composed huser hbase hpatches hdoc volumesLoc
    (by decide) (userSecrets_ops_of_patches hpatches hop) (by decide)
  rw [podVolumes, hvolumes]
  exact hmem

theorem getAt_member (key : String) (ms : List (String × Json)) :
    getAt [key] (.obj ms) = (Json.obj ms).get? key := by
  simp [getAt, child, Json.get?]

theorem mem_mountsOf_sessionContainer {doc : Json} {mounts : List Json} {j : Json} (mount : Mount)
    {inits : List Json} (hshape : SessionShape doc inits)
    (hmounts : getAt sessionMountsLoc doc = some (.arr mounts)) (hmem : j ∈ mounts)
    (hmount : mountOf j = some mount) :
    ∃ container, sessionContainer doc = some container ∧ named "jupyter-server" container ∧
      mount ∈ mountsOf container := by
  obtain ⟨container, hcontainer, ms, rfl⟩ :=
    hshape.anchored (containersLoc ++ ["0"], .object) (by decide)
  obtain ⟨name, hname, hjupyter⟩ :=
    hshape.anchored (containersLoc ++ ["0"] ++ ["name"], .text "jupyter-server") (by decide)
  refine ⟨.obj ms, hcontainer, ?_, ?_⟩
  · rw [getAt_append, hcontainer, Option.bind_some, getAt_member, hjupyter] at hname
    exact hname
  · have hlist : getAt (containersLoc ++ ["0"] ++ ["volumeMounts"]) doc = some (.arr mounts) :=
      hmounts
    rw [getAt_append, hcontainer, Option.bind_some, getAt_member] at hlist
    rw [mountsOf, hlist]
    exact List.mem_filterMap.mpr ⟨j, hmem, hmount⟩

/-- The files of the user's secret reach the container of the session as plain text, and nothing
else does; they do so whenever the init container ends well and the data service has a key. -/
theorem user_secrets_delivered {u : Notebooks.RegisteredUser} (huser : server.user = .registered u)
    {secrets : K8sUserSecrets} (hsecrets : server.userSecrets = some secrets)
    (hname : secrets.name = server.serverName.text ++ "-secret") {base doc : Json}
    (hbase : AmaltheaBase base) {patches : List Patch}
    (hpatches : server.getPatches config py = .ok patches)
    (hdoc : applyPatches patches base = .ok doc) {secretData : String → Listing}
    {volumes : Volumes} (hstart : Started secretData doc volumes) {Key : Type}
    (crypto : Cryptography Key) (answer : String → String → Except Failure HttpResponse) :
    ∃ init rest container mount, initContainers doc = init :: rest ∧
      sessionContainer doc = some container ∧ named "jupyter-server" container ∧
      mount ∈ mountsOf container ∧ mount.mountPath = secrets.mountPath ∧ mount.readOnly = true ∧
      let outcome := run (serve answer (mountsOf init)) (main crypto (environOf init)) volumes
      (∀ volume, volume ≠ mount.volume → outcome.2 volume = volumes volume) ∧
        Delivered crypto (userKey answer crypto config.dataServiceUrl u.accessToken)
          (secretData secrets.name) (outcome.1, outcome.2 mount.volume) := by
  have hregistered : server.user.isRegistered = true := by rw [huser]; rfl
  have htoken : Notebooks.pyStr server.user.accessToken = u.accessToken := by rw [huser]; rfl
  obtain ⟨inits, heffect, hshape⟩ := composed_shape hregistered hbase hpatches hdoc
  have hhead := initEffect_head_of_userSecrets config py server hsecrets heffect
  obtain ⟨rest, rfl⟩ : ∃ rest, inits = initUserSecrets config server secrets.name :: rest := by
    cases inits with
    | nil => cases hhead
    | cons init rest => exact ⟨rest, by rw [Option.some.inj hhead]⟩
  -- the volumes of the pod
  have hops := opsOf_userSecrets config hsecrets
  have hmemory : memoryVolume "user-secrets-volume" ∈ podVolumes doc :=
    mem_podVolumes hregistered hbase hpatches hdoc (by simp [hops])
  have hsecret : secretVolume secrets.name ∈ podVolumes doc :=
    mem_podVolumes hregistered hbase hpatches hdoc (by simp [hops])
  have hempty := hstart.memory _ hmemory "user-secrets-volume" rfl rfl
  have hfiles := hstart.secret _ hsecret (secrets.name ++ "-volume") _ secrets.name rfl rfl rfl
  -- the mount of the session
  have hop : .add "/statefulset/spec/template/spec/containers/0/volumeMounts/-"
      (secretsMount secrets.mountPath) ∈ opsOf patches :=
    userSecrets_ops_of_patches hpatches (by simp [hops])
  obtain ⟨mounts, hmounts, hmem⟩ := mem_composed hregistered hbase hpatches hdoc
    sessionMountsLoc (by decide) hop (by decide)
  obtain ⟨container, hcontainer, hjupyter, hmount⟩ := mem_mountsOf_sessionContainer
    ⟨secrets.mountPath, "user-secrets-volume", true⟩ hshape hmounts hmem rfl
  refine ⟨_, rest, container, _, initContainers_of_shape hshape, hcontainer, hjupyter, hmount, rfl,
    rfl, ?_⟩
  have hrun := run_initUserSecrets config crypto answer hname hempty
  rw [hfiles, htoken] at hrun
  exact hrun

end Session

/-- A session with a secret and no storage. -/
def secretsServer : UserServer :=
  { exampleServer (some ⟨"jane-renku-2-0a1b2c-secret", ["01"], "/secrets"⟩) with
    cloudstorage := [] }

def secretsPatches : List Patch :=
  (secretsServer.getPatches Notebooks.defaultConfig (.ascii fun _ => "")).toOption.getD []

def secretsDoc : Json := (applyPatches secretsPatches sampleBase).toOption.getD .null

def sampleFiles : Listing := [("..data", .directory), ("token", .file "gAAAAABm")]

def sampleVolumes : Volumes := fun name =>
  if name = "jane-renku-2-0a1b2c-secret-volume" then sampleFiles else []

def sampleCryptography : Cryptography String where
  getEncryptionKey password salt := password ++ salt
  decryptString key content :=
    if key = "k1" ∧ content = "gAAAAABm" then .ok "s3cr3t" else .error .invalidToken

def sampleAnswer (url accessToken : String) : Except Failure HttpResponse :=
  if accessToken ≠ "access" then .ok ⟨401, some (.obj [])⟩
  else if url = Notebooks.defaultConfig.dataServiceUrl ++ "/user" then
    .ok ⟨200, some (.obj [("id", "1")])⟩
  else .ok ⟨200, some (.obj [("secret_key", "k")])⟩

/-- The volume of the secrets is the only one that a Kubernetes secret backs, and it is not in
memory. -/
def SecretVolume (v : Json) : Prop :=
  ((v.get? "emptyDir").isSome → textAt "name" v ≠ some "jane-renku-2-0a1b2c-secret-volume") ∧
    ((v.get? "secret").isSome → textAt "name" v = some "jane-renku-2-0a1b2c-secret-volume")

instance (v : Json) : Decidable (SecretVolume v) := inferInstanceAs (Decidable (_ ∧ _))

theorem secretsDoc_spec : applyPatches secretsPatches sampleBase = .ok secretsDoc ∧
    ∀ v ∈ podVolumes secretsDoc, SecretVolume v := by
  have hchecked : (applyPatches secretsPatches sampleBase).toOption.any
      (fun doc => (podVolumes doc).all fun v => SecretVolume v) = true := by
    decide +kernel
  rw [secretsDoc]
  cases hdoc : applyPatches secretsPatches sampleBase with
  | error e =>
    rw [hdoc] at hchecked
    cases hchecked
  | ok doc =>
    rw [hdoc] at hchecked
    exact ⟨rfl, fun v hv => of_decide_eq_true (List.all_eq_true.mp hchecked v hv)⟩

theorem secretsDoc_composed : applyPatches secretsPatches sampleBase = .ok secretsDoc :=
  secretsDoc_spec.1

theorem sampleVolumes_started : Started (fun _ => sampleFiles) secretsDoc sampleVolumes where
  memory v hv name hname hmemory := by
    refine if_neg ?_
    rintro rfl
    exact (secretsDoc_spec.2 v hv).1 hmemory hname
  secret v hv name source secretName hname hsource hsecret := by
    have hthere := (secretsDoc_spec.2 v hv).2 (by rw [hsource]; rfl)
    exact if_pos (Option.some.inj (hname.symm.trans hthere))

theorem janes_secrets_delivered :
    ∃ init rest container mount, initContainers secretsDoc = init :: rest ∧
      sessionContainer secretsDoc = some container ∧ named "jupyter-server" container ∧
      mount ∈ mountsOf container ∧ mount.mountPath = "/secrets" ∧ mount.readOnly = true ∧
      let outcome := run (serve sampleAnswer (mountsOf init))
        (main sampleCryptography (environOf init)) sampleVolumes
      (∀ volume, volume ≠ mount.volume → outcome.2 volume = sampleVolumes volume) ∧
        Delivered sampleCryptography (.ok (some "k1")) sampleFiles
          (outcome.1, outcome.2 mount.volume) := by
  have hkey : userKey sampleAnswer sampleCryptography Notebooks.defaultConfig.dataServiceUrl
      "access" = .ok (some "k1") := by
    decide +kernel
  rw [← hkey]
  exact @user_secrets_delivered Notebooks.defaultConfig (.ascii fun _ => "") secretsServer _ rfl _ rfl
    (by decide +kernel) _ _ sampleBase_amaltheaBase secretsPatches rfl secretsDoc_composed _ _
    sampleVolumes_started _ sampleCryptography sampleAnswer

end RenkuNotebooks.Sessions
