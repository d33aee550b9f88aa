import RenkuNotebooks.Notebooks.Composition

/-!
# What the patches of a session add

Two kinds of operations of a session are read later on: those that append an init container and
those that append a variable to a container. Every builder is placed in one of them or in neither.
-/

namespace RenkuNotebooks.Notebooks.Additions

open AmaltheaPatches Notebooks.Composition

variable (config : Config) (py : PyText.Str) (server : UserServer)

def initPath : String := "/statefulset/spec/template/spec/initContainers/-"

/-- The end of a list of variables. -/
def EnvPath (path : String) : Prop := "/env/-".toList <:+ path.toList

instance (path : String) : Decidable (EnvPath path) :=
  inferInstanceAs (Decidable ("/env/-".toList <:+ path.toList))

def opValue : PatchOp → Option Json
  | .add _ value | .replace _ value | .test _ value => some value
  | .remove _ => none

def appendedInit (op : PatchOp) : Option Json := if op.path = initPath then opValue op else none

/-- A variable of a container: the list that it is appended to, its name and its value. -/
abbrev EnvVariable := (String × String) × Json

def appendedVariable (op : PatchOp) : Option EnvVariable :=
  if EnvPath op.path then
    match opValue op with
    | some value =>
      match value.get? "name", value.get? "value" with
      | some (.str name), some set => some ((op.path, name), set)
      | _, _ => none
    | none => none
  else none

def appendedInits (ops : List PatchOp) : List Json := ops.filterMap appendedInit

def appendedVariables (ops : List PatchOp) : List EnvVariable := ops.filterMap appendedVariable

@[simp] theorem appendedInits_append (ops ops' : List PatchOp) :
    appendedInits (ops ++ ops') = appendedInits ops ++ appendedInits ops' :=
  List.filterMap_append

@[simp] theorem appendedVariables_append (ops ops' : List PatchOp) :
    appendedVariables (ops ++ ops') = appendedVariables ops ++ appendedVariables ops' :=
  List.filterMap_append

/-! ### Paths that are neither -/

/-- In any case of letters. -/
def QuietPath (path : String) : Prop :=
  path ≠ initPath ∧ ¬ "/env/-".toList <:+ path.toList.map Char.toLower

instance (path : String) : Decidable (QuietPath path) :=
  inferInstanceAs
    (Decidable (path ≠ initPath ∧ ¬ "/env/-".toList <:+ path.toList.map Char.toLower))

def QuietOps (ops : List PatchOp) : Prop := ∀ op ∈ ops, QuietPath op.path

theorem endsWith_env (path : String) : path.endsWith "/env/-" = true ↔ EnvPath path := by
  rw [← String.endsWith_toSlice, String.Slice.endsWith_string_iff, String.copy_toSlice]
  rfl

theorem toList_lower (s : String) : (PyText.lower s).toList = s.toList.map Char.toLower :=
  String.toList_ofList

theorem EnvPath.lower {path : String} (h : EnvPath path) : EnvPath (PyText.lower path) := by
  obtain ⟨cs, hcs⟩ := h
  have henv : "/env/-".toList.map Char.toLower = "/env/-".toList := by decide +kernel
  refine ⟨cs.map Char.toLower, ?_⟩
  rw [toList_lower, ← hcs, List.map_append, henv]

theorem QuietPath.not_env_lower {path : String} (h : QuietPath path) :
    ¬ EnvPath (PyText.lower path) := by
  rw [EnvPath, toList_lower]
  exact h.2

theorem QuietPath.not_env {path : String} (h : QuietPath path) : ¬ EnvPath path :=
  fun henv => h.not_env_lower henv.lower

/-- A path that does not end with a dash. -/
theorem quiet_of_last {path : String} {cs : List Char} {c : Char} (hpath : path.toList = cs ++ [c])
    (hc : c.toLower ≠ '-') : QuietPath path := by
  constructor
  · intro heq
    have hlast : path.toList.getLast? = some '-' := by
      rw [heq]
      decide +kernel
    rw [hpath, List.getLast?_concat] at hlast
    cases hlast
    exact hc (by decide)
  · rintro ⟨before, hbefore⟩
    have hlast : (before ++ "/env/-".toList).getLast? = some '-' := by
      have hdash : "/env/-".toList = "/env/".toList ++ ['-'] := by decide +kernel
      rw [hdash, ← List.append_assoc, List.getLast?_concat]
    rw [hbefore, hpath, List.map_append, List.map_singleton,
      List.getLast?_concat] at hlast
    exact hc (Option.some.inj hlast)

theorem QuietOps.nil : QuietOps [] := List.forall_mem_nil _

theorem QuietOps.add {path : String} {value : Json} {ops : List PatchOp} (hpath : QuietPath path)
    (hops : QuietOps ops) : QuietOps (.add path value :: ops) :=
  List.forall_mem_cons.mpr ⟨hpath, hops⟩

theorem QuietOps.replace {path : String} {value : Json} {ops : List PatchOp}
    (hpath : QuietPath path) (hops : QuietOps ops) : QuietOps (.replace path value :: ops) :=
  List.forall_mem_cons.mpr ⟨hpath, hops⟩

theorem QuietOps.append {ops ops' : List PatchOp} (h : QuietOps ops) (h' : QuietOps ops') :
    QuietOps (ops ++ ops') :=
  List.forall_mem_append.mpr ⟨h, h'⟩

theorem QuietOps.inits {ops : List PatchOp} (h : QuietOps ops) : appendedInits ops = [] := by
  rw [appendedInits, List.filterMap_eq_nil_iff]
  intro op hop
  exact if_neg (h op hop).1

theorem QuietOps.vars {ops : List PatchOp} (h : QuietOps ops) :
    appendedVariables ops = [] := by
  rw [appendedVariables, List.filterMap_eq_nil_iff]
  intro op hop
  exact if_neg (h op hop).not_env

/-! ### The lists that several builders append to -/

/-- The fixed paths of the operations that add neither. -/
def quietPaths : List String :=
  [ "/statefulset/spec/template/spec/tolerations",
    "/statefulset/spec/template/spec/affinity",
    "/statefulset/spec/template/spec/nodeSelector",
    "/statefulset/spec/template/spec/priorityClassName",
    "/statefulset/spec/template/spec/volumes/-",
    "/statefulset/spec/template/spec/containers/-",
    "/statefulset/spec/template/spec/containers/0/volumeMounts/-",
    "/statefulset/spec/template/spec/containers/0/args",
    "/statefulset/spec/template/spec/containers/0/ports",
    "/statefulset/spec/template/spec/containers/1/volumeMounts/-",
    "/statefulset/spec/template/spec/containers/1/args/-",
    "/statefulset/spec/template/spec/containers/1/args/6",
    "/statefulset/spec/template/spec/imagePullSecrets/-",
    "/statefulset/spec/template/spec/enableServiceLinks",
    "/image_pull_secret",
    "/renviron",
    "/serviceRpcServer",
    "/service/spec/ports/-" ]

theorem quiet_of_mem {path : String} (h : path ∈ quietPaths) : QuietPath path := by
  have hall : ∀ path ∈ quietPaths, QuietPath path := by decide +kernel
  exact hall path h

theorem quiet_volume : QuietPath "/statefulset/spec/template/spec/volumes/-" :=
  quiet_of_mem (by simp [quietPaths])

theorem quiet_mount : QuietPath "/statefulset/spec/template/spec/containers/0/volumeMounts/-" :=
  quiet_of_mem (by simp [quietPaths])

theorem quiet_container : QuietPath "/statefulset/spec/template/spec/containers/-" :=
  quiet_of_mem (by simp [quietPaths])

theorem quiet_proxyArg : QuietPath "/statefulset/spec/template/spec/containers/1/args/-" :=
  quiet_of_mem (by simp [quietPaths])

theorem test_quiet : QuietOps (opsOf (test config server)) := by
  intro op hop
  obtain ⟨patch, hpatch, hop⟩ := List.mem_flatMap.mp hop
  obtain ⟨⟨name, i⟩, _, rfl⟩ := List.mem_map.mp hpatch
  rw [List.mem_singleton] at hop
  subst hop
  have hname : "/name".toList = "/nam".toList ++ ['e'] := by decide +kernel
  have hlast : ("/statefulset/spec/template/spec/containers/" ++ toString i ++ "/name").toList =
      ("/statefulset/spec/template/spec/containers/" ++ toString i ++ "/nam").toList ++ ['e'] := by
    simp only [String.toList_append, hname, List.append_assoc]
  exact quiet_of_last hlast (by decide)

theorem sessionTolerations_quiet : QuietOps (opsOf (sessionTolerations config server)) :=
  .add (quiet_of_mem (by simp [quietPaths])) .nil

theorem sessionAffinity_quiet : QuietOps (opsOf (sessionAffinity config server)) := by
  dsimp only [sessionAffinity]
  split
  · exact .add (quiet_of_mem (by simp [quietPaths])) .nil
  · exact .add (quiet_of_mem (by simp [quietPaths])) .nil

theorem sessionNodeSelector_quiet : QuietOps (opsOf (sessionNodeSelector config server)) := by
  unfold sessionNodeSelector
  split
  · exact .add (quiet_of_mem (by simp [quietPaths])) .nil
  · exact .nil

theorem priorityClass_quiet : QuietOps (opsOf (priorityClass server)) := by
  unfold priorityClass
  split
  · exact .nil
  · exact .add (quiet_of_mem (by simp [quietPaths])) .nil

theorem devShm_quiet : QuietOps (opsOf (devShm server)) :=
  .add quiet_volume (.add quiet_mount .nil)

theorem args_quiet : QuietOps (opsOf args) := .add (quiet_of_mem (by simp [quietPaths])) .nil

theorem imagePullSecret_quiet {patches : List Patch}
    (h : imagePullSecret config py server = .ok patches) : QuietOps (opsOf patches) := by
  unfold imagePullSecret at h
  split at h
  · cases h
    exact .nil
  · obtain ⟨gitlabUser, _, h⟩ := Results.bind_eq_ok_iff.mp h
    cases h
    exact .add (quiet_of_mem (by simp [quietPaths]))
      (.add (quiet_of_mem (by simp [quietPaths])) .nil)

theorem disableServiceLinks_quiet : QuietOps (opsOf disableServiceLinks) :=
  .add (quiet_of_mem (by simp [quietPaths])) .nil

theorem rstudioEnvVariables_quiet : QuietOps (opsOf (rstudioEnvVariables server)) := by
  unfold rstudioEnvVariables
  split
  · exact .nil
  · exact .add (quiet_of_mem (by simp [quietPaths])) (.add quiet_volume (.add quiet_mount .nil))

theorem gitProxy_quiet : QuietOps (opsOf (gitProxy config py server)) := by
  unfold gitProxy
  split
  · exact .nil
  · exact .add quiet_container .nil

theorem gitSidecar_quiet : QuietOps (opsOf (gitSidecar config server)) := by
  unfold gitSidecar
  split
  · exact .nil
  · have hupstream : QuietPath "/statefulset/spec/template/spec/containers/1/args/6" :=
      quiet_of_mem (by simp [quietPaths])
    have hservice : QuietPath "/serviceRpcServer" := quiet_of_mem (by simp [quietPaths])
    exact .add quiet_container (.replace hupstream (.add quiet_proxyArg (.add quiet_proxyArg
      (.add quiet_proxyArg (.add quiet_proxyArg (.add quiet_proxyArg (.add quiet_proxyArg
        (.add hservice .nil))))))))

theorem ssh_quiet : QuietOps (opsOf (ssh config)) := by
  unfold ssh
  split
  · exact .nil
  · rw [opsOf_cons]
    apply QuietOps.append
    · exact .add (quiet_of_mem (by simp [quietPaths]))
        (.add (quiet_of_mem (by simp [quietPaths])) .nil)
    · split
      · exact .nil
      · split
        · exact .nil
        · exact .add quiet_mount (.add quiet_volume .nil)

/-! ### What each builder adds -/

def jupyterEnvPath : String := "/statefulset/spec/template/spec/containers/0/env/-"

def proxyEnvPath : String := "/statefulset/spec/template/spec/containers/1/env/-"

def cloneEnvPath : String := "/statefulset/spec/template/spec/initContainers/2/env/-"

def envPaths : List String := [jupyterEnvPath, proxyEnvPath, cloneEnvPath]

theorem jupyterEnvPath_mem : jupyterEnvPath ∈ envPaths := List.mem_cons_self

theorem proxyEnvPath_mem : proxyEnvPath ∈ envPaths := List.mem_cons_of_mem _ List.mem_cons_self

theorem cloneEnvPath_mem : cloneEnvPath ∈ envPaths := by simp [envPaths]

theorem envPath_of_mem {path : String} (h : path ∈ envPaths) : EnvPath path ∧ path ≠ initPath := by
  have hall : ∀ path ∈ envPaths, EnvPath path ∧ path ≠ initPath := by decide +kernel
  exact hall path h

/-- An operation appends a well-formed variable if its path says so in any case of letters. -/
inductive Regular : PatchOp → Prop
  | other {op : PatchOp} (h : ¬ EnvPath (PyText.lower op.path)) : Regular op
  | variable_ {path : String} (hpath : path ∈ envPaths) (name : String) (value : Json) :
    Regular (.add path (envVar name value))

/-- The init containers and the variables that operations append, in order. -/
structure Adds (ops : List PatchOp) (inits : List Json) (vars : List EnvVariable) : Prop where
  inits : appendedInits ops = inits
  vars : appendedVariables ops = vars
  regular : ∀ op ∈ ops, Regular op

theorem QuietOps.adds {ops : List PatchOp} (h : QuietOps ops) : Adds ops [] [] :=
  ⟨h.inits, h.vars, fun op hop => .other (h op hop).not_env_lower⟩

theorem Adds.append {ops ops' : List PatchOp} {inits inits' : List Json}
    {vars vars' : List EnvVariable} (h : Adds ops inits vars)
    (h' : Adds ops' inits' vars') :
    Adds (ops ++ ops') (inits ++ inits') (vars ++ vars') where
  inits := by rw [appendedInits_append, h.inits, h'.inits]
  vars := by rw [appendedVariables_append, h.vars, h'.vars]
  regular := List.forall_mem_append.mpr ⟨h.regular, h'.regular⟩

theorem adds_init (container : Json) : Adds [.add initPath container] [container] [] where
  inits := rfl
  vars := by
    have hpath : ¬ EnvPath initPath := by decide +kernel
    exact List.filterMap_cons_none (if_neg hpath)
  regular := by
    intro op hop
    have hpath : ¬ EnvPath (PyText.lower initPath) := by decide +kernel
    rw [List.mem_singleton.mp hop]
    exact .other hpath

theorem adds_inits (containers : List Json) :
    Adds (containers.map (.add initPath)) containers [] := by
  induction containers with
  | nil => exact QuietOps.nil.adds
  | cons container containers ih => exact (adds_init container).append ih

theorem adds_variable {path : String} (hpath : path ∈ envPaths) (name : String) (value : Json) :
    Adds [.add path (envVar name value)] [] [((path, name), value)] where
  inits := List.filterMap_cons_none (if_neg (envPath_of_mem hpath).2)
  vars := List.filterMap_cons_some (if_pos (envPath_of_mem hpath).1)
  regular := by
    intro op hop
    rw [List.mem_singleton.mp hop]
    exact .variable_ hpath name value

theorem adds_variables {path : String} (hpath : path ∈ envPaths) (given : List (String × Json)) :
    Adds (given.map fun (name, value) => .add path (envVar name value)) []
      (given.map fun (name, value) => ((path, name), value)) := by
  induction given with
  | nil => exact QuietOps.nil.adds
  | cons entry given ih => exact (adds_variable hpath entry.1 entry.2).append ih

/-- What the user asks for. -/
def userVariables : List (String × Json) :=
  server.environmentVariables.map fun entry => (entry.1, .str entry.2)

/-- The variables of the main container, with those of the user. -/
def jupyterVariables : List EnvVariable :=
  (serviceEnv config server ++ userVariables server).map
    fun (name, value) => ((jupyterEnvPath, name), value)

/-- `env` without its check. -/
def uncheckedEnv : List Patch :=
  [{ patch :=
    (serviceEnv config server ++ userVariables server).map fun (name, value) => addEnv name value }]

theorem env_eq_unchecked {patches : List Patch} (h : env config server = .ok patches) :
    patches = uncheckedEnv config server := by
  obtain ⟨userEnv, huserEnv, h⟩ := Results.bind_eq_ok_iff.mp h
  cases h
  have huser : userEnv = (userVariables server).map fun (name, value) => addEnv name value := by
    have hforall := Results.forall2_of_mapM_eq_ok huserEnv
    clear huserEnv h
    unfold userVariables
    generalize server.environmentVariables = given at hforall
    induction hforall with
    | nil => rfl
    | @cons entry op given ops hstep _ ih =>
      obtain ⟨key, value⟩ := entry
      have hop : op = addEnv key value := by
        dsimp only at hstep
        split at hstep
        · split at hstep
          · cases hstep
          · exact (Except.ok.inj hstep).symm
        · exact (Except.ok.inj hstep).symm
      rw [hop, ih]
      rfl
  rw [huser, uncheckedEnv, List.map_append]

theorem uncheckedEnv_adds :
    Adds (opsOf (uncheckedEnv config server)) [] (jupyterVariables config server) := by
  rw [uncheckedEnv, opsOf_cons, opsOf_nil, List.append_nil]
  exact adds_variables jupyterEnvPath_mem _

theorem userSecrets_rest :
    ∃ rest, QuietOps rest ∧ opsOf (AmaltheaPatches.userSecrets config server) =
      (userSecretsInit config server).map (.add initPath) ++ rest := by
  cases hsecrets : server.userSecrets with
  | none =>
    refine ⟨[], .nil, ?_⟩
    simp only [AmaltheaPatches.userSecrets, userSecretsInit, hsecrets]
    rfl
  | some secrets =>
    simp only [AmaltheaPatches.userSecrets, userSecretsInit, hsecrets]
    exact ⟨_, .add quiet_volume (.add quiet_volume (.add quiet_mount .nil)), rfl⟩

theorem userSecrets_adds :
    Adds (opsOf (AmaltheaPatches.userSecrets config server)) (userSecretsInit config server) [] := by
  obtain ⟨rest, hrest, hops⟩ := userSecrets_rest config server
  have hadds := (adds_inits (userSecretsInit config server)).append hrest.adds
  rw [List.append_nil] at hadds
  rw [hops]
  exact hadds

/-- The variables that the proxy in front of a session gets. -/
def oidcVariables : List EnvVariable :=
  if server.user.isRegistered then
    [((proxyEnvPath, "OAUTH2_PROXY_INSECURE_OIDC_ALLOW_UNVERIFIED_EMAIL"),
      boolText config.sessions.oidc.allowUnverifiedEmail)]
  else []

def caVariables : List EnvVariable :=
  if server.user.isRegistered then
    [((proxyEnvPath, "OAUTH2_PROXY_PROVIDER_CA_FILES"),
      .str (",".intercalate
        ((getCertificatesVolumeMounts config true false true).map caCertificatesFile)))]
  else []

theorem oidcUnverifiedEmail_adds :
    Adds (opsOf (oidcUnverifiedEmail config server)) [] (oidcVariables config server) := by
  unfold oidcUnverifiedEmail oidcVariables
  split
  · exact adds_variable proxyEnvPath_mem _ _
  · exact QuietOps.nil.adds

theorem certificates_rest :
    ∃ rest, QuietOps rest ∧
      opsOf (certificates config) = [.add initPath (initCertificates config)] ++ rest :=
  ⟨_, .add quiet_volume (.add quiet_volume .nil), rfl⟩

theorem certificates_adds :
    Adds (opsOf (certificates config)) [initCertificates config] [] := by
  obtain ⟨rest, hrest, hops⟩ := certificates_rest config
  rw [hops]
  exact (adds_init _).append hrest.adds

theorem downloadImage_adds :
    Adds (opsOf (downloadImage server)) [downloadImageContainer server] [] :=
  adds_init _

theorem gitClone_adds :
    Adds (opsOf (gitClone config py server)) (gitCloneInit config py server) [] := by
  unfold gitClone gitCloneInit
  split
  · exact QuietOps.nil.adds
  · exact adds_init _

theorem injectCertificates_adds :
    Adds (opsOf (injectCertificates config server)) [] (caVariables config server) := by
  have hmounts : QuietOps ((getCertificatesVolumeMounts config true false true).map
      (.add "/statefulset/spec/template/spec/containers/1/volumeMounts/-")) :=
    .add (quiet_of_mem (by simp [quietPaths])) .nil
  dsimp only [injectCertificates, caVariables]
  rw [opsOf_cons]
  split
  · exact hmounts.adds.append (adds_variable proxyEnvPath_mem _ _)
  · exact hmounts.adds.append QuietOps.nil.adds

theorem getManifestPatch_quiet {storage : RCloneStorage} {base : String} {patches : List Patch}
    (h : storage.getManifestPatch config py base = .ok patches) : QuietOps (opsOf patches) := by
  obtain ⟨configData, _, h⟩ := Results.bind_eq_ok_iff.mp h
  cases h
  have hclaim : "-pv".toList = "-p".toList ++ ['v'] := by decide +kernel
  have hsecret : "-secret".toList = "-secre".toList ++ ['t'] := by decide +kernel
  have hclaimLast : ("/" ++ (base ++ "-pv")).toList = ("/" ++ (base ++ "-p")).toList ++ ['v'] := by
    simp only [String.toList_append, hclaim, List.append_assoc]
  have hsecretLast :
      ("/" ++ (base ++ "-secret")).toList = ("/" ++ (base ++ "-secre")).toList ++ ['t'] := by
    simp only [String.toList_append, hsecret, List.append_assoc]
  have hclaimPath := quiet_of_last hclaimLast (by decide)
  have hsecretPath := quiet_of_last hsecretLast (by decide)
  exact .add hclaimPath (.add hsecretPath (.add quiet_mount (.add quiet_volume .nil)))

/-- The mount of each storage, in the container that clones the repositories. -/
def mountVariables : List EnvVariable :=
  if server.repositories.isEmpty then []
  else server.cloudstorage.zipIdx.map fun (storage, i) =>
    ((cloneEnvPath, "GIT_CLONE_STORAGE_MOUNTS_" ++ toString i), .str storage.mountFolder)

/-- The patches of a builder, none where it raises. -/
def built (result : Except PyError (List Patch)) : List Patch := result.toOption.getD []

theorem built_quiet {result : Except PyError (List Patch)}
    (h : ∀ patches, result = .ok patches → QuietOps (opsOf patches)) :
    QuietOps (opsOf (built result)) := by
  cases result with
  | error e => exact .nil
  | ok patches => exact h patches rfl

/-- What one storage adds. -/
def storagePatches (storageIdx : RCloneStorage × Nat) : List Patch :=
  built (storageIdx.1.getManifestPatch config py (storageBaseName server storageIdx.2)) ++
    if server.repositories.isEmpty then []
    else [{ patch := [.add cloneEnvPath (storageMountEnv storageIdx.2 storageIdx.1)] }]

theorem cloudstorage_eq {patches : List Patch}
    (h : AmaltheaPatches.cloudstorage config py server = .ok patches) :
    patches = server.cloudstorage.zipIdx.flatMap (storagePatches config py server) := by
  obtain ⟨patchLists, hlists, h⟩ := Results.bind_eq_ok_iff.mp h
  cases h
  have hforall := Results.forall2_of_mapM_eq_ok hlists
  clear hlists h
  generalize server.cloudstorage.zipIdx = storages at hforall
  induction hforall with
  | nil => rfl
  | @cons storageIdx ps storages pss hstep _ ih =>
    obtain ⟨storage, i⟩ := storageIdx
    obtain ⟨manifestPatch, hmanifest, hstep⟩ := Results.bind_eq_ok_iff.mp hstep
    cases hstep
    rw [List.flatten_cons, List.flatMap_cons, ih, storagePatches, built, hmanifest]
    rfl

theorem storages_adds :
    Adds (opsOf (server.cloudstorage.zipIdx.flatMap (storagePatches config py server))) []
      (mountVariables server) := by
  unfold mountVariables
  generalize server.cloudstorage.zipIdx = storages
  induction storages with
  | nil =>
    rw [List.map_nil, ite_self]
    exact QuietOps.nil.adds
  | cons storageIdx storages ih =>
    have hquiet := built_quiet fun patches hpatches =>
      @getManifestPatch_quiet config py storageIdx.1 (storageBaseName server storageIdx.2)
        patches hpatches
    rw [List.flatMap_cons, opsOf_append, storagePatches, opsOf_append]
    split at ih
    · rename_i hrepos
      rw [if_pos hrepos, if_pos hrepos]
      exact hquiet.adds.append QuietOps.nil.adds |>.append ih
    · rename_i hrepos
      rw [if_neg hrepos, if_neg hrepos]
      exact hquiet.adds.append (adds_variable cloneEnvPath_mem _ _) |>.append ih

/-! ### What all patches add -/

/-- The patches of all builders, before a variable is checked. -/
def attempted : List Patch :=
  test config server ++
  sessionTolerations config server ++
  sessionAffinity config server ++
  sessionNodeSelector config server ++
  priorityClass server ++
  devShm server ++
  args ++
  uncheckedEnv config server ++
  built (imagePullSecret config py server) ++
  disableServiceLinks ++
  rstudioEnvVariables server ++
  AmaltheaPatches.userSecrets config server ++
  gitProxy config py server ++
  gitSidecar config server ++
  oidcUnverifiedEmail config server ++
  ssh config ++
  certificates config ++
  downloadImage server ++
  gitClone config py server ++
  injectCertificates config server ++
  server.cloudstorage.zipIdx.flatMap (storagePatches config py server)

theorem getPatches_eq {patches : List Patch} (h : server.getPatches config py = .ok patches) :
    patches = attempted config py server := by
  obtain ⟨envPatches, henv, h⟩ := Results.bind_eq_ok_iff.mp h
  obtain ⟨pullPatches, hpull, h⟩ := Results.bind_eq_ok_iff.mp h
  obtain ⟨mountPatches, hstorage, h⟩ := Results.bind_eq_ok_iff.mp h
  have hbuilt : built (imagePullSecret config py server) = pullPatches := by
    rw [hpull]
    rfl
  unfold attempted
  rw [hbuilt, ← env_eq_unchecked config server henv,
    ← cloudstorage_eq config py server hstorage]
  exact (Except.ok.inj h).symm

def sessionInits : List Json :=
  userSecretsInit config server ++ [initCertificates config] ++ [downloadImageContainer server] ++
    gitCloneInit config py server

def sessionVariables : List EnvVariable :=
  jupyterVariables config server ++ oidcVariables config server ++ caVariables config server ++
    mountVariables server

theorem attempted_adds :
    Adds (opsOf (attempted config py server)) (sessionInits config py server)
      (sessionVariables config server) := by
  have hbefore := (test_quiet config server).append
    (sessionTolerations_quiet config server) |>.append
    (sessionAffinity_quiet config server) |>.append
    (sessionNodeSelector_quiet config server) |>.append
    (priorityClass_quiet server) |>.append
    (devShm_quiet server) |>.append
    args_quiet
  have hpull := built_quiet fun _ h => imagePullSecret_quiet config py server h
  have hadds := hbefore.adds.append
    (uncheckedEnv_adds config server) |>.append
    hpull.adds |>.append
    disableServiceLinks_quiet.adds |>.append
    (rstudioEnvVariables_quiet server).adds |>.append
    (userSecrets_adds config server) |>.append
    (gitProxy_quiet config py server).adds |>.append
    (gitSidecar_quiet config server).adds |>.append
    (oidcUnverifiedEmail_adds config server) |>.append
    (ssh_quiet config).adds |>.append
    (certificates_adds config) |>.append
    (downloadImage_adds server) |>.append
    (gitClone_adds config py server) |>.append
    (injectCertificates_adds config server) |>.append
    (storages_adds config py server)
  unfold attempted
  simp only [opsOf_append]
  simpa only [sessionInits, sessionVariables, List.nil_append, List.append_nil,
    List.append_assoc] using hadds

theorem getPatches_adds {patches : List Patch}
    (h : server.getPatches config py = .ok patches) :
    Adds (opsOf patches) (sessionInits config py server) (sessionVariables config server) := by
  rw [getPatches_eq config py server h]
  exact attempted_adds config py server

end RenkuNotebooks.Notebooks.Additions
