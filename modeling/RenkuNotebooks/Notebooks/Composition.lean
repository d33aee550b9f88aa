import RenkuNotebooks.Foundation.Results
import RenkuNotebooks.Notebooks.SessionDocument

/-!
# The composed patches of a session

Each patch builder is placed in `Simulates`: most leave the init containers alone, four append a
container, and each cloud storage adds a variable to the third one. What the whole list of
patches does to Amalthea's document is then a computation on lists of init containers.
-/

namespace RenkuNotebooks.Notebooks.Composition

open AmaltheaPatches

variable (config : Config) (py : PyText.Str) (server : UserServer)

def opsOf (patches : List Patch) : List PatchOp := patches.flatMap (·.patch)

@[simp] theorem opsOf_append (ps qs : List Patch) : opsOf (ps ++ qs) = opsOf ps ++ opsOf qs := by
  simp [opsOf]

@[simp] theorem opsOf_nil : opsOf [] = [] := rfl

@[simp] theorem opsOf_cons (p : Patch) (ps : List Patch) : opsOf (p :: ps) = p.patch ++ opsOf ps := by
  simp [opsOf]

def HarmlessOps (ops : List PatchOp) : Prop := ∀ op ∈ ops, Harmless op

def SteadyOps (ops : List PatchOp) : Prop := ∀ op ∈ ops, Steady op

theorem HarmlessOps.simulates {ops : List PatchOp} (h : HarmlessOps ops) : Simulates ops some :=
  simulates_of_harmless h

theorem SteadyOps.harmless {ops : List PatchOp} (h : SteadyOps ops) : HarmlessOps ops :=
  fun op hop => (h op hop).1

theorem SteadyOps.simulates {ops : List PatchOp} (h : SteadyOps ops) : Simulates ops some :=
  h.harmless.simulates

theorem SteadyOps.nil : SteadyOps [] := by
  intro op hop
  cases hop

theorem SteadyOps.cons {op : PatchOp} {ops : List PatchOp} (hop : Steady op)
    (hops : SteadyOps ops) : SteadyOps (op :: ops) :=
  List.forall_mem_cons.mpr ⟨hop, hops⟩

theorem SteadyOps.append {ops ops' : List PatchOp} (h : SteadyOps ops)
    (h' : SteadyOps ops') : SteadyOps (ops ++ ops') :=
  List.forall_mem_append.mpr ⟨h, h'⟩

theorem harmless_add {path : String} (value : Json)
    (h : (JsonPointer.parse path).any harmlessAdd = true) : Harmless (.add path value) := by
  obtain ⟨tokens, hparse, hharmless⟩ := (Option.any_eq_true _ _).mp h
  exact Harmless.add value hparse hharmless

def steadyAdd (tokens : List String) : Bool :=
  harmlessAdd tokens && decide (tokens ≠ containersLoc ++ ["-"])

theorem steady_add {path : String} (value : Json)
    (h : (JsonPointer.parse path).any steadyAdd = true) : Steady (.add path value) := by
  obtain ⟨tokens, hparse, hsteady⟩ := (Option.any_eq_true _ _).mp h
  rw [steadyAdd, Bool.and_eq_true, decide_eq_true_eq] at hsteady
  refine ⟨Harmless.add value hparse hsteady.1, ?_⟩
  rw [PatchOp.path, hparse]
  exact fun heq => hsteady.2 (Option.some.inj heq)

theorem SteadyOps.add {path : String} {value : Json} {ops : List PatchOp}
    (h : (JsonPointer.parse path).any steadyAdd = true) (hops : SteadyOps ops) :
    SteadyOps (.add path value :: ops) :=
  (SteadyOps.cons (steady_add value h) hops)

/-- The lists that several builders append to. -/
theorem steady_volume (value : Json) :
    Steady (.add "/statefulset/spec/template/spec/volumes/-" value) :=
  steady_add value (by decide)

theorem steady_mount (value : Json) :
    Steady (.add "/statefulset/spec/template/spec/containers/0/volumeMounts/-" value) :=
  steady_add value (by decide)

theorem steady_upstreamArg (value : Json) :
    Steady (.replace "/statefulset/spec/template/spec/containers/1/args/6" value) := by
  have hparse : JsonPointer.parse "/statefulset/spec/template/spec/containers/1/args/6" =
      some upstreamArgLoc := by decide
  refine ⟨Harmless.replace value hparse, ?_⟩
  rw [PatchOp.path, hparse]
  decide

theorem steady_proxyArg (value : Json) :
    Steady (.add "/statefulset/spec/template/spec/containers/1/args/-" value) :=
  steady_add value (by decide)

theorem harmless_container (value : Json) :
    Harmless (.add "/statefulset/spec/template/spec/containers/-" value) :=
  harmless_add value (by decide)

/-! ### Builders that leave the init containers alone -/

/-- `/statefulset/spec/template/spec/containers/0/name` and its neighbour. -/
def testOps : List String → List PatchOp
  | [] => []
  | [first] => [.test "/statefulset/spec/template/spec/containers/0/name" first]
  | first :: second :: _ => [
    .test "/statefulset/spec/template/spec/containers/0/name" first,
    .test "/statefulset/spec/template/spec/containers/1/name" second]

theorem test_ops (huser : server.user.isRegistered = true) :
    opsOf (test config server) = testOps (config.sessions.containers.registered.take 2) := by
  have hzero : "/statefulset/spec/template/spec/containers/" ++ Nat.repr 0 ++ "/name" =
      "/statefulset/spec/template/spec/containers/0/name" := by decide
  have hone : "/statefulset/spec/template/spec/containers/" ++ Nat.repr 1 ++ "/name" =
      "/statefulset/spec/template/spec/containers/1/name" := by decide
  simp only [test, huser, if_true]
  match config.sessions.containers.registered with
  | [] => rfl
  | [first] => simp [opsOf, testOps, hzero]
  | first :: second :: rest => simp [opsOf, testOps, hzero, hone]

theorem parse_firstName : JsonPointer.parse "/statefulset/spec/template/spec/containers/0/name" =
    some (podSpec ++ ["containers", "0", "name"]) := by decide

theorem parse_secondName : JsonPointer.parse "/statefulset/spec/template/spec/containers/1/name" =
    some (podSpec ++ ["containers", "1", "name"]) := by decide

theorem test_steady (huser : server.user.isRegistered = true)
    (hnames : config.sessions.containers.registered.take 2 <+: ["jupyter-server", "oauth2-proxy"]) :
    SteadyOps (opsOf (test config server)) := by
  have hfirst : Steady (.test "/statefulset/spec/template/spec/containers/0/name"
      "jupyter-server") := by
    refine ⟨Harmless.test parse_firstName (by decide), ?_⟩
    rw [PatchOp.path, parse_firstName]
    decide
  have hsecond : Steady (.test "/statefulset/spec/template/spec/containers/1/name"
      "oauth2-proxy") := by
    refine ⟨Harmless.test parse_secondName (by decide), ?_⟩
    rw [PatchOp.path, parse_secondName]
    decide
  rw [test_ops config server huser]
  simp only [List.prefix_cons_iff, List.prefix_nil] at hnames
  rcases hnames with hnames | ⟨rest, hnames, rfl | ⟨rest, rfl, rfl⟩⟩
  · rw [hnames]
    exact .nil
  · rw [hnames]
    exact .cons hfirst .nil
  · rw [hnames]
    exact .cons hfirst (.cons hsecond .nil)

theorem getAt_of_test {path : String} {ts : List String} {value doc doc' : Json}
    (hparse : JsonPointer.parse path = some ts)
    (h : (PatchOp.test path value).apply doc = .ok doc') : Json.getAt ts doc = some value := by
  simp only [PatchOp.apply, PatchOp.path, hparse, PatchOp.applyAt] at h
  cases hfound : Json.getAt ts doc with
  | none => simp [hfound] at h
  | some found =>
    rw [hfound] at h
    dsimp only at h
    split at h
    · next heq => rw [heq]
    · cases h

/-- The tests succeed on no other names than those of Amalthea. -/
theorem names_of_test (huser : server.user.isRegistered = true) {base doc : Json}
    {inits : List Json} (hbase : SessionShape base inits)
    (h : applyOps (opsOf (test config server)) base = .ok doc) :
    config.sessions.containers.registered.take 2 <+: ["jupyter-server", "oauth2-proxy"] := by
  obtain ⟨x, hx, hfirst⟩ := hbase.anchored
    (podSpec ++ ["containers", "0", "name"], .text "jupyter-server") (by decide)
  obtain ⟨y, hy, hsecond⟩ := hbase.anchored
    (podSpec ++ ["containers", "1", "name"], .text "oauth2-proxy") (by decide)
  cases hfirst
  cases hsecond
  have hlength : (config.sessions.containers.registered.take 2).length ≤ 2 :=
    List.length_take_le 2 _
  rw [test_ops config server huser] at h
  generalize config.sessions.containers.registered.take 2 = names at h hlength
  match names with
  | [] => exact List.nil_prefix
  | [first] =>
    obtain ⟨_, hop, _⟩ := applyOps_cons_eq_ok h
    have hname := hx.symm.trans (getAt_of_test parse_firstName hop)
    cases hname
    exact ⟨["oauth2-proxy"], rfl⟩
  | [first, second] =>
    obtain ⟨base', hop, hrest⟩ := applyOps_cons_eq_ok h
    have hname := hx.symm.trans (getAt_of_test parse_firstName hop)
    cases hname
    have hanchor : (podSpec ++ ["containers", "0", "name"], .text "jupyter-server") ∈ anchors := by
      decide
    have hsteps := (Harmless.test parse_firstName hanchor).simulates base inits hbase
    rw [applyOps_singleton, hop] at hsteps
    obtain ⟨base₁, hbase₁, hshape⟩ := hsteps.1 inits rfl
    cases hbase₁
    obtain ⟨_, hop', _⟩ := applyOps_cons_eq_ok hrest
    obtain ⟨z, hz, hfits⟩ := hshape.anchored
      (podSpec ++ ["containers", "1", "name"], .text "oauth2-proxy") (by decide)
    cases hfits
    have hname' := hz.symm.trans (getAt_of_test parse_secondName hop')
    cases hname'
    exact List.prefix_rfl
  | _ :: _ :: _ :: _ =>
    simp only [List.length_cons] at hlength
    omega

theorem sessionTolerations_steady : SteadyOps (opsOf (sessionTolerations config server)) :=
  .add (by decide) .nil

theorem sessionAffinity_steady : SteadyOps (opsOf (sessionAffinity config server)) := by
  dsimp only [sessionAffinity]
  split
  · exact .add (by decide) .nil
  · exact .add (by decide) .nil

theorem sessionNodeSelector_steady :
    SteadyOps (opsOf (sessionNodeSelector config server)) := by
  unfold sessionNodeSelector
  split
  · exact .add (by decide) .nil
  · exact .nil

theorem priorityClass_steady : SteadyOps (opsOf (priorityClass server)) := by
  unfold priorityClass
  split
  · exact .nil
  · exact .add (by decide) .nil

theorem devShm_steady : SteadyOps (opsOf (devShm server)) :=
  .cons (steady_volume _) (.cons (steady_mount _) .nil)

theorem args_steady : SteadyOps (opsOf args) :=
  .add (by decide) .nil

theorem addEnv_steady (name : String) (value : Json) : Steady (addEnv name value) :=
  steady_add _ (by decide)

theorem env_steady {patches : List Patch} (h : env config server = .ok patches) :
    SteadyOps (opsOf patches) := by
  obtain ⟨userEnv, huserEnv, h⟩ := Results.bind_eq_ok_iff.mp h
  cases h
  have huser : SteadyOps userEnv := by
    intro op hop
    have hforall := Results.forall2_of_mapM_eq_ok huserEnv
    obtain ⟨⟨key, value⟩, _, hstep⟩ := Results.exists_of_mem_forall2 hforall hop
    dsimp only at hstep
    split at hstep
    · split at hstep
      · exact absurd hstep (by simp)
      · cases hstep
        exact addEnv_steady key value
    · cases hstep
      exact addEnv_steady key value
  rw [opsOf_cons, opsOf_nil, List.append_nil]
  apply SteadyOps.append _ huser
  intro op hop
  obtain ⟨⟨name, value⟩, _, rfl⟩ := List.mem_map.mp hop
  exact addEnv_steady name value

theorem imagePullSecret_steady {patches : List Patch}
    (h : imagePullSecret config py server = .ok patches) : SteadyOps (opsOf patches) := by
  unfold imagePullSecret at h
  split at h
  · cases h
    exact .nil
  · obtain ⟨gitlabUser, _, h⟩ := Results.bind_eq_ok_iff.mp h
    cases h
    exact .add (by decide) (.add (by decide) .nil)

theorem disableServiceLinks_steady : SteadyOps (opsOf disableServiceLinks) :=
  .add (by decide) .nil

theorem rstudioEnvVariables_steady : SteadyOps (opsOf (rstudioEnvVariables server)) := by
  unfold rstudioEnvVariables
  split
  · exact .nil
  · exact .add (by decide) (.cons (steady_volume _) (.cons (steady_mount _) .nil))

/-- The container that goes with the repositories of a registered user. -/
theorem gitProxy_containers :
    ∃ containers : List Json, (∀ c ∈ containers, c.get? "name" = some (.str "git-proxy")) ∧
      opsOf (gitProxy config py server) =
        containers.map (.add "/statefulset/spec/template/spec/containers/-") := by
  unfold gitProxy
  split
  · exact ⟨[], by simp, rfl⟩
  · exact ⟨[_], by simp [Json.get?, Json.getMember], rfl⟩

theorem gitSidecar_containers :
    ∃ (containers : List Json) (rest : List PatchOp), (∀ c ∈ containers, c.get? "name" = some (.str "git-sidecar")) ∧
      SteadyOps rest ∧ opsOf (gitSidecar config server) =
        containers.map (.add "/statefulset/spec/template/spec/containers/-") ++ rest := by
  unfold gitSidecar
  split
  · exact ⟨[], [], by simp, .nil, rfl⟩
  · refine ⟨[_], _, by simp [Json.get?, Json.getMember], ?_, rfl⟩
    apply SteadyOps.cons (steady_upstreamArg _)
    -- six more arguments of the proxy, and the service
    exact .cons (steady_proxyArg _) (.cons (steady_proxyArg _) (.cons (steady_proxyArg _)
      (.cons (steady_proxyArg _) (.cons (steady_proxyArg _) (.cons (steady_proxyArg _)
        (.add (by decide) .nil))))))

theorem containers_harmless (containers : List Json) :
    HarmlessOps (containers.map (.add "/statefulset/spec/template/spec/containers/-")) := by
  intro op hop
  obtain ⟨c, _, rfl⟩ := List.mem_map.mp hop
  exact harmless_container c

theorem gitProxy_harmless : HarmlessOps (opsOf (gitProxy config py server)) := by
  obtain ⟨containers, _, hops⟩ := gitProxy_containers config py server
  rw [hops]
  exact containers_harmless containers

theorem gitSidecar_harmless : HarmlessOps (opsOf (gitSidecar config server)) := by
  obtain ⟨containers, rest, _, hrest, hops⟩ := gitSidecar_containers config server
  rw [hops]
  exact List.forall_mem_append.mpr ⟨containers_harmless containers, hrest.harmless⟩

theorem oidcUnverifiedEmail_steady :
    SteadyOps (opsOf (oidcUnverifiedEmail config server)) := by
  unfold oidcUnverifiedEmail
  split
  · exact .add (by decide) .nil
  · exact .nil

theorem ssh_steady : SteadyOps (opsOf (ssh config)) := by
  unfold ssh
  split
  · exact .nil
  · rw [opsOf_cons]
    apply SteadyOps.append (.add (by decide) (.add (by decide) .nil))
    split
    · exact .nil
    · split
      · exact .nil
      · exact .cons (steady_mount _) (.cons (steady_volume _) .nil)

theorem injectCertificates_steady :
    SteadyOps (opsOf (injectCertificates config server)) := by
  dsimp only [injectCertificates]
  rw [opsOf_cons]
  apply SteadyOps.append
  · exact .add (by decide) .nil
  · split
    · exact .add (by decide) .nil
    · exact .nil

/-! ### Cloud storages -/

theorem plain_of_alphanum {s : String}
    (h : ∀ c ∈ s.toList, c.isAlphanum = true ∨ c = '-') : JsonPointer.Plain s := by
  intro c hc
  rcases h c hc with hc | rfl
  · constructor <;> rintro rfl <;> exact absurd hc (by decide)
  · decide

/-- The base name of a storage with a suffix is a valid name again. -/
theorem storageBaseName_wellFormed (i : Nat) {suffix : String}
    (hsuffix : ∀ c ∈ suffix.toList, c.isAlphanum = true ∨ c = '-') :
    ∀ c ∈ (storageBaseName server i ++ suffix).toList, c.isAlphanum = true ∨ c = '-' := by
  have hindex : ∀ c ∈ (toString i).toList, c.isAlphanum = true := by
    intro c hc
    have hmem : c ∈ Nat.toDigits 10 i := by simpa [Nat.repr] using hc
    have hdigit : c.isDigit = true := Nat.isDigit_of_mem_toDigits (by decide) (by decide) hmem
    simp [Char.isAlphanum, hdigit]
  intro c hc
  simp only [storageBaseName, String.toList_append, List.mem_append] at hc
  rcases hc with ((hc | hc) | hc) | hc
  · exact server.serverName.wellFormed c hc
  · have hinfix : ∀ c ∈ "-ds-".toList, c.isAlphanum = true ∨ c = '-' :=
      PyText.forall_of_all (by decide)
    exact hinfix c hc
  · exact Or.inl (hindex c hc)
  · exact hsuffix c hc

/-- A member added at the root of the document, with a hyphen in its name. -/
theorem steady_addRoot {name : String} (value : Json)
    (hname : ∀ c ∈ name.toList, c.isAlphanum = true ∨ c = '-') (hhyphen : '-' ∈ name.toList) :
    Steady (.add ("/" ++ name) value) := by
  have hparse := JsonPointer.parse_root_member (plain_of_alphanum hname)
  have hstatefulset : name ≠ "statefulset" := by
    rintro rfl
    exact absurd hhyphen (by decide)
  have hservice : name ≠ "service" := by
    rintro rfl
    exact absurd hhyphen (by decide)
  constructor
  · apply Harmless.add value hparse
    simp [harmlessAdd, anchors, initContainersLoc, podSpec, hstatefulset, hservice]
  · rw [PatchOp.path, hparse]
    simp [containersLoc, podSpec]

theorem getManifestPatch_steady {storage : RCloneStorage} {i : Nat} {patches : List Patch}
    (h : storage.getManifestPatch config py (storageBaseName server i) = .ok patches) :
    SteadyOps (opsOf patches) := by
  obtain ⟨configData, _, h⟩ := Results.bind_eq_ok_iff.mp h
  cases h
  have hhyphen : ∀ suffix : String, '-' ∈ (storageBaseName server i ++ suffix).toList := by
    intro suffix
    simp [storageBaseName]
  have hpv : ∀ c ∈ "-pv".toList, c.isAlphanum = true ∨ c = '-' := PyText.forall_of_all (by decide)
  have hsecret : ∀ c ∈ "-secret".toList, c.isAlphanum = true ∨ c = '-' :=
    PyText.forall_of_all (by decide)
  apply SteadyOps.cons (steady_addRoot _ (storageBaseName_wellFormed server i hpv) (hhyphen _))
  apply SteadyOps.cons (steady_addRoot _ (storageBaseName_wellFormed server i hsecret) (hhyphen _))
  exact .cons (steady_mount _) (.cons (steady_volume _) .nil)

/-- The variables that the storages add, in order, to the third init container. -/
def addStorageMounts (storages : List (RCloneStorage × Nat)) (inits : List Json) :
    Option (List Json) :=
  storages.foldlM (fun inits (storage, i) => addEnvToThird (storageMountEnv i storage) inits) inits

theorem cloudstorage_simulates {patches : List Patch}
    (h : AmaltheaPatches.cloudstorage config py server = .ok patches) :
    Simulates (opsOf patches)
      (if server.repositories.isEmpty then some
        else addStorageMounts server.cloudstorage.zipIdx) := by
  obtain ⟨patchLists, hlists, h⟩ := Results.bind_eq_ok_iff.mp h
  cases h
  have hforall := Results.forall2_of_mapM_eq_ok hlists
  clear hlists h
  generalize server.cloudstorage.zipIdx = storages at hforall
  induction hforall with
  | nil =>
    split
    · exact simulates_nil
    · exact simulates_nil
  | @cons storageIdx ps storages pss hstep _ ih =>
    obtain ⟨storage, i⟩ := storageIdx
    obtain ⟨manifestPatch, hmanifest, hstep⟩ := Results.bind_eq_ok_iff.mp hstep
    cases hstep
    have hharmless := (getManifestPatch_steady config py server hmanifest).simulates
    rw [List.flatten_cons, opsOf_append, opsOf_append]
    split
    · next hrepos =>
      rw [if_pos hrepos] at ih
      exact (hharmless.append simulates_nil).append ih
    · next hrepos =>
      rw [if_neg hrepos] at ih
      exact (hharmless.append (simulates_addEnvToThird _)).append ih

/-! ### The whole list of patches -/

/-- The init container that the user's secrets need. -/
def userSecretsInit : List Json :=
  match server.userSecrets with
  | none => []
  | some secrets => [initUserSecrets config server secrets.name]

def gitCloneInit : List Json :=
  if server.repositories.isEmpty then [] else [gitCloneContainer config py server]

theorem userSecrets_ops :
    ∃ rest, SteadyOps rest ∧ opsOf (AmaltheaPatches.userSecrets config server) =
      (userSecretsInit config server).map
        (.add "/statefulset/spec/template/spec/initContainers/-") ++ rest := by
  cases hsecrets : server.userSecrets with
  | none =>
    refine ⟨[], .nil, ?_⟩
    simp only [AmaltheaPatches.userSecrets, userSecretsInit, hsecrets]
    rfl
  | some secrets =>
    simp only [AmaltheaPatches.userSecrets, userSecretsInit, hsecrets]
    exact ⟨_, .cons (steady_volume _) (.cons (steady_volume _) (.cons (steady_mount _) .nil)), rfl⟩

theorem certificates_ops :
    ∃ rest, SteadyOps rest ∧ opsOf (certificates config) =
      .add "/statefulset/spec/template/spec/initContainers/-" (initCertificates config) :: rest :=
  ⟨_, .cons (steady_volume _) (.cons (steady_volume _) .nil), rfl⟩

theorem simulates_addInitContainers (containers : List Json) :
    Simulates (containers.map (.add "/statefulset/spec/template/spec/initContainers/-"))
      fun inits => some (inits ++ containers) := by
  induction containers with
  | nil => simpa using simulates_nil
  | cons c cs ih => simpa using (simulates_addInitContainer c).append ih

theorem userSecrets_simulates :
    Simulates (opsOf (AmaltheaPatches.userSecrets config server))
      fun inits => some (inits ++ userSecretsInit config server) := by
  obtain ⟨rest, hrest, hops⟩ := userSecrets_ops config server
  rw [hops]
  exact (simulates_addInitContainers _).append hrest.simulates

theorem certificates_simulates :
    Simulates (opsOf (certificates config))
      fun inits => some (inits ++ [initCertificates config]) := by
  obtain ⟨rest, hrest, hops⟩ := certificates_ops config
  rw [hops]
  exact (simulates_addInitContainer _).append hrest.simulates

theorem downloadImage_simulates :
    Simulates (opsOf (downloadImage server))
      fun inits => some (inits ++ [downloadImageContainer server]) :=
  simulates_addInitContainer (downloadImageContainer server)

theorem gitClone_simulates :
    Simulates (opsOf (gitClone config py server))
      fun inits => some (inits ++ gitCloneInit config py server) := by
  unfold gitClone gitCloneInit
  split
  · simpa using simulates_nil
  · exact simulates_addInitContainer (gitCloneContainer config py server)

/-- What the patches of a session do to the list of init containers. -/
def initEffect (inits : List Json) : Option (List Json) :=
  (if server.repositories.isEmpty then some else addStorageMounts server.cloudstorage.zipIdx)
    (inits ++ userSecretsInit config server ++ [initCertificates config] ++
      [downloadImageContainer server] ++ gitCloneInit config py server)

theorem getPatches_simulates (huser : server.user.isRegistered = true)
    (hnames : config.sessions.containers.registered.take 2 <+: ["jupyter-server", "oauth2-proxy"])
    {patches : List Patch} (h : server.getPatches config py = .ok patches) :
    Simulates (opsOf patches) (initEffect config py server) := by
  obtain ⟨envPatches, henv, h⟩ := Results.bind_eq_ok_iff.mp h
  obtain ⟨pullPatches, hpull, h⟩ := Results.bind_eq_ok_iff.mp h
  obtain ⟨storagePatches, hstorage, h⟩ := Results.bind_eq_ok_iff.mp h
  rw [← Except.ok.inj h]
  simp only [opsOf_append]
  have hbefore := (test_steady config server huser hnames).append
    (sessionTolerations_steady config server) |>.append
    (sessionAffinity_steady config server) |>.append
    (sessionNodeSelector_steady config server) |>.append
    (priorityClass_steady server) |>.append
    (devShm_steady server) |>.append
    args_steady |>.append
    (env_steady config server henv) |>.append
    (imagePullSecret_steady config py server hpull) |>.append
    disableServiceLinks_steady |>.append
    (rstudioEnvVariables_steady server)
  have hsidecars := hbefore.simulates.append
    (userSecrets_simulates config server) |>.append
    (gitProxy_harmless config py server).simulates |>.append
    (gitSidecar_harmless config server).simulates |>.append
    (oidcUnverifiedEmail_steady config server).simulates |>.append
    (ssh_steady config).simulates
  exact hsidecars.append
    (certificates_simulates config) |>.append
    (downloadImage_simulates server) |>.append
    (gitClone_simulates config py server) |>.append
    (injectCertificates_steady config server).simulates |>.append
    (cloudstorage_simulates config py server hstorage)

/-! ### The init containers of a session -/

theorem addEnvToThird_head {variable_ first : Json} {rest inits : List Json}
    (h : addEnvToThird variable_ (first :: rest) = some inits) : inits.head? = some first := by
  obtain ⟨tail, _, rfl⟩ := Option.map_eq_some_iff.mp h
  rfl

theorem addStorageMounts_head {storages : List (RCloneStorage × Nat)} {first : Json}
    {inits inits' : List Json} (hfirst : inits.head? = some first)
    (h : addStorageMounts storages inits = some inits') : inits'.head? = some first := by
  induction storages generalizing inits with
  | nil =>
    cases h
    exact hfirst
  | cons storage storages ih =>
    obtain ⟨mid, hmid, hrest⟩ := Option.bind_eq_some_iff.mp h
    obtain ⟨rest, rfl⟩ := List.head?_eq_some_iff.mp hfirst
    exact ih (addEnvToThird_head hmid) hrest

/-- The git-clone container with more variables. -/
theorem addStorageMounts_third (c d : Json) (storages : List (RCloneStorage × Nat))
    {ms : List (String × Json)} {vars : List Json} (henv : Json.getMember "env" ms = some (.arr vars)) :
    ∃ ms', addStorageMounts storages [c, d, .obj ms] = some [c, d, .obj ms'] ∧
      Json.getMember "name" ms' = Json.getMember "name" ms ∧
      Json.getMember "env" ms' =
        some (.arr (vars ++ storages.map fun (storage, i) => storageMountEnv i storage)) := by
  induction storages generalizing ms vars with
  | nil => exact ⟨ms, rfl, rfl, by simpa using henv⟩
  | cons storageIdx storages ih =>
    obtain ⟨storage, i⟩ := storageIdx
    let vars₁ := vars ++ [storageMountEnv i storage]
    let ms₁ := Json.setMember "env" (.arr vars₁) ms
    have hzero : Nat.repr 0 ≠ "2" := by decide
    have hone : Nat.repr 1 ≠ "2" := by decide
    have htwo : Nat.repr 2 = "2" := by decide
    have hstep : addEnvToThird (storageMountEnv i storage) [c, d, .obj ms] =
        some [c, d, .obj ms₁] := by
      simp [addEnvToThird, Json.alterElem, hzero, hone, htwo, Json.alterAt, Json.alterChild, henv,
        Json.insertChild, ms₁, vars₁]
    obtain ⟨ms', hrun, hname, henv'⟩ := ih (Json.getMember_setMember "env" (.arr vars₁) ms)
    refine ⟨ms', ?_, ?_, ?_⟩
    · rw [addStorageMounts, List.foldlM_cons]
      dsimp only
      rw [hstep]
      exact hrun
    · rw [hname, Json.getMember_setMember_of_ne (by decide)]
    · rw [henv']
      simp [vars₁]

def initContainers (doc : Json) : List Json :=
  match Json.getAt initContainersLoc doc with
  | some (.arr inits) => inits
  | _ => []

theorem initContainers_of_shape {doc : Json} {inits : List Json}
    (h : SessionShape doc inits) : initContainers doc = inits := by
  rw [initContainers, h.initContainers]

def named (name : String) (container : Json) : Prop := container.get? "name" = some (.str name)

def hasEnv (variable_ container : Json) : Prop :=
  ∃ vars, container.get? "env" = some (.arr vars) ∧ variable_ ∈ vars

/-- The patches apply to the document without addressing a missing place, `init-certificates`
runs first, and the mount of every storage is a variable of the container `git-clone`. -/
def ComposesOn (base : Json) (patches : List Patch) : Prop :=
  ∃ doc, applyPatches patches base = .ok doc ∧
    (∃ first, (initContainers doc).head? = some first ∧ named "init-certificates" first) ∧
    ∀ i storage, server.cloudstorage[i]? = some storage → server.repositories.isEmpty = false →
      ∃ container ∈ initContainers doc,
        named "git-clone" container ∧ hasEnv (storageMountEnv i storage) container

/-- What Amalthea delivers: all anchors and no init container. -/
def AmaltheaBase (base : Json) : Prop := SessionShape base []

theorem initEffect_of_no_userSecrets (hsecrets : server.userSecrets = none) :
    ∃ inits, initEffect config py server [] = some inits ∧
      inits.head? = some (initCertificates config) ∧
      ∀ i storage, server.cloudstorage[i]? = some storage → server.repositories.isEmpty = false →
        ∃ container ∈ inits,
          named "git-clone" container ∧ hasEnv (storageMountEnv i storage) container := by
  cases hrepos : server.repositories.isEmpty with
  | true =>
    refine ⟨[initCertificates config, downloadImageContainer server], ?_, rfl, ?_⟩
    · simp [initEffect, userSecretsInit, gitCloneInit, hsecrets, hrepos]
    · exact fun _ _ _ h => absurd h (by simp)
  | false =>
    have henv : (gitCloneContainer config py server).get? "env" =
        some (.arr (gitCloneEnv config py server)) := rfl
    obtain ⟨ms', hrun, hname, henv'⟩ := addStorageMounts_third (initCertificates config)
      (downloadImageContainer server) server.cloudstorage.zipIdx henv
    refine ⟨[initCertificates config, downloadImageContainer server, .obj ms'], ?_, rfl, ?_⟩
    · rw [← hrun]
      simp only [initEffect, userSecretsInit, gitCloneInit, hsecrets, hrepos]
      rfl
    · intro i storage hstorage _
      refine ⟨.obj ms', by simp, hname, _, henv', ?_⟩
      apply List.mem_append_right
      have hmem : (storage, i) ∈ server.cloudstorage.zipIdx :=
        List.mem_zipIdx_iff_getElem?.mpr hstorage
      exact List.mem_map.mpr ⟨(storage, i), hmem, rfl⟩

theorem initEffect_head_of_userSecrets {secrets : K8sUserSecrets}
    (hsecrets : server.userSecrets = some secrets) {inits : List Json}
    (h : initEffect config py server [] = some inits) :
    inits.head? = some (initUserSecrets config server secrets.name) := by
  unfold initEffect at h
  simp only [userSecretsInit, hsecrets] at h
  split at h
  · cases h
    rfl
  · exact addStorageMounts_head rfl h

/-- With the user's secrets the certificates no longer come first, whatever else is mounted. -/
theorem not_composesOn_of_userSecrets (huser : server.user.isRegistered = true)
    (hnames : config.sessions.containers.registered.take 2 = ["jupyter-server", "oauth2-proxy"])
    {base : Json} (hbase : AmaltheaBase base)
    {patches : List Patch} (hpatches : server.getPatches config py = .ok patches)
    (hsecrets : server.userSecrets ≠ none) : ¬ ComposesOn server base patches := by
  obtain ⟨secrets, hsecrets⟩ := Option.ne_none_iff_exists'.mp hsecrets
  have hsim := getPatches_simulates config py server huser (hnames ▸ List.prefix_rfl) hpatches
    base [] hbase
  rintro ⟨doc, hdoc, ⟨first, hhead, hfirst⟩, _⟩
  cases heffect : initEffect config py server [] with
  | none =>
    obtain ⟨path, hpath⟩ := hsim.2 heffect
    exact absurd (hdoc.symm.trans hpath) (by simp)
  | some inits =>
    obtain ⟨doc', hdoc', hshape⟩ := hsim.1 inits heffect
    obtain rfl : doc = doc' := Except.ok.inj (hdoc.symm.trans hdoc')
    rw [initContainers_of_shape hshape,
      initEffect_head_of_userSecrets config py server hsecrets heffect] at hhead
    rw [← Option.some.inj hhead] at hfirst
    have hname : (initUserSecrets config server secrets.name).get? "name" =
        some (.str "init-user-secrets") := rfl
    exact absurd (hname.symm.trans hfirst) (by decide)

/-- The composed patches do what they should for exactly the sessions without user secrets. -/
theorem composesOn_iff_no_userSecrets (huser : server.user.isRegistered = true)
    (hnames : config.sessions.containers.registered.take 2 = ["jupyter-server", "oauth2-proxy"])
    {base : Json} (hbase : AmaltheaBase base)
    {patches : List Patch} (hpatches : server.getPatches config py = .ok patches) :
    ComposesOn server base patches ↔ server.userSecrets = none := by
  constructor
  · intro h
    by_contra hsecrets
    exact not_composesOn_of_userSecrets config py server huser hnames hbase hpatches hsecrets h
  · intro hsecrets
    obtain ⟨inits, heffect, hhead, hmounts⟩ :=
      initEffect_of_no_userSecrets config py server hsecrets
    have hsim := getPatches_simulates config py server huser (hnames ▸ List.prefix_rfl) hpatches
      base [] hbase
    obtain ⟨doc, hdoc, hshape⟩ := hsim.1 inits heffect
    refine ⟨doc, hdoc, ?_, ?_⟩
    · rw [initContainers_of_shape hshape]
      exact ⟨_, hhead, rfl⟩
    · rw [initContainers_of_shape hshape]
      exact hmounts

/-- A user with one repository, one cloud storage and, if asked for, one secret. -/
def exampleServer (userSecrets : Option K8sUserSecrets) : UserServer where
  user := .registered {
    email := "jane@example.org", fullName := "Jane", username := "jane", safeUsername := "jane",
    oidcIssuer := "https://renku/auth", id := "1", accessToken := "access",
    refreshToken := "refresh", gitToken := none, gitTokenExpiresAt := -1,
    gitlabUser := { email := "jane@example.org", name := "Jane" } }
  serverName := { text := "jane-renku-2-0a1b2c", wellFormed := PyText.forall_of_all (by decide) }
  image := some "renku/singleuser:latest"
  serverOptions := {
    cpu := 1, memory := 1000000000, gpu := 0, storage := 1000000000, defaultUrl := "/lab",
    lfsAutoFetch := false, priorityClass := none, nodeAffinities := [], tolerations := [],
    resourceClassId := none, idleThresholdSeconds := none, hibernationThresholdSeconds := none }
  environmentVariables := []
  userSecrets := userSecrets
  cloudstorage := [{
    configuration := [("type", "s3")], sourcePath := "bucket", mountFolder := "/work/data",
    readonly := true, name := none, secrets := [], userSecretKey := "", baseName := none }]
  preferredNamespace := "renku"
  workspaceMountPath := .ofString "/work"
  workDir := .ofString "/work"
  isImagePrivate := false
  givenRepositories := [{ url := "https://example.org/jane/project" }]
  gitProviders := []
  kind := .renku2 "project" "launcher"

def exampleSecrets : K8sUserSecrets :=
  { name := "jane-secret", userSecretIds := ["01"], mountPath := "/secrets" }

def sampleBase : Json :=
  .obj [
    ("statefulset", .obj [("spec", .obj [("template", .obj [("spec", .obj [
      ("containers", .arr [
        .obj [("name", "jupyter-server"), ("env", .arr []), ("volumeMounts", .arr [])],
        .obj [("name", "oauth2-proxy"), ("env", .arr []), ("volumeMounts", .arr []),
          ("args", .arr ["0", "1", "2", "3", "4", "5", "6"])]]),
      ("initContainers", .arr []),
      ("volumes", .arr []),
      ("imagePullSecrets", .arr [])])])])]),
    ("service", .obj [("spec", .obj [("ports", .arr [])])])]

theorem sampleBase_amaltheaBase : AmaltheaBase sampleBase := by
  refine ⟨?_, rfl⟩
  simp only [anchors, List.forall_mem_cons]
  and_intros
  all_goals first
    | exact ⟨_, rfl, _, rfl⟩
    | exact ⟨_, rfl, rfl⟩
    | exact ⟨_, rfl, trivial⟩
    | exact List.forall_mem_nil _

theorem sample_composesOn :
    ∃ patches, (exampleServer none).getPatches defaultConfig (.ascii fun _ => "") = .ok patches ∧
      (ComposesOn (exampleServer none) sampleBase patches ↔
        (exampleServer none).userSecrets = none) :=
  ⟨_, rfl, composesOn_iff_no_userSecrets defaultConfig (.ascii fun _ => "") (exampleServer none) rfl rfl
    sampleBase_amaltheaBase rfl⟩

/-- With a secret, the variable of the storage is sent to `download-image`, which has no list of
variables. -/
theorem secrets_address_missing_location :
    AmaltheaBase sampleBase ∧
    ∃ patches,
      (exampleServer (some exampleSecrets)).getPatches defaultConfig (.ascii fun _ => "") = .ok patches ∧
      (∃ path, applyPatches patches sampleBase = .error (.missingLocation path)) ∧
      ¬ ComposesOn (exampleServer (some exampleSecrets)) sampleBase patches := by
  refine ⟨sampleBase_amaltheaBase, _, rfl, ?_, ?_⟩
  · have hsim := getPatches_simulates defaultConfig (.ascii fun _ => "")
      (exampleServer (some exampleSecrets)) rfl List.prefix_rfl rfl sampleBase []
      sampleBase_amaltheaBase
    exact hsim.2 rfl
  · apply not_composesOn_of_userSecrets defaultConfig (.ascii fun _ => "") _ rfl rfl
      sampleBase_amaltheaBase rfl
    simp [exampleServer]

end RenkuNotebooks.Notebooks.Composition
