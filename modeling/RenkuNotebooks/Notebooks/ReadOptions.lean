import RenkuNotebooks.Notebooks.CustomFields
import RenkuNotebooks.Notebooks.EnvironmentOverrides
import RenkuNotebooks.Notebooks.PyDict

/-!
# Server options read back from a manifest

The options of a session are spread over its manifest: the disk is the size of the storage, the
other resources are requests, and the flag for LFS is a variable of one of the init containers that
the patches append.
-/

namespace RenkuNotebooks.Notebooks

open PyDict CustomFields

structure ReadOptions where
  defaultUrl : Json
  diskRequest : Json
  memRequest : Option Json
  gpuRequest : Option Json
  cpuRequest : Option Json
  ephemeralStorage : Option Json
  lfsAutoFetch : Option Bool

structure ResourceRequests where
  /-- The inner `none` is an infinite number. -/
  cpu : Option (Option ℚ)
  memory : Option ℤ
  storage : Option ℤ
  gpu : Option ℤ
  deriving DecidableEq

namespace UserServerManifest

/-- `float(value)`, `none` where it raises `ValueError`; `floatText` does so for texts. -/
def toFloat (floatText : String → Option Json) : Json → Except ReadError (Option Json)
  | .int n =>
    match Double.nearest n.natAbs with
    | none => .error .overflowError
    | some q => .ok (some (.float (n.sign * q)))
  | .float q => .ok (some (.float q))
  | .bool b => .ok (some (.float (if b then 1 else 0)))
  | .str s => .ok (floatText s)
  | _ => .error (.raised .typeError)

/-- `value[key]` where the key is `in` the value. -/
def itemIfIn (key : String) : Json → Except PyError (Option Json)
  | .obj ms => .ok (Json.getMember key ms)
  | .arr xs => if .str key ∈ xs then .error .typeError else .ok none
  | .str s => if PyText.contains s key then .error .typeError else .ok none
  | _ => .error .typeError

def readVariable (found : Option Bool) (env : Json) : Except PyError (Option Bool) := do
  let name ← PyDict.getOr "name" .null env
  if name = .str "GIT_CLONE_LFS_AUTO_FETCH" then do
    let value ← PyDict.getOr "value" .null env
    pure (some (value = .str "1"))
  else pure found

/-- The variables of an init container. -/
def readContainer (found : Option Bool) (value : Json) : Except PyError (Option Bool) := do
  let env ← PyDict.getOr "env" (.arr []) value
  let variables_ ← elements env
  variables_.foldlM readVariable found

def readPatch (found : Option Bool) (patch : Json) : Except PyError (Option Bool) := do
  let path ← PyDict.getOr "path" .null patch
  if path = .str "/statefulset/spec/template/spec/initContainers/-" then do
    let value ← PyDict.getOr "value" (.obj []) patch
    readContainer found value
  else pure found

def readPatches (found : Option Bool) (patches : Json) : Except PyError (Option Bool) := do
  let patch ← PyDict.getOr "patch" (.arr []) patches
  let ops ← elements patch
  ops.foldlM readPatch found

variable (config : Config) (pyRepr : Json → String) (floatText : String → Option Json)

/-- `server_options` -/
def serverOptions (manifest : Json) : Except ReadError ReadOptions := do
  let spec ← (getItem "spec" manifest).mapError .raised
  let jupyterServer ← (getItem "jupyterServer" spec).mapError .raised
  let defaultUrl ← (getItem "defaultUrl" jupyterServer).mapError .raised
  let storage ← (getItem "storage" spec).mapError .raised
  let size ← (PyDict.getOr "size" .null storage).mapError .raised
  let number ← toFloat floatText size
  let diskRequest := number.getD size
  let resources ← (getItem "resources" jupyterServer).mapError .raised
  let requests ← (getItem "requests" resources).mapError .raised
  let memRequest ← (itemIfIn "memory" requests).mapError .raised
  let gpuRequest ← (itemIfIn "nvidia.com/gpu" requests).mapError .raised
  let cpuRequest ← (itemIfIn "cpu" requests).mapError .raised
  let ephemeral ← (itemIfIn "ephemeral-storage" requests).mapError .raised
  let ephemeralStorage :=
    ephemeral.map fun e => if config.sessions.storage.pvsEnabled then e else diskRequest
  let patches ← (getItem "patches" spec).mapError .raised
  let collections ← (elements patches).mapError .raised
  let lfsAutoFetch ← (collections.foldlM readPatches none).mapError .raised
  pure { defaultUrl, diskRequest, memRequest, gpuRequest, cpuRequest, ephemeralStorage, lfsAutoFetch }

end UserServerManifest

/-- `get_resource_requests` of the response of a session. -/
def getResourceRequests (pyRepr : Json → String) (o : ReadOptions) :
    Except ReadError ResourceRequests := do
  let cpu ← o.cpuRequest.mapM (cpuField pyRepr)
  let memory ← o.memRequest.mapM (byteSizeField pyRepr)
  let storage ←
    if o.diskRequest ≠ .null ∧ o.diskRequest ≠ .str "" then
      some <$> byteSizeField pyRepr o.diskRequest
    else pure none
  let gpu ← o.gpuRequest.mapM (gpuField pyRepr)
  pure { cpu, memory, storage, gpu := gpu.filter (0 < ·) }

/-! ### The flag for LFS -/

namespace OptionsReadback

open AmaltheaPatches Notebooks.Composition Additions UserServerManifest

variable (config : Config) (py : PyText.Str) (server : UserServer)

theorem readPatch_toJson (op : PatchOp) (found : Option Bool) :
    readPatch found (UserServer.PatchOp.toJson op) =
      match appendedInit op with
      | none => .ok found
      | some value => readContainer found value := by
  have hpath : PyDict.getOr "path" .null (UserServer.PatchOp.toJson op) = .ok (.str op.path) := by
    cases op <;> rfl
  have hread : readPatch found (UserServer.PatchOp.toJson op) =
      if op.path = initPath then do
        let value ← PyDict.getOr "value" (.obj []) (UserServer.PatchOp.toJson op)
        readContainer found value
      else pure found := by
    simp only [readPatch, hpath, bind, Except.bind, Json.str.injEq]
    rfl
  rw [hread, appendedInit]
  split
  · cases op <;> rfl
  · rfl

theorem readPatch_ops (ops : List PatchOp) (found : Option Bool) :
    (ops.map UserServer.PatchOp.toJson).foldlM readPatch found =
      (appendedInits ops).foldlM readContainer found := by
  induction ops generalizing found with
  | nil => rfl
  | cons op ops ih =>
    rw [List.map_cons, List.foldlM_cons, readPatch_toJson, appendedInits]
    cases hop : appendedInit op with
    | none =>
      rw [List.filterMap_cons_none hop]
      exact ih found
    | some value =>
      rw [List.filterMap_cons_some hop, List.foldlM_cons]
      congr 1
      funext next
      exact ih next

theorem readPatches_patches (patches : List Patch) (found : Option Bool) :
    (patches.map UserServer.Patch.toJson).foldlM readPatches found =
      (appendedInits (opsOf patches)).foldlM readContainer found := by
  induction patches generalizing found with
  | nil => rfl
  | cons patch patches ih =>
    have hread : readPatches found (UserServer.Patch.toJson patch) =
        (patch.patch.map UserServer.PatchOp.toJson).foldlM readPatch found := rfl
    rw [List.map_cons, List.foldlM_cons, hread, readPatch_ops, opsOf_cons, appendedInits_append,
      List.foldlM_append]
    congr 1
    funext next
    exact ih next

def lfsVariable : String := "GIT_CLONE_LFS_AUTO_FETCH"

/-- A variable other than the flag. -/
def Other (variable_ : Json) : Prop := ∃ name value, variable_ = envVar name value ∧ name ≠ lfsVariable

theorem readVariable_other {variable_ : Json} (h : Other variable_) (found : Option Bool) :
    readVariable found variable_ = .ok found := by
  obtain ⟨name, value, rfl, hname⟩ := h
  have hflag : Json.str name ≠ .str "GIT_CLONE_LFS_AUTO_FETCH" := fun heq => hname (Json.str.inj heq)
  exact if_neg hflag

theorem readVariables_others {variables_ : List Json} (h : ∀ v ∈ variables_, Other v)
    (found : Option Bool) : variables_.foldlM readVariable found = .ok found := by
  induction variables_ with
  | nil => rfl
  | cons v variables_ ih =>
    rw [List.foldlM_cons, readVariable_other (h v List.mem_cons_self)]
    exact ih fun w hw => h w (List.mem_cons_of_mem _ hw)

theorem readContainer_of_env {container : Json} {variables_ : List Json}
    (h : container.get? "env" = some (.arr variables_)) (found : Option Bool) :
    readContainer found container = variables_.foldlM readVariable found := by
  cases container with
  | obj ms =>
    have henv : Json.getMember "env" ms = some (.arr variables_) := h
    simp only [readContainer, PyDict.getOr, henv]
    rfl
  | _ => cases h

theorem readContainer_of_noEnv {ms : List (String × Json)} (h : Json.getMember "env" ms = none)
    (found : Option Bool) : readContainer found (.obj ms) = .ok found := by
  simp only [readContainer, PyDict.getOr, h]
  rfl

theorem other_of_ne {name : String} (h : name ≠ lfsVariable) (value : Json) :
    Other (envVar name value) := ⟨name, value, rfl, h⟩

/-- A name that differs within its first letters. -/
theorem other_of_take {start : String} (n : ℕ) (hlength : n ≤ start.toList.length)
    (h : start.toList.take n ≠ lfsVariable.toList.take n) (rest : String) (value : Json) :
    Other (envVar (start ++ rest) value) := by
  apply other_of_ne
  intro heq
  apply h
  rw [← heq, String.toList_append, List.take_append_of_le_length hlength]

theorem userSecrets_unflagged (found : Option Bool) :
    (userSecretsInit config server).foldlM readContainer found = .ok found := by
  unfold userSecretsInit
  split
  · rfl
  · rename_i secrets _
    have henv : (initUserSecrets config server secrets.name).get? "env" = some (.arr _) := rfl
    have hothers : ∀ v ∈ [
        envVar "DATA_SERVICE_URL" config.dataServiceUrl,
        envVar "RENKU_ACCESS_TOKEN" (pyStr server.user.accessToken),
        envVar "ENCRYPTED_SECRETS_MOUNT_PATH" "/encrypted",
        envVar "DECRYPTED_SECRETS_MOUNT_PATH" "/decrypted"], Other v := by
      simp only [List.forall_mem_cons]
      and_intros
      · exact other_of_ne (by decide) _
      · exact other_of_ne (by decide) _
      · exact other_of_ne (by decide) _
      · exact other_of_ne (by decide) _
      · exact List.forall_mem_nil _
    rw [List.foldlM_cons, readContainer_of_env henv, readVariables_others hothers]
    rfl

/-- The variables of the container that clones, after the flag. -/
theorem gitCloneEnv_others :
    ∃ first others, gitCloneEnv config py server =
        first :: envVar lfsVariable (if server.serverOptions.lfsAutoFetch then "1" else "0") ::
          others ∧
      Other first ∧ ∀ v ∈ others, Other v := by
  refine ⟨_, _, rfl, other_of_ne (by decide) _, ?_⟩
  simp only [List.append_eq, List.nil_append, List.cons_append, List.forall_mem_cons,
    List.forall_mem_append, List.forall_mem_map]
  and_intros
  iterate 10 exact other_of_ne (by decide) _
  · cases server.user with
    | anonymous u => exact List.forall_mem_nil _
    | registered u =>
      simp only [List.forall_mem_cons]
      exact ⟨other_of_ne (by decide) _, other_of_ne (by decide) _, List.forall_mem_nil _⟩
  · rintro ⟨repo, i⟩ _
    dsimp only
    rw [String.append_assoc]
    exact other_of_take 11 (by decide) (by decide) _ _
  · rintro ⟨provider, i⟩ _
    dsimp only
    rw [String.append_assoc]
    exact other_of_take 11 (by decide) (by decide) _ _

/-- The flag that is read from the init containers of a session. -/
theorem sessionInits_flag :
    (sessionInits config py server).foldlM readContainer none =
      .ok (if server.repositories.isEmpty then none else some server.serverOptions.lfsAutoFetch) := by
  have hcerts : readContainer none (initCertificates config) = .ok none :=
    readContainer_of_noEnv rfl none
  have himage : readContainer none (downloadImageContainer server) = .ok none := by
    apply readContainer_of_noEnv
    cases server.image <;> rfl
  have hbefore : (userSecretsInit config server ++ [initCertificates config] ++
      [downloadImageContainer server]).foldlM readContainer none = .ok none := by
    rw [List.foldlM_append, List.foldlM_append, userSecrets_unflagged]
    simp only [List.foldlM_cons, List.foldlM_nil, hcerts, himage, bind, Except.bind, pure,
      Except.pure]
  rw [sessionInits, List.foldlM_append, hbefore, gitCloneInit]
  split
  · rfl
  · obtain ⟨first, others, henv, hfirst, hothers⟩ := gitCloneEnv_others config py server
    have hget : (gitCloneContainer config py server).get? "env" =
        some (.arr (gitCloneEnv config py server)) := rfl
    have hflag : readVariable none
        (envVar lfsVariable (if server.serverOptions.lfsAutoFetch then "1" else "0")) =
          .ok (some server.serverOptions.lfsAutoFetch) := by
      cases server.serverOptions.lfsAutoFetch <;> rfl
    have hread : readContainer none (gitCloneContainer config py server) =
        .ok (some server.serverOptions.lfsAutoFetch) := by
      rw [readContainer_of_env hget, henv, List.foldlM_cons, readVariable_other hfirst]
      simp only [bind, Except.bind, List.foldlM_cons, hflag]
      exact readVariables_others hothers _
    simp only [bind, Except.bind, List.foldlM_cons, List.foldlM_nil, hread]
    rfl

/-! ### The other options -/

variable (floatText : String → Option Json)

theorem toFloat_natCast {n : ℕ} (h : n < 2 ^ 53) :
    toFloat floatText (.int n) = .ok (some (.float n)) := by
  have hread : Double.nearest ((n : ℤ).natAbs : ℚ) = some (n : ℚ) := Double.isDouble_natCast h
  have hsign : ((n : ℤ).sign : ℚ) * n = n := by
    rcases Nat.eq_zero_or_pos n with rfl | hpos
    · simp
    · rw [Int.sign_natCast_of_ne_zero hpos.ne']
      simp
  simp only [toFloat, hread, hsign]

theorem toFloat_disk {storage : ℤ} (h : 0 ≤ storage ∧ storage < 2 ^ 53) :
    toFloat floatText (.int storage) = .ok (some (.float storage)) := by
  obtain ⟨n, rfl⟩ := Int.eq_ofNat_of_zero_le h.1
  have hn : n < 2 ^ 53 := by
    have hlt := h.2
    norm_num at hlt ⊢
    omega
  exact toFloat_natCast floatText hn

/-- What `server_options` makes of the manifest of a session. -/
def written : ReadOptions where
  defaultUrl := server.serverOptions.defaultUrl
  diskRequest := .float server.serverOptions.storage
  memRequest := some (.int server.serverOptions.memory)
  gpuRequest :=
    if 0 < server.serverOptions.gpu then some (.str (toString server.serverOptions.gpu)) else none
  cpuRequest := some (.float server.serverOptions.cpu)
  ephemeralStorage := none
  lfsAutoFetch :=
    if server.repositories.isEmpty then none else some server.serverOptions.lfsAutoFetch

theorem serverOptions_of_manifest (hpvs : config.sessions.storage.pvsEnabled = true)
    (hstorage : 0 ≤ server.serverOptions.storage ∧ server.serverOptions.storage < 2 ^ 53)
    {manifest : Json} (hmanifest : server.getSessionManifest config py = .ok manifest) :
    serverOptions config floatText manifest = .ok (written server) := by
  obtain ⟨patches, hpatches, hmanifest⟩ := Results.bind_eq_ok_iff.mp hmanifest
  obtain ⟨_, _, hmanifest⟩ := Results.bind_eq_ok_iff.mp hmanifest
  have hflag : (patches.map UserServer.Patch.toJson).foldlM readPatches none =
      .ok (if server.repositories.isEmpty then none else some server.serverOptions.lfsAutoFetch) := by
    rw [readPatches_patches, (getPatches_adds config py server hpatches).inits,
      sessionInits_flag]
  have hsize : PyDict.getOr "size" .null (server.storage config) =
      .ok (.int server.serverOptions.storage) := by
    rw [UserServer.storage, if_pos hpvs]
    rfl
  let o := server.serverOptions
  let requests : Json := .obj ([("memory", .int o.memory), ("cpu", .float o.cpu)] ++ o.gpuResources)
  have hgpu : itemIfIn "nvidia.com/gpu" requests =
      .ok (if 0 < o.gpu then some (.str (toString o.gpu)) else none) := by
    simp only [requests, itemIfIn, ServerOptions.gpuResources]
    split
    · rfl
    · rfl
  have hephemeral : itemIfIn "ephemeral-storage" requests = .ok none := by
    simp only [requests, itemIfIn, ServerOptions.gpuResources]
    split
    · rfl
    · rfl
  cases hmanifest
  apply Results.bind_eq_ok_iff.mpr ⟨_, rfl, _⟩
  apply Results.bind_eq_ok_iff.mpr ⟨_, rfl, _⟩
  apply Results.bind_eq_ok_iff.mpr ⟨_, rfl, _⟩
  apply Results.bind_eq_ok_iff.mpr ⟨server.storage config, rfl, _⟩
  rw [hsize]
  apply Results.bind_eq_ok_iff.mpr ⟨_, rfl, _⟩
  rw [toFloat_disk floatText hstorage]
  apply Results.bind_eq_ok_iff.mpr ⟨_, rfl, _⟩
  apply Results.bind_eq_ok_iff.mpr ⟨_, rfl, _⟩
  apply Results.bind_eq_ok_iff.mpr ⟨requests, rfl, _⟩
  apply Results.bind_eq_ok_iff.mpr ⟨_, rfl, _⟩
  rw [hgpu]
  apply Results.bind_eq_ok_iff.mpr ⟨_, rfl, _⟩
  apply Results.bind_eq_ok_iff.mpr ⟨_, rfl, _⟩
  rw [hephemeral]
  apply Results.bind_eq_ok_iff.mpr ⟨_, rfl, _⟩
  dsimp only
  refine Results.bind_eq_ok_iff.mpr ⟨.arr (patches.map UserServer.Patch.toJson), ?_, ?_⟩
  · rfl
  apply Results.bind_eq_ok_iff.mpr ⟨_, rfl, _⟩
  rw [hflag]
  rfl

/-! ### Reading them back -/

/-- What the text of a float says, as far as `repr` promises it. -/
structure FloatRepr : Prop where
  /-- `float(repr(x)) == x` -/
  reads : ∀ {q d : ℚ}, Double.IsDouble q → IsPlain (py (.float q)).toList d →
    Double.nearest d = some q
  /-- Whole floats have no exponent below `1e16`. -/
  plain : ∀ n : ℕ, Double.IsDouble n → n < 10 ^ 16 → ∃ d, IsPlain (py (.float n)).toList d

/-- The options whose amounts are neither negative nor rounded. -/
structure Exact (o : ServerOptions) : Prop where
  cpu : Double.IsDouble o.cpu
  /-- Python prints it without exponent. -/
  cpuPlain : ∃ d, IsPlain (py (.float o.cpu)).toList d
  memory : 0 ≤ o.memory ∧ o.memory < 2 ^ 53
  storage : 0 ≤ o.storage ∧ o.storage < 2 ^ 53
  gpu : 0 ≤ o.gpu ∧ Double.IsDouble o.gpu

/-- The manifest tells the options that it was built from. -/
def ReadsBack (manifest : Json) : Prop :=
  let o := server.serverOptions
  ∃ read, serverOptions config floatText manifest = .ok read ∧
    getResourceRequests py read = .ok {
      cpu := some (some o.cpu)
      memory := some o.memory
      storage := some o.storage
      gpu := if o.gpu = 0 then none else some o.gpu } ∧
    read.defaultUrl = .str o.defaultUrl ∧
    (server.repositories ≠ [] → read.lfsAutoFetch = some o.lfsAutoFetch)

/-- The digits of a number. -/
theorem isPlain_natCast (n : ℕ) : IsPlain (toString (n : ℤ)).toList n := by
  have hdigits : (toString (n : ℤ)).toList = Nat.toDigits 10 n := Nat.toList_repr
  have hvalue : ((Nat.ofDigitChars 10 (Nat.toDigits 10 n) 0 : ℕ) : ℚ) = n := by
    rw [Nat.ofDigitChars_ten_toDigits]
  rw [hdigits, ← hvalue]
  exact .whole Nat.toDigits_ne_nil fun c hc =>
    Nat.isDigit_of_mem_toDigits (by decide) (by decide) hc

theorem exists_nat {amount : ℤ} (h : 0 ≤ amount ∧ amount < 2 ^ 53) :
    ∃ n : ℕ, amount = n ∧ n < 2 ^ 53 := by
  obtain ⟨n, rfl⟩ := Int.eq_ofNat_of_zero_le h.1
  refine ⟨n, rfl, ?_⟩
  have hlt := h.2
  norm_num at hlt ⊢
  omega

theorem byteSizeField_int {amount : ℤ} (h : 0 ≤ amount ∧ amount < 2 ^ 53) :
    byteSizeField py (.int amount) = .ok amount := by
  obtain ⟨n, rfl, hn⟩ := exists_nat h
  have hplain : IsPlain (CustomFields.pyStr py (.int n)).toList n := isPlain_natCast n
  have hdouble := Double.isDouble_natCast hn
  rw [byteSizeField_plain (by simp) hplain hdouble hdouble]
  exact congrArg Except.ok (Double.roundHalfEven_intCast n)

theorem byteSizeField_float (hrepr : FloatRepr py) {amount : ℤ}
    (h : 0 ≤ amount ∧ amount < 2 ^ 53) : byteSizeField py (.float amount) = .ok amount := by
  obtain ⟨n, rfl, hn⟩ := exists_nat h
  have hdouble := Double.isDouble_natCast hn
  obtain ⟨d, hd⟩ := hrepr.plain n hdouble (hn.trans (by norm_num))
  have hread := hrepr.reads hdouble hd
  have hvalue : Json.float ((n : ℤ) : ℚ) ≠ .null := by simp
  rw [byteSizeField_plain hvalue hd hread hdouble]
  exact congrArg Except.ok (Double.roundHalfEven_intCast n)

/-- GPUs are read through a float. -/
theorem gpuField_natCast {n : ℕ} {gpu : ℤ} (h : Double.nearest n = some (gpu : ℚ)) :
    gpuField py (.str (toString (n : ℤ))) = .ok gpu := by
  have hplain : IsPlain (CustomFields.pyStr py (.str (toString (n : ℤ)))).toList n :=
    isPlain_natCast n
  exact gpuField_plain (by simp) hplain h rfl

theorem gpuField_text {gpu : ℤ} (h : 0 ≤ gpu) (hgpu : Double.IsDouble gpu) :
    gpuField py (.str (toString gpu)) = .ok gpu := by
  obtain ⟨n, rfl⟩ := Int.eq_ofNat_of_zero_le h
  exact gpuField_natCast py hgpu

theorem cpuField_float (hrepr : FloatRepr py) {o : ServerOptions} (h : Exact py o) :
    cpuField py (.float o.cpu) = .ok (some o.cpu) := by
  obtain ⟨d, hd⟩ := h.cpuPlain
  have hplain : IsPlain (CustomFields.pyStr py (.float o.cpu)).toList d := hd
  rw [cpuField_plain (by simp) hplain, hrepr.reads h.cpu hd]

theorem gpuRequest_written {o : ServerOptions} (h : Exact py o) :
    (if 0 < o.gpu then some (Json.str (toString o.gpu)) else none).mapM (gpuField py) =
      .ok (if o.gpu = 0 then none else some o.gpu) := by
  by_cases hzero : o.gpu = 0
  · have hnot : ¬ 0 < o.gpu := by omega
    rw [if_neg hnot, if_pos hzero]
    rfl
  · have hpos : 0 < o.gpu := lt_of_le_of_ne h.gpu.1 (Ne.symm hzero)
    rw [if_pos hpos, if_neg hzero]
    exact congrArg (some <$> ·) (gpuField_text py h.gpu.1 h.gpu.2)

theorem getResourceRequests_written (hrepr : FloatRepr py)
    (h : Exact py server.serverOptions) :
    getResourceRequests py (written server) = .ok {
      cpu := some (some server.serverOptions.cpu)
      memory := some server.serverOptions.memory
      storage := some server.serverOptions.storage
      gpu := if server.serverOptions.gpu = 0 then none else some server.serverOptions.gpu } := by
  have hpositive : ∀ gpu : ℤ, 0 ≤ gpu →
      (if gpu = 0 then none else some gpu).filter (0 < ·) = if gpu = 0 then none else some gpu := by
    intro gpu hgpu
    split
    · rfl
    · rename_i hzero
      exact Option.filter_eq_some_iff.mpr ⟨rfl, decide_eq_true (lt_of_le_of_ne hgpu (Ne.symm hzero))⟩
  refine Results.bind_eq_ok_iff.mpr ⟨some (some server.serverOptions.cpu), ?_, ?_⟩
  · exact congrArg (some <$> ·) (cpuField_float py hrepr h)
  refine Results.bind_eq_ok_iff.mpr ⟨some server.serverOptions.memory, ?_, ?_⟩
  · exact congrArg (some <$> ·) (byteSizeField_int py h.memory)
  refine Results.bind_eq_ok_iff.mpr ⟨some server.serverOptions.storage, ?_, ?_⟩
  · exact congrArg (some <$> ·) (byteSizeField_float py hrepr h.storage)
  refine Results.bind_eq_ok_iff.mpr ⟨_, gpuRequest_written py h, ?_⟩
  rw [hpositive _ h.gpu.1]
  rfl

/-- The options of a session are what its manifest is read as. -/
theorem manifest_readsBack (hpvs : config.sessions.storage.pvsEnabled = true)
    (hrepr : FloatRepr py) (h : Exact py server.serverOptions) {manifest : Json}
    (hmanifest : server.getSessionManifest config py = .ok manifest) :
    ReadsBack config py server floatText manifest := by
  refine ⟨written server, ?_, getResourceRequests_written py server hrepr h, rfl, ?_⟩
  · exact serverOptions_of_manifest config py server floatText hpvs h.storage hmanifest
  · intro hrepos
    exact if_neg fun hempty => hrepos (List.isEmpty_iff.mp hempty)

/-! ### Amounts that are read back, and others -/

/-- The text of whole numbers. -/
def wholeText : Json → String
  | .float q => if q = q.num.toNat then Nat.repr q.num.toNat ++ ".0" else ""
  | _ => ""

def wholeRepr : PyText.Str := .ascii wholeText

theorem isPlain_whole (n : ℕ) : IsPlain (Nat.repr n ++ ".0").toList n := by
  have hdigits : (Nat.repr n ++ ".0").toList = Nat.toDigits 10 n ++ '.' :: ['0'] := by
    rw [String.toList_append, Nat.toList_repr]
    rfl
  have hvalue : ((Nat.ofDigitChars 10 (Nat.toDigits 10 n ++ ['0']) 0 : ℕ) : ℚ) /
      10 ^ ['0'].length = n := by
    rw [Nat.ofDigitChars_append, Nat.ofDigitChars_ten_toDigits]
    simp [Nat.ofDigitChars_cons]
  rw [hdigits, ← hvalue]
  refine .fraction Nat.toDigits_ne_nil (fun c hc => ?_) (fun c hc => ?_)
  · exact Nat.isDigit_of_mem_toDigits (by decide) (by decide) hc
  · rw [List.mem_singleton.mp hc]
    rfl

theorem wholeRepr_natCast (n : ℕ) : wholeRepr (.float n) = Nat.repr n ++ ".0" := by
  have hnum : ((n : ℚ).num.toNat : ℚ) = n := by simp
  change wholeText (.float n) = _
  rw [wholeText, if_pos hnum.symm]
  simp

theorem wholeRepr_floatRepr : FloatRepr wholeRepr where
  reads := by
    intro q d hq hplain
    by_cases hwhole : q = q.num.toNat
    · have hdecimal := decimal_of_plain hplain
      rw [hwhole, wholeRepr_natCast, decimal_of_plain (isPlain_whole _)] at hdecimal
      rw [← Option.some.inj hdecimal, ← hwhole]
      exact hq
    · change IsPlain (wholeText (.float q)).toList d at hplain
      rw [wholeText, if_neg hwhole] at hplain
      have hdecimal := decimal_of_plain hplain
      cases hdecimal
  plain n _ _ := ⟨n, by rw [wholeRepr_natCast]; exact isPlain_whole n⟩

/-- A session with these amounts. -/
def amountsServer (memory gpu : Int) : UserServer :=
  { exampleServer none with
    serverOptions := { (exampleServer none).serverOptions with memory, gpu } }

theorem amountsServer_manifest (memory gpu : Int) : ∃ manifest,
    (amountsServer memory gpu).getSessionManifest defaultConfig wholeRepr = .ok manifest := by
  have hpatches : (amountsServer memory gpu).getPatches defaultConfig wholeRepr = .ok _ := rfl
  exact ⟨_, EnvironmentOverrides.manifest_of_getPatches defaultConfig wholeRepr _ rfl hpatches⟩

theorem amountsServer_cpu (memory gpu : Int) :
    (amountsServer memory gpu).serverOptions.cpu = ((1 : ℕ) : ℚ) := by
  simp [amountsServer, exampleServer]

theorem amountsServer_exact : Exact wholeRepr (amountsServer 1000000000 2).serverOptions where
  cpu := by
    rw [amountsServer_cpu]
    exact Double.isDouble_natCast (by norm_num)
  cpuPlain := by
    rw [amountsServer_cpu, wholeRepr_natCast]
    exact ⟨_, isPlain_whole 1⟩
  memory := by decide
  storage := by decide
  gpu := ⟨by decide, Double.isDouble_natCast (n := 2) (by norm_num)⟩

theorem sample_readsBack : ∃ manifest,
    (amountsServer 1000000000 2).getSessionManifest defaultConfig wholeRepr = .ok manifest ∧
    ReadsBack defaultConfig wholeRepr (amountsServer 1000000000 2) (fun _ => none) manifest := by
  obtain ⟨manifest, hmanifest⟩ := amountsServer_manifest 1000000000 2
  exact ⟨manifest, hmanifest, manifest_readsBack defaultConfig wholeRepr _ _ rfl
    wholeRepr_floatRepr amountsServer_exact hmanifest⟩

/-- The requests that a manifest with these amounts is read as. -/
theorem requests_of_readsBack {memory gpu : Int} {manifest : Json}
    (hmanifest :
      (amountsServer memory gpu).getSessionManifest defaultConfig wholeRepr = .ok manifest)
    (h : ReadsBack defaultConfig wholeRepr (amountsServer memory gpu) (fun _ => none) manifest) :
    byteSizeField wholeRepr (.int memory) = .ok memory ∧
      (0 < gpu → gpuField wholeRepr (.str (toString gpu)) = .ok gpu) := by
  have hstorage : (0 : ℤ) ≤ 1000000000 ∧ (1000000000 : ℤ) < 2 ^ 53 := by decide
  have hread := serverOptions_of_manifest defaultConfig wholeRepr (amountsServer memory gpu)
    (fun _ => none) rfl hstorage hmanifest
  obtain ⟨read, hread', hrequests, _⟩ := h
  cases hread.symm.trans hread'
  obtain ⟨cpu, _, hrequests⟩ := Results.bind_eq_ok_iff.mp hrequests
  obtain ⟨memory', hmemory, hrequests⟩ := Results.bind_eq_ok_iff.mp hrequests
  obtain ⟨storage, _, hrequests⟩ := Results.bind_eq_ok_iff.mp hrequests
  obtain ⟨gpu', hgpu, hrequests⟩ := Results.bind_eq_ok_iff.mp hrequests
  have hall := Except.ok.inj hrequests
  rw [ResourceRequests.mk.injEq] at hall
  obtain ⟨_, hmemory', _, hgpu'⟩ := hall
  constructor
  · obtain ⟨n, hn, hsome⟩ := Results.map_eq_ok_iff.mp hmemory
    have hvalue : n = memory := Option.some.inj (hsome.trans hmemory')
    rw [hvalue] at hn
    exact hn
  · intro hpos
    have hne : ¬ gpu = 0 := by omega
    have hrequest : (written (amountsServer memory gpu)).gpuRequest = some (.str (toString gpu)) :=
      if_pos hpos
    have hgoal : gpu'.filter (0 < ·) = some gpu := hgpu'.trans (if_neg hne)
    rw [hrequest] at hgpu
    obtain ⟨n, hn, hsome⟩ := Results.map_eq_ok_iff.mp hgpu
    rw [← hsome] at hgoal
    obtain ⟨hn', _⟩ := Option.filter_eq_some_iff.mp hgoal
    have hvalue : n = gpu := Option.some.inj hn'
    rw [hvalue] at hn
    exact hn

/-- A number of GPUs that no double holds is rounded, and a negative amount is not read at all. -/
theorem amounts_not_read_back :
    (∃ manifest, (amountsServer 1000000000 (2 ^ 53 + 1)).getSessionManifest defaultConfig wholeRepr =
        .ok manifest ∧
      ¬ ReadsBack defaultConfig wholeRepr (amountsServer 1000000000 (2 ^ 53 + 1)) (fun _ => none)
        manifest) ∧
    (∃ manifest, (amountsServer (-1) 0).getSessionManifest defaultConfig wholeRepr = .ok manifest ∧
      ¬ ReadsBack defaultConfig wholeRepr (amountsServer (-1) 0) (fun _ => none) manifest) := by
  constructor
  · obtain ⟨manifest, hmanifest⟩ := amountsServer_manifest 1000000000 (2 ^ 53 + 1)
    refine ⟨manifest, hmanifest, fun hback => ?_⟩
    have hgpu := (requests_of_readsBack hmanifest hback).2 (by norm_num)
    have hrounded : Double.nearest ((2 ^ 53 + 1 : ℕ) : ℚ) = some ((2 ^ 53 : ℤ) : ℚ) := by
      have hcast : ((2 ^ 53 + 1 : ℕ) : ℚ) = 2 ^ 53 + 1 := by norm_num
      rw [hcast, Double.nearest_first]
      norm_num
    have hread := gpuField_natCast wholeRepr hrounded
    cases hread.symm.trans hgpu
  · obtain ⟨manifest, hmanifest⟩ := amountsServer_manifest (-1) 0
    refine ⟨manifest, hmanifest, fun hback => ?_⟩
    have hmemory := (requests_of_readsBack hmanifest hback).1
    have hread : ¬ (byteSizeField wholeRepr (.int (-1))).toOption.isSome := by decide +kernel
    rw [hmemory] at hread
    exact hread rfl

end OptionsReadback

end RenkuNotebooks.Notebooks
