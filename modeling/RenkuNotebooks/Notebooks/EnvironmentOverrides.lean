import RenkuNotebooks.Foundation.JsonMap
import RenkuNotebooks.Foundation.SingleValues
import RenkuNotebooks.Notebooks.Additions
import RenkuNotebooks.Notebooks.StorageErrors

/-!
# Overridden environment variables

The variables of the user are compared with those of the service where they are added, and all
variables once more when the patches are complete. A manifest is refused exactly when a variable of
a container would get two values.
-/

namespace RenkuNotebooks.Notebooks.EnvironmentOverrides

open AmaltheaPatches Notebooks.Composition Additions SingleValues StorageErrors

/-! ### The check of the complete list -/

def duplicateError (key : String × String) : PyError :=
  .generic (duplicateEnvironmentVariableError
    ("Environment variable " ++ key.1 ++ "::" ++ key.2 ++ " is being overridden by multiple patches"))

/-- The key that the check compares. -/
def lowerKey (v : EnvVariable) : EnvVariable := ((PyText.lower v.1.1, v.1.2), v.2)

theorem checkEnvOp_other {op : PatchOp} (h : ¬ EnvPath (PyText.lower op.path))
    (seen : UserServer.SeenEnv) : UserServer.checkEnvOp seen op = .ok seen := by
  apply UserServer.checkEnvOp_of_not_env
  rw [← Bool.not_eq_true, endsWith_env]
  exact h

theorem checkEnvOp_variable {path : String} (hpath : path ∈ envPaths) (name : String) (value : Json)
    (seen : UserServer.SeenEnv) :
    UserServer.checkEnvOp seen (.add path (envVar name value)) =
      record duplicateError seen (lowerKey ((path, name), value)) := by
  have hend : (PyText.lower path).endsWith "/env/-" = true :=
    (endsWith_env _).mpr (envPath_of_mem hpath).1.lower
  have hname : (envVar name value).get? "name" = some (.str name) := rfl
  have hvalue : (envVar name value).get? "value" = some value := rfl
  unfold UserServer.checkEnvOp
  rw [PatchOp.path]
  dsimp only
  rw [if_pos hend]
  simp only [hname, hvalue, pure_bind]
  unfold record lowerKey
  cases hlookup : seen.lookup (PyText.lower path, name) with
  | none => rfl
  | some set => rfl

/-- The check of regular operations only looks at the variables they append. -/
theorem foldlM_checkEnvOp {ops : List PatchOp} (h : ∀ op ∈ ops, Regular op)
    (seen : UserServer.SeenEnv) :
    ops.foldlM UserServer.checkEnvOp seen =
      ((appendedVariables ops).map lowerKey).foldlM (record duplicateError) seen := by
  induction ops generalizing seen with
  | nil => rfl
  | cons op ops ih =>
    have hops := ih fun op' hop' => h op' (List.mem_cons_of_mem _ hop')
    rw [List.foldlM_cons, appendedVariables]
    cases h op List.mem_cons_self with
    | other hother =>
      have hnone : appendedVariable op = none := if_neg fun henv => hother henv.lower
      rw [checkEnvOp_other hother, List.filterMap_cons_none hnone]
      exact hops seen
    | @variable_ path hpath name value =>
      have hsome : appendedVariable (.add path (envVar name value)) = some ((path, name), value) :=
        if_pos (envPath_of_mem hpath).1
      rw [checkEnvOp_variable hpath, List.filterMap_cons_some hsome, List.map_cons,
        List.foldlM_cons]
      congr 1
      funext seen'
      exact hops seen'

theorem lower_injective : ∀ p ∈ envPaths, ∀ q ∈ envPaths, PyText.lower p = PyText.lower q → p = q := by
  decide +kernel

theorem path_of_regular {ops : List PatchOp} (h : ∀ op ∈ ops, Regular op) {v : EnvVariable}
    (hv : v ∈ appendedVariables ops) : v.1.1 ∈ envPaths := by
  obtain ⟨op, hop, hsome⟩ := List.mem_filterMap.mp hv
  cases h op hop with
  | other hother =>
    have hnone : appendedVariable op = none := if_neg fun henv => hother henv.lower
    rw [hnone] at hsome
    cases hsome
  | @variable_ path hpath name value =>
    have hentry : appendedVariable (.add path (envVar name value)) = some ((path, name), value) :=
      if_pos (envPath_of_mem hpath).1
    rw [← Option.some.inj (hentry.symm.trans hsome)]
    exact hpath

/-- Paths of environment lists differ in more than the case of letters. -/
theorem singleValued_lowered {ops : List PatchOp} (h : ∀ op ∈ ops, Regular op) :
    SingleValued ((appendedVariables ops).map lowerKey) ↔ SingleValued (appendedVariables ops) := by
  constructor
  · intro hsingle a ha b hb hkey
    apply hsingle _ (List.mem_map_of_mem ha) _ (List.mem_map_of_mem hb)
    simp only [lowerKey, hkey]
  · rintro hsingle _ hla _ hlb hkey
    obtain ⟨a, ha, rfl⟩ := List.mem_map.mp hla
    obtain ⟨b, hb, rfl⟩ := List.mem_map.mp hlb
    obtain ⟨hpath, hname⟩ := Prod.mk.injEq .. ▸ hkey
    have hpaths := lower_injective _ (path_of_regular h ha) _ (path_of_regular h hb) hpath
    exact hsingle a ha b hb (Prod.ext hpaths hname)

/-- The check of any list of regular patches. -/
theorem check_cases_of_regular {patches : List Patch} (h : ∀ op ∈ opsOf patches, Regular op) :
    (SingleValued (appendedVariables (opsOf patches)) ∧
      UserServer.checkEnvironmentVariablesOverrides patches = .ok ()) ∨
    (Conflict (appendedVariables (opsOf patches)) ∧
      ∃ key, UserServer.checkEnvironmentVariablesOverrides patches = .error (duplicateError key)) := by
  have hfold := foldlM_checkEnvOp h []
  have hcheck : UserServer.checkEnvironmentVariablesOverrides patches =
      ((opsOf patches).foldlM UserServer.checkEnvOp []).map fun _ => () := rfl
  rw [hcheck, hfold]
  rcases check_cases duplicateError ((appendedVariables (opsOf patches)).map lowerKey) with
    ⟨hsingle, seen, hrun⟩ | ⟨hconflict, key, hrun⟩
  · refine Or.inl ⟨(singleValued_lowered h).mp hsingle, ?_⟩
    rw [hrun]
    rfl
  · refine Or.inr ⟨?_, key, ?_⟩
    · by_contra hnone
      exact not_conflict_iff.mpr ((singleValued_lowered h).mpr (not_conflict_iff.mp hnone)) hconflict
    · rw [hrun]
      rfl

/-! ### The check of the user's variables -/

variable (config : Config) (py : PyText.Str) (server : UserServer)

def overriddenError (key : String) : PyError :=
  .generic (overriddenEnvironmentVariableError ("Cannot override environment variable '" ++ key ++ "'"))

/-- The user gives a variable of the service another value. -/
def UserConflict : Prop :=
  ∃ entry ∈ server.environmentVariables, ∃ set,
    Json.getMember entry.1 (serviceEnv config server) = some set ∧ Json.str entry.2 ≠ set

/-- What `env` does for one variable of the user. -/
def checkUserVariable (entry : String × String) : Except PyError PatchOp :=
  match Json.getMember entry.1 (serviceEnv config server) with
  | some set =>
    if Json.str entry.2 ≠ set then .error (overriddenError entry.1)
    else .ok (addEnv entry.1 entry.2)
  | none => .ok (addEnv entry.1 entry.2)

theorem checkUserVariable_cases (entry : String × String) :
    (checkUserVariable config server entry = .ok (addEnv entry.1 entry.2) ∧
      ∀ set, Json.getMember entry.1 (serviceEnv config server) = some set →
        Json.str entry.2 = set) ∨
    (checkUserVariable config server entry = .error (overriddenError entry.1) ∧
      ∃ set, Json.getMember entry.1 (serviceEnv config server) = some set ∧
        Json.str entry.2 ≠ set) := by
  unfold checkUserVariable
  cases hmember : Json.getMember entry.1 (serviceEnv config server) with
  | none => exact Or.inl ⟨rfl, by simp⟩
  | some set =>
    by_cases hset : Json.str entry.2 = set
    · exact Or.inl ⟨if_neg (not_not.mpr hset), fun other hother => hset.trans (Option.some.inj hother)⟩
    · exact Or.inr ⟨if_pos hset, set, rfl, hset⟩

theorem env_eq : env config server =
    server.environmentVariables.mapM (checkUserVariable config server) >>= fun userEnv =>
      pure [{ patch :=
        ((serviceEnv config server).map fun (name, value) => addEnv name value) ++ userEnv }] := rfl

theorem env_cases :
    (¬ UserConflict config server ∧ ∃ patches, env config server = .ok patches) ∨
    (UserConflict config server ∧ ∃ key, env config server = .error (overriddenError key)) := by
  rcases Results.mapM_cases (checkUserVariable config server) server.environmentVariables with
    ⟨userEnv, hrun⟩ | ⟨entry, hentry, e, he, hrun⟩
  · refine Or.inl ⟨?_, _, by rw [env_eq, hrun]; rfl⟩
    rintro ⟨entry, hentry, set, hmember, hset⟩
    obtain ⟨op, hop⟩ := Results.exists_ok_of_mapM hrun hentry
    rcases checkUserVariable_cases config server entry with ⟨_, hall⟩ | ⟨herror, _⟩
    · exact hset (hall set hmember)
    · cases herror.symm.trans hop
  · rcases checkUserVariable_cases config server entry with ⟨hok, _⟩ | ⟨herror, hconflict⟩
    · cases hok.symm.trans he
    · refine Or.inr ⟨⟨entry, hentry, hconflict⟩, entry.1, ?_⟩
      rw [env_eq, hrun, Except.error.inj (he.symm.trans herror)]
      rfl

/-! ### The variables of a session -/

theorem serviceEnv_nodup : ((serviceEnv config server).map Prod.fst).Nodup := by
  have hnames : (serviceEnv config server).map Prod.fst =
      ["RENKU_USERNAME", "CI_COMMIT_SHA", "NOTEBOOK_DIR", "MOUNT_PATH", "SESSION_URL",
        "PROJECT_NAME", "GIT_CLONE_REPO"] := rfl
  rw [hnames]
  decide

/-- The variables in the containers next to the main one. -/
def sideVariables : List EnvVariable :=
  oidcVariables config server ++ caVariables config server ++ mountVariables server

theorem mountVariables_nodup : ((mountVariables server).map Prod.fst).Nodup := by
  unfold mountVariables
  split
  · exact List.nodup_nil
  · have hkeys : ∀ entries : List (RCloneStorage × ℕ), (entries.map fun entry =>
        (((cloneEnvPath, "GIT_CLONE_STORAGE_MOUNTS_" ++ toString entry.2),
          Json.str entry.1.mountFolder) : EnvVariable)).map Prod.fst =
        (entries.map Prod.snd).map fun i =>
          (cloneEnvPath, "GIT_CLONE_STORAGE_MOUNTS_" ++ toString i) := by
      intro entries
      rw [List.map_map, List.map_map]
      rfl
    have hinjective : Function.Injective fun i : ℕ =>
        (cloneEnvPath, "GIT_CLONE_STORAGE_MOUNTS_" ++ toString i) := by
      intro i j hij
      have hchars := congrArg String.toList (congrArg Prod.snd hij)
      rw [String.toList_append, String.toList_append, List.append_cancel_left_eq] at hchars
      exact Json.repr_injective (String.toList_inj.mp hchars)
    refine (congrArg List.Nodup (hkeys _)).mpr ?_
    rw [List.zipIdx_map_snd]
    exact List.Nodup.map hinjective List.nodup_range'

theorem proxyVariables_nodup :
    ((oidcVariables config server ++ caVariables config server).map Prod.fst).Nodup := by
  unfold oidcVariables caVariables
  split
  · simp
  · exact List.nodup_nil

theorem path_of_proxy {v : EnvVariable}
    (h : v ∈ oidcVariables config server ++ caVariables config server) : v.1.1 = proxyEnvPath := by
  unfold oidcVariables caVariables at h
  split at h
  · rcases List.mem_pair.mp h with rfl | rfl
    · rfl
    · rfl
  · cases h

theorem path_of_mount {v : EnvVariable} (h : v ∈ mountVariables server) : v.1.1 = cloneEnvPath := by
  unfold mountVariables at h
  split at h
  · cases h
  · obtain ⟨storageIdx, _, rfl⟩ := List.mem_map.mp h
    rfl

theorem sideVariables_nodup : ((sideVariables config server).map Prod.fst).Nodup := by
  rw [sideVariables, List.map_append, List.nodup_append]
  refine ⟨proxyVariables_nodup config server, mountVariables_nodup server, ?_⟩
  intro a ha b hb hkey
  obtain ⟨v, hv, rfl⟩ := List.mem_map.mp ha
  obtain ⟨w, hw, rfl⟩ := List.mem_map.mp hb
  have hpaths : proxyEnvPath = cloneEnvPath := by
    rw [← path_of_proxy config server hv, ← path_of_mount server hw, hkey]
  exact absurd hpaths (by decide)

theorem jupyterKeys_nodup {given : List (String × Json)} (h : (given.map Prod.fst).Nodup) :
    ((given.map fun (name, value) => ((jupyterEnvPath, name), value)).map Prod.fst).Nodup := by
  have hkeys : (given.map fun (name, value) => ((jupyterEnvPath, name), value)).map Prod.fst =
      (given.map Prod.fst).map (Prod.mk jupyterEnvPath) := by
    rw [List.map_map, List.map_map]
    rfl
  rw [hkeys]
  exact h.map fun _ _ heq => congrArg Prod.snd heq

theorem getMember_of_mem {ms : List (String × Json)} (hnodup : (ms.map Prod.fst).Nodup)
    {key : String} {value : Json} (h : (key, value) ∈ ms) : Json.getMember key ms = some value := by
  induction ms with
  | nil => cases h
  | cons m ms ih =>
    obtain ⟨hnew, hrest⟩ := List.nodup_cons.mp hnodup
    rcases List.mem_cons.mp h with rfl | h
    · simp [Json.getMember]
    · have hne : m.1 ≠ key := fun heq => hnew (heq ▸ List.mem_map_of_mem h)
      rw [Json.getMember, if_neg hne]
      exact ih hrest h

theorem jupyterVariables_singleValued
    (hmapping : (server.environmentVariables.map Prod.fst).Nodup)
    (hnone : ¬ UserConflict config server) : SingleValued (jupyterVariables config server) := by
  have huserKeys : (userVariables server).map Prod.fst =
      server.environmentVariables.map Prod.fst := by
    rw [userVariables, List.map_map]
    rfl
  have hservice := singleValued_of_nodup (jupyterKeys_nodup (serviceEnv_nodup config server))
  have huser := singleValued_of_nodup (jupyterKeys_nodup (huserKeys ▸ hmapping))
  rw [jupyterVariables, List.map_append]
  apply hservice.append huser
  rintro _ ha _ hb hkey
  obtain ⟨⟨name, set⟩, hset, rfl⟩ := List.mem_map.mp ha
  obtain ⟨_, hgiven, rfl⟩ := List.mem_map.mp hb
  obtain ⟨entry, hentry, rfl⟩ := List.mem_map.mp hgiven
  have hname : name = entry.1 := congrArg Prod.snd hkey
  have hmember := getMember_of_mem (serviceEnv_nodup config server) hset
  by_contra hvalue
  rw [hname] at hmember
  exact hnone ⟨entry, hentry, set, hmember, fun heq => hvalue heq.symm⟩

theorem conflict_of_user (h : UserConflict config server) :
    Conflict (sessionVariables config server) := by
  obtain ⟨entry, hentry, set, hmember, hset⟩ := h
  have hmem : ∀ given ∈ serviceEnv config server ++ userVariables server,
      (((jupyterEnvPath, given.1), given.2) : EnvVariable) ∈ sessionVariables config server := by
    intro given hgiven
    have hjupyter : (((jupyterEnvPath, given.1), given.2) : EnvVariable) ∈
        jupyterVariables config server := List.mem_map.mpr ⟨given, hgiven, rfl⟩
    simp only [sessionVariables, List.mem_append]
    exact Or.inl (Or.inl (Or.inl hjupyter))
  have huser : (entry.1, Json.str entry.2) ∈ userVariables server :=
    List.mem_map.mpr ⟨entry, hentry, rfl⟩
  exact ⟨_, hmem _ (List.mem_append_right _ huser), _,
    hmem _ (List.mem_append_left _ (Json.mem_of_getMember hmember)), rfl, hset⟩

theorem sessionVariables_singleValued
    (hmapping : (server.environmentVariables.map Prod.fst).Nodup)
    (hnone : ¬ UserConflict config server) : SingleValued (sessionVariables config server) := by
  have hassoc : sessionVariables config server =
      jupyterVariables config server ++ sideVariables config server := by
    simp only [sessionVariables, sideVariables, List.append_assoc]
  rw [hassoc]
  apply (jupyterVariables_singleValued config server hmapping hnone).append
    (singleValued_of_nodup (sideVariables_nodup config server))
  intro a ha b hb hkey
  obtain ⟨given, _, rfl⟩ := List.mem_map.mp ha
  have hpath : jupyterEnvPath = b.1.1 := congrArg Prod.fst hkey
  rcases List.mem_append.mp hb with hb | hb
  · rw [path_of_proxy config server hb] at hpath
    exact absurd hpath (by decide)
  · rw [path_of_mount server hb] at hpath
    exact absurd hpath (by decide)

/-! ### The manifest -/

/-- One of the two errors about overridden variables. -/
def RaisesOverride {α : Type} (result : Except PyError α) : Prop :=
  ∃ e, result = .error (.generic e) ∧
    (e.errorClass = .overriddenEnvironmentVariableError ∨
      e.errorClass = .duplicateEnvironmentVariableError)

theorem not_raisesOverride_of_foreign {α : Type} {result : Except PyError α} (h : Foreign result) :
    ¬ RaisesOverride result := by
  rintro ⟨e, he, _⟩
  exact h e he

theorem manifest_of_userConflict (h : UserConflict config server) :
    RaisesOverride (server.getSessionManifest config py) := by
  rcases env_cases config server with ⟨hnone, _⟩ | ⟨_, key, henv⟩
  · exact absurd h hnone
  · refine ⟨overriddenEnvironmentVariableError ("Cannot override environment variable '" ++ key ++ "'"),
      ?_, Or.inl rfl⟩
    exact Results.bind_eq_error_iff.mpr (Or.inl (Results.bind_eq_error_iff.mpr (Or.inl henv)))

/-- With the variables of the user added, the patches raise nothing of the service's own. -/
theorem getPatches_foreign {patches : List Patch} (henv : env config server = .ok patches) :
    Foreign (server.getPatches config py) := by
  have hrest : Foreign (env config server) := by
    rw [henv]
    exact foreign_ok _
  exact hrest.bind fun _ => (imagePullSecret_foreign config py server).bind fun _ =>
    (cloudstorage_foreign config py server).bind fun _ => foreign_ok _

/-- Patches that have been made pass the check. -/
theorem check_of_getPatches (hmapping : (server.environmentVariables.map Prod.fst).Nodup)
    (hnone : ¬ UserConflict config server) {patches : List Patch}
    (hpatches : server.getPatches config py = .ok patches) :
    UserServer.checkEnvironmentVariablesOverrides patches = .ok () := by
  have hadds := getPatches_adds config py server hpatches
  have hsingle := sessionVariables_singleValued config server hmapping hnone
  rcases check_cases_of_regular hadds.regular with ⟨_, hcheck⟩ | ⟨hconflict, _⟩
  · exact hcheck
  · rw [hadds.vars] at hconflict
    exact absurd hconflict (not_conflict_iff.mpr hsingle)

/-- The manifest of a user without variables of their own is made once the patches are. -/
theorem manifest_of_getPatches (hown : server.environmentVariables = []) {patches : List Patch}
    (hpatches : server.getPatches config py = .ok patches) :
    server.getSessionManifest config py = .ok (server.manifestWith config patches) := by
  have hmapping : (server.environmentVariables.map Prod.fst).Nodup := by
    rw [hown]
    exact List.nodup_nil
  have hnone : ¬ UserConflict config server := by
    rintro ⟨entry, hentry, -⟩
    rw [hown] at hentry
    cases hentry
  have hcheck := check_of_getPatches config py server hmapping hnone hpatches
  exact Results.bind_eq_ok_iff.mpr ⟨patches, hpatches, Results.bind_eq_ok_iff.mpr ⟨(), hcheck, rfl⟩⟩

theorem manifest_of_no_userConflict
    (hmapping : (server.environmentVariables.map Prod.fst).Nodup)
    (hnone : ¬ UserConflict config server) :
    ¬ RaisesOverride (server.getSessionManifest config py) := by
  apply not_raisesOverride_of_foreign
  rcases env_cases config server with ⟨_, envPatches, henv⟩ | ⟨hconflict, _⟩
  · intro e he
    rcases Results.bind_eq_error_iff.mp he with hraised | ⟨patches, hpatches, hraised⟩
    · exact getPatches_foreign config py server henv e hraised
    · rw [check_of_getPatches config py server hmapping hnone hpatches] at hraised
      cases hraised
  · exact absurd hconflict hnone

/-- Composing the manifest raises an error about overridden variables exactly when a variable of a
container would get two values, and a manifest has a single value for each. -/
theorem raisesOverride_iff_conflict
    (hmapping : (server.environmentVariables.map Prod.fst).Nodup) :
    (RaisesOverride (server.getSessionManifest config py) ↔
      Conflict (appendedVariables (opsOf (attempted config py server)))) ∧
    ∀ patches manifest, server.getPatches config py = .ok patches →
      server.getSessionManifest config py = .ok manifest →
      SingleValued (appendedVariables (opsOf patches)) := by
  have hattempted := (attempted_adds config py server).vars
  constructor
  · rw [hattempted]
    constructor
    · intro hraises
      by_contra hnone
      exact manifest_of_no_userConflict config py server hmapping
        (fun huser => hnone (conflict_of_user config server huser)) hraises
    · intro hconflict
      apply manifest_of_userConflict
      by_contra hnone
      exact not_conflict_iff.mpr
        (sessionVariables_singleValued config server hmapping hnone) hconflict
  · intro patches manifest hpatches hmanifest
    rw [(getPatches_adds config py server hpatches).vars]
    apply sessionVariables_singleValued config server hmapping
    intro huser
    obtain ⟨e, he, _⟩ := manifest_of_userConflict config py server huser
    cases he.symm.trans hmanifest

/-- A user who sets one of the variables of the service, and one of their own. -/
theorem sample_raisesOverride_iff :
    let server : UserServer :=
      { exampleServer none with
        environmentVariables := [("MY_OPTION", "1"), ("RENKU_USERNAME", "someone")] }
    (RaisesOverride (server.getSessionManifest defaultConfig (.ascii fun _ => "")) ↔
      Conflict (appendedVariables (opsOf (attempted defaultConfig (.ascii fun _ => "") server)))) ∧
    ∀ patches manifest, server.getPatches defaultConfig (.ascii fun _ => "") = .ok patches →
      server.getSessionManifest defaultConfig (.ascii fun _ => "") = .ok manifest →
      SingleValued (appendedVariables (opsOf patches)) :=
  raisesOverride_iff_conflict defaultConfig (.ascii fun _ => "") _ (by decide)

end RenkuNotebooks.Notebooks.EnvironmentOverrides
