import RenkuNotebooks.Notebooks.ShownServer

/-!
# The hibernation annotations

A request that hibernates a session records the status of its repository as a JSON text and as five
flat annotations, all of them with the prefix of Renku. `UserServerManifest` reads the text under a
name without the prefix.
-/

namespace RenkuNotebooks.Notebooks

open Prog

def annotationAt (key : String) (server : Json) : Option Json :=
  server.dig ["metadata", "annotations", key]

/-! ### The accessors -/

namespace UserServerManifest

variable (loads : String → Except PyError Json) (manifest : Json)

/-- `hibernation`; `None` is null. -/
def hibernation : Except PyError Json :=
  match manifest.dig ["metadata", "annotations"] with
  | none => .error (.keyError "annotations")
  | some annotations =>
    match (annotations.get? "hibernation").filter (·.truthy) with
    | none => .ok .null
    | some (.str text) => loads text
    | some _ => .error .typeError

/-- `value.get(key, default)` -/
def getOr (key : String) (default : Json) : Json → Except PyError Json
  | .obj ms => .ok ((Json.getMember key ms).getD default)
  | _ => .error .attributeError

def dirty : Except PyError Json := do
  let hibernation ← hibernation loads manifest
  getOr "dirty" (.bool false) hibernation

/-- A member of `self.hibernation or {}`. -/
def hibernated (key : String) : Except PyError Json := do
  let hibernation ← hibernation loads manifest
  getOr key .null (if hibernation.truthy then hibernation else .obj [])

def hibernationCommit : Except PyError Json := hibernated loads manifest "commit"

def hibernationBranch : Except PyError Json := hibernated loads manifest "branch"

end UserServerManifest

/-! ### What is recorded -/

namespace Hibernation

/-- The dictionary that is written as JSON. -/
def toJson (h : Hibernation) (date : String) : Json :=
  .obj [("branch", h.branch), ("commit", h.commit), ("dirty", h.dirty),
    ("synchronized", h.synchronized), ("date", date)]

/-- The value holds what has been recorded. -/
structure Recorded (h : Hibernation) (value : Json) : Prop where
  branch : value.get? "branch" = some h.branch
  commit : value.get? "commit" = some h.commit
  dirty : value.get? "dirty" = some h.dirty

end Hibernation

/-- The accessors return what has been recorded. -/
structure ReadsBack (loads : String → Except PyError Json) (server : Json) (h : Hibernation) :
    Prop where
  hibernation : ∃ value, UserServerManifest.hibernation loads server = .ok value ∧ h.Recorded value
  dirty : UserServerManifest.dirty loads server = .ok h.dirty
  commit : UserServerManifest.hibernationCommit loads server = .ok h.commit
  branch : UserServerManifest.hibernationBranch loads server = .ok h.branch

/-- The flat annotations say what the JSON annotation says. -/
def FlatAgree (loads : String → Except PyError Json) (server : Json) : Prop :=
  ∃ text value, annotationAt "renku.io/hibernation" server = some (.str text) ∧
    loads text = .ok value ∧
    annotationAt "renku.io/hibernationBranch" server = value.get? "branch" ∧
    annotationAt "renku.io/hibernationCommitSha" server = value.get? "commit" ∧
    annotationAt "renku.io/hibernationDirty" server =
      (value.get? "dirty").map Hibernation.flagText ∧
    annotationAt "renku.io/hibernationSynchronized" server =
      (value.get? "synchronized").map Hibernation.flagText ∧
    annotationAt "renku.io/hibernationDate" server = value.get? "date"

/-- A session that already had an annotation without the prefix, with the values that are recorded
now. -/
def RecordedWithoutPrefix (loads : String → Except PyError Json) (server : Json)
    (h : Hibernation) : Prop :=
  ∃ text value, annotationAt "hibernation" server = some (.str text) ∧ text ≠ "" ∧
    loads text = .ok value ∧ h.Recorded value

section Accessors

variable {loads : String → Except PyError Json} {server : Json} {h : Hibernation}

theorem readsBack_of_recorded {value : Json}
    (hvalue : UserServerManifest.hibernation loads server = .ok value) (hrecorded : h.Recorded value) :
    ReadsBack loads server h := by
  have htruthy : value.truthy = true :=
    truthy_of_dig ((Json.dig_singleton _ _).trans hrecorded.branch)
  cases value with
  | obj ms =>
    have hgetOr : ∀ {key : String} {v default : Json}, (Json.obj ms).get? key = some v →
        UserServerManifest.getOr key default (.obj ms) = .ok v := by
      intro key v default hv
      change Json.getMember key ms = some v at hv
      rw [UserServerManifest.getOr, hv, Option.getD_some]
    have hhibernated : ∀ {key : String} {v : Json}, (Json.obj ms).get? key = some v →
        UserServerManifest.hibernated loads server key = .ok v := by
      intro key v hv
      rw [UserServerManifest.hibernated, hvalue]
      change UserServerManifest.getOr key .null (if _ then _ else _) = _
      rw [if_pos htruthy]
      exact hgetOr hv
    refine ⟨⟨_, hvalue, hrecorded⟩, ?_, hhibernated hrecorded.commit, hhibernated hrecorded.branch⟩
    rw [UserServerManifest.dirty, hvalue]
    exact hgetOr hrecorded.dirty
  | _ => cases hrecorded.branch

theorem annotation_eq {annotations : Json}
    (hannotations : server.dig ["metadata", "annotations"] = some annotations) (key : String) :
    annotationAt key server = annotations.get? key := by
  have hpath : ["metadata", "annotations", key] = ["metadata", "annotations"] ++ [key] := rfl
  rw [annotationAt, hpath, Json.dig_append, hannotations, Option.bind_some, Json.dig_singleton]

theorem readsBack_iff (hannotations : (server.dig ["metadata", "annotations"]).isSome) :
    ReadsBack loads server h ↔ RecordedWithoutPrefix loads server h := by
  obtain ⟨annotations, hannotations⟩ := Option.isSome_iff_exists.mp hannotations
  constructor
  · rintro ⟨⟨value, hvalue, hrecorded⟩, -, -, -⟩
    unfold UserServerManifest.hibernation at hvalue
    rw [hannotations] at hvalue
    dsimp only at hvalue
    split at hvalue
    · obtain rfl := Except.ok.inj hvalue
      cases hrecorded.branch
    · next text htext =>
      obtain ⟨htext, htruthy⟩ := Option.filter_eq_some_iff.mp htext
      refine ⟨text, value, ?_, by simpa [Json.truthy] using htruthy, hvalue, hrecorded⟩
      rw [annotation_eq hannotations, htext]
    · cases hvalue
  · rintro ⟨text, value, htext, hne, hvalue, hrecorded⟩
    apply readsBack_of_recorded _ hrecorded
    rw [annotation_eq hannotations] at htext
    have hfilter : (annotations.get? "hibernation").filter (·.truthy) = some (.str text) := by
      rw [htext]
      simp [Option.filter, Json.truthy, hne]
    unfold UserServerManifest.hibernation
    rw [hannotations]
    dsimp only
    rw [hfilter]
    exact hvalue

end Accessors

/-! ### The patch -/

section Patch

variable {h : Hibernation} {pyRepr : Json → String} {date : String} {server : Json}

/-- The annotations of the patch. -/
def Hibernation.annotations (h : Hibernation) (pyRepr : Json → String) (date : String) :
    List (String × Json) := [
  ("renku.io/hibernation", .str (PyText.dumps pyRepr (h.toJson date))),
  ("renku.io/hibernationBranch", h.branch),
  ("renku.io/hibernationCommitSha", h.commit),
  ("renku.io/hibernationDirty", Hibernation.flagText h.dirty),
  ("renku.io/hibernationSynchronized", Hibernation.flagText h.synchronized),
  ("renku.io/hibernationDate", date)]

theorem dig_annotations_patched : (Json.mergePatch (h.patch pyRepr date) server).dig
    ["metadata", "annotations"] = some (Json.mergePatch (.obj (h.annotations pyRepr date))
      ((server.dig ["metadata", "annotations"]).getD .null)) := by
  have hmetadata : (Json.mergePatch (h.patch pyRepr date) server).get? "metadata" =
      some (Json.mergePatch (.obj [("annotations", .obj (h.annotations pyRepr date))])
        ((server.get? "metadata").getD .null)) :=
    Json.get?_mergePatch_of_mem (by simp) (by simp) List.mem_cons_self server
  rw [Json.dig_cons, hmetadata, Option.bind_some, Json.dig_singleton,
    Json.get?_mergePatch_single (by simp), Json.dig_cons]
  cases server.get? "metadata" with
  | none => rfl
  | some metadata => rw [Option.bind_some, Json.dig_singleton, Option.getD_some]

/-- The texts that the patch writes. -/
theorem annotation_patched {key text : String}
    (hmem : (key, .str text) ∈ h.annotations pyRepr date) :
    annotationAt key (Json.mergePatch (h.patch pyRepr date) server) = some (.str text) := by
  have hkeys : ((h.annotations pyRepr date).map Prod.fst).Nodup := by
    change ["renku.io/hibernation", "renku.io/hibernationBranch", "renku.io/hibernationCommitSha",
      "renku.io/hibernationDirty", "renku.io/hibernationSynchronized",
      "renku.io/hibernationDate"].Nodup
    decide
  rw [annotation_eq dig_annotations_patched, Json.get?_mergePatch_of_mem (by simp) hkeys hmem]
  rfl

theorem annotation_patched_of_ne {key : String}
    (hkey : ∀ member ∈ h.annotations pyRepr date, key ≠ member.1) :
    annotationAt key (Json.mergePatch (h.patch pyRepr date) server) = annotationAt key server := by
  apply Json.dig_mergePatch_of_untouched
  have hmetadata : Json.Untouched ["annotations", key]
      (.obj [("annotations", .obj (h.annotations pyRepr date))]) :=
    @Json.Untouched.member "annotations" [key] _ [] [] (by simp) (by simp) (.absent hkey)
  exact @Json.Untouched.member "metadata" ["annotations", key] _ [] _ (by simp) (by simp) hmetadata

/-- The values that become annotations of their own are texts. -/
structure Hibernation.Flat (h : Hibernation) : Prop where
  branch : ∃ text, h.branch = .str text
  commit : ∃ text, h.commit = .str text
  dirty : ∃ text, Hibernation.flagText h.dirty = .str text
  synchronized : ∃ text, Hibernation.flagText h.synchronized = .str text

theorem flatAgree_patched {loads : String → Except PyError Json} (hflat : h.Flat)
    (hloads : loads (PyText.dumps pyRepr (h.toJson date)) = .ok (h.toJson date)) :
    FlatAgree loads (Json.mergePatch (h.patch pyRepr date) server) := by
  have hwritten : ∀ {key : String} {value : Json}, (key, value) ∈ h.annotations pyRepr date →
      (∃ text, value = .str text) →
      annotationAt key (Json.mergePatch (h.patch pyRepr date) server) = some value := by
    rintro key _ hmem ⟨text, rfl⟩
    exact annotation_patched hmem
  refine ⟨_, h.toJson date, hwritten (by simp [Hibernation.annotations]) ⟨_, rfl⟩, hloads, ?_⟩
  refine ⟨hwritten ?_ hflat.branch, hwritten ?_ hflat.commit, hwritten ?_ hflat.dirty,
    hwritten ?_ hflat.synchronized, hwritten ?_ ⟨_, rfl⟩⟩
  all_goals simp [Hibernation.annotations]

/-- A status as the sidecar gives it: its branch and its commit are texts. -/
structure IsStatus (status : Json) : Prop where
  branch : ∀ value, status.get? "branch" = some value → ∃ text, value = .str text
  commit : ∀ value, status.get? "commit" = some value → ∃ text, value = .str text

theorem flat_ofStatus? {status : Option Json} (hstatus : ∀ j, status = some j → IsStatus j) :
    (Hibernation.ofStatus? status).Flat := by
  have hdefault : ({} : Hibernation).Flat := ⟨⟨_, rfl⟩, ⟨_, rfl⟩, ⟨_, rfl⟩, ⟨_, rfl⟩⟩
  have htext : ∀ {value : Option Json}, (∀ v, value = some v → ∃ text, v = .str text) →
      ∃ text, value.getD "" = .str text := by
    intro value hvalue
    cases value with
    | none => exact ⟨"", rfl⟩
    | some v => exact hvalue v rfl
  cases status with
  | none => exact hdefault
  | some j =>
    unfold Hibernation.ofStatus?
    dsimp only
    split
    · exact ⟨htext (hstatus j rfl).branch, htext (hstatus j rfl).commit, ⟨_, rfl⟩, ⟨_, rfl⟩⟩
    · exact hdefault

end Patch

/-! ### The request -/

section Request

variable {api : Api} {env : Env} {name home : String} {user : RegisteredUser}

/-- What the sidecar answers where it is asked, and nothing where it is not or cannot be. -/
def StatusOf (env : Env) (name : String) (status : Option Json) : Prop :=
  status = none ∨ env.gitStatus name = .ok status

theorem sidecarStatus_triple {server read : Json} :
    Triple (serve env) (HasServer api.client name home server) (Api.sidecarStatus name read)
      (fun status w => StatusOf env name status ∧ HasServer api.client name home server w)
      (fun _ _ => True) := by
  unfold Api.sidecarStatus
  split
  · apply Triple.bind fun reply w => (∀ status, reply = .ok status → StatusOf env name status) ∧
      HasServer api.client name home server w
    · apply triple_perform
      intro w hw
      refine ⟨?_, hw.spares trivial⟩
      unfold serve
      split
      · rintro status h
        exact .inl (Except.ok.inj h).symm
      · exact fun status h => .inr h
    · intro reply
      exact triple_ofExcept (fun status w hok hw => ⟨hw.1 status hok, hw.2⟩) fun _ _ _ _ => trivial
  · exact triple_ret fun w hw => ⟨.inl rfl, hw⟩

/-- Hibernating merges the patch of a status into the server. -/
theorem hibernate_merges {server read : Json} :
    Triple (serve env) (HasServer api.client name home server) (api.hibernate user name read)
      (fun patched w => ∃ status, StatusOf env name status ∧
        patched = Json.mergePatch ((Hibernation.ofStatus? status).patch api.py api.now) server ∧
        HasServer api.client name home patched w) (fun _ _ => True) := by
  apply Triple.bind _ sidecarStatus_triple
  intro status w hw
  apply (patchServer_hasServer _).weaken (fun _ h => h) _ (fun _ _ h => h) w hw.2
  rintro patched v ⟨happly, hv⟩
  exact ⟨status, hw.1, (Except.ok.inj happly).symm, hv⟩

/-- A patch of the class leaves all annotations but its own as they are. -/
theorem annotation_classPatch {options : ServerOptions} {enforceCpuLimits : CPUEnforcement}
    {classId : Int} {read doc doc' : Json}
    (h : applyOps (classPatch options enforceCpuLimits classId read) doc = .ok doc') :
    annotationAt "hibernation" doc' = annotationAt "hibernation" doc := by
  have hpath : ∀ j, annotationAt "hibernation" j =
      Json.getAt ["metadata", "annotations", "hibernation"] j :=
    fun j => (Json.getAt_of_named (by decide) j).symm
  rw [hpath, hpath, classPatch_frame h (by decide) (by decide) (by decide) (by decide) (by decide)]

/-- After a request that hibernates a session, the accessors return what it has recorded, and the
annotations agree, exactly when the session had an annotation without the prefix that happens to
hold the same values. -/
theorem hibernation_read_back_iff {loads : String → Except PyError Json}
    {classId : Option { n : Int // 0 < n }} {w w' : World} {x : Session} {read : Json}
    {response : Response} (hlives : Lives api.client w.cluster name home)
    (hget : w.cluster.get home name = some x)
    (hread : (execute env (api.client.getServer name user.safeUsername) w).1 = .ok (some read))
    (hrunning : currentlyHibernated read = false)
    (hstatus : ∀ j, env.gitStatus name = .ok (some j) → IsStatus j)
    (hloads : ∀ status, StatusOf env name status →
      let recorded := (Hibernation.ofStatus? status).toJson api.now
      loads (PyText.dumps api.py recorded) = .ok recorded)
    (hrun : execute env (api.handle (.registered user)
      (.patchServer name { state := some .hibernated, resourceClassId := classId })) w =
        (.ok response, w')) :
    ∃ status patched, StatusOf env name status ∧ w'.cluster.serverOf home name = some patched ∧
      annotationAt "renku.io/hibernation" patched = some (.str
        (PyText.dumps api.py ((Hibernation.ofStatus? status).toJson api.now))) ∧
      (ReadsBack loads patched (Hibernation.ofStatus? status) ∧ FlatAgree loads patched ↔
        RecordedWithoutPrefix loads x.server (Hibernation.ofStatus? status)) := by
  obtain ⟨shown, w₀, -, -, hstart, hchanged⟩ := exists_of_handle_ok hlives hget hread hrun
  obtain ⟨newServer, w₁, hclass, hstate⟩ := exists_of_run_bind _ hchanged
  obtain ⟨server, hserver, hsame⟩ : ∃ server, HasServer api.client name home server w₁ ∧
      annotationAt "hibernation" server = annotationAt "hibernation" x.server := by
    have hclass := (changeClass?_hasServer classId).value hstart hclass
    cases classId with
    | none => exact ⟨x.server, hclass.2, rfl⟩
    | some classId =>
      obtain ⟨hnew, options, -, happly⟩ := hclass
      exact ⟨newServer, hnew, annotation_classPatch happly⟩
  simp only [Api.changeState, hrunning, Bool.false_eq_true, if_false] at hstate
  obtain ⟨status, hasked, rfl, hpatched⟩ := hibernate_merges.value hserver hstate
  have hflat : (Hibernation.ofStatus? status).Flat := by
    apply flat_ofStatus?
    rintro j rfl
    rcases hasked with hnone | hasked
    · cases hnone
    · exact hstatus j hasked
  refine ⟨status, _, hasked, hpatched.current, ?_, ?_⟩
  · exact annotation_patched (by simp [Hibernation.annotations])
  · rw [readsBack_iff (by rw [dig_annotations_patched]; rfl), RecordedWithoutPrefix,
      annotation_patched_of_ne (by simp [Hibernation.annotations]), hsame]
    exact and_iff_left (flatAgree_patched hflat (hloads status hasked))

end Request

/-! ### A session with local changes -/

def dirtyStatus : Json :=
  .obj [("branch", "main"), ("commit", "0a1b2c"), ("clean", false), ("ahead", .int 1),
    ("behind", .int 0)]

def dirtyEnv : Env := { calmEnv with gitStatus := fun _ => .ok (some dirtyStatus) }

/-- A running session with a sidecar. -/
def sidecarSession : Session where
  server := sampleServer "renku" "jane-1" "jane" [
    ("jupyterServer", .obj [("hibernated", false)]),
    ("patches", .arr [.obj [("patch", .arr [.obj [
      ("op", "add"), ("path", "/statefulset/spec/template/spec/containers/-"),
      ("value", .obj [("name", "git-sidecar")])]])]])]
  statefulset := none
  imageSecret := none
  podLogs := fun _ => .error 404

theorem sidecarSession_identified : Identified "renku" "jane-1" sidecarSession.server :=
  ⟨rfl, rfl⟩

def sidecarWorld : World where
  cluster := Cluster.empty.set "renku" "jane-1" sidecarSession sidecarSession_identified
  log := []

/-- `json.loads` on the texts that can be written in this environment. -/
def writtenLoads (text : String) : Except PyError Json :=
  let written (status : Option Json) : Json :=
    (Hibernation.ofStatus? status).toJson (sampleApi none).now
  if text = PyText.dumps (sampleApi none).py (written none) then .ok (written none)
  else if text = PyText.dumps (sampleApi none).py (written (some dirtyStatus)) then
    .ok (written (some dirtyStatus))
  else .error .valueError

theorem dirty_session_read_back_iff :
    ∃ response w', execute dirtyEnv ((sampleApi none).handle (.registered sampleUser)
        (.patchServer "jane-1" { state := some .hibernated, resourceClassId := none }))
        sidecarWorld = (.ok response, w') ∧
      ∃ status patched, StatusOf dirtyEnv "jane-1" status ∧
        w'.cluster.serverOf "renku" "jane-1" = some patched ∧
        annotationAt "renku.io/hibernation" patched = some (.str
          (PyText.dumps (sampleApi none).py
            ((Hibernation.ofStatus? status).toJson (sampleApi none).now))) ∧
        (ReadsBack writtenLoads patched (Hibernation.ofStatus? status) ∧
            FlatAgree writtenLoads patched ↔
          RecordedWithoutPrefix writtenLoads sidecarSession.server
            (Hibernation.ofStatus? status)) := by
  have hread : (execute dirtyEnv ((sampleApi none).client.getServer "jane-1"
      sampleUser.safeUsername) sidecarWorld).1 = .ok (some sidecarSession.server) := rfl
  have hrunning : currentlyHibernated sidecarSession.server = false := by decide +kernel
  have hstatus : ∀ j, dirtyEnv.gitStatus "jane-1" = .ok (some j) → IsStatus j := by
    rintro j hj
    obtain rfl := Option.some.inj (Except.ok.inj hj)
    exact ⟨fun _ h => ⟨"main", (Option.some.inj h).symm⟩,
      fun _ h => ⟨"0a1b2c", (Option.some.inj h).symm⟩⟩
  have hloads : ∀ status, StatusOf dirtyEnv "jane-1" status →
      let recorded := (Hibernation.ofStatus? status).toJson (sampleApi none).now
      writtenLoads (PyText.dumps (sampleApi none).py recorded) = .ok recorded := by
    rintro status (rfl | hstatus)
    · decide +kernel
    · obtain rfl := Except.ok.inj hstatus
      decide +kernel
  obtain ⟨response, w', hrun⟩ : ∃ response w', execute dirtyEnv ((sampleApi none).handle
      (.registered sampleUser) (.patchServer "jane-1"
        { state := some .hibernated, resourceClassId := none })) sidecarWorld =
          (.ok response, w') := ⟨_, _, rfl⟩
  exact ⟨response, w', hrun, hibernation_read_back_iff (lives_single _ sidecarSession_identified)
    rfl hread hrunning hstatus hloads hrun⟩

/-- The session is hibernated with its status in the annotations, but the accessors find none. -/
theorem dirty_session_not_read_back :
    ∃ response w' patched, execute dirtyEnv ((sampleApi none).handle (.registered sampleUser)
        (.patchServer "jane-1" { state := some .hibernated })) sidecarWorld = (.ok response, w') ∧
      response.status = 200 ∧ w'.cluster.serverOf "renku" "jane-1" = some patched ∧
      annotationAt "renku.io/hibernationDirty" patched = some (.str "true") ∧
      ∀ loads, UserServerManifest.hibernation loads patched = .ok .null ∧
        UserServerManifest.dirty loads patched = .error .attributeError ∧
        ¬ ReadsBack loads patched (Hibernation.ofStatus dirtyStatus) := by
  have hmissing : ∀ {server : Json}, server.dig ["metadata", "annotations", "hibernation"] = none →
      (server.dig ["metadata", "annotations"]).isSome → ∀ loads,
        UserServerManifest.hibernation loads server = .ok .null ∧
          UserServerManifest.dirty loads server = .error .attributeError ∧
          ¬ ReadsBack loads server (Hibernation.ofStatus dirtyStatus) := by
    intro server hnone hsome loads
    obtain ⟨annotations, hannotations⟩ := Option.isSome_iff_exists.mp hsome
    have hkey : annotations.get? "hibernation" = none :=
      (annotation_eq hannotations "hibernation").symm.trans hnone
    have hnull : UserServerManifest.hibernation loads server = .ok .null := by
      unfold UserServerManifest.hibernation
      rw [hannotations]
      dsimp only
      rw [hkey, Option.filter_none]
    have hdirty : UserServerManifest.dirty loads server = .error .attributeError := by
      rw [UserServerManifest.dirty, hnull]
      rfl
    refine ⟨hnull, hdirty, fun hread => ?_⟩
    cases hdirty.symm.trans hread.dirty
  refine ⟨_, _, _, rfl, rfl, rfl, ?_, hmissing ?_ ?_⟩
  · decide +kernel
  · decide +kernel
  · decide +kernel

end RenkuNotebooks.Notebooks
