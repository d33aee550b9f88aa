import RenkuNotebooks.GitServices.SidecarRpc
import RenkuNotebooks.Notebooks.HibernationAnnotations
import RenkuNotebooks.Notebooks.PyDict
import RenkuNotebooks.Notebooks.SessionStore

/-!
# The work in a hibernated session

Before the service hibernates a session it asks the sidecar for the status of the repository. What
git prints there ends up in the annotations of the session, or nothing does.
-/

namespace RenkuNotebooks.Sessions

open Prog
open GitServices (StatusLine CloneCall CloneError RepositoryStatus Readable Reported lastValue)
open GitServices.Sidecar
open Notebooks

/-! ### The request to the sidecar -/

/-- The body, if it is JSON. -/
inductive SidecarReply where
  | unreachable
  | response (statusCode : Nat) (body : Option Json)

/-- `get_status` of `util/repository.py` -/
def getStatus : SidecarReply → Except PyError (Option Json)
  | .unreachable => .ok none
  | .response statusCode body =>
    if 400 ≤ statusCode ∧ statusCode < 600 then .ok none
    else
      match body with
      | none => .error .valueError
      | some body => (PyDict.getOr "result" (.obj []) body).map some

/-- The sidecar cannot be reached, the proxy in front of it refuses, or the method answers. -/
inductive FromSidecar (reply : List CloneCall → (c : CloneCall) → c.Reply) (path : PosixPath)
    (unexpected : CloneError → String) : SidecarReply → Prop
  | unreachable : FromSidecar reply path unexpected .unreachable
  | refused {statusCode : Nat} (hrefused : 400 ≤ statusCode ∧ statusCode < 600)
    (body : Option Json) : FromSidecar reply path unexpected (.response statusCode body)
  | answered : FromSidecar reply path unexpected
    (.response 200 (some (getStatusMethod reply path unexpected)))

section Request

variable {reply : List CloneCall → (c : CloneCall) → c.Reply} {path : PosixPath}
variable {unexpected : CloneError → String}

theorem getStatus_answered :
    getStatus (.response 200 (some (getStatusMethod reply path unexpected))) =
      .ok (some (match statusOutcome reply path with
        | .ok read => statusJson read
        | .error _ => .obj [])) := by
  unfold getStatusMethod
  cases statusOutcome reply path with
  | ok read => rfl
  | error e => rfl

theorem getStatus_cases {answer : SidecarReply} (h : FromSidecar reply path unexpected answer)
    {status : Option Json} (hstatus : getStatus answer = .ok status) :
    status = none ∨ status = some (.obj []) ∨
      ∃ read, statusOutcome reply path = .ok read ∧ status = some (statusJson read) := by
  cases h with
  | unreachable => exact .inl (Except.ok.inj hstatus).symm
  | refused hrefused body =>
    simp only [getStatus, if_pos hrefused] at hstatus
    exact .inl (Except.ok.inj hstatus).symm
  | answered =>
    rw [getStatus_answered] at hstatus
    rw [← Except.ok.inj hstatus]
    cases statusOutcome reply path with
    | ok read => exact .inr (.inr ⟨read, rfl, rfl⟩)
    | error e => exact .inr (.inl rfl)

end Request

/-! ### The annotations -/

/-- The annotations describe the repository. -/
structure Describes (lines : List StatusLine) (server : Json) : Prop where
  dirty : annotationAt "renku.io/hibernationDirty" server =
    some (.str (boolText (lines.any StatusLine.isPending)))
  synchronized : annotationAt "renku.io/hibernationSynchronized" server = some (.str (boolText
    (decide ((lastValue StatusLine.aheadBehind lines).getD (0, 0) = (0, 0)))))
  branch : ∀ name, lastValue StatusLine.head lines = some name →
    annotationAt "renku.io/hibernationBranch" server = some (.str name)
  commit : ∀ commit, lastValue StatusLine.oid lines = some commit →
    annotationAt "renku.io/hibernationCommitSha" server = some (.str commit)

/-- The annotations leave all of it open. -/
def Undescribed (server : Json) : Prop :=
  ∀ key ∈ ["renku.io/hibernationDirty", "renku.io/hibernationSynchronized",
    "renku.io/hibernationBranch", "renku.io/hibernationCommitSha"],
      annotationAt key server = some (.str "")

section Annotations

variable {pyRepr : Json → String} {date : String} {server : Json}

theorem undescribed_patched :
    Undescribed (Json.mergePatch (({} : Hibernation).patch pyRepr date) server) := by
  intro key hkey
  apply annotation_patched
  simp only [List.mem_cons, List.not_mem_nil, or_false] at hkey
  rcases hkey with rfl | rfl | rfl | rfl <;> simp [Hibernation.annotations, Hibernation.flagText]

theorem ofStatus_statusJson (read : RepositoryStatus) :
    Hibernation.ofStatus (statusJson read) =
      { branch := .str read.branch, commit := .str read.commit, dirty := .bool !read.clean,
        synchronized := .bool (decide (read.ahead = 0) && decide (read.behind = 0)) } := by
  rfl

theorem describes_patched {lines : List StatusLine} {read : RepositoryStatus}
    (hreported : Reported lines read) :
    Describes lines (Json.mergePatch ((Hibernation.ofStatus (statusJson read)).patch pyRepr date)
      server) := by
  have hdirty : (!read.clean) = lines.any StatusLine.isPending := by
    rw [Bool.eq_iff_iff, List.any_eq_true, Bool.not_eq_true', ← Bool.not_eq_true, hreported.clean]
    simp
  have hsynchronized : (decide (read.ahead = 0) && decide (read.behind = 0)) =
      decide ((lastValue StatusLine.aheadBehind lines).getD (0, 0) = (0, 0)) := by
    rw [← hreported.aheadBehind]
    simp [Prod.mk.injEq]
  rw [ofStatus_statusJson, hdirty, hsynchronized]
  refine ⟨?_, ?_, ?_, ?_⟩
  · exact annotation_patched (by simp [Hibernation.annotations, Hibernation.flagText])
  · exact annotation_patched (by simp [Hibernation.annotations, Hibernation.flagText])
  · intro name hname
    apply annotation_patched
    simp [Hibernation.annotations, hreported.branch name hname]
  · intro commit hcommit
    apply annotation_patched
    simp [Hibernation.annotations, hreported.commit commit hcommit]

end Annotations

/-! ### Hibernating a session -/

section Hibernation

variable {api : Api} {env : Env} {name home : String} {user : RegisteredUser}

/-- A session with a sidecar, that no fault hides. -/
def Asked (env : Env) (name : String) (read : Json) : Prop :=
  (findContainer (elementsAt ["spec", "patches"] read) "git-sidecar").isSome ∧
    ∀ n, env.faults n (.gitStatus name) = none

/-- The status that is recorded, in all runs and where the sidecar is asked. -/
def Recordable (env : Env) (name : String) (read : Json) (status : Option Json) : Prop :=
  StatusOf env name status ∧ (Asked env name read → env.gitStatus name = .ok status)

theorem sidecarStatus_recordable {server read : Json} :
    Triple (serve env) (HasServer api.client name home server) (Api.sidecarStatus name read)
      (fun status w => Recordable env name read status ∧ HasServer api.client name home server w)
      (fun _ _ => True) := by
  unfold Api.sidecarStatus
  by_cases hsidecar : (findContainer (elementsAt ["spec", "patches"] read) "git-sidecar").isSome
  · rw [if_pos hsidecar]
    apply Triple.bind fun reply w =>
      (∀ status, reply = .ok status → Recordable env name read status) ∧
        HasServer api.client name home server w
    · apply triple_perform
      intro w hw
      refine ⟨?_, hw.spares trivial⟩
      intro status h
      cases hfault : env.faults w.log.length (.gitStatus name) with
      | some fault =>
        rw [serve, hfault] at h
        cases h
        refine ⟨.inl rfl, fun hasked => ?_⟩
        cases hfault.symm.trans (hasked.2 w.log.length)
      | none =>
        rw [serve, hfault] at h
        exact ⟨.inr h, fun _ => h⟩
    · intro reply
      exact triple_ofExcept (fun status w hok hw => ⟨hw.1 status hok, hw.2⟩) fun _ _ _ _ => trivial
  · rw [if_neg hsidecar]
    exact triple_ret fun w hw => ⟨⟨.inl rfl, fun hasked => absurd hasked.1 hsidecar⟩, hw⟩

/-- The patch of a status that can be recorded is merged into the server. -/
theorem hibernate_records {server read : Json} :
    Triple (serve env) (HasServer api.client name home server) (api.hibernate user name read)
      (fun patched w => ∃ status, Recordable env name read status ∧
        patched = Json.mergePatch ((Hibernation.ofStatus? status).patch api.py api.now) server ∧
        HasServer api.client name home patched w) (fun _ _ => True) := by
  apply Triple.bind _ sidecarStatus_recordable
  intro status w hw
  apply (patchServer_hasServer _).weaken (fun _ h => h) _ (fun _ _ h => h) w hw.2
  rintro patched v ⟨happly, hv⟩
  exact ⟨status, hw.1, (Except.ok.inj happly).symm, hv⟩

/-- A session that is hibernated is annotated with what git prints about its repository, or with
nothing where the sidecar does not tell; with the former wherever it is asked and git succeeds. -/
theorem hibernation_describes_work
    {reply : List CloneCall → (c : CloneCall) → c.Reply} {path : PosixPath}
    {unexpected : CloneError → String} {lines : List StatusLine}
    (hprints : Prints reply path lines) (hreadable : Readable lines) {answer : SidecarReply}
    (hanswer : FromSidecar reply path unexpected answer)
    (hsidecar : env.gitStatus name = getStatus answer)
    {classId : Option { n : Int // 0 < n }} {w w' : World} {x : Session} {read : Json}
    {response : Response} (hlives : Lives api.client w.cluster name home)
    (hget : w.cluster.get home name = some x)
    (hread : (execute env (api.client.getServer name user.safeUsername) w).1 = .ok (some read))
    (hrunning : currentlyHibernated read = false)
    (hrun : execute env (api.handle (.registered user)
      (.patchServer name { state := some .hibernated, resourceClassId := classId })) w =
        (.ok response, w')) :
    ∃ patched, w'.cluster.serverOf home name = some patched ∧
      currentlyHibernated patched = true ∧
      (Describes lines patched ∨ Undescribed patched) ∧
      (Asked env name read →
        answer = .response 200 (some (getStatusMethod reply path unexpected)) →
          ((∃ found, statusOutcome reply path = .ok found) → Describes lines patched) ∧
          ((∃ e, statusOutcome reply path = .error e) → Undescribed patched)) := by
  obtain ⟨shown, w₀, -, -, hstart, hchanged⟩ := exists_of_handle_ok hlives hget hread hrun
  obtain ⟨newServer, w₁, hclass, hstate⟩ := exists_of_run_bind _ hchanged
  obtain ⟨server, hserver⟩ : ∃ server, HasServer api.client name home server w₁ := by
    have hclass := (changeClass?_hasServer classId).value hstart hclass
    cases classId with
    | none => exact ⟨x.server, hclass.2⟩
    | some classId => exact ⟨newServer, hclass.1⟩
  simp only [Api.changeState, hrunning, Bool.false_eq_true, if_false] at hstate
  obtain ⟨status, ⟨hstatusOf, hasked⟩, rfl, hpatched⟩ := hibernate_records.value hserver hstate
  refine ⟨_, hpatched.current, ?_, ?_, ?_⟩
  · have hstatePatch : IsStatePatch .hibernated
        ((Hibernation.ofStatus? status).patch api.py api.now) := ⟨_, _, _, rfl⟩
    exact hibernated_of_patch hstatePatch server
  · rcases hstatusOf with rfl | hstatus
    · exact .inr undescribed_patched
    · rw [hsidecar] at hstatus
      rcases getStatus_cases hanswer hstatus with rfl | rfl | ⟨found, hfound, rfl⟩
      · exact .inr undescribed_patched
      · exact .inr undescribed_patched
      · exact .inl (describes_patched (reported_of_statusOutcome hprints hreadable hfound))
  · rintro hasks rfl
    have hstatus := hasked hasks
    rw [hsidecar, getStatus_answered] at hstatus
    rw [← Except.ok.inj hstatus]
    constructor
    · rintro ⟨found, hfound⟩
      rw [hfound]
      exact describes_patched (reported_of_statusOutcome hprints hreadable hfound)
    · rintro ⟨e, he⟩
      rw [he]
      exact undescribed_patched

end Hibernation

/-! ### A session with a changed file -/

theorem unbroken_oid : GitServices.Unbroken "0a1b2c" := by decide +kernel

theorem valid_main : ∀ c ∈ "main".toList, GitServices.isRefChar c = true :=
  PyText.forall_of_all (by decide)

theorem printed_entry : ∀ c ∈
    ".M N... 100644 100644 100644 1269488 1269488 README.md".toList, GitServices.isPrinted c = true :=
  PyText.forall_of_all (by decide +kernel)

def workLines : List StatusLine :=
  [.branchOid ⟨"0a1b2c", unbroken_oid⟩, .branchHead ⟨"main", valid_main⟩, .branchAb 1 0,
    .ordinary ⟨".M N... 100644 100644 100644 1269488 1269488 README.md", printed_entry⟩]

/-- A sidecar whose git works. -/
def workReply (_ : List CloneCall) : (c : CloneCall) → c.Reply
  | .pathExists _ _ => .ok true
  | .git _ args => .ok ⟨0, if args = statusArgs then GitServices.output workLines else "", ""⟩
  | .mkdir _ => .ok ()
  | .openWrite _ => .ok ()
  | .openAppend _ => .ok ()
  | .write _ _ => .ok ()
  | .unlink _ => .ok ()
  | .getToken _ _ => .error "ConnectionError"
  | .diskFree _ => .ok 0
  | .rmtree _ => ()

def workPath : PosixPath := PosixPath.ofString "/work"

def workStatus : RepositoryStatus where
  clean := false
  ahead := 1
  behind := 0
  branch := "main"
  commit := "0a1b2c"
  status := GitServices.output workLines

theorem workReply_prints : Prints workReply workPath workLines := by
  intro history result hresult
  cases hresult
  rfl

theorem workLines_unbroken : ∀ line ∈ workLines, GitServices.Unbroken line.text := by
  decide +kernel

theorem workLines_readable : Readable workLines :=
  GitServices.readable_of_unbroken workLines_unbroken
    (.inl (List.any_eq_true.mp (rfl : workLines.any StatusLine.isCounted = true)))

theorem workStatus_outcome : statusOutcome workReply workPath = .ok workStatus := by
  decide +kernel

def workEnv : Env := { calmEnv with gitStatus := fun _ => .ok (some (statusJson workStatus)) }

theorem janes_work_described :
    ∃ response w', execute workEnv ((sampleApi none).handle (.registered sampleUser)
        (.patchServer "jane-1" { state := some .hibernated })) sidecarWorld = (.ok response, w') ∧
      ∃ patched, w'.cluster.serverOf "renku" "jane-1" = some patched ∧
        currentlyHibernated patched = true ∧ Describes workLines patched := by
  obtain ⟨response, w', hrun⟩ : ∃ response w', execute workEnv ((sampleApi none).handle
      (.registered sampleUser) (.patchServer "jane-1" { state := some .hibernated }))
        sidecarWorld = (.ok response, w') := ⟨_, _, rfl⟩
  have hread : (execute workEnv ((sampleApi none).client.getServer "jane-1"
      sampleUser.safeUsername) sidecarWorld).1 = .ok (some sidecarSession.server) := rfl
  have hrunning : currentlyHibernated sidecarSession.server = false := by decide +kernel
  have hsidecar : workEnv.gitStatus "jane-1" =
      getStatus (.response 200 (some (getStatusMethod workReply workPath fun _ => ""))) := by
    rw [getStatus_answered, workStatus_outcome]
    rfl
  have hasked : Asked workEnv "jane-1" sidecarSession.server :=
    ⟨by decide +kernel, fun _ => rfl⟩
  obtain ⟨patched, hserver, hhibernated, -, hexact⟩ := hibernation_describes_work
    workReply_prints workLines_readable .answered hsidecar
    (lives_single _ sidecarSession_identified) rfl hread hrunning hrun
  exact ⟨response, w', hrun, patched, hserver, hhibernated,
    (hexact hasked rfl).1 ⟨workStatus, workStatus_outcome⟩⟩

end RenkuNotebooks.Sessions
