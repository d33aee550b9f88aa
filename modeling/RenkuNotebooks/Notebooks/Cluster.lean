import Std.Data.ExtTreeMap.Lemmas
import RenkuNotebooks.Foundation.JsonPatch
import RenkuNotebooks.Foundation.Program
import RenkuNotebooks.Notebooks.Errors
import RenkuNotebooks.Notebooks.ServerOptions

/-!
# The cluster and the services around it

A session is a JupyterServer with what Amalthea keeps for it under the same name: a statefulset,
an image pull secret and the logs of its pod; they are deleted with it. Every call to the
Kubernetes API, to the k8s-watcher cache, to the compute resource service, to the repository
sidecar and to the secret storage is a `Call`; each can fail, at any time.
-/

namespace RenkuNotebooks.Notebooks

open Std

/-! ### Sessions -/

structure Session where
  server : Json
  statefulset : Option Json
  imageSecret : Option Json
  /-- The log of a container of the pod, or the status that reading it gives. -/
  podLogs : String → Except Nat String

/-- A session before Amalthea has done anything for it. -/
def Session.created (server : Json) : Session where
  server
  statefulset := none
  imageSecret := none
  podLogs := fun _ => .error 404

/-- `metadata.name` and `metadata.namespace` agree with the place of the object. -/
def Identified (ns name : String) (server : Json) : Prop :=
  server.dig ["metadata", "name"] = some (.str name) ∧
    server.dig ["metadata", "namespace"] = some (.str ns)

instance (ns name : String) (server : Json) : Decidable (Identified ns name server) :=
  inferInstanceAs (Decidable (_ ∧ _))

structure Cluster where
  sessions : String → ExtTreeMap String Session
  identified : ∀ ns name s, (sessions ns)[name]? = some s → Identified ns name s.server

namespace Cluster

def get (c : Cluster) (ns name : String) : Option Session := (c.sessions ns)[name]?

theorem get_identified {c : Cluster} {ns name : String} {s : Session}
    (h : c.get ns name = some s) : Identified ns name s.server :=
  c.identified ns name s h

/-- The sessions of a namespace by name. -/
def list (c : Cluster) (ns : String) : List (String × Session) := (c.sessions ns).toList

theorem mem_list_iff {c : Cluster} {ns name : String} {s : Session} :
    (name, s) ∈ c.list ns ↔ c.get ns name = some s :=
  ExtTreeMap.mem_toList_iff_getElem?_eq_some

def empty : Cluster where
  sessions := fun _ => ∅
  identified := by
    intro ns name s h
    simp at h

def set (c : Cluster) (ns name : String) (s : Session) (h : Identified ns name s.server) :
    Cluster where
  sessions := Function.update c.sessions ns ((c.sessions ns).insert name s)
  identified := by
    intro ns' name' s' hget
    by_cases hns : ns' = ns
    · subst hns
      rw [Function.update_self, ExtTreeMap.getElem?_insert] at hget
      split at hget
      · next hname =>
        rw [LawfulEqCmp.compare_eq_iff_eq] at hname
        rw [← hname, ← Option.some.inj hget]
        exact h
      · exact c.identified ns' name' s' hget
    · rw [Function.update_of_ne hns] at hget
      exact c.identified ns' name' s' hget

def erase (c : Cluster) (ns name : String) : Cluster where
  sessions := Function.update c.sessions ns ((c.sessions ns).erase name)
  identified := by
    intro ns' name' s' hget
    by_cases hns : ns' = ns
    · subst hns
      rw [Function.update_self, ExtTreeMap.getElem?_erase] at hget
      split at hget
      · cases hget
      · exact c.identified ns' name' s' hget
    · rw [Function.update_of_ne hns] at hget
      exact c.identified ns' name' s' hget

@[simp] theorem get_set (c : Cluster) (ns name : String) (s : Session)
    (h : Identified ns name s.server) : (c.set ns name s h).get ns name = some s := by
  simp [get, set]

theorem get_set_of_ne (c : Cluster) {ns name ns' name' : String} (s : Session)
    (h : Identified ns name s.server) (hne : (ns', name') ≠ (ns, name)) :
    (c.set ns name s h).get ns' name' = c.get ns' name' := by
  by_cases hns : ns' = ns
  · subst hns
    have hname : name ≠ name' := fun he => hne (by rw [he])
    simp [get, set, ExtTreeMap.getElem?_insert, hname]
  · simp [get, set, Function.update_of_ne hns]

@[simp] theorem get_erase (c : Cluster) (ns name : String) :
    (c.erase ns name).get ns name = none := by
  simp [get, erase]

theorem get_erase_of_ne (c : Cluster) {ns name ns' name' : String}
    (hne : (ns', name') ≠ (ns, name)) : (c.erase ns name).get ns' name' = c.get ns' name' := by
  by_cases hns : ns' = ns
  · subst hns
    have hname : name ≠ name' := fun he => hne (by rw [he])
    simp [get, erase, ExtTreeMap.getElem?_erase, hname]
  · simp [get, erase, Function.update_of_ne hns]

end Cluster

/-! ### Calls -/

/-- A list is sent as a JSON patch, a dictionary as a merge patch. -/
inductive ServerPatch where
  | json (ops : List PatchOp)
  | merge (patch : Json)

inductive Call where
  | cacheList (safeUsername : String)
  | cacheGet (name : String)
  | listServers (ns labelValue : String)
  | getServer (ns name : String)
  | createServer (ns name : String) (manifest : Json)
  | patchServer (ns name : String) (patch : ServerPatch)
  | deleteServer (ns name : String) (forced : Bool)
  | readStatefulset (ns name : String)
  | patchStatefulset (ns name : String) (ops : List PatchOp)
  | readImageSecret (ns serverName : String)
  | patchImageSecret (ns serverName : String) (ops : List PatchOp)
  | readPodLog (ns serverName container : String) (tailLines : Int)
  | validateClassStorage (classId : Int)
  | gitStatus (serverName : String)
  | postSecret (payload : Json)

/-- An answer with an error status, or no answer at all. -/
inductive Fault where
  | status (n : Nat)
  | unreachable
  deriving DecidableEq, Repr

/-- What the secret storage answers; a body that is not JSON is left out. -/
inductive SecretReply where
  | connectionError (text : String)
  | otherError
  | response (status : Nat) (body : Option Json)

abbrev Call.Reply : Call → Type
  | .cacheList _ => Except Fault (List Json)
  | .cacheGet _ => Except Fault (List Json)
  | .listServers _ _ => Except Fault (List Json)
  | .getServer _ _ => Except Fault Json
  | .createServer _ _ _ => Except Fault Unit
  | .patchServer _ _ _ => Except Fault Json
  | .deleteServer _ _ _ => Except Fault Unit
  | .readStatefulset _ _ => Except Fault Json
  | .patchStatefulset _ _ _ => Except Fault Unit
  | .readImageSecret _ _ => Except Fault Json
  | .patchImageSecret _ _ _ => Except Fault Unit
  | .readPodLog _ _ _ _ => Except Fault String
  | .validateClassStorage _ => Except PyError ServerOptions
  | .gitStatus _ => Except PyError (Option Json)
  | .postSecret _ => SecretReply

/-- The reply to a call that a fault hits. -/
def Call.failed : (c : Call) → Fault → c.Reply
  | .cacheList _, f => .error f
  | .cacheGet _, f => .error f
  | .listServers _ _, f => .error f
  | .getServer _ _, f => .error f
  | .createServer _ _ _, f => .error f
  | .patchServer _ _ _, f => .error f
  | .deleteServer _ _ _, f => .error f
  | .readStatefulset _ _, f => .error f
  | .patchStatefulset _ _ _, f => .error f
  | .readImageSecret _ _, f => .error f
  | .patchImageSecret _ _ _, f => .error f
  | .readPodLog _ _ _ _, f => .error f
  | .validateClassStorage _, _ => .error .requestException
  | .gitStatus _, _ => .ok none
  | .postSecret _, .unreachable => .connectionError "Connection refused"
  | .postSecret _, .status n => .response n none

structure World where
  cluster : Cluster
  log : List Call

/-- The behaviour of everything outside the service. -/
structure Env where
  faults : Nat → Call → Option Fault
  /-- What the k8s-watcher has seen of the cluster. -/
  cacheView : Cluster → Cluster
  /-- The namespaces that the k8s-watcher watches, the keys of its map of caches. -/
  watched : List String
  watched_nodup : watched.Nodup
  crc : Int → Except PyError ServerOptions
  gitStatus : String → Except PyError (Option Json)
  secretStorage : Nat → Json → SecretReply

def hasLabel (label value : String) (server : Json) : Prop :=
  server.dig ["metadata", "labels", label] = some (.str value)

instance (label value : String) (server : Json) : Decidable (hasLabel label value server) :=
  inferInstanceAs (Decidable (_ = _))

def labelledServers (c : Cluster) (ns label value : String) : List Json :=
  ((c.list ns).map (·.2.server)).filter (hasLabel label value ·)

/-! ### What the API server does -/

def ServerPatch.applyTo : ServerPatch → Json → Except Fault Json
  | .json ops, server =>
    match applyOps ops server with
    | .ok server' => .ok server'
    | .error _ => .error (.status 422)
  | .merge patch, server => .ok (Json.mergePatch patch server)

theorem applyOps_of_applyTo {ops : List PatchOp} {server server' : Json}
    (h : (ServerPatch.json ops).applyTo server = .ok server') :
    applyOps ops server = .ok server' := by
  simp only [ServerPatch.applyTo] at h
  cases happly : applyOps ops server with
  | error e =>
    rw [happly] at h
    cases h
  | ok server₁ =>
    rw [happly] at h
    rw [Except.ok.inj h]

/-- The server as it is stored: with its namespace and a new uid. -/
def storedServer (ns uid : String) (manifest : Json) : Json :=
  let members := Json.membersOf manifest
  let metadata := Json.membersOf ((Json.getMember "metadata" members).getD .null)
  .obj (Json.setMember "metadata"
    (.obj (Json.setMember "uid" (.str uid) (Json.setMember "namespace" (.str ns) metadata))) members)

namespace Cluster

variable (c : Cluster)

def createServer (uid ns name : String) (manifest : Json) : Except Fault Unit × Cluster :=
  match c.get ns name with
  | some _ => (.error (.status 409), c)
  | none =>
    let server := storedServer ns uid manifest
    if h : Identified ns name server then
      (.ok (), c.set ns name (.created server) h)
    else (.error (.status 422), c)

variable {c} in
theorem createServer_of_none {uid ns name : String} {manifest : Json} (hget : c.get ns name = none)
    (hid : Identified ns name (storedServer ns uid manifest)) :
    c.createServer uid ns name manifest = (.ok (), c.set ns name
      (.created (storedServer ns uid manifest)) hid) := by
  unfold createServer
  rw [hget]
  exact dif_pos hid

/-- A change of one session; the name and the namespace of an object cannot be changed. -/
def update {α : Type} (ns name : String) (f : Session → Except Fault (α × Session)) :
    Except Fault α × Cluster :=
  match c.get ns name with
  | none => (.error (.status 404), c)
  | some s =>
    match f s with
    | .error fault => (.error fault, c)
    | .ok (a, s') =>
      if h : Identified ns name s'.server then (.ok a, c.set ns name s' h)
      else (.error (.status 422), c)

variable {c} in
theorem update_of_ok {α : Type} {ns name : String} {f : Session → Except Fault (α × Session)}
    {a : α} {s s' : Session} (hget : c.get ns name = some s) (hf : f s = .ok (a, s'))
    (hid : Identified ns name s'.server) : c.update ns name f = (.ok a, c.set ns name s' hid) := by
  unfold update
  simp only [hget, hf, hid, dite_true]

variable {c} in
/-- An update that succeeds has changed the session. -/
theorem exists_of_update_ok {α : Type} {ns name : String} {f : Session → Except Fault (α × Session)}
    {a : α} (h : (c.update ns name f).1 = .ok a) :
    ∃ s s', ∃ hid : Identified ns name s'.server, c.get ns name = some s ∧ f s = .ok (a, s') ∧
      c.update ns name f = (.ok a, c.set ns name s' hid) := by
  rcases hget : c.get ns name with _ | s
  · simp [update, hget] at h
  · rcases hf : f s with fault | ⟨b, s'⟩
    · simp [update, hget, hf] at h
    · by_cases hid : Identified ns name s'.server
      · have hupdate := update_of_ok hget hf hid
        rw [hupdate] at h
        obtain rfl := Except.ok.inj h
        exact ⟨s, s', hid, rfl, hf, hupdate⟩
      · simp [update, hget, hf, hid] at h

variable {c} in
theorem update_of_error {α : Type} {ns name : String} {f : Session → Except Fault (α × Session)}
    {fault : Fault} (h : (c.update ns name f).1 = .error fault) : (c.update ns name f).2 = c := by
  unfold update at h ⊢
  split
  · rfl
  · next s hget =>
    simp only [hget] at h
    split
    · rfl
    · next a s' hf =>
      simp only [hf] at h
      split
      · next hid =>
        rw [dif_pos hid] at h
        cases h
      · rfl

def patchServer (ns name : String) (patch : ServerPatch) : Except Fault Json × Cluster :=
  c.update ns name fun s => do
    let server ← patch.applyTo s.server
    pure (server, { s with server })

def deleteServer (ns name : String) : Except Fault Unit × Cluster :=
  match c.get ns name with
  | none => (.error (.status 404), c)
  | some _ => (.ok (), c.erase ns name)

/-- Members that are set to null are dropped from typed objects. -/
def dropNull (j : Json) : Json :=
  match j with
  | .obj ms => .obj (ms.filter fun m => Json.getMember m.1 ms ≠ some .null)
  | j => j

/-- A JSON patch of a typed object; null fields of the pod specification are dropped. -/
def patchedStatefulset (ops : List PatchOp) (statefulset : Json) : Except Fault Json :=
  match applyOps ops statefulset with
  | .error _ => .error (.status 422)
  | .ok patched =>
    match Json.alterAt ["spec", "template", "spec"] (fun spec => some (dropNull spec)) patched with
    | none => .error (.status 422)
    | some patched => .ok patched

def patchStatefulset (ns name : String) (ops : List PatchOp) : Except Fault Unit × Cluster :=
  c.update ns name fun s =>
    match s.statefulset with
    | none => .error (.status 404)
    | some statefulset => do
      let patched ← patchedStatefulset ops statefulset
      pure ((), { s with statefulset := some patched })

def patchImageSecret (ns name : String) (ops : List PatchOp) : Except Fault Unit × Cluster :=
  c.update ns name fun s =>
    match s.imageSecret with
    | none => .error (.status 404)
    | some secret =>
      match applyOps ops secret with
      | .error _ => .error (.status 422)
      | .ok patched => .ok ((), { s with imageSecret := some patched })

end Cluster

def found {α : Type} : Option α → Except Fault α
  | none => .error (.status 404)
  | some a => .ok a

/-- A call that no fault hits. The cache has the objects of a name under that name, for the names
that objects can have. -/
def answer (env : Env) (w : World) : (c : Call) → c.Reply × Cluster
  | .cacheList safeUsername =>
    (.ok (env.watched.flatMap fun ns =>
      labelledServers (env.cacheView w.cluster) ns usernameLabel safeUsername), w.cluster)
  | .cacheGet name =>
    (.ok (env.watched.filterMap fun ns =>
      ((env.cacheView w.cluster).get ns name).map (·.server)), w.cluster)
  | .listServers ns labelValue =>
    (.ok (labelledServers w.cluster ns usernameLabel labelValue), w.cluster)
  | .getServer ns name => (found ((w.cluster.get ns name).map (·.server)), w.cluster)
  | .createServer ns name manifest =>
    w.cluster.createServer (toString w.log.length) ns name manifest
  | .patchServer ns name patch => w.cluster.patchServer ns name patch
  | .deleteServer ns name _ => w.cluster.deleteServer ns name
  | .readStatefulset ns name => (found ((w.cluster.get ns name).bind (·.statefulset)), w.cluster)
  | .patchStatefulset ns name ops => w.cluster.patchStatefulset ns name ops
  | .readImageSecret ns name => (found ((w.cluster.get ns name).bind (·.imageSecret)), w.cluster)
  | .patchImageSecret ns name ops => w.cluster.patchImageSecret ns name ops
  | .readPodLog ns name container _ =>
    (match w.cluster.get ns name with
      | none => .error (.status 404)
      | some s =>
        match s.podLogs container with
        | .ok logs => .ok logs
        | .error status => .error (.status status), w.cluster)
  | .validateClassStorage classId => (env.crc classId, w.cluster)
  | .gitStatus serverName => (env.gitStatus serverName, w.cluster)
  | .postSecret payload => (env.secretStorage w.log.length payload, w.cluster)

def serve (env : Env) (c : Call) (w : World) : c.Reply × World :=
  match env.faults w.log.length c with
  | some fault => (c.failed fault, { w with log := w.log ++ [c] })
  | none => ((answer env w c).1, { cluster := (answer env w c).2, log := w.log ++ [c] })

/-- A program of the notebook service. -/
abbrev Service := Prog Call Call.Reply PyError

def execute {α : Type} (env : Env) (p : Service α) (w : World) : Except PyError α × World :=
  Prog.run (serve env) p w

end RenkuNotebooks.Notebooks
