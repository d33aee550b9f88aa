import RenkuNotebooks.Foundation.Runs
import RenkuNotebooks.Notebooks.Placement

/-!
# Changes of the resource class

A change patches the JupyterServer and then the statefulset. What a session shows of its class
are the resources and the annotation of the server, its quota label, and the priority class of
the statefulset; a label or a priority class that is empty counts as none.
-/

namespace RenkuNotebooks.Notebooks

open Prog

def resourcesPath : List String := ["spec", "jupyterServer", "resources"]

def classIdPath : List String := ["metadata", "annotations", "renku.io/resourceClassId"]

def priorityClassPath : List String := ["spec", "template", "spec", "priorityClassName"]

def shownQuota (server : Json) : Option Json := (quotaLabel server).filter Json.truthy

def shownPriorityClass (statefulset : Option Json) : Option Json :=
  (statefulset.bind (Json.dig priorityClassPath)).filter Json.truthy

/-- The quota of a class, if it has one. -/
def ServerOptions.quota (options : ServerOptions) : Option Json :=
  (some (optStr options.priorityClass)).filter Json.truthy

/-- The session shows the class everywhere. -/
structure HasClass (enforceCpuLimits : CPUEnforcement) (options : ServerOptions) (classId : Int)
    (x : Session) : Prop where
  resources : x.server.dig resourcesPath = some (options.toK8sResources enforceCpuLimits)
  annotation : x.server.dig classIdPath = some (.str (toString classId))
  quota : shownQuota x.server = options.quota
  priorityClass : shownPriorityClass x.statefulset = options.quota

/-- Both sessions show the same. -/
structure SameClass (x x' : Session) : Prop where
  resources : x'.server.dig resourcesPath = x.server.dig resourcesPath
  annotation : x'.server.dig classIdPath = x.server.dig classIdPath
  quota : quotaLabel x'.server = quotaLabel x.server
  priorityClass :
    x'.statefulset.bind (Json.dig priorityClassPath) = x.statefulset.bind (Json.dig priorityClassPath)

/-! ### The patch of the server -/

section ServerPatch

variable {options : ServerOptions} {enforceCpuLimits : CPUEnforcement} {classId : Int}
  {read doc doc' : Json}

theorem optStr_truthy_iff (s : Option String) : (optStr s).truthy = s.any (· ≠ "") := by
  cases s <;> simp [optStr, Json.truthy]

/-- Locations that neither contain nor lie in the labels of a server. -/
def ApartFromLabels (path : List String) : Prop :=
  ¬ ["metadata", "labels"] <+: path ∧ ¬ path <+: ["metadata", "labels"]

instance (path : List String) : Decidable (ApartFromLabels path) :=
  inferInstanceAs (Decidable (_ ∧ _))

theorem quotaPath_parse :
    JsonPointer.parse quotaPath = some (["metadata", "labels"] ++ ["renku.io/quota"]) := by
  decide

/-- The operation on the label changes the labels only. -/
theorem quotaPatch_frame (h : applyOps (quotaPatch options.priorityClass read) doc = .ok doc')
    {path : List String} (hapart : ApartFromLabels path) :
    Json.getAt path doc' = Json.getAt path doc := by
  unfold quotaPatch at h
  split at h
  · obtain ⟨doc₁, happly, hnil⟩ := applyOps_cons_eq_ok h
    obtain rfl := Except.ok.inj hnil
    apply Json.getAt_alterAt_of_separate _ _ (Json.replaceAt_of_apply quotaPath_parse happly)
    · exact fun hp => hapart.1 ((List.prefix_append _ _).trans hp)
    · intro hp
      rcases List.prefix_concat_iff.mp hp with rfl | hp
      · exact hapart.1 (List.prefix_append _ _)
      · exact hapart.2 hp
  · split at h
    · obtain ⟨doc₁, happly, hnil⟩ := applyOps_cons_eq_ok h
      obtain rfl := Except.ok.inj hnil
      exact Json.getAt_removeAt_of_separate hapart.1 hapart.2
        (Json.removeAt_of_apply quotaPath_parse happly)
    · obtain rfl := Except.ok.inj h
      rfl

/-- What the operation on the label does, where the server that has been read tells whether
there is a label. -/
theorem quotaPatch_spec (h : applyOps (quotaPatch options.priorityClass read) doc = .ok doc')
    (hread : options.quota = none → (shownQuota doc).isSome → (shownQuota read).isSome) :
    shownQuota doc' = options.quota := by
  have hlabel : ∀ j, quotaLabel j = Json.getAt (["metadata", "labels"] ++ ["renku.io/quota"]) j :=
    fun j => (Json.getAt_of_named (by decide) j).symm
  have htruthy := optStr_truthy_iff options.priorityClass
  unfold quotaPatch at h
  split at h
  · next hquota =>
    obtain ⟨doc₁, happly, hnil⟩ := applyOps_cons_eq_ok h
    obtain rfl := Except.ok.inj hnil
    rw [shownQuota, hlabel, Json.getAt_of_replaceAt (Json.replaceAt_of_apply quotaPath_parse happly)]
    rfl
  · next hquota =>
    rw [← htruthy, Bool.not_eq_true] at hquota
    have hnone : options.quota = none := by simp [ServerOptions.quota, Option.filter, hquota]
    split at h
    · obtain ⟨doc₁, happly, hnil⟩ := applyOps_cons_eq_ok h
      obtain rfl := Except.ok.inj hnil
      rw [shownQuota, hlabel, Json.getAt_of_removeAt (by decide)
        (Json.removeAt_of_apply quotaPath_parse happly), hnone]
      rfl
    · next hnolabel =>
      obtain rfl := Except.ok.inj h
      rw [hnone]
      by_contra hsome
      have hshown := hread hnone (Option.isSome_iff_ne_none.mpr hsome)
      apply hnolabel
      obtain ⟨label, hshown⟩ := Option.isSome_iff_exists.mp hshown
      obtain ⟨hlabel, htruthy⟩ := Option.filter_eq_some_iff.mp hshown
      rw [hlabel]
      exact htruthy

/-- The three operations of a change of class, one after the other. -/
theorem classPatch_steps
    (h : applyOps (classPatch options enforceCpuLimits classId read) doc = .ok doc') :
    ∃ doc₁ doc₂,
      Json.replaceAt resourcesPath (options.toK8sResources enforceCpuLimits) doc = some doc₁ ∧
      Json.replaceAt classIdPath (.str (toString classId)) doc₁ = some doc₂ ∧
      applyOps (quotaPatch options.priorityClass read) doc₂ = .ok doc' := by
  obtain ⟨doc₁, hfirst, h⟩ := applyOps_cons_eq_ok h
  obtain ⟨doc₂, hsecond, h⟩ := applyOps_cons_eq_ok h
  have hpath₁ : JsonPointer.parse "/spec/jupyterServer/resources" = some resourcesPath := by decide
  have hpath₂ : JsonPointer.parse "/metadata/annotations/renku.io~1resourceClassId" =
      some classIdPath := by decide
  exact ⟨doc₁, doc₂, Json.replaceAt_of_apply hpath₁ hfirst, Json.replaceAt_of_apply hpath₂ hsecond,
    h⟩

/-- A change of class leaves everything else as it is. -/
theorem classPatch_frame
    (h : applyOps (classPatch options enforceCpuLimits classId read) doc = .ok doc')
    {path : List String} (hlabels : ApartFromLabels path) (hresources : ¬ resourcesPath <+: path)
    (hresources' : ¬ path <+: resourcesPath) (hclassId : ¬ classIdPath <+: path)
    (hclassId' : ¬ path <+: classIdPath) : Json.getAt path doc' = Json.getAt path doc := by
  obtain ⟨doc₁, doc₂, hreplace₁, hreplace₂, hquota⟩ := classPatch_steps h
  rw [quotaPatch_frame hquota hlabels, Json.getAt_alterAt_of_separate hclassId hclassId' hreplace₂,
    Json.getAt_alterAt_of_separate hresources hresources' hreplace₁]

theorem classPatch_spec
    (h : applyOps (classPatch options enforceCpuLimits classId read) doc = .ok doc')
    (hread : options.quota = none → (shownQuota doc).isSome → (shownQuota read).isSome) :
    doc'.dig resourcesPath = some (options.toK8sResources enforceCpuLimits) ∧
      doc'.dig classIdPath = some (.str (toString classId)) ∧ shownQuota doc' = options.quota := by
  have hresources : ∀ j, Json.dig resourcesPath j = Json.getAt resourcesPath j :=
    fun j => (Json.getAt_of_named (by decide) j).symm
  have hclassId : ∀ j, Json.dig classIdPath j = Json.getAt classIdPath j :=
    fun j => (Json.getAt_of_named (by decide) j).symm
  have hquota : ∀ j, quotaLabel j = Json.getAt ["metadata", "labels", "renku.io/quota"] j :=
    fun j => (Json.getAt_of_named (by decide) j).symm
  obtain ⟨doc₁, doc₂, hreplace₁, hreplace₂, h⟩ := classPatch_steps h
  have hlabel : shownQuota doc₂ = shownQuota doc := by
    rw [shownQuota, shownQuota, hquota, hquota,
      Json.getAt_alterAt_of_separate (by decide) (by decide) hreplace₂,
      Json.getAt_alterAt_of_separate (by decide) (by decide) hreplace₁]
  refine ⟨?_, ?_, quotaPatch_spec h (by rw [hlabel]; exact hread)⟩
  · rw [hresources, quotaPatch_frame h (by decide),
      Json.getAt_alterAt_of_separate (by decide) (by decide) hreplace₂,
      Json.getAt_of_replaceAt hreplace₁]
  · rw [hclassId, quotaPatch_frame h (by decide), Json.getAt_of_replaceAt hreplace₂]

end ServerPatch

/-! ### The patch of the statefulset -/

section StatefulsetPatch

variable {options : ServerOptions} {sts sts' : Json}

theorem get?_dropNull (key : String) (j : Json) :
    (Cluster.dropNull j).get? key = (j.get? key).filter (· ≠ .null) := by
  cases j with
  | obj ms =>
    rw [Cluster.dropNull, Json.get?, Json.get?,
      Json.getMember_filter_key (fun k => Json.getMember k ms ≠ some .null)]
    cases hmember : Json.getMember key ms with
    | none => simp
    | some v => by_cases hv : v = .null <;> simp [Option.filter, hv]
  | _ => rfl

theorem priorityClassPath_parse : JsonPointer.parse "/spec/template/spec/priorityClassName" =
    some priorityClassPath := by
  decide

theorem getAt_priorityClassPath (j : Json) :
    Json.getAt priorityClassPath j = j.dig priorityClassPath :=
  Json.getAt_of_named (by decide) j

theorem patchedStatefulset_spec
    (h : Cluster.patchedStatefulset (priorityClassPatch options) sts = .ok sts') :
    shownPriorityClass (some sts') = options.quota := by
  unfold Cluster.patchedStatefulset at h
  split at h
  · cases h
  · next patched happly =>
    split at h
    · cases h
    · next result hdrop =>
      obtain rfl := Except.ok.inj h
      obtain ⟨doc, hreplace, hnil⟩ := applyOps_cons_eq_ok happly
      obtain rfl := Except.ok.inj hnil
      have hvalue := Json.getAt_of_replaceAt (Json.replaceAt_of_apply priorityClassPath_parse hreplace)
      obtain ⟨spec, spec', hspec, hspec', hread⟩ := Json.exists_of_alterAt hdrop
      obtain rfl := Option.some.inj hspec'
      have hpath : priorityClassPath = ["spec", "template", "spec"] ++ ["priorityClassName"] := rfl
      have hmember : spec.get? "priorityClassName" = some (optStr options.priorityClass) := by
        rwa [hpath, Json.getAt_append, hspec, Option.bind_some, Json.getAt_of_named (by decide),
          Json.dig_singleton] at hvalue
      rw [shownPriorityClass, Option.bind_some, ← getAt_priorityClassPath, hpath, Json.getAt_append,
        hread, Option.bind_some, Json.getAt_of_named (by decide), Json.dig_singleton, get?_dropNull,
        hmember, ServerOptions.quota, Option.filter_filter]
      congr 1
      funext v
      cases v <;> simp [Json.truthy]

theorem patchedStatefulset_isOk (options : ServerOptions) (h : (sts.dig priorityClassPath).isSome) :
    ∃ sts', Cluster.patchedStatefulset (priorityClassPatch options) sts = .ok sts' := by
  obtain ⟨old, hold⟩ := Option.isSome_iff_exists.mp h
  rw [← getAt_priorityClassPath] at hold
  obtain ⟨patched, hpatched, hvalue⟩ := Json.replaceAt_eq_some hold (optStr options.priorityClass)
  have happly : applyOps (priorityClassPatch options) sts = .ok patched := by
    simp [applyOps, priorityClassPatch, PatchOp.apply, PatchOp.path, priorityClassPath_parse,
      PatchOp.applyAt, hpatched, Except.bind]
  have hpath : priorityClassPath = ["spec", "template", "spec"] ++ ["priorityClassName"] := rfl
  rw [hpath, Json.getAt_append] at hvalue
  obtain ⟨spec, hspec, -⟩ := Option.bind_eq_some_iff.mp hvalue
  obtain ⟨sts', hsts'⟩ := Json.alterAt_eq_some (f := fun spec => some (Cluster.dropNull spec)) hspec rfl
  exact ⟨sts', by simp only [Cluster.patchedStatefulset, happly, hsts']⟩

end StatefulsetPatch

/-! ### One request -/

/-- A request to change the class, in the environment that answers its calls. -/
structure ClassRequest where
  env : Env
  classId : { n : Int // 0 < n }

section Request

variable (api : Api) (user : User) (name home : String)

def ClassRequest.perform (r : ClassRequest) (w : World) : Except PyError Response × World :=
  execute r.env (api.handle user (.patchServer name { resourceClassId := some r.classId })) w

/-- The request succeeds and the session shows the new class, or it fails and the session shows
what it did. -/
def ChangesAtomically (r : ClassRequest) (w : World) : Prop :=
  ∀ x, w.cluster.get home name = some x →
    ∃ x', (r.perform api user name w).2.cluster.get home name = some x' ∧
      ((∃ response options, (r.perform api user name w).1 = .ok response ∧
          r.env.crc r.classId = .ok options ∧
          HasClass api.config.sessions.enforceCpuLimits options r.classId x') ∨
        ((∃ e, (r.perform api user name w).1 = .error e) ∧ SameClass x x'))

/-- What `changeClass` does first. -/
def validated (classId : Int) : Service ServerOptions := do
  let reply ← perform (.validateClassStorage classId)
  ofExcept reply

/-- The request comes to its patch of the server: it finds `read`, which can be changed, the class
has these options, and the look-up of the namespace ends in the world `v`. -/
inductive ReachesPatch (r : ClassRequest) (w : World) (read : Json) (options : ServerOptions)
    (v : World) : Prop
  | intro {u : RegisteredUser} {w₁ w₂ : World} {ns : String}
    (volumes : api.config.sessions.storage.pvsEnabled = true) (registered : user = .registered u)
    (found : execute r.env (api.client.getServer name u.safeUsername) w = (.ok (some read), w₁))
    (changeable : currentlyHibernated read = true ∨ currentlyFailing read)
    (known : execute r.env (validated r.classId) w₁ = (.ok options, w₂))
    (owned : execute r.env (api.client.ownNamespace name u.safeUsername " in order to patch it.")
      w₂ = (.ok ns, v))

/-- The class patch made for the server `read` applies to the server of the session, and the API
accepts it as the call number `n`. -/
structure ServerPatchAccepted (r : ClassRequest) (x : Session) (options : ServerOptions) (read : Json)
    (n : Nat) : Prop where
  applies : ∃ server', applyOps
    (classPatch options api.config.sessions.enforceCpuLimits r.classId read) x.server = .ok server'
  accepted : r.env.faults n (.patchServer home name
    (.json (classPatch options api.config.sessions.enforceCpuLimits r.classId read))) = none

/-- The statefulset is in the preferred namespace, has a priority class, and the API accepts the
patch as the call number `n`. -/
def StatefulsetPatched (r : ClassRequest) (x : Session) (options : ServerOptions) (n : Nat) : Prop :=
  api.client.preferredNamespace = home ∧
    (∃ sts, x.statefulset = some sts ∧ (sts.dig priorityClassPath).isSome) ∧
    r.env.faults n (.patchStatefulset home name (priorityClassPatch options)) = none

/-- The patch of the statefulset, as the call number `n`, is answered with 404. -/
def StatefulsetMissing (r : ClassRequest) (x : Session) (options : ServerOptions) (n : Nat) : Prop :=
  let fault := r.env.faults n
    (.patchStatefulset api.client.preferredNamespace name (priorityClassPatch options))
  fault = some (.status 404) ∨
    (fault = none ∧ (api.client.preferredNamespace = home → x.statefulset = none))

/-- After the patch of the server, the statefulset follows with the call number `n` and the
response can be made. -/
structure StatefulsetFollows (r : ClassRequest) (x : Session) (options : ServerOptions)
    (read : Json) (n : Nat) : Prop where
  label : options.quota = none → (shownQuota x.server).isSome → (shownQuota read).isSome
  statefulset : StatefulsetPatched api name home r x options n ∨
    (StatefulsetMissing api name home r x options n ∧
      shownPriorityClass x.statefulset = options.quota)
  rendered : ∀ server', applyOps
    (classPatch options api.config.sessions.enforceCpuLimits r.classId read) x.server = .ok server' →
    ∃ body, api.render server' = .ok body

/-- If the request comes to its patch of the server and the API accepts it, the statefulset
follows with the next call. -/
def FollowsUp (r : ClassRequest) (w : World) : Prop :=
  ∀ x read options v, w.cluster.get home name = some x →
    ReachesPatch api user name r w read options v →
    ServerPatchAccepted api name home r x options read v.log.length →
    StatefulsetFollows api name home r x options read (v.log.length + 1)

end Request

section Calls

variable {env : Env} {k : K8sClient} {name home u : String} {c : Cluster} {x : Session}

theorem namespaceOf_mem {server : Json} {ns : String} (h : k.namespaceOf server = .ok ns) :
    ns = k.renkuNs ∨ some ns = k.sessionNs := by
  unfold K8sClient.namespaceOf at h
  split at h
  · exact .inl (Except.ok.inj h).symm
  · split at h
    · next hsession => exact .inr (by rw [hsession, ← Except.ok.inj h])
    · cases h

theorem get_eq_none_of_lives (hlives : Lives k c name home) {ns : String}
    (hns : ns = k.renkuNs ∨ some ns = k.sessionNs) (hne : ns ≠ home) : c.get ns name = none := by
  by_contra hsome
  exact hne (hlives.only ns hns (Option.isSome_iff_ne_none.mpr hsome))

theorem ownNamespace_cluster (purpose : String) : Triple (serve env) (fun w => w.cluster = c)
    (k.ownNamespace name u purpose)
    (fun ns w => (ns = k.renkuNs ∨ some ns = k.sessionNs) ∧ w.cluster = c)
    (fun _ w => w.cluster = c) := by
  apply Triple.bind _ getServer_triple
  rintro (_ | server)
  · exact triple_raise fun w hw => hw.1
  · dsimp only
    split
    · exact triple_ofExcept (fun ns w hns hw => ⟨namespaceOf_mem hns, hw.1⟩) fun e w _ hw => hw.1
    · exact triple_raise fun w hw => hw.1

/-- The patch of a server in a namespace of the client changes the server of the session, if the
API accepts it, or nothing. -/
theorem namespacedPatch_triple (hlives : Lives k c name home) (hget : c.get home name = some x)
    {ns : String} (hns : ns = k.renkuNs ∨ some ns = k.sessionNs) (patch : ServerPatch) {v : World}
    (hv : v.cluster = c) :
    Triple (serve env) (fun w => w = v) (NamespacedK8sClient.patchServer ns name patch)
      (fun server w => patch.applyTo x.server = .ok server ∧
        env.faults v.log.length (.patchServer home name patch) = none ∧
        w.log.length = v.log.length + 1 ∧ ∃ hid, w.cluster = c.set home name { x with server } hid)
      (fun _ w => w.cluster = c) := by
  subst hv
  apply Triple.bind fun reply w => (∀ fault, reply = .error fault → w.cluster = v.cluster) ∧
    ∀ server, reply = .ok server → patch.applyTo x.server = .ok server ∧
      env.faults v.log.length (.patchServer home name patch) = none ∧
      w.log.length = v.log.length + 1 ∧
      ∃ hid, w.cluster = v.cluster.set home name { x with server } hid
  · apply triple_perform
    intro w hw
    rw [hw]
    unfold serve
    cases hfault : env.faults v.log.length (.patchServer ns name patch) with
    | some fault => exact ⟨fun _ _ => rfl, fun server h => nomatch h⟩
    | none =>
      refine ⟨fun fault hreply => Cluster.update_of_error hreply, fun server hreply => ?_⟩
      obtain ⟨x₁, x₂, hid, hget₁, hf, hupdate⟩ := Cluster.exists_of_update_ok hreply
      obtain rfl : ns = home := hlives.only ns hns (by rw [hget₁]; rfl)
      obtain rfl := Option.some.inj (hget.symm.trans hget₁)
      obtain ⟨server', hserver', hf⟩ := Results.bind_eq_ok_iff.mp hf
      cases hf
      exact ⟨hserver', hfault, List.length_append, hid, congrArg Prod.snd hupdate⟩
  · rintro ((n | _) | server)
    · exact triple_raise fun w hw => hw.1 _ rfl
    · exact triple_raise fun w hw => hw.1 _ rfl
    · exact triple_ret fun w hw => hw.2 server rfl

/-- The patch of a server changes the server of the session, or nothing. -/
theorem patchServer_triple (hlives : Lives k c name home) (hget : c.get home name = some x)
    (patch : ServerPatch) : Triple (serve env) (fun w => w.cluster = c) (k.patchServer name u patch)
    (fun server w => patch.applyTo x.server = .ok server ∧
      ∃ hid, w.cluster = c.set home name { x with server } hid)
    (fun _ w => w.cluster = c) := by
  apply Triple.bind _ (ownNamespace_cluster _)
  rintro ns v ⟨hns, hv⟩
  apply (namespacedPatch_triple hlives hget hns patch hv).weaken (fun _ h => h) _ (fun _ _ h => h) v rfl
  exact fun server w h => ⟨h.1, h.2.2.2⟩

/-- A statefulset patch that is answered with 404 changes nothing and raises nothing. -/
theorem patchStatefulset_missing {ns : String} {ops : List PatchOp} {n : Nat}
    (h : env.faults n (.patchStatefulset ns name ops) = some (.status 404) ∨
      (env.faults n (.patchStatefulset ns name ops) = none ∧
        (c.get ns name).bind (·.statefulset) = none)) :
    Triple (serve env) (fun w => w.cluster = c ∧ w.log.length = n)
      (NamespacedK8sClient.patchStatefulset ns name ops) (fun _ w => w.cluster = c)
      (fun _ _ => False) := by
  apply Triple.bind fun reply w => reply = .error (.status 404) ∧ w.cluster = c
  · apply triple_perform
    rintro w ⟨rfl, rfl⟩
    unfold serve
    rcases h with hfault | ⟨hfault, hnone⟩
    · rw [hfault]
      exact ⟨rfl, rfl⟩
    · rw [hfault]
      have hupdate : w.cluster.patchStatefulset ns name ops = (.error (.status 404), w.cluster) := by
        unfold Cluster.patchStatefulset Cluster.update
        rcases hget : w.cluster.get ns name with _ | x
        · rfl
        · rw [hget, Option.bind_some] at hnone
          simp only [hnone]
      exact ⟨congrArg Prod.fst hupdate, congrArg Prod.snd hupdate⟩
  · rintro reply w ⟨rfl, hw⟩
    exact hw

theorem patchStatefulset_patched {sts sts' : Json} {ops : List PatchOp} {n : Nat}
    (hget : c.get home name = some x) (hsts : x.statefulset = some sts)
    (hpatched : Cluster.patchedStatefulset ops sts = .ok sts')
    (hfault : env.faults n (.patchStatefulset home name ops) = none) :
    Triple (serve env) (fun w => w.cluster = c ∧ w.log.length = n)
      (NamespacedK8sClient.patchStatefulset home name ops)
      (fun _ w => ∃ hid, w.cluster = c.set home name { x with statefulset := some sts' } hid)
      (fun _ _ => False) := by
  have hid : Identified home name x.server := Cluster.get_identified hget
  have hupdate : c.patchStatefulset home name ops =
      (.ok (), c.set home name { x with statefulset := some sts' } hid) := by
    apply Cluster.update_of_ok hget
    simp only [hsts, hpatched]
    rfl
  apply Triple.bind fun reply w => reply = .ok () ∧
    w.cluster = c.set home name { x with statefulset := some sts' } hid
  · apply triple_perform
    rintro w ⟨rfl, rfl⟩
    unfold serve
    rw [hfault]
    exact ⟨congrArg Prod.fst hupdate, congrArg Prod.snd hupdate⟩
  · rintro reply w ⟨rfl, hw⟩
    exact ⟨hid, hw⟩

/-- The options that are validated are those of the class. -/
theorem validated_triple (classId : Int) : Triple (serve env) (fun w => w.cluster = c)
    (validated classId) (fun options w => w.cluster = c ∧ env.crc classId = .ok options)
    (fun _ w => w.cluster = c) := by
  apply Triple.bind fun reply w => w.cluster = c ∧
    ∀ options, reply = .ok options → env.crc classId = .ok options
  · apply triple_perform
    intro w hw
    unfold serve
    split
    · exact ⟨hw, fun options h => nomatch h⟩
    · exact ⟨hw, fun options h => h⟩
  · intro reply
    exact triple_ofExcept (fun options w hok hw => ⟨hw.1, hw.2 options hok⟩) fun e w _ hw => hw.1

end Calls

/-! ### A request that follows up -/

section Step

variable {api : Api} {name home : String} {r : ClassRequest} {w : World} {x : Session}

theorem Lives.set {k : K8sClient} {c : Cluster} (h : Lives k c name home) {s : Session}
    (hid : Identified home name s.server) : Lives k (c.set home name s hid) name home := by
  refine ⟨by rw [Cluster.get_set]; rfl, fun ns hns hsome => ?_⟩
  by_contra hne
  rw [Cluster.get_set_of_ne _ _ _ fun he => hne (congrArg Prod.fst he)] at hsome
  exact hne (h.only ns hns hsome)

theorem preferredNamespace_mem (k : K8sClient) :
    k.preferredNamespace = k.renkuNs ∨ some k.preferredNamespace = k.sessionNs := by
  unfold K8sClient.preferredNamespace
  cases k.sessionNs with
  | none => exact .inl rfl
  | some ns => exact .inr rfl

/-- The session of the name shows the class that the request asks for, and the server that the
response shows can be rendered. -/
def Changed (api : Api) (name home : String) (r : ClassRequest) (shown : Json) (w : World) : Prop :=
  (∃ body, api.render shown = .ok body) ∧ Lives api.client w.cluster name home ∧
    ∃ x options, w.cluster.get home name = some x ∧ r.env.crc r.classId = .ok options ∧
      HasClass api.config.sessions.enforceCpuLimits options r.classId x

/-- The patch of the statefulset, once the server has been patched. -/
theorem statefulset_triple {c : Cluster} {options : ServerOptions} {server' read : Json} {n : Nat}
    (hid : Identified home name server') (hlives : Lives api.client c name home)
    (hknown : r.env.crc r.classId = .ok options)
    (hserver : applyOps
      (classPatch options api.config.sessions.enforceCpuLimits r.classId read) x.server = .ok server')
    (hfollows : StatefulsetFollows api name home r x options read n) :
    Triple (serve r.env)
      (fun v => v.cluster = c.set home name { x with server := server' } hid ∧ v.log.length = n)
      (api.client.patchStatefulset name (priorityClassPatch options))
      (fun _ => Changed api name home r server') (fun _ _ => False) := by
  obtain ⟨hresources, hannotation, hquota⟩ := classPatch_spec hserver hfollows.label
  have hget := c.get_set home name { x with server := server' } hid
  have hlives' : Lives api.client (c.set home name { x with server := server' } hid) name home :=
    hlives.set hid
  have hrender := hfollows.rendered server' hserver
  rcases hfollows.statefulset with ⟨hhome, ⟨sts, hsts, hold⟩, hfault⟩ | ⟨hmissing, hsame⟩
  · obtain ⟨sts', hsts'⟩ := patchedStatefulset_isOk options hold
    unfold K8sClient.patchStatefulset
    rw [hhome]
    apply (patchStatefulset_patched hget hsts hsts' hfault).weaken (fun _ h => h)
    · rintro _ v ⟨hid', hv⟩
      rw [Changed, hv]
      refine ⟨hrender, hlives'.set hid', _, options, Cluster.get_set _ _ _ _ _, hknown, ?_⟩
      exact ⟨hresources, hannotation, hquota, patchedStatefulset_spec hsts'⟩
    · exact fun _ _ h => h
  · have hnone : r.env.faults n (.patchStatefulset api.client.preferredNamespace name
          (priorityClassPatch options)) = some (.status 404) ∨
        (r.env.faults n (.patchStatefulset api.client.preferredNamespace name
          (priorityClassPatch options)) = none ∧
          ((c.set home name { x with server := server' } hid).get
            api.client.preferredNamespace name).bind (·.statefulset) = none) := by
      rcases hmissing with hfault | ⟨hfault, hmissing⟩
      · exact .inl hfault
      · refine .inr ⟨hfault, ?_⟩
        by_cases hhome : api.client.preferredNamespace = home
        · rw [hhome, hget]
          exact hmissing hhome
        · rw [get_eq_none_of_lives hlives' (preferredNamespace_mem api.client) hhome]
          rfl
    apply (patchStatefulset_missing hnone).weaken (fun _ h => h)
    · rintro _ v hv
      rw [Changed, hv]
      exact ⟨hrender, hlives', _, options, hget, hknown, ⟨hresources, hannotation, hquota, hsame⟩⟩
    · exact fun _ _ h => h

/-- The change of the class, once the server has been found. -/
theorem changeClass_triple {u : RegisteredUser} {read : Json} {w₁ : World}
    (hlives : Lives api.client w.cluster name home) (hget : w.cluster.get home name = some x)
    (hvolumes : api.config.sessions.storage.pvsEnabled = true)
    (hfound : execute r.env (api.client.getServer name u.safeUsername) w = (.ok (some read), w₁))
    (hw₁ : w₁.cluster = w.cluster)
    (hchangeable : currentlyHibernated read = true ∨ currentlyFailing read)
    (hfollows : FollowsUp api (.registered u) name home r w) :
    Triple (serve r.env) (fun v => v = w₁) (api.changeClass u name r.classId read)
      (Changed api name home r) (fun _ v => v.cluster = w.cluster) := by
  have hvalidated := (@triple_run _ _ _ _ _ (serve r.env) (validated r.classId) w₁).and
    (@validated_triple r.env w.cluster r.classId)
  have hprogram : api.changeClass u name r.classId read = (validated r.classId).bind fun options =>
      (api.client.ownNamespace name u.safeUsername " in order to patch it.").bind fun ns =>
        (NamespacedK8sClient.patchServer ns name (.json
          (classPatch options api.config.sessions.enforceCpuLimits r.classId read))).bind fun server =>
            (api.client.patchStatefulset name (priorityClassPatch options)).bind fun _ =>
              .ret server := by
    rw [validated, bind_eq, bind_assoc]
    unfold Api.changeClass K8sClient.patchServer
    simp only [bind_eq, bind_assoc]
    rfl
  rw [hprogram]
  apply Triple.bind _ (hvalidated.weaken (fun v hv => ⟨hv, hv ▸ hw₁⟩) (fun _ _ h => h)
    fun _ _ h => h.2)
  rintro options w₂ ⟨hvalid, hw₂, hknown⟩
  have howned := (@triple_run _ _ _ _ _ (serve r.env) (api.client.ownNamespace name u.safeUsername
    " in order to patch it.") w₂).and (@ownNamespace_cluster r.env api.client name
      u.safeUsername w.cluster " in order to patch it.")
  refine Triple.bind _ (howned.weaken (fun v hv => ⟨hv, hv ▸ hw₂⟩) (fun _ _ h => h)
    fun _ _ h => h.2) ?_ w₂ rfl
  rintro ns v ⟨howned, hns, hv⟩
  refine Triple.bind _ (namespacedPatch_triple hlives hget hns _ hv) ?_ v rfl
  rintro server' v' ⟨happly, haccepted, hlength, hid, hv'⟩
  have hserver : applyOps (classPatch options api.config.sessions.enforceCpuLimits r.classId read)
      x.server = .ok server' := applyOps_of_applyTo happly
  have hfollow := hfollows x read options v hget
    (.intro hvolumes rfl hfound hchangeable hvalid howned) ⟨⟨server', hserver⟩, haccepted⟩
  have hstatefulset := statefulset_triple hid hlives hknown hserver hfollow
  have hpatched : Triple (serve r.env) _ _ (fun _ => Changed api name home r server')
      (fun _ v => v.cluster = w.cluster) :=
    hstatefulset.weaken (fun _ h => h) (fun _ _ h => h) fun _ _ h => h.elim
  exact (hpatched.bind _ fun _ => triple_ret fun v hv => hv) v' ⟨hv', hlength⟩

/-- A request whose statefulset follows its server changes the class atomically, and the session
stays in its namespace. -/
theorem request_triple (user : User) (hlives : Lives api.client w.cluster name home)
    (hfollows : FollowsUp api user name home r w) :
    Triple (serve r.env) (fun v => v = w)
      (api.handle user (.patchServer name { resourceClassId := some r.classId }))
      (fun _ v => ∃ shown, Changed api name home r shown v) (fun _ v => v.cluster = w.cluster) := by
  obtain ⟨x, hget⟩ := Option.isSome_iff_exists.mp hlives.here
  have hsame : ∀ v, v = w → v.cluster = w.cluster := fun v hv => congrArg World.cluster hv
  dsimp only [Api.handle, Api.patchServer]
  split
  · exact triple_raise hsame
  · next hvolumes =>
    cases user with
    | anonymous u => exact triple_raise hsame
    | registered u =>
      have hfound := (@triple_run _ _ _ _ _ (serve r.env) (api.client.getServer name
        u.safeUsername) w).and (@getServer_triple r.env api.client w.cluster name u.safeUsername)
      apply Triple.bind _ (hfound.weaken (fun v hv => ⟨hv, hsame v hv⟩) (fun _ _ h => h)
        fun _ _ h => h.2)
      rintro (_ | read)
      · exact triple_raise fun v hv => hv.2.1
      · dsimp only
        split
        · exact triple_raise fun v hv => hv.2.1
        · next hguard =>
          rintro v ⟨hread, hv, hseen⟩
          have hchangeable : currentlyHibernated read = true ∨ currentlyFailing read := by
            obtain ⟨ns, hid⟩ := (hseen read rfl).1.identified
            by_contra hnot
            exact hguard ⟨hid.truthy, hnot, rfl⟩
          have hchange := changeClass_triple hlives hget (Bool.eq_true_of_not_eq_false hvolumes) hread
            hv hchangeable hfollows
          have hrest : ∀ newServer, Triple (serve r.env) (Changed api name home r newServer)
              ((api.changeState u name read newServer none).bind fun shown => api.rendered shown)
              (fun _ v => ∃ shown, Changed api name home r shown v)
              (fun _ v => v.cluster = w.cluster) := by
            intro newServer
            apply Triple.bind fun shown => Changed api name home r shown
            · exact triple_ret fun v hv => hv
            · intro shown
              apply Triple.bind fun _ v => ∃ shown, Changed api name home r shown v
              · apply triple_ofExcept
                · exact fun body v _ hv => ⟨shown, hv⟩
                · intro e v he hv
                  obtain ⟨body, hbody⟩ := hv.1
                  rw [he] at hbody
                  cases hbody
              · exact fun body => triple_ret fun v hv => hv
          exact (hchange.bind _ hrest) v rfl

theorem changesAtomically_of_followsUp (user : User) (hlives : Lives api.client w.cluster name home)
    (hfollows : FollowsUp api user name home r w) :
    ChangesAtomically api user name home r w ∧
      Lives api.client (r.perform api user name w).2.cluster name home := by
  have hout := request_triple user hlives hfollows w rfl
  unfold ChangesAtomically ClassRequest.perform execute
  rcases hrun : run (serve r.env) (api.handle user (.patchServer name
      { resourceClassId := some r.classId })) w with ⟨e | response, w'⟩ <;> rw [hrun] at hout
  · have hcluster : w'.cluster = w.cluster := hout
    refine ⟨fun x hget => ⟨x, by rw [hcluster, hget], .inr ⟨⟨e, rfl⟩, rfl, rfl, rfl, rfl⟩⟩, ?_⟩
    rw [hcluster]
    exact hlives
  · obtain ⟨shown, -, hlives', x', options, hget', hknown, hclass⟩ := hout
    exact ⟨fun x hget => ⟨x', hget', .inl ⟨response, options, rfl, hknown, hclass⟩⟩, hlives'⟩

/-- In a run of class changes in which the statefulset follows every patch of the server, every
change is atomic. -/
theorem classChanges_atomic (user : User) {requests : List ClassRequest}
    (hlives : Lives api.client w.cluster name home)
    (hfollows : Runs.Along (fun r w => (r.perform api user name w).2) (FollowsUp api user name home)
      requests w) :
    Runs.Along (fun r w => (r.perform api user name w).2) (ChangesAtomically api user name home)
      requests w :=
  Runs.Along.of_step (I := fun w => Lives api.client w.cluster name home)
    (fun _ _ hlives hfollows => changesAtomically_of_followsUp user hlives hfollows) hlives hfollows

end Step

/-! ### Sessions with and without a quota -/

def sampleOptions (priorityClass : Option String) : ServerOptions where
  cpu := 1
  memory := 1000000000
  gpu := 0
  storage := 1000000000
  defaultUrl := "/lab"
  lfsAutoFetch := false
  priorityClass
  nodeAffinities := []
  tolerations := []
  resourceClassId := none
  idleThresholdSeconds := none
  hibernationThresholdSeconds := none

/-- A request for a class with this quota, in a calm environment. -/
def sampleRequest (classId : { n : Int // 0 < n }) (priorityClass : Option String) : ClassRequest where
  env := { calmEnv with crc := fun _ => .ok (sampleOptions priorityClass) }
  classId

/-- A hibernated session of class 1 as it was created with this quota. -/
def hibernatedSession (priorityClass : Option String) : Session where
  server := .obj [
    ("metadata", .obj [
      ("name", "jane-1"), ("namespace", "renku"),
      ("labels", .obj [(usernameLabel, "jane"), ("renku.io/quota", optStr priorityClass)]),
      ("annotations", .obj [("renku.io/resourceClassId", "1")])]),
    ("spec", .obj [("jupyterServer", .obj [
      ("resources", (sampleOptions priorityClass).toK8sResources .off), ("hibernated", true)])])]
  statefulset := some (.obj [("spec", .obj [("template", .obj [("spec", .obj
    ([("containers", .arr [])] ++
      priorityClass.elim [] fun p => [("priorityClassName", .str p)]))])])])
  imageSecret := none
  podLogs := fun _ => .error 404

theorem hibernatedSession_identified (priorityClass : Option String) :
    Identified "renku" "jane-1" (hibernatedSession priorityClass).server :=
  ⟨rfl, rfl⟩

def hibernatedWorld (priorityClass : Option String) : World where
  cluster := Cluster.empty.set "renku" "jane-1" (hibernatedSession priorityClass)
    (hibernatedSession_identified priorityClass)
  log := []

/-- In a calm environment, a statefulset with a priority class follows to a class with a quota. -/
theorem sampleRequest_followsUp {classId : { n : Int // 0 < n }} {quota : String} (hquota : quota ≠ "")
    {w : World} (sts : Json)
    (hsts : ((w.cluster.get "renku" "jane-1").bind (·.statefulset)) = some sts)
    (hold : (sts.dig priorityClassPath).isSome) :
    FollowsUp (sampleApi none) (.registered sampleUser) "jane-1" "renku"
      (sampleRequest classId (some quota)) w := by
  rintro x read options v hget ⟨-, -, -, -, hknown, -⟩ -
  obtain rfl : sampleOptions (some quota) = options := by
    have hvalid := (@validated_triple (sampleRequest classId (some quota)).env _ classId).value
      rfl hknown
    exact Except.ok.inj hvalid.2
  rw [hget, Option.bind_some] at hsts
  refine ⟨fun hnone => ?_, .inl ⟨rfl, ⟨sts, hsts, hold⟩, rfl⟩, fun server' _ => ⟨server', rfl⟩⟩
  simp [ServerOptions.quota, sampleOptions, optStr, Option.filter, Json.truthy, hquota] at hnone

theorem hibernatedWorld_changes_atomic :
    Runs.Along (fun r w => (r.perform (sampleApi none) (.registered sampleUser) "jane-1" w).2)
      (ChangesAtomically (sampleApi none) (.registered sampleUser) "jane-1" "renku")
      [sampleRequest ⟨2, by decide⟩ (some "gold"), sampleRequest ⟨3, by decide⟩ (some "silver")]
      (hibernatedWorld (some "basic")) := by
  apply classChanges_atomic (.registered sampleUser) (lives_single _ (hibernatedSession_identified _))
  refine ⟨sampleRequest_followsUp (by decide) _ rfl (by decide), ?_, trivial⟩
  exact sampleRequest_followsUp (by decide) (.obj [("spec", .obj [("template", .obj [("spec", .obj [
    ("containers", .arr []), ("priorityClassName", "gold")])])])]) (by decide +kernel) (by decide)

/-- A session that was created without a quota gets the resources of the new class, but the
request fails because its statefulset has no priority class to replace. -/
theorem quotaless_change_not_atomic :
    ¬Runs.Along (fun r w => (r.perform (sampleApi none) (.registered sampleUser) "jane-1" w).2)
      (ChangesAtomically (sampleApi none) (.registered sampleUser) "jane-1" "renku")
      [sampleRequest ⟨2, by decide⟩ none] (hibernatedWorld none) := by
  rintro ⟨hatomic, -⟩
  obtain ⟨x', hget', hresult⟩ := hatomic (hibernatedSession none) rfl
  have herror : ((sampleRequest ⟨2, by decide⟩ none).perform (sampleApi none)
      (.registered sampleUser) "jane-1" (hibernatedWorld none)).1.toOption.isNone := by
    decide +kernel
  have hannotation : ((((sampleRequest ⟨2, by decide⟩ none).perform (sampleApi none)
      (.registered sampleUser) "jane-1" (hibernatedWorld none)).2.cluster.get "renku" "jane-1").bind
        fun x => x.server.dig classIdPath) = some "2" := by decide +kernel
  rcases hresult with ⟨response, options, hok, -, -⟩ | ⟨-, hsame⟩
  · rw [hok] at herror
    cases herror
  · rw [hget', Option.bind_some, hsame.annotation] at hannotation
    exact absurd hannotation (by decide)

end RenkuNotebooks.Notebooks
