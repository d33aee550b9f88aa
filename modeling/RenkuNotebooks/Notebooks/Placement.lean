import RenkuNotebooks.Foundation.Results
import RenkuNotebooks.Notebooks.Isolation

/-!
# Where writes go

The writes of the client to a session of the user, in a cluster where its name is in at most one
of the two namespaces. Patches of the server and deletions follow the server; patches of the
statefulset and of the tokens go to the preferred namespace.
-/

namespace RenkuNotebooks.Notebooks

open Prog

inductive Write where
  | patchServer (patch : ServerPatch)
  | patchStatefulset (ops : List PatchOp)
  | patchTokens (renkuTokens : RenkuTokens) (gitlabToken : GitlabToken)
  | deleteServer (forced : Bool)

def Api.write (api : Api) (name safeUsername : String) : Write → Service Unit
  | .patchServer patch => do
    let _ ← api.client.patchServer name safeUsername patch
  | .patchStatefulset ops => api.client.patchStatefulset name ops
  | .patchTokens renkuTokens gitlabToken =>
    api.client.patchTokens api.decode api.py name renkuTokens gitlabToken
  | .deleteServer forced => api.client.deleteServer name safeUsername forced

/-- From the `n`-th on, all calls that address objects of a session are in this namespace. -/
def ActsIn (ns : String) (n : Nat) (w : World) : Prop :=
  ∀ c ∈ w.log.drop n, ∀ ns' name, c.object? = some (ns', name) → ns' = ns

def registeredTokens (user : RegisteredUser) : RenkuTokens :=
  { accessToken := user.accessToken, refreshToken := user.refreshToken }

/-- The statefulset with the tokens of the user. -/
def withTokens (tokens : RenkuTokens) (sts : Json) : Option Json :=
  match NamespacedK8sClient.getStatefulsetTokenPatches sts tokens with
  | .error _ => none
  | .ok [] => some sts
  | .ok ops => (Cluster.patchedStatefulset ops sts).toOption

/-- A session of this name in this namespace has this statefulset. -/
def HasStatefulset (ns name : String) (sts : Json) (w : World) : Prop :=
  ∃ x, w.cluster.get ns name = some x ∧ x.statefulset = some sts

/-- Every write goes to the namespace of the session, and resuming the session puts the tokens
into its statefulset. -/
structure WritesFollow (api : Api) (env : Env) (user : RegisteredUser) (name ns : String)
    (w : World) : Prop where
  acts : ∀ write, ActsIn ns w.log.length
    (execute env (api.write name user.safeUsername write) w).2
  resumes : ∀ sts, HasStatefulset ns name sts w →
    (execute env (api.handle (.registered user) (.patchServer name { state := some .running }))
      w).1.toOption.isSome →
    ∃ sts', withTokens (registeredTokens user) sts = some sts' ∧
      HasStatefulset ns name sts' (execute env (api.handle (.registered user)
        (.patchServer name { state := some .running })) w).2

section Placement

variable {env : Env} {api : Api} {user : RegisteredUser} {name ns u : String}

/-! ### Calls in one namespace -/

def Call.InNamespace (ns : String) (c : Call) : Prop :=
  ∀ ns' name, c.object? = some (ns', name) → ns' = ns

theorem actsIn_start (w : World) : ActsIn ns w.log.length w := by
  intro c hc
  simp at hc

theorem ActsIn.serve {n : Nat} {w : World} {c : Call} (h : ActsIn ns n w) (hc : c.InNamespace ns) :
    ActsIn ns n (serve env c w).2 := by
  intro c' hc'
  rw [serve_log, List.drop_append] at hc'
  rcases List.mem_append.mp hc' with hc' | hc'
  · exact h c' hc'
  · rw [List.mem_singleton.mp (List.mem_of_mem_drop hc')]
    exact hc

theorem Calls.actsIn {α : Type} {p : Service α} (h : p.Calls (Call.InNamespace ns)) (n : Nat) :
    Triple (serve env) (ActsIn ns n) p (fun _ => ActsIn ns n) (fun _ => ActsIn ns n) :=
  h.triple fun _ _ hc hw => hw.serve hc

theorem Call.LooksUp.inNamespace {c : Call} (h : c.LooksUp name) : c.InNamespace ns := by
  intro ns' n hobject
  cases c <;> first | exact h.elim | cases hobject

theorem inNamespace_of_object {c : Call} {n : String} (h : c.object? = some (ns, n)) :
    c.InNamespace ns := by
  intro ns' n' h'
  rw [h] at h'
  exact (congrArg Prod.fst (Option.some.inj h')).symm

/-! ### The namespace of a server -/

/-- In the namespaces of the client, the name is only in `ns`. -/
structure Lives (k : K8sClient) (c : Cluster) (name ns : String) : Prop where
  here : (c.get ns name).isSome
  only : ∀ ns', ns' = k.renkuNs ∨ some ns' = k.sessionNs → (c.get ns' name).isSome → ns' = ns

/-- A server that is found leads to the preferred namespace, if the session lives there. -/
theorem namespaceOf_eq {k : K8sClient} {c : Cluster} (hlives : Lives k c name ns)
    (hpreferred : k.preferredNamespace = ns) {x : Session} {ns₀ ns' : String}
    (hget : c.get ns₀ name = some x) (h : k.namespaceOf x.server = .ok ns') : ns' = ns := by
  unfold K8sClient.namespaceOf at h
  split at h
  · next hrenku =>
    obtain rfl := Except.ok.inj h
    have hns₀ : ns₀ = k.renkuNs := by
      rw [(Cluster.get_identified hget).2] at hrenku
      exact Json.str.inj (Option.some.inj hrenku)
    exact hlives.only k.renkuNs (.inl rfl) (by rw [← hns₀, hget]; rfl)
  · cases hsession : k.sessionNs with
    | none =>
      rw [hsession] at h
      cases h
    | some ns₁ =>
      rw [hsession] at h
      rw [← Except.ok.inj h, ← hpreferred, K8sClient.preferredNamespace, hsession]
      rfl

theorem ownNamespace_triple {k : K8sClient} {c : Cluster} {purpose : String}
    (hview : env.cacheView = id) (hlives : Lives k c name ns)
    (hpreferred : k.preferredNamespace = ns) :
    Triple (serve env) (fun w => w.cluster = c) (k.ownNamespace name u purpose)
      (fun ns' w => ns' = ns ∧ w.cluster = c) (fun _ w => w.cluster = c) := by
  apply Triple.bind _ getServer_triple
  rintro (_ | server)
  · exact triple_raise fun w hw => hw.1
  · dsimp only
    split
    · apply triple_ofExcept
      · rintro ns' w hns' ⟨hw, hfound⟩
        obtain ⟨⟨ns₀, x, hget, rfl⟩, -⟩ := hfound server rfl
        rw [hview, id_eq, or_self] at hget
        exact ⟨namespaceOf_eq hlives hpreferred hget hns', hw⟩
      · exact fun e w _ hw => hw.1
    · exact triple_raise fun w hw => hw.1

/-! ### Writes -/

/-- An operation that first looks for the namespace of the server acts in that namespace. -/
theorem actsIn_of_ownNamespace {α : Type} {k : K8sClient} {c : Cluster} {purpose : String} {n : Nat}
    {f : String → Service α} (hview : env.cacheView = id) (hlives : Lives k c name ns)
    (hpreferred : k.preferredNamespace = ns) (hf : (f ns).Calls (Call.InNamespace ns)) :
    Triple (serve env) (fun w => w.cluster = c ∧ ActsIn ns n w)
      ((k.ownNamespace name u purpose).bind f) (fun _ => ActsIn ns n) (fun _ => ActsIn ns n) := by
  have hlookup : (k.ownNamespace name u purpose).Calls (Call.InNamespace ns) :=
    K8sClient.calls_ownNamespace fun c hc => hc.inNamespace
  have hacts : Triple (serve env) (ActsIn ns n) _ _ _ := Calls.actsIn hlookup n
  have hboth := (ownNamespace_triple hview hlives hpreferred).and hacts
  apply Triple.bind _ (hboth.weaken (fun w hw => hw) (fun _ _ h => h) fun _ _ h => h.2)
  intro ns' w hw
  obtain ⟨⟨rfl, -⟩, hw⟩ := hw
  exact Calls.actsIn hf n w hw

theorem write_actsIn (hview : env.cacheView = id) {w : World}
    (hlives : Lives api.client w.cluster name ns) (hpreferred : api.client.preferredNamespace = ns)
    (write : Write) : ActsIn ns w.log.length (execute env (api.write name u write) w).2 := by
  have hstart : ActsIn ns w.log.length w := actsIn_start w
  cases write with
  | patchServer patch =>
    have hcalls : ∀ ns', (NamespacedK8sClient.patchServer ns' name patch).Calls
        (Call.InNamespace ns') :=
      fun ns' => NamespacedK8sClient.calls_patchServer (inNamespace_of_object rfl)
    have hwrite : Triple (serve env) (fun v => v.cluster = w.cluster ∧ ActsIn ns w.log.length v)
        (api.write name u (.patchServer patch)) (fun _ => ActsIn ns w.log.length)
        (fun _ => ActsIn ns w.log.length) := by
      apply Triple.bind _ (actsIn_of_ownNamespace hview hlives hpreferred (hcalls ns))
      exact fun _ => triple_ret fun w hw => hw
    exact hwrite.state ⟨rfl, hstart⟩
  | patchStatefulset ops =>
    have hcalls : (api.write name u (.patchStatefulset ops)).Calls (Call.InNamespace ns) := by
      apply NamespacedK8sClient.calls_patchStatefulset
      rw [hpreferred]
      exact inNamespace_of_object rfl
    exact (Calls.actsIn hcalls _).state hstart
  | patchTokens renkuTokens gitlabToken =>
    have hcalls : (api.write name u (.patchTokens renkuTokens gitlabToken)).Calls
        (Call.InNamespace ns) := by
      apply K8sClient.calls_patchTokens
      intro c _ hobject
      rw [hpreferred] at hobject
      exact inNamespace_of_object hobject
    exact (Calls.actsIn hcalls _).state hstart
  | deleteServer forced =>
    have hcalls : ∀ ns', (NamespacedK8sClient.deleteServer ns' name forced).Calls
        (Call.InNamespace ns') :=
      fun ns' => NamespacedK8sClient.calls_deleteServer (inNamespace_of_object rfl)
    exact (actsIn_of_ownNamespace hview hlives hpreferred (hcalls ns)).state ⟨rfl, hstart⟩

/-- A patch of the statefulset shows which namespace is the preferred one. -/
theorem preferredNamespace_eq_of_actsIn {w : World}
    (h : ActsIn ns w.log.length (execute env (api.write name u (.patchStatefulset [])) w).2) :
    api.client.preferredNamespace = ns := by
  have hlog : (execute env (api.write name u (.patchStatefulset [])) w).2.log =
      w.log ++ [.patchStatefulset api.client.preferredNamespace name []] := by
    rw [← serve_log]
    exact congrArg World.log (Calls.state_eq (calls_exceptApi calls_ret calls_ignoreMissing) _)
  apply h (.patchStatefulset api.client.preferredNamespace name []) _ _ name rfl
  rw [hlog]
  simp

/-! ### Resuming -/

/-- Whether the call leaves all statefulsets as they are. -/
def Call.KeepsStatefulset : Call → Prop
  | .patchStatefulset _ _ _ => False
  | .deleteServer _ _ _ => False
  | .createServer _ _ _ => False
  | _ => True

theorem HasStatefulset.update {α : Type} {sts : Json} {w : World} (h : HasStatefulset ns name sts w)
    {ns' name' : String} {f : Session → Except Fault (α × Session)}
    (hf : ∀ s a s', f s = .ok (a, s') → s'.statefulset = s.statefulset) (log : List Call) :
    HasStatefulset ns name sts ⟨(w.cluster.update ns' name' f).2, log⟩ := by
  obtain ⟨x, hget, hsts⟩ := h
  unfold Cluster.update
  split
  · exact ⟨x, hget, hsts⟩
  · next s hs =>
    split
    · exact ⟨x, hget, hsts⟩
    · next a s' hok =>
      split
      · next hid =>
        by_cases hplace : (ns, name) = (ns', name')
        · obtain ⟨rfl, rfl⟩ := Prod.mk.inj hplace
          refine ⟨s', w.cluster.get_set ns name s' hid, ?_⟩
          rw [hs] at hget
          rw [hf s a s' hok, Option.some.inj hget, hsts]
        · exact ⟨x, by rw [w.cluster.get_set_of_ne s' hid hplace, hget], hsts⟩
      · exact ⟨x, hget, hsts⟩

theorem HasStatefulset.serve {sts : Json} {w : World} (h : HasStatefulset ns name sts w) {c : Call}
    (hc : c.KeepsStatefulset) : HasStatefulset ns name sts (serve env c w).2 := by
  unfold Notebooks.serve
  split
  · exact h
  · cases c with
    | patchServer ns' name' patch =>
      apply h.update
      intro s a s' hs
      obtain ⟨server, -, hs⟩ := Results.bind_eq_ok_iff.mp hs
      cases hs
      rfl
    | patchImageSecret ns' name' ops =>
      apply h.update
      intro s a s' hs
      split at hs
      · cases hs
      · split at hs
        · cases hs
        · cases hs
          rfl
    | patchStatefulset ns' name' ops => exact hc.elim
    | deleteServer ns' name' forced => exact hc.elim
    | createServer ns' name' manifest => exact hc.elim
    | _ => exact h

theorem Calls.hasStatefulset {α : Type} {p : Service α} (h : p.Calls Call.KeepsStatefulset)
    (sts : Json) : Triple (Notebooks.serve env) (HasStatefulset ns name sts) p
      (fun _ => HasStatefulset ns name sts) (fun _ => HasStatefulset ns name sts) :=
  h.triple fun _ _ hc hw => hw.serve hc

/-- A statefulset patch that succeeds has been applied. -/
theorem serve_patchStatefulset {sts : Json} {w : World} (h : HasStatefulset ns name sts w)
    {ops : List PatchOp} (hok : (serve env (.patchStatefulset ns name ops) w).1 = .ok ()) :
    ∃ sts', Cluster.patchedStatefulset ops sts = .ok sts' ∧
      HasStatefulset ns name sts' (serve env (.patchStatefulset ns name ops) w).2 := by
  obtain ⟨x, hget, hsts⟩ := h
  unfold Notebooks.serve at hok ⊢
  split at hok
  · cases hok
  · obtain ⟨x₁, x₂, hid, hget₁, hf, hupdate⟩ := Cluster.exists_of_update_ok hok
    obtain rfl := Option.some.inj (hget.symm.trans hget₁)
    rw [hsts] at hf
    obtain ⟨sts', hsts', hf⟩ := Results.bind_eq_ok_iff.mp hf
    refine ⟨sts', hsts', x₂, ?_, ?_⟩
    · simp only [answer, Cluster.patchStatefulset, hupdate, Cluster.get_set]
    · cases hf
      rfl

theorem patchStatefulsetTokens_triple {sts : Json} {tokens : RenkuTokens}
    (hhonest : ∀ n, env.faults n (.readStatefulset ns name) ≠ some (.status 404)) :
    Triple (serve env) (HasStatefulset ns name sts)
      (NamespacedK8sClient.patchStatefulsetTokens ns name tokens)
      (fun _ w => ∃ sts', withTokens tokens sts = some sts' ∧ HasStatefulset ns name sts' w)
      (fun _ _ => True) := by
  apply Triple.bind fun reply w => HasStatefulset ns name sts w ∧
    (reply = .ok sts ∨ ∃ fault, reply = .error fault ∧ fault ≠ .status 404)
  · refine triple_perform fun w hw => ⟨hw.serve trivial, ?_⟩
    obtain ⟨x, hget, hsts⟩ := hw
    unfold Notebooks.serve
    cases hfault : env.faults w.log.length (.readStatefulset ns name) with
    | some fault =>
      refine .inr ⟨fault, rfl, ?_⟩
      rintro rfl
      exact hhonest _ hfault
    | none =>
      left
      simp only [answer, hget, Option.bind_some, hsts]
      rfl
  · intro reply w hw
    obtain ⟨hw, rfl | ⟨fault, rfl, hne⟩⟩ := hw
    · revert w
      apply Triple.bind fun patches w => HasStatefulset ns name sts w ∧
        NamespacedK8sClient.getStatefulsetTokenPatches sts tokens = .ok patches
      · exact triple_ofExcept (fun patches w hpatches hw => ⟨hw, hpatches⟩) fun e w _ hw => trivial
      · intro patches
        cases patches with
        | nil =>
          refine triple_ret fun w hw => ⟨sts, ?_, hw.1⟩
          rw [withTokens, hw.2]
        | cons op ops =>
          simp only [List.isEmpty_cons, Bool.false_eq_true, if_false]
          apply Triple.bind fun reply w => reply = .ok () →
            ∃ sts', withTokens tokens sts = some sts' ∧ HasStatefulset ns name sts' w
          · refine triple_perform fun w hw hreply => ?_
            obtain ⟨sts', hsts', hw'⟩ := serve_patchStatefulset hw.1 hreply
            refine ⟨sts', ?_, hw'⟩
            rw [withTokens, hw.2]
            exact congrArg Except.toOption hsts'
          · rintro ((n | _) | _)
            · exact triple_raise fun _ _ => trivial
            · exact triple_raise fun _ _ => trivial
            · exact triple_ret fun w hw => hw rfl
    · cases fault with
      | status n =>
        have hn : n ≠ 404 := fun he => hne (by rw [he])
        simp only [exceptApi, ignoreMissing, hn, if_false]
        exact trivial
      | unreachable => exact trivial

/-- A request to resume a session that succeeds has put the tokens into its statefulset. -/
theorem resume_triple (api : Api) (user : RegisteredUser) {sts : Json}
    (hpreferred : api.client.preferredNamespace = ns)
    (hhonest : ∀ n, env.faults n (.readStatefulset ns name) ≠ some (.status 404)) :
    Triple (serve env) (HasStatefulset ns name sts)
      (api.handle (.registered user) (.patchServer name { state := some .running }))
      (fun _ w => ∃ sts', withTokens (registeredTokens user) sts = some sts' ∧
        HasStatefulset ns name sts' w)
      (fun _ _ => True) := by
  have hkeep : ∀ c : Call, c.LooksUp name → c.KeepsStatefulset := by
    intro c hc
    cases c <;> trivial
  have hrest : ∀ {α : Type} {p : Service α}, p.Calls Call.KeepsStatefulset →
      Triple (serve env)
        (fun w => ∃ sts', withTokens (registeredTokens user) sts = some sts' ∧
          HasStatefulset ns name sts' w) p
        (fun _ w => ∃ sts', withTokens (registeredTokens user) sts = some sts' ∧
          HasStatefulset ns name sts' w)
        (fun _ _ => True) := by
    intro α p hp w hw
    obtain ⟨sts', hsts', hw⟩ := hw
    exact (Calls.hasStatefulset hp sts').weaken (fun _ h => h) (fun _ w h => ⟨sts', hsts', h⟩)
      (fun _ _ _ => trivial) w hw
  dsimp only [Api.handle, Api.patchServer]
  split
  · exact triple_raise fun _ _ => trivial
  · have hlookup : (api.client.getServer name user.safeUsername).Calls Call.KeepsStatefulset :=
      K8sClient.calls_getServer hkeep
    apply Triple.bind _ ((Calls.hasStatefulset hlookup sts).weaken (fun _ h => h) (fun _ _ h => h)
      fun _ _ _ => trivial)
    rintro (_ | server)
    · exact triple_raise fun _ _ => trivial
    · simp only [Option.isSome_none, Bool.false_eq_true, and_false, if_false]
      apply Triple.bind fun _ => HasStatefulset ns name sts
      · exact triple_ret fun w hw => hw
      · intro newServer
        apply Triple.bind fun _ w => ∃ sts', withTokens (registeredTokens user) sts = some sts' ∧
          HasStatefulset ns name sts' w
        · apply Triple.bind fun _ w => ∃ sts', withTokens (registeredTokens user) sts = some sts' ∧
            HasStatefulset ns name sts' w
          · unfold K8sClient.patchTokens
            rw [hpreferred]
            apply Triple.bind _ (patchStatefulsetTokens_triple hhonest)
            exact fun _ => hrest (NamespacedK8sClient.calls_patchImagePullSecret trivial
              fun _ => trivial)
          · exact fun _ => hrest (K8sClient.calls_patchServer hkeep fun _ => trivial)
        · exact fun shown => hrest (Calls.bind (calls_ofExcept _) fun body => trivial)

/-- Writes follow the session exactly if it lives in the preferred namespace. -/
theorem writesFollow_iff_preferredNamespace (hview : env.cacheView = id)
    (hhonest : ∀ n, env.faults n (.readStatefulset ns name) ≠ some (.status 404)) {w : World}
    (hlives : Lives api.client w.cluster name ns) :
    WritesFollow api env user name ns w ↔ api.client.preferredNamespace = ns := by
  constructor
  · intro h
    exact preferredNamespace_eq_of_actsIn (h.acts (.patchStatefulset []))
  · intro hpreferred
    refine ⟨fun write => write_actsIn hview hlives hpreferred write, fun sts hsts hok => ?_⟩
    have hout := resume_triple api user hpreferred hhonest w hsts
    unfold execute at hok ⊢
    rcases hrun : run (serve env) (api.handle (.registered user)
        (.patchServer name { state := some .running })) w with ⟨e | response, w'⟩
    · rw [hrun] at hok
      cases hok
    · rw [hrun] at hout
      exact hout

end Placement

theorem lives_single (k : K8sClient) {ns name : String} {x : Session}
    (hid : Identified ns name x.server) : Lives k (Cluster.empty.set ns name x hid) name ns := by
  refine ⟨by rw [Cluster.get_set]; rfl, fun ns' _ h => ?_⟩
  by_contra hns
  rw [Cluster.get_set_of_ne _ _ _ fun he => hns (congrArg Prod.fst he)] at h
  simp [Cluster.get, Cluster.empty] at h

/-- A statefulset with a git proxy that has an access token. -/
def proxyStatefulset (accessToken : String) : Json :=
  .obj [("spec", .obj [("template", .obj [("spec", .obj [
    ("containers", .arr [.obj [("name", "git-proxy"), ("env", .arr [
      .obj [("name", "GIT_PROXY_RENKU_ACCESS_TOKEN"), ("value", accessToken)]])]]),
    ("initContainers", .arr [])])])])]

/-- A world with one session of the sample user, in the renku namespace. -/
def renkuWorld : World where
  cluster := Cluster.empty.set "renku" "jane-1"
    { sampleSession "renku" "jane-1" "jane" with statefulset := some (proxyStatefulset "expired") }
    (by decide)
  log := []

theorem renkuWorld_writesFollow_iff :
    WritesFollow (sampleApi none) calmEnv sampleUser "jane-1" "renku" renkuWorld ↔
      (sampleApi none).client.preferredNamespace = "renku" :=
  writesFollow_iff_preferredNamespace rfl (by intro n h; cases h) (lives_single _ (by decide))

/-- With a sessions namespace, resuming the session succeeds, but the token stays. -/
theorem resumed_with_expired_token :
    ¬WritesFollow (sampleApi (some "sessions")) calmEnv sampleUser "jane-1" "renku" renkuWorld ∧
    (respond (execute calmEnv ((sampleApi (some "sessions")).handle (.registered sampleUser)
      (.patchServer "jane-1" { state := some .running })) renkuWorld).1).status = 200 ∧
    ((execute calmEnv ((sampleApi (some "sessions")).handle (.registered sampleUser)
      (.patchServer "jane-1" { state := some .running })) renkuWorld).2.cluster.get
        "renku" "jane-1").map (·.statefulset) = some (some (proxyStatefulset "expired")) := by
  refine ⟨fun h => ?_, by decide, by decide⟩
  have hpreferred := preferredNamespace_eq_of_actsIn (h.acts (.patchStatefulset []))
  exact absurd hpreferred (by decide)

end RenkuNotebooks.Notebooks
