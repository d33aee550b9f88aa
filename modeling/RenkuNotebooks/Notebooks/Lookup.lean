import RenkuNotebooks.Notebooks.Endpoints

/-!
# What the client calls and finds

The calls that each operation of the client can make, and the servers that its look-ups find in
the cluster.
-/

namespace RenkuNotebooks.Notebooks

open Prog

/-! ### The calls of the operations -/

/-- The namespace and the name of the session whose objects the call addresses. -/
def Call.object? : Call → Option (String × String)
  | .createServer ns name _ => some (ns, name)
  | .patchServer ns name _ => some (ns, name)
  | .deleteServer ns name _ => some (ns, name)
  | .readStatefulset ns name => some (ns, name)
  | .patchStatefulset ns name _ => some (ns, name)
  | .readImageSecret ns name => some (ns, name)
  | .patchImageSecret ns name _ => some (ns, name)
  | .readPodLog ns name _ _ => some (ns, name)
  | _ => none

/-- The calls that `K8sClient.get_server` makes. -/
def Call.LooksUp (name : String) : Call → Prop
  | .cacheGet n => n = name
  | .getServer _ n => n = name
  | _ => False

def Call.creates : Call → Bool
  | .createServer _ _ _ => true
  | _ => false

section Calls

variable {allowed : Call → Prop}

theorem calls_exceptApi {α β : Type} {reply : Except Fault α} {body : α → Service β}
    {handler : Nat → Service β} (hbody : ∀ a, (body a).Calls allowed)
    (hhandler : ∀ n, (handler n).Calls allowed) : (exceptApi reply body handler).Calls allowed := by
  rcases reply with (n | _) | a
  · exact hhandler n
  · trivial
  · exact hbody a

/-- One call whose error statuses are turned into exceptions or values. -/
theorem calls_perform_exceptApi {α β : Type} {c : Call} {f : c.Reply → Except Fault α}
    {body : α → Service β} {handler : Nat → Service β} (hc : allowed c)
    (hbody : ∀ a, (body a).Calls allowed) (hhandler : ∀ n, (handler n).Calls allowed) :
    ((perform c).bind fun r => exceptApi (f r) body handler).Calls allowed :=
  Calls.bind ((calls_perform c).mpr hc) fun _ => calls_exceptApi hbody hhandler

@[simp] theorem calls_ignoreMissing (n : Nat) : (ignoreMissing n).Calls allowed := by
  unfold ignoreMissing
  split <;> trivial

@[simp] theorem calls_raiseApi {β : Type} (n : Nat) : (raiseApi n : Service β).Calls allowed :=
  trivial

namespace NamespacedK8sClient

variable {ns name : String}

theorem calls_getServer (h : allowed (.getServer ns name)) : (getServer ns name).Calls allowed := by
  apply calls_perform_exceptApi (f := id) h
  · intro js
    trivial
  · intro n
    split <;> trivial

theorem calls_getContainerLogs {container : String} {lines : Int}
    (h : allowed (.readPodLog ns name container lines)) :
    (getContainerLogs ns name container lines).Calls allowed := by
  apply calls_perform_exceptApi (f := id) h
  · intro logs
    trivial
  · intro n
    split <;> trivial

theorem calls_getPodLogs {lines : Int} (h : ∀ container, allowed (.readPodLog ns name container lines))
    (containers : List String) (output : List (String × Json)) :
    (getPodLogs ns name lines containers output).Calls allowed := by
  induction containers generalizing output with
  | nil => trivial
  | cons container containers ih =>
    apply Calls.bind (calls_getContainerLogs (h container))
    rintro (_ | text)
    · exact ih output
    · dsimp only
      split
      · exact ih output
      · exact ih _

theorem calls_patchServer {patch : ServerPatch} (h : allowed (.patchServer ns name patch)) :
    (patchServer ns name patch).Calls allowed := by
  apply calls_perform_exceptApi (f := id) h
  · exact calls_ret
  · intro n
    trivial

theorem calls_deleteServer {forced : Bool} (h : allowed (.deleteServer ns name forced)) :
    (deleteServer ns name forced).Calls allowed := by
  apply calls_perform_exceptApi (f := id) h
  · exact calls_ret
  · intro n
    trivial

theorem calls_patchStatefulset {ops : List PatchOp} (h : allowed (.patchStatefulset ns name ops)) :
    (patchStatefulset ns name ops).Calls allowed := by
  apply calls_perform_exceptApi (f := id) h
  · exact calls_ret
  · exact calls_ignoreMissing

theorem calls_patchStatefulsetTokens {tokens : RenkuTokens}
    (hread : allowed (.readStatefulset ns name))
    (hpatch : ∀ ops, allowed (.patchStatefulset ns name ops)) :
    (patchStatefulsetTokens ns name tokens).Calls allowed := by
  apply calls_perform_exceptApi (f := id) hread
  · intro sts
    apply Calls.bind (calls_ofExcept _)
    intro patches
    split
    · trivial
    · exact calls_perform_exceptApi (f := id) (hpatch patches) calls_ret calls_raiseApi
  · exact calls_ignoreMissing

theorem calls_patchImagePullSecret {decode : String → Except PyError Json} {pyRepr : Json → String}
    {token : GitlabToken} (hread : allowed (.readImageSecret ns name))
    (hpatch : ∀ ops, allowed (.patchImageSecret ns name ops)) :
    (patchImagePullSecret ns decode pyRepr name token).Calls allowed := by
  apply calls_perform_exceptApi (f := id) hread
  · intro secret
    apply Calls.bind (calls_ofExcept _)
    intro config
    exact calls_perform_exceptApi (f := id) (hpatch _) calls_ret calls_raiseApi
  · exact calls_ignoreMissing

end NamespacedK8sClient

namespace K8sClient

variable {k : K8sClient} {name safeUsername : String}

theorem calls_orBypass {α : Type} {cached fallback : Service α} (hcached : cached.Calls allowed)
    (hfallback : fallback.Calls allowed) : (k.orBypass cached fallback).Calls allowed := by
  apply Calls.tryCatch hcached
  intro e
  split
  · exact hfallback
  · trivial

theorem calls_listServers (hcache : allowed (.cacheList safeUsername))
    (hapi : ∀ ns, allowed (.listServers ns safeUsername)) :
    (k.listServers safeUsername).Calls allowed := by
  have hlist : ∀ ns, (NamespacedK8sClient.listServers ns safeUsername).Calls allowed := by
    intro ns
    apply calls_perform_exceptApi (f := id) (hapi ns)
    · exact calls_ret
    · intro n
      split <;> trivial
  apply calls_orBypass
  · apply Calls.bind ((calls_perform _).mpr hcache)
    rintro ((n | _) | servers) <;> trivial
  · apply Calls.bind (hlist k.renkuNs)
    intro renku
    split
    · trivial
    · apply Calls.bind (hlist _)
      intro sessions
      trivial

theorem calls_getServer (h : ∀ c : Call, c.LooksUp name → allowed c) :
    (k.getServer name safeUsername).Calls allowed := by
  have hget : ∀ ns, (NamespacedK8sClient.getServer ns name).Calls allowed :=
    fun ns => NamespacedK8sClient.calls_getServer (h (.getServer ns name) rfl)
  apply Calls.bind
  · apply calls_orBypass
    · apply Calls.bind ((calls_perform _).mpr (h (.cacheGet name) rfl))
      intro reply
      apply Calls.bind
      · rcases reply with (n | _) | servers <;> trivial
      · intro output
        exact calls_ofExcept _
    · apply Calls.bind
      · unfold getSessionServer
        split
        · trivial
        · exact hget _
      · intro session
        exact Calls.bind (hget _) fun renku => calls_ofExcept _
  · intro server
    trivial

theorem calls_ownNamespace {purpose : String} (h : ∀ c : Call, c.LooksUp name → allowed c) :
    (k.ownNamespace name safeUsername purpose).Calls allowed := by
  apply Calls.bind (calls_getServer h)
  rintro (_ | server)
  · trivial
  · dsimp only
    split
    · exact calls_ofExcept _
    · trivial

theorem calls_patchServer {patch : ServerPatch} (h : ∀ c : Call, c.LooksUp name → allowed c)
    (hpatch : ∀ ns, allowed (.patchServer ns name patch)) :
    (k.patchServer name safeUsername patch).Calls allowed :=
  Calls.bind (calls_ownNamespace h) fun ns => NamespacedK8sClient.calls_patchServer (hpatch ns)

theorem calls_patchTokens {decode : String → Except PyError Json} {pyRepr : Json → String}
    {renkuTokens : RenkuTokens} {gitlabToken : GitlabToken}
    (h : ∀ c : Call, c.creates = false → c.object? = some (k.preferredNamespace, name) → allowed c) :
    (k.patchTokens decode pyRepr name renkuTokens gitlabToken).Calls allowed := by
  apply Calls.bind
  · apply NamespacedK8sClient.calls_patchStatefulsetTokens
    · exact h _ rfl rfl
    · exact fun ops => h _ rfl rfl
  · intro _
    apply NamespacedK8sClient.calls_patchImagePullSecret
    · exact h _ rfl rfl
    · exact fun ops => h _ rfl rfl

end K8sClient

end Calls

/-! ### What the look-ups find -/

section Found

variable {env : Env} {k : K8sClient} {c : Cluster} {name safeUsername : String}

/-- The server is in the cluster, or the cache has seen it there. -/
def Seen (env : Env) (c : Cluster) (name : String) (server : Json) : Prop :=
  ∃ ns x, (c.get ns name = some x ∨ (env.cacheView c).get ns name = some x) ∧ x.server = server

theorem Seen.identified {server : Json} (h : Seen env c name server) :
    ∃ ns, Identified ns name server := by
  obtain ⟨ns, x, hget | hget, rfl⟩ := h
  · exact ⟨ns, Cluster.get_identified hget⟩
  · exact ⟨ns, Cluster.get_identified hget⟩

theorem truthy_of_dig {j v : Json} {key : String} {keys : List String}
    (h : j.dig (key :: keys) = some v) : j.truthy = true := by
  cases j with
  | obj ms =>
    cases ms with
    | nil => simp [Json.get?, Json.getMember] at h
    | cons m ms => rfl
  | _ => simp [Json.get?] at h

theorem Identified.truthy {ns : String} {server : Json} (h : Identified ns name server) :
    server.truthy = true :=
  truthy_of_dig h.1

theorem ownServer_eq_some_iff {server : Option Json} {s : Json} (h : ∀ s ∈ server, s.truthy = true) :
    K8sClient.ownServer safeUsername server = some s ↔
      server = some s ∧ hasLabel usernameLabel safeUsername s := by
  cases server with
  | none => simp [K8sClient.ownServer]
  | some s' =>
    have hs' := h s' rfl
    by_cases hlabel : hasLabel usernameLabel safeUsername s'
    · simp only [K8sClient.ownServer, Option.filter, hs', hlabel]
      constructor
      · rintro ⟨⟩
        exact ⟨rfl, hlabel⟩
      · rintro ⟨⟨⟩, -⟩
        rfl
    · simp only [K8sClient.ownServer, Option.filter, hs', hlabel]
      constructor
      · rintro ⟨⟩
      · rintro ⟨⟨⟩, hs⟩
        exact absurd hs hlabel

theorem serve_log (call : Call) (w : World) : (serve env call w).2.log = w.log ++ [call] := by
  unfold serve
  split <;> rfl

/-- Look-ups leave the cluster as it is. -/
theorem serve_lookup_cluster (call : Call) (h : call.LooksUp name) (w : World) :
    (serve env call w).2.cluster = w.cluster := by
  unfold serve
  split
  · rfl
  · cases call <;> first | rfl | exact h.elim

theorem mem_of_single {tooMany : Nat → PyError} {servers : List Json} {s : Json}
    (h : single tooMany servers = .ok (some s)) : s ∈ servers := by
  rcases servers with _ | ⟨server, _ | _⟩
  · cases h
  · cases h
    exact List.mem_cons_self
  · cases h

theorem mem_of_single_found {tooMany : Nat → PyError} {session renku : Option Json} {s : Json}
    (h : single tooMany (K8sClient.foundServers [session, renku]) = .ok (some s)) :
    session = some s ∨ renku = some s := by
  have hmem := mem_of_single h
  simp only [K8sClient.foundServers, List.mem_filterMap, List.mem_cons, List.not_mem_nil,
    or_false] at hmem
  obtain ⟨r, rfl | rfl, hs⟩ := hmem
  · exact .inl (Option.filter_eq_some_iff.mp hs).1
  · exact .inr (Option.filter_eq_some_iff.mp hs).1

/-- The cluster is `c`, and the servers of `found` are seen in it. -/
def Finds (env : Env) (c : Cluster) (name : String) (found : Json → Prop) (w : World) : Prop :=
  w.cluster = c ∧ ∀ s, found s → Seen env c name s

theorem cacheGet_triple : Triple (serve env) (fun w => w.cluster = c)
    (JsServerCache.getServer name) (fun server => Finds env c name (server = some ·))
    (fun _ w => w.cluster = c) := by
  apply Triple.bind (fun reply =>
    Finds env c name fun s => ∃ servers, reply = .ok servers ∧ s ∈ servers)
  · apply triple_perform
    rintro w rfl
    refine ⟨serve_lookup_cluster (.cacheGet name) rfl w, ?_⟩
    rintro s ⟨servers, hreply, hs⟩
    unfold serve at hreply
    split at hreply
    · cases hreply
    · cases hreply
      obtain ⟨ns, -, hns⟩ := List.mem_filterMap.mp hs
      obtain ⟨x, hx, rfl⟩ := Option.map_eq_some_iff.mp hns
      exact ⟨ns, x, .inr hx, rfl⟩
  · intro reply
    apply Triple.bind (fun output => Finds env c name (· ∈ output))
    · rcases reply with (n | _) | servers
      · exact triple_raise fun w hw => hw.1
      · exact triple_raise fun w hw => hw.1
      · exact triple_ret fun w hw => ⟨hw.1, fun s hs => hw.2 s ⟨servers, rfl, hs⟩⟩
    · intro output
      apply triple_ofExcept
      · intro server w hserver hw
        refine ⟨hw.1, ?_⟩
        rintro s rfl
        exact hw.2 s (mem_of_single hserver)
      · exact fun e w _ hw => hw.1

theorem apiGet_triple {ns : String} {found : Json → Prop} :
    Triple (serve env) (Finds env c name found)
    (NamespacedK8sClient.getServer ns name)
    (fun server => Finds env c name fun s => found s ∨ server = some s)
    (fun _ w => w.cluster = c) := by
  apply Triple.bind (fun reply =>
    Finds env c name fun s => found s ∨ reply = .ok s)
  · apply triple_perform
    rintro w ⟨rfl, hfound⟩
    refine ⟨serve_lookup_cluster (.getServer ns name) rfl w, ?_⟩
    rintro s (hs | hreply)
    · exact hfound s hs
    · unfold serve at hreply
      split at hreply
      · cases hreply
      · dsimp only [answer] at hreply
        rcases hget : w.cluster.get ns name with _ | x
        · rw [hget] at hreply
          cases hreply
        · rw [hget] at hreply
          cases hreply
          exact ⟨ns, x, .inl hget, rfl⟩
  · rintro ((n | _) | js)
    · dsimp only [exceptApi]
      split
      · refine triple_ret fun w hw => ⟨hw.1, ?_⟩
        rintro s (hs | hs)
        · exact hw.2 s (.inl hs)
        · cases hs
      · exact triple_raise fun w hw => hw.1
    · exact triple_raise fun w hw => hw.1
    · refine triple_ret fun w hw => ⟨hw.1, ?_⟩
      rintro s (hs | hs)
      · exact hw.2 s (.inl hs)
      · exact hw.2 s (.inr (congrArg Except.ok (Option.some.inj hs)))

theorem getServerFromApi_triple : Triple (serve env) (fun w => w.cluster = c)
    (k.getServerFromApi name) (fun server => Finds env c name (server = some ·))
    (fun _ w => w.cluster = c) := by
  apply Triple.bind (fun session => Finds env c name (session = some ·))
  · unfold K8sClient.getSessionServer
    split
    · refine triple_ret fun w hw => ⟨hw, ?_⟩
      intro s hs
      cases hs
    · apply apiGet_triple.weaken (fun w hw => ⟨hw, fun s hs => False.elim hs⟩)
      · exact fun server w hw => ⟨hw.1, fun s hs => hw.2 s (.inr hs)⟩
      · exact fun e w hw => hw
  · intro session
    apply Triple.bind _ apiGet_triple
    intro renku
    apply triple_ofExcept
    · intro server w hserver hw
      refine ⟨hw.1, ?_⟩
      rintro s rfl
      exact hw.2 s (mem_of_single_found hserver)
    · exact fun e w _ hw => hw.1

/-- A server that is found has been seen and belongs to the user. -/
theorem getServer_triple : Triple (serve env) (fun w => w.cluster = c)
    (k.getServer name safeUsername)
    (fun server w => w.cluster = c ∧
      ∀ s, server = some s → Seen env c name s ∧ hasLabel usernameLabel safeUsername s)
    (fun _ w => w.cluster = c) := by
  apply Triple.bind (fun server => Finds env c name (server = some ·))
  · apply Triple.tryCatch _ cacheGet_triple
    intro e
    split
    · exact getServerFromApi_triple
    · exact triple_raise fun w hw => hw
  · intro server
    refine triple_ret fun w hw => ⟨hw.1, ?_⟩
    intro s hs
    have htruthy : ∀ s ∈ server, s.truthy = true := by
      intro s hs
      obtain ⟨ns, hid⟩ := (hw.2 s hs).identified
      exact hid.truthy
    obtain ⟨hserver, hlabel⟩ := (ownServer_eq_some_iff htruthy).mp hs
    exact ⟨hw.2 s hserver, hlabel⟩

end Found

end RenkuNotebooks.Notebooks
