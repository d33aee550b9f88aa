import RenkuNotebooks.Notebooks.Lookup

/-!
# Isolation of users

Two clusters that agree on the sessions of a user look the same to all requests of that user,
and no request changes a session of another user. A look-up finds either a session of the user,
and then both clusters agree on everything of that name, or nothing.
-/

namespace RenkuNotebooks.Notebooks

open Prog

/-- Each name is in at most one namespace. -/
def Cluster.Unique (c : Cluster) : Prop :=
  ∀ name ns ns', (c.get ns name).isSome → (c.get ns' name).isSome → ns = ns'

def Owned (safeUsername : String) (x : Session) : Prop :=
  hasLabel usernameLabel safeUsername x.server

instance (safeUsername : String) (x : Session) : Decidable (Owned safeUsername x) :=
  inferInstanceAs (Decidable (hasLabel _ _ _))

/-- The two worlds agree on the sessions of the user. -/
structure Agree (safeUsername : String) (w w' : World) : Prop where
  log : w.log = w'.log
  unique : w.cluster.Unique
  unique' : w'.cluster.Unique
  own : ∀ ns name x, Owned safeUsername x →
    (w.cluster.get ns name = some x ↔ w'.cluster.get ns name = some x)

/-- The two worlds agree on the sessions of one name. -/
structure SameAt (name : String) (w w' : World) : Prop where
  log : w.log = w'.log
  get : ∀ ns, w.cluster.get ns name = w'.cluster.get ns name

/-- The calls of a request that has found a session. -/
def Call.About (name : String) : Call → Prop
  | .cacheGet n => n = name
  | .getServer _ n => n = name
  | .patchServer _ n _ => n = name
  | .deleteServer _ n _ => n = name
  | .readStatefulset _ n => n = name
  | .patchStatefulset _ n _ => n = name
  | .readImageSecret _ n => n = name
  | .patchImageSecret _ n _ => n = name
  | .readPodLog _ n _ _ => n = name
  | .validateClassStorage _ => True
  | .gitStatus _ => True
  | _ => False

theorem Call.LooksUp.about {name : String} {c : Call} (h : c.LooksUp name) : c.About name := by
  cases c with
  | cacheGet n => exact h
  | getServer ns n => exact h
  | _ => exact h.elim

/-! ### One call -/

section Step

variable {env : Env} {name : String} {c c' : Cluster}

theorem Cluster.get_update_of_ne {α : Type} (c : Cluster) {ns name ns' name' : String}
    (f : Session → Except Fault (α × Session)) (hne : (ns', name') ≠ (ns, name)) :
    (c.update ns name f).2.get ns' name' = c.get ns' name' := by
  unfold Cluster.update
  split
  · rfl
  · split
    · rfl
    · split
      · next hid => exact c.get_set_of_ne _ hid hne
      · rfl

theorem Cluster.get_deleteServer_of_ne (c : Cluster) {ns name ns' name' : String}
    (hne : (ns', name') ≠ (ns, name)) :
    (c.deleteServer ns name).2.get ns' name' = c.get ns' name' := by
  unfold Cluster.deleteServer
  split
  · rfl
  · exact c.get_erase_of_ne hne

/-- Updates of a session look the same where the session is the same. -/
theorem Cluster.update_alike {α : Type} {ns : String} (f : Session → Except Fault (α × Session))
    (h : ∀ ns, c.get ns name = c'.get ns name) :
    (c.update ns name f).1 = (c'.update ns name f).1 ∧
      ∀ ns', (c.update ns name f).2.get ns' name = (c'.update ns name f).2.get ns' name := by
  have hget := h ns
  unfold Cluster.update
  rw [← hget]
  rcases hx : c.get ns name with _ | x
  · exact ⟨rfl, h⟩
  · rcases hf : f x with fault | ⟨a, x'⟩
    · simp only [hf]
      exact ⟨trivial, h⟩
    · simp only [hf]
      by_cases hid : Identified ns name x'.server
      · simp only [hid, dite_true, true_and]
        intro ns'
        by_cases hns : ns' = ns
        · rw [hns, Cluster.get_set, Cluster.get_set]
        · have hne : (ns', name) ≠ (ns, name) := fun he => hns (congrArg Prod.fst he)
          rw [Cluster.get_set_of_ne _ _ _ hne, Cluster.get_set_of_ne _ _ _ hne, h ns']
      · simp only [hid, dite_false, true_and]
        exact h

theorem Cluster.deleteServer_alike {ns : String} (h : ∀ ns, c.get ns name = c'.get ns name) :
    (c.deleteServer ns name).1 = (c'.deleteServer ns name).1 ∧
      ∀ ns', (c.deleteServer ns name).2.get ns' name = (c'.deleteServer ns name).2.get ns' name := by
  have hget := h ns
  unfold Cluster.deleteServer
  rw [← hget]
  rcases c.get ns name with _ | x
  · exact ⟨rfl, h⟩
  · refine ⟨rfl, ?_⟩
    intro ns'
    by_cases hns : ns' = ns
    · rw [hns, Cluster.get_erase, Cluster.get_erase]
    · have hne : (ns', name) ≠ (ns, name) := fun he => hns (congrArg Prod.fst he)
      rw [Cluster.get_erase_of_ne _ hne, Cluster.get_erase_of_ne _ hne, h ns']

/-- A call about a session gets the same answer where the sessions of the name are the same. -/
theorem answer_alike (hview : env.cacheView = id) {call : Call} (h : call.About name)
    {w w' : World} (hsame : SameAt name w w') :
    (answer env w call).1 = (answer env w' call).1 ∧
      ∀ ns, (answer env w call).2.get ns name = (answer env w' call).2.get ns name := by
  obtain ⟨hlog, hget⟩ := hsame
  cases call with
  | cacheGet n =>
    obtain rfl := h
    simp only [answer, hview, id_eq, hget, true_and]
    exact fun ns => trivial
  | getServer ns n =>
    obtain rfl := h
    simp only [answer, hget, implies_true, and_self]
  | patchServer ns n patch =>
    obtain rfl := h
    exact Cluster.update_alike _ hget
  | deleteServer ns n forced =>
    obtain rfl := h
    exact Cluster.deleteServer_alike hget
  | readStatefulset ns n =>
    obtain rfl := h
    simp only [answer, hget, implies_true, and_self]
  | patchStatefulset ns n ops =>
    obtain rfl := h
    exact Cluster.update_alike _ hget
  | readImageSecret ns n =>
    obtain rfl := h
    simp only [answer, hget, implies_true, and_self]
  | patchImageSecret ns n ops =>
    obtain rfl := h
    exact Cluster.update_alike _ hget
  | readPodLog ns n container lines =>
    obtain rfl := h
    simp only [answer, hget, implies_true, and_self]
  | validateClassStorage id => exact ⟨rfl, hget⟩
  | gitStatus n => exact ⟨rfl, hget⟩
  | cacheList u => exact h.elim
  | listServers ns label => exact h.elim
  | createServer ns n manifest => exact h.elim
  | postSecret payload => exact h.elim

theorem serve_alike (hview : env.cacheView = id) {call : Call} (h : call.About name)
    {w w' : World} (hsame : SameAt name w w') :
    (serve env call w).1 = (serve env call w').1 ∧
      SameAt name (serve env call w).2 (serve env call w').2 := by
  unfold serve
  rw [← hsame.log]
  cases env.faults w.log.length call with
  | some fault => exact ⟨rfl, ⟨rfl, hsame.get⟩⟩
  | none =>
    obtain ⟨hreply, hget⟩ := answer_alike hview h hsame
    exact ⟨hreply, ⟨rfl, hget⟩⟩

/-- A call about a session leaves the sessions of other names as they are. -/
theorem serve_frame {call : Call} (h : call.About name) (w : World) {ns n : String}
    (hne : n ≠ name) : (serve env call w).2.cluster.get ns n = w.cluster.get ns n := by
  unfold serve
  split
  · rfl
  · have hplace : ∀ ns', (ns, n) ≠ (ns', name) := fun ns' he => hne (congrArg Prod.snd he)
    cases call with
    | patchServer ns' n' patch =>
      obtain rfl := h
      exact Cluster.get_update_of_ne _ _ (hplace ns')
    | deleteServer ns' n' forced =>
      obtain rfl := h
      exact Cluster.get_deleteServer_of_ne _ (hplace ns')
    | patchStatefulset ns' n' ops =>
      obtain rfl := h
      exact Cluster.get_update_of_ne _ _ (hplace ns')
    | patchImageSecret ns' n' ops =>
      obtain rfl := h
      exact Cluster.get_update_of_ne _ _ (hplace ns')
    | createServer ns' n' manifest => exact h.elim
    | _ => rfl

end Step

/-! ### Look-ups of names without a session of the user -/

section Unowned

variable {env : Env} {k : K8sClient} {u name : String} {c c' : Cluster}

/-- Each name is in one namespace at most, and the user has no session of this name. -/
structure Unclaimed (u name : String) (c : Cluster) : Prop where
  unique : c.Unique
  unowned : ∀ ns x, c.get ns name = some x → ¬Owned u x

/-- Two worlds with the same log and the clusters `c` and `c'`. -/
structure Holding (c c' : Cluster) (w w' : World) : Prop where
  log : w.log = w'.log
  left : w.cluster = c
  right : w'.cluster = c'

def Unowned (u : String) (server : Option Json) : Prop :=
  ∀ s, server = some s → ¬hasLabel usernameLabel u s ∧ s.truthy = true

theorem ownServer_of_unowned {server : Option Json} (h : Unowned u server) :
    K8sClient.ownServer u server = none := by
  cases server with
  | none => rfl
  | some s =>
    obtain ⟨hlabel, htruthy⟩ := h s rfl
    simp [K8sClient.ownServer, Option.filter, hlabel, htruthy]

theorem unowned_of_get (hc : Unclaimed u name c) (ns : String) :
    Unowned u ((c.get ns name).map (·.server)) := by
  intro s hs
  obtain ⟨x, hx, rfl⟩ := Option.map_eq_some_iff.mp hs
  exact ⟨hc.unowned ns x hx, (Cluster.get_identified hx).truthy⟩

/-- Where at most one element has an image, there is at most one image. -/
theorem filterMap_le_one {α β : Type} {f : α → Option β} {l : List α} (hnodup : l.Nodup)
    (h : ∀ a b, (f a).isSome → (f b).isSome → a = b) :
    l.filterMap f = [] ∨ ∃ a b, f a = some b ∧ l.filterMap f = [b] := by
  induction l with
  | nil => exact .inl rfl
  | cons a l ih =>
    obtain ⟨hnotin, hnodup⟩ := List.nodup_cons.mp hnodup
    rcases hfa : f a with _ | b
    · simpa [List.filterMap_cons, hfa] using ih hnodup
    · have hnil : l.filterMap f = [] := by
        rw [List.filterMap_eq_nil_iff]
        intro a' ha'
        by_contra hsome
        have hbsome : (f a').isSome := Option.isSome_iff_ne_none.mpr hsome
        have heq := h a a' (by simp [hfa]) hbsome
        exact hnotin (heq ▸ ha')
      exact .inr ⟨a, b, hfa, by simp [hfa, hnil]⟩

/-- The cache finds at most one server, which is not the user's. -/
theorem single_cached_of_unclaimed {namespaces : List String} (hnodup : namespaces.Nodup)
    (hc : Unclaimed u name c) (tooMany : Nat → PyError) :
    ∃ server, single tooMany (namespaces.filterMap fun ns => (c.get ns name).map (·.server)) =
      .ok server ∧ Unowned u server := by
  have hone := filterMap_le_one (f := fun ns => (c.get ns name).map (·.server)) hnodup
    (fun ns ns' h h' => hc.unique name ns ns' (by simpa using h) (by simpa using h'))
  rcases hone with hnil | ⟨ns, s, hs, hone⟩
  · exact ⟨none, by rw [hnil]; rfl, fun s hs => nomatch hs⟩
  · refine ⟨some s, by rw [hone]; rfl, ?_⟩
    rw [← hs]
    exact unowned_of_get hc ns

theorem serve_lookup_holding (call : Call) (h : call.LooksUp name) {w w' : World}
    (hw : Holding c c' w w') : Holding c c' (serve env call w).2 (serve env call w').2 := by
  refine ⟨by rw [serve_log, serve_log, hw.log], ?_, ?_⟩
  · rw [serve_lookup_cluster call h, hw.left]
  · rw [serve_lookup_cluster call h, hw.right]

/-- The replies to a look-up: the same failure, or what each cluster has. -/
theorem serve_replies (call : Call) {w w' : World} (hw : Holding c c' w w') :
    (∃ fault, (serve env call w).1 = call.failed fault ∧ (serve env call w').1 = call.failed fault) ∨
    ((serve env call w).1 = (answer env w call).1 ∧ (serve env call w').1 = (answer env w' call).1) := by
  unfold serve
  rw [← hw.log]
  cases env.faults w.log.length call with
  | some fault => exact .inl ⟨fault, rfl, rfl⟩
  | none => exact .inr ⟨rfl, rfl⟩

theorem cacheGet_unowned (hview : env.cacheView = id) (hc : Unclaimed u name c)
    (hc' : Unclaimed u name c') :
    Related (serve env) (Holding c c') (JsServerCache.getServer name)
      (JsServerCache.getServer name)
      (fun a b w w' => (Unowned u a ∧ Unowned u b) ∧ Holding c c' w w') (Holding c c') := by
  apply Related.bind fun reply reply' w w' =>
    ((∃ fault, reply = .error fault ∧ reply' = .error fault) ∨
      (reply = .ok (env.watched.filterMap fun ns => (c.get ns name).map (·.server)) ∧
        reply' = .ok (env.watched.filterMap fun ns => (c'.get ns name).map (·.server)))) ∧
      Holding c c' w w'
  · intro w w' hw
    refine ⟨?_, serve_lookup_holding (.cacheGet name) rfl hw⟩
    rcases serve_replies (.cacheGet name) hw with hfault | ⟨hreply, hreply'⟩
    · exact .inl hfault
    · right
      rw [hreply, hreply', ← hw.left, ← hw.right]
      simp only [answer, hview, id_eq, and_self]
  · intro reply reply' w w' hw
    obtain ⟨⟨fault, rfl, rfl⟩ | ⟨rfl, rfl⟩, hw⟩ := hw
    · cases fault with
      | status n => exact ⟨rfl, hw⟩
      | unreachable => exact ⟨rfl, hw⟩
    · obtain ⟨a, ha, hua⟩ := single_cached_of_unclaimed env.watched_nodup hc (JsServerCache.tooMany name)
      obtain ⟨b, hb, hub⟩ := single_cached_of_unclaimed env.watched_nodup hc' (JsServerCache.tooMany name)
      simp only [JsServerCache.orCacheError, bind_eq, Prog.bind, run_ofExcept, ha, hb]
      exact ⟨⟨hua, hub⟩, hw⟩

/-- What a look-up in one namespace can give: nothing, or what the cluster has there. -/
def GivenBy (c : Cluster) (ns name : String) (a : Option Json) : Prop :=
  a = none ∨ a = (c.get ns name).map (·.server)

theorem apiGet_related (ns : String) :
    Related (serve env) (Holding c c') (NamespacedK8sClient.getServer ns name)
      (NamespacedK8sClient.getServer ns name)
      (fun a b w w' => (GivenBy c ns name a ∧ GivenBy c' ns name b) ∧ Holding c c' w w')
      (Holding c c') := by
  apply Related.bind fun reply reply' w w' =>
    ((∃ fault, reply = .error fault ∧ reply' = .error fault) ∨
      (reply = found ((c.get ns name).map (·.server)) ∧
        reply' = found ((c'.get ns name).map (·.server)))) ∧ Holding c c' w w'
  · intro w w' hw
    refine ⟨?_, serve_lookup_holding (.getServer ns name) rfl hw⟩
    rcases serve_replies (.getServer ns name) hw with hfault | ⟨hreply, hreply'⟩
    · exact .inl hfault
    · right
      rw [hreply, hreply', ← hw.left, ← hw.right]
      exact ⟨rfl, rfl⟩
  · have hfound : ∀ (c : Cluster), ∀ w, ∃ a, GivenBy c ns name a ∧
        run (serve env) (exceptApi (found ((c.get ns name).map (·.server)))
          (fun js => pure (some js)) fun status =>
            if status = 400 ∨ status = 404 then pure none
            else .raise (.generic (intermittentError
              ("Cannot get server " ++ name ++ " from the k8s API.")))) w = (.ok a, w) := by
      intro c w
      rcases hget : c.get ns name with _ | x
      · exact ⟨none, .inl rfl, rfl⟩
      · exact ⟨some x.server, .inr (by rw [hget]; rfl), rfl⟩
    intro reply reply' w w' hw
    obtain ⟨⟨fault, rfl, rfl⟩ | ⟨rfl, rfl⟩, hw⟩ := hw
    · cases fault with
      | status n =>
        dsimp only [exceptApi]
        split
        · exact ⟨⟨.inl rfl, .inl rfl⟩, hw⟩
        · exact ⟨rfl, hw⟩
      | unreachable => exact ⟨rfl, hw⟩
    · obtain ⟨a, ha, hruna⟩ := hfound c w
      obtain ⟨b, hb, hrunb⟩ := hfound c' w'
      rw [hruna, hrunb]
      exact ⟨⟨ha, hb⟩, hw⟩

/-- Two look-ups in different namespaces find at most one server. -/
theorem single_found_of_unclaimed (hc : Unclaimed u name c) {ns ns' : String} {a b : Option Json}
    (hne : a ≠ none → ns ≠ ns') (ha : GivenBy c ns name a) (hb : GivenBy c ns' name b)
    (tooMany : Nat → PyError) :
    ∃ server, single tooMany (K8sClient.foundServers [a, b]) = .ok server ∧ Unowned u server := by
  have hua : Unowned u a := by
    rcases ha with rfl | rfl
    · exact fun s hs => nomatch hs
    · exact unowned_of_get hc ns
  have hub : Unowned u b := by
    rcases hb with rfl | rfl
    · exact fun s hs => nomatch hs
    · exact unowned_of_get hc ns'
  have hfilter : ∀ {r : Option Json}, Unowned u r → r.filter (·.truthy) = r := by
    intro r hr
    cases r with
    | none => rfl
    | some s => simp [Option.filter, (hr s rfl).2]
  simp only [K8sClient.foundServers, List.filterMap_cons, List.filterMap_nil, hfilter hua, hfilter hub]
  cases a with
  | none =>
    cases b with
    | none => exact ⟨none, rfl, hua⟩
    | some s => exact ⟨some s, rfl, hub⟩
  | some s =>
    cases b with
    | none => exact ⟨some s, rfl, hua⟩
    | some s' =>
      have hsome : (c.get ns name).isSome := by
        rcases ha with ha | ha
        · cases ha
        · simpa using congrArg Option.isSome ha.symm
      have hsome' : (c.get ns' name).isSome := by
        rcases hb with hb | hb
        · cases hb
        · simpa using congrArg Option.isSome hb.symm
      exact absurd (hc.unique name ns ns' hsome hsome') (hne (by simp))

theorem getServerFromApi_unowned (hns : k.sessionNs ≠ some k.renkuNs) (hc : Unclaimed u name c)
    (hc' : Unclaimed u name c') :
    Related (serve env) (Holding c c') (k.getServerFromApi name) (k.getServerFromApi name)
      (fun a b w w' => (Unowned u a ∧ Unowned u b) ∧ Holding c c' w w') (Holding c c') := by
  have hrenku : ∀ (ns : String) (a b : Option Json), (a ≠ none → ns ≠ k.renkuNs) →
      (b ≠ none → ns ≠ k.renkuNs) →
      Related (serve env) (fun w w' => (GivenBy c ns name a ∧ GivenBy c' ns name b) ∧
          Holding c c' w w')
        ((NamespacedK8sClient.getServer k.renkuNs name).bind fun renku =>
          ofExcept (single (K8sClient.tooMany name) (K8sClient.foundServers [a, renku])))
        ((NamespacedK8sClient.getServer k.renkuNs name).bind fun renku =>
          ofExcept (single (K8sClient.tooMany name) (K8sClient.foundServers [b, renku])))
        (fun a b w w' => (Unowned u a ∧ Unowned u b) ∧ Holding c c' w w') (Holding c c') := by
    intro ns a b hne hne' w w' hw
    obtain ⟨⟨ha, hb⟩, hw⟩ := hw
    apply Related.bind _ (apiGet_related k.renkuNs) _ w w' hw
    intro r r' w w' hr
    obtain ⟨⟨hr, hr'⟩, hw⟩ := hr
    obtain ⟨s, hs, hus⟩ := single_found_of_unclaimed hc hne ha hr (K8sClient.tooMany name)
    obtain ⟨s', hs', hus'⟩ := single_found_of_unclaimed hc' hne' hb hr' (K8sClient.tooMany name)
    rw [hs, hs']
    exact ⟨⟨hus, hus'⟩, hw⟩
  unfold K8sClient.getServerFromApi K8sClient.getSessionServer
  cases hsession : k.sessionNs with
  | none =>
    refine Related.bind (fun a b w w' => (a = none ∧ b = none) ∧ Holding c c' w w') ?_ ?_
    · exact related_ret fun w w' hw => ⟨⟨rfl, rfl⟩, hw⟩
    · intro a b w w' hw
      obtain ⟨⟨rfl, rfl⟩, hw⟩ := hw
      exact hrenku k.renkuNs none none (absurd rfl) (absurd rfl) w w' ⟨⟨.inl rfl, .inl rfl⟩, hw⟩
  | some ns =>
    have hne : ns ≠ k.renkuNs := fun he => hns (by rw [hsession, he])
    exact Related.bind _ (apiGet_related ns) fun a b => hrenku ns a b (fun _ => hne) fun _ => hne

/-- Where the user has no session of the name in either cluster, both look-ups find none. -/
theorem getServer_unowned (hview : env.cacheView = id) (hns : k.bypassCacheOnFailure = true → k.sessionNs ≠ some k.renkuNs)
    (hc : Unclaimed u name c) (hc' : Unclaimed u name c') :
    Related (serve env) (Holding c c') (k.getServer name u) (k.getServer name u)
      (fun a b _ _ => a = none ∧ b = none) (Holding c c') := by
  apply Related.bind
  · apply Related.tryCatch _ (cacheGet_unowned hview hc hc')
    intro e
    split
    · next hbypass => exact getServerFromApi_unowned (hns hbypass.2) hc hc'
    · exact related_raise fun w w' hw => hw
  · intro a b
    refine related_ret fun w w' hw => ?_
    exact ⟨ownServer_of_unowned hw.1.1, ownServer_of_unowned hw.1.2⟩

end Unowned

/-! ### Requests -/

section Requests

variable {env : Env} {api : Api} {user : User} {name : String}

theorem Agree.sameAt {u : String} {w w' : World} (h : Agree u w w') {ns : String} {x : Session}
    (hget : w.cluster.get ns name = some x) (howned : Owned u x) : SameAt name w w' := by
  have hget' := (h.own ns name x howned).mp hget
  refine ⟨h.log, fun ns' => ?_⟩
  by_cases hns : ns' = ns
  · rw [hns, hget, hget']
  · have habsent : ∀ (c : Cluster), c.Unique → c.get ns name = some x → c.get ns' name = none := by
      intro c hunique hx
      by_contra hsome
      exact hns (hunique name ns' ns (Option.isSome_iff_ne_none.mpr hsome) (by rw [hx]; rfl))
    rw [habsent _ h.unique hget, habsent _ h.unique' hget']

/-- Either the user has a session of the name, the same in both worlds, or in neither. -/
theorem Agree.sameAt_or_unclaimed {u : String} {w w' : World} (h : Agree u w w') (name : String) :
    SameAt name w w' ∨ Unclaimed u name w.cluster ∧ Unclaimed u name w'.cluster := by
  by_cases howned : ∃ ns x, w.cluster.get ns name = some x ∧ Owned u x
  · obtain ⟨ns, x, hget, hx⟩ := howned
    exact .inl (h.sameAt hget hx)
  · right
    refine ⟨⟨h.unique, fun ns x hget hx => howned ⟨ns, x, hget, hx⟩⟩, ⟨h.unique', ?_⟩⟩
    intro ns x hget hx
    exact howned ⟨ns, x, (h.own ns name x hx).mpr hget, hx⟩

/-- A request that raises where no server is found, and otherwise only makes calls about it. -/
theorem related_of_lookup {β : Type} (hview : env.cacheView = id)
    (hns : api.client.bypassCacheOnFailure = true →
      api.client.sessionNs ≠ some api.client.renkuNs) {f : Option Json → Service β} {e : PyError}
    (hnone : f none = .raise e) (hsome : ∀ server, (f (some server)).Calls (Call.About name))
    {u : String} :
    Related (serve env) (Agree u) ((api.client.getServer name u).bind f)
      ((api.client.getServer name u).bind f) (fun a b _ _ => a = b ∧ True) (fun _ _ => True) := by
  intro w w' hw
  rcases hw.sameAt_or_unclaimed name with hsame | ⟨hc, hc'⟩
  · have hcalls : ((api.client.getServer name u).bind f).Calls (Call.About name) := by
      apply Calls.bind (K8sClient.calls_getServer fun c hc => hc.about)
      rintro (_ | server)
      · rw [hnone]
        trivial
      · exact hsome server
    have hrel : Related (serve env) (SameAt name) _ _ _ (SameAt name) :=
      hcalls.related fun c w w' hc hw => serve_alike hview hc hw
    exact hrel.weaken (fun _ _ h => h) (fun _ _ _ _ h => ⟨h.1, trivial⟩) (fun _ _ _ => trivial)
      w w' hsame
  · have hrel : Related (serve env) _ _ _ _ _ := getServer_unowned hview hns hc hc'
    apply Related.bind _ (hrel.weaken (fun _ _ h => h) (fun _ _ _ _ h => h) fun _ _ _ => trivial)
      _ w w' ⟨hw.log, rfl, rfl⟩
    intro a b w w' hab
    obtain ⟨rfl, rfl⟩ := hab
    rw [hnone]
    exact ⟨rfl, trivial⟩

/-- The servers of the user in a namespace are the same in both worlds. -/
theorem Agree.labelledServers_eq {u : String} {w w' : World} (h : Agree u w w') (ns : String) :
    labelledServers w.cluster ns usernameLabel u = labelledServers w'.cluster ns usernameLabel u := by
  have hlist : ∀ c : Cluster, labelledServers c ns usernameLabel u =
      ((c.sessions ns).filter fun _ x => decide (Owned u x)).toList.map (·.2.server) := by
    intro c
    rw [Std.ExtTreeMap.toList_filter]
    exact List.filter_map
  have hown : (w.cluster.sessions ns).filter (fun _ x => decide (Owned u x)) =
      (w'.cluster.sessions ns).filter fun _ x => decide (Owned u x) := by
    apply Std.ExtTreeMap.ext_getElem?
    intro name
    rw [Std.ExtTreeMap.getElem?_filter', Std.ExtTreeMap.getElem?_filter']
    ext x
    rw [Option.filter_eq_some_iff, Option.filter_eq_some_iff]
    constructor
    · rintro ⟨hget, hx⟩
      exact ⟨(h.own ns name x (of_decide_eq_true hx)).mp hget, hx⟩
    · rintro ⟨hget, hx⟩
      exact ⟨(h.own ns name x (of_decide_eq_true hx)).mpr hget, hx⟩
  rw [hlist, hlist, hown]

/-- The calls that list the servers of a user. -/
def Call.Lists (u : String) : Call → Prop
  | .cacheList safeUsername => safeUsername = u
  | .listServers _ labelValue => labelValue = u
  | _ => False

theorem serve_list_alike (hview : env.cacheView = id) {u : String} {call : Call}
    (h : call.Lists u) {w w' : World} (hw : Agree u w w') :
    (serve env call w).1 = (serve env call w').1 ∧
      Agree u (serve env call w).2 (serve env call w').2 := by
  unfold serve
  rw [← hw.log]
  cases env.faults w.log.length call with
  | some fault => exact ⟨rfl, ⟨rfl, hw.unique, hw.unique', hw.own⟩⟩
  | none =>
    cases call with
    | cacheList safeUsername =>
      obtain rfl := h
      refine ⟨?_, ⟨rfl, hw.unique, hw.unique', hw.own⟩⟩
      simp only [answer, hview, id_eq, hw.labelledServers_eq]
    | listServers ns labelValue =>
      obtain rfl := h
      refine ⟨?_, ⟨rfl, hw.unique, hw.unique', hw.own⟩⟩
      simp only [answer, hw.labelledServers_eq]
    | _ => exact h.elim

theorem calls_changeServer {u : RegisteredUser} {body : PatchServerRequest} (server : Json) :
    (api.changeServer u name body server).Calls (Call.About name) := by
  have hpatch : ∀ patch, (api.client.patchServer name u.safeUsername patch).Calls
      (Call.About name) :=
    fun patch => K8sClient.calls_patchServer (fun c hc => hc.about) fun ns => rfl
  apply Calls.bind
  · cases body.resourceClassId with
    | none => trivial
    | some classId =>
      refine ⟨trivial, fun reply => ?_⟩
      apply Calls.bind (calls_ofExcept reply)
      intro options
      apply Calls.bind (hpatch _)
      intro newServer
      apply Calls.bind
      · exact NamespacedK8sClient.calls_patchStatefulset rfl
      · intro _
        trivial
  · intro newServer
    apply Calls.bind
    · cases body.state with
      | none => trivial
      | some state =>
        cases state with
        | running =>
          apply Calls.bind
          · apply K8sClient.calls_patchTokens
            intro c hcreates hobject
            cases c <;> simp_all [Call.object?, Call.About, Call.creates]
          · exact fun _ => hpatch _
        | hibernated =>
          dsimp only [Api.changeState]
          split
          · trivial
          · apply Calls.bind
            · unfold Api.sidecarStatus
              split
              · exact ⟨trivial, fun reply => calls_ofExcept reply⟩
              · trivial
            · exact fun status => hpatch _
    · intro shown
      exact Calls.bind (calls_ofExcept _) fun body => trivial

/-- The name that a request looks up; lists and the patches that are refused before look up
none. -/
def Api.lookedUp (api : Api) (user : User) : Request → Option String
  | .userServers _ => none
  | .userServer serverName => some serverName
  | .serverLogs serverName _ => some serverName
  | .patchServer serverName _ =>
    match user with
    | .anonymous _ => none
    | .registered _ => if api.config.sessions.storage.pvsEnabled then some serverName else none
  | .stopServer serverName _ => some serverName

/-- Without a look-up a request only lists the servers of the user. -/
theorem handle_lists {request : Request} (h : api.lookedUp user request = none) :
    (api.handle user request).Calls (Call.Lists user.safeUsername) := by
  cases request with
  | userServers filters =>
    have hlist : (api.client.listServers user.safeUsername).Calls (Call.Lists user.safeUsername) :=
      K8sClient.calls_listServers rfl fun _ => rfl
    apply Calls.bind hlist
    intro servers
    apply Calls.bind (calls_ofExcept _)
    intro filtered
    apply Calls.bind (calls_ofExcept _)
    intro output
    trivial
  | userServer serverName => cases h
  | serverLogs serverName maxLines => cases h
  | stopServer serverName forced => cases h
  | patchServer serverName body =>
    dsimp only [Api.handle, Api.patchServer]
    cases hpvs : api.config.sessions.storage.pvsEnabled with
    | false => trivial
    | true =>
      cases user with
      | anonymous u => trivial
      | registered u => simp [Api.lookedUp, hpvs] at h

/-- A request that looks a server up raises where there is none, and not as it does where there
are too many; every other call it makes is about that server. -/
theorem handle_looksUp {request : Request} (h : api.lookedUp user request = some name) :
    ∃ f e, api.handle user request = (api.client.getServer name user.safeUsername).bind f ∧
      f none = .raise e ∧ (∀ server, (f (some server)).Calls (Call.About name)) ∧
      ∀ message, handleException e ≠
        handleException (.generic (programmingError message maintainersDetail)) := by
  have hmissing : ∀ missing message, handleException (.generic (missingResourceError missing)) ≠
      handleException (.generic (programmingError message maintainersDetail)) :=
    fun missing message heq => absurd (congrArg Response.status heq) (by simp [handleException,
      missingResourceError, programmingError])
  cases request with
  | userServers filters => cases h
  | userServer serverName =>
    obtain rfl := Option.some.inj h
    refine ⟨_, _, rfl, rfl, fun server => ?_, hmissing _⟩
    exact Calls.bind (calls_ofExcept _) fun body => trivial
  | serverLogs serverName maxLines =>
    obtain rfl := Option.some.inj h
    refine ⟨_, _, Prog.bind_assoc _ _ _, rfl, fun server => ?_, hmissing _⟩
    apply Calls.bind
    · apply Calls.bind (calls_ofExcept _)
      intro ns
      exact NamespacedK8sClient.calls_getPodLogs (fun container => rfl) _ _
    · intro logs
      trivial
  | patchServer serverName body =>
    cases user with
    | anonymous u => cases h
    | registered u =>
      cases hpvs : api.config.sessions.storage.pvsEnabled with
      | false => simp [Api.lookedUp, hpvs] at h
      | true =>
        simp only [Api.lookedUp, hpvs, if_true, Option.some.injEq] at h
        subst h
        refine ⟨_, _, if_neg (by simp [hpvs]), rfl, fun server => ?_, ?_⟩
        · dsimp only
          split
          · trivial
          · exact calls_changeServer server
        · -- the detail is missing from the error of an attribute that is missing
          intro message heq
          have hbody := congrArg Response.body heq
          simp [handleException, errorBody, programmingError] at hbody
  | stopServer serverName forced =>
    obtain rfl := Option.some.inj h
    refine ⟨_, _, (Prog.bind_assoc _ _ _).trans (Prog.bind_assoc _ _ _), rfl, fun server => ?_,
      hmissing _⟩
    apply Calls.bind
    · dsimp only
      split
      · exact calls_ofExcept _
      · trivial
    · intro ns
      have hdelete : (NamespacedK8sClient.deleteServer ns serverName forced).Calls
          (Call.About serverName) :=
        NamespacedK8sClient.calls_deleteServer rfl
      exact Calls.bind hdelete fun _ => trivial

/-- Requests of a user cannot tell apart two worlds that agree on the sessions of the user. -/
theorem handle_related (hview : env.cacheView = id) (user : User) (request : Request)
    (hns : ∀ name ∈ api.lookedUp user request, api.client.bypassCacheOnFailure = true →
      api.client.sessionNs ≠ some api.client.renkuNs) :
    Related (serve env) (Agree user.safeUsername) (api.handle user request)
      (api.handle user request) (fun a b _ _ => a = b ∧ True) (fun _ _ => True) := by
  cases hlookedUp : api.lookedUp user request with
  | none =>
    have hcalls := handle_lists hlookedUp
    have hrel : Related (serve env) (Agree user.safeUsername) _ _ _ _ :=
      hcalls.related fun c w w' hc hw => serve_list_alike hview hc hw
    exact hrel.weaken (fun _ _ h => h) (fun _ _ _ _ h => ⟨h.1, trivial⟩) fun _ _ _ => trivial
  | some name =>
    obtain ⟨f, e, heq, hnone, hsome, -⟩ := handle_looksUp hlookedUp
    rw [heq]
    exact related_of_lookup hview (hns name hlookedUp) hnone hsome

/-- The sessions of other users are as they were in `c`. -/
def OthersUntouched (u : String) (c : Cluster) (w : World) : Prop :=
  ∀ ns n x, c.get ns n = some x → ¬Owned u x → w.cluster.get ns n = some x

theorem handle_leaves_others (hview : env.cacheView = id) {c : Cluster} (hunique : c.Unique)
    (user : User) (request : Request) :
    Triple (serve env) (fun w => w.cluster = c) (api.handle user request)
      (fun _ => OthersUntouched user.safeUsername c)
      (fun _ => OthersUntouched user.safeUsername c) := by
  cases hlookedUp : api.lookedUp user request with
  | none =>
    have hreads : Triple (serve env) (fun w => w.cluster = c) (api.handle user request)
        (fun _ w => w.cluster = c) (fun _ w => w.cluster = c) := by
      apply (handle_lists hlookedUp).triple
      rintro call w hcall rfl
      unfold serve
      split
      · rfl
      · cases call <;> first | rfl | exact hcall.elim
    apply hreads.weaken (fun w hw => hw)
    · rintro _ w rfl ns n x hx -
      exact hx
    · rintro _ w rfl ns n x hx -
      exact hx
  | some name =>
    obtain ⟨f, e, heq, hnone, hsome, -⟩ := handle_looksUp hlookedUp
    rw [heq]
    apply Triple.bind _ (getServer_triple.weaken (fun w hw => hw) (fun _ _ h => h) _)
    · rintro (_ | server)
      · rw [hnone]
        refine triple_raise ?_
        rintro w ⟨rfl, -⟩ ns n x hx -
        exact hx
      · intro w hw
        obtain ⟨hcluster, hfound⟩ := hw
        obtain ⟨⟨ns₀, x₀, hget, rfl⟩, howned⟩ := hfound server rfl
        rw [hview, id_eq, or_self] at hget
        have hframe : Triple (serve env)
            (fun w => ∀ ns n, n ≠ name → w.cluster.get ns n = c.get ns n) _ _ _ :=
          (hsome x₀.server).triple fun call w hcall hw ns n hn => by
            rw [serve_frame hcall w hn, hw ns n hn]
        have hother : ∀ w : World, (∀ ns n, n ≠ name → w.cluster.get ns n = c.get ns n) →
            OthersUntouched user.safeUsername c w := by
          intro w hw ns n x hx hnot
          have hn : n ≠ name := by
            rintro rfl
            obtain rfl := hunique n ns ns₀ (by rw [hx]; rfl) (by rw [hget]; rfl)
            rw [hget] at hx
            exact hnot (Option.some.inj hx ▸ howned)
          rw [hw ns n hn, hx]
        apply hframe.weaken (fun w hw => hw) (fun _ w => hother w) (fun _ w => hother w)
        intro ns n _
        rw [hcluster]
    · rintro e w rfl ns n x hx -
      exact hx

/-- Another user's servers can be neither observed nor modified. -/
theorem requests_isolated (hview : env.cacheView = id) (user : User) (request : Request)
    (hns : ∀ name ∈ api.lookedUp user request, api.client.bypassCacheOnFailure = true →
      api.client.sessionNs ≠ some api.client.renkuNs) {w w' : World} (h : Agree user.safeUsername w w') :
    respond (execute env (api.handle user request) w).1 =
        respond (execute env (api.handle user request) w').1 ∧
      OthersUntouched user.safeUsername w.cluster (execute env (api.handle user request) w).2 := by
  constructor
  · exact congrArg respond ((handle_related hview user request hns).outcome_eq h)
  · exact (handle_leaves_others hview h.unique user request).state rfl

end Requests

/-! ### Sessions of others -/

theorem Cluster.empty_unique : Cluster.empty.Unique := by
  intro name ns ns' h
  simp [Cluster.get, Cluster.empty] at h

/-- A server with its owner and the members of its `spec`. -/
def sampleServer (ns name owner : String) (spec : List (String × Json)) : Json :=
  .obj [
    ("metadata", .obj [
      ("name", name), ("namespace", ns),
      ("labels", .obj [(usernameLabel, owner)]),
      ("annotations", .obj [])]),
    ("spec", .obj spec)]

def sampleSession (ns name owner : String) : Session where
  server := sampleServer ns name owner []
  statefulset := none
  imageSecret := none
  podLogs := fun _ => .error 404

theorem sampleNamespaces_nodup : ["renku", "sessions"].Nodup := by
  simp

/-- Everything answers and the cache is up to date. -/
def calmEnv : Env where
  faults := fun _ _ => none
  cacheView := id
  watched := ["renku", "sessions"]
  watched_nodup := sampleNamespaces_nodup
  crc := fun _ => .error .requestException
  gitStatus := fun _ => .ok none
  secretStorage := fun _ _ => .response 201 none

def sampleApi (sessionNs : Option String) : Api where
  config := defaultConfig
  client := { renkuNs := "renku", sessionNs, bypassCacheOnFailure := true }
  render := .ok
  now := "2024-01-01T00:00:00+00:00"
  decode := fun _ => .ok .null
  py := .ascii fun _ => ""

def sampleUser : RegisteredUser where
  email := "jane@example.org"
  fullName := "Jane"
  username := "jane"
  safeUsername := "jane"
  oidcIssuer := "https://example.org/auth"
  id := "1"
  accessToken := "access"
  refreshToken := "refresh"
  gitToken := some "git"
  gitTokenExpiresAt := -1
  gitlabUser := { email := "jane@example.org", name := "Jane" }

end RenkuNotebooks.Notebooks
