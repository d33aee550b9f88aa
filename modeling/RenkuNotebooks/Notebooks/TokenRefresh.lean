import RenkuNotebooks.Notebooks.TokenVariables

/-!
# Refreshing the tokens of a session

The operations of a session commute with a refresh of its document, where an added container is
refreshed as well. So the statefulset that the client patches is the one of a session that was
launched with the new tokens.
-/

namespace RenkuNotebooks.Notebooks.TokenRefresh

open Json Notebooks.Composition AmaltheaPatches

/-! ### The operations of a session -/

inductive SessionOp : PatchOp → Prop
  | steady {op : PatchOp} (h : Steady op) : SessionOp op
  | container (c : Json) :
      SessionOp (.add "/statefulset/spec/template/spec/containers/-" c)
  | initContainer (c : Json) :
      SessionOp (.add "/statefulset/spec/template/spec/initContainers/-" c)
  | storageMount (i : Nat) (storage : RCloneStorage) :
      SessionOp (.add "/statefulset/spec/template/spec/initContainers/2/env/-"
        (storageMountEnv i storage))

/-- A variable of a container that the service adds. -/
structure Regular (v : TokenVariable) : Prop where
  listed : v.listName = "containers" ∨ v.listName = "initContainers"
  added : v.container ≠ "jupyter-server" ∧ v.container ≠ "oauth2-proxy"
  noMount : ∀ i storage, ¬ named v.variable_ (storageMountEnv i storage)

section Commute

variable (v : TokenVariable) (tokens : RenkuTokens)

def docLocation : List String := podSpec ++ [v.listName]

def refreshDoc (doc : Json) : Json := mapAt (docLocation v) (mapElems (v.refreshContainer tokens)) doc

/-- What is added to the list is refreshed first. -/
def refreshOp : PatchOp → PatchOp
  | .add path value =>
    if JsonPointer.parse path = some (docLocation v ++ ["-"]) then
      .add path (v.refreshContainer tokens value)
    else .add path value
  | op => op

theorem docLocation_eq (hv : Regular v) :
    docLocation v = containersLoc ∨ docLocation v = initContainersLoc := by
  rcases hv.listed with h | h
  · exact Or.inl (by rw [docLocation, h]; rfl)
  · exact Or.inr (by rw [docLocation, h]; rfl)

theorem docLocation_named (hv : Regular v) : ∀ t ∈ docLocation v, Named t := by
  rcases docLocation_eq v hv with h | h
  · rw [h]
    decide
  · rw [h]
    decide

/-- An operation keeps the shape of the document. -/
theorem SessionOp.keepsShape {op : PatchOp} (hop : SessionOp op) {doc doc' : Json}
    {inits : List Json} (hshape : SessionShape doc inits) (h : op.apply doc = .ok doc') :
    ∃ inits', SessionShape doc' inits' := by
  have hkeeps : ∀ f, Simulates [op] f → ∃ inits', SessionShape doc' inits' := by
    intro f hf
    have hsim := hf doc inits hshape
    rw [applyOps_singleton, h] at hsim
    cases hinits : f inits with
    | none =>
      obtain ⟨path, hpath⟩ := hsim.2 hinits
      cases hpath
    | some inits' =>
      obtain ⟨doc₁, hdoc₁, hshape'⟩ := hsim.1 inits' hinits
      cases hdoc₁
      exact ⟨inits', hshape'⟩
  cases hop with
  | steady hsteady => exact hkeeps _ hsteady.1.simulates
  | container c => exact hkeeps _ (harmless_container c).simulates
  | initContainer c => exact hkeeps _ (simulates_addInitContainer c)
  | storageMount i storage => exact hkeeps _ (simulates_addEnvToThird _)

omit v tokens in
theorem provided_name {doc c : Json} {inits : List Json} (hshape : SessionShape doc inits)
    {i : String} (hi : i = "0" ∨ i = "1") (hc : getAt (containersLoc ++ [i]) doc = some c) :
    c.get? "name" = some (.str "jupyter-server") ∨ c.get? "name" = some (.str "oauth2-proxy") := by
  have hread : ∀ x, getAt (containersLoc ++ [i] ++ ["name"]) doc = some x →
      c.get? "name" = some x := by
    intro x hx
    rwa [getAt_append, hc, Option.bind_some, getAt_of_named (by decide), dig_singleton] at hx
  rcases hi with rfl | rfl
  · obtain ⟨x, hx, hfits⟩ := hshape.anchored
      (podSpec ++ ["containers", "0", "name"], .text "jupyter-server") (by decide)
    cases hfits
    exact Or.inl (hread _ hx)
  · obtain ⟨x, hx, hfits⟩ := hshape.anchored
      (podSpec ++ ["containers", "1", "name"], .text "oauth2-proxy") (by decide)
    cases hfits
    exact Or.inr (hread _ hx)

/-- The containers that Amalthea provides are never refreshed. -/
theorem refresh_provided (hv : Regular v) {doc c : Json} {inits : List Json}
    (hshape : SessionShape doc inits) {i : String} (hi : i = "0" ∨ i = "1")
    (hc : getAt (containersLoc ++ [i]) doc = some c) : v.refreshContainer tokens c = c := by
  apply v.refreshContainer_of_ne
  intro hnamed
  rcases provided_name hshape hi hc with hname | hname
  · rw [named, hname] at hnamed
    exact hv.added.1 (Json.str.inj (Option.some.inj hnamed)).symm
  · rw [named, hname] at hnamed
    exact hv.added.2 (Json.str.inj (Option.some.inj hnamed)).symm

/-- Changes inside a provided container. -/
theorem swap_provided (hv : Regular v) (hlist : docLocation v = containersLoc) {doc doc' : Json}
    {inits inits' : List Json} (hshape : SessionShape doc inits) (hshape' : SessionShape doc' inits')
    {i : String} (hi : i = "0" ∨ i = "1") {g : Json → Option Json}
    (h : alterAt (containersLoc ++ [i]) g doc = some doc') :
    alterAt (containersLoc ++ [i]) g (refreshDoc v tokens doc) = some (refreshDoc v tokens doc') := by
  rw [alterAt_append] at h ⊢
  have hfixed : Swaps (fun c d => v.refreshContainer tokens c = c ∧ v.refreshContainer tokens d = d)
      (v.refreshContainer tokens) g g := by
    rintro c d ⟨hc, hd⟩ hcd
    rw [hc, hd, hcd]
  have hloc : ∀ t ∈ containersLoc, Named t := by decide
  have helem : Swaps _ _ (alterChild i g) (alterChild i g) := swaps_elem hfixed
  have hswap := swaps_alterAt hloc helem
  rw [refreshDoc, refreshDoc, hlist]
  apply hswap doc doc' _ h
  intro cs ds hcs hds
  constructor
  · obtain ⟨x, hx, xs, rfl⟩ := hshape.anchored (containersLoc, .array) (by decide)
    cases hcs.symm.trans hx
    exact ⟨xs, rfl⟩
  · intro c d hc hd
    constructor
    · apply refresh_provided v tokens hv hshape hi
      rw [getAt_append, hcs]
      exact hc
    · apply refresh_provided v tokens hv hshape' hi
      rw [getAt_append, hds]
      exact hd

theorem harmlessAdd_location {ts : List String} (h : harmlessAdd ts = true)
    (hne : ts ≠ containersLoc ++ ["-"]) :
    (¬ ts <+: containersLoc ∧ ¬ containersLoc <+: ts) ∨
      ∃ i ps t, (i = "0" ∨ i = "1") ∧ ts = containersLoc ++ [i] ++ (ps ++ [t]) := by
  simp only [harmlessAdd, decide_eq_true_eq] at h
  obtain ⟨hplace, hnil, _, hfree⟩ := h
  have habove : ¬ ts <+: containersLoc := hfree containersLoc (by decide)
  by_cases hbelow : containersLoc <+: ts
  · refine Or.inr ?_
    obtain ⟨rest, rfl⟩ := hbelow
    rcases List.eq_nil_or_concat rest with rfl | ⟨init, t, rfl⟩
    · exact absurd (by simp) habove
    rw [List.concat_eq_append] at hplace hne habove hnil ⊢
    rw [← List.append_assoc, List.dropLast_concat, List.getLast?_concat] at hplace
    have hanchors : ∀ a ∈ anchors, containersLoc <+: a.1 → (a = (containersLoc, .array)) ∨
        containersLoc ++ ["0"] <+: a.1 ∨ containersLoc ++ ["1"] <+: a.1 := by decide
    cases init with
    | nil =>
      rw [List.append_nil] at hplace
      rcases hplace with ⟨ht, _⟩ | hobject
      · rw [Option.some.injEq] at ht
        subst ht
        exact absurd rfl hne
      · exact absurd hobject (by decide)
    | cons i ps =>
      refine ⟨i, ps, t, ?_, by simp⟩
      have hinside : ∀ k, (containersLoc ++ i :: ps, k) ∈ anchors → i = "0" ∨ i = "1" := by
        intro k hk
        have hstart : ∀ j, containersLoc ++ [j] <+: containersLoc ++ i :: ps → i = j := by
          intro j hj
          rw [List.prefix_append_right_inj, List.cons_prefix_cons] at hj
          exact hj.1.symm
        rcases hanchors _ hk (List.prefix_append _ _) with heq | hzero | hone
        · have hloc := congrArg Prod.fst heq
          exact absurd hloc (by simp)
        · exact Or.inl (hstart "0" hzero)
        · exact Or.inr (hstart "1" hone)
      rcases hplace with ⟨_, harray⟩ | hobject
      · exact hinside _ harray
      · exact hinside _ hobject
  · exact Or.inl ⟨habove, hbelow⟩

theorem applyAdd_eq_ok {path : String} {ts : List String} {value doc doc' : Json}
    (hparse : JsonPointer.parse path = some ts) :
    (PatchOp.add path value).apply doc = .ok doc' ↔ addAt ts value doc = some doc' := by
  simp only [PatchOp.apply, PatchOp.path, hparse, PatchOp.applyAt]
  cases addAt ts value doc with
  | none => simp
  | some doc₁ => simp

theorem steady_add_swap (hv : Regular v) {ts : List String} (h : harmlessAdd ts = true)
    (hne : ts ≠ containersLoc ++ ["-"]) {value doc doc' : Json} {inits inits' : List Json}
    (hshape : SessionShape doc inits) (hshape' : SessionShape doc' inits')
    (hadd : addAt ts value doc = some doc') :
    addAt ts value (refreshDoc v tokens doc) = some (refreshDoc v tokens doc') := by
  have hseparate : ¬ ts <+: docLocation v → ¬ docLocation v <+: ts →
      addAt ts value (refreshDoc v tokens doc) = some (refreshDoc v tokens doc') := by
    intro habove hbelow
    exact swaps_addAt_of_separate (docLocation_named v hv) habove hbelow value doc doc' trivial hadd
  rcases docLocation_eq v hv with hlist | hlist
  · rcases harmlessAdd_location h hne with ⟨habove, hbelow⟩ | ⟨i, ps, t, hi, rfl⟩
    · apply hseparate
      · rwa [hlist]
      · rwa [hlist]
    · rw [← List.append_assoc, addAt_snoc, alterAt_append] at hadd ⊢
      exact swap_provided v tokens hv hlist hshape hshape' hi hadd
  · simp only [harmlessAdd, decide_eq_true_eq] at h
    obtain ⟨_, _, hdrop, hfree⟩ := h
    have habove : ¬ ts <+: initContainersLoc := hfree initContainersLoc List.mem_cons_self
    apply hseparate
    · rwa [hlist]
    · rw [hlist]
      intro hstart
      obtain ⟨rest, rfl⟩ := hstart
      rcases List.eq_nil_or_concat rest with rfl | ⟨init, t, rfl⟩
      · exact habove (by simp)
      · rw [List.concat_eq_append, ← List.append_assoc, List.dropLast_concat] at hdrop
        exact hdrop (List.prefix_append _ _)

theorem upstreamArg_swap (hv : Regular v) {value doc doc' : Json} {inits inits' : List Json}
    (hshape : SessionShape doc inits) (hshape' : SessionShape doc' inits')
    (h : replaceAt upstreamArgLoc value doc = some doc') :
    replaceAt upstreamArgLoc value (refreshDoc v tokens doc) = some (refreshDoc v tokens doc') := by
  rcases docLocation_eq v hv with hlist | hlist
  · have hloc : upstreamArgLoc = containersLoc ++ ["1"] ++ ["args", "6"] := rfl
    rw [replaceAt, hloc, alterAt_append] at h ⊢
    exact swap_provided v tokens hv hlist hshape hshape' (Or.inr rfl) h
  · have hswap : Swaps Anywhere (refreshDoc v tokens) (replaceAt upstreamArgLoc value)
        (replaceAt upstreamArgLoc value) := by
      apply swaps_alterAt_of_separate (docLocation_named v hv)
      · rw [hlist]
        decide
      · rw [hlist]
        decide
    exact hswap doc doc' trivial h

/-- The names of the provided containers read as before. -/
theorem getAt_name_refreshDoc (hv : Regular v) {doc : Json} {inits : List Json}
    (hshape : SessionShape doc inits) {i : String} (hi : i = "0" ∨ i = "1") :
    getAt (containersLoc ++ [i, "name"]) (refreshDoc v tokens doc) =
      getAt (containersLoc ++ [i, "name"]) doc := by
  rcases docLocation_eq v hv with hlist | hlist
  · obtain ⟨x, hx, xs, rfl⟩ := hshape.anchored (containersLoc, .array) (by decide)
    have hlocated : ∀ t ∈ containersLoc, Named t := by decide
    rw [refreshDoc, hlist, getAt_append, getAt_append, getAt_mapAt hlocated, hx]
    rw [Option.map_some, Option.bind_some, Option.bind_some, mapElems, getAt_cons, getAt_cons,
      child, child]
    have helem : ∀ j (ys : List Json), elemAt i j (ys.map (v.refreshContainer tokens)) =
        (elemAt i j ys).map (v.refreshContainer tokens) := by
      intro j ys
      induction ys generalizing j with
      | nil => rfl
      | cons y ys ih =>
        rw [List.map_cons, elemAt, elemAt]
        split
        · rfl
        · exact ih (j + 1)
    rw [helem]
    cases elemAt i 0 xs with
    | none => rfl
    | some c =>
      have hname : ∀ t ∈ ["name"], Named t := by decide
      rw [Option.map_some, Option.bind_some, Option.bind_some, getAt_of_named hname,
        getAt_of_named hname, dig_singleton, dig_singleton, v.refreshContainer_name]
  · apply getAt_mapAt_of_separate (docLocation_named v hv)
    · rw [hlist]
      rcases hi with rfl | rfl
      · decide
      · decide
    · rw [hlist]
      rcases hi with rfl | rfl
      · decide
      · decide

theorem steady_refreshOp (hv : Regular v) {op : PatchOp} (h : Steady op) :
    refreshOp v tokens op = op := by
  obtain ⟨hop, hne⟩ := h
  cases hop with
  | @add path ts value hparse hadd =>
    rw [PatchOp.path, hparse] at hne
    rw [refreshOp, hparse, if_neg]
    rcases docLocation_eq v hv with hlist | hlist
    · rwa [hlist]
    · rw [hlist]
      intro heq
      simp only [harmlessAdd, decide_eq_true_eq, Option.some.inj heq] at hadd
      exact hadd.2.2.1 (by simp)
  | replace value hparse => rfl
  | test hparse hanchor => rfl

theorem test_refreshes (hv : Regular v) {path i : String} {value doc doc' : Json}
    {inits : List Json} (hshape : SessionShape doc inits) (hi : i = "0" ∨ i = "1")
    (hparse : JsonPointer.parse path = some (containersLoc ++ [i, "name"]))
    (h : (PatchOp.test path value).apply doc = .ok doc') :
    (PatchOp.test path value).apply (refreshDoc v tokens doc) = .ok (refreshDoc v tokens doc') := by
  simp only [PatchOp.apply, PatchOp.path, hparse, PatchOp.applyAt] at h ⊢
  rw [getAt_name_refreshDoc v tokens hv hshape hi]
  cases hfound : getAt (containersLoc ++ [i, "name"]) doc with
  | none => simp [hfound] at h
  | some found =>
    rw [hfound] at h
    dsimp only at h ⊢
    split at h
    · next heq =>
      cases h
      rw [if_pos heq]
    · cases h

/-- An element added to one of the lists. -/
theorem append_refreshes (hv : Regular v) {path : String} {loc : List String}
    (hloc : loc = containersLoc ∨ loc = initContainersLoc)
    (hparse : JsonPointer.parse path = some (loc ++ ["-"])) {c doc doc' : Json}
    {inits : List Json} (hshape : SessionShape doc inits)
    (h : (PatchOp.add path c).apply doc = .ok doc') :
    (refreshOp v tokens (.add path c)).apply (refreshDoc v tokens doc) =
      .ok (refreshDoc v tokens doc') := by
  rw [applyAdd_eq_ok hparse] at h
  have harray : ∃ xs, getAt loc doc = some (.arr xs) := by
    rcases hloc with rfl | rfl
    · obtain ⟨x, hx, xs, rfl⟩ := hshape.anchored (containersLoc, .array) (by decide)
      exact ⟨xs, hx⟩
    · exact ⟨inits, hshape.initContainers⟩
  by_cases hlist : loc = docLocation v
  · subst hlist
    rw [refreshOp, if_pos hparse, applyAdd_eq_ok hparse]
    rw [addAt_snoc] at h ⊢
    apply swaps_alterAt (docLocation_named v hv) (swaps_append c) doc doc' _ h
    intro x y hx hy
    obtain ⟨xs, hxs⟩ := harray
    exact Or.inl ⟨xs, Option.some.inj (hx.symm.trans hxs)⟩
  · have hne : ¬ some (loc ++ ["-"]) = some (docLocation v ++ ["-"]) := by
      intro heq
      exact hlist (List.append_cancel_right (Option.some.inj heq))
    rw [refreshOp, hparse, if_neg hne, applyAdd_eq_ok hparse]
    have hseparate : ¬ loc ++ ["-"] <+: docLocation v ∧ ¬ docLocation v <+: loc ++ ["-"] := by
      rcases docLocation_eq v hv with hv' | hv' <;> rw [hv'] at hlist ⊢ <;>
        rcases hloc with rfl | rfl
      · exact absurd rfl hlist
      · decide
      · decide
      · exact absurd rfl hlist
    exact swaps_addAt_of_separate (docLocation_named v hv) hseparate.1 hseparate.2 c doc doc'
      trivial h

theorem swaps_addEnv {value : Json} (hvalue : ¬ named v.variable_ value) :
    Swaps Anywhere (v.refreshContainer tokens) (alterAt ["env"] (insertChild "-" value))
      (alterAt ["env"] (insertChild "-" value)) := by
  intro x y _ hy
  have hname : y.get? "name" = x.get? "name" := by
    have hchild : child "name" y = child "name" x := child_alterChild_of_ne (by decide) hy
    rwa [child_of_named (by decide), child_of_named (by decide)] at hchild
  by_cases hx : named v.container x
  · have hy' : named v.container y := hname.trans hx
    have hfixed := v.refreshVariable_of_ne tokens hvalue
    have hswap : Swaps _ (mapElems (v.refreshVariable tokens)) _ _ := swaps_append value
    rw [hfixed] at hswap
    rw [v.refreshContainer_of_named tokens hx, v.refreshContainer_of_named tokens hy']
    apply swaps_alterAt (by decide) hswap x y _ hy
    exact fun _ _ _ _ => Or.inr rfl
  · have hy' : ¬ named v.container y := by
      rw [named, hname]
      exact hx
    rw [v.refreshContainer_of_ne tokens hx, v.refreshContainer_of_ne tokens hy', hy]

theorem storageMount_refreshes (hv : Regular v) (i : Nat) (storage : RCloneStorage)
    {doc doc' : Json} {inits : List Json} (hshape : SessionShape doc inits)
    (h : (PatchOp.add "/statefulset/spec/template/spec/initContainers/2/env/-"
      (storageMountEnv i storage)).apply doc = .ok doc') :
    (refreshOp v tokens (.add "/statefulset/spec/template/spec/initContainers/2/env/-"
      (storageMountEnv i storage))).apply (refreshDoc v tokens doc) =
        .ok (refreshDoc v tokens doc') := by
  let envLoc := initContainersLoc ++ ["2", "env"]
  have hparse : JsonPointer.parse "/statefulset/spec/template/spec/initContainers/2/env/-" =
      some (envLoc ++ ["-"]) := by decide
  have hother : ¬ some (envLoc ++ ["-"]) = some (docLocation v ++ ["-"]) := by
    rcases docLocation_eq v hv with hlist | hlist
    · rw [hlist]
      decide
    · rw [hlist]
      decide
  rw [applyAdd_eq_ok hparse] at h
  rw [refreshOp, hparse, if_neg hother, applyAdd_eq_ok hparse]
  rcases docLocation_eq v hv with hlist | hlist
  · apply swaps_addAt_of_separate (docLocation_named v hv) _ _ _ doc doc' trivial h
    · rw [hlist]
      decide
    · rw [hlist]
      decide
  · have hsplit : envLoc = initContainersLoc ++ ["2", "env"] := rfl
    have helem : Swaps _ _ (alterChild "2" (alterAt ["env"] (insertChild "-" (storageMountEnv i storage))))
        (alterChild "2" (alterAt ["env"] (insertChild "-" (storageMountEnv i storage)))) :=
      swaps_elem (swaps_addEnv v tokens (hv.noMount i storage))
    rw [addAt_snoc, hsplit, alterAt_append] at h ⊢
    rw [refreshDoc, refreshDoc, hlist]
    apply swaps_alterAt (by decide) helem doc doc' _ h
    intro x y hx hy
    exact ⟨⟨inits, Option.some.inj (hx.symm.trans hshape.initContainers)⟩, fun _ _ _ _ => trivial⟩

theorem SessionOp.refreshes (hv : Regular v) {op : PatchOp} (hop : SessionOp op) {doc doc' : Json}
    {inits : List Json} (hshape : SessionShape doc inits) (h : op.apply doc = .ok doc') :
    (refreshOp v tokens op).apply (refreshDoc v tokens doc) = .ok (refreshDoc v tokens doc') := by
  cases hop with
  | container c =>
    exact append_refreshes v tokens hv (Or.inl rfl) (by decide) hshape h
  | initContainer c =>
    exact append_refreshes v tokens hv (Or.inr rfl) (by decide) hshape h
  | storageMount i storage => exact storageMount_refreshes v tokens hv i storage hshape h
  | steady hsteady =>
    obtain ⟨inits', hshape'⟩ := (SessionOp.steady hsteady).keepsShape hshape h
    rw [steady_refreshOp v tokens hv hsteady]
    obtain ⟨hharmless, hne⟩ := hsteady
    cases hharmless with
    | @add path ts value hparse hadd =>
      rw [applyAdd_eq_ok hparse] at h ⊢
      rw [PatchOp.path, hparse] at hne
      exact steady_add_swap v tokens hv hadd (fun heq => hne (by rw [heq])) hshape hshape' h
    | @replace path value hparse =>
      have hreplace := upstreamArg_swap v tokens hv hshape hshape' (replaceAt_of_apply hparse h)
      simp only [PatchOp.apply, PatchOp.path, hparse, PatchOp.applyAt, hreplace]
      rfl
    | @test path ts name hparse hanchor =>
      have hplace : ∀ a ∈ anchors, a.2 = .text name →
          a.1 = containersLoc ++ ["0", "name"] ∨ a.1 = containersLoc ++ ["1", "name"] := by
        simp only [anchors, List.forall_mem_cons]
        simp [containersLoc, podSpec]
      rcases hplace _ hanchor rfl with rfl | rfl
      · exact test_refreshes v tokens hv hshape (Or.inl rfl) hparse h
      · exact test_refreshes v tokens hv hshape (Or.inr rfl) hparse h

theorem storageMount_refreshOp (hv : Regular v) (value : Json) :
    refreshOp v tokens (.add "/statefulset/spec/template/spec/initContainers/2/env/-" value) =
      .add "/statefulset/spec/template/spec/initContainers/2/env/-" value := by
  have hother : ¬ JsonPointer.parse "/statefulset/spec/template/spec/initContainers/2/env/-" =
      some (docLocation v ++ ["-"]) := by
    rcases docLocation_eq v hv with hlist | hlist
    · rw [hlist]
      decide
    · rw [hlist]
      decide
  rw [refreshOp, if_neg hother]

theorem SessionOp.refreshOp {op : PatchOp} (hv : Regular v) (hop : SessionOp op) :
    SessionOp (refreshOp v tokens op) := by
  cases hop with
  | steady h =>
    rw [steady_refreshOp v tokens hv h]
    exact .steady h
  | container c =>
    rw [TokenRefresh.refreshOp]
    split
    · exact .container _
    · exact .container _
  | initContainer c =>
    rw [TokenRefresh.refreshOp]
    split
    · exact .initContainer _
    · exact .initContainer _
  | storageMount i storage =>
    rw [storageMount_refreshOp v tokens hv]
    exact .storageMount i storage

theorem run_refreshes (hv : Regular v) {ops : List PatchOp} (hops : ∀ op ∈ ops, SessionOp op)
    {doc doc' : Json} {inits : List Json} (hshape : SessionShape doc inits)
    (h : applyOps ops doc = .ok doc') :
    applyOps (ops.map (refreshOp v tokens)) (refreshDoc v tokens doc) =
      .ok (refreshDoc v tokens doc') := by
  induction ops generalizing doc inits with
  | nil =>
    cases h
    rfl
  | cons op ops ih =>
    obtain ⟨doc₁, hop, hrest⟩ := applyOps_cons_eq_ok h
    have hsession := hops op List.mem_cons_self
    obtain ⟨inits₁, hshape₁⟩ := hsession.keepsShape hshape hop
    rw [List.map_cons, applyOps, hsession.refreshes v tokens hv hshape hop]
    exact ih (fun o ho => hops o (List.mem_cons_of_mem _ ho)) hshape₁ hrest

end Commute

/-! ### The containers named after the proxy -/

section Proxies

variable {doc doc' : Json} {inits inits' : List Json}

def isProxy (container : Json) : Bool := decide (container.get? "name" = some (.str "git-proxy"))

def proxiesIn (doc : Json) : List Json :=
  match getAt containersLoc doc with
  | some (.arr containers) => containers.filter isProxy
  | _ => []

def addedContainer : PatchOp → List Json
  | .add path c => if JsonPointer.parse path = some (containersLoc ++ ["-"]) then [c] else []
  | _ => []

theorem proxiesIn_of_same (h : getAt containersLoc doc' = getAt containersLoc doc) :
    proxiesIn doc' = proxiesIn doc := by
  rw [proxiesIn, proxiesIn, h]

theorem isProxy_provided (hshape : SessionShape doc inits) {i : String} (hi : i = "0" ∨ i = "1")
    {c : Json} (hc : getAt (containersLoc ++ [i]) doc = some c) : isProxy c = false := by
  apply decide_eq_false
  rcases provided_name hshape hi hc with hname | hname
  · rw [hname]
    decide
  · rw [hname]
    decide

theorem proxiesIn_provided (hshape : SessionShape doc inits) (hshape' : SessionShape doc' inits')
    {i : String} (hi : i = "0" ∨ i = "1") {g : Json → Option Json}
    (h : alterAt (containersLoc ++ [i]) g doc = some doc') : proxiesIn doc' = proxiesIn doc := by
  rw [alterAt_append] at h
  obtain ⟨x, y, hx, hxy, hy⟩ := exists_of_alterAt h
  obtain ⟨x', hx', cs, rfl⟩ := hshape.anchored (containersLoc, .array) (by decide)
  cases hx.symm.trans hx'
  obtain ⟨ds, hds, rfl⟩ := Option.map_eq_some_iff.mp hxy
  rw [proxiesIn, proxiesIn, hx, hy]
  apply filter_alterElem _ _ hds
  · intro c hc
    apply isProxy_provided hshape hi
    rw [getAt_append, hx, Option.bind_some, getAt_cons, child, hc]
    rfl
  · intro d hd
    apply isProxy_provided hshape' hi
    rw [getAt_append, hy, Option.bind_some, getAt_cons, child, hd]
    rfl

theorem proxiesIn_separate {ps : List String} {t : String} {value j : Json}
    (hadd : addAt (ps ++ [t]) value doc = some doc') (hj : getAt ps doc = some j)
    (hend : InsertsAtEnd t j) (hshape : SessionShape doc inits)
    (habove : ¬ ps ++ [t] <+: containersLoc) (hbelow : ¬ containersLoc <+: ps ++ [t]) :
    proxiesIn doc' = proxiesIn doc := by
  apply proxiesIn_of_same
  obtain ⟨x, hx, _⟩ := hshape.anchored (containersLoc, .array) (by decide)
  obtain ⟨y, hy, _, heq⟩ := getAt_addAt hadd hj hend habove hx
  rw [hx, hy, heq fun hstart => hbelow (hstart.trans (List.prefix_append ps [t]))]

theorem SessionOp.proxies {op : PatchOp} (hop : SessionOp op) (hshape : SessionShape doc inits)
    (h : op.apply doc = .ok doc') :
    proxiesIn doc' = proxiesIn doc ++ (addedContainer op).filter isProxy := by
  obtain ⟨inits', hshape'⟩ := hop.keepsShape hshape h
  cases hop with
  | container c =>
    have hparse : JsonPointer.parse "/statefulset/spec/template/spec/containers/-" =
        some (containersLoc ++ ["-"]) := by decide
    rw [applyAdd_eq_ok hparse] at h
    obtain ⟨x, hx, cs, rfl⟩ := hshape.anchored (containersLoc, .array) (by decide)
    obtain ⟨doc₁, hdoc₁, hread⟩ := addAt_end_eq_some hx c
    cases h.symm.trans hdoc₁
    rw [proxiesIn, proxiesIn, hread, hx, addedContainer, if_pos hparse]
    exact List.filter_append cs [c]
  | initContainer c =>
    have hparse : JsonPointer.parse "/statefulset/spec/template/spec/initContainers/-" =
        some (initContainersLoc ++ ["-"]) := by decide
    have hother : ¬ some (initContainersLoc ++ ["-"]) = some (containersLoc ++ ["-"]) := by decide
    rw [applyAdd_eq_ok hparse] at h
    rw [addedContainer, hparse, if_neg hother, List.filter_nil, List.append_nil]
    exact proxiesIn_separate h hshape.initContainers (Or.inl rfl) hshape (by decide) (by decide)
  | storageMount i storage =>
    let envLoc := initContainersLoc ++ ["2", "env"]
    have hparse : JsonPointer.parse "/statefulset/spec/template/spec/initContainers/2/env/-" =
        some (envLoc ++ ["-"]) := by decide
    have hother : ¬ some (envLoc ++ ["-"]) = some (containersLoc ++ ["-"]) := by decide
    rw [applyAdd_eq_ok hparse, addAt_snoc] at h
    rw [addedContainer, hparse, if_neg hother, List.filter_nil, List.append_nil]
    exact proxiesIn_of_same (getAt_alterAt_of_separate (by decide) (by decide) h)
  | steady hsteady =>
    obtain ⟨hharmless, hne⟩ := hsteady
    cases hharmless with
    | @add path ts value hparse hadd =>
      rw [PatchOp.path, hparse] at hne
      rw [applyAdd_eq_ok hparse] at h
      rw [addedContainer, hparse, if_neg hne, List.filter_nil, List.append_nil]
      rcases harmlessAdd_location hadd (fun heq => hne (by rw [heq])) with
        ⟨habove, hbelow⟩ | ⟨i, ps, t, hi, rfl⟩
      · rcases List.eq_nil_or_concat ts with rfl | ⟨ps, t, rfl⟩
        · exact absurd List.nil_prefix habove
        · rw [List.concat_eq_append] at *
          obtain ⟨j, hj, hend, _⟩ := hshape.insertsAtEnd hadd
          exact proxiesIn_separate h hj hend hshape habove hbelow
      · rw [← List.append_assoc, addAt_snoc, alterAt_append] at h
        exact proxiesIn_provided hshape hshape' hi h
    | @replace path value hparse =>
      have hreplace := replaceAt_of_apply hparse h
      have hloc : upstreamArgLoc = containersLoc ++ ["1"] ++ ["args", "6"] := rfl
      rw [replaceAt, hloc, alterAt_append] at hreplace
      have hnone : addedContainer (.replace path value) = [] := rfl
      rw [hnone, List.filter_nil, List.append_nil]
      exact proxiesIn_provided hshape hshape' (Or.inr rfl) hreplace
    | @test path ts name hparse hanchor =>
      simp only [PatchOp.apply, PatchOp.path, hparse, PatchOp.applyAt] at h
      have hsame : doc' = doc := by
        split at h
        · cases h
        · split at h
          · cases h
            rfl
          · cases h
      have hnone : addedContainer (.test path (.str name)) = [] := rfl
      rw [hsame, hnone, List.filter_nil, List.append_nil]

theorem run_proxies {ops : List PatchOp} (hops : ∀ op ∈ ops, SessionOp op)
    (hshape : SessionShape doc inits) (h : applyOps ops doc = .ok doc') :
    proxiesIn doc' = proxiesIn doc ++ (ops.flatMap addedContainer).filter isProxy := by
  induction ops generalizing doc inits with
  | nil =>
    cases h
    simp
  | cons op ops ih =>
    obtain ⟨doc₁, hop, hrest⟩ := applyOps_cons_eq_ok h
    have hsession := hops op List.mem_cons_self
    obtain ⟨inits₁, hshape₁⟩ := hsession.keepsShape hshape hop
    rw [ih (fun o ho => hops o (List.mem_cons_of_mem _ ho)) hshape₁ hrest,
      hsession.proxies hshape hop, List.flatMap_cons, List.filter_append, List.append_assoc]

end Proxies

/-! ### All variables -/

section AllVariables

variable (tokens : RenkuTokens)

def refreshOps (ops : List PatchOp) : List PatchOp :=
  tokenVariables.foldl (fun ops v => ops.map (refreshOp v tokens)) ops

theorem runs_refresh {vs : List TokenVariable} (hvs : ∀ v ∈ vs, Regular v) {base : Json}
    {inits : List Json} (hbase : SessionShape base inits)
    (hfixed : ∀ v ∈ vs, refreshDoc v tokens base = base) {ops : List PatchOp} {doc : Json}
    (hops : ∀ op ∈ ops, SessionOp op) (h : applyOps ops base = .ok doc) :
    applyOps (vs.foldl (fun ops v => ops.map (refreshOp v tokens)) ops) base =
      .ok (vs.foldl (fun doc v => refreshDoc v tokens doc) doc) := by
  induction vs generalizing ops doc with
  | nil => exact h
  | cons v vs ih =>
    have hv := hvs v List.mem_cons_self
    have hrun := run_refreshes v tokens hv hops hbase h
    rw [hfixed v List.mem_cons_self] at hrun
    apply ih (fun w hw => hvs w (List.mem_cons_of_mem _ hw))
      (fun w hw => hfixed w (List.mem_cons_of_mem _ hw)) _ hrun
    intro op hop
    obtain ⟨op₀, hop₀, rfl⟩ := List.mem_map.mp hop
    exact (hops op₀ hop₀).refreshOp v tokens hv

theorem append_ne {a s : String} (h : ¬ a.toList <+: s.toList) (b : String) : a ++ b ≠ s := by
  rintro rfl
  rw [String.toList_append] at h
  exact h (List.prefix_append _ _)

theorem tokenVariables_regular : ∀ v ∈ tokenVariables, Regular v := by
  have hmount : ∀ name : String, ¬ "GIT_CLONE_STORAGE_MOUNTS_".toList <+: name.toList →
      ∀ i storage, ¬ named name (storageMountEnv i storage) := by
    intro name hname i storage hnamed
    have heq : "GIT_CLONE_STORAGE_MOUNTS_" ++ toString i = name := by
      simpa [named, storageMountEnv, envVar, get?, getMember] using hnamed
    exact append_ne hname _ heq
  simp only [tokenVariables, List.forall_mem_cons]
  refine ⟨⟨?_, ?_, hmount _ ?_⟩, ⟨?_, ?_, hmount _ ?_⟩, ⟨?_, ?_, hmount _ ?_⟩,
    ⟨?_, ?_, hmount _ ?_⟩, List.forall_mem_nil _⟩
  all_goals decide

@[simp] theorem refreshOps_append (ops ops' : List PatchOp) :
    refreshOps tokens (ops ++ ops') = refreshOps tokens ops ++ refreshOps tokens ops' := by
  simp [refreshOps, tokenVariables]

theorem refreshOps_of_fixed {ops : List PatchOp}
    (h : ∀ op ∈ ops, ∀ v ∈ tokenVariables, refreshOp v tokens op = op) :
    refreshOps tokens ops = ops := by
  have hfixed : ∀ v ∈ tokenVariables, ops.map (refreshOp v tokens) = ops := by
    intro v hv
    rw [List.map_congr_left fun op hop => h op hop v hv, List.map_id']
  simp only [tokenVariables, List.forall_mem_cons] at hfixed
  simp only [refreshOps, tokenVariables, List.foldl_cons, List.foldl_nil, hfixed]

def refreshProxy (container : Json) : Json :=
  proxyRefresh.refreshContainer tokens (proxyAccess.refreshContainer tokens container)

def refreshInit (container : Json) : Json :=
  secretsAccess.refreshContainer tokens (cloneAccess.refreshContainer tokens container)

theorem refreshOps_container (c : Json) :
    refreshOps tokens [.add "/statefulset/spec/template/spec/containers/-" c] =
      [.add "/statefulset/spec/template/spec/containers/-" (refreshProxy tokens c)] := by
  have hregular : JsonPointer.parse "/statefulset/spec/template/spec/containers/-" =
      some (podSpec ++ ["containers"] ++ ["-"]) := by decide
  have hinit : ¬ some (podSpec ++ ["containers"] ++ ["-"]) =
      some (podSpec ++ ["initContainers"] ++ ["-"]) := by decide
  simp only [refreshOps, tokenVariables, List.foldl_cons, List.foldl_nil, List.map_cons,
    List.map_nil, refreshOp, docLocation, proxyAccess, proxyRefresh, cloneAccess, secretsAccess,
    hregular, if_true, hinit, if_false]
  rfl

theorem refreshOps_initContainer (c : Json) :
    refreshOps tokens [.add "/statefulset/spec/template/spec/initContainers/-" c] =
      [.add "/statefulset/spec/template/spec/initContainers/-" (refreshInit tokens c)] := by
  have hinit : JsonPointer.parse "/statefulset/spec/template/spec/initContainers/-" =
      some (podSpec ++ ["initContainers"] ++ ["-"]) := by decide
  have hregular : ¬ some (podSpec ++ ["initContainers"] ++ ["-"]) =
      some (podSpec ++ ["containers"] ++ ["-"]) := by decide
  simp only [refreshOps, tokenVariables, List.foldl_cons, List.foldl_nil, List.map_cons,
    List.map_nil, refreshOp, docLocation, proxyAccess, proxyRefresh, cloneAccess, secretsAccess,
    hregular, if_true, hinit, if_false]
  rfl

theorem refreshInit_of_ne {container : Json} (hclone : ¬ named "git-clone" container)
    (hsecrets : ¬ named "init-user-secrets" container) :
    refreshInit tokens container = container := by
  rw [refreshInit, cloneAccess.refreshContainer_of_ne tokens hclone,
    secretsAccess.refreshContainer_of_ne tokens hsecrets]

theorem refreshProxy_of_ne {container : Json} (h : ¬ named "git-proxy" container) :
    refreshProxy tokens container = container := by
  rw [refreshProxy, proxyAccess.refreshContainer_of_ne tokens h,
    proxyRefresh.refreshContainer_of_ne tokens h]

end AllVariables

/-! ### The same session with other tokens -/

def withTokens (server : UserServer) (tokens : RenkuTokens) : UserServer :=
  match server.user with
  | .anonymous _ => server
  | .registered u => { server with
    user := .registered { u with
      accessToken := tokens.accessToken
      refreshToken := tokens.refreshToken } }

/-- The operations are those of a session, and those of the other session are the refreshed
ones. -/
structure Refreshes (tokens : RenkuTokens) (ops ops' : List PatchOp) (proxies : List Json) :
    Prop where
  session : ∀ op ∈ ops, SessionOp op
  refreshed : refreshOps tokens ops = ops'
  added : (ops.flatMap addedContainer).filter isProxy = proxies

section Builders

variable (config : Config) (py : PyText.Str) (server : UserServer) (tokens : RenkuTokens)
variable {u : RegisteredUser} (huser : server.user = .registered u)

theorem Refreshes.append {ops ops' qs qs' : List PatchOp} {cs ds : List Json}
    (h : Refreshes tokens ops ops' cs) (h' : Refreshes tokens qs qs' ds) :
    Refreshes tokens (ops ++ qs) (ops' ++ qs') (cs ++ ds) where
  session := List.forall_mem_append.mpr ⟨h.session, h'.session⟩
  refreshed := by rw [refreshOps_append, h.refreshed, h'.refreshed]
  added := by rw [List.flatMap_append, List.filter_append, h.added, h'.added]

theorem Refreshes.append_none {ops ops' qs qs' : List PatchOp} (h : Refreshes tokens ops ops' [])
    (h' : Refreshes tokens qs qs' []) : Refreshes tokens (ops ++ qs) (ops' ++ qs') [] :=
  h.append tokens h'

theorem steady_addedContainer {op : PatchOp} (h : Steady op) : addedContainer op = [] := by
  obtain ⟨hop, hne⟩ := h
  cases hop with
  | @add path ts value hparse hadd =>
    rw [PatchOp.path] at hne
    rw [addedContainer, if_neg hne]
  | replace value hparse => rfl
  | test hparse hanchor => rfl

theorem refreshes_of_steady {ops : List PatchOp} (h : SteadyOps ops) :
    Refreshes tokens ops ops [] where
  session op hop := .steady (h op hop)
  refreshed := by
    apply refreshOps_of_fixed
    exact fun op hop v hv => steady_refreshOp v tokens (tokenVariables_regular v hv) (h op hop)
  added := by
    rw [List.flatMap_eq_nil_iff.mpr fun op hop => steady_addedContainer (h op hop), List.filter_nil]

include huser

theorem withTokens_eq : withTokens server tokens = { server with
    user := .registered { u with
      accessToken := tokens.accessToken
      refreshToken := tokens.refreshToken } } := by
  simp only [withTokens, huser]

/-- What the other builders see of the user. -/
theorem withTokens_user :
    (withTokens server tokens).user.isRegistered = server.user.isRegistered ∧
    (withTokens server tokens).user.username = server.user.username ∧
    (withTokens server tokens).user.accessToken = some tokens.accessToken ∧
    (withTokens server tokens).user.refreshToken = some tokens.refreshToken := by
  rw [withTokens_eq server tokens huser, huser]
  exact ⟨rfl, rfl, rfl, rfl⟩

theorem withTokens_repositories : (withTokens server tokens).repositories = server.repositories := by
  rw [withTokens_eq server tokens huser]
  rfl

theorem withTokens_gitProviders : (withTokens server tokens).gitProviders = server.gitProviders := by
  rw [withTokens_eq server tokens huser]

theorem gitProxyEnv_refreshed :
    ((gitProxyEnv config py server).map (proxyAccess.refreshVariable tokens)).map
        (proxyRefresh.refreshVariable tokens) =
      gitProxyEnv config py (withTokens server tokens) := by
  obtain ⟨hregistered, _, haccess, hrefresh⟩ := withTokens_user server tokens huser
  simp [gitProxyEnv, hregistered, haccess, hrefresh, withTokens_repositories server tokens huser,
    withTokens_gitProviders server tokens huser, TokenVariable.refreshVariable, proxyAccess,
    proxyRefresh, envVar, get?, getMember, mapAt, mapMember, pyStr]

omit huser in
/-- At most one container, with the variables of the proxy. -/
def proxyContainers : List Json := (opsOf (gitProxy config py server)).flatMap addedContainer

omit huser in
theorem proxyContainers_cases :
    proxyContainers config py server = [] ∨
    ∃ container, proxyContainers config py server = [container] ∧
      named "git-proxy" container ∧
      container.get? "env" = some (.arr (gitProxyEnv config py server)) := by
  have hparse : JsonPointer.parse "/statefulset/spec/template/spec/containers/-" =
      some (containersLoc ++ ["-"]) := by decide
  have hadded : ∀ c, (opsOf [{ patch :=
      [.add "/statefulset/spec/template/spec/containers/-" c] }]).flatMap addedContainer = [c] := by
    intro c
    rw [opsOf_cons, opsOf_nil, List.append_nil, List.flatMap_singleton, addedContainer,
      if_pos hparse]
  unfold proxyContainers gitProxy
  split
  · exact Or.inl rfl
  · exact Or.inr ⟨_, hadded _, rfl, rfl⟩

theorem gitProxy_refreshes :
    Refreshes tokens (opsOf (gitProxy config py server))
      (opsOf (gitProxy config py (withTokens server tokens)))
      (proxyContainers config py server) := by
  have hadded : ((opsOf (gitProxy config py server)).flatMap addedContainer).filter isProxy =
      proxyContainers config py server := by
    rw [← proxyContainers]
    rcases proxyContainers_cases config py server with hnone | ⟨container, hone, hname, _⟩
    · rw [hnone, List.filter_nil]
    · have hproxy : isProxy container = true := decide_eq_true hname
      rw [hone, List.filter_cons_of_pos hproxy, List.filter_nil]
  refine ⟨?_, ?_, hadded⟩
  · obtain ⟨containers, _, hops⟩ := gitProxy_containers config py server
    rw [hops]
    intro op hop
    obtain ⟨c, _, rfl⟩ := List.mem_map.mp hop
    exact .container c
  · obtain ⟨hregistered, -⟩ := withTokens_user server tokens huser
    unfold gitProxy
    rw [hregistered, withTokens_repositories server tokens huser]
    split
    · rfl
    · rw [opsOf_cons, opsOf_nil, List.append_nil, refreshOps_container,
        ← gitProxyEnv_refreshed config py server tokens huser]
      simp [refreshProxy, TokenVariable.refreshContainer, proxyRefresh, proxyAccess, get?, getMember,
        mapAt, mapMember, mapElems]

omit huser in
theorem refreshVariable_numbered (v : TokenVariable) {start : String}
    (h : ¬ start.toList <+: v.variable_.toList) (i : Nat) (value : Json) :
    v.refreshVariable tokens (envVar (start ++ toString i ++ "_") value) =
      envVar (start ++ toString i ++ "_") value := by
  apply v.refreshVariable_of_ne
  intro hnamed
  have hname : start ++ toString i ++ "_" = v.variable_ := by
    simpa [named, envVar, get?, getMember] using hnamed
  rw [String.append_assoc] at hname
  exact append_ne h _ hname

theorem gitCloneEnv_refreshed :
    (gitCloneEnv config py server).map (cloneAccess.refreshVariable tokens) =
      gitCloneEnv config py (withTokens server tokens) := by
  have hrepos : ∀ i value, cloneAccess.refreshVariable tokens
      (envVar ("GIT_CLONE_REPOSITORIES_" ++ toString i ++ "_") value) =
        envVar ("GIT_CLONE_REPOSITORIES_" ++ toString i ++ "_") value :=
    refreshVariable_numbered tokens cloneAccess (by decide)
  have hproviders : ∀ i value, cloneAccess.refreshVariable tokens
      (envVar ("GIT_CLONE_GIT_PROVIDERS_" ++ toString i ++ "_") value) =
        envVar ("GIT_CLONE_GIT_PROVIDERS_" ++ toString i ++ "_") value :=
    refreshVariable_numbered tokens cloneAccess (by decide)
  have hrequired : (withTokens server tokens).requiredGitProviders =
      server.requiredGitProviders := by
    rw [withTokens_eq server tokens huser]
    rfl
  have hsame := withTokens_repositories server tokens huser
  rw [withTokens_eq server tokens huser] at hrequired hsame
  simp only [gitCloneEnv, withTokens_eq server tokens huser, huser, hrequired, hsame,
    List.map_append, List.map_map, Function.comp_def, hrepos, hproviders]
  simp [TokenVariable.refreshVariable, cloneAccess, envVar, get?, getMember, mapAt, mapMember,
    User.username, User.accessToken, User.isRegistered, pyStr]

theorem gitCloneContainer_refreshed :
    refreshInit tokens (gitCloneContainer config py server) =
      gitCloneContainer config py (withTokens server tokens) := by
  have henv := gitCloneEnv_refreshed config py server tokens huser
  have hpath : (withTokens server tokens).workspaceMountPath = server.workspaceMountPath := by
    rw [withTokens_eq server tokens huser]
  simp only [gitCloneContainer, ← henv, hpath]
  simp [refreshInit, TokenVariable.refreshContainer, cloneAccess, secretsAccess, get?, getMember,
    mapAt, mapMember, mapElems]

theorem initUserSecrets_refreshed (name : String) :
    refreshInit tokens (initUserSecrets config server name) =
      initUserSecrets config (withTokens server tokens) name := by
  obtain ⟨_, _, haccess, _⟩ := withTokens_user server tokens huser
  simp [initUserSecrets, haccess, refreshInit, TokenVariable.refreshContainer,
    TokenVariable.refreshVariable, cloneAccess, secretsAccess, envVar, get?, getMember, mapAt,
    mapMember, mapElems, pyStr]

omit huser in
theorem refreshes_initContainer {c c' : Json} (h : refreshInit tokens c = c') :
    Refreshes tokens [.add "/statefulset/spec/template/spec/initContainers/-" c]
      [.add "/statefulset/spec/template/spec/initContainers/-" c'] [] where
  session := List.forall_mem_singleton.mpr (.initContainer c)
  refreshed := by rw [refreshOps_initContainer, h]
  added := by
    have hother : ¬ JsonPointer.parse "/statefulset/spec/template/spec/initContainers/-" =
        some (containersLoc ++ ["-"]) := by decide
    rw [List.flatMap_singleton, addedContainer, if_neg hother, List.filter_nil]

theorem userSecrets_refreshes :
    Refreshes tokens (opsOf (AmaltheaPatches.userSecrets config server))
      (opsOf (AmaltheaPatches.userSecrets config (withTokens server tokens))) [] := by
  have hsame : (withTokens server tokens).userSecrets = server.userSecrets := by
    rw [withTokens_eq server tokens huser]
  unfold AmaltheaPatches.userSecrets
  rw [hsame]
  split
  · exact refreshes_of_steady tokens .nil
  · next secrets hsecrets =>
    have hrest : SteadyOps [
        .add "/statefulset/spec/template/spec/volumes/-" (memoryVolume "user-secrets-volume"),
        .add "/statefulset/spec/template/spec/volumes/-" (.obj [
          ("name", .str (secrets.name ++ "-volume")),
          ("secret", .obj [("secretName", secrets.name)])]),
        .add "/statefulset/spec/template/spec/containers/0/volumeMounts/-" (.obj [
          ("mountPath", secrets.mountPath), ("name", "user-secrets-volume"), ("readOnly", true)])] :=
      .cons (steady_volume _) (.cons (steady_volume _) (.cons (steady_mount _) .nil))
    have hinit := refreshes_initContainer tokens
      (initUserSecrets_refreshed config server tokens huser secrets.name)
    exact hinit.append tokens (refreshes_of_steady tokens hrest)

theorem gitClone_refreshes :
    Refreshes tokens (opsOf (gitClone config py server))
      (opsOf (gitClone config py (withTokens server tokens))) [] := by
  unfold gitClone
  rw [withTokens_repositories server tokens huser]
  split
  · exact refreshes_of_steady tokens .nil
  · exact refreshes_initContainer tokens
      (gitCloneContainer_refreshed config py server tokens huser)

theorem gitSidecar_refreshes :
    Refreshes tokens (opsOf (gitSidecar config server))
      (opsOf (gitSidecar config (withTokens server tokens))) [] := by
  have hsame : gitSidecar config (withTokens server tokens) = gitSidecar config server := by
    cases server
    cases huser
    rfl
  obtain ⟨containers, rest, hnames, hrest, hops⟩ := gitSidecar_containers config server
  rw [hsame, hops]
  apply Refreshes.append_none tokens _ (refreshes_of_steady tokens hrest)
  clear hops
  induction containers with
  | nil => exact refreshes_of_steady tokens .nil
  | cons c cs ih =>
    have hparse : JsonPointer.parse "/statefulset/spec/template/spec/containers/-" =
        some (containersLoc ++ ["-"]) := by decide
    have hc : ¬ named "git-proxy" c := by
      rw [named, hnames c List.mem_cons_self]
      decide
    have hcs := ih fun d hd => hnames d (List.mem_cons_of_mem _ hd)
    have hone : Refreshes tokens [.add "/statefulset/spec/template/spec/containers/-" c]
        [.add "/statefulset/spec/template/spec/containers/-" c] [] := by
      refine ⟨List.forall_mem_singleton.mpr (.container c), ?_, ?_⟩
      · rw [refreshOps_container, refreshProxy_of_ne tokens hc]
      · have hproxy : isProxy c = false := decide_eq_false hc
        rw [List.flatMap_singleton, addedContainer, if_pos hparse, List.filter_singleton, hproxy]
        rfl
    exact hone.append tokens hcs

omit huser in
theorem downloadImage_refreshes :
    Refreshes tokens (opsOf (downloadImage server)) (opsOf (downloadImage server)) [] := by
  apply refreshes_initContainer
  have hname : (downloadImageContainer server).get? "name" = some (.str "download-image") := by
    unfold downloadImageContainer
    cases server.image with
    | none => rfl
    | some image => rfl
  apply refreshInit_of_ne
  · rw [named, hname]
    decide
  · rw [named, hname]
    decide

omit huser in
theorem certificates_refreshes :
    Refreshes tokens (opsOf (certificates config)) (opsOf (certificates config)) [] := by
  obtain ⟨rest, hrest, hops⟩ := certificates_ops config
  have hname : (initCertificates config).get? "name" = some (.str "init-certificates") := rfl
  have hinit : refreshInit tokens (initCertificates config) = initCertificates config := by
    apply refreshInit_of_ne
    · rw [named, hname]
      decide
    · rw [named, hname]
      decide
  rw [hops, ← List.singleton_append]
  exact (refreshes_initContainer tokens hinit).append tokens (refreshes_of_steady tokens hrest)

omit huser in
theorem cloudstorage_refreshes {patches : List Patch}
    (h : AmaltheaPatches.cloudstorage config py server = .ok patches) :
    Refreshes tokens (opsOf patches) (opsOf patches) [] := by
  obtain ⟨patchLists, hlists, h⟩ := Results.bind_eq_ok_iff.mp h
  cases h
  have hforall := Results.forall2_of_mapM_eq_ok hlists
  clear hlists h
  generalize server.cloudstorage.zipIdx = storages at hforall
  induction hforall with
  | nil => exact refreshes_of_steady tokens .nil
  | @cons storageIdx ps storages pss hstep _ ih =>
    obtain ⟨storage, i⟩ := storageIdx
    obtain ⟨manifestPatch, hmanifest, hstep⟩ := Results.bind_eq_ok_iff.mp hstep
    cases hstep
    have hsteady := getManifestPatch_steady config py server hmanifest
    rw [List.flatten_cons, opsOf_append, opsOf_append]
    apply Refreshes.append_none tokens _ ih
    apply (refreshes_of_steady tokens hsteady).append_none tokens
    split
    · exact refreshes_of_steady tokens .nil
    · constructor
      · exact List.forall_mem_singleton.mpr (.storageMount i storage)
      · apply refreshOps_of_fixed
        intro op hop v hv
        rw [opsOf_cons, opsOf_nil, List.append_nil, List.mem_singleton] at hop
        rw [hop]
        exact storageMount_refreshOp v tokens (tokenVariables_regular v hv) _
      · have hother : ¬ JsonPointer.parse "/statefulset/spec/template/spec/initContainers/2/env/-" =
            some (containersLoc ++ ["-"]) := by decide
        rw [opsOf_cons, opsOf_nil, List.append_nil, List.flatMap_singleton, addedContainer,
          if_neg hother, List.filter_nil]

/-- The builders that do not read the tokens. -/
theorem withTokens_builders :
    test config (withTokens server tokens) = test config server ∧
    sessionTolerations config (withTokens server tokens) = sessionTolerations config server ∧
    sessionAffinity config (withTokens server tokens) = sessionAffinity config server ∧
    sessionNodeSelector config (withTokens server tokens) = sessionNodeSelector config server ∧
    priorityClass (withTokens server tokens) = priorityClass server ∧
    devShm (withTokens server tokens) = devShm server ∧
    env config (withTokens server tokens) = env config server ∧
    imagePullSecret config py (withTokens server tokens) =
      imagePullSecret config py server ∧
    rstudioEnvVariables (withTokens server tokens) = rstudioEnvVariables server ∧
    oidcUnverifiedEmail config (withTokens server tokens) = oidcUnverifiedEmail config server ∧
    downloadImage (withTokens server tokens) = downloadImage server ∧
    injectCertificates config (withTokens server tokens) = injectCertificates config server ∧
    AmaltheaPatches.cloudstorage config py (withTokens server tokens) =
      AmaltheaPatches.cloudstorage config py server := by
  cases server
  cases huser
  and_intros <;> rfl

/-- The session of the same user with other tokens has the refreshed operations. -/
theorem getPatches_refreshes
    (hnames : config.sessions.containers.registered.take 2 <+: ["jupyter-server", "oauth2-proxy"])
    {patches : List Patch} (h : server.getPatches config py = .ok patches) :
    ∃ patches', (withTokens server tokens).getPatches config py = .ok patches' ∧
      Refreshes tokens (opsOf patches) (opsOf patches') (proxyContainers config py server) := by
  obtain ⟨envPatches, henv, h⟩ := Results.bind_eq_ok_iff.mp h
  obtain ⟨pullPatches, hpull, h⟩ := Results.bind_eq_ok_iff.mp h
  obtain ⟨storagePatches, hstorage, h⟩ := Results.bind_eq_ok_iff.mp h
  rw [← Except.ok.inj h]
  obtain ⟨htest, htolerations, haffinity, hselector, hpriority, hshm, henv', hpull', hrstudio, hoidc,
    hdownload, hinject, hstorage'⟩ := withTokens_builders config py server tokens huser
  simp only [UserServer.getPatches, henv', henv, hpull', hpull, hstorage', hstorage,
    htest, htolerations, haffinity, hselector, hpriority, hshm, hrstudio, hoidc, hdownload, hinject]
  refine ⟨_, rfl, ?_⟩
  simp only [opsOf_append]
  have hsteady : ∀ {ops : List PatchOp}, SteadyOps ops → Refreshes tokens ops ops [] :=
    fun h => refreshes_of_steady tokens h
  have hregistered : server.user.isRegistered = true := by
    rw [huser]
    rfl
  have hbefore := (hsteady (test_steady config server hregistered hnames)).append tokens
    (hsteady (sessionTolerations_steady config server)) |>.append tokens
    (hsteady (sessionAffinity_steady config server)) |>.append tokens
    (hsteady (sessionNodeSelector_steady config server)) |>.append tokens
    (hsteady (priorityClass_steady server)) |>.append tokens
    (hsteady (devShm_steady server)) |>.append tokens
    (hsteady args_steady) |>.append tokens
    (hsteady (env_steady config server henv)) |>.append tokens
    (hsteady (imagePullSecret_steady config py server hpull)) |>.append tokens
    (hsteady disableServiceLinks_steady) |>.append tokens
    (hsteady (rstudioEnvVariables_steady server))
  have hsidecars := hbefore.append tokens
    (userSecrets_refreshes config server tokens huser) |>.append tokens
    (gitProxy_refreshes config py server tokens huser) |>.append tokens
    (gitSidecar_refreshes config server tokens huser) |>.append tokens
    (hsteady (oidcUnverifiedEmail_steady config server)) |>.append tokens
    (hsteady (ssh_steady config))
  have hall := hsidecars.append tokens
    (certificates_refreshes config tokens) |>.append tokens
    (downloadImage_refreshes server tokens) |>.append tokens
    (gitClone_refreshes config py server tokens huser) |>.append tokens
    (hsteady (injectCertificates_steady config server)) |>.append tokens
    (cloudstorage_refreshes config py server tokens hstorage)
  simp only [List.nil_append, List.append_nil] at hall
  exact hall

end Builders

/-! ### What the client finds -/

section Found

variable (config : Config) (py : PyText.Str) (server : UserServer)

theorem unambiguous_mount (v : TokenVariable) {value : Json} (hvalue : ¬ named v.variable_ value)
    {inits inits' : List Json} (h : v.Unambiguous inits)
    (hmount : addEnvToThird value inits = some inits') : v.Unambiguous inits' := by
  have hforall := forall₂_alterElem hmount
  have hname : ∀ a b, (b = a ∨ alterAt ["env"] (insertChild "-" value) a = some b) →
      (named v.container b ↔ named v.container a) := by
    rintro a b (rfl | hab)
    · exact Iff.rfl
    · have hchild : child "name" b = child "name" a := child_alterChild_of_ne (by decide) hab
      rw [child_of_named (by decide), child_of_named (by decide)] at hchild
      rw [named, named, hchild]
  rcases h with hnone | ⟨container, vars, found, hcontainer, henv, hfound, hhas⟩
  · refine Or.inl ?_
    intro c hc
    obtain ⟨a, ha, hab⟩ := Results.exists_of_mem_forall2 hforall hc
    rw [hname a c hab]
    exact hnone a ha
  · obtain ⟨container', hrel, hsole⟩ := hcontainer.of_forall₂ hname hforall
    refine Or.inr ⟨container', ?_⟩
    rcases hrel with rfl | halter
    · exact ⟨vars, found, hsole, henv, hfound, hhas⟩
    · obtain ⟨x, y, hx, hxy, hy⟩ := exists_of_alterAt halter
      rw [getAt_of_named (by decide), dig_singleton] at hx hy
      cases henv.symm.trans hx
      rw [insertChild, if_pos rfl] at hxy
      cases hxy
      have hother : ∀ z ∈ [value], ¬ named v.variable_ z := List.forall_mem_singleton.mpr hvalue
      exact ⟨vars ++ [value], found, hsole, hy, hfound.append hother, hhas⟩

theorem unambiguous_mounts (v : TokenVariable) (hv : Regular v)
    (storages : List (RCloneStorage × Nat)) {inits inits' : List Json} (h : v.Unambiguous inits)
    (hmounts : addStorageMounts storages inits = some inits') : v.Unambiguous inits' := by
  induction storages generalizing inits with
  | nil =>
    cases hmounts
    exact h
  | cons storage storages ih =>
    obtain ⟨mid, hmid, hrest⟩ := Option.bind_eq_some_iff.mp hmounts
    exact ih (unambiguous_mount v (hv.noMount _ _) h hmid) hrest

theorem gitCloneEnv_sole :
    ∃ found, Sole (named "GIT_CLONE_USER__RENKU_TOKEN") found (gitCloneEnv config py server) ∧
      (found.get? "value").isSome := by
  have hnumbered : ∀ {start : String}, ¬ start.toList <+: "GIT_CLONE_USER__RENKU_TOKEN".toList →
      ∀ (i : Nat) (value : Json), ¬ named "GIT_CLONE_USER__RENKU_TOKEN"
        (envVar (start ++ toString i ++ "_") value) := by
    intro start hstart i value hnamed
    have hname : start ++ toString i ++ "_" = "GIT_CLONE_USER__RENKU_TOKEN" := by
      simpa [named, envVar, get?, getMember] using hnamed
    rw [String.append_assoc] at hname
    exact append_ne hstart _ hname
  refine ⟨envVar "GIT_CLONE_USER__RENKU_TOKEN" (pyStr server.user.accessToken), ?_, rfl⟩
  rw [gitCloneEnv]
  apply Sole.append
  · apply Sole.append
    · apply Sole.append
      · refine ⟨[_, _, _], [_, _, _, _, _, _, _, _], rfl, rfl, ?_⟩
        simp [named, envVar, get?, getMember]
      · cases server.user with
        | anonymous u => simp
        | registered u => simp [named, envVar, get?, getMember]
    · intro y hy
      obtain ⟨⟨repo, i⟩, _, rfl⟩ := List.mem_map.mp hy
      exact hnumbered (by decide) i _
  · intro y hy
    obtain ⟨⟨provider, i⟩, _, rfl⟩ := List.mem_map.mp hy
    exact hnumbered (by decide) i _

/-- The names of the init containers. -/
theorem initNames :
    (initCertificates config).get? "name" = some (.str "init-certificates") ∧
    (downloadImageContainer server).get? "name" = some (.str "download-image") ∧
    (gitCloneContainer config py server).get? "name" = some (.str "git-clone") ∧
    ∀ name, (initUserSecrets config server name).get? "name" =
      some (.str "init-user-secrets") := by
  refine ⟨rfl, ?_, rfl, fun _ => rfl⟩
  unfold downloadImageContainer
  cases server.image with
  | none => rfl
  | some image => rfl

theorem not_named {c : Json} {name other : String} (h : c.get? "name" = some (.str name))
    (hne : name ≠ other) : ¬ named other c := by
  rw [named, h]
  intro heq
  exact hne (Json.str.inj (Option.some.inj heq))

theorem unambiguous_inits {inits : List Json}
    (h : initEffect config py server [] = some inits) :
    cloneAccess.Unambiguous inits ∧ secretsAccess.Unambiguous inits := by
  obtain ⟨hcerts, hdownload, hclone, hsecrets⟩ := initNames config py server
  have hmounts : ∀ v ∈ tokenVariables, v.Unambiguous (userSecretsInit config server ++
      [initCertificates config] ++ [downloadImageContainer server] ++
      gitCloneInit config py server) → v.Unambiguous inits := by
    intro v hv hlist
    rw [initEffect, List.nil_append] at h
    split at h
    · cases h
      exact hlist
    · exact unambiguous_mounts v (tokenVariables_regular v hv) _ hlist h
  have hothers : ∀ other, other ≠ "init-certificates" → other ≠ "download-image" →
      ∀ c ∈ [initCertificates config] ++ [downloadImageContainer server], ¬ named other c := by
    intro other hne hne'
    rw [List.forall_mem_append, List.forall_mem_singleton, List.forall_mem_singleton]
    exact ⟨not_named hcerts hne.symm, not_named hdownload hne'.symm⟩
  have hsecretsInit : ∀ c ∈ userSecretsInit config server, ¬ named "git-clone" c := by
    unfold userSecretsInit
    cases server.userSecrets with
    | none => simp
    | some secrets => exact List.forall_mem_singleton.mpr (not_named (hsecrets _) (by decide))
  have hcloneInit : ∀ c ∈ gitCloneInit config py server, ¬ named "init-user-secrets" c := by
    unfold gitCloneInit
    split
    · simp
    · exact List.forall_mem_singleton.mpr (not_named hclone (by decide))
  constructor
  · apply hmounts cloneAccess (by simp [tokenVariables])
    rw [List.append_assoc (userSecretsInit config server)]
    have hbefore : ∀ c ∈ userSecretsInit config server ++ ([initCertificates config] ++
        [downloadImageContainer server]), ¬ named "git-clone" c :=
      List.forall_mem_append.mpr ⟨hsecretsInit, hothers _ (by decide) (by decide)⟩
    unfold gitCloneInit
    split
    · rw [List.append_nil]
      exact Or.inl hbefore
    · obtain ⟨found, hfound, hvalue⟩ := gitCloneEnv_sole config py server
      have hsole : Sole (named "git-clone") (gitCloneContainer config py server)
          [gitCloneContainer config py server] := sole_singleton hclone
      exact Or.inr ⟨_, _, found, hsole.prepend hbefore, rfl, hfound, hvalue⟩
  · apply hmounts secretsAccess (by simp [tokenVariables])
    rw [List.append_assoc, List.append_assoc, ← List.append_assoc [initCertificates config]]
    have hafter : ∀ c ∈ [initCertificates config] ++ [downloadImageContainer server] ++
        gitCloneInit config py server, ¬ named "init-user-secrets" c :=
      List.forall_mem_append.mpr ⟨hothers _ (by decide) (by decide), hcloneInit⟩
    unfold userSecretsInit
    cases server.userSecrets with
    | none => exact Or.inl hafter
    | some secrets =>
      let token := envVar "RENKU_ACCESS_TOKEN" (pyStr server.user.accessToken)
      have hfound : Sole (named "RENKU_ACCESS_TOKEN") token [
          envVar "DATA_SERVICE_URL" config.dataServiceUrl, token,
          envVar "ENCRYPTED_SECRETS_MOUNT_PATH" "/encrypted",
          envVar "DECRYPTED_SECRETS_MOUNT_PATH" "/decrypted"] := by
        refine ⟨[_], [_, _], rfl, rfl, ?_⟩
        simp [named, envVar, get?, getMember]
      have hsole : Sole (named "init-user-secrets") (initUserSecrets config server secrets.name)
          [initUserSecrets config server secrets.name] := sole_singleton (hsecrets _)
      exact Or.inr ⟨_, _, token, hsole.append hafter, rfl, hfound, rfl⟩

/-- The containers of the proxy are the one that the service adds. -/
theorem unambiguous_proxies {containers : List Json}
    (h : containers.filter isProxy = proxyContainers config py server) :
    proxyAccess.Unambiguous containers ∧ proxyRefresh.Unambiguous containers := by
  rcases proxyContainers_cases config py server with hnone | ⟨container, hone, hname, henv⟩
  · rw [hnone, List.filter_eq_nil_iff] at h
    have hnot : ∀ c ∈ containers, ¬ named "git-proxy" c := by
      intro c hc hnamed
      exact h c hc (decide_eq_true hnamed)
    exact ⟨Or.inl hnot, Or.inl hnot⟩
  · rw [hone, List.filter_eq_cons_iff] at h
    obtain ⟨before, after, rfl, hbefore, _, hafter⟩ := h
    rw [List.filter_eq_nil_iff] at hafter
    have hsole : Sole (named "git-proxy") container (before ++ container :: after) := by
      refine ⟨before, after, rfl, hname, ?_⟩
      rw [List.forall_mem_append]
      exact ⟨fun c hc hnamed => hbefore c hc (decide_eq_true hnamed),
        fun c hc hnamed => hafter c hc (decide_eq_true hnamed)⟩
    let access := envVar "GIT_PROXY_RENKU_ACCESS_TOKEN" (pyStr server.user.accessToken)
    let refresh := envVar "GIT_PROXY_RENKU_REFRESH_TOKEN" (pyStr server.user.refreshToken)
    have haccess : Sole (named "GIT_PROXY_RENKU_ACCESS_TOKEN") access
        (gitProxyEnv config py server) := by
      refine ⟨[_, _, _], [_, _, _, _, _, _, _], rfl, rfl, ?_⟩
      simp [named, envVar, get?, getMember]
    have hrefresh : Sole (named "GIT_PROXY_RENKU_REFRESH_TOKEN") refresh
        (gitProxyEnv config py server) := by
      refine ⟨[_, _, _, _], [_, _, _, _, _, _], rfl, rfl, ?_⟩
      simp [named, envVar, get?, getMember]
    exact ⟨Or.inr ⟨_, _, access, hsole, henv, haccess, rfl⟩,
      Or.inr ⟨_, _, refresh, hsole, henv, hrefresh, rfl⟩⟩

end Found

/-! ### The whole session -/

section Session

variable (config : Config) (py : PyText.Str) (server : UserServer)

/-- The statefulset that the patches of the session manifest make of Amalthea's document. -/
def launchedStatefulset (base : Json) : Option Json :=
  match server.getPatches config py with
  | .ok patches =>
    match applyPatches patches base with
    | .ok doc => doc.get? "statefulset"
    | .error _ => none
  | .error _ => none

theorem launchedStatefulset_eq_some {base doc sts : Json} {patches : List Patch}
    (hpatches : server.getPatches config py = .ok patches)
    (hdoc : applyOps (opsOf patches) base = .ok doc) (hsts : doc.get? "statefulset" = some sts) :
    launchedStatefulset config py server base = some sts := by
  have happly : applyPatches patches base = .ok doc := hdoc
  rw [launchedStatefulset, hpatches]
  dsimp only
  rw [happly]
  exact hsts

theorem statefulset_of_shape {doc : Json} {inits : List Json} (h : SessionShape doc inits) :
    ∃ sts, doc.get? "statefulset" = some sts := by
  obtain ⟨pod, hpod, _⟩ := h.anchored (podSpec, .object) (by decide)
  rw [podSpec, getAt_cons, child_of_named (by decide), Option.bind_eq_some_iff] at hpod
  obtain ⟨sts, hsts, _⟩ := hpod
  exact ⟨sts, hsts⟩

theorem refreshDoc_statefulset (v : TokenVariable) (tokens : RenkuTokens) (doc : Json) :
    (refreshDoc v tokens doc).get? "statefulset" =
      (doc.get? "statefulset").map (v.refresh tokens) := by
  have hloc : docLocation v = "statefulset" :: v.location := rfl
  rw [refreshDoc, hloc, mapAt_cons, get?_mapAt]
  rfl

theorem refreshAll_statefulset (tokens : RenkuTokens) (doc : Json) :
    (tokenVariables.foldl (fun doc v => refreshDoc v tokens doc) doc).get? "statefulset" =
      (doc.get? "statefulset").map (refreshStatefulset tokens) := by
  simp only [tokenVariables, List.foldl_cons, List.foldl_nil, refreshDoc_statefulset,
    Option.map_map]
  rfl

/-- Amalthea's document holds nothing to refresh. -/
theorem base_fixed {base : Json} (hbase : AmaltheaBase base) (hproxies : proxiesIn base = [])
    (tokens : RenkuTokens) : ∀ v ∈ tokenVariables, refreshDoc v tokens base = base := by
  obtain ⟨x, hx, cs, rfl⟩ := hbase.anchored (containersLoc, .array) (by decide)
  rw [proxiesIn, hx, List.filter_eq_nil_iff] at hproxies
  have hcontainers : ∀ v : TokenVariable, v.container = "git-proxy" → docLocation v = containersLoc →
      refreshDoc v tokens base = base := by
    intro v hv hloc
    rw [refreshDoc, hloc]
    apply mapAt_of_fixed
    intro y hy
    rw [← getAt_of_named (by decide), hx] at hy
    cases hy
    rw [mapElems, List.map_congr_left fun c hc => v.refreshContainer_of_ne tokens ?_, List.map_id']
    intro hnamed
    rw [hv] at hnamed
    exact hproxies c hc (decide_eq_true hnamed)
  have hinits : ∀ v : TokenVariable, docLocation v = initContainersLoc →
      refreshDoc v tokens base = base := by
    intro v hloc
    rw [refreshDoc, hloc]
    apply mapAt_of_fixed
    intro y hy
    rw [← getAt_of_named (by decide), hbase.initContainers] at hy
    cases hy
    rfl
  simp only [tokenVariables, List.forall_mem_cons]
  exact ⟨hcontainers proxyAccess rfl rfl, hcontainers proxyRefresh rfl rfl,
    hinits cloneAccess rfl, hinits secretsAccess rfl, List.forall_mem_nil _⟩

/-- Values of added containers are not looked at when the variables are checked. -/
theorem checkEnvOp_refreshOp {op : PatchOp} (hop : SessionOp op) (v : TokenVariable)
    (hv : Regular v) (tokens : RenkuTokens) (seen : UserServer.SeenEnv) :
    UserServer.checkEnvOp seen (refreshOp v tokens op) = UserServer.checkEnvOp seen op := by
  have hplain : ∀ {path value}, (PyText.lower path).endsWith "/env/-" = false →
      UserServer.checkEnvOp seen (refreshOp v tokens (.add path value)) =
        UserServer.checkEnvOp seen (.add path value) := by
    intro path value hpath
    have hbefore : UserServer.checkEnvOp seen (.add path value) = .ok seen :=
      UserServer.checkEnvOp_of_not_env hpath
    rw [hbefore, refreshOp]
    split
    · exact UserServer.checkEnvOp_of_not_env hpath
    · exact UserServer.checkEnvOp_of_not_env hpath
  cases hop with
  | steady h => rw [steady_refreshOp v tokens hv h]
  | container c => exact hplain (by decide +kernel)
  | initContainer c => exact hplain (by decide +kernel)
  | storageMount i storage => rw [storageMount_refreshOp v tokens hv]

theorem foldlM_checkEnvOp {vs : List TokenVariable} (hvs : ∀ v ∈ vs, Regular v)
    (tokens : RenkuTokens) {ops : List PatchOp} (hops : ∀ op ∈ ops, SessionOp op)
    (seen : UserServer.SeenEnv) :
    (vs.foldl (fun ops v => ops.map (refreshOp v tokens)) ops).foldlM UserServer.checkEnvOp seen =
      ops.foldlM UserServer.checkEnvOp seen := by
  have hone : ∀ v, Regular v → ∀ {ops : List PatchOp}, (∀ op ∈ ops, SessionOp op) → ∀ seen,
      (ops.map (refreshOp v tokens)).foldlM UserServer.checkEnvOp seen =
        ops.foldlM UserServer.checkEnvOp seen := by
    intro v hv ops hops
    induction ops with
    | nil => exact fun _ => rfl
    | cons op ops ih =>
      intro seen
      rw [List.map_cons, List.foldlM_cons, List.foldlM_cons,
        checkEnvOp_refreshOp (hops op List.mem_cons_self) v hv tokens]
      congr 1
      funext seen'
      exact ih (fun o ho => hops o (List.mem_cons_of_mem _ ho)) seen'
  induction vs generalizing ops with
  | nil => rfl
  | cons v vs ih =>
    have hv := hvs v List.mem_cons_self
    rw [List.foldl_cons, ih (fun w hw => hvs w (List.mem_cons_of_mem _ hw)), hone v hv hops]
    intro op hop
    obtain ⟨op₀, hop₀, rfl⟩ := List.mem_map.mp hop
    exact (hops op₀ hop₀).refreshOp v tokens hv

theorem getSessionManifest_eq_ok {patches : List Patch}
    (hpatches : server.getPatches config py = .ok patches) :
    (∃ manifest, server.getSessionManifest config py = .ok manifest) ↔
      ∃ seen, (opsOf patches).foldlM UserServer.checkEnvOp [] = .ok seen := by
  constructor
  · rintro ⟨manifest, hmanifest⟩
    obtain ⟨patches', hpatches', hmanifest⟩ := Results.bind_eq_ok_iff.mp hmanifest
    cases hpatches.symm.trans hpatches'
    obtain ⟨_, hcheck, _⟩ := Results.bind_eq_ok_iff.mp hmanifest
    obtain ⟨seen, hseen, _⟩ := Results.map_eq_ok_iff.mp hcheck
    exact ⟨seen, hseen⟩
  · rintro ⟨seen, hseen⟩
    have hcheck : UserServer.checkEnvironmentVariablesOverrides patches = .ok () :=
      Results.map_eq_ok_iff.mpr ⟨seen, hseen, rfl⟩
    exact ⟨_, Results.bind_eq_ok_iff.mpr ⟨patches, hpatches,
      Results.bind_eq_ok_iff.mpr ⟨(), hcheck, rfl⟩⟩⟩

theorem ready_of_doc (v : TokenVariable) (hv : Regular v) {doc sts : Json}
    (hsts : doc.get? "statefulset" = some sts) {containers : List Json}
    (hlist : getAt (docLocation v) doc = some (.arr containers))
    (h : v.Unambiguous containers) : v.Ready sts := by
  have hloc : docLocation v = "statefulset" :: v.location := rfl
  rw [hloc, getAt_cons, child_of_named (by decide), hsts] at hlist
  rcases hv.listed with hname | hname
  · refine ⟨?_, ?_, containers, hlist, h⟩
    · rw [hname]
      decide
    · rw [hname]
      decide
  · refine ⟨?_, ?_, containers, hlist, h⟩
    · rw [hname]
      decide
    · rw [hname]
      decide

/-- Where the patches apply, Amalthea uses the names of the configuration. -/
theorem names_of_patches (huser : server.user.isRegistered = true) {base doc : Json}
    (hbase : AmaltheaBase base) {patches : List Patch}
    (hpatches : server.getPatches config py = .ok patches)
    (hdoc : applyOps (opsOf patches) base = .ok doc) :
    config.sessions.containers.registered.take 2 <+: ["jupyter-server", "oauth2-proxy"] := by
  have hfirst : ∃ rest, patches = test config server ++ rest := by
    obtain ⟨_, _, h⟩ := Results.bind_eq_ok_iff.mp hpatches
    obtain ⟨_, _, h⟩ := Results.bind_eq_ok_iff.mp h
    obtain ⟨_, _, h⟩ := Results.bind_eq_ok_iff.mp h
    rw [← Except.ok.inj h]
    simp only [List.append_assoc]
    exact ⟨_, rfl⟩
  obtain ⟨rest, rfl⟩ := hfirst
  rw [opsOf_append, applyOps_append] at hdoc
  cases htest : applyOps (opsOf (test config server)) base with
  | error e =>
    rw [htest] at hdoc
    cases hdoc
  | ok base' => exact names_of_test config server huser hbase htest

/-- The client finds all variables in the statefulset of a session. -/
theorem session_ready (huser : server.user.isRegistered = true) {base doc sts : Json}
    (hbase : AmaltheaBase base) (hproxies : proxiesIn base = []) {patches : List Patch}
    (hpatches : server.getPatches config py = .ok patches)
    (hdoc : applyOps (opsOf patches) base = .ok doc) (hsts : doc.get? "statefulset" = some sts) :
    ∀ v ∈ tokenVariables, v.Ready sts := by
  have hnames := names_of_patches config py server huser hbase hpatches hdoc
  obtain ⟨u, hu⟩ := User.exists_registered huser
  obtain ⟨inits, hinits, hshape⟩ : ∃ inits, initEffect config py server [] = some inits ∧
      SessionShape doc inits := by
    have hsim := getPatches_simulates config py server huser hnames hpatches base [] hbase
    cases heffect : initEffect config py server [] with
    | none =>
      obtain ⟨path, hpath⟩ := hsim.2 heffect
      cases hdoc.symm.trans hpath
    | some inits =>
      obtain ⟨doc', hdoc', hshape⟩ := hsim.1 inits heffect
      cases hdoc.symm.trans hdoc'
      exact ⟨inits, rfl, hshape⟩
  obtain ⟨patches', _, hrefreshes⟩ :=
    getPatches_refreshes config py server ⟨"", ""⟩ hu hnames hpatches
  have hadded := run_proxies hrefreshes.session hbase hdoc
  rw [hrefreshes.added, hproxies, List.nil_append] at hadded
  obtain ⟨x, hx, cs, rfl⟩ := hshape.anchored (containersLoc, .array) (by decide)
  rw [proxiesIn, hx] at hadded
  obtain ⟨hproxyAccess, hproxyRefresh⟩ := unambiguous_proxies config py server hadded
  obtain ⟨hclone, hsecrets⟩ := unambiguous_inits config py server hinits
  have hregular := tokenVariables_regular
  simp only [tokenVariables, List.forall_mem_cons] at hregular ⊢
  obtain ⟨hregularAccess, hregularRefresh, hregularClone, hregularSecrets, _⟩ := hregular
  exact ⟨ready_of_doc _ hregularAccess hsts hx hproxyAccess,
    ready_of_doc _ hregularRefresh hsts hx hproxyRefresh,
    ready_of_doc _ hregularClone hsts hshape.initContainers hclone,
    ready_of_doc _ hregularSecrets hsts hshape.initContainers hsecrets, List.forall_mem_nil _⟩

/-- The session with other tokens is launched whenever this one is. -/
theorem launched_withTokens (huser : server.user.isRegistered = true) {base doc sts : Json}
    (hbase : AmaltheaBase base) (hproxies : proxiesIn base = []) {patches : List Patch}
    (hpatches : server.getPatches config py = .ok patches)
    (hdoc : applyOps (opsOf patches) base = .ok doc) (hsts : doc.get? "statefulset" = some sts)
    (tokens : RenkuTokens) :
    launchedStatefulset config py (withTokens server tokens) base =
        some (refreshStatefulset tokens sts) ∧
      ((∃ manifest, server.getSessionManifest config py = .ok manifest) ↔
        ∃ manifest, (withTokens server tokens).getSessionManifest config py = .ok manifest) := by
  have hnames := names_of_patches config py server huser hbase hpatches hdoc
  obtain ⟨u, hu⟩ := User.exists_registered huser
  obtain ⟨patches', hpatches', hrefreshes⟩ :=
    getPatches_refreshes config py server tokens hu hnames hpatches
  have hops : tokenVariables.foldl (fun ops v => ops.map (refreshOp v tokens)) (opsOf patches) =
      opsOf patches' := hrefreshes.refreshed
  constructor
  · have hrun := runs_refresh tokens tokenVariables_regular hbase
      (base_fixed hbase hproxies tokens) hrefreshes.session hdoc
    rw [hops] at hrun
    apply launchedStatefulset_eq_some config py _ hpatches' hrun
    rw [refreshAll_statefulset, hsts, Option.map_some]
  · have hcheck := foldlM_checkEnvOp tokenVariables_regular tokens hrefreshes.session []
    rw [hops] at hcheck
    rw [getSessionManifest_eq_ok config py server hpatches,
      getSessionManifest_eq_ok config py _ hpatches', hcheck]

/-- The tokens of a running session are replaced where the service stored them, and nowhere else:
the patched statefulset is the one of a session launched with the new tokens. -/
theorem tokens_are_refreshed (huser : server.user.isRegistered = true) {base : Json}
    (hbase : AmaltheaBase base) (hproxies : proxiesIn base = []) {sts : Json}
    (hsts : launchedStatefulset config py server base = some sts) (tokens : RenkuTokens) :
    (∃ ops, NamespacedK8sClient.getStatefulsetTokenPatches sts tokens = .ok ops ∧
      applyOps ops sts = .ok (refreshStatefulset tokens sts)) ∧
    launchedStatefulset config py (withTokens server tokens) base =
      some (refreshStatefulset tokens sts) ∧
    ((∃ manifest, server.getSessionManifest config py = .ok manifest) ↔
      ∃ manifest, (withTokens server tokens).getSessionManifest config py = .ok manifest) := by
  unfold launchedStatefulset at hsts
  split at hsts
  · next patches hpatches =>
    split at hsts
    · next doc hdoc =>
      have hready := session_ready config py server huser hbase hproxies hpatches hdoc hsts
      exact ⟨getStatefulsetTokenPatches_apply tokens hready, launched_withTokens config py
        server huser hbase hproxies hpatches hdoc hsts tokens⟩
    · cases hsts
  · cases hsts

theorem sample_tokens_are_refreshed :
    ∃ sts ops,
      launchedStatefulset defaultConfig (.ascii fun _ => "") (exampleServer none) sampleBase = some sts ∧
      NamespacedK8sClient.getStatefulsetTokenPatches sts ⟨"new-access", "new-refresh"⟩ = .ok ops ∧
      applyOps ops sts = .ok (refreshStatefulset ⟨"new-access", "new-refresh"⟩ sts) := by
  obtain ⟨sts, hsts⟩ : ∃ sts,
      launchedStatefulset defaultConfig (.ascii fun _ => "") (exampleServer none) sampleBase = some sts := by
    obtain ⟨patches, hpatches⟩ : ∃ patches,
        (exampleServer none).getPatches defaultConfig (.ascii fun _ => "") = .ok patches := ⟨_, rfl⟩
    have hsim := getPatches_simulates defaultConfig (.ascii fun _ => "") (exampleServer none) rfl
      List.prefix_rfl hpatches sampleBase [] sampleBase_amaltheaBase
    obtain ⟨doc, hdoc, hshape⟩ := hsim.1 _ rfl
    obtain ⟨sts, hsts⟩ := statefulset_of_shape hshape
    exact ⟨sts, launchedStatefulset_eq_some _ _ _ hpatches hdoc hsts⟩
  obtain ⟨⟨ops, hops, happly⟩, _⟩ := tokens_are_refreshed defaultConfig (.ascii fun _ => "")
    (exampleServer none) rfl sampleBase_amaltheaBase rfl hsts ⟨"new-access", "new-refresh"⟩
  exact ⟨sts, ops, hsts, hops, happly⟩

end Session

end RenkuNotebooks.Notebooks.TokenRefresh
