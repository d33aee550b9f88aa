import RenkuNotebooks.Notebooks.Additions
import RenkuNotebooks.Notebooks.TokenRefresh

/-!
# Lists that the patches append to

All that the operations of a session do to its lists of volumes and of mounts is to append to them.
So the composed document has what Amalthea delivers in them, and behind it what is appended.
-/

namespace RenkuNotebooks.Notebooks.AppendedLists

open Json Notebooks.Composition TokenRefresh

def volumesLoc : List String := podSpec ++ ["volumes"]

/-- The mounts of the container `jupyter-server`. -/
def sessionMountsLoc : List String := containersLoc ++ ["0", "volumeMounts"]

/-- The mounts of the container `oauth2-proxy`. -/
def proxyMountsLoc : List String := containersLoc ++ ["1", "volumeMounts"]

def appendedLocs : List (List String) := [volumesLoc, sessionMountsLoc, proxyMountsLoc]

def appendedAt (loc : List String) : PatchOp → Option Json
  | .add path value =>
    if JsonPointer.parse path = some (loc ++ ["-"]) then some value else none
  | _ => none

section Step

variable {loc : List String} {doc doc' : Json} {xs : List Json}

theorem appendedAt_of_ne {path : String} {tokens : List String} (value : Json)
    (hparse : JsonPointer.parse path = some tokens) (hne : tokens ≠ loc ++ ["-"]) :
    appendedAt loc (.add path value) = none := by
  rw [appendedAt, hparse, if_neg fun heq => hne (Option.some.inj heq)]

theorem getAt_addAt_elsewhere {ps : List String} {t : String} {value x : Json}
    (h : addAt (ps ++ [t]) value doc = some doc')
    (hend : ∀ j, getAt ps doc = some j → InsertsAtEnd t j) (habove : ¬ loc <+: ps)
    (hbelow : ¬ ps ++ [t] <+: loc) (hx : getAt loc doc = some x) : getAt loc doc' = some x := by
  have halter := h
  rw [addAt_snoc] at halter
  obtain ⟨j, -, hj, -, -⟩ := exists_of_alterAt halter
  obtain ⟨y, hy, -, heq⟩ := getAt_addAt h hj (hend j hj) hbelow hx
  rw [hy, heq habove]

theorem getAt_addAt_there {value : Json} (h : addAt (loc ++ ["-"]) value doc = some doc')
    (hx : getAt loc doc = some (.arr xs)) : getAt loc doc' = some (.arr (xs ++ [value])) := by
  obtain ⟨doc₁, hdoc₁, hread⟩ := addAt_end_eq_some hx value
  rw [h] at hdoc₁
  cases hdoc₁
  exact hread

/-- No anchor lies inside one of the lists. -/
theorem anchor_of_appended :
    ∀ loc ∈ appendedLocs, ∀ a ∈ anchors, loc <+: a.1 → a = (loc, .array) := by
  decide

theorem anchored_of_appended : ∀ loc ∈ appendedLocs, (loc, Kind.array) ∈ anchors := by
  decide

theorem appended_not_separate : ∀ loc ∈ appendedLocs,
    ¬ upstreamArgLoc <+: loc ∧ ¬ loc <+: podSpec ++ ["containers", "1", "args"] ∧
      ¬ loc <+: containersLoc ∧ ¬ containersLoc ++ ["-"] <+: loc ∧
      ¬ loc <+: initContainersLoc ∧ ¬ initContainersLoc ++ ["-"] <+: loc ∧
      ¬ loc <+: initContainersLoc ++ ["2", "env"] ∧
      ¬ initContainersLoc ++ ["2", "env"] ++ ["-"] <+: loc := by
  decide

theorem harmlessAdd_appends (hloc : loc ∈ appendedLocs) {inits : List Json}
    (hshape : SessionShape doc inits) {path : String} {tokens : List String} {value : Json}
    (hparse : JsonPointer.parse path = some tokens) (hadd : harmlessAdd tokens = true)
    (h : addAt tokens value doc = some doc') (hx : getAt loc doc = some (.arr xs)) :
    getAt loc doc' = some (.arr (xs ++ (appendedAt loc (.add path value)).toList)) := by
  by_cases hthere : tokens = loc ++ ["-"]
  · subst hthere
    rw [appendedAt, if_pos hparse]
    exact getAt_addAt_there h hx
  · rw [appendedAt_of_ne value hparse hthere, Option.toList_none, List.append_nil]
    have hparts := hadd
    simp only [harmlessAdd, decide_eq_true_eq] at hparts
    obtain ⟨hanchor, hne, -, hfree⟩ := hparts
    obtain ⟨ps, t, rfl⟩ : ∃ ps t, tokens = ps ++ [t] :=
      ⟨tokens.dropLast, tokens.getLast hne, (List.dropLast_append_getLast hne).symm⟩
    rw [List.dropLast_concat, List.getLast?_concat] at hanchor
    obtain ⟨j, hj, hend, -⟩ := hshape.insertsAtEnd hadd
    apply getAt_addAt_elsewhere h _ _ _ hx
    · intro j' hj'
      rw [hj] at hj'
      cases hj'
      exact hend
    · intro hprefix
      rcases hanchor with ⟨hlast, harray⟩ | hobject
      · cases anchor_of_appended loc hloc _ harray hprefix
        exact hthere (by rw [Option.some.inj hlast])
      · cases anchor_of_appended loc hloc _ hobject hprefix
    · apply hfree
      exact List.mem_cons_of_mem _ (List.mem_map_of_mem (anchored_of_appended loc hloc))

theorem doc_of_test {path : String} {value : Json}
    (h : (PatchOp.test path value).apply doc = .ok doc') : doc' = doc := by
  simp only [PatchOp.apply, PatchOp.path] at h
  cases hparse : JsonPointer.parse path with
  | none =>
    rw [hparse] at h
    cases h
  | some tokens =>
    simp only [hparse, PatchOp.applyAt] at h
    cases hfound : getAt tokens doc with
    | none =>
      rw [hfound] at h
      cases h
    | some found =>
      simp only [hfound] at h
      by_cases heq : found = value
      · rw [if_pos heq] at h
        exact (Except.ok.inj h).symm
      · rw [if_neg heq] at h
        cases h

theorem insertsAtEnd_dash (ps : List String) (doc : Json) :
    ∀ j, getAt ps doc = some j → InsertsAtEnd "-" j :=
  fun _ _ => .inl rfl

theorem SessionOp.appends (hloc : loc ∈ appendedLocs) {op : PatchOp} (hop : SessionOp op)
    {inits : List Json} (hshape : SessionShape doc inits) (h : op.apply doc = .ok doc')
    (hx : getAt loc doc = some (.arr xs)) :
    getAt loc doc' = some (.arr (xs ++ (appendedAt loc op).toList)) := by
  obtain ⟨hupstream, hargs, habove, hcontainer, haboveInits, hinit, haboveEnv, henv⟩ :=
    appended_not_separate loc hloc
  cases hop with
  | steady hsteady =>
    obtain ⟨hharmless, -⟩ := hsteady
    cases hharmless with
    | @add path tokens value hparse hadd =>
      exact harmlessAdd_appends hloc hshape hparse hadd ((applyAdd_eq_ok hparse).mp h) hx
    | @replace path value hparse =>
      have hreplace : replaceAt (podSpec ++ ["containers", "1", "args"] ++ ["6"]) value doc =
          some doc' := replaceAt_of_apply hparse h
      obtain ⟨y, hy, -, heq⟩ := getAt_replaceAt hreplace hupstream hx
      rw [hy, heq hargs]
      simp [appendedAt]
    | @test path tokens name hparse hanchor =>
      have hsame := doc_of_test h
      rw [hsame, hx]
      simp [appendedAt]
  | container c =>
    have hparse : JsonPointer.parse "/statefulset/spec/template/spec/containers/-" =
        some (containersLoc ++ ["-"]) := by decide
    have hne : containersLoc ++ ["-"] ≠ loc ++ ["-"] := fun heq =>
      habove ((List.append_cancel_right heq) ▸ List.prefix_rfl)
    rw [appendedAt_of_ne c hparse hne, Option.toList_none, List.append_nil]
    exact getAt_addAt_elsewhere ((applyAdd_eq_ok hparse).mp h) (insertsAtEnd_dash _ _) habove
      hcontainer hx
  | initContainer c =>
    have hparse : JsonPointer.parse "/statefulset/spec/template/spec/initContainers/-" =
        some (initContainersLoc ++ ["-"]) := by decide
    have hne : initContainersLoc ++ ["-"] ≠ loc ++ ["-"] := fun heq =>
      haboveInits ((List.append_cancel_right heq) ▸ List.prefix_rfl)
    rw [appendedAt_of_ne c hparse hne, Option.toList_none, List.append_nil]
    exact getAt_addAt_elsewhere ((applyAdd_eq_ok hparse).mp h) (insertsAtEnd_dash _ _) haboveInits
      hinit hx
  | storageMount i storage =>
    have hparse : JsonPointer.parse "/statefulset/spec/template/spec/initContainers/2/env/-" =
        some (initContainersLoc ++ ["2", "env"] ++ ["-"]) := by decide
    have hne : initContainersLoc ++ ["2", "env"] ++ ["-"] ≠ loc ++ ["-"] := fun heq =>
      haboveEnv ((List.append_cancel_right heq) ▸ List.prefix_rfl)
    rw [appendedAt_of_ne _ hparse hne, Option.toList_none, List.append_nil]
    exact getAt_addAt_elsewhere ((applyAdd_eq_ok hparse).mp h) (insertsAtEnd_dash _ _) haboveEnv
      henv hx

end Step

/-! ### A list of the composed document -/

theorem run_appends {loc : List String} (hloc : loc ∈ appendedLocs) {ops : List PatchOp}
    (hops : ∀ op ∈ ops, SessionOp op) {doc doc' : Json} {inits : List Json}
    (hshape : SessionShape doc inits) (h : applyOps ops doc = .ok doc') {xs : List Json}
    (hx : getAt loc doc = some (.arr xs)) :
    getAt loc doc' = some (.arr (xs ++ ops.filterMap (appendedAt loc))) := by
  induction ops generalizing doc inits xs with
  | nil =>
    cases h
    rw [List.filterMap_nil, List.append_nil]
    exact hx
  | cons op ops ih =>
    obtain ⟨mid, hop, hrest⟩ := applyOps_cons_eq_ok h
    have hsession := hops op List.mem_cons_self
    obtain ⟨inits', hshape'⟩ := hsession.keepsShape hshape hop
    have hmid := SessionOp.appends hloc hsession hshape hop hx
    have hlater := ih (fun later hlater => hops later (List.mem_cons_of_mem _ hlater)) hshape' hrest
      hmid
    rw [hlater, List.append_assoc]
    congr 3
    cases happended : appendedAt loc op with
    | none => simp [happended]
    | some value => simp [happended]

/-! ### The containers behind the first two -/

section Containers

variable {doc doc' : Json} {inits inits' : List Json}

def containersOf (doc : Json) : List Json :=
  match getAt containersLoc doc with
  | some (.arr containers) => containers
  | _ => []

theorem getAt_containersLoc (hshape : SessionShape doc inits) :
    getAt containersLoc doc = some (.arr (containersOf doc)) := by
  obtain ⟨x, hx, cs, rfl⟩ := hshape.anchored (containersLoc, .array) (by decide)
  rw [containersOf, hx]

theorem containersOf_of_same (h : getAt containersLoc doc' = getAt containersLoc doc) :
    containersOf doc' = containersOf doc := by
  rw [containersOf, containersOf, h]

/-- The first two containers are those that Amalthea delivers. -/
theorem exists_first_containers (hshape : SessionShape doc inits) :
    ∃ first second rest, containersOf doc = first :: second :: rest := by
  obtain ⟨x, hx, -⟩ :=
    hshape.anchored (containersLoc ++ ["1"] ++ ["env"], .array) (by decide)
  rw [getAt_append, getAt_append, getAt_containersLoc hshape, Option.bind_some] at hx
  match hcs : containersOf doc with
  | [] =>
    rw [hcs] at hx
    cases hx
  | [first] =>
    have hzero : Nat.repr 0 ≠ "1" := by decide
    simp [hcs, getAt, child, elemAt, hzero] at hx
  | first :: second :: rest => exact ⟨first, second, rest, rfl⟩

theorem drop_alterElem {i : String} (hi : i = "0" ∨ i = "1") {f : Json → Option Json}
    {xs ys : List Json} (h : alterElem i f 0 xs = some ys) : ys.drop 2 = xs.drop 2 := by
  have hzero : Nat.repr 0 = "0" := by decide
  have hone : Nat.repr 1 = "1" := by decide
  have hne : "0" ≠ "1" := by decide
  cases xs with
  | nil => cases h
  | cons x xs =>
    rcases hi with rfl | rfl
    · rw [alterElem, if_pos hzero] at h
      obtain ⟨y, -, rfl⟩ := Option.map_eq_some_iff.mp h
      rfl
    · rw [alterElem, hzero, if_neg hne] at h
      obtain ⟨zs, hzs, rfl⟩ := Option.map_eq_some_iff.mp h
      cases xs with
      | nil => cases hzs
      | cons z xs =>
        rw [alterElem, if_pos hone] at hzs
        obtain ⟨y, -, rfl⟩ := Option.map_eq_some_iff.mp hzs
        rfl

theorem containersOf_provided (hshape : SessionShape doc inits) {i : String}
    (hi : i = "0" ∨ i = "1") {g : Json → Option Json}
    (h : alterAt (containersLoc ++ [i]) g doc = some doc') :
    (containersOf doc').drop 2 = (containersOf doc).drop 2 := by
  rw [alterAt_append] at h
  obtain ⟨x, y, hx, hxy, hy⟩ := exists_of_alterAt h
  rw [getAt_containersLoc hshape] at hx
  cases hx
  obtain ⟨ds, hds, rfl⟩ := Option.map_eq_some_iff.mp hxy
  have hread : containersOf doc' = ds := by rw [containersOf, hy]
  rw [hread]
  exact drop_alterElem hi hds

theorem containersOf_separate {ps : List String} {t : String} {value j : Json}
    (hadd : addAt (ps ++ [t]) value doc = some doc') (hj : getAt ps doc = some j)
    (hend : InsertsAtEnd t j) (hshape : SessionShape doc inits)
    (habove : ¬ ps ++ [t] <+: containersLoc) (hbelow : ¬ containersLoc <+: ps ++ [t]) :
    containersOf doc' = containersOf doc := by
  apply containersOf_of_same
  have hx := getAt_containersLoc hshape
  obtain ⟨y, hy, -, heq⟩ := getAt_addAt hadd hj hend habove hx
  rw [hx, hy, heq fun hstart => hbelow (hstart.trans (List.prefix_append ps [t]))]

theorem SessionOp.containers {op : PatchOp} (hop : SessionOp op) (hshape : SessionShape doc inits)
    (h : op.apply doc = .ok doc') :
    (containersOf doc').drop 2 = (containersOf doc).drop 2 ++ addedContainer op := by
  cases hop with
  | container c =>
    have hparse : JsonPointer.parse "/statefulset/spec/template/spec/containers/-" =
        some (containersLoc ++ ["-"]) := by decide
    have hread := getAt_addAt_there ((applyAdd_eq_ok hparse).mp h) (getAt_containersLoc hshape)
    have hcs : containersOf doc' = containersOf doc ++ [c] := by rw [containersOf, hread]
    obtain ⟨first, second, rest, hfirst⟩ := exists_first_containers hshape
    rw [hcs, hfirst, addedContainer, if_pos hparse]
    rfl
  | initContainer c =>
    have hparse : JsonPointer.parse "/statefulset/spec/template/spec/initContainers/-" =
        some (initContainersLoc ++ ["-"]) := by decide
    have hother : ¬ some (initContainersLoc ++ ["-"]) = some (containersLoc ++ ["-"]) := by decide
    rw [applyAdd_eq_ok hparse] at h
    rw [addedContainer, hparse, if_neg hother, List.append_nil,
      containersOf_separate h hshape.initContainers (Or.inl rfl) hshape (by decide) (by decide)]
  | storageMount i storage =>
    let envLoc := initContainersLoc ++ ["2", "env"]
    have hparse : JsonPointer.parse "/statefulset/spec/template/spec/initContainers/2/env/-" =
        some (envLoc ++ ["-"]) := by decide
    have hother : ¬ some (envLoc ++ ["-"]) = some (containersLoc ++ ["-"]) := by decide
    rw [applyAdd_eq_ok hparse, addAt_snoc] at h
    rw [addedContainer, hparse, if_neg hother, List.append_nil,
      containersOf_of_same (getAt_alterAt_of_separate (by decide) (by decide) h)]
  | steady hsteady =>
    obtain ⟨hharmless, hne⟩ := hsteady
    cases hharmless with
    | @add path ts value hparse hadd =>
      rw [PatchOp.path, hparse] at hne
      rw [applyAdd_eq_ok hparse] at h
      rw [addedContainer, hparse, if_neg hne, List.append_nil]
      rcases harmlessAdd_location hadd (fun heq => hne (by rw [heq])) with
        ⟨habove, hbelow⟩ | ⟨i, ps, t, hi, rfl⟩
      · rcases List.eq_nil_or_concat ts with rfl | ⟨ps, t, rfl⟩
        · exact absurd List.nil_prefix habove
        · rw [List.concat_eq_append] at *
          obtain ⟨j, hj, hend, -⟩ := hshape.insertsAtEnd hadd
          rw [containersOf_separate h hj hend hshape habove hbelow]
      · rw [← List.append_assoc, addAt_snoc, alterAt_append] at h
        exact containersOf_provided hshape hi h
    | @replace path value hparse =>
      have hreplace := replaceAt_of_apply hparse h
      have hloc : upstreamArgLoc = containersLoc ++ ["1"] ++ ["args", "6"] := rfl
      rw [replaceAt, hloc, alterAt_append] at hreplace
      rw [containersOf_provided hshape (Or.inr rfl) hreplace]
      exact (List.append_nil _).symm
    | @test path ts name hparse hanchor =>
      rw [doc_of_test h]
      exact (List.append_nil _).symm

theorem run_containers {ops : List PatchOp} (hops : ∀ op ∈ ops, SessionOp op)
    (hshape : SessionShape doc inits) (h : applyOps ops doc = .ok doc') :
    (containersOf doc').drop 2 = (containersOf doc).drop 2 ++ ops.flatMap addedContainer := by
  induction ops generalizing doc inits with
  | nil =>
    cases h
    simp
  | cons op ops ih =>
    obtain ⟨mid, hop, hrest⟩ := applyOps_cons_eq_ok h
    have hsession := hops op List.mem_cons_self
    obtain ⟨inits', hshape'⟩ := hsession.keepsShape hshape hop
    rw [ih (fun later hlater => hops later (List.mem_cons_of_mem _ hlater)) hshape' hrest,
      SessionOp.containers hsession hshape hop, List.flatMap_cons, List.append_assoc]

end Containers

section Session

variable {config : Config} {py : PyText.Str} {server : UserServer}

/-- What a builder appends is in the list of the composed document. -/
theorem mem_composed (huser : server.user.isRegistered = true) {base doc : Json}
    (hbase : AmaltheaBase base) {patches : List Patch}
    (hpatches : server.getPatches config py = .ok patches)
    (hdoc : applyPatches patches base = .ok doc) (loc : List String) (hloc : loc ∈ appendedLocs)
    {path : String} {value : Json} (hop : .add path value ∈ opsOf patches)
    (hparse : JsonPointer.parse path = some (loc ++ ["-"])) :
    ∃ xs, getAt loc doc = some (.arr xs) ∧ value ∈ xs := by
  have hnames := names_of_patches config py server huser hbase hpatches hdoc
  obtain ⟨u, hu⟩ := User.exists_registered huser
  obtain ⟨x, hx, hfits⟩ := hbase.anchored (loc, .array) (anchored_of_appended loc hloc)
  obtain ⟨xs, rfl⟩ := hfits
  obtain ⟨_, -, hrefreshes⟩ := getPatches_refreshes config py server ⟨"", ""⟩ hu hnames hpatches
  have hlist := run_appends hloc hrefreshes.session hbase hdoc hx
  refine ⟨_, hlist, List.mem_append_right _ (List.mem_filterMap.mpr ⟨_, hop, ?_⟩)⟩
  rw [appendedAt, if_pos hparse]

end Session

end RenkuNotebooks.Notebooks.AppendedLists
