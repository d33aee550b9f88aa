import RenkuNotebooks.Foundation.JsonMap
import RenkuNotebooks.Notebooks.Composition
import RenkuNotebooks.Notebooks.K8sClient

/-!
# The variables that hold renku tokens

`refresh` is what a new pair of tokens means for a statefulset: the value of a named variable of a
named container is replaced. The client finds the variables by name and addresses them by
position; where the names are unique, its patches do the same.
-/

namespace RenkuNotebooks.Notebooks

open Json Notebooks.Composition

structure TokenVariable where
  listName : String
  container : String
  variable_ : String
  token : RenkuTokens → String

namespace TokenVariable

variable (v w : TokenVariable) (tokens : RenkuTokens)

def refreshVariable (env : Json) : Json :=
  if env.get? "name" = some (.str v.variable_) then
    mapAt ["value"] (fun _ => .str (v.token tokens)) env
  else env

def refreshContainer (container : Json) : Json :=
  if container.get? "name" = some (.str v.container) then
    mapAt ["env"] (mapElems (v.refreshVariable tokens)) container
  else container

def location : List String := ["spec", "template", "spec", v.listName]

def refresh (sts : Json) : Json := mapAt v.location (mapElems (v.refreshContainer tokens)) sts

/-- The part of the client's patches that is about this variable. -/
def patch (sts : Json) : Except PyError (List PatchOp) := do
  let containers ← NamespacedK8sClient.containersAt v.listName sts
  NamespacedK8sClient.tokenPatch v.listName v.container v.variable_ (v.token tokens) containers

/-! ### Names do not change -/

@[simp] theorem refreshVariable_name (env : Json) :
    (v.refreshVariable tokens env).get? "name" = env.get? "name" := by
  unfold refreshVariable
  split
  · exact get?_mapAt_of_ne (by decide) _ _
  · rfl

@[simp] theorem refreshContainer_name (container : Json) :
    (v.refreshContainer tokens container).get? "name" = container.get? "name" := by
  unfold refreshContainer
  split
  · exact get?_mapAt_of_ne (by decide) _ _
  · rfl

theorem refreshVariable_of_ne {env : Json} (h : ¬ named v.variable_ env) :
    v.refreshVariable tokens env = env := if_neg h

theorem refreshContainer_of_ne {container : Json} (h : ¬ named v.container container) :
    v.refreshContainer tokens container = container := if_neg h

theorem refreshVariable_of_named {env : Json} (h : named v.variable_ env) :
    v.refreshVariable tokens env = mapAt ["value"] (fun _ => .str (v.token tokens)) env := if_pos h

theorem refreshContainer_of_named {container : Json} (h : named v.container container) :
    v.refreshContainer tokens container =
      mapAt ["env"] (mapElems (v.refreshVariable tokens)) container := if_pos h

/-- The variables of a container after a refresh. -/
theorem refreshContainer_env {container : Json} {env : List Json}
    (henv : container.get? "env" = some (.arr env)) :
    ∃ f : Json → Json, (∀ x, (f x).get? "name" = x.get? "name") ∧
      (∀ x, (x.get? "value").isSome → ((f x).get? "value").isSome) ∧
      (v.refreshContainer tokens container).get? "env" = some (.arr (env.map f)) := by
  unfold refreshContainer
  split
  · refine ⟨v.refreshVariable tokens, v.refreshVariable_name tokens, ?_, ?_⟩
    · intro x hx
      unfold refreshVariable
      split
      · simpa [get?_mapAt] using hx
      · exact hx
    · rw [get?_mapAt, henv]
      rfl
  · exact ⟨id, fun _ => rfl, fun _ hx => hx, by simpa using henv⟩

/-! ### Unique names -/

/-- No container, or one with one variable, is meant. -/
def Unambiguous (containers : List Json) : Prop :=
  (∀ c ∈ containers, ¬ named v.container c) ∨
  ∃ container env found, Sole (named v.container) container containers ∧
    container.get? "env" = some (.arr env) ∧ Sole (named v.variable_) found env ∧
    (found.get? "value").isSome

theorem Unambiguous.refresh {containers : List Json} (h : v.Unambiguous containers) :
    v.Unambiguous (containers.map (w.refreshContainer tokens)) := by
  have hname : ∀ c, named v.container (w.refreshContainer tokens c) ↔ named v.container c := by
    intro c
    rw [named, named, refreshContainer_name]
  rcases h with hnone | ⟨container, env, found, hcontainer, henv, hfound, hvalue⟩
  · refine Or.inl ?_
    intro c hc
    obtain ⟨d, hd, rfl⟩ := List.mem_map.mp hc
    rw [hname]
    exact hnone d hd
  · obtain ⟨f, hfname, hfvalue, hfenv⟩ := w.refreshContainer_env tokens henv
    refine Or.inr ⟨_, _, f found, hcontainer.map hname, hfenv, ?_, hfvalue _ hvalue⟩
    apply hfound.map
    intro x
    rw [named, named, hfname]

/-! ### What the client finds -/

open NamespacedK8sClient in
theorem findNamed_of_sole {name : String} {before after : List Json} {x : Json}
    (hx : named name x) (hrest : ∀ y ∈ before ++ after, ¬ named name y) :
    findNamed name (before ++ x :: after) = some (x, before.length) := by
  rw [findNamed, List.find?_eq_some_iff_append]
  refine ⟨decide_eq_true hx, before.zipIdx, after.zipIdx (before.length + 1), ?_, ?_⟩
  · simp [List.zipIdx_append, List.zipIdx_cons]
  · intro c hc
    obtain ⟨y, i⟩ := c
    have hy : y ∈ before := (List.mem_zipIdx hc).2.2 ▸ List.getElem_mem _
    simpa [named] using hrest y (List.mem_append_left _ hy)

open NamespacedK8sClient in
theorem findNamed_of_none {name : String} {xs : List Json} (h : ∀ y ∈ xs, ¬ named name y) :
    findNamed name xs = none := by
  rw [findNamed, List.find?_eq_none]
  intro c hc
  obtain ⟨y, i⟩ := c
  have hy : y ∈ xs := (List.mem_zipIdx hc).2.2 ▸ List.getElem_mem _
  simpa [named] using h y hy

theorem plain_repr (i : Nat) : JsonPointer.Plain (toString i) := by
  apply plain_of_alphanum
  intro c hc
  have hmem : c ∈ Nat.toDigits 10 i := by simpa [Nat.repr] using hc
  have hdigit : c.isDigit = true := Nat.isDigit_of_mem_toDigits (by decide) (by decide) hmem
  exact Or.inl (by simp [Char.isAlphanum, hdigit])

theorem parse_valuePath {listName : String} (hplain : JsonPointer.Plain listName) (i j : Nat) :
    JsonPointer.parse ("/spec/template/spec/" ++ listName ++ "/" ++ toString i ++ "/env/" ++
        toString j ++ "/value") =
      some (["spec", "template", "spec", listName] ++ [i.repr, "env", j.repr, "value"]) := by
  have hpod : JsonPointer.parse "/spec/template/spec" = some ["spec", "template", "spec"] := by
    decide
  have hplainEnv : JsonPointer.Plain "env" := by
    decide
  have hplainValue : JsonPointer.Plain "value" := by
    decide
  have hlist := JsonPointer.parse_append_slash hpod hplain
  have hindex := JsonPointer.parse_append_slash hlist (plain_repr i)
  have henv := JsonPointer.parse_append_slash hindex hplainEnv
  have hvariable := JsonPointer.parse_append_slash henv (plain_repr j)
  have hvalue := JsonPointer.parse_append_slash hvariable hplainValue
  have hpath : "/spec/template/spec/" ++ listName ++ "/" ++ toString i ++ "/env/" ++
      toString j ++ "/value" = "/spec/template/spec" ++ "/" ++ listName ++ "/" ++ toString i ++
        "/" ++ "env" ++ "/" ++ toString j ++ "/" ++ "value" := by
    have hhead : "/spec/template/spec/" = "/spec/template/spec" ++ "/" := rfl
    have hmid : "/env/" = "/" ++ "env" ++ "/" := rfl
    have hend : "/value" = "/" ++ "value" := rfl
    rw [hhead, hmid, hend]
    simp only [String.append_assoc]
  rw [hpath, hvalue]
  rfl

theorem named_location (hlist : Named v.listName) : ∀ t ∈ v.location, Named t := by
  simp only [location, List.forall_mem_cons]
  exact ⟨by decide, by decide, by decide, hlist, List.forall_mem_nil _⟩

theorem containersAt_eq_ok (hlist : Named v.listName) {sts : Json} {containers : List Json}
    (h : getAt v.location sts = some (.arr containers)) :
    NamespacedK8sClient.containersAt v.listName sts = .ok containers := by
  rw [getAt_of_named (v.named_location hlist), location] at h
  rw [NamespacedK8sClient.containersAt, h]

theorem alterAt_refreshVariable {found : Json} (hfound : named v.variable_ found)
    (hvalue : (found.get? "value").isSome) :
    alterAt ["value"] (fun _ => some (.str (v.token tokens))) found =
      some (v.refreshVariable tokens found) := by
  obtain ⟨old, hold⟩ := Option.isSome_iff_exists.mp hvalue
  have hnamed : ∀ t ∈ ["value"], Named t := by decide
  have hread : getAt ["value"] found = some old := by
    rw [getAt_of_named hnamed, dig_singleton, hold]
  have halter : alterAt ["value"] (fun _ => some (.str (v.token tokens))) found =
      some (mapAt ["value"] (fun _ => .str (v.token tokens)) found) :=
    alterAt_eq_mapAt hnamed hread rfl
  rw [halter, v.refreshVariable_of_named tokens hfound]

theorem alterAt_refreshContainer {container found : Json} {vars others : List Json}
    (hcontainer : named v.container container)
    (henv : container.get? "env" = some (.arr (vars ++ found :: others)))
    (hfound : named v.variable_ found) (hrest : ∀ x ∈ vars ++ others, ¬ named v.variable_ x)
    (hvalue : (found.get? "value").isSome) :
    alterAt ["env", vars.length.repr, "value"] (fun _ => some (.str (v.token tokens))) container =
      some (v.refreshContainer tokens container) := by
  have hnamed : ∀ t ∈ ["env"], Named t := by decide
  have hread : getAt ["env"] container = some (.arr (vars ++ found :: others)) := by
    rw [getAt_of_named hnamed, dig_singleton, henv]
  have helem : alterElem vars.length.repr
      (alterAt ["value"] fun _ => some (.str (v.token tokens))) 0 (vars ++ found :: others) =
      some ((vars ++ found :: others).map (v.refreshVariable tokens)) := by
    apply alterElem_eq_map
    · exact fun x hx => v.refreshVariable_of_ne tokens (hrest x hx)
    · exact v.alterAt_refreshVariable tokens hfound hvalue
  have hvars : alterAt [vars.length.repr, "value"] (fun _ => some (.str (v.token tokens)))
      (.arr (vars ++ found :: others)) =
      some (mapElems (v.refreshVariable tokens) (.arr (vars ++ found :: others))) := by
    rw [alterAt, alterChild, helem]
    rfl
  have halter := alterAt_append ["env"] [vars.length.repr, "value"]
    fun _ => some (.str (v.token tokens))
  rw [List.singleton_append] at halter
  rw [halter, alterAt_eq_mapAt hnamed hread hvars, v.refreshContainer_of_named tokens hcontainer]

/-- The client's patch of one variable. -/
theorem patch_apply (hnamed : Named v.listName) (hplain : JsonPointer.Plain v.listName)
    {sts : Json} {containers : List Json} (hlist : getAt v.location sts = some (.arr containers))
    (h : v.Unambiguous containers) :
    ∃ ops, v.patch tokens sts = .ok ops ∧ applyOps ops sts = .ok (v.refresh tokens sts) := by
  have hlocation := v.named_location hnamed
  have hrefresh : v.patch tokens sts = NamespacedK8sClient.tokenPatch v.listName v.container
      v.variable_ (v.token tokens) containers := by
    rw [patch, v.containersAt_eq_ok hnamed hlist]
    rfl
  rcases h with hnone | ⟨container, env, found, hcontainer, henv, hfound, hvalue⟩
  · refine ⟨[], ?_, ?_⟩
    · rw [hrefresh, NamespacedK8sClient.tokenPatch, findNamed_of_none hnone]
    · rw [refresh, mapAt_of_fixed]
      · rfl
      · intro x hx
        rw [← getAt_of_named hlocation, hlist] at hx
        cases hx
        rw [mapElems, List.map_congr_left fun c hc => v.refreshContainer_of_ne tokens (hnone c hc),
          List.map_id']
  · obtain ⟨before, after, rfl, hname, hothers⟩ := hcontainer
    obtain ⟨vars, others, rfl, hvariable, hrest⟩ := hfound
    let value : Json := .str (v.token tokens)
    let position := [before.length.repr, "env", vars.length.repr, "value"]
    let path := "/spec/template/spec/" ++ v.listName ++ "/" ++ toString before.length ++ "/env/" ++
      toString vars.length ++ "/value"
    refine ⟨[.replace path value], ?_, ?_⟩
    · rw [hrefresh, NamespacedK8sClient.tokenPatch, findNamed_of_sole hname hothers]
      dsimp only
      rw [NamespacedK8sClient.findEnvVar, henv]
      dsimp only
      rw [findNamed_of_sole hvariable hrest]
      rfl
    · have helem : alterElem before.length.repr
          (alterAt ["env", vars.length.repr, "value"] fun _ => some value) 0
          (before ++ container :: after) =
          some ((before ++ container :: after).map (v.refreshContainer tokens)) := by
        apply alterElem_eq_map
        · exact fun c hc => v.refreshContainer_of_ne tokens (hothers c hc)
        · exact v.alterAt_refreshContainer tokens hname henv hvariable hrest hvalue
      have hcontainers : alterAt position (fun _ => some value)
          (.arr (before ++ container :: after)) =
          some (mapElems (v.refreshContainer tokens) (.arr (before ++ container :: after))) := by
        rw [alterAt, alterChild, helem]
        rfl
      have hreplace : replaceAt (v.location ++ position) value sts = some (v.refresh tokens sts) := by
        rw [replaceAt, alterAt_append, alterAt_eq_mapAt hlocation hlist hcontainers]
        rfl
      rw [applyOps_singleton, PatchOp.apply, PatchOp.path, parse_valuePath hplain]
      dsimp only
      rw [PatchOp.applyAt, ← location, hreplace]
      rfl

/-! ### One refresh after another -/

theorem findNamed_map {f : Json → Json} (hf : ∀ x, (f x).get? "name" = x.get? "name")
    (name : String) (xs : List Json) :
    NamespacedK8sClient.findNamed name (xs.map f) =
      (NamespacedK8sClient.findNamed name xs).map fun c => (f c.1, c.2) := by
  rw [NamespacedK8sClient.findNamed, NamespacedK8sClient.findNamed, List.zipIdx_map,
    List.find?_map]
  congr 2
  funext c
  simp [hf]

theorem findEnvVar_refreshContainer (container : Json) (name : String) :
    NamespacedK8sClient.findEnvVar (w.refreshContainer tokens container) name =
      NamespacedK8sClient.findEnvVar container name := by
  by_cases hcontainer : named w.container container
  · rw [w.refreshContainer_of_named tokens hcontainer, NamespacedK8sClient.findEnvVar,
      NamespacedK8sClient.findEnvVar, get?_mapAt]
    cases container.get? "env" with
    | none => rfl
    | some env =>
      cases env with
      | arr vars =>
        simp only [Option.map_some, mapElems, findNamed_map (w.refreshVariable_name tokens),
          Option.map_map]
        rfl
      | _ => rfl
  · rw [w.refreshContainer_of_ne tokens hcontainer]

theorem tokenPatch_refresh (listName name envName token : String) (containers : List Json) :
    NamespacedK8sClient.tokenPatch listName name envName token
        (containers.map (w.refreshContainer tokens)) =
      NamespacedK8sClient.tokenPatch listName name envName token containers := by
  rw [NamespacedK8sClient.tokenPatch, NamespacedK8sClient.tokenPatch,
    findNamed_map (w.refreshContainer_name tokens)]
  cases NamespacedK8sClient.findNamed name containers with
  | none => rfl
  | some c =>
    simp only [Option.map_some]
    rw [findEnvVar_refreshContainer]

/-- The lists of a statefulset after a refresh. -/
theorem getAt_refresh {listName : String} (hlist : Named listName) (hw : Named w.listName)
    {sts : Json} {containers : List Json}
    (h : getAt ["spec", "template", "spec", listName] sts = some (.arr containers)) :
    getAt ["spec", "template", "spec", listName] (w.refresh tokens sts) = some (.arr
      (if listName = w.listName then containers.map (w.refreshContainer tokens)
        else containers)) := by
  let pod := ["spec", "template", "spec"]
  have hpod : ∀ t ∈ pod, Named t := by decide
  have hlocation : w.location = pod ++ [w.listName] := rfl
  split
  · next heq =>
    subst heq
    have hread := getAt_mapAt (w.named_location hw) (mapElems (w.refreshContainer tokens)) sts
    rw [location, h] at hread
    exact hread
  · next hne =>
    have hread : getAt (pod ++ [listName]) sts = some (.arr containers) := h
    rw [getAt_append, Option.bind_eq_some_iff] at hread
    obtain ⟨spec, hspec, hread⟩ := hread
    have hgoal : getAt (pod ++ [listName]) (w.refresh tokens sts) = some (.arr containers) := by
      rw [refresh, hlocation, mapAt_append, getAt_append, getAt_mapAt hpod, hspec,
        Option.map_some, Option.bind_some]
      rw [getAt_cons, child_of_named hlist] at hread ⊢
      rw [get?_mapAt_of_ne hne]
      exact hread
    exact hgoal

/-- The lists that the client reads, and in which it finds its variables. -/
structure Ready (sts : Json) : Prop where
  named : Named v.listName
  plain : JsonPointer.Plain v.listName
  containers : ∃ containers, getAt v.location sts = some (.arr containers) ∧
    v.Unambiguous containers

theorem Ready.refresh {sts : Json} (hv : v.Ready sts) (hw : Named w.listName) :
    v.Ready (w.refresh tokens sts) ∧
      v.patch tokens (w.refresh tokens sts) = v.patch tokens sts := by
  obtain ⟨hnamed, hplain, containers, hlist, hunambiguous⟩ := hv
  have hread := w.getAt_refresh tokens hnamed hw hlist
  have hafter := v.containersAt_eq_ok hnamed hread
  have hbefore := v.containersAt_eq_ok hnamed hlist
  constructor
  · refine ⟨hnamed, hplain, _, hread, ?_⟩
    split
    · exact Unambiguous.refresh v w tokens hunambiguous
    · exact hunambiguous
  · rw [patch, patch, hafter, hbefore]
    show NamespacedK8sClient.tokenPatch _ _ _ _ _ = NamespacedK8sClient.tokenPatch _ _ _ _ _
    split
    · exact w.tokenPatch_refresh tokens _ _ _ _ _
    · rfl

theorem patches_apply {vs : List TokenVariable} {sts : Json} (hready : ∀ v ∈ vs, v.Ready sts) :
    ∃ opss, List.Forall₂ (fun v ops => v.patch tokens sts = .ok ops) vs opss ∧
      applyOps opss.flatten sts = .ok (vs.foldl (fun sts v => v.refresh tokens sts) sts) := by
  induction vs generalizing sts with
  | nil => exact ⟨[], .nil, rfl⟩
  | cons v vs ih =>
    have hv := hready v List.mem_cons_self
    obtain ⟨containers, hlist, hunambiguous⟩ := hv.containers
    obtain ⟨ops, hops, happly⟩ := v.patch_apply tokens hv.named hv.plain hlist hunambiguous
    have hrest : ∀ w ∈ vs, w.Ready (v.refresh tokens sts) ∧
        w.patch tokens (v.refresh tokens sts) = w.patch tokens sts :=
      fun w hw => Ready.refresh w v tokens (hready w (List.mem_cons_of_mem _ hw)) hv.named
    obtain ⟨opss, hopss, happlies⟩ := ih fun w hw => (hrest w hw).1
    refine ⟨ops :: opss, .cons hops ?_, ?_⟩
    · rw [List.forall₂_iff_zip] at hopss ⊢
      refine ⟨hopss.1, ?_⟩
      intro w wops hw
      rw [← (hrest w (List.of_mem_zip hw).1).2]
      exact hopss.2 hw
    · rw [List.flatten_cons, applyOps_append, happly]
      exact happlies

end TokenVariable

def proxyAccess : TokenVariable :=
  ⟨"containers", "git-proxy", "GIT_PROXY_RENKU_ACCESS_TOKEN", RenkuTokens.accessToken⟩

def proxyRefresh : TokenVariable :=
  ⟨"containers", "git-proxy", "GIT_PROXY_RENKU_REFRESH_TOKEN", RenkuTokens.refreshToken⟩

def cloneAccess : TokenVariable :=
  ⟨"initContainers", "git-clone", "GIT_CLONE_USER__RENKU_TOKEN", RenkuTokens.accessToken⟩

def secretsAccess : TokenVariable :=
  ⟨"initContainers", "init-user-secrets", "RENKU_ACCESS_TOKEN", RenkuTokens.accessToken⟩

/-- The variables in which a session keeps the tokens of its user. -/
def tokenVariables : List TokenVariable := [proxyAccess, proxyRefresh, cloneAccess, secretsAccess]

def refreshStatefulset (tokens : RenkuTokens) (sts : Json) : Json :=
  tokenVariables.foldl (fun sts v => v.refresh tokens sts) sts

theorem getStatefulsetTokenPatches_apply (tokens : RenkuTokens) {sts : Json}
    (hready : ∀ v ∈ tokenVariables, v.Ready sts) :
    ∃ ops, NamespacedK8sClient.getStatefulsetTokenPatches sts tokens = .ok ops ∧
      applyOps ops sts = .ok (refreshStatefulset tokens sts) := by
  obtain ⟨opss, hopss, happly⟩ := TokenVariable.patches_apply tokens hready
  refine ⟨opss.flatten, ?_, happly⟩
  obtain ⟨containers, hcontainers, _⟩ := (hready proxyAccess (by simp [tokenVariables])).containers
  obtain ⟨inits, hinits, _⟩ := (hready cloneAccess (by simp [tokenVariables])).containers
  have hregular : NamespacedK8sClient.containersAt "containers" sts = .ok containers :=
    TokenVariable.containersAt_eq_ok _ (by decide) hcontainers
  have hinit : NamespacedK8sClient.containersAt "initContainers" sts = .ok inits :=
    TokenVariable.containersAt_eq_ok _ (by decide) hinits
  simp only [tokenVariables, List.forall₂_cons_left_iff, List.forall₂_nil_left_iff,
    TokenVariable.patch, proxyAccess, proxyRefresh, cloneAccess, secretsAccess, hregular,
    hinit] at hopss
  obtain ⟨access, _, haccess, ⟨refresh, _, hrefresh, ⟨clone, _, hclone, ⟨secrets, _, hsecrets,
    rfl, rfl⟩, rfl⟩, rfl⟩, rfl⟩ := hopss
  have haccess' : NamespacedK8sClient.tokenPatch "containers" "git-proxy"
    "GIT_PROXY_RENKU_ACCESS_TOKEN" tokens.accessToken containers = .ok access := haccess
  have hrefresh' : NamespacedK8sClient.tokenPatch "containers" "git-proxy"
    "GIT_PROXY_RENKU_REFRESH_TOKEN" tokens.refreshToken containers = .ok refresh := hrefresh
  have hclone' : NamespacedK8sClient.tokenPatch "initContainers" "git-clone"
    "GIT_CLONE_USER__RENKU_TOKEN" tokens.accessToken inits = .ok clone := hclone
  have hsecrets' : NamespacedK8sClient.tokenPatch "initContainers" "init-user-secrets"
    "RENKU_ACCESS_TOKEN" tokens.accessToken inits = .ok secrets := hsecrets
  rw [NamespacedK8sClient.getStatefulsetTokenPatches, hregular, hinit]
  simp only [bind, Except.bind, haccess', hrefresh', hclone', hsecrets', pure, Except.pure]
  simp

end RenkuNotebooks.Notebooks
