import RenkuNotebooks.Notebooks.Composition

/-!
# The nodes that a session can run on

Kubernetes reads the node selector terms of a required node affinity as a disjunction of
conjunctions, in which an empty term matches no node. `session_affinity` appends one term to the
configured ones; of the operators on labels only `Exists`, which it uses, is fixed here.
-/

namespace RenkuNotebooks.Notebooks

structure Node where
  name : String
  labels : List (String × String)

/-- How a label meets the operator and the values of a requirement. -/
structure Operators where
  meets : String → List String → Option String → Bool
  meets_exists : ∀ values label, meets "Exists" values label = label.isSome

namespace Node

variable (operators : Operators) (node : Node)

def hasLabel (key : String) : Prop := (node.labels.lookup key).isSome = true

def textAt (key : String) (expression : Json) : String :=
  match expression.get? key with
  | some (.str s) => s
  | _ => ""

def valuesOf (expression : Json) : List String :=
  (AmaltheaPatches.listAt ["values"] expression).filterMap fun
    | .str s => some s
    | _ => none

def matchesExpression (expression : Json) : Bool :=
  operators.meets (textAt "operator" expression) (valuesOf expression)
    (node.labels.lookup (textAt "key" expression))

/-- The only field that nodes are selected by is their name. -/
def matchesField (field : Json) : Bool :=
  textAt "key" field = "metadata.name" ∧
    operators.meets (textAt "operator" field) (valuesOf field) (some node.name)

def matchesTerm (term : Json) : Bool :=
  let expressions := AmaltheaPatches.listAt ["matchExpressions"] term
  let fields := AmaltheaPatches.listAt ["matchFields"] term
  !(expressions.isEmpty && fields.isEmpty) && expressions.all (node.matchesExpression operators) &&
    fields.all (node.matchesField operators)

def Satisfies (terms : List Json) : Prop := ∃ term ∈ terms, node.matchesTerm operators term = true

theorem satisfies_append (terms terms' : List Json) :
    node.Satisfies operators (terms ++ terms') ↔
      node.Satisfies operators terms ∨ node.Satisfies operators terms' := by
  simp only [Satisfies, List.mem_append, or_and_right, exists_or]

theorem satisfies_singleton (term : Json) :
    node.Satisfies operators [term] ↔ node.matchesTerm operators term = true := by
  simp only [Satisfies, List.mem_singleton, exists_eq_left]

theorem matchesExpression_exists (key : String) :
    node.matchesExpression operators (jsonMatchExpression key) = true ↔ node.hasLabel key := by
  have hmeets : node.matchesExpression operators (jsonMatchExpression key) =
      (node.labels.lookup key).isSome := operators.meets_exists _ _
  rw [hmeets, hasLabel]

/-- A term of `Exists` expressions asks for all of its labels, and for one at least. -/
theorem matchesTerm_matchExpressions (affinities : List NodeAffinity) :
    node.matchesTerm operators (AmaltheaPatches.matchExpressions affinities) = true ↔
      affinities ≠ [] ∧ ∀ a ∈ affinities, node.hasLabel a.key := by
  have hexpressions : AmaltheaPatches.listAt ["matchExpressions"]
      (AmaltheaPatches.matchExpressions affinities) =
        affinities.map fun a => jsonMatchExpression a.key := rfl
  have hfields : AmaltheaPatches.listAt ["matchFields"]
      (AmaltheaPatches.matchExpressions affinities) = [] := rfl
  unfold matchesTerm
  rw [hexpressions, hfields]
  simp only [List.isEmpty_nil, Bool.and_true, List.all_nil, Bool.and_eq_true, Bool.not_eq_true',
    List.isEmpty_eq_false_iff, List.all_eq_true, List.forall_mem_map, matchesExpression_exists, ne_eq,
    List.map_eq_nil_iff]

end Node

namespace NodeAffinities

open Notebooks.Composition

variable (operators : Operators) (config : Config) (server : UserServer) (node : Node)

def requiredPath : List String :=
  ["nodeAffinity", "requiredDuringSchedulingIgnoredDuringExecution", "nodeSelectorTerms"]

/-- The terms of the required node affinity in the patches. -/
def requiredTerms (patches : List Patch) : List Json :=
  (opsOf patches).flatMap fun
    | .add _ value => AmaltheaPatches.listAt requiredPath value
    | _ => []

/-- The terms of the configuration. -/
def staticTerms : List Json := AmaltheaPatches.listAt requiredPath config.sessions.affinity

/-- The node has the label of every affinity that is required. -/
def CarriesRequired : Prop :=
  ∀ a ∈ server.serverOptions.nodeAffinities, a.requiredDuringScheduling = true →
    node.hasLabel a.key

theorem requiredTerms_sessionAffinity (h : server.serverOptions.nodeAffinities ≠ []) :
    requiredTerms (AmaltheaPatches.sessionAffinity config server) =
      staticTerms config ++ [AmaltheaPatches.matchExpressions
        (server.serverOptions.nodeAffinities.filter (·.requiredDuringScheduling))] := by
  have hempty : server.serverOptions.nodeAffinities.isEmpty = false := by
    rwa [List.isEmpty_eq_false_iff]
  have hadded : ∀ path value, requiredTerms [{ patch := [.add path value] }] =
      AmaltheaPatches.listAt requiredPath value := by
    intro path value
    simp [requiredTerms, opsOf]
  unfold AmaltheaPatches.sessionAffinity
  dsimp only
  rw [hempty, if_neg Bool.false_ne_true, hadded]
  rfl

/-- A node is admitted by a static term, or by all labels of a class that requires some. -/
theorem satisfies_sessionAffinity (h : server.serverOptions.nodeAffinities ≠ []) :
    node.Satisfies operators (requiredTerms (AmaltheaPatches.sessionAffinity config server)) ↔
      node.Satisfies operators (staticTerms config) ∨
        (∃ a ∈ server.serverOptions.nodeAffinities, a.requiredDuringScheduling = true) ∧
          CarriesRequired server node := by
  rw [requiredTerms_sessionAffinity config server h, Node.satisfies_append,
    Node.satisfies_singleton, Node.matchesTerm_matchExpressions]
  have hsome : server.serverOptions.nodeAffinities.filter (·.requiredDuringScheduling) ≠ [] ↔
      ∃ a ∈ server.serverOptions.nodeAffinities, a.requiredDuringScheduling = true := by
    rw [ne_eq, List.filter_eq_nil_iff]
    push Not
    rfl
  have hcarries : (∀ a ∈ server.serverOptions.nodeAffinities.filter (·.requiredDuringScheduling),
      node.hasLabel a.key) ↔ CarriesRequired server node := by
    simp only [List.mem_filter, and_imp]
    rfl
  rw [hsome, hcarries]

/-- The affinity asks for the required labels exactly when no static term admits a node without
them, and one admits the node where nothing is required. -/
theorem satisfies_iff_carriesRequired_iff (h : server.serverOptions.nodeAffinities ≠ []) :
    (node.Satisfies operators (requiredTerms (AmaltheaPatches.sessionAffinity config server)) ↔
      CarriesRequired server node) ↔
    (node.Satisfies operators (staticTerms config) → CarriesRequired server node) ∧
      ((∀ a ∈ server.serverOptions.nodeAffinities, a.requiredDuringScheduling = false) →
        node.Satisfies operators (staticTerms config)) := by
  rw [satisfies_sessionAffinity operators config server node h]
  have hnone : (∀ a ∈ server.serverOptions.nodeAffinities, a.requiredDuringScheduling = false) ↔
      ¬ ∃ a ∈ server.serverOptions.nodeAffinities, a.requiredDuringScheduling = true := by
    push Not
    simp only [ne_eq, Bool.not_eq_true]
  have hfree : (∀ a ∈ server.serverOptions.nodeAffinities, a.requiredDuringScheduling = false) →
      CarriesRequired server node := by
    intro hall a ha hrequired
    rw [hall a ha] at hrequired
    cases hrequired
  constructor
  · intro hiff
    refine ⟨fun hstatic => hiff.mp (.inl hstatic), ?_⟩
    intro hall
    rcases hiff.mpr (hfree hall) with hstatic | ⟨hsome, _⟩
    · exact hstatic
    · exact absurd hsome (hnone.mp hall)
  · rintro ⟨hstatic, hall⟩
    constructor
    · rintro (hnode | ⟨_, hcarries⟩)
      · exact hstatic hnode
      · exact hcarries
    · intro hcarries
      by_cases hsome : ∃ a ∈ server.serverOptions.nodeAffinities, a.requiredDuringScheduling = true
      · exact .inr ⟨hsome, hcarries⟩
      · exact .inl (hall (hnone.mpr hsome))

/-- A server whose class has this affinity. -/
def affinityServer (affinity : NodeAffinity) : UserServer :=
  { exampleServer none with
    serverOptions := { (exampleServer none).serverOptions with nodeAffinities := [affinity] } }

theorem presence_exists (label : Option String) :
    decide (("Exists" = "Exists" ∧ label.isSome = true) ∨
      ("Exists" = "DoesNotExist" ∧ label.isNone = true)) = label.isSome := by
  simp

/-- The operators that ask for the presence of a label only. -/
def presence : Operators where
  meets operator _ label :=
    (operator = "Exists" ∧ label.isSome) ∨ (operator = "DoesNotExist" ∧ label.isNone)
  meets_exists _ := presence_exists

def gpuNode : Node := { name := "node-1", labels := [("gpu", "true")] }

theorem sample_satisfies_iff :
    (gpuNode.Satisfies presence (requiredTerms (AmaltheaPatches.sessionAffinity defaultConfig
        (affinityServer ⟨"gpu", true⟩))) ↔
      CarriesRequired (affinityServer ⟨"gpu", true⟩) gpuNode) ↔
    (gpuNode.Satisfies presence (staticTerms defaultConfig) →
        CarriesRequired (affinityServer ⟨"gpu", true⟩) gpuNode) ∧
      ((∀ a ∈ (affinityServer ⟨"gpu", true⟩).serverOptions.nodeAffinities,
        a.requiredDuringScheduling = false) →
          gpuNode.Satisfies presence (staticTerms defaultConfig)) :=
  satisfies_iff_carriesRequired_iff presence defaultConfig (affinityServer ⟨"gpu", true⟩) gpuNode
    (List.cons_ne_nil _ _)

/-- A class with a preferred affinity only is admitted by no node. -/
theorem preferred_excludes_nodes :
    CarriesRequired (affinityServer ⟨"gpu", false⟩) gpuNode ∧
    ¬ gpuNode.Satisfies presence (requiredTerms (AmaltheaPatches.sessionAffinity defaultConfig
      (affinityServer ⟨"gpu", false⟩))) := by
  have hpreferred : ∀ a ∈ (affinityServer ⟨"gpu", false⟩).serverOptions.nodeAffinities,
      a.requiredDuringScheduling = false := by
    intro a ha
    cases List.mem_singleton.mp ha
    rfl
  constructor
  · intro a ha hrequired
    rw [hpreferred a ha] at hrequired
    cases hrequired
  · rw [satisfies_sessionAffinity presence defaultConfig _ gpuNode (List.cons_ne_nil _ _)]
    rintro (⟨term, hterm, _⟩ | ⟨⟨a, ha, hrequired⟩, _⟩)
    · cases hterm
    · rw [hpreferred a ha] at hrequired
      cases hrequired

end NodeAffinities

end RenkuNotebooks.Notebooks
