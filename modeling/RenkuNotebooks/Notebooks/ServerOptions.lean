import RenkuNotebooks.Foundation.Double
import RenkuNotebooks.Notebooks.Config

/-!
# Server options

The resources of a session, in bytes. The variant in gigabytes is only used to compare resource
classes and is not part of this module.
-/

namespace RenkuNotebooks.Notebooks

structure NodeAffinity where
  key : String
  requiredDuringScheduling : Bool := false
  deriving DecidableEq, Repr

/-- `json_match_expression`, the same for affinities and tolerations. -/
def jsonMatchExpression (key : String) : Json :=
  .obj [("key", key), ("operator", "Exists")]

structure ServerOptions where
  /-- The exact value of a float. -/
  cpu : Rat
  memory : Int
  gpu : Int
  storage : Int
  defaultUrl : String
  lfsAutoFetch : Bool
  priorityClass : Option String
  nodeAffinities : List NodeAffinity
  /-- The keys of the tolerations. -/
  tolerations : List String
  resourceClassId : Option Int
  idleThresholdSeconds : Option Int
  hibernationThresholdSeconds : Option Int

namespace ServerOptions

/-- `{"nvidia.com/gpu": str(gpu)}` where GPUs are requested. -/
def gpuResources (o : ServerOptions) : List (String × Json) :=
  if 0 < o.gpu then [("nvidia.com/gpu", .str (toString o.gpu))] else []

def cpuLimit (o : ServerOptions) : CPUEnforcement → List (String × Json)
  | .lax => [("cpu", .float (Double.round (3 * o.cpu)))]
  | .strict => [("cpu", .float o.cpu)]
  | .off => []

def toK8sResources (o : ServerOptions) (enforceCpuLimits : CPUEnforcement) : Json :=
  .obj [
    ("requests", .obj ([("memory", .int o.memory), ("cpu", .float o.cpu)] ++ o.gpuResources)),
    ("limits", .obj ([("memory", .int o.memory)] ++ o.cpuLimit enforceCpuLimits ++ o.gpuResources))]

end ServerOptions

end RenkuNotebooks.Notebooks
