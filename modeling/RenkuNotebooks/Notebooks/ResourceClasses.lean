import RenkuNotebooks.Notebooks.ServerData

/-!
# Resource classes

`CRCValidator` over the answers of the compute resource service, and the part of `ServerOptions`
that builds and compares the options of resource classes. Sizes of a class are in gigabytes.
-/

namespace RenkuNotebooks.Notebooks

/-- The `quota` member of a pool. -/
inductive Quota where
  | missing
  | object (id : Option String)
  | other (value : Json)

/-- `quota.get("id")` where the quota is a dictionary. -/
def Quota.id : Quota → Option String
  | .object id => id
  | _ => none

structure ResourceClass where
  id : Int
  cpu : Rat
  memory : Int
  gpu : Int
  defaultStorage : Int
  /-- `res_class.get("max_storage")` -/
  maxStorage : Option Int
  default_ : Bool
  matching : Bool
  nodeAffinities : List NodeAffinity
  tolerations : List String

structure ResourcePool where
  classes : List ResourceClass
  quota : Quota
  default_ : Bool
  idleThreshold : Option Int
  hibernationThreshold : Option Int

/-! ### Options of a class -/

namespace ServerOptions

/-- The defaults that the constructor fills in; sizes are in bytes. -/
def make (defaultUrl : String) (cpu : Rat) (memory gpu storage : Int) : ServerOptions where
  cpu := cpu
  memory := memory
  gpu := gpu
  storage := storage
  defaultUrl := defaultUrl
  lfsAutoFetch := false
  priorityClass := none
  nodeAffinities := []
  tolerations := []
  resourceClassId := none
  idleThresholdSeconds := none
  hibernationThresholdSeconds := none

/-- `(x.key, x.required_during_scheduling)` in the order of tuples. -/
def affinityLe (a b : NodeAffinity) : Bool :=
  a.key < b.key ∨ (a.key = b.key ∧ (a.requiredDuringScheduling → b.requiredDuringScheduling))

def sortAffinities (affinities : List NodeAffinity) : List NodeAffinity :=
  affinities.mergeSort affinityLe

def sortTolerations (tolerations : List String) : List String :=
  tolerations.mergeSort (· ≤ ·)

def fromResourceClass (defaultUrl : String) (c : ResourceClass) : ServerOptions :=
  { make defaultUrl c.cpu (c.memory * 1000000000) c.gpu (c.defaultStorage * 1000000000) with
    nodeAffinities := sortAffinities c.nodeAffinities
    tolerations := sortTolerations c.tolerations
    resourceClassId := some c.id }

/-- `set_storage`; the options themselves are in bytes. -/
def setStorage (o : ServerOptions) (storage : Int) (gigabytes : Bool) : ServerOptions :=
  if gigabytes then { o with storage := storage * 1000000000 } else { o with storage := storage }

/-- The priority class, if the quota is a dictionary. -/
def withQuota (o : ServerOptions) : Quota → ServerOptions
  | .object id => { o with priorityClass := id }
  | _ => o

/-- `__compare` -/
def compare (compareRat : Rat → Rat → Bool) (compareInt : Int → Int → Bool)
    (o other : ServerOptions) : Bool :=
  compareRat o.cpu other.cpu && compareInt o.memory other.memory && compareInt o.gpu other.gpu &&
    compareInt o.storage other.storage

/-- `__sub__`; processors are counted in floats. -/
def sub (defaultUrl : String) (o other : ServerOptions) : ServerOptions :=
  make defaultUrl (Double.sub o.cpu other.cpu) (o.memory - other.memory) (o.gpu - other.gpu)
    (o.storage - other.storage)

def ge : ServerOptions → ServerOptions → Bool :=
  compare (fun x y => x ≥ y) (fun x y => x ≥ y)

def lt : ServerOptions → ServerOptions → Bool :=
  compare (fun x y => x < y) (fun x y => x < y)

end ServerOptions

/-! ### The service and its validator -/

/-- The query parameters of a request for classes that fit. -/
structure PoolParams where
  cpu : Rat
  gpu : Int
  memory : Int
  maxStorage : Int

structure PoolRequest where
  bearer : Option String
  params : Option PoolParams

/-- What the service answers: a status and, with status 200, its pools. -/
abbrev ResourceService := PoolRequest → Nat × List ResourcePool

/-- `round`: to the nearest integer, and to the even one of two. -/
def pyRound (x : Rat) : Int :=
  let rest := x - x.floor
  if rest < 1 / 2 then x.floor
  else if 1 / 2 < rest then x.floor + 1
  else if x.floor % 2 = 0 then x.floor else x.floor + 1

namespace CRCValidator

variable (crc : ResourceService) (defaultUrl : String)

def getResourcePools (user : Option User) (serverOptions : Option ServerOptions) :
    Except PyError (List ResourcePool) :=
  let params := serverOptions.map fun o =>
    { cpu := o.cpu, gpu := o.gpu, memory := pyRound (o.memory / 1000000000),
      maxStorage := pyRound (o.storage / 1000000000) }
  let (status, pools) := crc { bearer := user.bind User.accessToken, params }
  if status ≠ 200 then
    .error (.generic (intermittentError
      "The compute resource access control service sent an unexpected response, please try again later"))
  else .ok pools

/-- The loops of `validate_class_storage`: the first class with the identifier in the last pool
that has one. -/
def findClass (classId : Int) (pools : List ResourcePool) : Option (ResourcePool × ResourceClass) :=
  pools.foldl (fun found pool =>
    match pool.classes.find? (·.id = classId) with
    | some c => some (pool, c)
    | none => found) none

def validateStorage (c : ResourceClass) (storage : Int) : Except PyError Unit :=
  if storage < 1 then
    .error (.generic (invalidComputeResourceError
      "Storage requests have to be greater than or equal to 1GB."))
  else
    match c.maxStorage with
    | none => .error .typeError
    | some maxStorage =>
      if maxStorage < storage then
        .error (.generic (invalidComputeResourceError
          "The requested storage surpasses the maximum value allowed."))
      else .ok ()

def validateClassStorage (user : User) (classId : Int) (storage : Option Int) :
    Except PyError ServerOptions := do
  let pools ← getResourcePools crc (some user) none
  match findClass classId pools with
  | none =>
    .error (.generic (invalidComputeResourceError
      ("The resource class ID " ++ toString classId ++ " does not exist.")))
  | some (pool, c) => do
    let storage := storage.getD c.defaultStorage
    validateStorage c storage
    let options := { ServerOptions.fromResourceClass defaultUrl c with
      idleThresholdSeconds := pool.idleThreshold
      hibernationThresholdSeconds := pool.hibernationThreshold }
    let options := options.setStorage storage true
    pure (options.withQuota pool.quota)

/-- The first class marked as default in the first pool marked as default. -/
def getDefaultClass : Except PyError ResourceClass := do
  let pools ← getResourcePools crc none none
  match pools.filter (·.default_) with
  | [] => .error (.generic (configurationError "Cannot find the default resource pool."))
  | defaultPool :: _ =>
    match defaultPool.classes.filter (·.default_) with
    | [] => .error (.generic (configurationError "Cannot find the default resource class."))
    | c :: _ => pure c

/-- The best class so far, with its difference to the request. -/
structure Best where
  diff : ServerOptions
  cls : ServerOptions

variable (requested : ServerOptions)

def considerClass (quota : Quota) (best : Option Best) (c : ResourceClass) : Option Best :=
  let options := (ServerOptions.fromResourceClass defaultUrl c).withQuota quota
  let zeroDiff := ServerOptions.make defaultUrl 0 0 0 0
  let diff := options.sub defaultUrl requested
  if diff.ge zeroDiff && best.all (fun b => diff.lt b.diff) && c.matching then
    some { diff, cls := options }
  else best

def bestClass (pools : List ResourcePool) : Option ServerOptions :=
  let best := pools.foldl (fun best pool =>
    pool.classes.foldl (considerClass defaultUrl requested pool.quota) best) none
  best.map (·.cls)

def findAcceptableClass (user : User) : Except PyError (Option ServerOptions) := do
  let pools ← getResourcePools crc (some user) (some requested)
  pure (bestClass defaultUrl requested pools)

end CRCValidator

end RenkuNotebooks.Notebooks
