import RenkuNotebooks.Foundation.JsonPatch
import RenkuNotebooks.Foundation.PyText
import RenkuNotebooks.Notebooks.Config
import RenkuNotebooks.Notebooks.Errors

/-!
# Cloud storages

`RCloneStorage` with the rclone configuration text and the manifest patch it is mounted by.
Dictionaries are member lists in insertion order.
-/

namespace RenkuNotebooks.Notebooks

/-- An entry of `spec.patches` of a JupyterServer. -/
structure Patch where
  type : String := "application/json-patch+json"
  patch : List PatchOp
  deriving DecidableEq, Repr

/-- Applying the patches of a manifest in list order. -/
def applyPatches (patches : List Patch) (doc : Json) : Except PatchError Json :=
  applyOps (patches.flatMap (·.patch)) doc

structure RCloneStorage where
  configuration : List (String × Json)
  sourcePath : String
  mountFolder : String
  readonly : Bool
  name : Option String
  secrets : List (String × String)
  userSecretKey : String
  baseName : Option String

namespace RCloneStorage

/-! ### The parts of `configparser` that `config_string` uses -/

def dropDoubledPercent : List Char → List Char
  | '%' :: '%' :: cs => dropDoubledPercent cs
  | c :: cs => c :: dropDoubledPercent cs
  | [] => []

/-- The text without its `%(name)s` references; `fuel` bounds the number of characters read. -/
def dropReferences : Nat → List Char → List Char
  | 0, cs => cs
  | _ + 1, [] => []
  | fuel + 1, c :: cs =>
    match c, cs with
    | '%', '(' :: rest =>
      match rest.takeWhile (· ≠ ')'), rest.dropWhile (· ≠ ')') with
      | _ :: _, ')' :: 's' :: after => dropReferences fuel after
      | _, _ => c :: dropReferences fuel cs
    | _, _ => c :: dropReferences fuel cs

/-- `BasicInterpolation.before_set` rejects a stray percent sign. -/
def beforeSet (value : String) : Except PyError Unit :=
  let text := dropDoubledPercent value.toList
  if '%' ∈ dropReferences text.length text then .error .valueError else .ok ()

/-- `parser.set(name, k, v)` with the default `optionxform`. -/
def parserSet (lower : String → String) (items : List (String × String)) (option value : String) :
    Except PyError (List (String × String)) := do
  beforeSet value
  let key := lower option
  if items.any (·.1 = key) then
    pure (items.map fun item => if item.1 = key then (key, value) else item)
  else
    pure (items ++ [(key, value)])

def writeValue (value : String) : String :=
  String.ofList (value.toList.flatMap fun c => if c = '\n' then ['\n', '\t'] else [c])

def writeSection (name : String) (items : List (String × String)) : String :=
  "[" ++ name ++ "]\n" ++
    String.join (items.map fun item => item.1 ++ " = " ++ writeValue item.2 ++ "\n") ++ "\n"

/-- `parser.write` of a parser with this one section; `parser.set` takes the section without a name
for the default section, which is written only when it has items. -/
def parserWrite (name : String) (items : List (String × String)) : String :=
  if name = "" then
    (if items = [] then "" else writeSection "DEFAULT" items) ++ writeSection "" []
  else writeSection name items

/-! ### The storage -/

/-- `_stringify`; `str` of anything but booleans, numbers and strings is left to `py`. -/
def stringify (py : PyText.Str) : Json → String
  | .bool b => boolText b
  | .int n => toString n
  | .str s => s
  | other => py other

def setConfig (s : RCloneStorage) (key : String) (value : Json) : RCloneStorage :=
  { s with configuration := Json.setMember key value s.configuration }

def getConfig (s : RCloneStorage) (key : String) : Json :=
  (Json.getMember key s.configuration).getD (.str "")

def isPolyboxOrSwitch (storageType : Json) : Bool :=
  storageType = .str "polybox" ∨ storageType = .str "switchDrive"

def endpointUrl (storageType access : Json) : Option String :=
  if access = .str "shared" ∧ storageType = .str "polybox" then
    some "https://polybox.ethz.ch/public.php/webdav/"
  else if access = .str "shared" ∧ storageType = .str "switchDrive" then
    some "https://drive.switch.ch/public.php/webdav/"
  else if access = .str "personal" ∧ storageType = .str "polybox" then
    some "https://polybox.ethz.ch/remote.php/webdav/"
  else if access = .str "personal" ∧ storageType = .str "switchDrive" then
    some "https://drive.switch.ch/remote.php/webdav/"
  else none

/-- `public_link.split("/")[-1]` -/
def lastSegment (publicLink : String) : String :=
  String.ofList (publicLink.toList.reverse.takeWhile (· ≠ '/')).reverse

/-- The configuration as `config_string` rewrites it in place. -/
def rewriteConfiguration (s : RCloneStorage) : Except PyError RCloneStorage := do
  let storageType := s.getConfig "type"
  let access := s.getConfig "provider"
  let s :=
    if isPolyboxOrSwitch storageType then
      (s.setConfig "type" "webdav").setConfig "provider" ""
    else s
  let s := (endpointUrl storageType access).elim s fun url => s.setConfig "url" url
  let s ←
    if access = .str "shared" then
      match storageType with
      | .arr _ | .obj _ => .error .typeError
      | _ =>
        if isPolyboxOrSwitch storageType then
          match s.getConfig "public_link" with
          | .str link => .ok (s.setConfig "user" (lastSegment link))
          | _ => .error .attributeError
        else .ok s
    else .ok s
  match Json.getMember "type" s.configuration with
  | none => .error (.keyError "type")
  | some t =>
    if t = .str "s3" ∧ Json.getMember "provider" s.configuration = some (.str "Switch") then
      .ok (s.setConfig "provider" "Other")
    else .ok s

def configString (py : PyText.Str) (s : RCloneStorage) (name : String) :
    Except PyError (String × RCloneStorage) := do
  if s.configuration.isEmpty then
    .error (.validationError "Missing configuration for cloud storage")
  let s ← s.rewriteConfiguration
  if name = "DEFAULT" then
    .error .valueError
  let items ← s.configuration.foldlM (fun items item =>
    parserSet py.lower items item.1 (stringify py item.2)) []
  pure (parserWrite name items, s)

/-- `self.name or base_name` -/
def remoteName (s : RCloneStorage) (baseName : String) : String :=
  match s.name with
  | some name => if name = "" then baseName else name
  | none => baseName

def getManifestPatch (config : Config) (py : PyText.Str) (s : RCloneStorage)
    (baseName : String) : Except PyError (List Patch) := do
  let configData ← s.configString py (s.remoteName baseName)
  let accessMode : Json := if s.readonly then "ReadOnlyMany" else "ReadWriteMany"
  pure [{ patch := [
    .add ("/" ++ (baseName ++ "-pv"))
      (.obj [
        ("apiVersion", "v1"),
        ("kind", "PersistentVolumeClaim"),
        ("metadata", .obj [("name", baseName), ("labels", .obj [("name", baseName)])]),
        ("spec", .obj [
          ("accessModes", .arr [accessMode]),
          ("resources", .obj [("requests", .obj [("storage", "10Gi")])]),
          ("storageClassName", config.cloudStorageClass)])]),
    .add ("/" ++ (baseName ++ "-secret"))
      (.obj [
        ("apiVersion", "v1"),
        ("kind", "Secret"),
        ("metadata", .obj [("name", baseName), ("labels", .obj [("name", baseName)])]),
        ("type", "Opaque"),
        ("stringData", .obj [
          ("remote", s.remoteName baseName),
          ("remotePath", s.sourcePath),
          ("secretKey", s.userSecretKey),
          ("configData", configData.1)])]),
    .add "/statefulset/spec/template/spec/containers/0/volumeMounts/-"
      (.obj [("mountPath", s.mountFolder), ("name", baseName), ("readOnly", s.readonly)]),
    .add "/statefulset/spec/template/spec/volumes/-"
      (.obj [
        ("name", baseName),
        ("persistentVolumeClaim", .obj [("claimName", baseName), ("readOnly", s.readonly)])])] }]

end RCloneStorage

end RenkuNotebooks.Notebooks
