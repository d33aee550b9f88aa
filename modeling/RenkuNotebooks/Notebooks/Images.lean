import RenkuNotebooks.Foundation.Program
import RenkuNotebooks.Notebooks.PyDict
import RenkuNotebooks.Notebooks.ServerData

/-!
# Docker images

`Image` and `ImageRepoDockerAPI`, and the part of `launch_notebook_helper` that decides which image
a session runs. The requests to the registries are calls of a program, so that a registry can
answer as it likes.
-/

namespace RenkuNotebooks.Notebooks

open Prog

structure Image where
  hostname : String
  name : String
  tag : String
  deriving DecidableEq, Repr

/-! ### Parsing an image -/

namespace Image

/-- `match.groupdict()` with what it is updated by, in insertion order. -/
abbrev Groups := List (String × String)

def setGroup (groups : Groups) (group : String × String) : Groups :=
  if groups.any (·.1 = group.1) then groups.map fun g => if g.1 = group.1 then group else g
  else groups ++ [group]

def isNameChar (c : Char) : Bool := c.isAlphanum || c = '.' || c = '_' || c = '-'

def isShaChar (c : Char) : Bool := isNameChar c || c = ':'

/-- The end of a regular expression: nothing, or the separator and a tag. -/
def matchTag (separator : Option Char) (cs : List Char) : Option Groups :=
  match separator, cs with
  | none, [] => some []
  | some s, c :: tag =>
    if c = s ∧ tag ≠ [] ∧ tag.all (if s = '@' then isShaChar else isNameChar) then
      some [("tag", String.ofList tag)]
    else none
  | _, _ => none

def matchImage (isImageChar : Char → Bool) (separator : Option Char) (cs : List Char) :
    Option Groups :=
  match cs.takeWhile isImageChar with
  | [] => none
  | image =>
    (matchTag separator (cs.dropWhile isImageChar)).map (("image", String.ofList image) :: ·)

/-- A group that ends at the first slash, and what follows it. -/
def matchPart (accepts : List Char → Bool) (cs : List Char) : Option (String × List Char) :=
  match cs.dropWhile (· ≠ '/') with
  | [] => none
  | _ :: rest =>
    let part := cs.takeWhile (· ≠ '/')
    if accepts part then some (String.ofList part, rest) else none

def isHostname (cs : List Char) : Bool :=
  let isLabelChar := fun c : Char => c.isAlphanum || c = '_' || c = '-'
  match cs.dropWhile isLabelChar with
  | [] => false
  | c :: rest => cs.takeWhile isLabelChar ≠ [] ∧ c = '.' ∧ rest ≠ [] ∧ rest.all isShaChar

/-- `nginx:1.28` -/
def matchDockerImage (separator : Option Char) (cs : List Char) : Option Groups :=
  matchImage isNameChar separator cs

/-- `username/image:1.0.0` -/
def matchDockerUserImage (separator : Option Char) (cs : List Char) : Option Groups := do
  let (username, rest) ← matchPart (fun part => part ≠ [] ∧ part.all (·.isAlphanum)) cs
  let groups ← matchImage isNameChar separator rest
  pure (("username", username) :: groups)

/-- `gitlab.com/username/project/image/subimage:1.2.3` -/
def matchHostImage (separator : Option Char) (cs : List Char) : Option Groups := do
  let (hostname, rest) ← matchPart isHostname cs
  let (username, rest) ← matchPart (fun part => part ≠ [] ∧ part.all isNameChar) rest
  let groups ← matchImage (fun c => isNameChar c || c = '/') separator rest
  pure (("hostname", hostname) :: ("username", username) :: groups)

/-- The expressions, with the defaults that a match is filled up by. -/
def regexes : List ((List Char → Option Groups) × Groups) := [
  (matchDockerImage none,
    [("hostname", "registry-1.docker.io"), ("username", "library"), ("tag", "latest")]),
  (matchDockerUserImage none, [("hostname", "registry-1.docker.io"), ("tag", "latest")]),
  (matchDockerImage (some ':'), [("hostname", "registry-1.docker.io"), ("username", "library")]),
  (matchDockerUserImage (some ':'), [("hostname", "registry-1.docker.io")]),
  (matchDockerImage (some '@'), [("hostname", "registry-1.docker.io"), ("username", "library")]),
  (matchDockerUserImage (some '@'), [("hostname", "registry-1.docker.io")]),
  (matchHostImage none, [("tag", "latest")]),
  (matchHostImage (some ':'), []),
  (matchHostImage (some '@'), [])]

def group (name : String) (groups : Groups) : String := (groups.lookup name).getD ""

/-- The user name becomes a part of the image name. -/
def fillGroups (fill groups : Groups) : Groups :=
  let filled := fill.foldl setGroup groups
  (setGroup filled ("image", group "username" filled ++ "/" ++ group "image" filled)).filter
    (·.1 ≠ "username")

/-- `$` also matches before a line feed at the end. -/
def dropLineFeed (cs : List Char) : List Char :=
  match cs.reverse with
  | '\n' :: rest => rest.reverse
  | _ => cs

/-- `repr` of the list of the matches. -/
def groupsText (found : List Groups) : String :=
  let quote := fun s : String => "'" ++ s ++ "'"
  let dict := fun groups : Groups =>
    "\x7b" ++ ", ".intercalate (groups.map fun g => quote g.1 ++ ": " ++ quote g.2) ++ "\x7d"
  "[" ++ ", ".intercalate (found.map dict) ++ "]"

def fromPath (path : String) : Except PyError Image :=
  let cs := dropLineFeed path.toList
  match regexes.filterMap fun regex => (regex.1 cs).map (fillGroups regex.2) with
  | [groups] => .ok ⟨group "hostname" groups, group "image" groups, group "tag" groups⟩
  | [] => .error (.generic (imageParseError ("Cannot parse the image " ++ path)))
  | found => .error (.generic (imageParseError
      ("Cannot parse the image " ++ path ++ ", too many interpretations " ++ groupsText found)))

end Image

/-! ### Requests -/

/-- `requests.get` -/
structure HttpGet where
  url : String
  params : List (String × String) := []
  headers : List (String × String) := []

structure HttpReply where
  status : Nat
  /-- Looked up by the names that the code uses. -/
  headers : List (String × String)
  /-- A body that is not JSON is left out. -/
  json : Option Json

inductive HttpFault where
  | connectionError
  | other

abbrev Http := Prog HttpGet (fun _ => Except HttpFault HttpReply) PyError

/-- A request whose failure is not handled. -/
def send (request : HttpGet) : Http HttpReply := do
  match ← perform request with
  | .ok reply => pure reply
  | .error _ => .raise .requestException

/-- `reply.json()`, where a failure is not handled. -/
def jsonBody (reply : HttpReply) : Http Json :=
  match reply.json with
  | some body => pure body
  | none => .raise .valueError

/-! ### Registries -/

namespace ManifestTypes

def dockerV2 : String := "application/vnd.docker.distribution.manifest.v2+json"
def dockerV2List : String := "application/vnd.docker.distribution.manifest.list.v2+json"
def ociV1Manifest : String := "application/vnd.oci.image.manifest.v1+json"
def ociV1Index : String := "application/vnd.oci.image.index.v1+json"

end ManifestTypes

/-- What the registry client takes from other packages. -/
structure ImageLibrary where
  /-- The parameters of `WWWAuthenticate.from_header`. -/
  parseAuthenticate : String → Option (List (String × String))
  /-- `base64.urlsafe_b64encode` -/
  encodeCredentials : String → String
  /-- `str` of a value that is not a string. -/
  pyRepr : Json → String

structure ImageRepoDockerAPI where
  hostname : String
  oauth2Token : Option String := none

/-- `json.loads` gives `None` for null. -/
def noneIfNull : Json → Option Json
  | .null => none
  | value => some value

namespace ImageRepoDockerAPI

open PyDict

variable (library : ImageLibrary) (repo : ImageRepoDockerAPI) (image : Image)

def pyStr : Json → String
  | .str s => s
  | value => library.pyRepr value

def authorization : Option String → List (String × String)
  | none => []
  | some token => [("Authorization", "Bearer " ++ token)]

/-- The credentials that ask for a token, if the client has any. -/
def credentials : List (String × String) :=
  match repo.oauth2Token with
  | some oauth2Token =>
    if oauth2Token = "" then []
    else [("Authorization", "Basic " ++ library.encodeCredentials ("oauth2:" ++ oauth2Token))]
  | none => []

def requestToken (realm : String) (params : List (String × String)) : Http (Option String) := do
  let reply ← send {
    url := realm, params := params.filter (·.1 ≠ "realm"),
    headers := ("Accept", "application/json") :: repo.credentials library }
  if reply.status ≠ 200 then pure none
  else
    match reply.json with
    | none => pure none
    | some body => do
      let token ← ofExcept (getOr "token" .null body)
      if token.truthy then pure (some (pyStr library token)) else pure none

def getDockerToken : Http (Option String) := do
  let imageDigestUrl := "https://" ++ repo.hostname ++ "/v2/" ++ image.name ++ "/manifests/" ++ image.tag
  match ← perform { url := imageDigestUrl } with
  | .error .connectionError => pure none
  | .error .other => .raise .requestException
  | .ok reply =>
    match reply.headers.lookup "Www-Authenticate" with
    | none => pure none
    | some authenticate =>
      if reply.status ≠ 401 then pure none
      else
        match library.parseAuthenticate authenticate with
        | none => pure none
        | some params =>
          match params.lookup "realm" with
          | none => .raise (.keyError "realm")
          | some realm => if realm = "" then pure none else repo.requestToken library realm params

/-- The request once more, for another type of manifest, unless it has succeeded. -/
def orElse (url accept : String) (headers : List (String × String)) (reply : HttpReply) :
    Http HttpReply :=
  if reply.status ≠ 200 then send { url, headers := ("Accept", accept) :: headers } else pure reply

/-- The first manifest of an index that is for the default platform, or an empty one. -/
def findPlatform : List Json → Except PyError Json
  | [] => .ok (.obj [])
  | manifest :: manifests => do
    let platform ← getOr "platform" (.obj []) manifest
    let architecture ← getOr "architecture" .null platform
    let os ← getOr "os" .null platform
    if architecture = .str "amd64" ∧ os = .str "linux" then pure manifest
    else findPlatform manifests

/-- The manifest that an index names for the platform. -/
def followIndex (headers : List (String × String)) (reply : HttpReply) :
    Http (Option HttpReply) := do
  let index ← jsonBody reply
  let manifests ← ofExcept (getOr "manifests" (.arr []) index)
  let manifests ← ofExcept (elements manifests)
  let manifest ← ofExcept (findPlatform manifests)
  let digest ← ofExcept (getOr "digest" .null manifest)
  if !manifest.truthy || !digest.truthy then pure none
  else do
    let url := "https://" ++ image.hostname ++ "/v2/" ++ image.name ++ "/manifests/" ++
      pyStr library digest
    let mediaType ← ofExcept (getOr "mediaType" .null manifest)
    let accept :=
      if mediaType = .str ManifestTypes.ociV1Manifest then ManifestTypes.ociV1Manifest
      else ManifestTypes.dockerV2
    let reply ← send { url, headers := ("Accept", accept) :: headers }
    let reply ← orElse url ManifestTypes.ociV1Manifest headers reply
    if reply.status ≠ 200 then pure none else pure (some reply)

/-- The body of a reply that is a manifest and no index. -/
def manifestBody (reply : HttpReply) : Http (Option Json) :=
  match reply.headers.lookup "Content-Type" with
  | none => pure none
  | some contentType =>
    if contentType = ManifestTypes.dockerV2 ∨ contentType = ManifestTypes.ociV1Manifest then do
      let body ← jsonBody reply
      pure (noneIfNull body)
    else pure none

def isIndex (reply : HttpReply) : Bool :=
  match reply.headers.lookup "Content-Type" with
  | none => false
  | some contentType =>
    contentType = ManifestTypes.dockerV2List ∨ contentType = ManifestTypes.ociV1Index

def getImageManifest : Http (Option Json) :=
  if image.hostname ≠ repo.hostname then
    .raise (.generic (imageParseError
      ("The image hostname " ++ image.hostname ++ " does not match the image repository " ++
        repo.hostname)))
  else do
    let token ← repo.getDockerToken library image
    let url := "https://" ++ image.hostname ++ "/v2/" ++ image.name ++ "/manifests/" ++ image.tag
    let headers := authorization token
    let reply ← send { url, headers := ("Accept", ManifestTypes.dockerV2) :: headers }
    let reply ← orElse url ManifestTypes.ociV1Manifest headers reply
    let reply ← orElse url ManifestTypes.ociV1Index headers reply
    if reply.status ≠ 200 then pure none
    else if isIndex reply then do
      match ← followIndex library image headers reply with
      | none => pure none
      | some reply => manifestBody reply
    else manifestBody reply

def imageExists : Http Bool := do
  let manifest ← repo.getImageManifest library image
  pure manifest.isSome

def getImageConfig : Http (Option Json) := do
  match ← repo.getImageManifest library image with
  | none => pure none
  | some manifest => do
    let config ← ofExcept (getOr "config" (.obj []) manifest)
    let digest ← ofExcept (getOr "digest" .null config)
    if digest = .null then pure none
    else do
      let token ← repo.getDockerToken library image
      let reply ← send {
        url := "https://" ++ image.hostname ++ "/v2/" ++ image.name ++ "/blobs/" ++
          pyStr library digest,
        headers := [("Accept", "application/json"), ("Authorization", "Bearer " ++ token.getD "None")] }
      if reply.status ≠ 200 then pure none
      else do
        let body ← jsonBody reply
        pure (noneIfNull body)

/-- `Path(workdir)` -/
def workdirPath : Json → Except PyError PosixPath
  | .str s => .ok (.ofString (if s = "" then "/" else s))
  | _ => .error .typeError

def imageWorkdir : Http (Option PosixPath) := do
  match ← repo.getImageConfig library image with
  | none => pure none
  | some config => do
    let nested ← ofExcept (getOr "config" (.obj []) config)
    if nested = .null then pure none
    else do
      let workdir ← ofExcept (getOr "WorkingDir" "/" nested)
      let path ← ofExcept (workdirPath workdir)
      pure (some path)

def withOauth2Token (oauth2Token : String) : ImageRepoDockerAPI :=
  { repo with oauth2Token := some oauth2Token }

end ImageRepoDockerAPI

def Image.repoApi (image : Image) : ImageRepoDockerAPI := { hostname := image.hostname }

/-! ### The image of a session -/

structure ChosenImage where
  image : String
  parsedImage : Image
  imageRepo : ImageRepoDockerAPI
  usingDefaultImage : Bool
  isImagePrivate : Bool

/-- The GitLab project of a Renku 1.0 session, as the choice of the image reads it. -/
structure ImageProject where
  pathWithNamespace : String
  visibility : Option String
  commitSha : String

section Choice

variable (config : Config) (library : ImageLibrary) (gitToken : Option String)

/-- The default image, with the client that has not found the requested one. -/
def defaultImage (imageRepo : ImageRepoDockerAPI) : Http ChosenImage := do
  let parsedImage ← ofExcept (Image.fromPath config.sessions.defaultImage)
  pure {
    image := config.sessions.defaultImage, parsedImage, imageRepo,
    usingDefaultImage := true, isImagePrivate := false }

/-- The client with the user's token, for an image that the token is good for. -/
def privateRepo (parsedImage : Image) : Option ImageRepoDockerAPI :=
  match gitToken with
  | none => none
  | some gitToken =>
    if parsedImage.hostname = config.gitRegistry ∧ gitToken ≠ "" then
      some (parsedImage.repoApi.withOauth2Token gitToken)
    else none

def requestedImage (image : String) : Http ChosenImage := do
  let parsedImage ← ofExcept (Image.fromPath image)
  let imageRepo := parsedImage.repoApi
  let existsPublicly ← imageRepo.imageExists library parsedImage
  if existsPublicly then
    pure { image, parsedImage, imageRepo, usingDefaultImage := false, isImagePrivate := false }
  else
    match privateRepo config gitToken parsedImage with
    | none => defaultImage config imageRepo
    | some imageRepo => do
      let existsPrivately ← imageRepo.imageExists library parsedImage
      if existsPrivately then
        pure { image, parsedImage, imageRepo, usingDefaultImage := false, isImagePrivate := true }
      else defaultImage config imageRepo

/-- The image that is built for the commit. -/
def projectImage (project : ImageProject) : Http ChosenImage := do
  let name := PyText.lower project.pathWithNamespace
  let tag := String.ofList (project.commitSha.toList.take 7)
  let image := config.gitRegistry ++ "/" ++ name ++ ":" ++ tag
  let parsedImage : Image := { hostname := config.gitRegistry, name, tag }
  let isImagePrivate := project.visibility.any (· ≠ "public")
  let imageRepo :=
    match gitToken with
    | some gitToken =>
      if isImagePrivate ∧ gitToken ≠ "" then parsedImage.repoApi.withOauth2Token gitToken
      else parsedImage.repoApi
    | none => parsedImage.repoApi
  let found ← imageRepo.imageExists library parsedImage
  if found then pure { image, parsedImage, imageRepo, usingDefaultImage := false, isImagePrivate }
  else
    .raise (.generic (missingResourceError
      ("Cannot start the session because the following the image " ++ image ++ " does not exist or " ++
        "the user does not have the permissions to access it.")))

def chooseImage (image : Option String) (project : Option ImageProject) : Http ChosenImage :=
  match image.filter (· ≠ ""), project with
  | some image, _ => requestedImage config library gitToken image
  | none, some project => projectImage config library gitToken project
  | none, none =>
    .raise (.generic (userInputError "Cannot determine which Docker image to use." none))

/-- The choice with the later look-up of the working directory. -/
def imageWithWorkdir (image : Option String) (project : Option ImageProject) :
    Http (ChosenImage × Option PosixPath) := do
  let chosen ← chooseImage config library gitToken image project
  let workdir ← chosen.imageRepo.imageWorkdir library chosen.parsedImage
  pure (chosen, workdir)

end Choice

end RenkuNotebooks.Notebooks
