import RenkuNotebooks.Foundation.Results
import RenkuNotebooks.Notebooks.Images

/-!
# Falling back to the default image

A requested image that is not found is replaced by the default one, while the client of the
requested image is kept. The look-up of the working directory then needs the two registries to be
the same.
-/

namespace RenkuNotebooks.Notebooks

open Prog

namespace ImageFallback

open ImageRepoDockerAPI PyDict

/-- An error of Python itself or of a package, none of the service's own. -/
def Foreign (e : PyError) : Prop := ∀ g, e ≠ .generic g

theorem raises_send (request : HttpGet) : (send request).Raises Foreign := by
  rintro (fault | reply)
  · intro g hg
    cases hg
  · trivial

theorem raises_jsonBody (reply : HttpReply) : (jsonBody reply).Raises Foreign := by
  unfold jsonBody
  cases reply.json with
  | none =>
    intro g hg
    cases hg
  | some body => trivial

theorem getOr_foreign {key : String} {default_ value : Json} {e : PyError}
    (h : getOr key default_ value = .error e) : Foreign e := by
  intro g hg
  subst hg
  unfold getOr at h
  split at h <;> cases h

theorem raises_getOr (key : String) (default_ value : Json) :
    (ofExcept (getOr key default_ value) : Http Json).Raises Foreign :=
  raises_ofExcept fun _ he => getOr_foreign he

theorem raises_elements (value : Json) :
    (ofExcept (elements value) : Http (List Json)).Raises Foreign := by
  apply raises_ofExcept
  intro e he g hg
  subst hg
  unfold elements at he
  split at he <;> cases he

theorem findPlatform_foreign {manifests : List Json} {e : PyError}
    (h : findPlatform manifests = .error e) : Foreign e := by
  induction manifests with
  | nil => cases h
  | cons manifest manifests ih =>
    rcases Results.bind_eq_error_iff.mp h with hplatform | ⟨platform, _, h⟩
    · exact getOr_foreign hplatform
    rcases Results.bind_eq_error_iff.mp h with harchitecture | ⟨architecture, _, h⟩
    · exact getOr_foreign harchitecture
    rcases Results.bind_eq_error_iff.mp h with hos | ⟨os, _, h⟩
    · exact getOr_foreign hos
    split at h
    · cases h
    · exact ih h

section Requests

variable (library : ImageLibrary) (repo : ImageRepoDockerAPI) (image : Image)

theorem raises_requestToken (realm : String) (params : List (String × String)) :
    (repo.requestToken library realm params).Raises Foreign := by
  apply Raises.bind (raises_send _)
  intro reply
  split
  · trivial
  · split
    · trivial
    · apply Raises.bind (raises_getOr _ _ _)
      intro token
      split <;> trivial

theorem raises_getDockerToken : (repo.getDockerToken library image).Raises Foreign := by
  rintro (fault | reply)
  · cases fault with
    | connectionError => trivial
    | other =>
      intro g hg
      cases hg
  · have htoken : ∀ params realm,
        (if realm = "" then pure none else repo.requestToken library realm params :
          Http (Option String)).Raises Foreign := by
      intro params realm
      split
      · trivial
      · exact raises_requestToken library repo _ _
    simp only [Prog.bind]
    split
    · trivial
    · split
      · trivial
      · split
        · trivial
        · split
          · intro g hg
            cases hg
          · exact htoken _ _

theorem raises_orElse (url accept : String) (headers : List (String × String))
    (reply : HttpReply) : (orElse url accept headers reply).Raises Foreign := by
  unfold orElse
  split
  · exact raises_send _
  · trivial

theorem raises_followIndex (headers : List (String × String)) (reply : HttpReply) :
    (followIndex library image headers reply).Raises Foreign := by
  apply Raises.bind (raises_jsonBody reply)
  intro index
  apply Raises.bind (raises_getOr _ _ _)
  intro manifests
  apply Raises.bind (raises_elements _)
  intro manifests
  apply Raises.bind (raises_ofExcept fun e he => findPlatform_foreign he)
  intro manifest
  apply Raises.bind (raises_getOr _ _ _)
  intro digest
  split
  · trivial
  · apply Raises.bind (raises_getOr _ _ _)
    intro mediaType
    apply Raises.bind (raises_send _)
    intro reply
    apply Raises.bind (raises_orElse _ _ _ _)
    intro reply
    split <;> trivial

theorem raises_manifestBody (reply : HttpReply) : (manifestBody reply).Raises Foreign := by
  unfold manifestBody
  split
  · trivial
  · split
    · exact Raises.bind (raises_jsonBody reply) fun _ => trivial
    · trivial

/-- Asked about its own images, a registry client raises no error of the service. -/
theorem raises_getImageManifest (h : image.hostname = repo.hostname) :
    (repo.getImageManifest library image).Raises Foreign := by
  unfold getImageManifest
  rw [if_neg (not_not_intro h)]
  apply Raises.bind (raises_getDockerToken library repo image)
  intro token
  apply Raises.bind (raises_send _)
  intro reply
  apply Raises.bind (raises_orElse _ _ _ _)
  intro reply
  apply Raises.bind (raises_orElse _ _ _ _)
  intro reply
  split
  · trivial
  · split
    · apply Raises.bind (raises_followIndex library image _ reply)
      rintro (_ | reply)
      · trivial
      · exact raises_manifestBody reply
    · exact raises_manifestBody reply

theorem raises_getImageConfig (h : image.hostname = repo.hostname) :
    (repo.getImageConfig library image).Raises Foreign := by
  apply Raises.bind (raises_getImageManifest library repo image h)
  rintro (_ | manifest)
  · trivial
  · apply Raises.bind (raises_getOr _ _ _)
    intro config
    apply Raises.bind (raises_getOr _ _ _)
    intro digest
    split
    · trivial
    · apply Raises.bind (raises_getDockerToken library repo image)
      intro token
      apply Raises.bind (raises_send _)
      intro reply
      split
      · trivial
      · exact Raises.bind (raises_jsonBody reply) fun _ => trivial

theorem raises_imageWorkdir (h : image.hostname = repo.hostname) :
    (repo.imageWorkdir library image).Raises Foreign := by
  apply Raises.bind (raises_getImageConfig library repo image h)
  rintro (_ | config)
  · trivial
  · apply Raises.bind (raises_getOr _ _ _)
    intro nested
    split
    · trivial
    · apply Raises.bind (raises_getOr _ _ _)
      intro workdir
      apply Raises.bind
      · apply raises_ofExcept
        intro e he g hg
        subst hg
        unfold workdirPath at he
        split at he <;> cases he
      · exact fun _ => trivial

/-- Asked about an image of another registry, a client raises before any request. -/
theorem imageWorkdir_of_ne (h : image.hostname ≠ repo.hostname) :
    repo.imageWorkdir library image = .raise (.generic (imageParseError
      ("The image hostname " ++ image.hostname ++ " does not match the image repository " ++
        repo.hostname))) := by
  unfold imageWorkdir getImageConfig getImageManifest
  rw [if_pos h]
  rfl

end Requests

/-! ### The choice -/

section Choice

variable (config : Config) (library : ImageLibrary) (gitToken : Option String)

/-- Whether the image exists publicly (`false`) or, on the registry of GitLab, with the token
of the user (`true`). -/
def findImage (parsedImage : Image) : Http (Option Bool) := do
  let existsPublicly ← parsedImage.repoApi.imageExists library parsedImage
  if existsPublicly then pure (some false)
  else
    match privateRepo config gitToken parsedImage with
    | none => pure none
    | some imageRepo => do
      let existsPrivately ← imageRepo.imageExists library parsedImage
      pure (if existsPrivately then some true else none)

/-- The registry client that the choice ends with when nothing was found. -/
def lastRepo (parsedImage : Image) : ImageRepoDockerAPI :=
  (privateRepo config gitToken parsedImage).getD parsedImage.repoApi

/-- What the helper makes of the answers about the requested image. -/
def chosenFor (image : String) (parsedImage : Image) : Option Bool → Http ChosenImage
  | some false => pure {
      image, parsedImage, imageRepo := parsedImage.repoApi,
      usingDefaultImage := false, isImagePrivate := false }
  | some true => pure {
      image, parsedImage, imageRepo := lastRepo config gitToken parsedImage,
      usingDefaultImage := false, isImagePrivate := true }
  | none => defaultImage config (lastRepo config gitToken parsedImage)

theorem privateRepo_hostname {parsedImage : Image} {imageRepo : ImageRepoDockerAPI}
    (h : privateRepo config gitToken parsedImage = some imageRepo) :
    imageRepo.hostname = parsedImage.hostname := by
  unfold privateRepo at h
  cases gitToken with
  | none => cases h
  | some gitToken =>
    dsimp only at h
    split at h
    · cases h
      rfl
    · cases h

theorem lastRepo_hostname (parsedImage : Image) :
    (lastRepo config gitToken parsedImage).hostname = parsedImage.hostname := by
  unfold lastRepo
  cases h : privateRepo config gitToken parsedImage with
  | none => rfl
  | some imageRepo => exact privateRepo_hostname config gitToken h

theorem requestedImage_eq {image : String} {parsedImage : Image}
    (hparse : Image.fromPath image = .ok parsedImage) :
    requestedImage config library gitToken image =
      (findImage config library gitToken parsedImage).bind
        (chosenFor config gitToken image parsedImage) := by
  have hlast : lastRepo config gitToken parsedImage =
      (privateRepo config gitToken parsedImage).getD parsedImage.repoApi := rfl
  have hstart : requestedImage config library gitToken image =
      (parsedImage.repoApi.imageExists library parsedImage).bind fun existsPublicly =>
        (if existsPublicly then
          pure {
            image, parsedImage, imageRepo := parsedImage.repoApi,
            usingDefaultImage := false, isImagePrivate := false }
        else
          match privateRepo config gitToken parsedImage with
          | none => defaultImage config parsedImage.repoApi
          | some imageRepo => (imageRepo.imageExists library parsedImage).bind fun existsPrivately =>
            if existsPrivately then
              pure { image, parsedImage, imageRepo, usingDefaultImage := false, isImagePrivate := true }
            else defaultImage config imageRepo) := by
    unfold requestedImage
    rw [hparse]
    rfl
  rw [hstart, findImage, bind_eq, Prog.bind_assoc]
  congr 1
  funext existsPublicly
  cases existsPublicly with
  | true => rfl
  | false =>
    cases hrepo : privateRepo config gitToken parsedImage with
    | none =>
      rw [hrepo] at hlast
      simp [chosenFor, hlast, Prog.bind]
    | some imageRepo =>
      rw [hrepo] at hlast
      simp only [Bool.false_eq_true, if_false, bind_eq, Prog.bind_assoc]
      congr 1
      funext existsPrivately
      cases existsPrivately with
      | true => simp [chosenFor, hlast, Prog.bind]
      | false => simp [chosenFor, hlast, Prog.bind]

section Run

variable {σ : Type} (serve : HttpGet → σ → Except HttpFault HttpReply × σ)
variable (image : String) (project : Option ImageProject) (parsedImage : Image) (s : σ)

/-- What the session runs, for the answers about the requested image. -/
def RunsImage (chosen : ChosenImage) : Option Bool → Prop
  | some isPrivate => chosen.image = image ∧ chosen.parsedImage = parsedImage ∧
      chosen.isImagePrivate = isPrivate ∧ chosen.usingDefaultImage = false
  | none => chosen.image = config.sessions.defaultImage ∧
      Image.fromPath config.sessions.defaultImage = .ok chosen.parsedImage ∧
      chosen.isImagePrivate = false ∧ chosen.usingDefaultImage = true

/-- The requested image is run where it exists, the default one otherwise, and the working
directory is looked up at the registry of the image that is run. -/
structure FallsBack : Prop where
  chooses : ∃ found s', run serve (findImage config library gitToken parsedImage) s = (.ok found, s') ∧
    ∃ chosen, run serve (chooseImage config library gitToken (some image) project) s =
      (.ok chosen, s') ∧
      RunsImage config image parsedImage chosen found ∧
      chosen.imageRepo.hostname = chosen.parsedImage.hostname
  parses : ∀ message s', run serve (imageWithWorkdir config library gitToken (some image) project) s ≠
    (.error (.generic (imageParseError message)), s')

/-- The registries answer, and where they do not have the image, the default image is on the
same registry. -/
def CanFallBack : Prop :=
  ∃ found s', run serve (findImage config library gitToken parsedImage) s = (.ok found, s') ∧
    (found = none → ∃ default_, Image.fromPath config.sessions.defaultImage = .ok default_ ∧
      default_.hostname = parsedImage.hostname)

theorem not_parsed_empty : Image.fromPath "" ≠ .ok parsedImage := by
  have hempty : Image.fromPath "" =
      .error (.generic (imageParseError ("Cannot parse the image " ++ ""))) := rfl
  rw [hempty]
  intro h
  cases h

variable {image parsedImage}

theorem chooseImage_eq (hparse : Image.fromPath image = .ok parsedImage) :
    chooseImage config library gitToken (some image) project =
      (findImage config library gitToken parsedImage).bind
        (chosenFor config gitToken image parsedImage) := by
  have hne : image ≠ "" := by
    rintro rfl
    exact not_parsed_empty parsedImage hparse
  have hfilter : (some image).filter (· ≠ "") = some image := by
    rw [Option.filter_some, if_pos (decide_eq_true hne)]
  unfold chooseImage
  rw [hfilter]
  exact requestedImage_eq config library gitToken hparse

/-- What the choice of an image gives, once the registries have answered. -/
theorem run_chosenFor (image : String) (parsedImage : Image) (found : Option Bool) (s : σ)
    (hdefault : found = none → ∃ default_,
      Image.fromPath config.sessions.defaultImage = .ok default_ ∧
        default_.hostname = parsedImage.hostname) :
    ∃ chosen, run serve (chosenFor config gitToken image parsedImage found) s = (.ok chosen, s) ∧
      RunsImage config image parsedImage chosen found ∧
      chosen.imageRepo.hostname = chosen.parsedImage.hostname := by
  have hlast := lastRepo_hostname config gitToken parsedImage
  match found with
  | some false => exact ⟨_, rfl, ⟨rfl, rfl, rfl, rfl⟩, rfl⟩
  | some true => exact ⟨_, rfl, ⟨rfl, rfl, rfl, rfl⟩, hlast⟩
  | none =>
    obtain ⟨default_, hparsed, hhost⟩ := hdefault rfl
    refine ⟨{
      image := config.sessions.defaultImage, parsedImage := default_,
      imageRepo := lastRepo config gitToken parsedImage,
      usingDefaultImage := true, isImagePrivate := false }, ?_, ⟨rfl, hparsed, rfl, rfl⟩, ?_⟩
    · simp only [chosenFor, defaultImage, hparsed]
      rfl
    · rw [hlast, hhost]

theorem fallsBack_iff (hparse : Image.fromPath image = .ok parsedImage) :
    FallsBack config library gitToken serve image project parsedImage s ↔
      CanFallBack config library gitToken serve parsedImage s := by
  have hchoose := chooseImage_eq config library gitToken project hparse
  constructor
  · rintro ⟨⟨found, s', hfind, chosen, hchosen, hruns, hhost⟩, _⟩
    refine ⟨found, s', hfind, ?_⟩
    rintro rfl
    obtain ⟨_, hdefault, _, _⟩ := hruns
    refine ⟨chosen.parsedImage, hdefault, ?_⟩
    rw [hchoose, run_bind_ok serve hfind] at hchosen
    simp only [chosenFor, defaultImage, hdefault] at hchosen
    have hrepo : lastRepo config gitToken parsedImage = chosen.imageRepo :=
      congrArg ChosenImage.imageRepo (Except.ok.inj (Prod.mk.inj hchosen).1)
    rw [← hhost, ← hrepo]
    exact lastRepo_hostname config gitToken parsedImage
  · rintro ⟨found, s', hfind, hdefault⟩
    obtain ⟨chosen, hchosen, hruns, hhost⟩ :=
      run_chosenFor config gitToken serve image parsedImage found s' hdefault
    rw [← run_bind_ok serve hfind, ← hchoose] at hchosen
    refine ⟨⟨found, s', hfind, chosen, hchosen, hruns, hhost⟩, ?_⟩
    intro message s'' herror
    unfold imageWithWorkdir at herror
    rw [bind_eq, run_bind_ok serve hchosen, bind_eq, run_bind] at herror
    cases hrun : run serve (chosen.imageRepo.imageWorkdir library chosen.parsedImage) s' with
    | mk outcome t =>
      rw [hrun] at herror
      cases outcome with
      | ok workdir => cases herror
      | error e =>
        cases herror
        exact Raises.run serve (raises_imageWorkdir library _ _ hhost.symm) hrun _ rfl

/-! ### Registries that know no image -/

def sampleLibrary : ImageLibrary where
  parseAuthenticate := fun _ => none
  encodeCredentials := fun credentials => credentials
  pyRepr := fun _ => ""

def notFound (_ : HttpGet) (s : Unit) : Except HttpFault HttpReply × Unit :=
  (.ok { status := 404, headers := [], json := none }, s)

theorem sample_fallsBack :
    FallsBack defaultConfig sampleLibrary none notFound "nginx" none
      ⟨"registry-1.docker.io", "library/nginx", "latest"⟩ () :=
  (fallsBack_iff defaultConfig sampleLibrary none notFound none () (by decide +kernel)).mpr
    ⟨none, (), rfl, fun _ => ⟨⟨"registry-1.docker.io", "renku/singleuser", "latest"⟩,
      by decide +kernel, rfl⟩⟩

/-- The default image is not on the registry of the requested one. -/
theorem other_registry_not_parsed :
    Image.fromPath "ghcr.io/jane/image:1.0" = .ok ⟨"ghcr.io", "jane/image", "1.0"⟩ ∧
    run notFound (imageWithWorkdir defaultConfig sampleLibrary none
        (some "ghcr.io/jane/image:1.0") none) () =
      (.error (.generic (imageParseError
        "The image hostname registry-1.docker.io does not match the image repository ghcr.io")), ()) ∧
    ¬ FallsBack defaultConfig sampleLibrary none notFound "ghcr.io/jane/image:1.0" none
      ⟨"ghcr.io", "jane/image", "1.0"⟩ () := by
  have hparse : Image.fromPath "ghcr.io/jane/image:1.0" = .ok ⟨"ghcr.io", "jane/image", "1.0"⟩ := by
    decide +kernel
  have hdefault : Image.fromPath "renku/singleuser:latest" =
      .ok ⟨"registry-1.docker.io", "renku/singleuser", "latest"⟩ := by
    decide +kernel
  have hchosen : run notFound (chooseImage defaultConfig sampleLibrary none
      (some "ghcr.io/jane/image:1.0") none) () = (.ok {
        image := "renku/singleuser:latest"
        parsedImage := ⟨"registry-1.docker.io", "renku/singleuser", "latest"⟩
        imageRepo := { hostname := "ghcr.io" }, usingDefaultImage := true
        isImagePrivate := false }, ()) := by
    rw [chooseImage_eq defaultConfig sampleLibrary none none hparse]
    change run notFound (defaultImage defaultConfig { hostname := "ghcr.io" }) () = _
    unfold defaultImage
    change run notFound (Prog.bind (ofExcept (Image.fromPath "renku/singleuser:latest")) _) () = _
    rw [hdefault]
    rfl
  have hworkdir : run notFound (imageWithWorkdir defaultConfig sampleLibrary none
      (some "ghcr.io/jane/image:1.0") none) () = (.error (.generic (imageParseError
        "The image hostname registry-1.docker.io does not match the image repository ghcr.io")), ()) := by
    unfold imageWithWorkdir
    rw [bind_eq, run_bind_ok notFound hchosen, imageWorkdir_of_ne _ _ _ (by decide)]
    rfl
  refine ⟨hparse, hworkdir, ?_⟩
  intro hfallsBack
  exact hfallsBack.parses _ _ hworkdir

end Run

end Choice

end ImageFallback

end RenkuNotebooks.Notebooks
