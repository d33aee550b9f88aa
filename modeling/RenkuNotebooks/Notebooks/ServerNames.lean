import RenkuNotebooks.Foundation.PyText
import RenkuNotebooks.Foundation.Results
import RenkuNotebooks.Notebooks.Errors

/-!
# Names of servers

`renku_1_make_server_name` and `renku_2_make_server_name`. A name ends in a digest of the joined
components of the session. Sessions whose components join to the same text are told apart by the
readable parts of their names only.
-/

namespace RenkuNotebooks.Notebooks

/-- `s[:n]` -/
def takeText (n : Nat) (s : String) : String := String.ofList (s.toList.take n)

/-- A letter is put in front of a user name that does not start with one. -/
def makeServerNamePrefix (safeUsername : String) : Except PyError String :=
  let lowercase := PyText.lower safeUsername
  match lowercase.toList with
  | [] => .error .indexError
  | c :: _ => .ok (if c.isAlpha then lowercase else "n" ++ lowercase)

/-- `md5(s.encode()).hexdigest()` and `escapism.escape(s, escape_char="-")`. -/
structure NameLibrary where
  hexdigest : String → String
  escape : String → String
  length_hexdigest : ∀ s, (hexdigest s).length = 32

/-- What a Renku 1.0 session is named by. -/
structure Renku1Session where
  safeUsername : String
  namespace_ : String
  project : String
  branch : String
  commitSha : String
  deriving DecidableEq

/-- What a Renku 2.0 session is named by. -/
structure Renku2Session where
  safeUsername : String
  projectId : String
  launcherId : String
  deriving DecidableEq

namespace Renku1Session

variable (library : NameLibrary) (session : Renku1Session)

def stringForHashing : String :=
  session.safeUsername ++ "-" ++ session.namespace_ ++ "-" ++ session.project ++ "-" ++
    session.branch ++ "-" ++ session.commitSha

/-- The first eight digits of the digest. -/
def digest : String := takeText 8 (PyText.lower (library.hexdigest session.stringForHashing))

/-- The part of the name before the digest. -/
def readable : Except PyError String := do
  let hstart ← makeServerNamePrefix session.safeUsername
  pure (takeText 12 hstart ++ "-" ++ PyText.lower (takeText 20 (library.escape session.project)))

def makeServerName : Except PyError String := do
  let readable ← session.readable library
  pure (readable ++ "-" ++ session.digest library)

end Renku1Session

namespace Renku2Session

variable (library : NameLibrary) (session : Renku2Session)

def stringForHashing : String :=
  session.safeUsername ++ "-" ++ session.projectId ++ "-" ++ session.launcherId

def digest : String := takeText 21 (PyText.lower (library.hexdigest session.stringForHashing))

def readable : Except PyError String := do
  let hstart ← makeServerNamePrefix session.safeUsername
  pure (takeText 12 hstart ++ "-renku-2")

def makeServerName : Except PyError String := do
  let readable ← session.readable
  pure (readable ++ "-" ++ session.digest library)

end Renku2Session

namespace ServerNames

theorem length_takeText_lower {n : Nat} {s : String} (h : n ≤ s.length) :
    (takeText n (PyText.lower s)).length = n := by
  unfold takeText PyText.lower
  rw [String.length_ofList, String.toList_ofList, List.length_take, List.length_map,
    String.length_toList]
  omega

/-- Names with digests of one length are equal part by part. -/
theorem append_digest_inj {readable readable' digest digest' : String}
    (hlength : digest.length = digest'.length) :
    readable ++ "-" ++ digest = readable' ++ "-" ++ digest' ↔
      readable = readable' ∧ digest = digest' := by
  constructor
  · intro h
    have hlist := congrArg String.toList h
    rw [String.toList_append, String.toList_append (s := readable' ++ "-")] at hlist
    have hdigests : digest.toList.length = digest'.toList.length := by
      rw [String.length_toList, String.length_toList, hlength]
    obtain ⟨hstart, hdigest⟩ := List.append_inj' hlist hdigests
    rw [String.toList_append, String.toList_append] at hstart
    obtain ⟨hreadable, _⟩ := List.append_inj' hstart rfl
    exact ⟨String.ext hreadable, String.ext hdigest⟩
  · rintro ⟨rfl, rfl⟩
    rfl

/-- A name made of a readable part and a digest of a text. -/
theorem names_eq_iff {r r' : Except PyError String} {digest : String → String} {s s' : String}
    {name name' : String} (hlength : ∀ s, (digest s).length = (digest s').length)
    (hdigest : digest s = digest s' → s = s')
    (hname : (r >>= fun readable => pure (readable ++ "-" ++ digest s)) = Except.ok name)
    (hname' : (r' >>= fun readable => pure (readable ++ "-" ++ digest s')) = Except.ok name') :
    name = name' ↔ s = s' ∧ r = r' := by
  obtain ⟨readable, rfl, hname⟩ := Results.bind_eq_ok_iff.mp hname
  obtain ⟨readable', rfl, hname'⟩ := Results.bind_eq_ok_iff.mp hname'
  rw [← Except.ok.inj hname, ← Except.ok.inj hname', append_digest_inj (hlength s),
    Except.ok.injEq]
  constructor
  · exact fun h => ⟨hdigest h.2, h.1⟩
  · rintro ⟨rfl, hreadable⟩
    exact ⟨hreadable, rfl⟩

variable (library : NameLibrary)

/-- Different sessions have different names exactly when their components do not join to the same
text, or the readable parts of the names differ. -/
theorem names_differ_iff :
    (∀ (x y : Renku1Session) (name name' : String), x ≠ y →
      (x.digest library = y.digest library → x.stringForHashing = y.stringForHashing) →
      x.makeServerName library = .ok name → y.makeServerName library = .ok name' →
      (name ≠ name' ↔ ¬ (x.stringForHashing = y.stringForHashing ∧
        x.readable library = y.readable library))) ∧
    (∀ (x y : Renku2Session) (name name' : String), x ≠ y →
      (x.digest library = y.digest library → x.stringForHashing = y.stringForHashing) →
      x.makeServerName library = .ok name → y.makeServerName library = .ok name' →
      (name ≠ name' ↔ ¬ (x.stringForHashing = y.stringForHashing ∧ x.readable = y.readable))) := by
  have hlength : ∀ n ≤ 32, ∀ s s',
      (takeText n (PyText.lower (library.hexdigest s))).length =
        (takeText n (PyText.lower (library.hexdigest s'))).length := by
    intro n hn s s'
    rw [length_takeText_lower (by rw [library.length_hexdigest]; exact hn),
      length_takeText_lower (by rw [library.length_hexdigest]; exact hn)]
  constructor
  · intro x y name name' _ hdigest hname hname'
    rw [← names_eq_iff (fun s => hlength 8 (by decide) s _) hdigest hname hname']
  · intro x y name name' _ hdigest hname hname'
    rw [← names_eq_iff (fun s => hlength 21 (by decide) s _) hdigest hname hname']

/-! ### Components that join to the same text -/

theorem append_dash_inj {start start' rest rest' : List Char} (hrest : '-' ∉ rest)
    (hrest' : '-' ∉ rest') (h : start ++ '-' :: rest = start' ++ '-' :: rest') :
    start = start' ∧ rest = rest' := by
  rcases List.append_eq_append_iff.mp h with ⟨between, hstart, hsplit⟩ | ⟨between, hstart, hsplit⟩
  · cases between with
    | nil =>
      rw [List.append_nil] at hstart
      exact ⟨hstart.symm, (List.cons.inj hsplit).2⟩
    | cons c between =>
      exfalso
      apply hrest
      rw [(List.cons.inj hsplit).2]
      simp
  · cases between with
    | nil =>
      rw [List.append_nil] at hstart
      exact ⟨hstart, (List.cons.inj hsplit).2.symm⟩
    | cons c between =>
      exfalso
      apply hrest'
      rw [(List.cons.inj hsplit).2]
      simp

/-- Identifiers without a dash, as those of Renku 2.0 are, join to different texts. -/
theorem renku2_stringForHashing_inj {x y : Renku2Session} (hx : '-' ∉ x.projectId.toList)
    (hx' : '-' ∉ x.launcherId.toList) (hy : '-' ∉ y.projectId.toList)
    (hy' : '-' ∉ y.launcherId.toList) (h : x.stringForHashing = y.stringForHashing) : x = y := by
  have hdash : "-".toList = ['-'] := rfl
  have hlist := congrArg String.toList h
  simp only [Renku2Session.stringForHashing, String.toList_append, hdash, List.append_assoc,
    List.singleton_append] at hlist
  have hgrouped : (x.safeUsername.toList ++ '-' :: x.projectId.toList) ++ '-' :: x.launcherId.toList =
      (y.safeUsername.toList ++ '-' :: y.projectId.toList) ++ '-' :: y.launcherId.toList := by
    simpa using hlist
  obtain ⟨hstart, hlauncher⟩ := append_dash_inj hx' hy' hgrouped
  obtain ⟨husername, hproject⟩ := append_dash_inj hx hy hstart
  cases x
  cases y
  simp only [Renku2Session.mk.injEq]
  exact ⟨String.ext husername, String.ext hproject, String.ext hlauncher⟩

/-! ### Two projects with one name -/

def upperHexDigit (n : Nat) : Char := if n < 10 then Char.ofNat (48 + n) else Char.ofNat (55 + n)

/-- `f"{byte:X}"`, without a leading zero. -/
def upperHex (byte : UInt8) : List Char :=
  if byte.toNat < 16 then [upperHexDigit byte.toNat]
  else [upperHexDigit (byte.toNat / 16), upperHexDigit (byte.toNat % 16)]

/-- Letters and digits stay, the bytes of other characters become a dash and their digits. -/
def escapeDash (s : String) : String :=
  String.ofList (s.toList.flatMap fun c =>
    if c.isAlphanum then [c]
    else (String.ofList [c]).toUTF8.toList.flatMap fun byte => '-' :: upperHex byte)

/-- Any digest will do for names whose hashed texts are equal. -/
def sampleLibrary (hexdigest : String → String) (h : ∀ s, (hexdigest s).length = 32) :
    NameLibrary where
  hexdigest := hexdigest
  escape := escapeDash
  length_hexdigest := h

def plainProject : Renku1Session where
  safeUsername := "jane"
  namespace_ := "group"
  project := "climate-data-analysis"
  branch := "v2-main"
  commitSha := "0a1b2c"

/-- The branch name of the other session starts in the name of this project. -/
def dashedProject : Renku1Session where
  safeUsername := "jane"
  namespace_ := "group"
  project := "climate-data-analysis-v2"
  branch := "main"
  commitSha := "0a1b2c"

theorem sample_names_differ_iff :
    let library := sampleLibrary (fun _ => "907e92a3d94108cec6d2d1b764f765f4") fun _ => by decide
    ∃ name name', plainProject.makeServerName library = .ok name ∧
      dashedProject.makeServerName library = .ok name' ∧
      (name ≠ name' ↔ ¬ (plainProject.stringForHashing = dashedProject.stringForHashing ∧
        plainProject.readable library = dashedProject.readable library)) := by
  intro library
  have hjoined : plainProject.stringForHashing = dashedProject.stringForHashing := by
    decide +kernel
  refine ⟨_, _, rfl, rfl, ?_⟩
  exact (names_differ_iff library).1 plainProject dashedProject _ _ (by decide)
    (fun _ => hjoined) rfl rfl

theorem names_collide : plainProject ≠ dashedProject ∧
    ∀ (hexdigest : String → String) (h : ∀ s, (hexdigest s).length = 32),
      plainProject.makeServerName (sampleLibrary hexdigest h) =
        dashedProject.makeServerName (sampleLibrary hexdigest h) := by
  have hjoined : plainProject.stringForHashing = dashedProject.stringForHashing := by
    decide +kernel
  have hproject : PyText.lower (takeText 20 (escapeDash plainProject.project)) =
      PyText.lower (takeText 20 (escapeDash dashedProject.project)) := by
    decide +kernel
  refine ⟨by decide, ?_⟩
  intro hexdigest h
  unfold Renku1Session.makeServerName Renku1Session.readable Renku1Session.digest
  rw [hjoined]
  change (do
    let readable ← (do
      let hstart ← makeServerNamePrefix "jane"
      pure (takeText 12 hstart ++ "-" ++
        PyText.lower (takeText 20 (escapeDash plainProject.project))))
    pure (readable ++ "-" ++ _) : Except PyError String) = _
  rw [hproject]
  rfl

end ServerNames

end RenkuNotebooks.Notebooks
