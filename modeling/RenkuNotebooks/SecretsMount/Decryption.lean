import Mathlib.Logic.Function.Basic
import RenkuNotebooks.Foundation.PosixPath
import RenkuNotebooks.Foundation.Program
import RenkuNotebooks.Notebooks.PyDict

/-!
# Decrypting the secrets of a user

`secrets_mount/__main__.py`: before a session starts, its mounted secrets are decrypted with the
user's key and written to a second directory. The container sees volumes through its mounts.
-/

namespace RenkuNotebooks.SecretsMount

open Prog
open Notebooks (PyError)
open Notebooks.PyDict (getItem text)

/-! ### The program -/

inductive Failure where
  | python (e : PyError)
  | osError
  | jsonDecodeError
  | invalidToken
  deriving DecidableEq, Repr

/-- The body, if it is JSON. -/
structure HttpResponse where
  statusCode : Nat
  body : Option Json
  deriving DecidableEq, Repr

def HttpResponse.json (response : HttpResponse) : Except Failure Json :=
  response.body.elim (.error .jsonDecodeError) .ok

/-- A file is given by its directory and its name. -/
inductive Call where
  | get (url accessToken : String)
  | exists_ (path : PosixPath)
  | iterdir (path : PosixPath)
  | isDir (path : PosixPath) (name : String)
  | read (path : PosixPath) (name : String)
  | write (path : PosixPath) (name content : String)
  deriving DecidableEq, Repr

abbrev Reply : Call → Type
  | .get .. => Except Failure HttpResponse
  | .exists_ .. => Bool
  | .iterdir .. => Except Failure (List String)
  | .isDir .. => Bool
  | .read .. => Except Failure String
  | .write .. => Except Failure Unit

abbrev SecretsProg (α : Type) : Type := Prog Call Reply Failure α

def requestsGet (url accessToken : String) : SecretsProg HttpResponse :=
  (perform (Call.get url accessToken)).bind Prog.ofExcept

def python {α : Type} (x : Except PyError α) : Except Failure α := x.mapError .python

/-- Of the package `cryptography`: PBKDF2 with the constants of the source, and Fernet. -/
structure Cryptography (Key : Type) where
  getEncryptionKey : (password salt : String) → Key
  decryptString : Key → String → Except Failure String

section Program

variable {Key : Type} (crypto : Cryptography Key)

def getUserKey (dataSvcUrl accessToken : String) : SecretsProg (Option Key) :=
  (requestsGet (dataSvcUrl ++ "/user") accessToken).bind fun response =>
  if response.statusCode ≠ 200 then
    -- the body of the answer is logged
    (Prog.ofExcept response.json).bind fun _ => .ret none
  else
    (Prog.ofExcept (response.json >>= fun userInfo => python (getItem "id" userInfo))).bind
      fun userId =>
    (requestsGet (dataSvcUrl ++ "/user/secret_key") accessToken).bind fun response =>
    if response.statusCode ≠ 200 then
      (Prog.ofExcept response.json).bind fun _ => .ret none
    else
      Prog.ofExcept do
        let userKey ← response.json
        let secretKey ← python (getItem "secret_key" userKey >>= text)
        let salt ← python (text userId)
        pure (some (crypto.getEncryptionKey secretKey salt))

def decryptSecret (source : PosixPath) (name : String) (target : PosixPath) (key : Key) :
    SecretsProg Unit :=
  ((perform (Call.read source name)).bind Prog.ofExcept).bind fun content =>
  (Prog.ofExcept (crypto.decryptString key content)).bind fun decrypted =>
  (perform (Call.write target name decrypted)).bind Prog.ofExcept

/-- The loop over the entries of the directory. -/
def decryptEntries (source target : PosixPath) (key : Key) : List String → SecretsProg Unit
  | [] => .ret ()
  | name :: rest =>
    (perform (Call.isDir source name)).bind fun isDir =>
    if isDir = true then decryptEntries source target key rest
    else (decryptSecret crypto source name target key).bind fun _ =>
      decryptEntries source target key rest

-- the variables of the environment
variable (environ : String → Option String)

def encryptedSecretsMountPath : PosixPath :=
  PosixPath.ofString ((environ "ENCRYPTED_SECRETS_MOUNT_PATH").getD "/secrets_enc/")

def decryptedSecretsMountPath : PosixPath :=
  PosixPath.ofString ((environ "DECRYPTED_SECRETS_MOUNT_PATH").getD "/secrets/")

def decryptSecrets (dataSvcUrl userToken : String) : SecretsProg Unit :=
  (perform (Call.exists_ (encryptedSecretsMountPath environ))).bind fun encrypted =>
  if encrypted = false then .ret ()
  else
    (perform (Call.exists_ (decryptedSecretsMountPath environ))).bind fun decrypted =>
    if decrypted = false then .ret ()
    else
      (getUserKey crypto dataSvcUrl userToken).bind fun
        | none => .ret ()
        | some userKey =>
          ((perform (Call.iterdir (encryptedSecretsMountPath environ))).bind Prog.ofExcept).bind
            fun entries =>
          decryptEntries crypto (encryptedSecretsMountPath environ)
            (decryptedSecretsMountPath environ) userKey entries

def main : SecretsProg Unit :=
  match environ "RENKU_ACCESS_TOKEN" with
  | none => .ret ()
  | some userToken =>
    match environ "DATA_SERVICE_URL" with
    | none => .ret ()
    | some dataSvcUrl => decryptSecrets crypto environ dataSvcUrl userToken

end Program

/-! ### What a container sees -/

inductive Entry where
  | directory
  | file (content : String)
  deriving DecidableEq, Repr

abbrev Listing := List (String × Entry)

/-- The volumes of a pod by their names. -/
abbrev Volumes := String → Listing

structure Mount where
  mountPath : String
  volume : String
  readOnly : Bool
  deriving DecidableEq, Repr

def mountAt (mounts : List Mount) (path : PosixPath) : Option Mount :=
  mounts.find? fun mount => PosixPath.ofString mount.mountPath = path

def setFile (name content : String) (listing : Listing) : Listing :=
  listing.filter (·.1 ≠ name) ++ [(name, .file content)]

section Serve

-- the data service, by URL and token
variable (answer : String → String → Except Failure HttpResponse)
variable (mounts : List Mount)

/-- The entry of this name in the mounted volume. -/
def entryAt (path : PosixPath) (name : String) (volumes : Volumes) : Option Entry :=
  (mountAt mounts path).bind fun mount => (volumes mount.volume).lookup name

def readAt (path : PosixPath) (name : String) (volumes : Volumes) : Except Failure String :=
  match entryAt mounts path name volumes with
  | some (.file content) => .ok content
  | _ => .error .osError

def writeAt (path : PosixPath) (name content : String) (volumes : Volumes) :
    Except Failure Unit × Volumes :=
  match mountAt mounts path with
  | none => (.error .osError, volumes)
  | some mount =>
    if mount.readOnly ∨ (volumes mount.volume).lookup name = some .directory then
      (.error .osError, volumes)
    else
      (.ok (), Function.update volumes mount.volume
        (setFile name content (volumes mount.volume)))

def serve : (c : Call) → Volumes → Reply c × Volumes
  | .get url accessToken, volumes => (answer url accessToken, volumes)
  | .exists_ path, volumes => ((mountAt mounts path).isSome, volumes)
  | .iterdir path, volumes =>
    ((mountAt mounts path).elim (.error .osError) fun mount =>
      .ok ((volumes mount.volume).map Prod.fst), volumes)
  | .isDir path name, volumes =>
    (decide (entryAt mounts path name volumes = some .directory), volumes)
  | .read path name, volumes => (readAt mounts path name volumes, volumes)
  | .write path name content, volumes => writeAt mounts path name content volumes

/-- What the data service makes of the request for the user's key. -/
def userKey {Key : Type} (crypto : Cryptography Key) (dataSvcUrl accessToken : String) :
    Except Failure (Option Key) :=
  (run (serve answer []) (getUserKey crypto dataSvcUrl accessToken) fun _ => []).1

end Serve

/-! ### One entry -/

theorem lookup_filter_ne {name other : String} (hne : other ≠ name) (listing : Listing) :
    (listing.filter (·.1 ≠ name)).lookup other = listing.lookup other := by
  induction listing with
  | nil => rfl
  | cons p listing ih =>
    by_cases hp : p.1 = name
    · have hother : (other == p.1) = false := by
        rw [hp]
        exact beq_false_of_ne hne
      rw [List.filter_cons_of_neg (by simpa using hp), List.lookup_cons, hother]
      exact ih
    · rw [List.filter_cons_of_pos (by simpa using hp), List.lookup_cons, List.lookup_cons, ih]

theorem lookup_filter_self (name : String) (listing : Listing) :
    (listing.filter (·.1 ≠ name)).lookup name = none := by
  rw [List.lookup_eq_none_iff]
  intro p hp
  have hne := of_decide_eq_true (List.mem_filter.mp hp).2
  simpa using Ne.symm hne

theorem lookup_setFile_self (name content : String) (listing : Listing) :
    (setFile name content listing).lookup name = some (.file content) := by
  rw [setFile, List.lookup_append, lookup_filter_self]
  simp

theorem lookup_setFile_of_ne {name other : String} (hne : other ≠ name) (content : String)
    (listing : Listing) : (setFile name content listing).lookup other = listing.lookup other := by
  rw [setFile, List.lookup_append, lookup_filter_ne hne]
  simp [List.lookup_cons, beq_false_of_ne hne]

section Runs

variable {Key : Type} {crypto : Cryptography Key}
variable {answer : String → String → Except Failure HttpResponse} {mounts : List Mount}

/-- The plain text of an entry, if it is a file that can be decrypted. -/
def plainEntry (crypto : Cryptography Key) (key : Key) : Entry → Option Entry
  | .directory => none
  | .file content => (crypto.decryptString key content).toOption.map .file

/-- The entry does not end the program. -/
def Readable (crypto : Cryptography Key) (key : Key) (entry : Entry) : Prop :=
  entry = .directory ∨ (plainEntry crypto key entry).isSome

/-- Where the program reads, and where it writes: a volume of its own, that it may write to. -/
structure Mounted (mounts : List Mount) (source target : PosixPath) (encrypted decrypted : Mount) :
    Prop where
  source : mountAt mounts source = some encrypted
  target : mountAt mounts target = some decrypted
  apart : encrypted.volume ≠ decrypted.volume
  writable : decrypted.readOnly = false

variable {source target : PosixPath} {encrypted decrypted : Mount} {key : Key} {name : String}
variable {volumes : Volumes}

theorem run_decryptSecret (answer : String → String → Except Failure HttpResponse)
    (crypto : Cryptography Key) (key : Key) (h : Mounted mounts source target encrypted decrypted)
    {content : String}
    (hfile : (volumes encrypted.volume).lookup name = some (.file content))
    (hfree : (volumes decrypted.volume).lookup name ≠ some .directory) :
    run (serve answer mounts) (decryptSecret crypto source name target key) volumes =
      match crypto.decryptString key content with
      | .error e => (.error e, volumes)
      | .ok plain => (.ok (), Function.update volumes decrypted.volume
          (setFile name plain (volumes decrypted.volume))) := by
  have hread : readAt mounts source name volumes = .ok content := by
    simp only [readAt, entryAt, h.source, Option.bind_some, hfile]
  have hwrite : ∀ plain, writeAt mounts target name plain volumes =
      (.ok (), Function.update volumes decrypted.volume
        (setFile name plain (volumes decrypted.volume))) := by
    intro plain
    have hallowed : ¬ (decrypted.readOnly ∨
        (volumes decrypted.volume).lookup name = some .directory) := by
      rintro (hreadOnly | hdirectory)
      · rw [h.writable] at hreadOnly
        cases hreadOnly
      · exact hfree hdirectory
    simp only [writeAt, h.target, if_neg hallowed]
  unfold decryptSecret
  simp only [run_bind, run_perform, run_ofExcept, serve, hread]
  cases crypto.decryptString key content with
  | error e => rfl
  | ok plain => simp only [hwrite]

/-! ### All entries -/

/-- What a run of the loop leaves in the volume it writes to. -/
structure Decrypted (crypto : Cryptography Key) (key : Key) (names : List String)
    (before : Listing) (encrypted : Listing) (outcome : Except Failure Unit × Listing) : Prop where
  -- nothing but plain texts is written, under the names of their entries
  plain : ∀ name, outcome.2.lookup name = before.lookup name ∨
    name ∈ names ∧ ∃ entry plain, encrypted.lookup name = some entry ∧
      plainEntry crypto key entry = some plain ∧ outcome.2.lookup name = some plain
  complete : outcome.1 = .ok () → ∀ name ∈ names, ∀ entry plain,
    encrypted.lookup name = some entry → plainEntry crypto key entry = some plain →
      outcome.2.lookup name = some plain
  succeeds : outcome.1 = .ok () ↔ ∀ name ∈ names, ∀ entry, encrypted.lookup name = some entry →
    Readable crypto key entry

section Cons

variable {names : List String} {before listing : Listing}
variable {outcome : Except Failure Unit × Listing}

theorem Decrypted.nil (h : outcome.2 = before) (hok : outcome.1 = .ok ()) :
    Decrypted crypto key [] before listing outcome where
  plain name := .inl (by rw [h])
  complete _ name hname := (List.not_mem_nil hname).elim
  succeeds := ⟨fun _ name hname => (List.not_mem_nil hname).elim, fun _ => hok⟩

theorem Decrypted.directory (h : Decrypted crypto key names before listing outcome)
    (hentry : listing.lookup name = some .directory) :
    Decrypted crypto key (name :: names) before listing outcome where
  plain other := (h.plain other).imp_right fun ⟨hmem, hplain⟩ =>
    ⟨List.mem_cons_of_mem _ hmem, hplain⟩
  complete hok other hother entry plain hlookup hplain := by
    rcases List.mem_cons.mp hother with rfl | hother
    · rw [hentry] at hlookup
      cases hlookup
      cases hplain
    · exact h.complete hok other hother entry plain hlookup hplain
  succeeds := by
    rw [h.succeeds, List.forall_mem_cons]
    refine (and_iff_right ?_).symm
    intro entry hlookup
    rw [hentry] at hlookup
    cases hlookup
    exact .inl rfl

theorem Decrypted.fails {content : String} {e e' : Failure}
    (hentry : listing.lookup name = some (.file content))
    (hdecrypt : crypto.decryptString key content = .error e) :
    Decrypted crypto key (name :: names) before listing (.error e', before) where
  plain _ := .inl rfl
  complete hok := by cases hok
  succeeds := by
    constructor
    · intro hok
      cases hok
    · intro hall
      rcases hall name List.mem_cons_self _ hentry with hdirectory | hplain
      · cases hdirectory
      · rw [plainEntry, hdecrypt] at hplain
        cases hplain

theorem Decrypted.file {content plain : String}
    (h : Decrypted crypto key names (setFile name plain before) listing outcome)
    (hentry : listing.lookup name = some (.file content))
    (hdecrypt : crypto.decryptString key content = .ok plain) :
    Decrypted crypto key (name :: names) before listing outcome := by
  have hplain : plainEntry crypto key (.file content) = some (.file plain) := by
    rw [plainEntry, hdecrypt]
    rfl
  have hwritten : outcome.2.lookup name = some (.file plain) := by
    rcases h.plain name with hkept | ⟨-, entry, plain', hlookup, hplain', hfound⟩
    · rw [hkept, lookup_setFile_self]
    · rw [hentry] at hlookup
      cases hlookup
      rw [hplain] at hplain'
      cases hplain'
      exact hfound
  refine ⟨?_, ?_, ?_⟩
  · intro other
    by_cases hother : other = name
    · subst hother
      exact .inr ⟨List.mem_cons_self, _, _, hentry, hplain, hwritten⟩
    · rcases h.plain other with hkept | ⟨hmem, hfound⟩
      · left
        rw [hkept, lookup_setFile_of_ne hother]
      · exact .inr ⟨List.mem_cons_of_mem _ hmem, hfound⟩
  · intro hok other hother entry plain' hlookup hplain'
    rcases List.mem_cons.mp hother with rfl | hother
    · rw [hentry] at hlookup
      cases hlookup
      rw [hplain] at hplain'
      cases hplain'
      exact hwritten
    · exact h.complete hok other hother entry plain' hlookup hplain'
  · rw [h.succeeds, List.forall_mem_cons]
    refine (and_iff_right ?_).symm
    intro entry hlookup
    rw [hentry] at hlookup
    cases hlookup
    right
    rw [hplain]
    rfl

end Cons

theorem exists_entry {listing : Listing} (h : name ∈ listing.map Prod.fst) :
    ∃ entry, listing.lookup name = some entry := by
  rw [← Option.ne_none_iff_exists']
  intro hnone
  obtain ⟨p, hp, rfl⟩ := List.mem_map.mp h
  have hne := List.lookup_eq_none_iff.mp hnone p hp
  simp at hne

theorem run_decryptEntries (answer : String → String → Except Failure HttpResponse)
    (crypto : Cryptography Key) (key : Key) (h : Mounted mounts source target encrypted decrypted)
    (names : List String) (hnames : ∀ name ∈ names, name ∈ (volumes encrypted.volume).map Prod.fst)
    (hfree : ∀ name, (volumes decrypted.volume).lookup name ≠ some .directory) :
    let outcome := run (serve answer mounts) (decryptEntries crypto source target key names) volumes
    (∀ volume, volume ≠ decrypted.volume → outcome.2 volume = volumes volume) ∧
      Decrypted crypto key names (volumes decrypted.volume) (volumes encrypted.volume)
        (outcome.1, outcome.2 decrypted.volume) := by
  induction names generalizing volumes with
  | nil => exact ⟨fun _ _ => rfl, .nil rfl rfl⟩
  | cons name names ih =>
    obtain ⟨entry, hentry⟩ := exists_entry (hnames name List.mem_cons_self)
    have hrest : ∀ other ∈ names, other ∈ (volumes encrypted.volume).map Prod.fst :=
      fun other hother => hnames other (List.mem_cons_of_mem _ hother)
    have hat : entryAt mounts source name volumes = some entry := by
      simp only [entryAt, h.source, Option.bind_some, hentry]
    unfold decryptEntries
    simp only [run_bind, run_perform, serve, hat]
    cases entry with
    | directory =>
      obtain ⟨hothers, hdecrypted⟩ := ih hrest hfree
      exact ⟨hothers, hdecrypted.directory hentry⟩
    | file content =>
      have hstep := run_decryptSecret answer crypto key h hentry (hfree name)
      simp only [Option.some.injEq, reduceCtorEq, decide_false, Bool.false_eq_true, if_false,
        run_bind, hstep]
      cases hdecrypt : crypto.decryptString key content with
      | error e => exact ⟨fun _ _ => rfl, .fails hentry hdecrypt⟩
      | ok plain =>
        have hsource : Function.update volumes decrypted.volume
            (setFile name plain (volumes decrypted.volume)) encrypted.volume =
              volumes encrypted.volume := Function.update_of_ne h.apart _ _
        have htarget : Function.update volumes decrypted.volume
            (setFile name plain (volumes decrypted.volume)) decrypted.volume =
              setFile name plain (volumes decrypted.volume) := Function.update_self _ _ _
        have hstill : ∀ other, (setFile name plain (volumes decrypted.volume)).lookup other ≠
            some .directory := by
          intro other
          by_cases hother : other = name
          · rw [hother, lookup_setFile_self]
            simp
          · rw [lookup_setFile_of_ne hother]
            exact hfree other
        have hrest' := hsource.symm ▸ hrest
        obtain ⟨hothers, hdecrypted⟩ := ih hrest' (htarget.symm ▸ hstill)
        rw [hsource, htarget] at hdecrypted
        refine ⟨?_, hdecrypted.file hentry hdecrypt⟩
        intro volume hvolume
        rw [hothers volume hvolume, Function.update_of_ne hvolume]

/-! ### The key -/

def IsGet (c : Call) : Prop := ∃ url accessToken, c = .get url accessToken

/-- A program that only sends requests does not depend on the volumes. -/
theorem run_of_gets {α : Type} {p : SecretsProg α} (hp : p.Calls IsGet) (volumes start : Volumes) :
    run (serve answer mounts) p volumes = ((run (serve answer []) p start).1, volumes) := by
  induction p with
  | ret a => rfl
  | raise e => rfl
  | call c k ih =>
    obtain ⟨⟨url, accessToken, rfl⟩, hk⟩ := hp
    simp only [run_call, serve]
    exact ih _ (hk _)

theorem calls_requestsGet (url accessToken : String) :
    (requestsGet url accessToken).Calls IsGet :=
  Calls.bind ((calls_perform _).mpr ⟨url, accessToken, rfl⟩) fun _ => calls_ofExcept _

theorem calls_getUserKey (dataSvcUrl accessToken : String) :
    (getUserKey crypto dataSvcUrl accessToken).Calls IsGet := by
  unfold getUserKey
  apply Calls.bind (calls_requestsGet _ _)
  intro response
  split
  · exact Calls.bind (calls_ofExcept _) fun _ => calls_ret _
  · apply Calls.bind (calls_ofExcept _)
    intro userId
    apply Calls.bind (calls_requestsGet _ _)
    intro response
    split
    · exact Calls.bind (calls_ofExcept _) fun _ => calls_ret _
    · exact calls_ofExcept _

theorem run_getUserKey (answer : String → String → Except Failure HttpResponse)
    (mounts : List Mount) (crypto : Cryptography Key) (volumes : Volumes)
    (dataSvcUrl accessToken : String) :
    run (serve answer mounts) (getUserKey crypto dataSvcUrl accessToken) volumes =
      (userKey answer crypto dataSvcUrl accessToken, volumes) :=
  run_of_gets (calls_getUserKey _ _) volumes _

/-! ### The whole program -/

/-- What the program makes of the secrets that it finds, in a volume that was empty. -/
structure Delivered (crypto : Cryptography Key) (key : Except Failure (Option Key))
    (secrets : Listing) (outcome : Except Failure Unit × Listing) : Prop where
  plain : ∀ name entry, outcome.2.lookup name = some entry → ∃ k secret, key = .ok (some k) ∧
    secrets.lookup name = some secret ∧ plainEntry crypto k secret = some entry
  complete : outcome.1 = .ok () → ∀ k, key = .ok (some k) → ∀ name,
    outcome.2.lookup name = (secrets.lookup name).bind (plainEntry crypto k)
  succeeds : outcome.1 = .ok () ↔ key = .ok none ∨ ∃ k, key = .ok (some k) ∧
    ∀ name secret, secrets.lookup name = some secret → Readable crypto k secret

theorem mem_names_of_lookup {listing : Listing} {entry : Entry}
    (h : listing.lookup name = some entry) : name ∈ listing.map Prod.fst := by
  by_contra hname
  have hnone : listing.lookup name = none := by
    rw [List.lookup_eq_none_iff]
    intro p hp
    rw [bne_iff_ne]
    rintro rfl
    exact hname (List.mem_map_of_mem hp)
  rw [hnone] at h
  cases h

theorem Decrypted.delivered {secrets : Listing} {outcome : Except Failure Unit × Listing}
    (h : Decrypted crypto key (secrets.map Prod.fst) [] secrets outcome) :
    Delivered crypto (.ok (some key)) secrets outcome where
  plain name entry hfound := by
    rcases h.plain name with hkept | ⟨-, secret, plain, hlookup, hplain, hwritten⟩
    · rw [hkept] at hfound
      cases hfound
    · rw [hwritten] at hfound
      cases hfound
      exact ⟨key, secret, rfl, hlookup, hplain⟩
  complete hok k hk name := by
    cases hk
    cases hsecret : (secrets.lookup name).bind (plainEntry crypto key) with
    | some plain =>
      obtain ⟨secret, hlookup, hplain⟩ := Option.bind_eq_some_iff.mp hsecret
      exact h.complete hok name (mem_names_of_lookup hlookup) secret plain hlookup hplain
    | none =>
      rcases h.plain name with hkept | ⟨-, secret, plain, hlookup, hplain, -⟩
      · exact hkept
      · rw [hlookup, Option.bind_some, hplain] at hsecret
        cases hsecret
  succeeds := by
    rw [h.succeeds]
    constructor
    · intro hall
      exact .inr ⟨key, rfl, fun name secret hlookup =>
        hall name (mem_names_of_lookup hlookup) secret hlookup⟩
    · rintro (hnone | ⟨k, hk, hall⟩)
      · cases hnone
      · cases hk
        exact fun name _ secret hlookup => hall name secret hlookup

/-- Nothing is read where there is no key. -/
theorem Delivered.unread {found : Except Failure (Option Key)} {secrets : Listing}
    {outcome : Except Failure Unit} (hfound : ∀ k, found ≠ .ok (some k))
    (hok : outcome = .ok () ↔ found = .ok none) :
    Delivered crypto found secrets (outcome, []) where
  plain _ _ h := by cases h
  complete _ k hk := (hfound k hk).elim
  succeeds := by
    rw [hok]
    constructor
    · exact .inl
    · rintro (hnone | ⟨k, hk, -⟩)
      · exact hnone
      · exact (hfound k hk).elim

theorem run_main (environ : String → Option String) {userToken dataSvcUrl : String}
    (htoken : environ "RENKU_ACCESS_TOKEN" = some userToken)
    (hurl : environ "DATA_SERVICE_URL" = some dataSvcUrl)
    (h : Mounted mounts (encryptedSecretsMountPath environ) (decryptedSecretsMountPath environ)
      encrypted decrypted)
    (hempty : volumes decrypted.volume = []) :
    let outcome := run (serve answer mounts) (main crypto environ) volumes
    (∀ volume, volume ≠ decrypted.volume → outcome.2 volume = volumes volume) ∧
      Delivered crypto (userKey answer crypto dataSvcUrl userToken) (volumes encrypted.volume)
        (outcome.1, outcome.2 decrypted.volume) := by
  have hkey := run_getUserKey answer mounts crypto volumes dataSvcUrl userToken
  simp only [main, htoken, hurl, decryptSecrets, run_bind, run_perform, serve, h.source,
    h.target, Option.isSome_some, reduceCtorEq, if_false, hkey]
  cases userKey answer crypto dataSvcUrl userToken with
  | error e =>
    refine ⟨fun _ _ => rfl, ?_⟩
    simp only [hempty]
    exact .unread (by simp) (by simp)
  | ok found =>
    cases found with
    | none =>
      refine ⟨fun _ _ => rfl, ?_⟩
      simp only [run_ret, hempty]
      exact .unread (by simp) (by simp)
    | some key =>
      have hentries := run_decryptEntries answer crypto key h
        ((volumes encrypted.volume).map Prod.fst) (fun _ hname => hname)
        (by simp [hempty])
      rw [hempty] at hentries
      simp only [run_bind, run_perform, run_ofExcept, serve, h.source, Option.elim_some]
      exact ⟨hentries.1, hentries.2.delivered⟩

end Runs

end RenkuNotebooks.SecretsMount
