import Mathlib.Data.List.Chain
import RenkuNotebooks.Notebooks.ServerData
import RenkuNotebooks.Notebooks.ServiceNames

/-!
# Safe usernames

The safe username of a user is the escaped username in lower case. It does not tell upper from lower
case, and as a byte below 16 is written with one digit, such a byte and a digit after it are read as
one byte.
-/

namespace RenkuNotebooks.Notebooks.SafeUsernames

/-! ### Authenticated users -/

/-- What parses the tokens in the headers, and the GitLab user of a token. -/
structure TokenLibrary where
  parseJwt : String → Except PyError Json
  gitCredsFromHeaders : String → Except PyError (Option String × Int)
  gitlabUser : Option String → GitlabUser

/-- `parsed_id_token[key]` -/
def claim (key : String) (token : Json) : Except PyError String :=
  match token.get? key with
  | some (.str s) => .ok s
  | some _ => .error .typeError
  | none => .error (.keyError key)

/-- `RegisteredUser(headers)`, no user if it is not authenticated. -/
def registeredUser (library : TokenLibrary) (headers : String → Option String) :
    Except PyError (Option User) :=
  match headers "Renku-Auth-Access-Token", headers "Renku-Auth-Id-Token" with
  | some accessToken, some idToken =>
    match (headers "Renku-Auth-Git-Credentials").filter (· ≠ "") with
    | none => .error (.generic (authenticationError ("Your Gitlab credentials are invalid or expired, "
        ++ "please login Renku, or fully log out and log back in.")))
    | some credentials => do
      let token ← library.parseJwt idToken
      let email ← claim "email" token
      let fullName ← claim "name" token
      let username ← claim "preferred_username" token
      let oidcIssuer ← claim "iss" token
      let id ← claim "sub" token
      let refreshToken ← (headers "Renku-Auth-Refresh-Token").elim
        (.error (.keyError "Renku-Auth-Refresh-Token")) .ok
      let (gitToken, gitTokenExpiresAt) ← library.gitCredsFromHeaders credentials
      pure (some (.registered
        { email, fullName, username, safeUsername := safeUsernameOf username, oidcIssuer, id
          accessToken, refreshToken, gitToken, gitTokenExpiresAt
          gitlabUser := library.gitlabUser gitToken }))
  | _, _ => .ok none

/-- `AnonymousUser(headers)` where anonymous sessions are enabled. -/
def anonymousUser (headers : String → Option String) : Option User :=
  match headers "Renku-Auth-Anon-Id" with
  | some id =>
    if id.toList.head?.any Char.isAlphanum then
      some (.anonymous { username := id, safeUsername := safeUsernameOf id, id })
    else none
  | none => none

/-- `authenticated` -/
def authenticated (library : TokenLibrary) (anonymousSessionsEnabled : Bool)
    (headers : String → Option String) : Except PyError User := do
  let registered ← registeredUser library headers
  let user := if registered.isNone ∧ anonymousSessionsEnabled then anonymousUser headers
    else registered
  user.elim (.error (.generic { authenticationError
      "Accessing the requested resource requires authentication, please log in." with
    detail := some ("The required authentication headers " ++
      "['Renku-Auth-Access-Token', 'Renku-Auth-Id-Token'] are missing. " ++
      "If anonymous user sessions are supported then the header " ++
      "Renku-Auth-Anon-Id can also be used.") })) .ok

theorem safeUsername_of_registered {library : TokenLibrary} {headers : String → Option String}
    {user : User} (h : registeredUser library headers = .ok (some user)) :
    user.safeUsername = safeUsernameOf user.username := by
  unfold registeredUser at h
  split at h
  · split at h
    · cases h
    · obtain ⟨token, -, h⟩ := Results.bind_eq_ok_iff.mp h
      obtain ⟨email, -, h⟩ := Results.bind_eq_ok_iff.mp h
      obtain ⟨fullName, -, h⟩ := Results.bind_eq_ok_iff.mp h
      obtain ⟨username, -, h⟩ := Results.bind_eq_ok_iff.mp h
      obtain ⟨oidcIssuer, -, h⟩ := Results.bind_eq_ok_iff.mp h
      obtain ⟨id, -, h⟩ := Results.bind_eq_ok_iff.mp h
      obtain ⟨refreshToken, -, h⟩ := Results.bind_eq_ok_iff.mp h
      obtain ⟨credentials, -, h⟩ := Results.bind_eq_ok_iff.mp h
      cases h
      rfl
  · cases h

theorem safeUsername_of_anonymous {headers : String → Option String} {user : User}
    (h : anonymousUser headers = some user) : user.safeUsername = safeUsernameOf user.username := by
  unfold anonymousUser at h
  split at h
  · split at h
    · cases h
      rfl
    · cases h
  · cases h

theorem safeUsername_eq {library : TokenLibrary} {enabled : Bool} {headers : String → Option String}
    {user : User} (h : authenticated library enabled headers = .ok user) :
    user.safeUsername = safeUsernameOf user.username := by
  obtain ⟨registered, hregistered, h⟩ := Results.bind_eq_ok_iff.mp h
  dsimp only at h
  split at h
  · cases hanonymous : anonymousUser headers with
    | none =>
      rw [hanonymous] at h
      cases h
    | some user' =>
      rw [hanonymous] at h
      cases h
      exact safeUsername_of_anonymous hanonymous
  · cases registered with
    | none => cases h
    | some user' =>
      cases h
      exact safeUsername_of_registered hregistered

/-! ### Readings -/

/-- What an escaped text in lower case is made of: letters and digits, and bytes. -/
inductive Atom where
  | plain (c : Char)
  | byte (n : ℕ)
  deriving DecidableEq

/-- `0` to `9` and `a` to `f`. -/
def hexChar (n : ℕ) : Char := (ServerNames.upperHexDigit n).toLower

def hexValue (c : Char) : Option ℕ := (List.range 16).find? fun n => hexChar n = c

def hexText (n : ℕ) : List Char :=
  if n < 16 then [hexChar n] else [hexChar (n / 16), hexChar (n % 16)]

def Atom.text : Atom → List Char
  | .plain c => [c]
  | .byte n => '-' :: hexText n

def atoms (username : String) : List Atom :=
  username.toList.flatMap fun c =>
    if c.isAlphanum then [.plain c.toLower]
    else (String.ofList [c]).toUTF8.toList.map fun byte => .byte byte.toNat

/-- A byte of one digit and a digit after it are a byte of two digits; a zero is no first digit. -/
def combined (n : ℕ) (c : Char) : Option ℕ :=
  if 0 < n ∧ n < 16 then (hexValue c).map (16 * n + ·) else none

def merge : List Atom → List Atom
  | [] => []
  | .byte n :: .plain c :: rest =>
    match combined n c with
    | some m => .byte m :: merge rest
    | none => .byte n :: .plain c :: merge rest
  | a :: rest => a :: merge rest

/-- The username as its safe form shows it. -/
def reading (username : String) : List Atom := merge (atoms username)

/-! ### Digits -/

theorem hexValue_hexChar : ∀ n < 16, hexValue (hexChar n) = some n := by decide

theorem hexChar_ne_dash : ∀ n < 16, hexChar n ≠ '-' := by decide

theorem hexChar_of_hexValue {c : Char} {n : ℕ} (h : hexValue c = some n) :
    n < 16 ∧ hexChar n = c := by
  have hmem := List.mem_range.mp (List.mem_of_find?_eq_some h)
  have hchar := List.find?_some (p := fun n => decide (hexChar n = c)) h
  exact ⟨hmem, of_decide_eq_true hchar⟩

theorem hexChar_injective {m n : ℕ} (hm : m < 16) (hn : n < 16) (h : hexChar m = hexChar n) :
    m = n := by
  have hvalue := hexValue_hexChar m hm
  rw [h, hexValue_hexChar n hn] at hvalue
  exact (Option.some.inj hvalue).symm

theorem hexText_small {n : ℕ} (h : n < 16) : hexText n = [hexChar n] := if_pos h

theorem hexText_large {n : ℕ} (h : ¬ n < 16) : hexText n = [hexChar (n / 16), hexChar (n % 16)] :=
  if_neg h

theorem hexText_combined {n m : ℕ} {c : Char} (h : combined n c = some m) :
    hexText m = hexText n ++ [c] ∧ 16 ≤ m ∧ m < 256 := by
  unfold combined at h
  split at h
  next hn =>
    obtain ⟨v, hv, rfl⟩ := Option.map_eq_some_iff.mp h
    obtain ⟨hlt, rfl⟩ := hexChar_of_hexValue hv
    have hlarge : ¬ 16 * n + v < 16 := by omega
    have hdiv : (16 * n + v) / 16 = n := by omega
    have hmod : (16 * n + v) % 16 = v := by omega
    rw [hexText_large hlarge, hexText_small hn.2, hdiv, hmod]
    exact ⟨rfl, by omega, by omega⟩
  next => cases h

/-! ### Texts of readings -/

def text (as : List Atom) : List Char := as.flatMap Atom.text

theorem text_merge (as : List Atom) : text (merge as) = text as := by
  induction as using merge.induct with
  | case1 => rfl
  | case2 n c rest m hm ih =>
    rw [merge, hm]
    have hhex := (hexText_combined hm).1
    simp only [text, List.flatMap_cons, Atom.text] at ih ⊢
    rw [ih, hhex]
    simp
  | case3 n c rest hnone ih =>
    rw [merge, hnone]
    simp only [text, List.flatMap_cons] at ih ⊢
    rw [ih]
  | case4 a rest hother ih =>
    rw [merge]
    · simp only [text, List.flatMap_cons] at ih ⊢
      rw [ih]
    · exact hother

/-- A letter or digit in lower case, or a byte. -/
def Atom.Valid : Atom → Prop
  | .plain c => c ≠ '-'
  | .byte n => n < 256

/-- These two atoms would be read as one byte. -/
def Combine : Atom → Atom → Prop
  | .byte n, .plain c => (combined n c).isSome
  | _, _ => False

structure Canonical (as : List Atom) : Prop where
  valid : ∀ a ∈ as, a.Valid
  apart : as.IsChain fun a b => ¬ Combine a b

theorem valid_merge {as : List Atom} (h : ∀ a ∈ as, a.Valid) : ∀ a ∈ merge as, a.Valid := by
  induction as using merge.induct with
  | case1 => exact h
  | case2 n c rest m hm ih =>
    rw [merge, hm]
    have hrest : ∀ a ∈ rest, a.Valid := fun a ha =>
      h a (List.mem_cons_of_mem _ (List.mem_cons_of_mem _ ha))
    exact List.forall_mem_cons.mpr ⟨(hexText_combined hm).2.2, ih hrest⟩
  | case3 n c rest hnone ih =>
    rw [merge, hnone]
    obtain ⟨hn, hc, hrest⟩ := List.forall_mem_cons.mp h |>.imp_right List.forall_mem_cons.mp
    exact List.forall_mem_cons.mpr ⟨hn, List.forall_mem_cons.mpr ⟨hc, ih hrest⟩⟩
  | case4 a rest hother ih =>
    rw [merge]
    · obtain ⟨ha, hrest⟩ := List.forall_mem_cons.mp h
      exact List.forall_mem_cons.mpr ⟨ha, ih hrest⟩
    · exact hother

/-- Merging never puts a letter or digit where there was none. -/
theorem head_merge_byte {n : ℕ} {rest : List Atom} {a : Atom}
    (h : (merge (.byte n :: rest)).head? = some a) : ∃ m, a = .byte m := by
  cases rest with
  | nil => exact ⟨n, (Option.some.inj h).symm⟩
  | cons b rest =>
    cases b with
    | byte m => exact ⟨n, (Option.some.inj h).symm⟩
    | plain c =>
      rw [merge] at h
      split at h
      next m _ => exact ⟨m, (Option.some.inj h).symm⟩
      next => exact ⟨n, (Option.some.inj h).symm⟩

theorem not_combine_large {n : ℕ} (h : 16 ≤ n) (b : Atom) : ¬ Combine (.byte n) b := by
  intro hcombine
  cases b with
  | byte m => exact hcombine
  | plain c =>
    have hnone : combined n c = none := if_neg fun hn => by omega
    rw [Combine, hnone] at hcombine
    cases hcombine

theorem apart_merge (as : List Atom) : (merge as).IsChain fun a b => ¬ Combine a b := by
  induction as using merge.induct with
  | case1 => exact List.IsChain.nil
  | case2 n c rest m hm ih =>
    rw [merge, hm]
    exact List.isChain_cons.mpr ⟨fun b _ => not_combine_large (hexText_combined hm).2.1 b, ih⟩
  | case3 n c rest hnone ih =>
    rw [merge, hnone]
    have hapart : ¬ Combine (.byte n) (.plain c) := by
      rw [Combine, hnone]
      exact Bool.false_ne_true
    refine List.isChain_cons.mpr ⟨?_, List.isChain_cons.mpr ⟨fun b _ hcombine => hcombine, ih⟩⟩
    intro b hb
    obtain rfl := Option.some.inj hb
    exact hapart
  | case4 a rest hother ih =>
    rw [merge]
    · refine List.isChain_cons.mpr ⟨?_, ih⟩
      intro b hb
      cases a with
      | plain c => exact fun hcombine => hcombine
      | byte n =>
        cases rest with
        | nil => cases hb
        | cons first rest =>
          cases first with
          | plain c => exact absurd rfl (hother n c rest rfl)
          | byte m =>
            obtain ⟨k, rfl⟩ := head_merge_byte hb
            exact fun hcombine => hcombine
    · exact hother

/-! ### Readings with one text -/

theorem Atom.text_ne_nil (a : Atom) : a.text ≠ [] := by
  cases a <;> exact List.cons_ne_nil _ _

theorem text_cons (a : Atom) (as : List Atom) : text (a :: as) = a.text ++ text as :=
  List.flatMap_cons

theorem Canonical.tail {a : Atom} {as : List Atom} (h : Canonical (a :: as)) : Canonical as :=
  ⟨fun b hb => h.valid b (List.mem_cons_of_mem _ hb), (List.isChain_cons.mp h.apart).2⟩

/-- After a byte of one digit there is no digit. -/
theorem not_digit_after {n k : ℕ} {as : List Atom} {rest : List Char}
    (h : Canonical (.byte n :: as)) (hn : 0 < n ∧ n < 16) (hk : k < 16) :
    text as ≠ hexChar k :: rest := by
  intro htext
  cases as with
  | nil => cases htext
  | cons a as =>
    rw [text_cons] at htext
    cases a with
    | byte m =>
      have hdash : '-' = hexChar k := (List.cons.inj htext).1
      exact hexChar_ne_dash k hk hdash.symm
    | plain c =>
      obtain rfl : c = hexChar k := (List.cons.inj htext).1
      have happart := (List.isChain_cons.mp h.apart).1 _ rfl
      apply happart
      rw [Combine, combined, if_pos hn, hexValue_hexChar k hk]
      rfl

theorem byte_eq_of_text {n m : ℕ} {as bs : List Atom} (ha : Canonical (.byte n :: as))
    (hb : Canonical (.byte m :: bs)) (h : hexText n ++ text as = hexText m ++ text bs) :
    n = m ∧ text as = text bs := by
  have hn : n < 256 := ha.valid _ List.mem_cons_self
  have hm : m < 256 := hb.valid _ List.mem_cons_self
  by_cases hns : n < 16
  · rw [hexText_small hns] at h
    by_cases hms : m < 16
    · rw [hexText_small hms] at h
      obtain ⟨hchar, hrest⟩ := List.cons.inj h
      exact ⟨hexChar_injective hns hms hchar, hrest⟩
    · exfalso
      rw [hexText_large hms] at h
      obtain ⟨hchar, hrest⟩ := List.cons.inj h
      have hdiv := hexChar_injective hns (by omega) hchar
      exact not_digit_after ha (by omega) (by omega) hrest
  · rw [hexText_large hns] at h
    by_cases hms : m < 16
    · exfalso
      rw [hexText_small hms] at h
      obtain ⟨hchar, hrest⟩ := List.cons.inj h
      have hdiv := hexChar_injective (by omega) hms hchar
      exact not_digit_after hb (by omega) (by omega) hrest.symm
    · rw [hexText_large hms] at h
      obtain ⟨hhigh, hrest⟩ := List.cons.inj h
      obtain ⟨hlow, hrest⟩ := List.cons.inj hrest
      have hdiv := hexChar_injective (by omega) (by omega) hhigh
      have hmod := hexChar_injective (by omega) (by omega) hlow
      exact ⟨by omega, hrest⟩

theorem text_injective {as bs : List Atom} (ha : Canonical as) (hb : Canonical bs)
    (h : text as = text bs) : as = bs := by
  induction as generalizing bs with
  | nil =>
    cases bs with
    | nil => rfl
    | cons b bs => exact absurd (List.append_eq_nil_iff.mp (text_cons b bs ▸ h.symm)).1 b.text_ne_nil
  | cons a as ih =>
    cases bs with
    | nil => exact absurd (List.append_eq_nil_iff.mp (text_cons a as ▸ h)).1 a.text_ne_nil
    | cons b bs =>
      rw [text_cons, text_cons] at h
      cases a with
      | plain c =>
        cases b with
        | plain d =>
          obtain ⟨hchar, hrest⟩ := List.cons.inj h
          rw [hchar, ih ha.tail hb.tail hrest]
        | byte m => exact absurd (List.cons.inj h).1 (ha.valid _ List.mem_cons_self)
      | byte n =>
        cases b with
        | plain d => exact absurd (List.cons.inj h).1.symm (hb.valid _ List.mem_cons_self)
        | byte m =>
          obtain ⟨rfl, hrest⟩ := byte_eq_of_text ha hb (List.cons.inj h).2
          rw [ih ha.tail hb.tail hrest]

/-! ### Usernames -/

theorem lower_upperHex (byte : UInt8) :
    (ServerNames.upperHex byte).map Char.toLower = hexText byte.toNat := by
  unfold ServerNames.upperHex hexText
  split <;> rfl

theorem safeUsernameOf_eq (username : String) :
    (safeUsernameOf username).toList = text (atoms username) := by
  rw [safeUsernameOf, PyText.toList_lower, ServerNames.escapeDash, String.toList_ofList, text, atoms,
    List.map_flatMap, List.flatMap_assoc]
  congr 1
  funext c
  split
  · rfl
  · rw [List.map_flatMap, List.flatMap_map]
    congr 1
    funext byte
    rw [List.map_cons, lower_upperHex]
    rfl

theorem canonical_reading (username : String) : Canonical (reading username) := by
  refine ⟨valid_merge ?_, apart_merge _⟩
  intro a ha
  obtain ⟨c, -, hc⟩ := List.mem_flatMap.mp ha
  split at hc
  next halphanum =>
    obtain rfl := List.mem_singleton.mp hc
    have hend := ServerNames.isNameEnd_toLower halphanum
    intro hdash
    rw [hdash] at hend
    cases hend
  next =>
    obtain ⟨byte, -, rfl⟩ := List.mem_map.mp hc
    exact byte.toNat_lt

/-- Two usernames have one safe form exactly if they have one reading. -/
theorem safeUsernameOf_eq_iff (username username' : String) :
    safeUsernameOf username = safeUsernameOf username' ↔ reading username = reading username' := by
  constructor
  · intro h
    apply text_injective (canonical_reading username) (canonical_reading username')
    rw [reading, reading, text_merge, text_merge, ← safeUsernameOf_eq, ← safeUsernameOf_eq, h]
  · intro h
    apply String.toList_injective
    rw [safeUsernameOf_eq, safeUsernameOf_eq, ← text_merge (atoms username),
      ← text_merge (atoms username')]
    exact congrArg text h

/-! ### Usernames that are told apart -/

/-- No upper-case letter, and no character from U+0001 to U+000F. -/
def Unambiguous (username : String) : Prop :=
  ∀ c ∈ username.toList, c.isUpper = false ∧ ¬ (0 < c.toNat ∧ c.toNat < 16)

theorem toList_eq_data (bytes : ByteArray) : bytes.toList = bytes.data.toList := by
  have hloop : ∀ k i r, bytes.size - i = k →
      ByteArray.toList.loop bytes i r = r.reverse ++ bytes.data.toList.drop i := by
    intro k
    induction k with
    | zero =>
      intro i r hk
      have hsize : bytes.data.toList.length = bytes.size := rfl
      rw [ByteArray.toList.loop, if_neg (by omega), List.drop_eq_nil_of_le (by omega),
        List.append_nil]
    | succ k ih =>
      intro i r hk
      have hlt : i < bytes.data.toList.length := by
        have hsize : bytes.data.toList.length = bytes.size := rfl
        omega
      have hget : bytes.get! i = bytes.data.toList[i] := getElem!_pos bytes.data i hlt
      rw [ByteArray.toList.loop, if_pos (by omega), ih (i + 1) _ (by omega), hget,
        List.drop_eq_getElem_cons hlt, List.reverse_cons, List.append_assoc, List.singleton_append]
  exact hloop _ 0 [] rfl

theorem toUTF8_singleton (c : Char) :
    (String.ofList [c]).toUTF8.toList = String.utf8EncodeChar c := by
  rw [toList_eq_data, String.toUTF8_eq_toByteArray, String.toByteArray_ofList,
    List.utf8Encode_singleton, List.toList_data_toByteArray]

theorem le_toNat_or (x y : UInt8) : y.toNat ≤ (x ||| y).toNat := by
  rw [UInt8.toNat_or]
  exact Nat.right_le_or

/-- The bytes of a character beyond ASCII are large. -/
theorem le_of_mem_utf8EncodeChar {c : Char} {byte : UInt8} (h : byte ∈ String.utf8EncodeChar c) :
    String.utf8EncodeChar c = [c.val.toUInt8] ∧ c.toNat < 128 ∨ 128 ≤ byte.toNat := by
  have hcont : ∀ x : UInt8, 128 ≤ (x ||| 0x80).toNat := fun x => le_toNat_or x 0x80
  have hstart : ∀ x y : UInt8, 128 ≤ y.toNat → 128 ≤ (x ||| y).toNat := fun x y hy =>
    le_trans hy (le_toNat_or x y)
  obtain hsize | hsize | hsize | hsize := c.utf8Size_eq
  · exact .inl ⟨String.utf8EncodeChar_eq_singleton hsize, by
      have hle := Char.utf8Size_eq_one_iff.mp hsize
      have hnat : c.val.toNat ≤ (127 : UInt32).toNat := hle
      exact Nat.lt_succ_of_le hnat⟩
  · rw [String.utf8EncodeChar_eq_cons_cons hsize] at h
    rcases List.mem_pair.mp h with rfl | rfl
    · exact .inr (hstart _ _ (by decide))
    · exact .inr (hcont _)
  · rw [String.utf8EncodeChar_eq_cons_cons_cons hsize] at h
    simp only [List.mem_cons, List.not_mem_nil, or_false] at h
    rcases h with rfl | rfl | rfl
    · exact .inr (hstart _ _ (by decide))
    · exact .inr (hcont _)
    · exact .inr (hcont _)
  · rw [String.utf8EncodeChar_eq_cons_cons_cons_cons hsize] at h
    simp only [List.mem_cons, List.not_mem_nil, or_false] at h
    rcases h with rfl | rfl | rfl | rfl
    · exact .inr (hstart _ _ (by decide))
    · exact .inr (hcont _)
    · exact .inr (hcont _)
    · exact .inr (hcont _)

theorem merge_of_large {as : List Atom} (h : ∀ n, .byte n ∈ as → ¬ (0 < n ∧ n < 16)) :
    merge as = as := by
  induction as using merge.induct with
  | case1 => rfl
  | case2 n c rest m hm ih =>
    have hnone : combined n c = none := if_neg (h n List.mem_cons_self)
    cases hnone.symm.trans hm
  | case3 n c rest hnone ih =>
    rw [merge, hnone]
    dsimp only
    rw [ih fun m hm => h m (List.mem_cons_of_mem _ (List.mem_cons_of_mem _ hm))]
  | case4 a rest hother ih =>
    rw [merge]
    · rw [ih fun m hm => h m (List.mem_cons_of_mem _ hm)]
    · exact hother

theorem reading_of_unambiguous {username : String} (h : Unambiguous username) :
    reading username = atoms username := by
  apply merge_of_large
  intro n hn
  obtain ⟨c, hc, hmem⟩ := List.mem_flatMap.mp hn
  split at hmem
  · cases List.mem_singleton.mp hmem
  · rw [toUTF8_singleton] at hmem
    obtain ⟨byte, hbyte, hatom⟩ := List.mem_map.mp hmem
    obtain rfl := Atom.byte.inj hatom
    obtain ⟨hsingle, hlt⟩ | hle := le_of_mem_utf8EncodeChar hbyte
    · rw [hsingle] at hbyte
      have hnat : byte.toNat = c.toNat := by
        rw [List.mem_singleton.mp hbyte, UInt32.toNat_toUInt8]
        exact Nat.mod_eq_of_lt (by have : c.val.toNat = c.toNat := rfl; omega)
      rw [hnat]
      exact (h c hc).2
    · omega

theorem utf8Size_of_alphanum {c : Char} (h : c.isAlphanum = true) : c.utf8Size = 1 := by
  rw [Char.utf8Size_eq_one_iff]
  have hle : c.toNat ≤ 127 := by
    delta Char.isAlphanum Char.isAlpha at h
    rw [Bool.or_eq_true, Bool.or_eq_true] at h
    obtain (hupper | hlower) | hdigit := h
    · have := PyText.isUpper_iff.mp hupper
      omega
    · have := PyText.isLower_iff.mp hlower
      omega
    · delta Char.isDigit at hdigit
      rw [Bool.and_eq_true, decide_eq_true_eq, decide_eq_true_eq] at hdigit
      have hbound : c.toNat ≤ 57 := hdigit.2
      omega
  exact hle

def Atom.value : Atom → UInt8
  | .plain c => c.val.toUInt8
  | .byte n => n.toUInt8

theorem value_atoms {username : String} (h : Unambiguous username) :
    (atoms username).map Atom.value = username.toList.flatMap String.utf8EncodeChar := by
  rw [atoms, List.map_flatMap]
  apply List.flatMap_congr
  intro c hc
  split
  next halphanum =>
    have hlower : c.toLower = c := PyText.toLower_of_not_upper (h c hc).1
    have hsize : c.utf8Size = 1 := utf8Size_of_alphanum halphanum
    rw [hlower, String.utf8EncodeChar_eq_singleton hsize]
    rfl
  next =>
    rw [toUTF8_singleton, List.map_map]
    conv_rhs => rw [← List.map_id (String.utf8EncodeChar c)]
    apply List.map_congr_left
    intro byte _
    exact UInt8.ofNat_toNat

/-- Unambiguous usernames are told apart. -/
theorem reading_injective {username username' : String} (h : Unambiguous username)
    (h' : Unambiguous username') (heq : reading username = reading username') :
    username = username' := by
  rw [reading_of_unambiguous h, reading_of_unambiguous h'] at heq
  have hbytes := congrArg (List.map Atom.value) heq
  rw [value_atoms h, value_atoms h'] at hbytes
  rw [← String.toByteArray_inj, ← String.utf8Encode_toList, ← String.utf8Encode_toList,
    List.utf8Encode, List.utf8Encode, hbytes]

/-! ### Any two users -/

/-- The safe usernames of two users differ where their usernames are read differently. -/
theorem distinct_iff {library : TokenLibrary} {enabled : Bool}
    {headers headers' : String → Option String} {user user' : User}
    (h : authenticated library enabled headers = .ok user)
    (h' : authenticated library enabled headers' = .ok user') :
    (user.username ≠ user'.username → user.safeUsername ≠ user'.safeUsername) ↔
      (user.username ≠ user'.username → reading user.username ≠ reading user'.username) := by
  rw [safeUsername_eq h, safeUsername_eq h', Ne, Ne, safeUsernameOf_eq_iff]

def noTokens : TokenLibrary where
  parseJwt := fun _ => .error .valueError
  gitCredsFromHeaders := fun _ => .error .valueError
  gitlabUser := fun _ => { email := "", name := "" }

def guestHeaders (id key : String) : Option String :=
  if key = "Renku-Auth-Anon-Id" then some id else none

def guest (id : String) : User :=
  .anonymous { username := id, safeUsername := safeUsernameOf id, id }

theorem guests_distinct :
    authenticated noTokens true (guestHeaders "anon-a") = .ok (guest "anon-a") ∧
      authenticated noTokens true (guestHeaders "anon-b") = .ok (guest "anon-b") ∧
      ("anon-a" ≠ "anon-b" → safeUsernameOf "anon-a" ≠ safeUsernameOf "anon-b") := by
  have ha : authenticated noTokens true (guestHeaders "anon-a") = .ok (guest "anon-a") := rfl
  have hb : authenticated noTokens true (guestHeaders "anon-b") = .ok (guest "anon-b") := rfl
  exact ⟨ha, hb, (distinct_iff ha hb).mpr fun _ => by decide +kernel⟩

/-- The users `aB` and `ab` have one safe username. -/
theorem letters_not_distinct :
    ¬ ∀ library enabled headers headers' user user',
      authenticated library enabled headers = .ok user →
        authenticated library enabled headers' = .ok user' →
          user.username ≠ user'.username → user.safeUsername ≠ user'.safeUsername := by
  intro h
  have hsafe : safeUsernameOf "aB" = safeUsernameOf "ab" := by decide +kernel
  exact h noTokens true (guestHeaders "aB") (guestHeaders "ab") (guest "aB") (guest "ab") rfl rfl
    (show ("aB" : String) ≠ "ab" by decide) hsafe

end RenkuNotebooks.Notebooks.SafeUsernames
