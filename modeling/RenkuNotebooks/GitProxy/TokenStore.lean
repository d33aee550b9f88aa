import RenkuNotebooks.Foundation.Interleaving
import RenkuNotebooks.Foundation.PyText
import RenkuNotebooks.GitProxy.Handler

/-!
# The token store

`TokenStore` of the git proxy: any number of goroutines ask it for git tokens, one refreshes the
renku tokens from time to time. Every section under a lock is a call of the goroutine; the lock of
the git tokens is held over several of them while a token is exchanged. Times are nanoseconds
since the epoch.
-/

namespace RenkuNotebooks.GitProxy

open Prog

abbrev GoError := String

structure TokenSet where
  accessToken : String := ""
  expiresAt : Int := 0
  deriving DecidableEq, Repr

/-! ### Answers -/

/-- The first JSON value of the body, if there is one. -/
structure HttpResponse where
  status : Nat
  body : Option Json
  deriving DecidableEq, Repr

abbrev Answer := Except GoError HttpResponse

inductive Authorization where
  | bearer (token : String)
  | basic (user password : String)
  deriving DecidableEq, Repr

structure HttpRequest where
  method : String
  url : String
  authorization : Authorization
  form : List (String × String) := []
  deriving DecidableEq, Repr

/-- Keys of objects are compared without case; two letters fold to ASCII letters. -/
def foldRune (c : Char) : Char :=
  if c = 'ſ' then 'S' else if c.toNat = 0x212A then 'K' else c.toUpper

def foldName (name : String) : List Char := name.toList.map foldRune

/-- The values of a field, without those that leave it as it is. -/
def fieldValues (name : String) (members : List (String × Json)) : List Json :=
  ((members.filter fun m => foldName m.1 = foldName name).map (·.2)).filter (· ≠ .null)

def unmarshalTypeError (name : String) : GoError := "json: cannot unmarshal field " ++ name

/-- A field of a struct: the last value counts, a missing one leaves the zero value. -/
def decodeField {α : Type} (name : String) (zero : α) (read : Json → Option α)
    (members : List (String × Json)) : Except GoError α :=
  match (fieldValues name members).mapM read with
  | none => .error (unmarshalTypeError name)
  | some values => .ok (values.getLast?.getD zero)

def readString : Json → Option String
  | .str s => some s
  | _ => none

def readInt64 : Json → Option Int
  | .int n => if -0x8000000000000000 ≤ n ∧ n < 0x8000000000000000 then some n else none
  | _ => none

/-- The members that are decoded into a struct. -/
def structMembers : Option Json → Except GoError (List (String × Json))
  | some (.obj members) => .ok members
  | some .null => .ok []
  | some _ => .error "json: cannot unmarshal value into Go value"
  | none => .error "invalid JSON"

/-- `gitTokenRefreshResponse` -/
def decodeTokenSet (body : Option Json) : Except GoError TokenSet := do
  let members ← structMembers body
  let accessToken ← decodeField "access_token" "" readString members
  let expiresAt ← decodeField "expires_at" 0 readInt64 members
  pure { accessToken, expiresAt }

structure RenkuTokenRefreshResponse where
  accessToken : String
  refreshToken : String
  deriving DecidableEq, Repr

def decodeRefreshResponse (body : Option Json) : Except GoError RenkuTokenRefreshResponse := do
  let members ← structMembers body
  let accessToken ← decodeField "access_token" "" readString members
  let refreshToken ← decodeField "refresh_token" "" readString members
  pure { accessToken, refreshToken }

/-- What an exchange makes of its answer. -/
def exchanged : Answer → Except GoError TokenSet
  | .error e => .error e
  | .ok res =>
    if res.status ≠ 200 then
      .error ("cannot exchange renku token for git token, failed with staus code: " ++
        toString res.status)
    else decodeTokenSet res.body

/-- What a refresh makes of its answer. -/
def refreshed : Answer → Except GoError RenkuTokenRefreshResponse
  | .error e => .error e
  | .ok res =>
    if res.status ≠ 200 then
      .error ("cannot refresh renku access token, failed with staus code: " ++ toString res.status)
    else decodeRefreshResponse res.body

/-! ### The state -/

structure Tokens where
  renkuAccessToken : String
  renkuRefreshToken : String
  gitAccessTokens : String → Option TokenSet

/-- The write in `refreshRenkuAccessToken`: an empty refresh token is not taken over. -/
def Tokens.refresh (s : Tokens) (answer : Answer) : Tokens :=
  match refreshed answer with
  | .error _ => s
  | .ok res =>
    { s with
      renkuAccessToken := res.accessToken
      renkuRefreshToken := if res.refreshToken ≠ "" then res.refreshToken else s.renkuRefreshToken }

def Tokens.store (s : Tokens) (provider : String) (tokenSet : TokenSet) : Tokens :=
  { s with gitAccessTokens := Function.update s.gitAccessTokens provider (some tokenSet) }

theorem Tokens.refresh_of_error {tokens : Tokens} {answer : Answer} {e : GoError}
    (h : refreshed answer = .error e) : tokens.refresh answer = tokens := by
  unfold Tokens.refresh
  rw [h]

theorem Tokens.refresh_of_ok {tokens : Tokens} {answer : Answer} {res : RenkuTokenRefreshResponse}
    (h : refreshed answer = .ok res) :
    (tokens.refresh answer).renkuAccessToken = res.accessToken ∧
      (tokens.refresh answer).renkuRefreshToken =
        if res.refreshToken ≠ "" then res.refreshToken else tokens.renkuRefreshToken := by
  unfold Tokens.refresh
  rw [h]
  exact ⟨rfl, rfl⟩

@[simp] theorem Tokens.refresh_git (tokens : Tokens) (answer : Answer) :
    (tokens.refresh answer).gitAccessTokens = tokens.gitAccessTokens := by
  unfold Tokens.refresh
  split <;> rfl

@[simp] theorem Tokens.store_self (tokens : Tokens) (p : String) (tokenSet : TokenSet) :
    (tokens.store p tokenSet).gitAccessTokens p = some tokenSet :=
  Function.update_self _ _ _

theorem Tokens.store_of_ne (tokens : Tokens) {p p' : String} (tokenSet : TokenSet) (h : p' ≠ p) :
    (tokens.store p tokenSet).gitAccessTokens p' = tokens.gitAccessTokens p' :=
  Function.update_of_ne h _ _

structure StoreState where
  tokens : Tokens
  /-- `gitAccessTokensLock` is held for writing. -/
  gitLocked : Bool

/-- The configuration of the store; `newRequestError` is the error that `http.NewRequest` gives
for a URL, `jwtExpiry` the claim `exp` of a token that can be parsed. -/
structure TokenStore where
  providers : List GitProvider
  refreshURL : String
  renkuClientID : String
  renkuClientSecret : String
  renkuAccessToken : String
  renkuRefreshToken : String
  refreshCheckPeriodSeconds : Int
  newRequestError : String → Option GoError
  jwtExpiry : String → Except GoError (Option Int)

/-! ### Calls -/

/-- What a goroutine does without interruption. `refreshRenku` is the section of
`refreshRenkuAccessToken` under its lock, with the request in it. -/
inductive StoreCall where
  | readGit (provider : String)
  | now
  | lockGit
  /-- `c.Do(req)`, with the requests for the redirects. -/
  | exchange (request : HttpRequest)
  | storeGit (provider : String) (tokenSet : TokenSet)
  | unlockGit
  | readAccess
  | readRefresh
  | refreshRenku

/-- A refresh request that has been sent, and its answer. -/
structure Refresh where
  request : HttpRequest
  answer : Answer
  deriving DecidableEq, Repr

abbrev StoreCall.Reply : StoreCall → Type
  | .readGit _ => Option TokenSet
  | .now => Int
  | .lockGit => Unit
  | .exchange _ => Answer
  | .storeGit _ _ => Unit
  | .unlockGit => Unit
  | .readAccess => String
  | .readRefresh => String
  | .refreshRenku => Refresh

/-- The clock, and what the identity provider and the token endpoints answer. -/
structure StoreEnv where
  now : Int
  answer : HttpRequest → Answer

abbrev Goroutine := Prog StoreCall StoreCall.Reply GoError

namespace Goroutine

def readGit (provider : String) : Goroutine (Option TokenSet) := perform (StoreCall.readGit provider)

def timeNow : Goroutine Int := perform StoreCall.now

def lockGit : Goroutine Unit := perform StoreCall.lockGit

def unlockGit : Goroutine Unit := perform StoreCall.unlockGit

def exchange (request : HttpRequest) : Goroutine Answer := perform (StoreCall.exchange request)

def storeGit (provider : String) (tokenSet : TokenSet) : Goroutine Unit :=
  perform (StoreCall.storeGit provider tokenSet)

def readAccess : Goroutine String := perform StoreCall.readAccess

def readRefresh : Goroutine String := perform StoreCall.readRefresh

def refreshRenku : Goroutine Refresh := perform StoreCall.refreshRenku

def onlyIf (condition : Bool) (body : Goroutine Unit) : Goroutine Unit :=
  if condition then body else pure ()

end Goroutine

namespace TokenStore

open Goroutine

variable (s : TokenStore)

/-- Four times the period of the checks. -/
def expirationLeeway : Int := 4 * (s.refreshCheckPeriodSeconds * 1000000000)

/-- The last provider with an id counts; a missing one has the zero value. -/
def accessTokenUrl (provider : String) : String :=
  ((s.providers.reverse.find? (·.id = provider)).map (·.accessTokenUrl)).getD ""

def refreshRequest (refreshToken : String) : HttpRequest where
  method := "POST"
  url := s.refreshURL
  authorization := .basic s.renkuClientID s.renkuClientSecret
  form := [("grant_type", "refresh_token"), ("refresh_token", refreshToken)]

def exchangeRequest (provider renkuAccessToken : String) : HttpRequest where
  method := "GET"
  url := s.accessTokenUrl provider
  authorization := .bearer renkuAccessToken

def serve (env : StoreEnv) : (c : StoreCall) → StoreState → c.Reply × StoreState
  | .readGit provider, st => (st.tokens.gitAccessTokens provider, st)
  | .now, st => (env.now, st)
  | .lockGit, st => ((), { st with gitLocked := true })
  | .exchange request, st => (env.answer request, st)
  | .storeGit provider tokenSet, st => ((), { st with tokens := st.tokens.store provider tokenSet })
  | .unlockGit, st => ((), { st with gitLocked := false })
  | .readAccess, st => (st.tokens.renkuAccessToken, st)
  | .readRefresh, st => (st.tokens.renkuRefreshToken, st)
  | .refreshRenku, st =>
    let request := s.refreshRequest st.tokens.renkuRefreshToken
    (⟨request, env.answer request⟩,
      { st with tokens := st.tokens.refresh (env.answer request) })

/-! ### The functions of the store -/

/-- `time.Now().Add(s.ExpirationLeeway)` at this reading of the clock. -/
def deadline (now : Int) : Int := now + s.expirationLeeway

def unix (time : Int) : Int := time / 1000000000

/-- A token without an expiry does not expire. -/
def expiredAt (now : Int) (tokenSet : TokenSet) : Bool :=
  0 < tokenSet.expiresAt ∧ tokenSet.expiresAt < unix (s.deadline now)

def jwtExpiredAt (now : Int) : Option Int → Bool
  | none => false
  | some expiresAt => expiresAt ≤ s.deadline now

def isJWTExpired (token : String) : Goroutine Bool := do
  let expiresAt ← ofExcept (s.jwtExpiry token)
  let now ← timeNow
  pure (s.jwtExpiredAt now expiresAt)

def refreshRenkuAccessToken : Goroutine Unit :=
  match s.newRequestError s.refreshURL with
  | some e => .raise e
  | none => do
    let reply ← refreshRenku
    let _ ← ofExcept (refreshed reply.answer)
    pure ()

def getValidRenkuAccessToken : Goroutine String := do
  let token ← readAccess
  let isExpired ← s.isJWTExpired token
  onlyIf isExpired s.refreshRenkuAccessToken
  readAccess

/-- The section of `refreshGitAccessToken` under the lock. -/
def exchangeGitAccessToken (provider : String) : Goroutine Unit :=
  match s.newRequestError (s.accessTokenUrl provider) with
  | some e => .raise e
  | none => do
    let renkuAccessToken ← s.getValidRenkuAccessToken
    let reply ← exchange (s.exchangeRequest provider renkuAccessToken)
    let tokenSet ← ofExcept (exchanged reply)
    storeGit provider tokenSet

/-- `defer s.gitAccessTokensLock.Unlock()` around `body`. -/
def unlocking (body : Goroutine Unit) : Goroutine Unit := do
  body.tryCatch fun e => unlockGit.bind fun _ => .raise e
  unlockGit

def refreshGitAccessToken (provider : String) : Goroutine Unit := do
  lockGit
  unlocking (s.exchangeGitAccessToken provider)

/-- Whether the token set is missing or expired; the clock is only read where there is an
expiry. -/
def isStale : Option TokenSet → Goroutine Bool
  | none => pure true
  | some tokenSet =>
    if 0 < tokenSet.expiresAt then do
      let now ← timeNow
      pure (s.expiredAt now tokenSet)
    else pure false

def encodeGitCredentials (token : String) : String := PyText.b64encode ("oauth2:" ++ token)

/-- The token as it is returned. -/
def rendered (encode : Bool) (tokenSet : Option TokenSet) : String :=
  let token := (tokenSet.getD {}).accessToken
  if encode then encodeGitCredentials token else token

def getGitAccessToken (provider : String) (encode : Bool) : Goroutine String := do
  let tokenSet ← readGit provider
  let stale ← s.isStale tokenSet
  onlyIf stale (s.refreshGitAccessToken provider)
  let tokenSet ← readGit provider
  pure (rendered encode tokenSet)

/-- One tick: a refresh token that cannot be parsed counts as expired, and errors are logged
only. -/
def refreshPeriodically : Goroutine Unit := do
  let renkuRefreshToken ← readRefresh
  let refreshTokenIsExpired ← (s.isJWTExpired renkuRefreshToken).tryCatch fun _ => pure true
  onlyIf refreshTokenIsExpired (s.refreshRenkuAccessToken.tryCatch fun _ => pure ())

/-- The goroutine of the ticker, for the ticks that come. -/
def periodicTokenRefresh : Nat → Goroutine Unit
  | 0 => pure ()
  | ticks + 1 => do
    s.refreshPeriodically
    periodicTokenRefresh ticks

end TokenStore

/-! ### The goroutines of a store -/

/-- A call of `GetGitAccessToken`. -/
structure TokenCall where
  provider : String
  encode : Bool

/-- The calls, and the goroutine of the ticker as `none`. -/
abbrev StorePool (ι : Type) :=
  Pool (Option ι) StoreCall StoreCall.Reply GoError (Option String) StoreState

/-- The goroutine that goes on, in the environment that answers it. -/
abbrev StoreMove (ι : Type) := Option ι × StoreEnv

def StoreCall.takesGitLock : StoreCall → Bool
  | .readGit _ => true
  | .lockGit => true
  | _ => false

namespace TokenStore

variable (s : TokenStore)

def initialState : StoreState where
  tokens := {
    renkuAccessToken := s.renkuAccessToken
    renkuRefreshToken := s.renkuRefreshToken
    gitAccessTokens := fun _ => none }
  gitLocked := false

variable {ι : Type} [DecidableEq ι]

def goroutines (calls : ι → TokenCall) (ticks : Nat) : Option ι → Goroutine (Option String)
  | some i => do
    let token ← s.getGitAccessToken (calls i).provider (calls i).encode
    pure (some token)
  | none => do
    s.periodicTokenRefresh ticks
    pure none

def start (calls : ι → TokenCall) (ticks : Nat) : StorePool ι where
  state := s.initialState
  threads := s.goroutines calls ticks
  trace := []

/-- A goroutine waits while another one holds the lock of the git tokens for writing. -/
def waits (t : Option ι) (pool : StorePool ι) : Bool :=
  match pool.threads t with
  | .call c _ => c.takesGitLock && pool.state.gitLocked
  | _ => false

def advance (m : StoreMove ι) (pool : StorePool ι) : StorePool ι :=
  if waits m.1 pool then pool else pool.step (s.serve m.2) m.1

/-! ### A store with one provider -/

/-- An access token that expires in 2033. -/
def sampleJWT : String := "eyJhbGciOiJub25lIn0.eyJleHAiOjIwMDAwMDAwMDB9."

def sampleStore : TokenStore where
  providers := [⟨"example", "https://renku.example/api/oauth2/token"⟩]
  refreshURL := "https://renku.example/auth/realms/Renku/protocol/openid-connect/token"
  renkuClientID := "RenkuClientID"
  renkuClientSecret := "RenkuClientSecret"
  renkuAccessToken := sampleJWT
  renkuRefreshToken := sampleJWT
  refreshCheckPeriodSeconds := 600
  newRequestError := fun _ => none
  jwtExpiry := fun token =>
    if token = sampleJWT then .ok (some 2000000000000000000)
    else .error "token contains an invalid number of segments"

/-- In 2023; git tokens are answered with this body, refreshes fail. -/
def answering (body : Json) : StoreEnv where
  now := 1700000000000000000
  answer := fun request =>
    .ok (if request.method = "POST" then ⟨500, none⟩ else ⟨200, some body⟩)

end TokenStore

end RenkuNotebooks.GitProxy
