import RenkuNotebooks.GitProxy.Url

/-!
# The handlers of the git proxy

`getProxyHandler` registers one handler for each repository whose URL parses and whose
provider is configured. A request runs through the handlers in order of registration.
The store of git tokens is a parameter: any function that answers for a provider and
may change its own state.
-/

namespace RenkuNotebooks.GitProxy

structure GitRepository where
  url : GoString
  provider : String
  deriving DecidableEq, Repr

structure GitProvider where
  id : String
  accessTokenUrl : String
  deriving DecidableEq, Repr

/-- The fields of `GitProxyConfig` that decide which requests get credentials. -/
structure GitProxyConfig where
  anonymousSession : Bool
  repositories : List GitRepository
  providers : List GitProvider
  deriving DecidableEq, Repr

/-- What is registered for one repository: the handler function is determined by the
parsed URL and the provider, the conditions by the listed hosts. -/
structure Handler where
  repoURL : Url
  provider : String
  hosts : List GoString
  deriving DecidableEq, Repr

abbrev Headers := List (String × String)

structure Request where
  url : Url
  headers : Headers
  deriving DecidableEq, Repr

structure Reply where
  status : Nat
  body : String
  deriving DecidableEq, Repr

/-- A request is forwarded with some headers, or answered by the proxy itself. -/
inductive Outcome where
  | forwarded (headers : Headers)
  | replied (reply : Reply)
  deriving DecidableEq, Repr

/-- `Header.Set`: all values of the key are replaced by one. -/
def setHeader (headers : Headers) (key value : String) : Headers :=
  headers.filter (fun h => h.1 ≠ key) ++ [(key, value)]

/-- `strings.TrimLeft(s, "/")`. -/
def trimLeftSlash (s : GoString) : GoString := s.dropWhile (· = '/')

section Registration

/-- The literal hosts that the goproxy conditions list for a repository. -/
def conditionHosts (repoURL : Url) : List GoString :=
  let gitRepoHostWithWww := www ++ repoURL.hostname
  [repoURL.hostname, gitRepoHostWithWww, repoURL.hostname ++ ":443".toList,
    gitRepoHostWithWww ++ ":443".toList]

/-- `ReqHostIs`: the host of the request, as sent, is one of the listed hosts. -/
def reqHostIs (hosts : List GoString) (host : GoString) : Bool := hosts.contains host

variable (parse : GoString → Option Url)

/-- A repository without a usable URL or without a configured provider gets no handler. -/
def setupHandler (config : GitProxyConfig) (repo : GitRepository) : Option Handler :=
  match parse repo.url with
  | none => none
  | some repoURL =>
    if repo.provider = "" then none
    else if config.providers.any (fun p => p.id = repo.provider) then
      some ⟨repoURL, repo.provider, conditionHosts repoURL⟩
    else none

def getProxyHandler (config : GitProxyConfig) : List Handler :=
  if config.anonymousSession then [] else config.repositories.filterMap (setupHandler parse config)

end Registration

section Serving

variable {σ : Type} (getGitAccessToken : σ → String → Except String String × σ)

def validGitRequest (repoURL u : Url) : Bool :=
  u.scheme == repoURL.scheme && hostsMatch u repoURL && getPort u == getPort repoURL &&
    (trimLeftSlash repoURL.path).isPrefixOf (trimLeftSlash u.path)

def handlerFunc (h : Handler) (r : Request) (store : σ) : Request × Option Reply × σ :=
  if validGitRequest h.repoURL r.url then
    match getGitAccessToken store h.provider with
    | (.error _, store') => (r, some ⟨401, "The git token could not be refreshed"⟩, store')
    | (.ok gitToken, store') =>
      ({ r with headers := setHeader r.headers "Authorization" ("Basic " ++ gitToken) }, none, store')
  else (r, none, store)

/-- Every handler whose conditions hold sees the request, until one of them answers it. -/
def filterRequest : List Handler → Request → σ → Request × Option Reply × σ
  | [], r, store => (r, none, store)
  | h :: rest, r, store =>
    if reqHostIs h.hosts r.url.host then
      match handlerFunc getGitAccessToken h r store with
      | (r', some reply, store') => (r', some reply, store')
      | (r', none, store') => filterRequest rest r' store'
    else filterRequest rest r store

/-- `HandleConnect(AlwaysMitm)`: a CONNECT is intercepted when the conditions of some
handler hold for its authority. -/
def interceptsConnect (handlers : List Handler) (authority : GoString) : Bool :=
  handlers.any (fun h => reqHostIs h.hosts authority)

/-- One request through the proxy. An https request arrives inside a CONNECT tunnel to the
host of its URL, and stays opaque unless the CONNECT is intercepted. -/
def serve (handlers : List Handler) (r : Request) (store : σ) : Outcome × σ :=
  if r.url.scheme = "https".toList ∧ interceptsConnect handlers r.url.host = false then
    (.forwarded r.headers, store)
  else
    match filterRequest getGitAccessToken handlers r store with
    | (_, some reply, store') => (.replied reply, store')
    | (r', none, store') => (.forwarded r'.headers, store')

/-- The handler adds credentials to exactly the requests that its own match accepts. -/
lemma handlerFunc_of_not_valid {h : Handler} {r : Request} (hv : validGitRequest h.repoURL r.url = false)
    (store : σ) : handlerFunc getGitAccessToken h r store = (r, none, store) := by
  simp [handlerFunc, hv]

/-- A request that no selected handler accepts passes through unchanged. -/
lemma filterRequest_of_none_valid (handlers : List Handler) (r : Request) (store : σ)
    (h : ∀ k ∈ handlers, reqHostIs k.hosts r.url.host = true → validGitRequest k.repoURL r.url = false) :
    filterRequest getGitAccessToken handlers r store = (r, none, store) := by
  induction handlers with
  | nil => rfl
  | cons k rest ih =>
    have hrest := ih (fun k' hk' => h k' (List.mem_cons_of_mem k hk'))
    by_cases hk : reqHostIs k.hosts r.url.host = true
    · simp only [filterRequest, hk, if_true,
        handlerFunc_of_not_valid getGitAccessToken (h k List.mem_cons_self hk) store]
      exact hrest
    · simp only [filterRequest, hk]
      exact hrest

end Serving

/-- The handler of a configured repository, recovered from its registration. -/
lemma mem_getProxyHandler_iff (parse : GoString → Option Url) (config : GitProxyConfig) (h : Handler) :
    h ∈ getProxyHandler parse config ↔ config.anonymousSession = false ∧
      ∃ repo ∈ config.repositories, parse repo.url = some h.repoURL ∧ repo.provider ≠ "" ∧
        (∃ p ∈ config.providers, p.id = repo.provider) ∧
        h.provider = repo.provider ∧ h.hosts = conditionHosts h.repoURL := by
  unfold getProxyHandler
  cases config.anonymousSession with
  | true => simp
  | false =>
    simp only [Bool.false_eq_true, if_false, List.mem_filterMap, true_and]
    refine exists_congr (fun repo => and_congr_right (fun _ => ?_))
    unfold setupHandler
    cases hp : parse repo.url with
    | none => simp
    | some repoURL =>
      by_cases he : repo.provider = ""
      · simp [he]
      · by_cases hk : ∃ p ∈ config.providers, p.id = repo.provider
        · have hany : config.providers.any (fun p => decide (p.id = repo.provider)) = true := by
            simpa using hk
          simp only [he, if_false, hany, if_true, Option.some.injEq, ne_eq, not_false_eq_true,
            true_and, hk]
          constructor
          · rintro rfl
            exact ⟨rfl, rfl, rfl⟩
          · rintro ⟨rfl, hprov, hhosts⟩
            rw [← hprov, ← hhosts]
        · have hany : config.providers.any (fun p => decide (p.id = repo.provider)) = false := by
            simpa using hk
          simp [he, hany, hk]

end RenkuNotebooks.GitProxy
