import Mathlib.Data.List.Nodup
import RenkuNotebooks.Foundation.Results
import RenkuNotebooks.Foundation.UrlJoin
import RenkuNotebooks.Notebooks.StorageAnswers

/-!
# The git providers of a user

The data service lists the OAuth2 connections of a user. Each provider that the user is connected
to gives tokens at a URL of Renku's own, as the internal GitLab does.
-/

namespace RenkuNotebooks.Notebooks

open PyDict

def internalGitlabProvider : String := "INTERNAL_GITLAB"

structure OAuth2Connection where
  id : String
  providerId : String
  status : String
  deriving DecidableEq, Repr

structure OAuth2Provider where
  id : String
  url : String
  deriving DecidableEq, Repr

/-- `data[key]` where the data service keeps a text. -/
def textItem (key : String) (data : Json) : Except PyError String := do
  let value ← getItem key data
  text value

def OAuth2Connection.fromDict (data : Json) : Except PyError OAuth2Connection := do
  let id ← textItem "id" data
  let providerId ← textItem "provider_id" data
  let status ← textItem "status" data
  pure { id, providerId, status }

def OAuth2Provider.fromDict (data : Json) : Except PyError OAuth2Provider := do
  let id ← textItem "id" data
  let url ← textItem "url" data
  pure { id, url }

/-- `s.rstrip("/")` -/
def rstripSlashes (s : String) : String :=
  String.ofList (s.toList.reverse.dropWhile (· = '/')).reverse

/-- The URLs have no slash at their ends. -/
structure GitProviderHelper where
  service : DataService
  renkuUrl : String
  internalGitlabUrl : String

namespace GitProviderHelper

/-- The helper that the configuration gives for a host and a GitLab. -/
def make (service : DataService) (ingressHost internalGitlabUrl : String) : GitProviderHelper where
  service := { service with url := rstripSlashes service.url }
  renkuUrl := rstripSlashes ("https://" ++ ingressHost)
  internalGitlabUrl := internalGitlabUrl

variable (rejects : List Char → Bool) (helper : GitProviderHelper)

/-- The body of an answer with status 200. -/
def getJson (requestUrl : String) (headers : Option Headers) : Except PyError Json :=
  let res := helper.service.get requestUrl headers
  if res.statusCode ≠ 200 then
    .error (.generic (intermittentError DataService.unexpectedResponse))
  else res.json

/-- The connections that are not connected are left out. -/
def readConnection (c : Json) : Except PyError (Option OAuth2Connection) := do
  let status ← getItem "status" c
  if status = .str "connected" then do
    let connection ← OAuth2Connection.fromDict c
    pure (some connection)
  else pure none

def getOauth2Connections (user : User) : Except PyError (List OAuth2Connection) :=
  match user.accessToken with
  | none => .ok []
  | some accessToken => do
    let answer ← helper.getJson (helper.service.url ++ "/oauth2/connections")
      (some [("Authorization", "bearer " ++ accessToken)])
    let entries ← AnsweredStorage.iterate answer
    let connections ← entries.mapM readConnection
    pure (connections.filterMap id)

def getOauth2Provider (providerId : String) : Except PyError OAuth2Provider := do
  let answer ← helper.getJson (helper.service.url ++ "/oauth2/providers/" ++ providerId) none
  OAuth2Provider.fromDict answer

/-- Whatever `urllib.parse` raises is a `ValueError`. -/
def ofUrllib {α : Type} (x : Except String α) : Except PyError α := x.mapError fun _ => .valueError

/-- A URL of Renku with the path that the data service has for a connection. -/
def connectionTokenUrl (connectionId : String) : Except PyError String := do
  let parsed ← ofUrllib (PyUrl.urlparse rejects
    (helper.service.url ++ "/oauth2/connections/" ++ connectionId ++ "/token"))
  ofUrllib (PyUrl.urljoin rejects helper.renkuUrl (String.ofList parsed.path))

/-- One step of the loop over the connections; a provider counts with its first connection. -/
def addProvider (providers : List GitProvider) (c : OAuth2Connection) :
    Except PyError (List GitProvider) :=
  if providers.any (·.id == c.providerId) then .ok providers
  else do
    let provider ← helper.getOauth2Provider c.providerId
    let accessTokenUrl ← helper.connectionTokenUrl rejects c.id
    pure (providers ++ [{
      id := c.providerId
      url := provider.url
      connectionId := c.id
      accessTokenUrl := accessTokenUrl }])

def internalTokenUrl : Except PyError String :=
  ofUrllib (PyUrl.urljoin rejects helper.renkuUrl "/api/auth/gitlab/exchange")

def getProviders (user : User) : Except PyError (List GitProvider) :=
  match user.accessToken with
  | none => .ok []
  | some _ => do
    let connections ← helper.getOauth2Connections user
    let providers ← connections.foldlM (helper.addProvider rejects) []
    let accessTokenUrl ← helper.internalTokenUrl rejects
    pure ({
      id := internalGitlabProvider
      url := helper.internalGitlabUrl
      connectionId := ""
      accessTokenUrl := accessTokenUrl } :: providers)

/-! ### What is collected -/

/-- The provider as the data service has it, with the first of these connections to it. -/
structure ConnectedBy (connections : List OAuth2Connection) (p : GitProvider) : Prop where
  first : ∃ c, connections.find? (·.providerId == p.id) = some c ∧ c.id = p.connectionId
  record : ∃ provider, helper.getOauth2Provider p.id = .ok provider ∧ provider.url = p.url
  tokenUrl : helper.connectionTokenUrl rejects p.connectionId = .ok p.accessTokenUrl

structure Collected (seen : List OAuth2Connection) (providers : List GitProvider) : Prop where
  connected : ∀ p ∈ providers, helper.ConnectedBy rejects seen p
  covered : ∀ c ∈ seen, ∃ p ∈ providers, p.id = c.providerId
  distinct : (providers.map (·.id)).Nodup

/-- The entry in front of the connections. -/
structure IsInternal (p : GitProvider) : Prop where
  id : p.id = internalGitlabProvider
  url : p.url = helper.internalGitlabUrl
  tokenUrl : helper.internalTokenUrl rejects = .ok p.accessTokenUrl

variable {rejects helper}

theorem ConnectedBy.concat {seen : List OAuth2Connection} {p : GitProvider}
    (h : helper.ConnectedBy rejects seen p) (c : OAuth2Connection) :
    helper.ConnectedBy rejects (seen ++ [c]) p where
  first := by
    obtain ⟨c', hfind, hid⟩ := h.first
    exact ⟨c', by rw [List.find?_append, hfind]; rfl, hid⟩
  record := h.record
  tokenUrl := h.tokenUrl

theorem Collected.addProvider {seen : List OAuth2Connection} {providers providers' : List GitProvider}
    (h : helper.Collected rejects seen providers) {c : OAuth2Connection}
    (hadd : helper.addProvider rejects providers c = .ok providers') :
    helper.Collected rejects (seen ++ [c]) providers' := by
  have hconnected : ∀ p ∈ providers, helper.ConnectedBy rejects (seen ++ [c]) p :=
    fun p hp => (h.connected p hp).concat c
  unfold GitProviderHelper.addProvider at hadd
  split at hadd
  · rename_i hknown
    cases hadd
    refine ⟨hconnected, ?_, h.distinct⟩
    intro c' hc'
    rcases List.mem_append.mp hc' with hc' | hc'
    · exact h.covered c' hc'
    · obtain ⟨p, hp, hid⟩ := List.any_eq_true.mp hknown
      rw [List.mem_singleton.mp hc']
      exact ⟨p, hp, eq_of_beq hid⟩
  · rename_i hunknown
    have hnew : ∀ p ∈ providers, p.id ≠ c.providerId := by
      intro p hp hid
      exact hunknown (List.any_eq_true.mpr ⟨p, hp, beq_iff_eq.mpr hid⟩)
    obtain ⟨provider, hprovider, hadd⟩ := Results.bind_eq_ok_iff.mp hadd
    obtain ⟨accessTokenUrl, hurl, hadd⟩ := Results.bind_eq_ok_iff.mp hadd
    cases hadd
    -- no earlier connection is to this provider, for it would be in the list
    have hfirst : seen.find? (·.providerId == c.providerId) = none := by
      rw [List.find?_eq_none]
      intro c' hc' heq
      obtain ⟨p, hp, hid⟩ := h.covered c' hc'
      exact hnew p hp (hid.trans (eq_of_beq heq))
    refine ⟨?_, ?_, ?_⟩
    · intro p hp
      rcases List.mem_append.mp hp with hp | hp
      · exact hconnected p hp
      · rw [List.mem_singleton.mp hp]
        refine ⟨⟨c, ?_, rfl⟩, ⟨provider, hprovider, rfl⟩, hurl⟩
        rw [List.find?_append, hfirst]
        simp
    · intro c' hc'
      rcases List.mem_append.mp hc' with hc' | hc'
      · obtain ⟨p, hp, hid⟩ := h.covered c' hc'
        exact ⟨p, List.mem_append_left _ hp, hid⟩
      · rw [List.mem_singleton.mp hc']
        exact ⟨_, List.mem_append_right _ List.mem_cons_self, rfl⟩
    · rw [List.map_append, List.nodup_append]
      refine ⟨h.distinct, by simp, ?_⟩
      intro id hid id' hid'
      obtain ⟨p, hp, rfl⟩ := List.mem_map.mp hid
      rw [List.map_singleton, List.mem_singleton] at hid'
      rw [hid']
      exact hnew p hp

theorem Collected.foldlM {seen rest : List OAuth2Connection} {providers providers' : List GitProvider}
    (h : helper.Collected rejects seen providers)
    (hrun : rest.foldlM (helper.addProvider rejects) providers = .ok providers') :
    helper.Collected rejects (seen ++ rest) providers' := by
  induction rest generalizing seen providers with
  | nil =>
    cases hrun
    rw [List.append_nil]
    exact h
  | cons c rest ih =>
    rw [List.foldlM_cons] at hrun
    obtain ⟨next, hadd, hrun⟩ := Results.bind_eq_ok_iff.mp hrun
    have hall := ih (h.addProvider hadd) hrun
    rwa [List.append_assoc] at hall

theorem collected_nil : helper.Collected rejects [] [] where
  connected := fun _ hp => by cases hp
  covered := fun _ hc => by cases hc
  distinct := List.nodup_nil

/-- A user without a token has no providers; another one has the internal GitLab in front of those
that the connections lead to. -/
theorem of_getProviders {user : User} {providers : List GitProvider}
    (h : helper.getProviders rejects user = .ok providers) :
    (user.accessToken = none ∧ providers = []) ∨
      ∃ connections internal others, helper.getOauth2Connections user = .ok connections ∧
        providers = internal :: others ∧ helper.IsInternal rejects internal ∧
        helper.Collected rejects connections others := by
  unfold getProviders at h
  split at h
  · rename_i hnone
    cases h
    exact Or.inl ⟨hnone, rfl⟩
  · obtain ⟨connections, hconnections, h⟩ := Results.bind_eq_ok_iff.mp h
    obtain ⟨others, hothers, h⟩ := Results.bind_eq_ok_iff.mp h
    obtain ⟨accessTokenUrl, hurl, h⟩ := Results.bind_eq_ok_iff.mp h
    cases h
    refine Or.inr ⟨connections, _, others, hconnections, rfl, ⟨rfl, rfl, hurl⟩, ?_⟩
    exact collected_nil.foldlM hothers

/-! ### Where the tokens are asked for -/

/-- A URL on a host, where the path is empty or starts with one slash and a name. -/
def ServiceUrl (rejects : List Char → Bool) (url : String) : Prop :=
  ∃ scheme netloc path, PyUrl.PlainScheme scheme ∧ PyUrl.PlainHost rejects netloc ∧
    (∀ c ∈ path, PyUrl.Kept c) ∧ (path = [] ∨ ∃ c rest, path = '/' :: c :: rest ∧ c ≠ '/') ∧
    url = String.ofList (PyUrl.hosted scheme netloc path)

def https : List Char := "https".toList

/-- `https://` and the host. -/
def hostUrl (host : List Char) : String := String.ofList (PyUrl.hosted https host [])

theorem plainScheme_https : PyUrl.PlainScheme https where
  first := by decide
  chars := List.all_eq_true.mp (by decide)
  lower := by decide

theorem rstripSlashes_eq_self {s : String} (h : s.toList.getLast? ≠ some '/') :
    rstripSlashes s = s := by
  have hdrop : s.toList.reverse.dropWhile (· = '/') = s.toList.reverse := by
    cases hlist : s.toList.reverse with
    | nil => rfl
    | cons c cs =>
      have hlast : s.toList.getLast? = some c := by rw [List.getLast?_eq_head?_reverse, hlist]; rfl
      apply List.dropWhile_cons_of_neg
      rw [decide_eq_true_eq]
      rintro rfl
      exact h hlast
  rw [rstripSlashes, hdrop, List.reverse_reverse, String.ofList_toList]

theorem make_renkuUrl (service : DataService) {ingressHost : String} (internalGitlabUrl : String)
    (hhost : PyUrl.PlainHost rejects ingressHost.toList) :
    (make service ingressHost internalGitlabUrl).renkuUrl = hostUrl ingressHost.toList := by
  have htext : "https://" ++ ingressHost = hostUrl ingressHost.toList := by
    apply String.ext
    rw [hostUrl, String.toList_ofList, String.toList_append]
    simp [PyUrl.hosted, https]
  show rstripSlashes ("https://" ++ ingressHost) = _
  rw [rstripSlashes_eq_self, htext]
  rw [String.toList_append, List.getLast?_append_of_ne_nil _ hhost.nonempty]
  intro hlast
  exact (hhost.chars '/' (List.mem_of_getLast? hlast)).2.1 rfl

theorem ofUrllib_eq_ok_iff {α : Type} {x : Except String α} {a : α} :
    ofUrllib x = .ok a ↔ x = .ok a := by
  cases x with
  | error e => simp [ofUrllib, Except.mapError]
  | ok b => simp [ofUrllib, Except.mapError]

section Home

variable {host : List Char} (hhost : PyUrl.PlainHost rejects host)
  (haccepted : rejects [] = false) (hrenku : helper.renkuUrl = hostUrl host)
include hhost haccepted hrenku

/-- A path joined with the URL of Renku leads to Renku. -/
theorem leadsTo_of_urljoin {path url : String} (hpath : PyUrl.OnlyPath path.toList)
    (h : PyUrl.urljoin rejects helper.renkuUrl path = .ok url) :
    PyUrl.LeadsTo rejects https host url := by
  have hbehind : PyUrl.Behind [] := ⟨nofun, nofun⟩
  obtain ⟨behind, hbehind', hjoined⟩ := PyUrl.urljoin_hosted plainScheme_https (by decide)
    (by decide) hhost hbehind haccepted hpath
  rw [hrenku, hostUrl, hjoined] at h
  cases h
  exact PyUrl.leadsTo_hosted plainScheme_https hhost hbehind'

theorem leadsTo_of_internalTokenUrl {url : String} (h : helper.internalTokenUrl rejects = .ok url) :
    PyUrl.LeadsTo rejects https host url := by
  apply leadsTo_of_urljoin hhost haccepted hrenku _ (ofUrllib_eq_ok_iff.mp h)
  refine ⟨?_, by decide, PyText.forall_of_all (by decide)⟩
  intro c hc
  cases hc
  rfl

theorem leadsTo_of_connectionTokenUrl (hservice : ServiceUrl rejects helper.service.url)
    {connectionId url : String} (h : helper.connectionTokenUrl rejects connectionId = .ok url) :
    PyUrl.LeadsTo rejects https host url := by
  obtain ⟨parsed, hparsed, hjoin⟩ := Results.bind_eq_ok_iff.mp h
  apply leadsTo_of_urljoin hhost haccepted hrenku _ (ofUrllib_eq_ok_iff.mp hjoin)
  rw [String.toList_ofList]
  obtain ⟨scheme, netloc, path, hscheme, hnetloc, hkept, hpath, hurl⟩ := hservice
  have htext : helper.service.url ++ "/oauth2/connections/" ++ connectionId ++ "/token" =
      String.ofList (PyUrl.hosted scheme netloc
        (path ++ '/' :: 'o' :: ("auth2/connections/" ++ connectionId ++ "/token").toList)) := by
    apply String.ext
    rw [hurl]
    simp [PyUrl.hosted, String.toList_append]
  have hparsed := ofUrllib_eq_ok_iff.mp hparsed
  rw [htext] at hparsed
  refine PyUrl.onlyPath_of_urlparse hscheme hnetloc ?_ hparsed
  have hself : path.filter (fun c => decide (PyUrl.Kept c)) = path :=
    List.filter_eq_self.mpr fun c hc => decide_eq_true (hkept c hc)
  rw [List.filter_append, hself, List.filter_cons_of_pos (by decide),
    List.filter_cons_of_pos (by decide)]
  generalize ("auth2/connections/" ++ connectionId ++ "/token").toList = text
  have htail : ∀ d ∈ '/' :: 'o' :: text.filter (fun c => decide (PyUrl.Kept c)),
      PyUrl.Kept d := by
    intro d hd
    simp only [List.mem_cons] at hd
    rcases hd with rfl | rfl | hd
    · decide
    · decide
    · exact of_decide_eq_true (List.mem_filter.mp hd).2
  rcases hpath with rfl | ⟨c, rest, rfl, hc⟩
  · refine ⟨?_, ?_, htail⟩
    · intro d hd
      cases hd
      rfl
    · intro heq
      cases heq
  · refine ⟨?_, ?_, ?_⟩
    · intro d hd
      cases hd
      rfl
    · intro heq
      exact hc (List.cons.inj (List.cons.inj heq).2).1
    · intro d hd
      rcases List.mem_append.mp hd with hd | hd
      · exact hkept d hd
      · exact htail d hd

/-- Tokens for the providers of a user are asked for at Renku. -/
theorem leadsTo_of_getProviders (hservice : ServiceUrl rejects helper.service.url) {user : User}
    {providers : List GitProvider} (h : helper.getProviders rejects user = .ok providers)
    {p : GitProvider} (hp : p ∈ providers) :
    PyUrl.LeadsTo rejects https host p.accessTokenUrl := by
  rcases of_getProviders h with ⟨-, rfl⟩ | ⟨connections, internal, others, -, rfl, hinternal, hall⟩
  · cases hp
  · rcases List.mem_cons.mp hp with rfl | hp
    · exact leadsTo_of_internalTokenUrl hhost haccepted hrenku hinternal.tokenUrl
    · exact leadsTo_of_connectionTokenUrl hhost haccepted hrenku hservice
        (hall.connected p hp).tokenUrl

end Home

/-! ### One provider for an id -/

/-- The internal GitLab, or a provider that the user is connected to. -/
def Offers (rejects : List Char → Bool) (helper : GitProviderHelper) (user : User)
    (p : GitProvider) : Prop :=
  helper.IsInternal rejects p ∨ ∃ connections,
    helper.getOauth2Connections user = .ok connections ∧ helper.ConnectedBy rejects connections p

/-- No provider of the data service has the id of the internal GitLab. -/
def ReservesInternalId (helper : GitProviderHelper) (user : User) : Prop :=
  ∀ connections, helper.getOauth2Connections user = .ok connections →
    ∀ c ∈ connections, c.providerId ≠ internalGitlabProvider

theorem offers_of_getProviders {user : User} {providers : List GitProvider}
    (h : helper.getProviders rejects user = .ok providers) {p : GitProvider} (hp : p ∈ providers) :
    Offers rejects helper user p := by
  rcases of_getProviders h with
    ⟨-, rfl⟩ | ⟨connections, internal, others, hconnections, rfl, hinternal, hall⟩
  · cases hp
  · rcases List.mem_cons.mp hp with rfl | hp
    · exact Or.inl hinternal
    · exact Or.inr ⟨connections, hconnections, hall.connected p hp⟩

theorem ConnectedBy.ne_internal {user : User} {connections : List OAuth2Connection}
    {p : GitProvider} (h : helper.ConnectedBy rejects connections p)
    (hreserved : helper.ReservesInternalId user)
    (hconnections : helper.getOauth2Connections user = .ok connections) :
    p.id ≠ internalGitlabProvider := by
  obtain ⟨c, hfind, -⟩ := h.first
  have hid : c.providerId = p.id := by simpa using List.find?_some hfind
  rw [← hid]
  exact hreserved connections hconnections c (List.mem_of_find?_eq_some hfind)

theorem eq_of_id_eq {user : User} {providers : List GitProvider}
    (h : helper.getProviders rejects user = .ok providers)
    (hreserved : helper.ReservesInternalId user) {p q : GitProvider} (hp : p ∈ providers)
    (hq : q ∈ providers) (hid : p.id = q.id) : p = q := by
  rcases of_getProviders h with
    ⟨-, rfl⟩ | ⟨connections, internal, others, hconnections, rfl, hinternal, hall⟩
  · cases hp
  have hother : ∀ o ∈ others, o.id ≠ internal.id := by
    intro o ho
    rw [hinternal.id]
    exact (hall.connected o ho).ne_internal hreserved hconnections
  rcases List.mem_cons.mp hp with hp | hp <;> rcases List.mem_cons.mp hq with hq | hq
  · rw [hp, hq]
  · exact absurd (hid.symm.trans (congrArg _ hp)) (hother q hq)
  · exact absurd (hid.trans (congrArg _ hq)) (hother p hp)
  · exact List.inj_on_of_nodup_map hall.distinct hp hq hid

end GitProviderHelper

end RenkuNotebooks.Notebooks
