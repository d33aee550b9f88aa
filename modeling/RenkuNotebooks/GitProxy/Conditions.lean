import RenkuNotebooks.GitProxy.Injection

/-!
# The goproxy conditions against the proxy's own match

A handler sees a request only if the goproxy conditions registered for its repository
hold, and these list four literal host strings. The handler itself compares parsed URLs. This
file determines on which accepted requests the conditions hold.
-/

namespace RenkuNotebooks.GitProxy

/-- The conditions registered for a repository select the request: its CONNECT is intercepted,
if it comes through one, and its handler is called. -/
def Selects (h : Handler) (u : Url) : Prop :=
  (u.scheme = "https".toList → interceptsConnect [h] u.host = true) ∧
    reqHostIs h.hosts u.host = true

/-- The authority is a bare host name, or one with port 443, and the name is that of the
repository or that of the repository after `www.`. -/
def PlainAuthority (repoURL u : Url) : Prop :=
  (u.host = u.hostname ∨ u.host = u.hostname ++ ":443".toList) ∧
    (u.hostname = repoURL.hostname ∨ u.hostname = www ++ repoURL.hostname)

lemma selects_iff (h : Handler) (u : Url) : Selects h u ↔ reqHostIs h.hosts u.host = true := by
  constructor
  · exact And.right
  · intro hreq
    exact ⟨fun _ => by simpa [interceptsConnect] using hreq, hreq⟩

lemma reqHostIs_conditionHosts_iff (repoURL : Url) (host : GoString) :
    reqHostIs (conditionHosts repoURL) host = true ↔
      host = repoURL.hostname ∨ host = www ++ repoURL.hostname ∨
        host = repoURL.hostname ++ ":443".toList ∨ host = www ++ repoURL.hostname ++ ":443".toList := by
  simp [reqHostIs, conditionHosts]

lemma stripBrackets_cases (host : GoString) :
    stripBrackets host = host ∨ host = '[' :: stripBrackets host ++ [']'] := by
  by_cases h : host.head? = some '[' ∧ host.getLast? = some ']'
  · right
    obtain ⟨hhead, hlast⟩ := h
    cases host with
    | nil => simp at hhead
    | cons c t =>
      have hc : c = '[' := by simpa using hhead
      subst hc
      have ht : t ≠ [] := by
        rintro rfl
        simp at hlast
      have hl : t.getLast ht = ']' := by
        rw [List.getLast?_cons_of_ne_nil ht] at hlast
        simpa [List.getLast?_eq_some_getLast ht] using hlast
      have hsplit := List.dropLast_append_getLast ht
      rw [hl] at hsplit
      have hlast' : ('[' :: t).getLast? = some ']' := hlast
      simp [stripBrackets, hlast', hsplit]
  · left
    simp [stripBrackets, h]

/-- The host string is the host name, possibly in brackets, possibly with a port. -/
lemma hostname_cases (u : Url) :
    ∃ core, u.hostname = stripBrackets core ∧
      (u.host = core ∨ ∃ port : GoString, port.all Char.isDigit = true ∧ u.host = core ++ ':' :: port) := by
  unfold Url.hostname splitHostPort
  cases hcut : cutLastColon u.host with
  | none => exact ⟨u.host, rfl, Or.inl rfl⟩
  | some p =>
    obtain ⟨host, port⟩ := p
    by_cases hd : port.all Char.isDigit = true
    · exact ⟨host, by simp [hd], Or.inr ⟨port, hd, cutLastColon_eq_some hcut⟩⟩
    · exact ⟨u.host, by simp [hd], Or.inl rfl⟩

lemma hostname_of_host_443 {u : Url} {core : GoString} (h : u.host = core ++ ":443".toList) :
    u.hostname = stripBrackets core := by
  have hcut : cutLastColon u.host = some (core, "443".toList) := by
    rw [h]
    exact cutLastColon_append core "443".toList (by decide)
  unfold Url.hostname splitHostPort
  rw [hcut]
  have hd : "443".toList.all Char.isDigit = true := by decide
  simp only [hd, if_true]

/-- Two host names that agree up to a leading `www.` differ by at most that. -/
lemma stripWww_eq_cases {a b : GoString} (h : stripWww a = stripWww b) :
    a = b ∨ a = www ++ b ∨ b = www ++ a := by
  cases ha : www.isPrefixOf a <;> cases hb : www.isPrefixOf b
  · left
    rwa [stripWww_of_not_www ha, stripWww_of_not_www hb] at h
  · right; right
    rw [stripWww_of_not_www ha] at h
    rw [h]
    exact eq_append_stripWww hb
  · right; left
    rw [stripWww_of_not_www hb] at h
    rw [← h]
    exact eq_append_stripWww ha
  · left
    rw [eq_append_stripWww ha, eq_append_stripWww hb, h]

/-- A host name in brackets agrees with nothing that it encloses. -/
lemma not_stripWww_eq_bracketed {name : GoString} (rest : GoString)
    (h : stripWww name = stripWww ('[' :: name ++ ']' :: rest)) : False := by
  rcases stripWww_eq_cases h with h | h | h
  · have := congrArg List.length h
    simp at this
    omega
  · have := congrArg List.length h
    simp [www] at this
    omega
  · simp [www] at h

/-- A port is not part of a host name that agrees with the name before it. -/
lemma append_port_ne_append_www {name port : GoString} (hp : port.all Char.isDigit = true)
    {l : GoString} (hl : ':' ∉ l) : l ++ name ≠ name ++ ':' :: port := by
  intro h
  have hport : ':' ∉ port := by
    intro hin
    have hdig := List.all_eq_true.mp hp ':' hin
    exact absurd hdig (by decide)
  have hcount := congrArg (List.count ':') h
  simp [List.count_append, List.count_eq_zero_of_not_mem hl, List.count_eq_zero_of_not_mem hport] at hcount

lemma colon_not_mem_www : ':' ∉ www := by decide

lemma plainAuthority_of_host_eq {repoURL u : Url} (hhost : stripWww u.hostname = stripWww repoURL.hostname)
    (h : u.host = repoURL.hostname) : PlainAuthority repoURL u := by
  obtain ⟨core, hname, hcore⟩ := hostname_cases u
  rcases stripBrackets_cases core with hb | hb
  · rw [hb] at hname
    rcases hcore with hcore | ⟨port, hp, hcore⟩
    · have he : u.hostname = u.host := by rw [hname, hcore]
      exact ⟨Or.inl he.symm, Or.inl (by rw [he, h])⟩
    · -- the port would have to belong to the name of the repository
      exfalso
      rw [h, ← hname] at hcore
      rw [hcore] at hhost
      rcases stripWww_eq_cases hhost with hc | hc | hc
      · simp at hc
      · have := congrArg List.length hc
        simp at this
        omega
      · exact append_port_ne_append_www hp colon_not_mem_www hc.symm
  · exfalso
    rw [← hname] at hb
    rcases hcore with hcore | ⟨port, _, hcore⟩
    · rw [← h, hcore, hb] at hhost
      exact not_stripWww_eq_bracketed [] (by simpa using hhost)
    · rw [← h, hcore, hb] at hhost
      exact not_stripWww_eq_bracketed (':' :: port) (by simpa using hhost)

lemma stripBrackets_www_append (host : GoString) : stripBrackets (www ++ host) = www ++ host := by
  simp [stripBrackets, www]

lemma plainAuthority_of_host_eq_www {repoURL u : Url}
    (hhost : stripWww u.hostname = stripWww repoURL.hostname)
    (h : u.host = www ++ repoURL.hostname) : PlainAuthority repoURL u := by
  obtain ⟨core, hname, hcore⟩ := hostname_cases u
  rcases hcore with hcore | ⟨port, hp, hcore⟩
  · have he : u.hostname = u.host := by
      rw [hname, ← hcore, h, stripBrackets_www_append]
    exact ⟨Or.inl he.symm, Or.inr (by rw [he, h])⟩
  · exfalso
    rcases stripBrackets_cases core with hb | hb
    · rw [h, ← hb, ← hname] at hcore
      rcases stripWww_eq_cases hhost with hc | hc | hc
      · rw [← hc] at hcore
        exact append_port_ne_append_www hp colon_not_mem_www hcore
      · rw [← hc] at hcore
        simp at hcore
      · rw [hc, ← List.append_assoc] at hcore
        exact append_port_ne_append_www hp (by decide) hcore
    · rw [h, hb] at hcore
      simp [www] at hcore

/-- **The conditions and the match.** Among the requests that the handler of a repository
accepts, goproxy hands it exactly those with a plain authority. -/
theorem selects_accepted_iff_plainAuthority (parse : GoString → Option Url) (config : GitProxyConfig)
    (h : Handler) (hmem : h ∈ getProxyHandler parse config) (u : Url)
    (hv : validGitRequest h.repoURL u = true) : Selects h u ↔ PlainAuthority h.repoURL u := by
  obtain ⟨_, _, _, _, _, _, _, hhosts⟩ := (mem_getProxyHandler_iff parse config h).mp hmem
  obtain ⟨_, hhost, _⟩ := (validGitRequest_iff h.repoURL u).mp hv
  rw [selects_iff, hhosts, reqHostIs_conditionHosts_iff]
  constructor
  · rintro (heq | heq | heq | heq)
    · exact plainAuthority_of_host_eq hhost heq
    · exact plainAuthority_of_host_eq_www hhost heq
    · have hname := hostname_of_host_443 heq
      rcases stripBrackets_cases h.repoURL.hostname with hb | hb
      · rw [hb] at hname
        exact ⟨Or.inr (by rw [heq, hname]), Or.inl hname⟩
      · exfalso
        rw [← hname] at hb
        rw [hb] at hhost
        exact not_stripWww_eq_bracketed [] (by simpa using hhost)
    · have hname := hostname_of_host_443 heq
      rw [stripBrackets_www_append] at hname
      exact ⟨Or.inr (by rw [heq, hname]), Or.inr hname⟩
  · rintro ⟨hauth | hauth, hname | hname⟩
    · exact Or.inl (hauth.trans hname)
    · exact Or.inr (Or.inl (hauth.trans hname))
    · exact Or.inr (Or.inr (Or.inl (by rw [hauth, hname])))
    · exact Or.inr (Or.inr (Or.inr (by rw [hauth, hname])))

/-- The handler of `singleRepositoryConfig`. -/
def singleRepository : Handler :=
  let repoURL : Url := ⟨"https".toList, "gitlab.com".toList, "/group/data".toList⟩
  ⟨repoURL, "gitlab", conditionHosts repoURL⟩

/-- A fetch through the tunnel to port 443, addressed to the host with `www.`. -/
def fetchUrl : Url := ⟨"https".toList, "www.gitlab.com:443".toList, "/group/data/info/refs".toList⟩

theorem fetch_selects_iff_plainAuthority :
    Selects singleRepository fetchUrl ↔ PlainAuthority singleRepository.repoURL fetchUrl :=
  selects_accepted_iff_plainAuthority singleRepositoryParse singleRepositoryConfig singleRepository
    (by decide) fetchUrl (by decide)

/-- Once selected, an accepted request leaves the proxy with the git token. -/
theorem selected_request_is_authorized {parse : GoString → Option Url} {config : GitProxyConfig}
    {h : Handler} (hmem : h ∈ getProxyHandler parse config) {r : Request}
    (hv : validGitRequest h.repoURL r.url = true) (hsel : Selects h r.url) (gitToken : String) :
    ∃ headers, (serve (fun s _ => (.ok gitToken, s)) (getProxyHandler parse config) r ()).1 =
      .forwarded headers ∧ ("Authorization", "Basic " ++ gitToken) ∈ headers := by
  have hreq := (selects_iff h r.url).mp hsel
  obtain ⟨r', hr', hin⟩ := filterRequest_injects gitToken _ r () (Or.inr ⟨h, hmem, hreq, hv⟩)
  have hmitm : interceptsConnect (getProxyHandler parse config) r.url.host = true := by
    simp only [interceptsConnect, List.any_eq_true]
    exact ⟨h, hmem, hreq⟩
  exact ⟨r'.headers, by simp [serve, hmitm, hr'], hin⟩

/-- A repository on its own port. -/
def portRepository : Handler :=
  let repoURL : Url := ⟨"https".toList, "git.example.org:8443".toList, "/group/data".toList⟩
  ⟨repoURL, "gitlab", conditionHosts repoURL⟩

def portRepositoryConfig : GitProxyConfig :=
  ⟨false, [⟨"https://git.example.org:8443/group/data".toList, "gitlab"⟩],
    [⟨"gitlab", "https://renku/token"⟩]⟩

/-- The request for the repository itself is accepted by the match and never selected. -/
theorem port_repository_not_selected :
    portRepository ∈ getProxyHandler (fun _ => some portRepository.repoURL) portRepositoryConfig ∧
      validGitRequest portRepository.repoURL portRepository.repoURL = true ∧
      ¬Selects portRepository portRepository.repoURL := by
  refine ⟨by decide, by decide, ?_⟩
  rw [selects_iff]
  decide

end RenkuNotebooks.GitProxy
