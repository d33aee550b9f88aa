import Mathlib.Data.Fintype.EquivFin
import Mathlib.Data.Set.Finite.Basic
import RenkuNotebooks.GitProxy.Handler

/-!
# Which requests get git credentials

A request goes to a repository when scheme, host and port agree and its path is the path of
the repository or lies below it. The proxy compares paths by a string prefix instead. This
file determines on which requests the two agree.
-/

namespace RenkuNotebooks.GitProxy

/-- The path of a repository without trailing slashes and without a `.git` suffix. -/
def repositoryBase (path : GoString) : GoString :=
  let trimmed := (path.reverse.dropWhile (· = '/')).reverse
  if ".git".toList.isSuffixOf trimmed then trimmed.take (trimmed.length - 4) else trimmed

/-- The path is the path of the repository, with or without `.git`, or continues it with a
slash. -/
def PathWithin (repoPath path : GoString) : Prop :=
  let base := repositoryBase repoPath
  path = base ∨ path = base ++ ".git".toList ∨ (base ++ ['/']) <+: path ∨
    (base ++ ".git/".toList) <+: path

instance (repoPath path : GoString) : Decidable (PathWithin repoPath path) := by
  unfold PathWithin
  infer_instance

/-- The request goes to the repository: same scheme, same host up to a leading `www.`, same
effective port, and a path within the repository. -/
def GoesTo (u repoURL : Url) : Prop :=
  u.scheme = repoURL.scheme ∧ stripWww u.hostname = stripWww repoURL.hostname ∧
    getPort u = getPort repoURL ∧ PathWithin repoURL.path u.path

/-- The request goes to some configured repository with a known provider. -/
def GoesToConfigured (parse : GoString → Option Url) (config : GitProxyConfig) (u : Url) : Prop :=
  ∃ repo ∈ config.repositories, ∃ repoURL, parse repo.url = some repoURL ∧ repo.provider ≠ "" ∧
    (∃ p ∈ config.providers, p.id = repo.provider) ∧ GoesTo u repoURL

/-- The string prefix test passes although the path leaves the repository: the prefix ends
inside a path segment, or the paths only agree after dropping leading slashes. -/
def PrefixOverreaches (repoPath path : GoString) : Prop :=
  trimLeftSlash repoPath <+: trimLeftSlash path ∧ ¬PathWithin repoPath path

/-- A request for the origin of the repository, on a host that goproxy selects, whose path
only overreaches the path of the repository. -/
def StraysPast (h : Handler) (u : Url) : Prop :=
  reqHostIs h.hosts u.host = true ∧ u.scheme = h.repoURL.scheme ∧
    stripWww u.hostname = stripWww h.repoURL.hostname ∧ getPort u = getPort h.repoURL ∧
    PrefixOverreaches h.repoURL.path u.path

lemma validGitRequest_iff (repoURL u : Url) :
    validGitRequest repoURL u = true ↔ u.scheme = repoURL.scheme ∧
      stripWww u.hostname = stripWww repoURL.hostname ∧ getPort u = getPort repoURL ∧
      trimLeftSlash repoURL.path <+: trimLeftSlash u.path := by
  simp only [validGitRequest, Bool.and_eq_true, beq_iff_eq, hostsMatch_iff,
    List.isPrefixOf_iff_prefix, and_assoc]

/-- A request accepted for a repository goes to it or strays past it. -/
lemma goesTo_or_straysPast {h : Handler} {u : Url} (hsel : reqHostIs h.hosts u.host = true)
    (hv : validGitRequest h.repoURL u = true) : GoesTo u h.repoURL ∨ StraysPast h u := by
  obtain ⟨hscheme, hhost, hport, hpath⟩ := (validGitRequest_iff h.repoURL u).mp hv
  by_cases hw : PathWithin h.repoURL.path u.path
  · exact Or.inl ⟨hscheme, hhost, hport, hw⟩
  · exact Or.inr ⟨hsel, hscheme, hhost, hport, hpath, hw⟩

lemma StraysPast.valid {h : Handler} {u : Url} (hs : StraysPast h u) :
    validGitRequest h.repoURL u = true :=
  (validGitRequest_iff h.repoURL u).mpr ⟨hs.2.1, hs.2.2.1, hs.2.2.2.1, hs.2.2.2.2.1⟩

/-- What a registered handler is for. -/
lemma goesToConfigured_of_handler {parse : GoString → Option Url} {config : GitProxyConfig}
    {h : Handler} {u : Url} (hmem : h ∈ getProxyHandler parse config) (hu : GoesTo u h.repoURL) :
    GoesToConfigured parse config u := by
  obtain ⟨_, repo, hrepo, hparse, hne, hprov, _⟩ := (mem_getProxyHandler_iff parse config h).mp hmem
  exact ⟨repo, hrepo, h.repoURL, hparse, hne, hprov, hu⟩

/-- With a token store that always answers, a selected and accepted request never leaves the
handlers without the header. -/
lemma filterRequest_injects (gitToken : String) (handlers : List Handler) (r : Request) (store : Unit)
    (hex : ("Authorization", "Basic " ++ gitToken) ∈ r.headers ∨
      ∃ h ∈ handlers, reqHostIs h.hosts r.url.host = true ∧ validGitRequest h.repoURL r.url = true) :
    ∃ r', filterRequest (fun s _ => (.ok gitToken, s)) handlers r store = (r', none, store) ∧
      ("Authorization", "Basic " ++ gitToken) ∈ r'.headers := by
  induction handlers generalizing r with
  | nil =>
    rcases hex with hin | ⟨h, hmem, _⟩
    · exact ⟨r, rfl, hin⟩
    · simp at hmem
  | cons k rest ih =>
    by_cases hk : reqHostIs k.hosts r.url.host = true
    · cases hv : validGitRequest k.repoURL r.url with
      | true =>
        -- the handler sets the header, and no later handler takes it away
        have hstep := ih { r with headers := setHeader r.headers "Authorization" ("Basic " ++ gitToken) }
          (Or.inl (by simp [setHeader]))
        simpa [filterRequest, hk, handlerFunc, hv] using hstep
      | false =>
        have hstep := ih r (by
          rcases hex with hin | ⟨h, hmem, hsel, hval⟩
          · exact Or.inl hin
          · rcases List.mem_cons.mp hmem with rfl | hrest
            · simp [hv] at hval
            · exact Or.inr ⟨h, hrest, hsel, hval⟩)
        simpa [filterRequest, hk, handlerFunc, hv] using hstep
    · have hstep := ih r (by
        rcases hex with hin | ⟨h, hmem, hsel, hval⟩
        · exact Or.inl hin
        · rcases List.mem_cons.mp hmem with rfl | hrest
          · exact absurd hsel hk
          · exact Or.inr ⟨h, hrest, hsel, hval⟩)
      simpa [filterRequest, hk] using hstep

/-- Whatever the token store answers, the request is forwarded with its headers unchanged. -/
def ForwardedUnchanged (parse : GoString → Option Url) (config : GitProxyConfig) (r : Request) : Prop :=
  ∀ (σ : Type) (getGitAccessToken : σ → String → Except String String × σ) (store : σ),
    (serve getGitAccessToken (getProxyHandler parse config) r store).1 = .forwarded r.headers

lemma forwardedUnchanged_of_none_valid {parse : GoString → Option Url} {config : GitProxyConfig}
    {r : Request} (h : ∀ k ∈ getProxyHandler parse config,
      reqHostIs k.hosts r.url.host = true → validGitRequest k.repoURL r.url = false) :
    ForwardedUnchanged parse config r := by
  intro σ getGitAccessToken store
  unfold serve
  split
  · rfl
  · rw [filterRequest_of_none_valid getGitAccessToken _ r store h]

lemma not_forwardedUnchanged_of_valid {parse : GoString → Option Url} {config : GitProxyConfig}
    {r : Request} {h : Handler} (hmem : h ∈ getProxyHandler parse config)
    (hsel : reqHostIs h.hosts r.url.host = true) (hv : validGitRequest h.repoURL r.url = true) :
    ¬ForwardedUnchanged parse config r := by
  intro hf
  -- a token whose header the client has not sent itself
  obtain ⟨gitToken, hfresh⟩ : ∃ t : String, ("Authorization", "Basic " ++ t) ∉ r.headers := by
    have hinj : Function.Injective (fun t : String => ("Authorization", "Basic " ++ t)) := by
      intro a b hab
      have h' : ("Basic " ++ a).toList = ("Basic " ++ b).toList := by
        rw [(Prod.mk.inj hab).2]
      exact String.toList_inj.mp (by simpa using h')
    have hfin : Set.Finite {t : String | ("Authorization", "Basic " ++ t) ∈ r.headers} :=
      (List.finite_toSet r.headers).preimage hinj.injOn
    obtain ⟨t, _, ht⟩ := Set.infinite_univ.exists_notMem_finite hfin
    exact ⟨t, ht⟩
  have hout := hf Unit (fun s _ => (.ok gitToken, s)) ()
  obtain ⟨r', hr', hin⟩ := filterRequest_injects gitToken _ r () (Or.inr ⟨h, hmem, hsel, hv⟩)
  have hmitm : interceptsConnect (getProxyHandler parse config) r.url.host = true := by
    simp only [interceptsConnect, List.any_eq_true]
    exact ⟨h, hmem, hsel⟩
  simp only [serve, hmitm, Bool.true_eq_false, and_false, if_false, hr', Outcome.forwarded.injEq] at hout
  rw [hout] at hin
  exact hfresh hin

/-- **Credentials only for configured repositories.** The proxy leaves every request that
goes to no configured repository alone, exactly when the prefix test of no selected handler
accepts a path outside its repository. -/
theorem forwardedUnchanged_unless_configured_iff (parse : GoString → Option Url)
    (config : GitProxyConfig) (r : Request) :
    (¬GoesToConfigured parse config r.url → ForwardedUnchanged parse config r) ↔
      ∀ h ∈ getProxyHandler parse config, StraysPast h r.url → GoesToConfigured parse config r.url := by
  constructor
  · intro hclaim h hmem hs
    by_contra hno
    exact not_forwardedUnchanged_of_valid hmem hs.1 hs.valid (hclaim hno)
  · intro hcond hno
    refine forwardedUnchanged_of_none_valid (fun h hmem hsel => ?_)
    by_contra hv
    rcases goesTo_or_straysPast hsel (by simpa using hv) with hgo | hs
    · exact hno (goesToConfigured_of_handler hmem hgo)
    · exact hno (hcond h hmem hs)

/-! ### What overreaching looks like -/

/-- For a path that starts with one slash and has no trailing slash or `.git`, the prefix test
overreaches exactly when the request continues the last segment. -/
theorem prefixOverreaches_iff_continues_segment {c : Char} {repoPath path : GoString}
    (hc : c ≠ '/') (hbase : repositoryBase ('/' :: c :: repoPath) = '/' :: c :: repoPath)
    (hpath : path.head? ≠ some '/') :
    PrefixOverreaches ('/' :: c :: repoPath) ('/' :: path) ↔
      ∃ rest, path = c :: repoPath ++ rest ∧ rest ≠ [] ∧ rest ≠ ".git".toList ∧
        ¬['/'] <+: rest ∧ ¬".git/".toList <+: rest := by
  have hdrop : trimLeftSlash ('/' :: path) = path := by
    cases path with
    | nil => rfl
    | cons d t =>
      have hd : d ≠ '/' := by simpa using hpath
      simp [trimLeftSlash, hd]
  have hrepo : trimLeftSlash ('/' :: c :: repoPath) = c :: repoPath := by
    simp [trimLeftSlash, hc]
  unfold PrefixOverreaches PathWithin
  rw [hdrop, hrepo, hbase]
  constructor
  · rintro ⟨⟨rest, rfl⟩, hout⟩
    refine ⟨rest, rfl, ?_, ?_, ?_, ?_⟩
    · rintro rfl
      exact hout (Or.inl (by simp))
    · rintro rfl
      exact hout (Or.inr (Or.inl (by simp)))
    · rintro ⟨t, rfl⟩
      exact hout (Or.inr (Or.inr (Or.inl ⟨t, by simp⟩)))
    · rintro ⟨t, rfl⟩
      exact hout (Or.inr (Or.inr (Or.inr ⟨t, by simp⟩)))
  · rintro ⟨rest, rfl, hne, hgit, hslash, hgitSlash⟩
    refine ⟨⟨rest, rfl⟩, ?_⟩
    rintro (h | h | ⟨t, h⟩ | ⟨t, h⟩)
    · exact hne (by simpa using h)
    · exact hgit (by simpa using h)
    · exact hslash ⟨t, by simpa using h⟩
    · exact hgitSlash ⟨t, by simpa using h⟩

/-- The fork of a repository under a longer name of the same owner. -/
def siblingRequest : Request :=
  ⟨⟨"https".toList, "gitlab.com:443".toList, "/group/data-private/info/refs".toList⟩, []⟩

def singleRepositoryConfig : GitProxyConfig :=
  ⟨false, [⟨"https://gitlab.com/group/data".toList, "gitlab"⟩], [⟨"gitlab", "https://renku/token"⟩]⟩

def singleRepositoryParse (s : GoString) : Option Url :=
  if s = "https://gitlab.com/group/data".toList then
    some ⟨"https".toList, "gitlab.com".toList, "/group/data".toList⟩
  else none

/-- The sibling goes to no configured repository and still receives the git token. -/
theorem sibling_receives_credentials :
    ¬GoesToConfigured singleRepositoryParse singleRepositoryConfig siblingRequest.url ∧
      (serve (fun (s : Unit) _ => (.ok "token", s))
        (getProxyHandler singleRepositoryParse singleRepositoryConfig) siblingRequest ()).1 =
      .forwarded [("Authorization", "Basic token")] := by
  constructor
  · rintro ⟨repo, hrepo, repoURL, hparse, _, _, _, _, _, hpath⟩
    have hr : repo = ⟨"https://gitlab.com/group/data".toList, "gitlab"⟩ := by
      simpa [singleRepositoryConfig] using hrepo
    subst hr
    have hu : repoURL = ⟨"https".toList, "gitlab.com".toList, "/group/data".toList⟩ := by
      simpa [singleRepositoryParse] using hparse.symm
    subst hu
    revert hpath
    decide
  · decide

end RenkuNotebooks.GitProxy
