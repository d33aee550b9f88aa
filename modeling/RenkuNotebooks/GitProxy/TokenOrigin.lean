import RenkuNotebooks.Foundation.Runs
import RenkuNotebooks.GitProxy.TokenSteps

/-!
# Where the tokens come from

A returned token comes from the access token URL of its provider; it had not expired when the
call checked it, or it was obtained after that. A refresh request carries the refresh token that
was received last.
-/

namespace RenkuNotebooks.GitProxy.TokenStore

open Prog

section Statement

variable (s : TokenStore) {ι : Type} [DecidableEq ι] (calls : ι → TokenCall)

/-- An exchange at the URL has delivered the token set. -/
def ObtainedAt (url : String) (tokenSet : TokenSet)
    (e : Event (Option ι) StoreCall StoreCall.Reply) : Prop :=
  ∃ t request answer, e = ⟨t, .exchange request, answer⟩ ∧ request.url = url ∧
    exchanged answer = .ok tokenSet

/-- What the goroutine has done itself; a call begins with its check. -/
def ownEvents (t : Option ι) (events : Trace ι) : Trace ι := events.filter (·.thread = t)

/-- The check of the call has found the token set, and it had not expired at the time of the
check. -/
def UnexpiredAtCheck (i : ι) (p : String) (tokenSet : TokenSet) (events : Trace ι) : Prop :=
  (ownEvents (some i) events)[0]? = some ⟨some i, .readGit p, some tokenSet⟩ ∧
    (tokenSet.expiresAt ≤ 0 ∨ ∃ now, (ownEvents (some i) events)[1]? = some ⟨some i, .now, now⟩ ∧
      s.expiredAt now tokenSet = false)

/-- The token set was obtained for the provider after the check of the call. -/
def ObtainedAfterCheck (i : ι) (p : String) (tokenSet : TokenSet) (events : Trace ι) : Prop :=
  ∃ n e, events[n]? = some e ∧ ObtainedAt (s.accessTokenUrl p) tokenSet e ∧
    ownEvents (some i) (events.take n) ≠ []

def ReturnsOwnTokens (pool : StorePool ι) : Prop :=
  ∀ i result, pool.threads (some i) = .ret result → ∃ tokenSet,
    result = some (rendered (calls i).encode (some tokenSet)) ∧
    (∃ e ∈ pool.trace, ObtainedAt (s.accessTokenUrl (calls i).provider) tokenSet e) ∧
    (s.UnexpiredAtCheck i (calls i).provider tokenSet pool.trace ∨
      s.ObtainedAfterCheck i (calls i).provider tokenSet pool.trace)

/-- The refresh token that an answer delivers. -/
def received? : Event (Option ι) StoreCall StoreCall.Reply → Option String
  | ⟨_, .refreshRenku, refresh⟩ =>
    match refreshed refresh.answer with
    | .ok res => if res.refreshToken ≠ "" then some res.refreshToken else none
    | .error _ => none
  | _ => none

/-- The refresh tokens in the order in which they came, first the one of the configuration. -/
def refreshTokens (events : Trace ι) : List String :=
  s.renkuRefreshToken :: events.filterMap received?

omit [DecidableEq ι] in
theorem refreshTokens_ne_nil (events : Trace ι) : s.refreshTokens events ≠ [] :=
  List.cons_ne_nil _ _

def latestRefreshToken (events : Trace ι) : String :=
  (s.refreshTokens events).getLast (s.refreshTokens_ne_nil events)

/-- Every refresh request carries the refresh token that was received last; if each one is new,
it carries none that was replaced. -/
def SendsLatest (events : Trace ι) : Prop :=
  ∀ n t refresh, events[n]? = some ⟨t, .refreshRenku, refresh⟩ →
    refresh.request = s.refreshRequest (s.latestRefreshToken (events.take n)) ∧
    ((s.refreshTokens (events.take n)).Nodup → ∀ token ∈ (s.refreshTokens (events.take n)).dropLast,
      refresh.request ≠ s.refreshRequest token)

end Statement

section Sending

variable {s : TokenStore} {ι : Type} {events : Trace ι}

theorem refreshRequest_injective (s : TokenStore) {token token' : String}
    (h : s.refreshRequest token = s.refreshRequest token') : token = token' := by
  have hform := congrArg HttpRequest.form h
  simpa [refreshRequest] using hform

theorem sendsLatest_append {e : Event (Option ι) StoreCall StoreCall.Reply}
    (h : s.SendsLatest events)
    (he : ∀ t refresh, e = ⟨t, .refreshRenku, refresh⟩ →
      refresh.request = s.refreshRequest (s.latestRefreshToken events)) :
    s.SendsLatest (events ++ [e]) := by
  intro n t refresh hn
  rcases Nat.lt_trichotomy n events.length with hlt | rfl | hgt
  · rw [List.getElem?_append_left hlt] at hn
    rw [List.take_append_of_le_length hlt.le]
    exact h n t refresh hn
  · rw [List.getElem?_concat_length] at hn
    rw [List.take_left]
    have hrequest := he t refresh (Option.some.inj hn)
    refine ⟨hrequest, fun hnodup token htoken hsame => ?_⟩
    rw [hrequest] at hsame
    have hlast : token = (s.refreshTokens events).getLast (s.refreshTokens_ne_nil events) :=
      (s.refreshRequest_injective hsame).symm
    rw [← List.dropLast_append_getLast (s.refreshTokens_ne_nil events)] at hnodup
    have hdisjoint := (List.nodup_append.mp hnodup).2.2 token htoken
    exact hdisjoint _ (List.mem_singleton_self _) hlast
  · have hlength : (events ++ [e]).length ≤ n := by
      rw [List.length_append, List.length_singleton]
      omega
    rw [List.getElem?_eq_none hlength] at hn
    cases hn

theorem latestRefreshToken_append (e : Event (Option ι) StoreCall StoreCall.Reply) :
    s.latestRefreshToken (events ++ [e]) = (received? e).getD (s.latestRefreshToken events) := by
  unfold latestRefreshToken refreshTokens
  cases hreceived : received? e with
  | none => simp [List.filterMap_append, hreceived]
  | some token => simp [List.filterMap_append, hreceived]

end Sending

section Proof

variable {s : TokenStore} {ι : Type} [DecidableEq ι] {calls : ι → TokenCall} {m : StoreMove ι}
  {pool pool' : StorePool ι} {c : StoreCall} {events : Trace ι}

theorem ObtainedAfterCheck.append {i : ι} {p : String} {tokenSet : TokenSet}
    (h : s.ObtainedAfterCheck i p tokenSet events) (more : Trace ι) :
    s.ObtainedAfterCheck i p tokenSet (events ++ more) := by
  obtain ⟨n, e, hn, he, hchecked⟩ := h
  obtain ⟨hlt, -⟩ := List.getElem?_eq_some_iff.mp hn
  refine ⟨n, e, ?_, he, ?_⟩
  · rw [List.getElem?_append_left hlt, hn]
  · rw [List.take_append_of_le_length hlt.le]
    exact hchecked

/-- The events of a check. -/
def eventsOf (i : ι) (p : String) (check : Check) : Trace ι :=
  ⟨some i, .readGit p, check.seen⟩ :: (check.clock.elim [] fun now => [⟨some i, .now, now⟩])

/-- The check of a call that has found its token set or a new one. -/
def checkOf : Phase → Option Check
  | .checked c => some c
  | .locked c => some c
  | .obtained c _ => some c
  | .stored c => some c
  | .renewed c => some c
  | .answered c _ => some c
  | _ => none

/-- What a call has done so far. -/
structure Recorded (i : ι) (own : Trace ι) (q : Progress) : Prop where
  idle : q.phase = .idle ↔ own = []
  checked : ∀ check, q.phase = .checked check → own = eventsOf i q.provider check
  check : ∀ check, checkOf q.phase = some check → eventsOf i q.provider check <+: own

omit [DecidableEq ι] in
theorem Recorded.extend {i : ι} {own : Trace ι} {q q' : Progress} (h : Recorded i own q)
    (hprovider : q'.provider = q.provider) (hidle : q'.phase ≠ .idle)
    (hchecked : ∀ check, q'.phase ≠ .checked check)
    (hcheck : ∀ check, checkOf q'.phase = some check → checkOf q.phase = some check)
    (e : Event (Option ι) StoreCall StoreCall.Reply) : Recorded i (own ++ [e]) q' := by
  refine ⟨by simp [hidle], fun check hphase => absurd hphase (hchecked check), ?_⟩
  intro check hphase
  rw [hprovider]
  exact (h.check check (hcheck check hphase)).trans (List.prefix_append own [e])

omit [DecidableEq ι] in
theorem Recorded.next {i : ι} {own : Trace ι} {env : StoreEnv} {st : StoreState} {q q' : Progress}
    (h : Recorded i own q) (htransition : s.Transition env st q c q') :
    Recorded i (own ++ [⟨some i, c, (s.serve env c st).1⟩]) q' := by
  cases htransition with
  | check =>
    have hown : own = [] := h.idle.mp rfl
    subst hown
    refine ⟨by simp, ?_, ?_⟩
    · rintro check ⟨⟩
      rfl
    · rintro check ⟨⟩
      exact List.prefix_rfl
  | clock =>
    have hown := h.checked _ rfl
    subst hown
    refine ⟨by simp, ?_, ?_⟩
    · rintro check ⟨⟩
      rfl
    · rintro check ⟨⟩
      exact List.prefix_rfl
  | renkuClock hphase =>
    apply h.extend
    · rfl
    · rintro rfl
      simp [ChecksRenku] at hphase
    · rintro check rfl
      simp [ChecksRenku] at hphase
    · exact fun _ h => h
  | answer hphase =>
    apply h.extend
    · rfl
    · nofun
    · nofun
    · intro check hcheck
      obtain ⟨rfl, -⟩ | rfl := hphase <;> exact hcheck
  | _ =>
    apply h.extend
    · rfl
    · nofun
    · nofun
    · first | exact fun _ h => h | nofun

theorem ownEvents_concat (t : Option ι) (events : Trace ι)
    (e : Event (Option ι) StoreCall StoreCall.Reply) :
    ownEvents t (events ++ [e]) =
      if e.thread = t then ownEvents t events ++ [e] else ownEvents t events := by
  unfold ownEvents
  rw [List.filter_append]
  split
  · next he => simp [he]
  · next he => simp [he]

/-- The stored token set of the provider was obtained after the check of the call. -/
def HasNew (s : TokenStore) (st : StoreState) (i : ι) (p : String) (events : Trace ι) : Prop :=
  ∃ tokenSet, st.tokens.gitAccessTokens p = some tokenSet ∧
    s.ObtainedAfterCheck i p tokenSet events

/-- Where the token set comes from that a call has found, or will find. -/
def Sourced (s : TokenStore) (st : StoreState) (i : ι) (events : Trace ι) (q : Progress) : Prop :=
  match q.phase with
  | .checked check => st.tokens.gitAccessTokens q.provider = check.seen ∨
    HasNew s st i q.provider events
  | .stored _ => HasNew s st i q.provider events
  | .renewed _ => HasNew s st i q.provider events
  | .answered check tokenSet => ∃ set, tokenSet = some set ∧
    (∃ e ∈ events, ObtainedAt (s.accessTokenUrl q.provider) set e) ∧
    (check.seen = some set ∧ s.Current check ∨ s.ObtainedAfterCheck i q.provider set events)
  | _ => True

structure Sources (s : TokenStore) (calls : ι → TokenCall) (pool : StorePool ι) : Prop where
  obedient : s.Obedient calls pool
  locking : s.Locking calls pool
  recorded : ∀ i, Recorded i (ownEvents (some i) pool.trace) (s.progress calls (some i) pool.trace)
  git : ∀ p tokenSet, pool.state.tokens.gitAccessTokens p = some tokenSet →
    ∃ e ∈ pool.trace, ObtainedAt (s.accessTokenUrl p) tokenSet e
  obtained : ∀ t check tokenSet, (s.progress calls t pool.trace).phase = .obtained check tokenSet →
    (∃ e ∈ pool.trace, ObtainedAt (s.accessTokenUrl (s.progress calls t pool.trace).provider)
      tokenSet e) ∧
    ∀ i, (s.progress calls (some i) pool.trace).phase ≠ .idle →
      s.ObtainedAfterCheck i (s.progress calls t pool.trace).provider tokenSet pool.trace
  sourced : ∀ i, Sourced s pool.state i pool.trace (s.progress calls (some i) pool.trace)
  refresh : pool.state.tokens.renkuRefreshToken = s.latestRefreshToken pool.trace
  sends : s.SendsLatest pool.trace

omit [DecidableEq ι] in
/-- A goroutine comes to hold a new token set by an exchange only. -/
theorem exchange_of_obtained {env : StoreEnv} {st : StoreState} {q q' : Progress}
    (h : s.Transition env st q c q') {check : Check} {tokenSet : TokenSet}
    (hphase : q'.phase = .obtained check tokenSet) :
    ∃ token, c = .exchange (s.exchangeRequest q.provider token) ∧ q'.provider = q.provider ∧
      q.phase = .locked check ∧
      exchanged (env.answer (s.exchangeRequest q.provider token)) = .ok tokenSet := by
  cases h with
  | exchange hok =>
    cases hphase
    exact ⟨_, rfl, rfl, rfl, hok⟩
  | renkuClock hchecks =>
    obtain ⟨_, rfl⟩ | rfl := hchecks <;> cases hphase
  | _ => cases hphase

/-- What a step does to the token set of a provider. -/
theorem Served.git_cases (hs : s.Served calls m pool pool' c) (p : String) :
    pool'.state.tokens.gitAccessTokens p = pool.state.tokens.gitAccessTokens p ∨
    ∃ check tokenSet, (s.progress calls m.1 pool.trace).phase = .obtained check tokenSet ∧
      (s.progress calls m.1 pool.trace).provider = p ∧
      pool'.state.tokens.gitAccessTokens p = some tokenSet := by
  rw [hs.state]
  obtain htokens | ⟨check, tokenSet, hphase, rfl⟩ | rfl := hs.transition.tokens_cases
  · rw [htokens]
    exact .inl rfl
  · by_cases hp : p = (s.progress calls m.1 pool.trace).provider
    · subst hp
      exact .inr ⟨check, tokenSet, hphase, rfl, Tokens.store_self _ _ _⟩
    · left
      rw [serve, Tokens.store_of_ne _ _ hp]
  · left
    rw [serve, Tokens.refresh_git]

theorem Sources.recorded_step (h : s.Sources calls pool) (hs : s.Served calls m pool pool' c)
    (i : ι) :
    Recorded i (ownEvents (some i) pool'.trace) (s.progress calls (some i) pool'.trace) := by
  by_cases hi : some i = m.1
  · have hown := ownEvents_concat (some i) pool.trace ⟨some i, c, (s.serve m.2 c pool.state).1⟩
    rw [if_pos rfl] at hown
    have htransition := hs.transition
    have htrace := hs.trace
    rw [← hi] at htransition htrace
    rw [← htrace] at hown
    rw [hown]
    exact (h.recorded i).next htransition
  · have hown : ownEvents (some i) pool'.trace = ownEvents (some i) pool.trace := by
      rw [hs.trace, ownEvents_concat, if_neg (Ne.symm hi)]
    rw [hown, hs.others _ hi]
    exact h.recorded i

theorem Sources.git_step (h : s.Sources calls pool) (hs : s.Served calls m pool pool' c)
    (p : String) (tokenSet : TokenSet)
    (hget : pool'.state.tokens.gitAccessTokens p = some tokenSet) :
    ∃ e ∈ pool'.trace, ObtainedAt (s.accessTokenUrl p) tokenSet e := by
  have hold : ∃ e ∈ pool.trace, ObtainedAt (s.accessTokenUrl p) tokenSet e := by
    obtain hsame | ⟨check, set, hphase, rfl, hset⟩ := hs.git_cases p
    · exact h.git p tokenSet (hsame ▸ hget)
    · rw [hset] at hget
      cases hget
      exact (h.obtained _ _ _ hphase).1
  obtain ⟨e, he, hobtained⟩ := hold
  rw [hs.trace]
  exact ⟨e, List.mem_append_left _ he, hobtained⟩

/-- Where the lock is held, no call makes its check. -/
theorem Served.idle_eq (hs : s.Served calls m pool pool' c) (hlocking : s.Locking calls pool)
    {t : Option ι} (hholds : (s.progress calls t pool.trace).phase.holdsLock = true) {i : ι}
    (hi : (s.progress calls (some i) pool'.trace).phase ≠ .idle) :
    (s.progress calls (some i) pool.trace).phase ≠ .idle := by
  intro hidle
  by_cases hthis : some i = m.1
  · rw [hthis] at hidle
    have hallowed := hs.allowed
    have hread : c.takesGitLock = true := by
      cases c <;> simp_all [Allowed, StoreCall.takesGitLock]
    have hlocked := hlocking.held t hholds
    rw [hs.unlocked hread] at hlocked
    cases hlocked
  · rw [hs.others _ hthis] at hi
    exact hi hidle

theorem Sources.obtained_step (h : s.Sources calls pool) (hs : s.Served calls m pool pool' c)
    (t : Option ι) (check : Check) (tokenSet : TokenSet)
    (hphase : (s.progress calls t pool'.trace).phase = .obtained check tokenSet) :
    (∃ e ∈ pool'.trace, ObtainedAt (s.accessTokenUrl (s.progress calls t pool'.trace).provider)
      tokenSet e) ∧
    ∀ i, (s.progress calls (some i) pool'.trace).phase ≠ .idle →
      s.ObtainedAfterCheck i (s.progress calls t pool'.trace).provider tokenSet pool'.trace := by
  by_cases ht : t = m.1
  · subst ht
    obtain ⟨token, rfl, hprovider, hlocked, hok⟩ := exchange_of_obtained hs.transition hphase
    have htrace := hs.trace
    rw [hprovider, htrace]
    have hobtained : ObtainedAt (s.accessTokenUrl (s.progress calls m.1 pool.trace).provider)
        tokenSet ⟨m.1, .exchange (s.exchangeRequest (s.progress calls m.1 pool.trace).provider token),
          m.2.answer (s.exchangeRequest (s.progress calls m.1 pool.trace).provider token)⟩ :=
      ⟨_, _, _, rfl, rfl, hok⟩
    refine ⟨⟨_, List.mem_append_right _ (List.mem_singleton_self _), hobtained⟩, ?_⟩
    intro i hi
    refine ⟨pool.trace.length, _, List.getElem?_concat_length, hobtained, ?_⟩
    rw [List.take_left]
    have hholds : (s.progress calls m.1 pool.trace).phase.holdsLock = true := by
      rw [hlocked]
      rfl
    rw [← htrace] at hi
    exact fun hown => hs.idle_eq h.locking hholds hi ((h.recorded i).idle.mpr hown)
  · rw [hs.others t ht] at hphase ⊢
    obtain ⟨⟨e, he, hobtained⟩, hafter⟩ := h.obtained t check tokenSet hphase
    have hholds : (s.progress calls t pool.trace).phase.holdsLock = true := by
      rw [hphase]
      rfl
    constructor
    · rw [hs.trace]
      exact ⟨e, List.mem_append_left _ he, hobtained⟩
    · intro i hi
      have hidle := hs.idle_eq h.locking hholds hi
      rw [hs.trace]
      exact (hafter i hidle).append _

/-- A call that has checked keeps the token set that its provider had, or there is a new one. -/
theorem Sources.git_or_new (h : s.Sources calls pool) (hs : s.Served calls m pool pool' c) {i : ι}
    (hi : (s.progress calls (some i) pool.trace).phase ≠ .idle) (p : String) :
    pool'.state.tokens.gitAccessTokens p = pool.state.tokens.gitAccessTokens p ∨
      s.HasNew pool'.state i p pool'.trace := by
  obtain hsame | ⟨check, tokenSet, hphase, rfl, hset⟩ := hs.git_cases p
  · exact .inl hsame
  · refine .inr ⟨tokenSet, hset, ?_⟩
    rw [hs.trace]
    exact ((h.obtained _ _ _ hphase).2 i hi).append _

theorem Sources.hasNew_step (h : s.Sources calls pool) (hs : s.Served calls m pool pool' c) {i : ι}
    (hi : (s.progress calls (some i) pool.trace).phase ≠ .idle) {p : String}
    (hnew : s.HasNew pool.state i p pool.trace) : s.HasNew pool'.state i p pool'.trace := by
  obtain hsame | hnew' := h.git_or_new hs hi p
  · obtain ⟨tokenSet, hget, hobtained⟩ := hnew
    refine ⟨tokenSet, by rw [hsame, hget], ?_⟩
    rw [hs.trace]
    exact hobtained.append _
  · exact hnew'

/-- A step of another goroutine, or one that leaves the phase of the call in this regard. -/
theorem Sources.sourced_keep (h : s.Sources calls pool) (hs : s.Served calls m pool pool' c) {i : ι}
    {q : Progress} (hq : q = s.progress calls (some i) pool.trace) :
    Sourced s pool'.state i pool'.trace q := by
  have hsourced := h.sourced i
  have hkeep : ∀ {p : String}, q.phase ≠ .idle → s.HasNew pool.state i p pool.trace →
      s.HasNew pool'.state i p pool'.trace := by
    intro p hidle hnew
    rw [hq] at hidle
    exact h.hasNew_step hs hidle hnew
  rw [← hq] at hsourced
  unfold Sourced at hsourced ⊢
  cases hphase : q.phase with
  | checked check =>
    rw [hphase] at hsourced hkeep
    have hidle : (s.progress calls (some i) pool.trace).phase ≠ .idle := by
      rw [← hq, hphase]
      nofun
    rcases hsourced with hseen | hnew
    · obtain hsame | hnew := h.git_or_new hs hidle q.provider
      · exact .inl (hsame.trans hseen)
      · exact .inr hnew
    · exact .inr (hkeep nofun hnew)
  | stored check =>
    rw [hphase] at hsourced hkeep
    exact hkeep nofun hsourced
  | renewed check =>
    rw [hphase] at hsourced hkeep
    exact hkeep nofun hsourced
  | answered check tokenSet =>
    rw [hphase] at hsourced
    obtain ⟨set, htokenSet, ⟨e, he, hobtained⟩, horigin⟩ := hsourced
    rw [hs.trace]
    exact ⟨set, htokenSet, ⟨e, List.mem_append_left _ he, hobtained⟩,
      horigin.imp_right fun hafter => hafter.append _⟩
  | _ => trivial

theorem Sources.sourced_step (h : s.Sources calls pool) (hs : s.Served calls m pool pool' c)
    (i : ι) : Sourced s pool'.state i pool'.trace (s.progress calls (some i) pool'.trace) := by
  by_cases hi : some i = m.1
  · have htransition := hs.transition
    have hkeep := h.sourced_keep hs (i := i) rfl
    have hsourced := h.sourced i
    have hobtained := h.obtained (some i)
    have hstate := hs.state
    have htrace := hs.trace
    rw [← hi] at htransition
    generalize hq : s.progress calls (some i) pool.trace = q at htransition hkeep hobtained hsourced
    generalize s.progress calls (some i) pool'.trace = q' at htransition
    cases htransition with
    | check =>
      left
      rw [hstate]
      rfl
    | clock => exact hkeep
    | @store p b k check tokenSet =>
      refine ⟨tokenSet, ?_, ?_⟩
      · rw [hstate]
        exact Tokens.store_self _ _ _
      · rw [htrace]
        have hidle : (s.progress calls (some i) pool.trace).phase ≠ .idle := by
          rw [hq]
          nofun
        exact ((hobtained _ _ rfl).2 i hidle).append _
    | unlock => exact hkeep
    | renkuClock hphase =>
      obtain ⟨_, rfl⟩ | rfl := hphase <;> trivial
    | @answer p b k check phase hphase =>
      have hnew : s.HasNew pool.state i p pool.trace → ∃ set,
          pool.state.tokens.gitAccessTokens p = some set ∧
          (∃ e ∈ pool'.trace, ObtainedAt (s.accessTokenUrl p) set e) ∧
          (check.seen = some set ∧ s.Current check ∨ s.ObtainedAfterCheck i p set pool'.trace) := by
        rintro ⟨set, hget, hafter⟩
        obtain ⟨e, he, hobtained⟩ := h.git p set hget
        rw [htrace]
        exact ⟨set, hget, ⟨e, List.mem_append_left _ he, hobtained⟩, .inr (hafter.append _)⟩
      obtain ⟨rfl, hcurrent⟩ | rfl := hphase
      · rcases hsourced with hseen | hsourced
        · have hcurrent' := hcurrent
          obtain ⟨set, hset, -⟩ := hcurrent'
          obtain ⟨e, he, hobtained⟩ := h.git p set (hseen.trans hset)
          rw [htrace]
          exact ⟨set, hseen.trans hset, ⟨e, List.mem_append_left _ he, hobtained⟩,
            .inl ⟨hset, hcurrent⟩⟩
        · exact hnew hsourced
      · exact hnew hsourced
    | _ => trivial
  · rw [hs.others _ hi]
    exact h.sourced_keep hs rfl

theorem Sources.refresh_step (h : s.Sources calls pool) (hs : s.Served calls m pool pool' c) :
    pool'.state.tokens.renkuRefreshToken = s.latestRefreshToken pool'.trace := by
  rw [hs.trace, latestRefreshToken_append, ← h.refresh, hs.state]
  cases c with
  | refreshRenku =>
    unfold received? serve Tokens.refresh
    dsimp only
    split
    · next he =>
      rw [he]
      rfl
    · next res hres =>
      rw [hres]
      dsimp only
      split <;> rfl
  | _ => rfl

theorem Sources.step (h : s.Sources calls pool) (m : StoreMove ι) :
    s.Sources calls (s.advance m pool) := by
  obtain ⟨hobedient, hsame | ⟨c, hs⟩⟩ := h.obedient.step m
  · rw [hsame]
    exact h
  refine ⟨hobedient, h.locking.step hs, h.recorded_step hs, h.git_step hs, h.obtained_step hs,
    h.sourced_step hs, h.refresh_step hs, ?_⟩
  rw [hs.trace]
  apply sendsLatest_append h.sends
  intro t refresh hevent
  cases hevent
  rw [← h.refresh]
  rfl

theorem start_sources (ticks : Nat) : s.Sources calls (s.start calls ticks) := by
  refine ⟨start_obedient ticks, start_locking ticks, ?_, nofun, ?_, fun i => trivial, rfl, nofun⟩
  · intro i
    exact ⟨by simp [start, ownEvents, progress, Protocol.phase, beginning], nofun, nofun⟩
  · intro t check tokenSet hphase
    cases t <;> cases hphase

/-- What a call has returned, from what it has found. -/
theorem Sources.returnsOwnTokens (h : s.Sources calls pool) : s.ReturnsOwnTokens calls pool := by
  intro i result hresult
  have hended := h.obedient (some i)
  rw [hresult] at hended
  change Ended result (s.progress calls (some i) pool.trace) at hended
  have hsourced := h.sourced i
  have hrecorded := h.recorded i
  obtain ⟨hprovider, hencode, hticking⟩ := progress_call s calls i pool.trace
  unfold Ended at hended
  unfold Sourced at hsourced
  split at hended
  · next check tokenSet hphase =>
    rw [hphase] at hsourced
    obtain ⟨set, rfl, hobtained, horigin⟩ := hsourced
    rw [hprovider] at hobtained horigin
    refine ⟨set, by rw [hended, hencode], hobtained, ?_⟩
    rcases horigin with ⟨hseen, tokenSet, htokenSet, hcurrent⟩ | hafter
    · left
      obtain rfl : set = tokenSet := Option.some.inj (hseen.symm.trans htokenSet)
      obtain ⟨rest, hown⟩ := hrecorded.check check (by rw [hphase]; rfl)
      rw [hprovider] at hown
      unfold UnexpiredAtCheck
      rw [← hown]
      refine ⟨by simp [eventsOf, hseen], hcurrent.imp_right ?_⟩
      rintro ⟨now, hclock, hfresh⟩
      exact ⟨now, by simp [eventsOf, hclock], hfresh⟩
    · exact .inr hafter
  · next hphase => exact absurd hphase hticking
  · exact hended.elim

/-- Whatever the schedule, returned tokens come from their own provider and were valid at the
check or obtained after it, and refresh requests carry the latest refresh token. -/
theorem tokens_from_own_provider (ticks : Nat) (schedule : List (StoreMove ι)) :
    s.ReturnsOwnTokens calls (Runs.final s.advance schedule (s.start calls ticks)) ∧
      s.SendsLatest (Runs.final s.advance schedule (s.start calls ticks)).trace := by
  have hall : Runs.Along s.advance (fun _ _ => True) schedule (s.start calls ticks) :=
    Runs.along_of_forall (fun _ _ _ => trivial) _
  have hsources : s.Sources calls (Runs.final s.advance schedule (s.start calls ticks)) :=
    Runs.Along.invariant (fun m pool hpool _ => hpool.step m) (start_sources ticks) hall
  exact ⟨hsources.returnsOwnTokens, hsources.sends⟩

end Proof

end RenkuNotebooks.GitProxy.TokenStore
