import RenkuNotebooks.Foundation.Runs
import RenkuNotebooks.GitProxy.TokenSteps

/-!
# Refreshes that are repeated

The locks are meant to keep tokens from being refreshed twice, but the check is made before the
lock is taken and not made again under it. A token is refreshed twice where a goroutine comes to its
refresh with a check that another refresh has made obsolete.
-/

namespace RenkuNotebooks.GitProxy.TokenStore

open Prog

section Statement

variable (s : TokenStore) {ι : Type} [DecidableEq ι] (calls : ι → TokenCall)

abbrev StoreEvent (ι : Type) := Event (Option ι) StoreCall StoreCall.Reply

/-- The clock has been read. -/
def Reads (trace : Trace ι) (now : Int) : Prop := ∃ t, ⟨t, .now, now⟩ ∈ trace

/-- A call for the provider has sent an exchange request. -/
def Exchanges (p : String) (e : StoreEvent ι) : Prop :=
  ∃ i request answer, e = ⟨some i, .exchange request, answer⟩ ∧ (calls i).provider = p

/-- An exchange for the provider has delivered the token set. -/
def Delivered (p : String) (tokenSet : TokenSet) (e : StoreEvent ι) : Prop :=
  ∃ i request answer, e = ⟨some i, .exchange request, answer⟩ ∧ (calls i).provider = p ∧
    exchanged answer = .ok tokenSet

def Refreshes (e : StoreEvent ι) : Prop := ∃ t refresh, e = ⟨t, .refreshRenku, refresh⟩

/-- A refresh has delivered tokens; these are the renku tokens after it. -/
def Leaves (access refresh : String) (e : StoreEvent ι) : Prop :=
  ∃ t sent answer res, e = ⟨t, .refreshRenku, ⟨s.refreshRequest sent, answer⟩⟩ ∧
    refreshed answer = .ok res ∧ access = res.accessToken ∧
    refresh = if res.refreshToken ≠ "" then res.refreshToken else sent

/-- At some reading of the clock the token set was expired, with the leeway. -/
def ReadExpired (trace : Trace ι) (tokenSet : TokenSet) : Prop :=
  ∃ now, Reads trace now ∧ s.expiredAt now tokenSet = true

/-- At some reading of the clock one of the renku tokens was expired, or the refresh token cannot
be parsed. -/
def ReadSpent (trace : Trace ι) (access refresh : String) : Prop :=
  (∃ token expiresAt now, (token = access ∨ token = refresh) ∧
    s.jwtExpiry token = .ok expiresAt ∧ Reads trace now ∧ s.jwtExpiredAt now expiresAt = true) ∨
  ∃ e, s.jwtExpiry refresh = .error e

/-- After an exchange has delivered a token set that stays valid, no other one is sent. -/
def ExchangedOnce (trace : Trace ι) : Prop :=
  trace.Pairwise fun e e' => ∀ p tokenSet, Delivered calls p tokenSet e → Exchanges calls p e' →
    s.ReadExpired trace tokenSet

/-- After a refresh has left tokens that stay valid, no other one is sent. -/
def RefreshedOnce (trace : Trace ι) : Prop :=
  trace.Pairwise fun e e' => ∀ access refresh, s.Leaves access refresh e → Refreshes e' →
    s.ReadSpent trace access refresh

/-- The call that a goroutine makes next. -/
def nextCall {α : Type} : Goroutine α → Option StoreCall
  | .call c _ => some c
  | _ => none

/-- What a call for a git token has found, before it takes the lock. -/
def finding : Phase → Option Check
  | .checked c => some c
  | _ => none

/-- When a goroutine comes to its refresh, the token is still the one that it has checked. -/
def TokenKept (t : Option ι) (pool : StorePool ι) : StoreCall → Prop
  | .lockGit => ∀ check ∈ finding (s.progress calls t pool.trace).phase,
    pool.state.tokens.gitAccessTokens (s.progress calls t pool.trace).provider = check.seen
  | .refreshRenku => ∀ check ∈ (s.progress calls t pool.trace).renku,
    check.token = (if t.isSome then pool.state.tokens.renkuAccessToken
      else pool.state.tokens.renkuRefreshToken)
  | _ => True

instance (t : Option ι) (pool : StorePool ι) :
    (c : StoreCall) → Decidable (s.TokenKept calls t pool c)
  | .lockGit => inferInstanceAs (Decidable (∀ check ∈ finding _, _ = _))
  | .refreshRenku => inferInstanceAs (Decidable (∀ check ∈ Progress.renku _, _ = _))
  | .readGit _ | .now | .exchange _ | .storeGit _ _ | .unlockGit | .readAccess | .readRefresh =>
    isTrue trivial

/-- When a goroutine comes to its refresh, what is stored has run out. -/
def StoredRunOut (t : Option ι) (pool : StorePool ι) : StoreCall → Prop
  | .lockGit => ∀ tokenSet ∈ pool.state.tokens.gitAccessTokens
      (s.progress calls t pool.trace).provider, s.ReadExpired pool.trace tokenSet
  | .refreshRenku => s.ReadSpent pool.trace pool.state.tokens.renkuAccessToken
      pool.state.tokens.renkuRefreshToken
  | _ => False

/-- A goroutine comes to its refresh with a check that still holds of what is stored. -/
def ChecksHold (m : StoreMove ι) (pool : StorePool ι) : Prop :=
  ∀ c ∈ nextCall (pool.threads m.1),
    s.TokenKept calls m.1 pool c ∨ s.StoredRunOut calls m.1 pool c

end Statement

section Proof

variable {s : TokenStore} {ι : Type} [DecidableEq ι] {calls : ι → TokenCall} {m : StoreMove ι}
  {pool pool' : StorePool ι} {c : StoreCall} {trace : Trace ι}

omit [DecidableEq ι] in
theorem Reads.append {now : Int} (h : Reads trace now) (more : Trace ι) :
    Reads (trace ++ more) now := by
  obtain ⟨t, ht⟩ := h
  exact ⟨t, List.mem_append_left more ht⟩

omit [DecidableEq ι] in
theorem ReadExpired.append {tokenSet : TokenSet} (h : s.ReadExpired trace tokenSet)
    (more : Trace ι) : s.ReadExpired (trace ++ more) tokenSet := by
  obtain ⟨now, hreads, hexpired⟩ := h
  exact ⟨now, hreads.append more, hexpired⟩

omit [DecidableEq ι] in
theorem ReadSpent.append {access refresh : String} (h : s.ReadSpent trace access refresh)
    (more : Trace ι) : s.ReadSpent (trace ++ more) access refresh := by
  obtain ⟨token, expiresAt, now, htoken, hparsed, hreads, hexpired⟩ | h := h
  · exact .inl ⟨token, expiresAt, now, htoken, hparsed, hreads.append more, hexpired⟩
  · exact .inr h

/-- The reading that the check of a call has made, until its exchange is over. -/
def clockOf : Phase → Option Int
  | .checked c => c.clock
  | .locked c => c.clock
  | .obtained c _ => c.clock
  | _ => none

/-- The readings of the clock that a goroutine relies on. -/
structure ClocksRead (trace : Trace ι) (q : Progress) : Prop where
  git : ∀ now, clockOf q.phase = some now → Reads trace now
  renku : ∀ now, q.renku.bind (·.clock) = some now → Reads trace now

/-- While a call is under the lock, the stored token set has run out. -/
def HoldsStale (s : TokenStore) (st : StoreState) (trace : Trace ι) (q : Progress) : Prop :=
  ∀ c, q.phase = .locked c ∨ (∃ set, q.phase = .obtained c set) →
    ∀ tokenSet ∈ st.tokens.gitAccessTokens q.provider, s.ReadExpired trace tokenSet

structure Single (s : TokenStore) (calls : ι → TokenCall) (pool : StorePool ι) : Prop where
  obedient : s.Obedient calls pool
  locking : s.Locking calls pool
  clocks : ∀ t, ClocksRead pool.trace (s.progress calls t pool.trace)
  holds : ∀ t, HoldsStale s pool.state pool.trace (s.progress calls t pool.trace)
  delivered : ∀ p tokenSet, ∀ e ∈ pool.trace, Delivered calls p tokenSet e →
    pool.state.tokens.gitAccessTokens p = some tokenSet ∨ s.ReadExpired pool.trace tokenSet ∨
    ∃ t c, (s.progress calls t pool.trace).phase = .obtained c tokenSet ∧
      (s.progress calls t pool.trace).provider = p
  left : ∀ access refresh, ∀ e ∈ pool.trace, s.Leaves access refresh e →
    (pool.state.tokens.renkuAccessToken = access ∧ pool.state.tokens.renkuRefreshToken = refresh) ∨
    s.ReadSpent pool.trace access refresh

omit [DecidableEq ι] in
theorem ClocksRead.append {q : Progress} (h : ClocksRead trace q) (more : Trace ι) :
    ClocksRead (trace ++ more) q :=
  ⟨fun now hclock => (h.git now hclock).append more,
    fun now hclock => (h.renku now hclock).append more⟩

omit [DecidableEq ι] in
theorem ClocksRead.next {env : StoreEnv} {st : StoreState} {q q' : Progress} (h : ClocksRead trace q)
    (htransition : s.Transition env st q c q') (t : Option ι) :
    ClocksRead (trace ++ [⟨t, c, (s.serve env c st).1⟩]) q' := by
  have hread : Reads (trace ++ [⟨t, .now, env.now⟩]) env.now :=
    ⟨t, List.mem_append_right trace (List.mem_singleton_self _)⟩
  obtain ⟨hgit, hrenku⟩ := h.append [⟨t, c, (s.serve env c st).1⟩]
  cases htransition with
  | clock =>
    refine ⟨?_, hrenku⟩
    rintro now ⟨⟩
    exact hread
  | renkuClock hphase =>
    refine ⟨hgit, ?_⟩
    rintro now ⟨⟩
    exact hread
  | lock => exact ⟨hgit, hrenku⟩
  | exchange => exact ⟨hgit, hrenku⟩
  | readAccess => exact ⟨hgit, nofun⟩
  | refresh => exact ⟨hgit, nofun⟩
  | readRefresh => exact ⟨nofun, nofun⟩
  | refreshFails => exact ⟨nofun, nofun⟩
  | tick => exact ⟨nofun, nofun⟩
  | _ => exact ⟨nofun, hrenku⟩

/-- Only the goroutine in the section stores a token set. -/
theorem Served.git_eq (hs : s.Served calls m pool pool' c) (hlocking : s.Locking calls pool)
    {t : Option ι} (ht : t ≠ m.1) (hholds : (s.progress calls t pool.trace).phase.holdsLock = true) :
    pool'.state.tokens.gitAccessTokens = pool.state.tokens.gitAccessTokens := by
  rw [hs.state]
  obtain htokens | ⟨check, tokenSet, hphase, rfl⟩ | rfl := hs.transition.tokens_cases
  · rw [htokens]
  · have hthis : (s.progress calls m.1 pool.trace).phase.holdsLock = true := by rw [hphase]; rfl
    exact absurd (hlocking.unique t m.1 hholds hthis) ht
  · exact Tokens.refresh_git _ _

omit [DecidableEq ι] in
theorem HoldsStale.next {env : StoreEnv} {st : StoreState} {q q' : Progress}
    (h : s.HoldsStale st trace q) (htransition : s.Transition env st q c q')
    (hlock : ∀ check, c = .lockGit → q.phase = .checked check → s.Stale check →
      ∀ tokenSet ∈ st.tokens.gitAccessTokens q.provider, s.ReadExpired trace tokenSet) :
    s.HoldsStale (s.serve env c st).2 trace q' := by
  intro check hphase
  cases htransition with
  | lock hstale => exact hlock _ rfl rfl hstale
  | refresh hk hres =>
    have hheld := h check hphase
    rw [serve, Tokens.refresh_git]
    exact hheld
  | exchange hok => exact h _ (.inl rfl)
  | readAccess => exact h check hphase
  | renkuClock => exact h check hphase
  | answer hphase' => simp at hphase
  | _ => simp at hphase

omit [DecidableEq ι] in
theorem HoldsStale.append {st : StoreState} {q : Progress} (h : s.HoldsStale st trace q)
    (more : Trace ι) : s.HoldsStale st (trace ++ more) q :=
  fun check hphase tokenSet hget => (h check hphase tokenSet hget).append more

/-- When a call takes the lock, what is stored for its provider is stale by now. -/
theorem Single.stale_of_lock (h : s.Single calls pool) (hm : s.ChecksHold calls m pool)
    {k : Unit → Goroutine (Option String)} (hcall : pool.threads m.1 = .call .lockGit k)
    {check : Check} (hphase : (s.progress calls m.1 pool.trace).phase = .checked check)
    (hstale : s.Stale check) {tokenSet : TokenSet}
    (hget : tokenSet ∈ pool.state.tokens.gitAccessTokens
      (s.progress calls m.1 pool.trace).provider) :
    s.ReadExpired pool.trace tokenSet := by
  rcases hm .lockGit (by rw [hcall]; rfl) with hkept | hrunOut
  · have hseen := hkept check (by rw [hphase]; rfl)
    obtain ⟨now, hclock, hexpired⟩ := hstale tokenSet (hseen ▸ hget)
    refine ⟨now, (h.clocks m.1).git now ?_, hexpired⟩
    rw [hphase]
    exact hclock
  · exact hrunOut tokenSet hget

/-- When an exchange request is sent, what has been delivered before is stale. -/
theorem Single.exchange_stale (h : s.Single calls pool) {i : ι} {request : HttpRequest}
    (hallowed : s.Allowed (s.progress calls (some i) pool.trace) (.exchange request))
    {tokenSet : TokenSet} {e : StoreEvent ι} (he : e ∈ pool.trace)
    (hdelivered : Delivered calls (calls i).provider tokenSet e) :
    s.ReadExpired pool.trace tokenSet := by
  obtain ⟨check, token, hphase, -⟩ := hallowed
  have hprovider := (progress_call s calls i pool.trace).1
  rcases h.delivered _ _ e he hdelivered with hget | hexpired | ⟨t, c, hobtained, -⟩
  · exact h.holds (some i) check (.inl hphase) tokenSet (hprovider ▸ hget)
  · exact hexpired
  · have ht : t = some i := by
      apply h.locking.unique
      · rw [hobtained]
        rfl
      · rw [hphase]
        rfl
    rw [ht, hphase] at hobtained
    cases hobtained

omit [DecidableEq ι] in
theorem stores_of_obtained {q : Progress} {check : Check} {tokenSet : TokenSet}
    (h : s.Allowed q c) (hq : q.phase = .obtained check tokenSet) :
    c = .storeGit q.provider tokenSet := by
  cases c <;> simp_all [Allowed]

omit [DecidableEq ι] in
theorem obtained_of_exchange {env : StoreEnv} {st : StoreState} {q q' : Progress}
    {request : HttpRequest} {tokenSet : TokenSet} (h : s.Transition env st q (.exchange request) q')
    (hok : exchanged (env.answer request) = .ok tokenSet) :
    ∃ check, q'.phase = .obtained check tokenSet := by
  cases h with
  | exchange hok' =>
    rw [hok'] at hok
    rw [Except.ok.inj hok]
    exact ⟨_, rfl⟩
  | exchangeFails he =>
    rw [he] at hok
    cases hok

theorem Single.delivered_step (h : s.Single calls pool) (hs : s.Served calls m pool pool' c) :
    ∀ p tokenSet, ∀ e ∈ pool'.trace, Delivered calls p tokenSet e →
      pool'.state.tokens.gitAccessTokens p = some tokenSet ∨ s.ReadExpired pool'.trace tokenSet ∨
      ∃ t c, (s.progress calls t pool'.trace).phase = .obtained c tokenSet ∧
        (s.progress calls t pool'.trace).provider = p := by
  intro p tokenSet e he hdelivered
  rw [hs.trace] at he
  rcases List.mem_append.mp he with he | he
  · rcases h.delivered p tokenSet e he hdelivered with hget | hexpired | ⟨t, check, hphase, hp⟩
    · -- a stored token set is replaced by a goroutine that has found it stale only
      obtain htokens | ⟨check, set, hphase, rfl⟩ | rfl := hs.transition.tokens_cases
      · rw [hs.state, htokens]
        exact .inl hget
      · by_cases hp : p = (s.progress calls m.1 pool.trace).provider
        · subst hp
          right
          left
          rw [hs.trace]
          exact (h.holds m.1 check (.inr ⟨set, hphase⟩) tokenSet hget).append _
        · left
          rw [hs.state, serve, Tokens.store_of_ne _ _ hp]
          exact hget
      · left
        rw [hs.state, serve, Tokens.refresh_git]
        exact hget
    · right
      left
      rw [hs.trace]
      exact hexpired.append _
    · by_cases ht : t = m.1
      · -- the goroutine that has obtained it stores it now
        subst ht
        left
        rw [hs.state, stores_of_obtained hs.allowed hphase, ← hp]
        exact Tokens.store_self _ _ _
      · right
        right
        refine ⟨t, check, ?_, ?_⟩
        · rw [hs.others t ht, hphase]
        · rw [hs.others t ht, hp]
  · obtain ⟨i, request, answer, rfl, hp, hok⟩ := hdelivered
    obtain ⟨t, env⟩ := m
    cases List.mem_singleton.mp he
    obtain ⟨check, hphase⟩ := obtained_of_exchange hs.transition hok
    refine .inr (.inr ⟨some i, check, hphase, ?_⟩)
    rw [(progress_call s calls i pool'.trace).1, hp]

/-- When a refresh request is sent, the tokens that a refresh has left before are spent. -/
theorem Single.refresh_spent (h : s.Single calls pool) (hm : s.ChecksHold calls m pool)
    {k : Refresh → Goroutine (Option String)} (hcall : pool.threads m.1 = .call .refreshRenku k)
    (hallowed : s.Allowed (s.progress calls m.1 pool.trace) .refreshRenku)
    {access refresh : String} {e : StoreEvent ι} (he : e ∈ pool.trace)
    (hleaves : s.Leaves access refresh e) : s.ReadSpent pool.trace access refresh := by
  obtain ⟨check, hcheck, hexpired⟩ := hallowed
  have hholds := hm .refreshRenku (by rw [hcall]; rfl)
  have hspent : ∀ token, token = access ∨ token = refresh → check.token = token →
      s.RenkuExpired check → s.ReadSpent pool.trace access refresh := by
    rintro token htoken rfl ⟨expiresAt, now, hparsed, hclock, hexpired⟩
    have hreads : Reads pool.trace now := by
      apply (h.clocks m.1).renku
      rw [hcheck]
      exact hclock
    exact .inl ⟨_, expiresAt, now, htoken, hparsed, hreads, hexpired⟩
  obtain ⟨rfl, rfl⟩ | hspent' := h.left access refresh e he hleaves
  · rcases hholds with hkept | hrunOut
    · have htoken := hkept check hcheck
      cases hgoroutine : m.1 with
      | some i =>
        rw [hgoroutine] at htoken hexpired
        obtain ⟨-, hexpired⟩ | ⟨hticking, -⟩ := hexpired
        · exact hspent _ (.inl rfl) htoken hexpired
        · exact absurd hticking (progress_call s calls i pool.trace).2.2
      | none =>
        rw [hgoroutine] at htoken
        obtain ⟨-, hexpired⟩ | ⟨-, hexpired | ⟨e, hunparsed⟩⟩ := hexpired
        · exact hspent _ (.inr rfl) htoken hexpired
        · exact hspent _ (.inr rfl) htoken hexpired
        · right
          have hrefresh : check.token = pool.state.tokens.renkuRefreshToken := htoken
          rw [hrefresh] at hunparsed
          exact ⟨e, hunparsed⟩
    · exact hrunOut
  · exact hspent'

theorem Single.left_step (h : s.Single calls pool) (hm : s.ChecksHold calls m pool)
    (hs : s.Served calls m pool pool' c) :
    ∀ access refresh, ∀ e ∈ pool'.trace, s.Leaves access refresh e →
      (pool'.state.tokens.renkuAccessToken = access ∧
        pool'.state.tokens.renkuRefreshToken = refresh) ∨
      s.ReadSpent pool'.trace access refresh := by
  intro access refresh e he hleaves
  rw [hs.trace] at he
  rcases List.mem_append.mp he with hold | hnew
  · obtain htokens | ⟨check, set, hphase, rfl⟩ | rfl := hs.transition.tokens_cases
    · rw [hs.state, htokens, hs.trace]
      exact (h.left access refresh e hold hleaves).imp_right fun hspent => hspent.append _
    · rw [hs.state, hs.trace]
      exact (h.left access refresh e hold hleaves).imp_right fun hspent => hspent.append _
    · obtain ⟨k, hcall, -⟩ := hs.waiting
      right
      rw [hs.trace]
      exact (h.refresh_spent hm hcall hs.allowed hold hleaves).append _
  · obtain ⟨t', sent, answer, res, rfl, hok, rfl, rfl⟩ := hleaves
    obtain ⟨t, env⟩ := m
    cases List.mem_singleton.mp hnew
    left
    rw [hs.state]
    exact Tokens.refresh_of_ok hok

theorem Single.step (h : s.Single calls pool) (hm : s.ChecksHold calls m pool) :
    s.Single calls (s.advance m pool) := by
  obtain ⟨hobedient, hsame | ⟨c, hs⟩⟩ := h.obedient.step m
  · rw [hsame]
    exact h
  refine ⟨hobedient, h.locking.step hs, ?_, ?_, h.delivered_step hs, h.left_step hm hs⟩
  · intro t
    rw [hs.trace]
    by_cases ht : t = m.1
    · subst ht
      have hnext := (h.clocks m.1).next hs.transition m.1
      rwa [← hs.trace] at hnext ⊢
    · rw [← hs.trace, hs.others t ht, hs.trace]
      exact (h.clocks t).append _
  · intro t
    by_cases ht : t = m.1
    · subst ht
      have hnext : s.HoldsStale (s.serve m.2 c pool.state).2 pool.trace
          (s.progress calls m.1 (s.advance m pool).trace) := by
        apply (h.holds m.1).next hs.transition
        rintro check rfl hphase hstale tokenSet hget
        obtain ⟨k, hcall, -⟩ := hs.waiting
        exact h.stale_of_lock hm hcall hphase hstale hget
      rw [hs.state]
      have happended := hnext.append [⟨m.1, c, (s.serve m.2 c pool.state).1⟩]
      rwa [← hs.trace] at happended
    · rw [hs.others t ht]
      intro check hphase tokenSet hget
      have hholds : (s.progress calls t pool.trace).phase.holdsLock = true := by
        rcases hphase with hphase | ⟨set, hphase⟩ <;> rw [hphase] <;> rfl
      rw [hs.git_eq h.locking ht hholds] at hget
      rw [hs.trace]
      exact (h.holds t check hphase tokenSet hget).append _

/-- Every exchange and every refresh comes after the tokens of the ones before have run out. -/
structure RefreshesOnce (s : TokenStore) (calls : ι → TokenCall) (trace : Trace ι) : Prop where
  exchanges : s.ExchangedOnce calls trace
  refreshes : s.RefreshedOnce trace

theorem RefreshesOnce.step (hone : s.RefreshesOnce calls pool.trace) (h : s.Single calls pool)
    (hm : s.ChecksHold calls m pool) : s.RefreshesOnce calls (s.advance m pool).trace := by
  obtain ⟨-, hsame | ⟨c, hs⟩⟩ := h.obedient.step m
  · rw [hsame]
    exact hone
  obtain ⟨k, hcall, -⟩ := hs.waiting
  obtain ⟨hallowed, htrace⟩ := And.intro hs.allowed hs.trace
  obtain ⟨t, env⟩ := m
  constructor
  · unfold ExchangedOnce
    rw [htrace]
    apply List.pairwise_append.mpr
    refine ⟨?_, List.pairwise_singleton _ _, ?_⟩
    · apply hone.exchanges.imp
      intro e e' hpair p tokenSet hdelivered hexchanges
      exact (hpair p tokenSet hdelivered hexchanges).append _
    · rintro e he e' he' p tokenSet hdelivered ⟨i, request, answer, rfl, rfl⟩
      cases List.mem_singleton.mp he'
      exact (h.exchange_stale hallowed he hdelivered).append _
  · unfold RefreshedOnce
    rw [htrace]
    apply List.pairwise_append.mpr
    refine ⟨?_, List.pairwise_singleton _ _, ?_⟩
    · apply hone.refreshes.imp
      intro e e' hpair access refresh hleaves hrefreshes
      exact (hpair access refresh hleaves hrefreshes).append _
    · rintro e he e' he' access refresh hleaves ⟨t', reply, rfl⟩
      cases List.mem_singleton.mp he'
      exact (h.refresh_spent hm hcall hallowed he hleaves).append _

theorem start_single (ticks : Nat) : s.Single calls (s.start calls ticks) := by
  refine ⟨start_obedient ticks, start_locking ticks, ?_, ?_, nofun, nofun⟩
  · intro t
    cases t <;> exact ⟨nofun, nofun⟩
  · intro t c hphase
    cases t <;> rcases hphase with hphase | ⟨_, hphase⟩ <;> cases hphase

/-- If every goroutine comes to its refresh with a check that still holds of what is stored, no
token is refreshed again while it is valid. -/
theorem refreshes_once {ticks : Nat} {schedule : List (StoreMove ι)}
    (h : Runs.Along s.advance (s.ChecksHold calls) schedule (s.start calls ticks)) :
    s.RefreshesOnce calls (Runs.final s.advance schedule (s.start calls ticks)).trace := by
  have hinvariant := Runs.Along.invariant
    (I := fun pool => s.Single calls pool ∧ s.RefreshesOnce calls pool.trace)
    (fun m pool hpool hm => ⟨hpool.1.step hm, hpool.2.step hpool.1 hm⟩)
    ⟨start_single ticks, List.Pairwise.nil, List.Pairwise.nil⟩ h
  exact hinvariant.2

end Proof

/-! ### Two calls -/

section Sample

def sampleCalls : Bool → TokenCall := fun _ => ⟨"example", false⟩

/-- A token that is valid until 2027. -/
def validToken : Json := .obj [("access_token", "glpat-1"), ("expires_at", .int 1800000000)]

def movesOf (is : List Bool) : List (StoreMove Bool) :=
  is.map fun i => (some i, answering validToken)

/-- The second call asks when the first has ended. -/
theorem oneAfterTheOther_refreshes_once :
    sampleStore.RefreshesOnce sampleCalls (Runs.final sampleStore.advance
      (movesOf (List.replicate 9 true ++ List.replicate 4 false))
      (sampleStore.start sampleCalls 0)).trace :=
  refreshes_once (Runs.Along.mono (fun _ _ hkept c hc => .inl (hkept c hc))
    (show Runs.Along sampleStore.advance (fun m pool => ∀ c ∈ nextCall (pool.threads m.1),
      sampleStore.TokenKept sampleCalls m.1 pool c) _ _ by decide +kernel))

/-- Both calls find the token missing, then each of them exchanges it. -/
def overlapping : Trace Bool :=
  (Runs.final sampleStore.advance
    (movesOf ([true, false] ++ List.replicate 8 true ++ List.replicate 5 false))
    (sampleStore.start sampleCalls 0)).trace

def readings (trace : Trace Bool) : List Int :=
  trace.filterMap fun
    | ⟨_, .now, now⟩ => some now
    | _ => none

theorem mem_readings {trace : Trace Bool} {now : Int} (h : Reads trace now) :
    now ∈ readings trace := by
  obtain ⟨t, ht⟩ := h
  exact List.mem_filterMap.mpr ⟨_, ht, rfl⟩

theorem overlapping_exchanges_twice : ¬ sampleStore.RefreshesOnce sampleCalls overlapping := by
  intro h
  have hfirst : overlapping[6]? = some ⟨some true,
      .exchange (sampleStore.exchangeRequest "example" sampleJWT),
      .ok ⟨200, some validToken⟩⟩ := rfl
  have hsecond : overlapping[14]? = some ⟨some false,
      .exchange (sampleStore.exchangeRequest "example" sampleJWT),
      .ok ⟨200, some validToken⟩⟩ := rfl
  obtain ⟨hi, hfirst⟩ := List.getElem?_eq_some_iff.mp hfirst
  obtain ⟨hj, hsecond⟩ := List.getElem?_eq_some_iff.mp hsecond
  have hpair := List.pairwise_iff_getElem.mp h.exchanges 6 14 hi hj (by decide)
  rw [hfirst, hsecond] at hpair
  have hdelivered : exchanged (.ok ⟨200, some validToken⟩) = .ok ⟨"glpat-1", 1800000000⟩ := by
    decide +kernel
  obtain ⟨now, hreads, hexpired⟩ := hpair "example" ⟨"glpat-1", 1800000000⟩
    ⟨true, _, _, rfl, rfl, hdelivered⟩ ⟨false, _, _, rfl, rfl⟩
  have hvalid : ∀ now ∈ readings overlapping,
      sampleStore.expiredAt now ⟨"glpat-1", 1800000000⟩ = false := by decide +kernel
  rw [hvalid now (mem_readings hreads)] at hexpired
  cases hexpired

end Sample

end RenkuNotebooks.GitProxy.TokenStore
