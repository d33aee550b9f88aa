import RenkuNotebooks.Foundation.Runs
import RenkuNotebooks.GitProxy.TokenSteps

/-!
# Answers without a usable token

A refresh checks the status of its answer and that the body can be decoded. Whether the body has
an access token is not checked: a missing one is decoded as the empty text and stored.
-/

namespace RenkuNotebooks.GitProxy.TokenStore

open Prog

section Statement

variable (s : TokenStore) {ι : Type} [DecidableEq ι] (calls : ι → TokenCall)

def Parses (token : String) : Prop := ∃ expiresAt, s.jwtExpiry token = .ok expiresAt

/-- The request that the call sends, if it sends one, is answered with a usable token. -/
def Delivers (env : StoreEnv) (st : StoreState) : StoreCall → Prop
  | .refreshRenku => ∃ res,
    refreshed (env.answer (s.refreshRequest st.tokens.renkuRefreshToken)) = .ok res ∧
      s.Parses res.accessToken
  | .exchange request => ∃ tokenSet, exchanged (env.answer request) = .ok tokenSet ∧
    tokenSet.accessToken ≠ ""
  | _ => True

/-- The goroutine only gives the lock back and ends with an error. -/
def Fails (p : Goroutine (Option String)) : Prop :=
  p.Calls (· = .unlockGit) ∧ p.Returns fun _ => False

/-- A refresh that does not deliver a usable token leaves the tokens as they are, and the call
returns an error. -/
def RefreshSound (m : StoreMove ι) (pool : StorePool ι) : Prop :=
  ∀ c k, pool.threads m.1 = .call c k → ¬ s.Delivers m.2 pool.state c →
    (s.serve m.2 c pool.state).2.tokens = pool.state.tokens ∧
      (m.1.isSome → Fails (k (s.serve m.2 c pool.state).1))

/-- The access token can be parsed, and no call has returned an empty token. -/
structure TokensUsable (pool : StorePool ι) : Prop where
  access : s.Parses pool.state.tokens.renkuAccessToken
  returned : ∀ i result, pool.threads (some i) = .ret result → ∃ tokenSet : TokenSet,
    tokenSet.accessToken ≠ "" ∧ result = some (rendered (calls i).encode (some tokenSet))

/-- If the answer to the call is accepted, it has a usable token. -/
def AcceptsUsable (env : StoreEnv) (st : StoreState) : StoreCall → Prop
  | .refreshRenku => ∀ res,
    refreshed (env.answer (s.refreshRequest st.tokens.renkuRefreshToken)) = .ok res →
      s.Parses res.accessToken
  | .exchange request => ∀ tokenSet, exchanged (env.answer request) = .ok tokenSet →
    tokenSet.accessToken ≠ ""
  | _ => True

def AnswersUsable (m : StoreMove ι) (pool : StorePool ι) : Prop :=
  ∀ c k, pool.threads m.1 = .call c k → s.AcceptsUsable m.2 pool.state c

end Statement

section Proof

variable {s : TokenStore} {ι : Type} [DecidableEq ι] {calls : ι → TokenCall} {m : StoreMove ι}
  {pool pool' : StorePool ι} {c : StoreCall}

/-- What a goroutine knows of the token sets. -/
def Known (st : StoreState) (q : Progress) : Prop :=
  match q.phase with
  | .checked c => c.seen.isSome → (st.tokens.gitAccessTokens q.provider).isSome
  | .obtained _ tokenSet => tokenSet.accessToken ≠ ""
  | .stored _ => (st.tokens.gitAccessTokens q.provider).isSome
  | .renewed _ => (st.tokens.gitAccessTokens q.provider).isSome
  | .answered _ tokenSet => ∃ set, tokenSet = some set ∧ set.accessToken ≠ ""
  | _ => True

theorem Known.mono {st st' : StoreState} {q : Progress} (h : Known st q)
    (hgit : ∀ p, (st.tokens.gitAccessTokens p).isSome → (st'.tokens.gitAccessTokens p).isSome) :
    Known st' q := by
  obtain ⟨p, b, phase, k⟩ := q
  cases phase with
  | checked c => exact fun hseen => hgit p (h hseen)
  | stored c => exact hgit p h
  | renewed c => exact hgit p h
  | _ => exact h

/-- All token sets have a token, the access token can be parsed. -/
structure Usable (s : TokenStore) (calls : ι → TokenCall) (pool : StorePool ι) : Prop where
  obedient : s.Obedient calls pool
  access : s.Parses pool.state.tokens.renkuAccessToken
  git : ∀ p tokenSet, pool.state.tokens.gitAccessTokens p = some tokenSet → tokenSet.accessToken ≠ ""
  known : ∀ t, Known pool.state (s.progress calls t pool.trace)

theorem fails_of_obeys {p : Goroutine (Option String)} {q : Progress}
    (h : p.Obeys s.protocol Ended Raised q) (hq : q.phase = .failing ∨ q.phase = .failed) :
    Fails p := by
  obtain ⟨provider, b, phase, renku⟩ := q
  induction p generalizing provider b phase renku with
  | ret a =>
    rcases hq with rfl | rfl
    · exact h.elim
    · exact h.elim
  | raise e => exact ⟨trivial, trivial⟩
  | call c k ih =>
    have hnext : ∀ r, Fails (k r) := by
      intro r
      have htransition := h.1
      have hobeys := h.2 r trivial
      cases c <;> rcases hq with rfl | rfl <;> simp [protocol, Allowed] at htransition
      exact ih r _ _ _ _ hobeys (.inr rfl)
    have hunlock : c = .unlockGit := by
      have hallowed := h.1
      cases c <;> rcases hq with rfl | rfl <;> simp [protocol, Allowed] at hallowed ⊢
    exact ⟨⟨hunlock, fun r => (hnext r).1⟩, fun r => (hnext r).2⟩

theorem isSome_serve (env : StoreEnv) (c : StoreCall) (st : StoreState) (p : String)
    (h : (st.tokens.gitAccessTokens p).isSome) :
    ((s.serve env c st).2.tokens.gitAccessTokens p).isSome := by
  cases c with
  | storeGit p' tokenSet =>
    by_cases hp : p = p'
    · subst hp
      simp [serve, Tokens.store_self]
    · simpa [serve, Tokens.store_of_ne _ _ hp] using h
  | refreshRenku => simpa [serve, Tokens.refresh_git] using h
  | _ => exact h

/-- What the goroutine of a transition knows afterwards. -/
theorem Known.next {env : StoreEnv} {st : StoreState} {q q' : Progress}
    (htransition : s.Transition env st q c q') (h : Known st q)
    (hgit : ∀ p tokenSet, st.tokens.gitAccessTokens p = some tokenSet → tokenSet.accessToken ≠ "")
    (husable : ∀ request tokenSet, c = .exchange request →
      exchanged (env.answer request) = .ok tokenSet → tokenSet.accessToken ≠ "") :
    Known (s.serve env c st).2 q' := by
  have hread : ∀ p, (st.tokens.gitAccessTokens p).isSome →
      ∃ set, st.tokens.gitAccessTokens p = some set ∧ set.accessToken ≠ "" := by
    intro p hp
    obtain ⟨set, hset⟩ := Option.isSome_iff_exists.mp hp
    exact ⟨set, hset, hgit p set hset⟩
  cases htransition with
  | check => exact id
  | clock => exact h
  | exchange hok => exact husable _ _ rfl hok
  | store =>
    show Option.isSome _ = true
    simp [serve, Tokens.store_self]
  | unlock => exact h
  | renkuClock hphase =>
    obtain ⟨c, rfl⟩ | rfl := hphase
    · trivial
    · trivial
  | answer hphase =>
    obtain ⟨rfl, hcurrent⟩ | rfl := hphase
    · obtain ⟨tokenSet, hseen, -⟩ := hcurrent
      apply hread
      apply h
      rw [hseen]
      rfl
    · exact hread _ h
  | _ => trivial

/-- An answer that does not deliver a token changes nothing. -/
theorem Transition.undelivered {env : StoreEnv} {st : StoreState} {q q' : Progress}
    (h : s.Transition env st q c q') (husable : s.AcceptsUsable env st c)
    (hnot : ¬ s.Delivers env st c) :
    (s.serve env c st).2.tokens = st.tokens ∧ (q'.phase = .failing ∨ q'.phase = .ticking) := by
  cases h with
  | refresh hk hres => exact absurd ⟨_, hres, husable _ hres⟩ hnot
  | refreshFails hk he => exact ⟨Tokens.refresh_of_error he, .inl rfl⟩
  | tick hk =>
    cases hreply : refreshed (env.answer (s.refreshRequest st.tokens.renkuRefreshToken)) with
    | ok res => exact absurd ⟨_, hreply, husable _ hreply⟩ hnot
    | error e => exact ⟨Tokens.refresh_of_error hreply, .inr rfl⟩
  | exchange hok => exact absurd ⟨_, hok, husable _ hok⟩ hnot
  | exchangeFails he => exact ⟨rfl, .inl rfl⟩
  | _ => exact absurd trivial hnot

theorem parses_refresh {tokens : Tokens} {answer : Answer} (h : s.Parses tokens.renkuAccessToken)
    (husable : ∀ res, refreshed answer = .ok res → s.Parses res.accessToken) :
    s.Parses (tokens.refresh answer).renkuAccessToken := by
  unfold Tokens.refresh
  split
  · exact h
  · next res hres => exact husable res hres

theorem Usable.refreshSound (h : s.Usable calls pool) (hm : s.AnswersUsable m pool) :
    s.RefreshSound m pool := by
  intro c k hcall hdelivers
  have hallowed := Pool.Obedient.allowed h.obedient hcall
  have htransition := s.transition_of_allowed hallowed m.2 pool.state
  obtain ⟨htokens, hphase⟩ := htransition.undelivered (hm c k hcall) hdelivers
  refine ⟨htokens, fun hcalls => ?_⟩
  obtain ⟨i, hi⟩ := Option.isSome_iff_exists.mp hcalls
  have hobeys := h.obedient m.1
  rw [hcall] at hobeys
  apply fails_of_obeys (hobeys.2 _ trivial)
  rcases hphase with hfailing | hticking
  · exact .inl hfailing
  · have hnot := (progress_call s calls i
      (pool.trace ++ [⟨m.1, c, (s.serve m.2 c pool.state).1⟩])).2.2
    unfold progress at hnot
    rw [s.protocol.phase_concat, Protocol.after, ← hi, if_pos rfl] at hnot
    exact absurd hticking hnot

theorem Usable.step (h : s.Usable calls pool) (hm : s.AnswersUsable m pool) :
    s.Usable calls (s.advance m pool) := by
  obtain ⟨hobedient, hsame | ⟨c, hs⟩⟩ := h.obedient.step m
  · rw [hsame]
    exact h
  obtain ⟨k, hcall, -⟩ := hs.waiting
  have husable := hm c k hcall
  refine ⟨hobedient, ?_, ?_, ?_⟩
  · rw [hs.state]
    obtain htokens | ⟨_, _, _, rfl⟩ | rfl := hs.transition.tokens_cases
    · rw [htokens]
      exact h.access
    · exact h.access
    · exact parses_refresh h.access husable
  · rw [hs.state]
    obtain htokens | ⟨check, tokenSet, hphase, rfl⟩ | rfl := hs.transition.tokens_cases
    · rw [htokens]
      exact h.git
    · intro p tokenSet' hget
      by_cases hp : p = (s.progress calls m.1 pool.trace).provider
      · subst hp
        rw [serve, Tokens.store_self] at hget
        have hknown := h.known m.1
        unfold Known at hknown
        rw [hphase] at hknown
        rw [← Option.some.inj hget]
        exact hknown
      · rw [serve, Tokens.store_of_ne _ _ hp] at hget
        exact h.git p tokenSet' hget
    · intro p tokenSet hget
      rw [serve, Tokens.refresh_git] at hget
      exact h.git p tokenSet hget
  · intro t
    rw [hs.state]
    by_cases ht : t = m.1
    · rw [ht]
      apply (h.known m.1).next hs.transition h.git
      rintro request tokenSet rfl hok
      exact husable tokenSet hok
    · rw [hs.others t ht]
      exact (h.known t).mono (isSome_serve m.2 c pool.state)

theorem start_usable (hparses : s.Parses s.renkuAccessToken) (ticks : Nat) :
    s.Usable calls (s.start calls ticks) := by
  refine ⟨start_obedient ticks, hparses, nofun, fun t => ?_⟩
  cases t <;> trivial

theorem Usable.tokensUsable (h : s.Usable calls pool) : s.TokensUsable calls pool := by
  refine ⟨h.access, fun i result hresult => ?_⟩
  have hended := h.obedient (some i)
  have hknown := h.known (some i)
  obtain ⟨-, hencode, hticking⟩ := progress_call s calls i pool.trace
  rw [hresult] at hended
  change Ended result (s.progress calls (some i) pool.trace) at hended
  unfold Ended at hended
  unfold Known at hknown
  split at hended
  · next c tokenSet hphase =>
    rw [hphase] at hknown
    obtain ⟨set, rfl, hset⟩ := hknown
    exact ⟨set, hset, by rw [hended, hencode]⟩
  · next hphase => exact absurd hphase hticking
  · exact hended.elim

/-- As long as every accepted answer has a usable token, refreshes that fail change nothing, the
access token can be parsed, and no call returns an empty token. -/
theorem tokens_stay_usable (hparses : s.Parses s.renkuAccessToken) {ticks : Nat}
    {schedule : List (StoreMove ι)}
    (h : Runs.Along s.advance s.AnswersUsable schedule (s.start calls ticks)) :
    Runs.Along s.advance s.RefreshSound schedule (s.start calls ticks) ∧
      s.TokensUsable calls (Runs.final s.advance schedule (s.start calls ticks)) := by
  have hstart : s.Usable calls (s.start calls ticks) := start_usable hparses ticks
  constructor
  · exact Runs.Along.of_step (fun m pool husable hm => ⟨husable.refreshSound hm, husable.step hm⟩)
      hstart h
  · exact (Runs.Along.invariant (fun m pool husable hm => husable.step hm) hstart h).tokensUsable

end Proof

/-! ### One call -/

section Sample

def sampleCall : Unit → TokenCall := fun _ => ⟨"example", false⟩

/-- The call goes on until it ends. -/
def sampleSchedule (body : Json) : List (StoreMove Unit) :=
  List.replicate 9 (some (), answering body)

def returned : Goroutine (Option String) → Option (Option String)
  | .ret result => some result
  | _ => none

theorem eq_ret_of_returned {p : Goroutine (Option String)} {result : Option String}
    (h : returned p = some result) : p = .ret result := by
  cases p with
  | ret a => rw [← Option.some.inj h]
  | _ => cases h

theorem answering_usable {body : Json} {tokenSet : TokenSet}
    (hbody : decodeTokenSet (some body) = .ok tokenSet) (htoken : tokenSet.accessToken ≠ "")
    (t : Option Unit) (pool : StorePool Unit) :
    sampleStore.AnswersUsable (t, answering body) pool := by
  intro c k _
  cases c with
  | refreshRenku =>
    intro res hres
    obtain ⟨e, hfails⟩ : ∃ e, refreshed ((answering body).answer
        (sampleStore.refreshRequest pool.state.tokens.renkuRefreshToken)) = .error e := ⟨_, rfl⟩
    rw [hfails] at hres
    cases hres
  | exchange request =>
    intro tokenSet' hok
    by_cases hpost : request.method = "POST"
    · simp [answering, hpost, exchanged] at hok
    · simp [answering, hpost, exchanged, hbody] at hok
      rwa [← hok]
  | _ => trivial

theorem sampleCall_stays_usable :
    Runs.Along sampleStore.advance sampleStore.RefreshSound
        (sampleSchedule (.obj [("access_token", "glpat-1")])) (sampleStore.start sampleCall 0) ∧
      sampleStore.TokensUsable sampleCall (Runs.final sampleStore.advance
        (sampleSchedule (.obj [("access_token", "glpat-1")])) (sampleStore.start sampleCall 0)) := by
  have hbody : decodeTokenSet (some (.obj [("access_token", "glpat-1")])) =
      .ok { accessToken := "glpat-1" } := by decide
  apply tokens_stay_usable ⟨_, rfl⟩
  apply Runs.along_of_forall
  intro m hm pool
  rw [List.eq_of_mem_replicate hm]
  exact answering_usable hbody (by decide) _ _

/-- An exchange that is answered with an empty object stores and returns the empty token. -/
theorem empty_answer_not_usable :
    sampleStore.Parses sampleStore.renkuAccessToken ∧
      ¬(Runs.Along sampleStore.advance sampleStore.RefreshSound (sampleSchedule (.obj []))
          (sampleStore.start sampleCall 0) ∧
        sampleStore.TokensUsable sampleCall (Runs.final sampleStore.advance
          (sampleSchedule (.obj [])) (sampleStore.start sampleCall 0))) := by
  refine ⟨⟨_, rfl⟩, fun ⟨_, hreturned, husable⟩ => ?_⟩
  have hempty : returned ((Runs.final sampleStore.advance (sampleSchedule (.obj []))
      (sampleStore.start sampleCall 0)).threads (some ())) = some (some "") := by decide +kernel
  obtain ⟨tokenSet, htoken, hresult⟩ := husable () _ (eq_ret_of_returned hempty)
  exact htoken (Option.some.inj hresult).symm

end Sample

end RenkuNotebooks.GitProxy.TokenStore
