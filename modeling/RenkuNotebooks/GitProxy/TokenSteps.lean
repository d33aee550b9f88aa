import RenkuNotebooks.GitProxy.TokenStore

/-!
# The steps of the token store

How far each goroutine has come, and what it can do next. Every invariant of the store is proved
from the transitions of this file.
-/

namespace RenkuNotebooks.GitProxy

open Prog Goroutine

/-- What the check of a call has seen, with the clock where it was read. -/
structure Check where
  seen : Option TokenSet
  clock : Option Int
  deriving DecidableEq

/-- The renku token that was last read, with the clock where it was read after it. -/
structure RenkuCheck where
  token : String
  clock : Option Int
  deriving DecidableEq

inductive Phase where
  | idle
  | checked (c : Check)
  | locked (c : Check)
  /-- The exchange has delivered a token set that is not stored yet. -/
  | obtained (c : Check) (tokenSet : TokenSet)
  | stored (c : Check)
  | renewed (c : Check)
  /-- The refresh has failed under the lock. -/
  | failing
  | failed
  | answered (c : Check) (tokenSet : Option TokenSet)
  | ticking
  deriving DecidableEq

def Phase.holdsLock : Phase → Bool
  | .locked _ => true
  | .obtained _ _ => true
  | .stored _ => true
  | .failing => true
  | _ => false

structure Progress where
  provider : String
  encode : Bool
  phase : Phase
  renku : Option RenkuCheck
  deriving DecidableEq

def RenkuCheck.readClock (k : RenkuCheck) (now : Int) : RenkuCheck := { k with clock := some now }

namespace Progress

def next (q : Progress) : (c : StoreCall) → c.Reply → Progress
  | .readGit _, tokenSet =>
    match q.phase with
    | .idle => { q with phase := .checked ⟨tokenSet, none⟩ }
    | .checked c => { q with phase := .answered c tokenSet }
    | .renewed c => { q with phase := .answered c tokenSet }
    | _ => q
  | .now, now =>
    match q.phase with
    | .checked c => { q with phase := .checked { c with clock := some now } }
    | _ => { q with renku := q.renku.map (·.readClock now) }
  | .lockGit, _ =>
    match q.phase with
    | .checked c => { q with phase := .locked c }
    | _ => q
  | .exchange _, answer =>
    match q.phase, exchanged answer with
    | .locked c, .ok tokenSet => { q with phase := .obtained c tokenSet }
    | _, _ => { q with phase := .failing }
  | .storeGit _ _, _ =>
    match q.phase with
    | .obtained c _ => { q with phase := .stored c }
    | _ => q
  | .unlockGit, _ =>
    match q.phase with
    | .stored c => { q with phase := .renewed c }
    | _ => { q with phase := .failed }
  | .readAccess, token => { q with renku := some ⟨token, none⟩ }
  | .readRefresh, token => { q with renku := some ⟨token, none⟩ }
  | .refreshRenku, reply =>
    match q.phase, refreshed reply.answer with
    | .locked _, .error _ => { q with phase := .failing, renku := none }
    | _, _ => { q with renku := none }

end Progress

namespace TokenStore

variable (s : TokenStore)

/-- The check has found the token set missing or expired. -/
def Stale (c : Check) : Prop :=
  ∀ tokenSet, c.seen = some tokenSet → ∃ now, c.clock = some now ∧ s.expiredAt now tokenSet = true

/-- The check has found a token set that has not expired. -/
def Current (c : Check) : Prop :=
  ∃ tokenSet, c.seen = some tokenSet ∧
    (tokenSet.expiresAt ≤ 0 ∨ ∃ now, c.clock = some now ∧ s.expiredAt now tokenSet = false)

def RenkuExpired (k : RenkuCheck) : Prop :=
  ∃ expiresAt now, s.jwtExpiry k.token = .ok expiresAt ∧ k.clock = some now ∧
    s.jwtExpiredAt now expiresAt = true

/-- A refresh token that the ticker takes for expired. -/
def RefreshExpired (k : RenkuCheck) : Prop :=
  s.RenkuExpired k ∨ ∃ e, s.jwtExpiry k.token = .error e

/-- What a goroutine calls in a phase. -/
def Allowed (q : Progress) : StoreCall → Prop
  | .readGit provider => provider = q.provider ∧
    (q.phase = .idle ∨ (∃ c, q.phase = .checked c ∧ s.Current c) ∨ ∃ c, q.phase = .renewed c)
  | .now => (∃ tokenSet, q.phase = .checked ⟨some tokenSet, none⟩) ∨
    (((∃ c, q.phase = .locked c) ∨ q.phase = .ticking) ∧ q.renku.isSome)
  | .lockGit => ∃ c, q.phase = .checked c ∧ s.Stale c
  | .exchange request => ∃ c token, q.phase = .locked c ∧
    request = s.exchangeRequest q.provider token
  | .storeGit provider tokenSet => provider = q.provider ∧ ∃ c, q.phase = .obtained c tokenSet
  | .unlockGit => (∃ c, q.phase = .locked c) ∨ q.phase = .failing ∨ ∃ c, q.phase = .stored c
  | .readAccess => ∃ c, q.phase = .locked c
  | .readRefresh => q.phase = .ticking
  | .refreshRenku => ∃ k, q.renku = some k ∧
    (((∃ c, q.phase = .locked c) ∧ s.RenkuExpired k) ∨ (q.phase = .ticking ∧ s.RefreshExpired k))

def protocol : Protocol StoreCall StoreCall.Reply Progress where
  allowed := s.Allowed
  assumed _ _ _ := True
  next := Progress.next

/-- A call ends with the token set that it has read last, the ticker with nothing. -/
def Ended (result : Option String) (q : Progress) : Prop :=
  match q.phase with
  | .answered _ tokenSet => result = some (rendered q.encode tokenSet)
  | .ticking => result = none
  | _ => False

def Raised (_ : GoError) (q : Progress) : Prop := q.phase = .failed

/-! ### The phases of the functions -/

section Phases

variable {s} {p : String} {b : Bool} {c : Check} {k : Option RenkuCheck} {raised : GoError → Progress → Prop}

/-- A goroutine that checks a renku token: under the lock, or the ticker. -/
def ChecksRenku (phase : Phase) : Prop := (∃ c, phase = .locked c) ∨ phase = .ticking

theorem isJWTExpired_obeys {phase : Phase} (hphase : ChecksRenku phase) (token : String) :
    (s.isJWTExpired token).Obeys s.protocol
      (fun expired q => ∃ now expiresAt, s.jwtExpiry token = .ok expiresAt ∧
        expired = s.jwtExpiredAt now expiresAt ∧ q = ⟨p, b, phase, some ⟨token, some now⟩⟩)
      (fun e q => s.jwtExpiry token = .error e ∧ q = ⟨p, b, phase, some ⟨token, none⟩⟩)
      ⟨p, b, phase, some ⟨token, none⟩⟩ := by
  apply Obeys.bind (fun expiresAt q => s.jwtExpiry token = .ok expiresAt ∧
    q = ⟨p, b, phase, some ⟨token, none⟩⟩)
  · exact obeys_ofExcept (fun expiresAt h => ⟨h, rfl⟩) fun e h => ⟨h, rfl⟩
  rintro expiresAt _ ⟨hparsed, rfl⟩
  refine ⟨.inr ⟨hphase, rfl⟩, fun now _ => ⟨now, expiresAt, hparsed, rfl, ?_⟩⟩
  rcases hphase with ⟨c, rfl⟩ | rfl <;> rfl

/-- The refresh by a call. -/
theorem refreshRenkuAccessToken_obeys {k : RenkuCheck} (hk : s.RenkuExpired k) :
    s.refreshRenkuAccessToken.Obeys s.protocol (fun _ q => q = ⟨p, b, .locked c, none⟩)
      (fun _ q => ∃ k, q = ⟨p, b, .locked c, k⟩ ∨ q = ⟨p, b, .failing, k⟩)
      ⟨p, b, .locked c, some k⟩ := by
  unfold refreshRenkuAccessToken
  split
  · exact ⟨_, .inl rfl⟩
  · apply Obeys.bind (fun reply q => q = Progress.next ⟨p, b, .locked c, some k⟩ .refreshRenku reply)
    · exact obeys_perform ⟨k, rfl, .inl ⟨⟨c, rfl⟩, hk⟩⟩ fun reply _ => rfl
    rintro reply _ rfl
    apply Obeys.bind (fun _ q => q = ⟨p, b, .locked c, none⟩)
    · apply obeys_ofExcept
      · intro res hres
        simp only [Progress.next, hres]
      · intro e he
        exact ⟨none, .inr (by simp only [Progress.next, he])⟩
    · rintro _ _ rfl
      rfl

theorem getValidRenkuAccessToken_obeys :
    s.getValidRenkuAccessToken.Obeys s.protocol (fun _ q => ∃ k, q = ⟨p, b, .locked c, k⟩)
      (fun _ q => ∃ k, q = ⟨p, b, .locked c, k⟩ ∨ q = ⟨p, b, .failing, k⟩)
      ⟨p, b, .locked c, k⟩ := by
  have hread : ∀ k, readAccess.Obeys s.protocol
      (fun token q => q = ⟨p, b, .locked c, some ⟨token, none⟩⟩)
      (fun _ q => ∃ k, q = ⟨p, b, .locked c, k⟩ ∨ q = ⟨p, b, .failing, k⟩) ⟨p, b, .locked c, k⟩ :=
    fun k => obeys_perform ⟨c, rfl⟩ fun token _ => rfl
  apply Obeys.bind _ (hread k)
  rintro token _ rfl
  apply Obeys.bind _ ((isJWTExpired_obeys (.inl ⟨c, rfl⟩) token).weaken (fun _ _ h => h)
    fun _ q h => ⟨_, .inl h.2⟩)
  rintro expired _ ⟨now, expiresAt, hparsed, hexpired, rfl⟩
  apply Obeys.bind (fun _ q => ∃ k, q = ⟨p, b, .locked c, k⟩)
  · unfold onlyIf
    split
    · next htrue =>
      have hk : s.RenkuExpired ⟨token, some now⟩ :=
        ⟨expiresAt, now, hparsed, rfl, by rw [← hexpired, htrue]⟩
      exact (refreshRenkuAccessToken_obeys hk).mono fun _ q h => ⟨none, h⟩
    · exact ⟨_, rfl⟩
  · rintro _ _ ⟨k', rfl⟩
    exact (hread k').mono fun token q h => ⟨_, h⟩

/-- The section under the lock of the git tokens. -/
theorem exchangeGitAccessToken_obeys :
    (s.exchangeGitAccessToken p).Obeys s.protocol (fun _ q => ∃ k, q = ⟨p, b, .stored c, k⟩)
      (fun _ q => ∃ k, q = ⟨p, b, .locked c, k⟩ ∨ q = ⟨p, b, .failing, k⟩)
      ⟨p, b, .locked c, k⟩ := by
  unfold exchangeGitAccessToken
  split
  · exact ⟨_, .inl rfl⟩
  · apply Obeys.bind _ getValidRenkuAccessToken_obeys
    rintro token _ ⟨k', rfl⟩
    apply Obeys.bind (fun reply q => q = Progress.next ⟨p, b, .locked c, k'⟩
      (.exchange (s.exchangeRequest p token)) reply)
    · exact obeys_perform ⟨c, token, rfl, rfl⟩ fun reply _ => rfl
    rintro reply _ rfl
    apply Obeys.bind (fun tokenSet q => q = ⟨p, b, .obtained c tokenSet, k'⟩)
    · apply obeys_ofExcept
      · intro tokenSet hok
        simp only [Progress.next, hok]
      · intro e he
        exact ⟨k', .inr (by simp only [Progress.next, he])⟩
    · rintro tokenSet _ rfl
      exact obeys_perform ⟨rfl, c, rfl⟩ fun _ _ => ⟨k', rfl⟩

theorem refreshGitAccessToken_obeys (hstale : s.Stale c) :
    (s.refreshGitAccessToken p).Obeys s.protocol (fun _ q => ∃ k, q = ⟨p, b, .renewed c, k⟩)
      Raised ⟨p, b, .checked c, k⟩ := by
  apply Obeys.bind (fun _ q => q = ⟨p, b, .locked c, k⟩)
  · exact obeys_perform ⟨c, rfl, hstale⟩ fun _ _ => rfl
  rintro _ _ rfl
  apply Obeys.bind (fun _ q => ∃ k, q = ⟨p, b, .stored c, k⟩)
  · apply Obeys.tryCatch _ exchangeGitAccessToken_obeys
    rintro e _ ⟨k', rfl | rfl⟩
    · exact ⟨.inl ⟨c, rfl⟩, fun _ _ => rfl⟩
    · exact ⟨.inr (.inl rfl), fun _ _ => rfl⟩
  · rintro _ _ ⟨k', rfl⟩
    exact obeys_perform (.inr (.inr ⟨c, rfl⟩)) fun _ _ => ⟨k', rfl⟩

theorem isStale_obeys (seen : Option TokenSet) :
    (s.isStale seen).Obeys s.protocol
      (fun stale q => ∃ c, q = ⟨p, b, .checked c, k⟩ ∧ (stale = true → s.Stale c) ∧
        (stale = false → s.Current c))
      Raised ⟨p, b, .checked ⟨seen, none⟩, k⟩ := by
  cases seen with
  | none => exact ⟨_, rfl, fun _ => nofun, nofun⟩
  | some tokenSet =>
    by_cases hexpires : 0 < tokenSet.expiresAt
    · have hread : s.isStale (some tokenSet) =
          timeNow.bind fun now => .ret (s.expiredAt now tokenSet) := if_pos hexpires
      rw [hread]
      apply Obeys.bind (fun now q => q = ⟨p, b, .checked ⟨some tokenSet, some now⟩, k⟩)
      · exact obeys_perform (.inl ⟨tokenSet, rfl⟩) fun _ _ => rfl
      · rintro now _ rfl
        refine ⟨_, rfl, ?_, fun hfresh => ⟨tokenSet, rfl, .inr ⟨now, rfl, hfresh⟩⟩⟩
        rintro hstale _ ⟨⟩
        exact ⟨now, rfl, hstale⟩
    · have hnever : s.isStale (some tokenSet) = .ret false := if_neg hexpires
      rw [hnever]
      refine ⟨_, rfl, nofun, fun _ => ⟨tokenSet, rfl, .inl ?_⟩⟩
      omega

theorem getGitAccessToken_obeys :
    (s.getGitAccessToken p b).Obeys s.protocol
      (fun token q => ∃ c tokenSet k, q = ⟨p, b, .answered c tokenSet, k⟩ ∧
        token = rendered b tokenSet)
      Raised ⟨p, b, .idle, k⟩ := by
  apply Obeys.bind (fun seen q => q = ⟨p, b, .checked ⟨seen, none⟩, k⟩)
  · exact obeys_perform ⟨rfl, .inl rfl⟩ fun _ _ => rfl
  rintro seen _ rfl
  apply Obeys.bind _ (isStale_obeys seen)
  rintro stale _ ⟨c, rfl, hstale, hcurrent⟩
  apply Obeys.bind (fun _ q => ∃ k, (q = ⟨p, b, .checked c, k⟩ ∧ s.Current c) ∨
    q = ⟨p, b, .renewed c, k⟩)
  · cases stale with
    | true => exact (refreshGitAccessToken_obeys (hstale rfl)).mono fun _ _ ⟨k', h⟩ => ⟨k', .inr h⟩
    | false => exact ⟨k, .inl ⟨rfl, hcurrent rfl⟩⟩
  · rintro _ _ ⟨k', ⟨rfl, hcurrent⟩ | rfl⟩
    · exact ⟨⟨rfl, .inr (.inl ⟨c, rfl, hcurrent⟩)⟩, fun tokenSet _ => ⟨c, tokenSet, k', rfl, rfl⟩⟩
    · exact ⟨⟨rfl, .inr (.inr ⟨c, rfl⟩)⟩, fun tokenSet _ => ⟨c, tokenSet, k', rfl, rfl⟩⟩

theorem refreshPeriodically_obeys :
    s.refreshPeriodically.Obeys s.protocol (fun _ q => ∃ k, q = ⟨p, b, .ticking, k⟩) Raised
      ⟨p, b, .ticking, k⟩ := by
  apply Obeys.bind (fun token q => q = ⟨p, b, .ticking, some ⟨token, none⟩⟩)
  · exact obeys_perform rfl fun _ _ => rfl
  rintro token _ rfl
  apply Obeys.bind (fun expired q => ∃ k, q = ⟨p, b, .ticking, some k⟩ ∧
    (expired = true → s.RefreshExpired k))
  · apply Obeys.tryCatch (fun e q => s.jwtExpiry token = .error e ∧
      q = ⟨p, b, .ticking, some ⟨token, none⟩⟩)
    · apply (isJWTExpired_obeys (.inr rfl) token).mono
      rintro expired q ⟨now, expiresAt, hparsed, hexpired, rfl⟩
      exact ⟨_, rfl, fun htrue => .inl ⟨expiresAt, now, hparsed, rfl, hexpired ▸ htrue⟩⟩
    · rintro e _ ⟨hunparsed, rfl⟩
      exact ⟨_, rfl, fun _ => .inr ⟨e, hunparsed⟩⟩
  · rintro expired _ ⟨k', rfl, hexpired⟩
    unfold onlyIf
    split
    · next htrue =>
      apply Obeys.tryCatch (fun _ q => ∃ k, q = ⟨p, b, .ticking, k⟩)
      · unfold refreshRenkuAccessToken
        split
        · exact ⟨_, rfl⟩
        · apply Obeys.bind (fun _ q => q = ⟨p, b, .ticking, none⟩)
          · exact obeys_perform ⟨k', rfl, .inr ⟨rfl, hexpired htrue⟩⟩ fun _ _ => rfl
          rintro reply _ rfl
          apply Obeys.bind (fun _ q => ∃ k, q = ⟨p, b, .ticking, k⟩)
          · exact obeys_ofExcept (fun _ _ => ⟨none, rfl⟩) fun _ _ => ⟨none, rfl⟩
          · exact fun _ _ h => h
      · exact fun _ _ h => h
    · exact ⟨_, rfl⟩

theorem periodicTokenRefresh_obeys (ticks : Nat) :
    (s.periodicTokenRefresh ticks).Obeys s.protocol (fun _ q => ∃ k, q = ⟨p, b, .ticking, k⟩)
      Raised ⟨p, b, .ticking, k⟩ := by
  induction ticks generalizing k with
  | zero => exact ⟨k, rfl⟩
  | succ ticks ih =>
    apply Obeys.bind _ refreshPeriodically_obeys
    rintro _ _ ⟨k', rfl⟩
    exact ih

end Phases

/-! ### The transitions -/

/-- The next call of a goroutine, served in the state `st`, and the phase it leads to. -/
inductive Transition (env : StoreEnv) (st : StoreState) : Progress → StoreCall → Progress → Prop
  | check {p b k} : Transition env st ⟨p, b, .idle, k⟩ (.readGit p)
      ⟨p, b, .checked ⟨st.tokens.gitAccessTokens p, none⟩, k⟩
  | clock {p b k tokenSet} : Transition env st ⟨p, b, .checked ⟨some tokenSet, none⟩, k⟩ .now
      ⟨p, b, .checked ⟨some tokenSet, some env.now⟩, k⟩
  | lock {p b k c} (hstale : s.Stale c) :
      Transition env st ⟨p, b, .checked c, k⟩ .lockGit ⟨p, b, .locked c, k⟩
  | readAccess {p b k c} : Transition env st ⟨p, b, .locked c, k⟩ .readAccess
      ⟨p, b, .locked c, some ⟨st.tokens.renkuAccessToken, none⟩⟩
  | readRefresh {p b k} : Transition env st ⟨p, b, .ticking, k⟩ .readRefresh
      ⟨p, b, .ticking, some ⟨st.tokens.renkuRefreshToken, none⟩⟩
  | renkuClock {p b phase k} (hphase : ChecksRenku phase) :
      Transition env st ⟨p, b, phase, some k⟩ .now ⟨p, b, phase, some (k.readClock env.now)⟩
  | refresh {p b c k res} (hk : s.RenkuExpired k)
      (hres : refreshed (env.answer (s.refreshRequest st.tokens.renkuRefreshToken)) = .ok res) :
      Transition env st ⟨p, b, .locked c, some k⟩ .refreshRenku ⟨p, b, .locked c, none⟩
  | refreshFails {p b c k e} (hk : s.RenkuExpired k)
      (he : refreshed (env.answer (s.refreshRequest st.tokens.renkuRefreshToken)) = .error e) :
      Transition env st ⟨p, b, .locked c, some k⟩ .refreshRenku ⟨p, b, .failing, none⟩
  | tick {p b k} (hk : s.RefreshExpired k) :
      Transition env st ⟨p, b, .ticking, some k⟩ .refreshRenku ⟨p, b, .ticking, none⟩
  | exchange {p b k c token tokenSet}
      (hok : exchanged (env.answer (s.exchangeRequest p token)) = .ok tokenSet) :
      Transition env st ⟨p, b, .locked c, k⟩ (.exchange (s.exchangeRequest p token))
        ⟨p, b, .obtained c tokenSet, k⟩
  | exchangeFails {p b k c token e}
      (he : exchanged (env.answer (s.exchangeRequest p token)) = .error e) :
      Transition env st ⟨p, b, .locked c, k⟩ (.exchange (s.exchangeRequest p token))
        ⟨p, b, .failing, k⟩
  | store {p b k c tokenSet} : Transition env st ⟨p, b, .obtained c tokenSet, k⟩
      (.storeGit p tokenSet) ⟨p, b, .stored c, k⟩
  | unlock {p b k c} :
      Transition env st ⟨p, b, .stored c, k⟩ .unlockGit ⟨p, b, .renewed c, k⟩
  | release {p b k phase} (hphase : (∃ c, phase = .locked c) ∨ phase = .failing) :
      Transition env st ⟨p, b, phase, k⟩ .unlockGit ⟨p, b, .failed, k⟩
  | answer {p b k c phase} (hphase : phase = .checked c ∧ s.Current c ∨ phase = .renewed c) :
      Transition env st ⟨p, b, phase, k⟩ (.readGit p)
        ⟨p, b, .answered c (st.tokens.gitAccessTokens p), k⟩

theorem transition_of_allowed {q : Progress} {c : StoreCall} (h : s.Allowed q c) (env : StoreEnv)
    (st : StoreState) : s.Transition env st q c (q.next c (s.serve env c st).1) := by
  obtain ⟨p, b, phase, k⟩ := q
  cases c with
  | readGit provider =>
    obtain ⟨rfl, rfl | ⟨c, rfl, hcurrent⟩ | ⟨c, rfl⟩⟩ := h
    · exact .check
    · exact .answer (.inl ⟨rfl, hcurrent⟩)
    · exact .answer (.inr rfl)
  | now =>
    obtain ⟨tokenSet, rfl⟩ | ⟨hphase, hk⟩ := h
    · exact .clock
    · obtain ⟨k, rfl⟩ := Option.isSome_iff_exists.mp hk
      obtain ⟨c, rfl⟩ | rfl := hphase
      · exact .renkuClock (.inl ⟨c, rfl⟩)
      · exact .renkuClock (.inr rfl)
  | lockGit =>
    obtain ⟨c, rfl, hstale⟩ := h
    exact .lock hstale
  | exchange request =>
    obtain ⟨c, token, rfl, rfl⟩ := h
    cases hreply : exchanged (env.answer (s.exchangeRequest p token)) with
    | ok tokenSet =>
      simp only [Progress.next, serve, hreply]
      exact .exchange hreply
    | error e =>
      simp only [Progress.next, serve, hreply]
      exact .exchangeFails hreply
  | storeGit provider tokenSet =>
    obtain ⟨rfl, c, rfl⟩ := h
    exact .store
  | unlockGit =>
    obtain ⟨c, rfl⟩ | rfl | ⟨c, rfl⟩ := h
    · exact .release (.inl ⟨c, rfl⟩)
    · exact .release (.inr rfl)
    · exact .unlock
  | readAccess =>
    obtain ⟨c, rfl⟩ := h
    exact .readAccess
  | readRefresh =>
    obtain rfl := h
    exact .readRefresh
  | refreshRenku =>
    obtain ⟨k, rfl, ⟨⟨c, rfl⟩, hk⟩ | ⟨rfl, hk⟩⟩ := h
    · cases hreply : refreshed (env.answer (s.refreshRequest st.tokens.renkuRefreshToken)) with
      | ok res =>
        simp only [Progress.next, serve, hreply]
        exact .refresh hk hreply
      | error e =>
        simp only [Progress.next, serve, hreply]
        exact .refreshFails hk hreply
    · exact .tick hk

/-- What a transition does to the tokens. -/
theorem Transition.tokens_cases {s : TokenStore} {env : StoreEnv} {st : StoreState}
    {q q' : Progress} {c : StoreCall} (h : s.Transition env st q c q') :
    (s.serve env c st).2.tokens = st.tokens ∨
    (∃ check tokenSet, q.phase = .obtained check tokenSet ∧ c = .storeGit q.provider tokenSet) ∨
    c = .refreshRenku := by
  cases h with
  | store => exact .inr (.inl ⟨_, _, rfl, rfl⟩)
  | refresh => exact .inr (.inr rfl)
  | refreshFails => exact .inr (.inr rfl)
  | tick => exact .inr (.inr rfl)
  | _ => exact .inl rfl

/-! ### The goroutines of a store -/

section Pool

variable {ι : Type} [DecidableEq ι] (calls : ι → TokenCall)

def beginning : Option ι → Progress
  | some i => ⟨(calls i).provider, (calls i).encode, .idle, none⟩
  | none => ⟨"", false, .ticking, none⟩

abbrev Trace (ι : Type) := List (Event (Option ι) StoreCall StoreCall.Reply)

/-- How far a goroutine has come after these events. -/
def progress (t : Option ι) (trace : Trace ι) : Progress :=
  s.protocol.phase (beginning calls t) t trace

variable {s calls}

/-- A call stays the call that it is. -/
theorem progress_call (s : TokenStore) (calls : ι → TokenCall) (i : ι) (trace : Trace ι) :
    (s.progress calls (some i) trace).provider = (calls i).provider ∧
      (s.progress calls (some i) trace).encode = (calls i).encode ∧
      (s.progress calls (some i) trace).phase ≠ .ticking := by
  apply s.protocol.phase_invariant (I := fun q => q.provider = (calls i).provider ∧
    q.encode = (calls i).encode ∧ q.phase ≠ .ticking)
  · exact ⟨rfl, rfl, nofun⟩
  · rintro ⟨p, b, phase, k⟩ c r ⟨hp, hb, hphase⟩
    cases c with
    | exchange request =>
      cases hr : exchanged r <;> cases phase <;> simp_all [protocol, Progress.next]
    | refreshRenku =>
      cases hr : refreshed r.answer <;> cases phase <;> simp_all [protocol, Progress.next]
    | _ => cases phase <;> simp_all [protocol, Progress.next]

omit [DecidableEq ι] in
theorem goroutines_obey (ticks : Nat) (t : Option ι) :
    (s.goroutines calls ticks t).Obeys s.protocol Ended Raised (beginning calls t) := by
  cases t with
  | none =>
    apply Obeys.bind _ (periodicTokenRefresh_obeys ticks)
    rintro _ _ ⟨k, rfl⟩
    rfl
  | some i =>
    apply Obeys.bind _ getGitAccessToken_obeys
    rintro token _ ⟨c, tokenSet, k, rfl, rfl⟩
    rfl

def Obedient (calls : ι → TokenCall) (pool : StorePool ι) : Prop :=
  Pool.Obedient s.protocol (beginning calls) Ended Raised pool

theorem start_obedient (ticks : Nat) : s.Obedient calls (s.start calls ticks) :=
  goroutines_obey ticks

/-- A step of the store: nothing, or a transition of one goroutine that does not wait. -/
structure Served (calls : ι → TokenCall) (m : StoreMove ι) (pool pool' : StorePool ι)
    (c : StoreCall) : Prop where
  unlocked : c.takesGitLock = true → pool.state.gitLocked = false
  allowed : s.Allowed (s.progress calls m.1 pool.trace) c
  transition : s.Transition m.2 pool.state (s.progress calls m.1 pool.trace) c
    (s.progress calls m.1 pool'.trace)
  others : ∀ t, t ≠ m.1 → s.progress calls t pool'.trace = s.progress calls t pool.trace
  state : pool'.state = (s.serve m.2 c pool.state).2
  trace : pool'.trace = pool.trace ++ [⟨m.1, c, (s.serve m.2 c pool.state).1⟩]
  waiting : ∃ k, pool.threads m.1 = .call c k ∧
    pool'.threads = Function.update pool.threads m.1 (k (s.serve m.2 c pool.state).1)

theorem Obedient.step {pool : StorePool ι} (h : s.Obedient calls pool) (m : StoreMove ι) :
    s.Obedient calls (s.advance m pool) ∧
      (s.advance m pool = pool ∨ ∃ c, s.Served calls m pool (s.advance m pool) c) := by
  unfold advance
  split
  · exact ⟨h, .inl rfl⟩
  · next hwaits =>
    obtain hsame | ⟨c, k, hcall⟩ := pool.step_cases (s.serve m.2) m.1
    · rw [hsame]
      exact ⟨h, .inl rfl⟩
    · have hallowed := Pool.Obedient.allowed h hcall
      have hprogress : ∀ t, s.progress calls t (pool.trace ++ [⟨m.1, c, (s.serve m.2 c pool.state).1⟩]) =
          if m.1 = t then (s.progress calls t pool.trace).next c (s.serve m.2 c pool.state).1
          else s.progress calls t pool.trace :=
        fun t => s.protocol.phase_concat (beginning calls t) t pool.trace _
      rw [Pool.step_of_call hcall]
      refine ⟨Pool.Obedient.served h hcall trivial,
        .inr ⟨c, ?_, hallowed, ?_, ?_, rfl, rfl, k, hcall, rfl⟩⟩
      · intro htakes
        simpa [waits, hcall, htakes] using hwaits
      · unfold Pool.served
        rw [hprogress, if_pos rfl]
        exact s.transition_of_allowed hallowed m.2 pool.state
      · intro t ht
        unfold Pool.served
        rw [hprogress, if_neg (Ne.symm ht)]

/-! ### The lock of the git tokens -/

/-- What a transition does to the lock. -/
theorem Transition.lock_cases {env : StoreEnv} {st : StoreState} {q q' : Progress} {c : StoreCall}
    (h : s.Transition env st q c q') :
    (c = .lockGit ∧ (s.serve env c st).2.gitLocked = true ∧ q'.phase.holdsLock = true) ∨
    (c = .unlockGit ∧ q.phase.holdsLock = true ∧ q'.phase.holdsLock = false) ∨
    ((s.serve env c st).2.gitLocked = st.gitLocked ∧ q'.phase.holdsLock = q.phase.holdsLock) := by
  cases h with
  | lock hstale => exact .inl ⟨rfl, rfl, rfl⟩
  | unlock => exact .inr (.inl ⟨rfl, rfl, rfl⟩)
  | release hphase =>
    right
    left
    obtain ⟨c, rfl⟩ | rfl := hphase
    · exact ⟨rfl, rfl, rfl⟩
    · exact ⟨rfl, rfl, rfl⟩
  | answer hphase =>
    right
    right
    obtain ⟨rfl, -⟩ | rfl := hphase
    · exact ⟨rfl, rfl⟩
    · exact ⟨rfl, rfl⟩
  | _ => exact .inr (.inr ⟨rfl, rfl⟩)

/-- At most one goroutine is in the section, and the lock is held then. -/
structure Locking (s : TokenStore) (calls : ι → TokenCall) (pool : StorePool ι) : Prop where
  held : ∀ t, (s.progress calls t pool.trace).phase.holdsLock = true → pool.state.gitLocked = true
  unique : ∀ t t', (s.progress calls t pool.trace).phase.holdsLock = true →
    (s.progress calls t' pool.trace).phase.holdsLock = true → t = t'

omit [DecidableEq ι] in
theorem beginning_holdsLock (t : Option ι) : (beginning calls t).phase.holdsLock = false := by
  cases t <;> rfl

theorem start_locking (ticks : Nat) : s.Locking calls (s.start calls ticks) := by
  have hnobody : ∀ t, (s.progress calls t (s.start calls ticks).trace).phase.holdsLock = false :=
    beginning_holdsLock
  constructor
  · intro t ht
    rw [hnobody t] at ht
    cases ht
  · intro t t' ht
    rw [hnobody t] at ht
    cases ht

theorem Locking.step {m : StoreMove ι} {pool pool' : StorePool ι} {c : StoreCall}
    (h : s.Locking calls pool) (hs : s.Served calls m pool pool' c) : s.Locking calls pool' := by
  have hothers : ∀ t, t ≠ m.1 → (s.progress calls t pool'.trace).phase.holdsLock =
      (s.progress calls t pool.trace).phase.holdsLock := by
    intro t ht
    rw [hs.others t ht]
  obtain ⟨rfl, hlocked, -⟩ | ⟨-, hheld, hreleased⟩ | ⟨hlocked, hsame⟩ := hs.transition.lock_cases
  · -- nobody has held the lock
    have hnobody : ∀ t, (s.progress calls t pool.trace).phase.holdsLock = false := by
      intro t
      by_contra ht
      have hfree := hs.unlocked rfl
      rw [h.held t (by simpa using ht)] at hfree
      cases hfree
    have honly : ∀ t, (s.progress calls t pool'.trace).phase.holdsLock = true → t = m.1 := by
      intro t ht
      by_contra hne
      rw [hothers t hne, hnobody t] at ht
      cases ht
    constructor
    · intro t _
      rw [hs.state]
      exact hlocked
    · intro t t' ht ht'
      rw [honly t ht, honly t' ht']
  · have hnobody : ∀ t, (s.progress calls t pool'.trace).phase.holdsLock = false := by
      intro t
      by_cases ht : t = m.1
      · rw [ht]
        exact hreleased
      · rw [hothers t ht]
        by_contra hholds
        exact ht (h.unique t m.1 (by simpa using hholds) hheld)
    constructor
    · intro t ht
      rw [hnobody t] at ht
      cases ht
    · intro t t' ht
      rw [hnobody t] at ht
      cases ht
  · have hall : ∀ t, (s.progress calls t pool'.trace).phase.holdsLock =
        (s.progress calls t pool.trace).phase.holdsLock := by
      intro t
      by_cases ht : t = m.1
      · rw [ht]
        exact hsame
      · exact hothers t ht
    constructor
    · intro t ht
      rw [hs.state, hlocked]
      exact h.held t (hall t ▸ ht)
    · intro t t' ht ht'
      exact h.unique t t' (hall t ▸ ht) (hall t' ▸ ht')

end Pool

end TokenStore

end RenkuNotebooks.GitProxy
