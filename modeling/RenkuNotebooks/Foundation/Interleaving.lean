import Mathlib.Logic.Function.Basic
import RenkuNotebooks.Foundation.Program
import RenkuNotebooks.Foundation.Runs

/-!
# Interleaved programs

Several programs run on one state; a step serves the next call of one of them. A protocol says
what a program calls in each of its phases, as long as the replies are as it assumes; a pool whose
programs obey a protocol keeps obeying it.
-/

namespace RenkuNotebooks

/-- The phases of a program: what it calls in each, which replies it relies on, and how a call and
its reply lead to the next phase. -/
structure Protocol (C : Type) (R : C → Type) (Q : Type) where
  allowed : Q → C → Prop
  assumed : Q → (c : C) → R c → Prop
  next : Q → (c : C) → R c → Q

namespace Prog

variable {C : Type} {R : C → Type} {Q ε α β : Type} {P : Protocol C R Q}

/-- From this phase on, the program calls what is allowed and ends as stated. -/
def Obeys (P : Protocol C R Q) (post : α → Q → Prop) (raised : ε → Q → Prop) :
    Prog C R ε α → Q → Prop
  | .ret a, q => post a q
  | .raise e, q => raised e q
  | .call c k, q =>
    P.allowed q c ∧ ∀ r, P.assumed q c r → Obeys P post raised (k r) (P.next q c r)

section Obeys

variable {raised : ε → Q → Prop} {q : Q}

theorem obeys_ofExcept {post : α → Q → Prop} {x : Except ε α} (hok : ∀ a, x = .ok a → post a q)
    (herror : ∀ e, x = .error e → raised e q) :
    (ofExcept x : Prog C R ε α).Obeys P post raised q := by
  cases x with
  | ok a => exact hok a rfl
  | error e => exact herror e rfl

theorem obeys_perform {c : C} {post : R c → Q → Prop} (hc : P.allowed q c)
    (h : ∀ r, P.assumed q c r → post r (P.next q c r)) :
    (perform c : Prog C R ε (R c)).Obeys P post raised q :=
  ⟨hc, h⟩

theorem Obeys.bind {p : Prog C R ε α} {f : α → Prog C R ε β} (mid : α → Q → Prop)
    {post : β → Q → Prop} (hp : p.Obeys P mid raised q)
    (hf : ∀ a q', mid a q' → (f a).Obeys P post raised q') : (p.bind f).Obeys P post raised q := by
  induction p generalizing q with
  | ret a => exact hf a q hp
  | raise e => exact hp
  | call c k ih => exact ⟨hp.1, fun r hr => ih r (hp.2 r hr)⟩

theorem Obeys.tryCatch {p : Prog C R ε α} {f : ε → Prog C R ε α} (mid : ε → Q → Prop)
    {post : α → Q → Prop} (hp : p.Obeys P post mid q)
    (hf : ∀ e q', mid e q' → (f e).Obeys P post raised q') :
    (p.tryCatch f).Obeys P post raised q := by
  induction p generalizing q with
  | ret a => exact hp
  | raise e => exact hf e q hp
  | call c k ih => exact ⟨hp.1, fun r hr => ih r (hp.2 r hr)⟩

theorem Obeys.weaken {p : Prog C R ε α} {post post' : α → Q → Prop} {raised' : ε → Q → Prop}
    (hp : p.Obeys P post raised q) (hpost : ∀ a q', post a q' → post' a q')
    (hraised : ∀ e q', raised e q' → raised' e q') : p.Obeys P post' raised' q := by
  induction p generalizing q with
  | ret a => exact hpost a q hp
  | raise e => exact hraised e q hp
  | call c k ih => exact ⟨hp.1, fun r hr => ih r (hp.2 r hr)⟩

theorem Obeys.mono {p : Prog C R ε α} {post post' : α → Q → Prop}
    (hp : p.Obeys P post raised q) (hpost : ∀ a q', post a q' → post' a q') :
    p.Obeys P post' raised q :=
  hp.weaken hpost fun _ _ h => h

/-- Calls that are allowed and do not change the phase. -/
theorem Calls.obeys {allowed : C → Prop} {returned : α → Prop} {p : Prog C R ε α}
    (hp : p.Calls allowed) (hreturned : p.Returns returned) (hraised : ∀ e, raised e q)
    (h : ∀ c, allowed c → P.allowed q c ∧ ∀ r, P.next q c r = q) :
    p.Obeys P (fun a q' => returned a ∧ q' = q) raised q := by
  induction p with
  | ret a => exact ⟨hreturned, rfl⟩
  | raise e => exact hraised e
  | call c k ih =>
    obtain ⟨hallowed, hnext⟩ := h c hp.1
    refine ⟨hallowed, fun r _ => ?_⟩
    rw [hnext r]
    exact ih r (hp.2 r) (hreturned r)

end Obeys

end Prog

/-- A call of one of the programs, with its reply. -/
structure Event (ι C : Type) (R : C → Type) where
  thread : ι
  call : C
  reply : R call

namespace Protocol

variable {ι C Q : Type} {R : C → Type} [DecidableEq ι] (P : Protocol C R Q)

def after (i : ι) (q : Q) (e : Event ι C R) : Q :=
  if e.thread = i then P.next q e.call e.reply else q

/-- The phase that the calls of a program have led to. -/
def phase (q : Q) (i : ι) (trace : List (Event ι C R)) : Q := trace.foldl (P.after i) q

theorem phase_concat (q : Q) (i : ι) (trace : List (Event ι C R)) (e : Event ι C R) :
    P.phase q i (trace ++ [e]) = P.after i (P.phase q i trace) e := by
  rw [phase, List.foldl_append]
  rfl

theorem phase_invariant {I : Q → Prop} {q : Q} (hq : I q)
    (hnext : ∀ q c r, I q → I (P.next q c r)) (i : ι) (trace : List (Event ι C R)) :
    I (P.phase q i trace) := by
  unfold phase
  induction trace generalizing q with
  | nil => exact hq
  | cons e trace ih =>
    apply ih
    unfold after
    split
    · exact hnext q e.call e.reply hq
    · exact hq

end Protocol

structure Pool (ι C : Type) (R : C → Type) (ε α σ : Type) where
  state : σ
  threads : ι → Prog C R ε α
  trace : List (Event ι C R)

namespace Pool

variable {ι C Q ε α σ : Type} {R : C → Type} [DecidableEq ι]

/-- The pool after `c` has been served for a program that goes on with `k`. -/
def served (serve : (c : C) → σ → R c × σ) (i : ι) (s : Pool ι C R ε α σ) (c : C)
    (k : R c → Prog C R ε α) : Pool ι C R ε α σ where
  state := (serve c s.state).2
  threads := Function.update s.threads i (k (serve c s.state).1)
  trace := s.trace ++ [⟨i, c, (serve c s.state).1⟩]

/-- The next call of a program is served; a program that has ended stays as it is. -/
def step (serve : (c : C) → σ → R c × σ) (i : ι) (s : Pool ι C R ε α σ) : Pool ι C R ε α σ :=
  match s.threads i with
  | .call c k => s.served serve i c k
  | _ => s

theorem step_of_call {serve : (c : C) → σ → R c × σ} {i : ι} {s : Pool ι C R ε α σ} {c : C}
    {k : R c → Prog C R ε α} (hi : s.threads i = .call c k) :
    s.step serve i = s.served serve i c k := by
  unfold step
  rw [hi]

theorem step_cases (serve : (c : C) → σ → R c × σ) (i : ι) (s : Pool ι C R ε α σ) :
    s.step serve i = s ∨ ∃ c k, s.threads i = .call c k := by
  cases hi : s.threads i with
  | call c k => exact .inr ⟨c, k, rfl⟩
  | _ =>
    left
    unfold step
    rw [hi]

/-- All programs obey the protocol, each in the phase that its calls have led to. -/
def Obedient (P : Protocol C R Q) (q : ι → Q) (post : α → Q → Prop) (raised : ε → Q → Prop)
    (s : Pool ι C R ε α σ) : Prop :=
  ∀ i, (s.threads i).Obeys P post raised (P.phase (q i) i s.trace)

theorem Obedient.served {P : Protocol C R Q} {q : ι → Q} {post : α → Q → Prop}
    {raised : ε → Q → Prop} {s : Pool ι C R ε α σ} (h : s.Obedient P q post raised)
    {serve : (c : C) → σ → R c × σ} {i : ι} {c : C} {k : R c → Prog C R ε α}
    (hi : s.threads i = .call c k)
    (hassumed : P.assumed (P.phase (q i) i s.trace) c (serve c s.state).1) :
    (s.served serve i c k).Obedient P q post raised := by
  intro j
  unfold Pool.served
  dsimp only
  rw [P.phase_concat]
  unfold Protocol.after
  have hj := h j
  by_cases hij : i = j
  · subst hij
    rw [hi] at hj
    rw [if_pos rfl, Function.update_self]
    exact hj.2 _ hassumed
  · rw [if_neg hij, Function.update_of_ne (Ne.symm hij)]
    exact hj

/-- A program that obeys the protocol makes a call that is allowed. -/
theorem Obedient.allowed {P : Protocol C R Q} {q : ι → Q} {post : α → Q → Prop}
    {raised : ε → Q → Prop} {s : Pool ι C R ε α σ} (h : s.Obedient P q post raised) {i : ι} {c : C}
    {k : R c → Prog C R ε α} (hi : s.threads i = .call c k) :
    P.allowed (P.phase (q i) i s.trace) c := by
  have hobeys := h i
  rw [hi] at hobeys
  exact hobeys.1

end Pool

end RenkuNotebooks
