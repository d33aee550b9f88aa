import Mathlib.Tactic.Common

/-!
# Programs that call services

A program ends with a value, raises, or calls a service and goes on with the reply. What the
services do is not part of the program: `run` takes a server that answers each call from a
state. The rules below are for one run (`Triple`) and for two runs side by side (`Related`).
-/

namespace RenkuNotebooks

inductive Prog (C : Type) (R : C → Type) (ε α : Type) where
  | ret (a : α)
  | raise (e : ε)
  | call (c : C) (k : R c → Prog C R ε α)

namespace Prog

variable {C : Type} {R : C → Type} {ε α β : Type}

def bind : Prog C R ε α → (α → Prog C R ε β) → Prog C R ε β
  | .ret a, f => f a
  | .raise e, _ => .raise e
  | .call c k, f => .call c fun r => bind (k r) f

instance : Monad (Prog C R ε) where
  pure := .ret
  bind := bind

/-- `except` for every error that the handler does not raise again. -/
def tryCatch : Prog C R ε α → (ε → Prog C R ε α) → Prog C R ε α
  | .ret a, _ => .ret a
  | .raise e, h => h e
  | .call c k, h => .call c fun r => tryCatch (k r) h

/-- The value or the error of a program. -/
def attempt : Prog C R ε α → Prog C R ε (Except ε α)
  | .ret a => .ret (.ok a)
  | .raise e => .ret (.error e)
  | .call c k => .call c fun r => attempt (k r)

/-- One call that gives its reply. -/
def perform (c : C) : Prog C R ε (R c) := .call c .ret

def ofExcept : Except ε α → Prog C R ε α
  | .ok a => .ret a
  | .error e => .raise e

/-- `finally`: what the last part raises takes the place of what the first part has raised. -/
def finallyDo (p : Prog C R ε α) (last : Prog C R ε Unit) : Prog C R ε α :=
  p.attempt.bind fun outcome => last.bind fun _ => ofExcept outcome

@[simp] theorem pure_eq (a : α) : (pure a : Prog C R ε α) = .ret a := rfl

@[simp] theorem bind_eq (p : Prog C R ε α) (f : α → Prog C R ε β) : p >>= f = p.bind f := rfl

theorem bind_assoc {γ : Type} (p : Prog C R ε α) (f : α → Prog C R ε β) (g : β → Prog C R ε γ) :
    (p.bind f).bind g = p.bind fun a => (f a).bind g := by
  induction p with
  | ret a => rfl
  | raise e => rfl
  | call c k ih =>
    simp only [bind, call.injEq, heq_eq_eq, true_and]
    funext r
    exact ih r

/-! ### The calls of a program -/

/-- Every call that the program can make, whatever the replies, is allowed. -/
def Calls (allowed : C → Prop) : Prog C R ε α → Prop
  | .ret _ => True
  | .raise _ => True
  | .call c k => allowed c ∧ ∀ r, Calls allowed (k r)

section Calls

variable {allowed : C → Prop}

@[simp] theorem calls_ret (a : α) : (.ret a : Prog C R ε α).Calls allowed := trivial

@[simp] theorem calls_raise (e : ε) : (.raise e : Prog C R ε α).Calls allowed := trivial

@[simp] theorem calls_perform (c : C) :
    (perform c : Prog C R ε (R c)).Calls allowed ↔ allowed c :=
  ⟨fun h => h.1, fun h => ⟨h, fun _ => trivial⟩⟩

@[simp] theorem calls_ofExcept (x : Except ε α) :
    (ofExcept x : Prog C R ε α).Calls allowed := by
  cases x <;> trivial

theorem Calls.bind {p : Prog C R ε α} {f : α → Prog C R ε β}
    (hp : p.Calls allowed) (hf : ∀ a, (f a).Calls allowed) : (p.bind f).Calls allowed := by
  induction p with
  | ret a => exact hf a
  | raise e => trivial
  | call c k ih => exact ⟨hp.1, fun r => ih r (hp.2 r)⟩

theorem calls_ofExcept_bind {x : Except ε α} {f : α → Prog C R ε β}
    (h : ∀ a, x = .ok a → (f a).Calls allowed) : ((ofExcept x).bind f).Calls allowed := by
  cases x with
  | ok a => exact h a rfl
  | error e => trivial

theorem Calls.tryCatch {p : Prog C R ε α} {f : ε → Prog C R ε α}
    (hp : p.Calls allowed) (hf : ∀ e, (f e).Calls allowed) : (p.tryCatch f).Calls allowed := by
  induction p with
  | ret a => trivial
  | raise e => exact hf e
  | call c k ih => exact ⟨hp.1, fun r => ih r (hp.2 r)⟩

theorem Calls.finallyDo {p : Prog C R ε α} {last : Prog C R ε Unit} (hp : p.Calls allowed)
    (hlast : last.Calls allowed) : (p.finallyDo last).Calls allowed := by
  induction p with
  | ret a => exact hlast.bind fun _ => trivial
  | raise e => exact hlast.bind fun _ => trivial
  | call c k ih => exact ⟨hp.1, fun r => ih r (hp.2 r)⟩

theorem calls_true (p : Prog C R ε α) : p.Calls fun _ => True := by
  induction p with
  | ret a => trivial
  | raise e => trivial
  | call c k ih => exact ⟨trivial, ih⟩

theorem Calls.mono {allowed' : C → Prop} {p : Prog C R ε α} (hp : p.Calls allowed)
    (h : ∀ c, allowed c → allowed' c) : p.Calls allowed' := by
  induction p with
  | ret a => trivial
  | raise e => trivial
  | call c k ih => exact ⟨h c hp.1, fun r => ih r (hp.2 r)⟩

end Calls

/-! ### The values of a program -/

/-- Every value that the program can end with, whatever the replies, satisfies `post`. -/
def Returns (post : α → Prop) : Prog C R ε α → Prop
  | .ret a => post a
  | .raise _ => True
  | .call _ k => ∀ r, Returns post (k r)

section Returns

theorem returns_ofExcept {post : α → Prop} {x : Except ε α} (h : ∀ a, x = .ok a → post a) :
    (ofExcept x : Prog C R ε α).Returns post := by
  cases x with
  | ok a => exact h a rfl
  | error e => trivial

theorem Returns.bind {p : Prog C R ε α} {f : α → Prog C R ε β} {mid : α → Prop} {post : β → Prop}
    (hp : p.Returns mid) (hf : ∀ a, mid a → (f a).Returns post) : (p.bind f).Returns post := by
  induction p with
  | ret a => exact hf a hp
  | raise e => trivial
  | call c k ih => exact fun r => ih r (hp r)

/-- What follows need only make allowed calls after the values that there can be. -/
theorem Calls.bind_returns {allowed : C → Prop} {p : Prog C R ε α} {f : α → Prog C R ε β}
    {mid : α → Prop} (hp : p.Calls allowed) (hr : p.Returns mid)
    (hf : ∀ a, mid a → (f a).Calls allowed) : (p.bind f).Calls allowed := by
  induction p with
  | ret a => exact hf a hr
  | raise e => trivial
  | call c k ih => exact ⟨hp.1, fun r => ih r (hp.2 r) (hr r)⟩

theorem returns_true (p : Prog C R ε α) : p.Returns fun _ => True := by
  induction p with
  | ret a => trivial
  | raise e => trivial
  | call c k ih => exact fun r => ih r

end Returns

/-! ### The errors of a program -/

/-- Every error that the program can raise, whatever the replies, is one of these. -/
def Raises (errors : ε → Prop) : Prog C R ε α → Prop
  | .ret _ => True
  | .raise e => errors e
  | .call _ k => ∀ r, Raises errors (k r)

section Raises

variable {errors : ε → Prop}

@[simp] theorem raises_perform (c : C) : (perform c : Prog C R ε (R c)).Raises errors :=
  fun _ => trivial

theorem raises_ofExcept {x : Except ε α} (h : ∀ e, x = .error e → errors e) :
    (ofExcept x : Prog C R ε α).Raises errors := by
  cases x with
  | ok a => trivial
  | error e => exact h e rfl

theorem Raises.bind {p : Prog C R ε α} {f : α → Prog C R ε β} (hp : p.Raises errors)
    (hf : ∀ a, (f a).Raises errors) : (p.bind f).Raises errors := by
  induction p with
  | ret a => exact hf a
  | raise e => exact hp
  | call c k ih => exact fun r => ih r (hp r)

theorem Raises.mono {errors' : ε → Prop} {p : Prog C R ε α} (hp : p.Raises errors)
    (himp : ∀ e, errors e → errors' e) : p.Raises errors' := by
  induction p with
  | ret a => trivial
  | raise e => exact himp e hp
  | call c k ih => exact fun r => ih r (hp r)

theorem Raises.tryCatch {caught : ε → Prop} {p : Prog C R ε α} {f : ε → Prog C R ε α}
    (hp : p.Raises caught) (hf : ∀ e, caught e → (f e).Raises errors) :
    (p.tryCatch f).Raises errors := by
  induction p with
  | ret a => trivial
  | raise e => exact hf e hp
  | call c k ih => exact fun r => ih r (hp r)

end Raises

section Run

variable {σ : Type} (serve : (c : C) → σ → R c × σ)

def run : Prog C R ε α → σ → Except ε α × σ
  | .ret a, s => (.ok a, s)
  | .raise e, s => (.error e, s)
  | .call c k, s => run (k (serve c s).1) (serve c s).2

@[simp] theorem run_ret (a : α) (s : σ) : run serve (.ret a : Prog C R ε α) s = (.ok a, s) := rfl

@[simp] theorem run_raise (e : ε) (s : σ) :
    run serve (.raise e : Prog C R ε α) s = (.error e, s) := rfl

@[simp] theorem run_call (c : C) (k : R c → Prog C R ε α) (s : σ) :
    run serve (.call c k) s = run serve (k (serve c s).1) (serve c s).2 := rfl

@[simp] theorem run_perform (c : C) (s : σ) :
    run serve (perform c : Prog C R ε (R c)) s = (.ok (serve c s).1, (serve c s).2) := rfl

@[simp] theorem run_ofExcept (x : Except ε α) (s : σ) :
    run serve (ofExcept x : Prog C R ε α) s = (x, s) := by
  cases x <;> rfl

theorem run_bind (p : Prog C R ε α) (f : α → Prog C R ε β) (s : σ) :
    run serve (p.bind f) s =
      match run serve p s with
      | (.ok a, s') => run serve (f a) s'
      | (.error e, s') => (.error e, s') := by
  induction p generalizing s with
  | ret a => rfl
  | raise e => rfl
  | call c k ih => exact ih (serve c s).1 (serve c s).2

theorem run_bind_ok {p : Prog C R ε α} {f : α → Prog C R ε β} {s s' : σ} {a : α}
    (h : run serve p s = (.ok a, s')) : run serve (p.bind f) s = run serve (f a) s' := by
  rw [run_bind, h]

theorem run_bind_error {p : Prog C R ε α} {f : α → Prog C R ε β} {s s' : σ} {e : ε}
    (h : run serve p s = (.error e, s')) : run serve (p.bind f) s = (.error e, s') := by
  rw [run_bind, h]

/-- A run that succeeds is a run of each of its parts. -/
theorem exists_of_run_bind {p : Prog C R ε α} {f : α → Prog C R ε β} {s s' : σ} {b : β}
    (h : run serve (p.bind f) s = (.ok b, s')) :
    ∃ a t, run serve p s = (.ok a, t) ∧ run serve (f a) t = (.ok b, s') := by
  rw [run_bind] at h
  rcases hrun : run serve p s with ⟨e | a, t⟩ <;> rw [hrun] at h
  · cases h
  · exact ⟨a, t, rfl, h⟩

theorem run_tryCatch (p : Prog C R ε α) (f : ε → Prog C R ε α) (s : σ) :
    run serve (p.tryCatch f) s =
      match run serve p s with
      | (.ok a, s') => (.ok a, s')
      | (.error e, s') => run serve (f e) s' := by
  induction p generalizing s with
  | ret a => rfl
  | raise e => rfl
  | call c k ih => exact ih (serve c s).1 (serve c s).2

theorem run_attempt (p : Prog C R ε α) (s : σ) :
    run serve p.attempt s = (.ok (run serve p s).1, (run serve p s).2) := by
  induction p generalizing s with
  | ret a => rfl
  | raise e => rfl
  | call c k ih => exact ih (serve c s).1 (serve c s).2

theorem Raises.run {errors : ε → Prop} {p : Prog C R ε α} (hp : p.Raises errors) {s s' : σ}
    {e : ε} (h : run serve p s = (.error e, s')) : errors e := by
  induction p generalizing s with
  | ret a => cases h
  | raise e' =>
    cases h
    exact hp
  | call c k ih => exact ih (serve c s).1 (hp _) h

/-! ### One run -/

/-- What holds of the value and the final state, or of the error and the final state. -/
def Outcome (post : α → σ → Prop) (raised : ε → σ → Prop) : Except ε α × σ → Prop
  | (.ok a, s) => post a s
  | (.error e, s) => raised e s

def Triple (pre : σ → Prop) (p : Prog C R ε α) (post : α → σ → Prop) (raised : ε → σ → Prop) :
    Prop :=
  ∀ s, pre s → Outcome post raised (run serve p s)

section Triple

variable {serve} {pre : σ → Prop} {raised : ε → σ → Prop}

theorem triple_ret {post : α → σ → Prop} {a : α} (h : ∀ s, pre s → post a s) :
    Triple serve pre (.ret a) post raised :=
  fun s hs => h s hs

theorem triple_raise {post : α → σ → Prop} {e : ε} (h : ∀ s, pre s → raised e s) :
    Triple serve pre (.raise e) post raised :=
  fun s hs => h s hs

theorem triple_ofExcept {post : α → σ → Prop} {x : Except ε α}
    (hok : ∀ a s, x = .ok a → pre s → post a s) (herror : ∀ e s, x = .error e → pre s → raised e s) :
    Triple serve pre (ofExcept x) post raised := by
  cases x with
  | ok a => exact triple_ret fun s hs => hok a s rfl hs
  | error e => exact triple_raise fun s hs => herror e s rfl hs

theorem triple_perform {c : C} {post : R c → σ → Prop}
    (h : ∀ s, pre s → post (serve c s).1 (serve c s).2) :
    Triple serve pre (perform c) post raised :=
  fun s hs => h s hs

theorem Triple.bind {p : Prog C R ε α} {f : α → Prog C R ε β} (mid : α → σ → Prop)
    {post : β → σ → Prop} (hp : Triple serve pre p mid raised)
    (hf : ∀ a, Triple serve (mid a) (f a) post raised) :
    Triple serve pre (p.bind f) post raised := by
  intro s hs
  have hmid := hp s hs
  rw [run_bind]
  rcases hrun : run serve p s with ⟨a | a, s'⟩ <;> rw [hrun] at hmid
  · exact hmid
  · exact hf a s' hmid

theorem Triple.tryCatch {p : Prog C R ε α} {f : ε → Prog C R ε α} (mid : ε → σ → Prop)
    {post : α → σ → Prop} (hp : Triple serve pre p post mid)
    (hf : ∀ e, Triple serve (mid e) (f e) post raised) :
    Triple serve pre (p.tryCatch f) post raised := by
  intro s hs
  have hmid := hp s hs
  rw [run_tryCatch]
  rcases hrun : run serve p s with ⟨a | a, s'⟩ <;> rw [hrun] at hmid
  · exact hf a s' hmid
  · exact hmid

theorem Triple.finallyDo {p : Prog C R ε α} {last : Prog C R ε Unit} (mid : α → σ → Prop)
    (midRaised : ε → σ → Prop) {post : α → σ → Prop} (hp : Triple serve pre p mid midRaised)
    (hok : ∀ a, Triple serve (mid a) last (fun _ => post a) raised)
    (herror : ∀ e, Triple serve (midRaised e) last (fun _ => raised e) raised) :
    Triple serve pre (p.finallyDo last) post raised := by
  intro s hs
  have hmid := hp s hs
  rw [Prog.finallyDo, run_bind, run_attempt]
  rcases hrun : run serve p s with ⟨e | a, s'⟩ <;> rw [hrun] at hmid
  · apply Triple.bind (fun _ => raised e) (herror e) _ s' hmid
    intro _
    exact triple_raise fun _ h => h
  · apply Triple.bind (fun _ => post a) (hok a) _ s' hmid
    intro _
    exact triple_ret fun _ h => h

theorem Triple.weaken {pre' : σ → Prop} {p : Prog C R ε α} {post post' : α → σ → Prop}
    {raised' : ε → σ → Prop} (h : Triple serve pre p post raised) (hpre : ∀ s, pre' s → pre s)
    (hpost : ∀ a s, post a s → post' a s) (hraised : ∀ e s, raised e s → raised' e s) :
    Triple serve pre' p post' raised' := by
  intro s hs
  have hout := h s (hpre s hs)
  rcases hrun : run serve p s with ⟨a | a, s'⟩ <;> rw [hrun] at hout
  · exact hraised a s' hout
  · exact hpost a s' hout

/-- What the run from one state does. -/
theorem triple_run (p : Prog C R ε α) (start : σ) :
    Triple serve (fun s => s = start) p (fun a s => run serve p start = (.ok a, s))
      (fun e s => run serve p start = (.error e, s)) := by
  rintro s rfl
  rcases hrun : run serve p s with ⟨e | a, s'⟩
  · exact rfl
  · exact rfl

/-- A precondition that does not depend on the state. -/
theorem triple_of_and {φ : Prop} {p : Prog C R ε α} {post : α → σ → Prop}
    (h : φ → Triple serve pre p post raised) :
    Triple serve (fun s => φ ∧ pre s) p post raised :=
  fun s hs => h hs.1 s hs.2

theorem Triple.and {p : Prog C R ε α} {pre' : σ → Prop} {post post' : α → σ → Prop}
    {raised' : ε → σ → Prop} (h : Triple serve pre p post raised)
    (h' : Triple serve pre' p post' raised') :
    Triple serve (fun s => pre s ∧ pre' s) p (fun a s => post a s ∧ post' a s)
      (fun e s => raised e s ∧ raised' e s) := by
  intro s hs
  have hout := h s hs.1
  have hout' := h' s hs.2
  rcases hrun : run serve p s with ⟨a | a, s'⟩ <;> rw [hrun] at hout hout' <;> exact ⟨hout, hout'⟩

/-- A run keeps what each of its calls keeps. -/
theorem Calls.triple {allowed : C → Prop} {p : Prog C R ε α} (hp : p.Calls allowed)
    (hstep : ∀ c s, allowed c → pre s → pre (serve c s).2) :
    Triple serve pre p (fun _ => pre) (fun _ => pre) := by
  intro s hs
  induction p generalizing s with
  | ret a => exact hs
  | raise e => exact hs
  | call c k ih => exact ih (serve c s).1 (hp.2 _) (serve c s).2 (hstep c s hp.1 hs)

/-- Two servers that answer the calls of a program alike. -/
theorem Calls.run_congr {allowed : C → Prop} {p : Prog C R ε α} (hp : p.Calls allowed)
    {serve' : (c : C) → σ → R c × σ} (h : ∀ c s, allowed c → serve c s = serve' c s) (s : σ) :
    run serve p s = run serve' p s := by
  induction p generalizing s with
  | ret a => rfl
  | raise e => rfl
  | call c k ih =>
    rw [run_call, run_call, h c s hp.1]
    exact ih (serve' c s).1 (hp.2 _) (serve' c s).2

/-- A program that calls nothing leaves the state as it is. -/
theorem Calls.state_eq {p : Prog C R ε α} (hp : p.Calls fun _ => False) (s : σ) :
    (run serve p s).2 = s := by
  cases p with
  | ret a => rfl
  | raise e => rfl
  | call c k => exact hp.1.elim

theorem Triple.returns {p : Prog C R ε α} {post : α → σ → Prop} {returned : α → Prop}
    (h : Triple serve pre p post raised) (hp : p.Returns returned) :
    Triple serve pre p (fun a s => post a s ∧ returned a) raised := by
  intro s hs
  have hout := h s hs
  have hreturned : ∀ (p : Prog C R ε α) (s : σ), p.Returns returned →
      Outcome (fun a _ => returned a) (fun _ _ => True) (run serve p s) := by
    intro p
    induction p with
    | ret a => exact fun s hp => hp
    | raise e => exact fun s hp => trivial
    | call c k ih => exact fun s hp => ih _ _ (hp _)
  have hvalue := hreturned p s hp
  rcases hrun : run serve p s with ⟨a | a, s'⟩ <;> rw [hrun] at hout hvalue
  · exact hout
  · exact ⟨hout, hvalue⟩

theorem Triple.raises {p : Prog C R ε α} {post : α → σ → Prop} {errors : ε → Prop}
    (h : Triple serve pre p post raised) (hp : p.Raises errors) :
    Triple serve pre p post fun e s => raised e s ∧ errors e := by
  intro s hs
  have hout := h s hs
  rcases hrun : run serve p s with ⟨e | a, s'⟩ <;> rw [hrun] at hout
  · exact ⟨hout, Raises.run serve hp hrun⟩
  · exact hout

theorem Triple.state {p : Prog C R ε α} {I : σ → Prop}
    (h : Triple serve pre p (fun _ => I) (fun _ => I)) {s : σ} (hs : pre s) :
    I (run serve p s).2 := by
  have hout := h s hs
  rcases hrun : run serve p s with ⟨a | a, s'⟩ <;> rw [hrun] at hout <;> exact hout

theorem Triple.value {p : Prog C R ε α} {post : α → σ → Prop} (h : Triple serve pre p post raised)
    {s s' : σ} {a : α} (hs : pre s) (hrun : run serve p s = (.ok a, s')) : post a s' := by
  have hout := h s hs
  rw [hrun] at hout
  exact hout

end Triple

/-! ### Two runs side by side -/

/-- Two runs end with related values, or raise the same error. -/
def Outcomes (post : α → β → σ → σ → Prop) (raised : σ → σ → Prop) :
    Except ε α × σ → Except ε β × σ → Prop
  | (.ok a, s), (.ok b, t) => post a b s t
  | (.error e, s), (.error e', t) => e = e' ∧ raised s t
  | _, _ => False

/-- Runs from related states have related outcomes. -/
def Related (serve : (c : C) → σ → R c × σ) (pre : σ → σ → Prop) (p : Prog C R ε α)
    (q : Prog C R ε β) (post : α → β → σ → σ → Prop) (raised : σ → σ → Prop) : Prop :=
  ∀ s t, pre s t → Outcomes post raised (run serve p s) (run serve q t)

section Related

variable {serve} {α' β' : Type} {pre raised : σ → σ → Prop}

theorem related_ret {post : α → β → σ → σ → Prop} {a : α} {b : β}
    (h : ∀ s t, pre s t → post a b s t) :
    Related serve pre (.ret a : Prog C R ε α) (.ret b) post raised :=
  fun s t hst => h s t hst

theorem related_raise {post : α → β → σ → σ → Prop} {e : ε}
    (h : ∀ s t, pre s t → raised s t) :
    Related serve pre (.raise e : Prog C R ε α) (.raise e : Prog C R ε β) post raised :=
  fun s t hst => ⟨rfl, h s t hst⟩

theorem Related.bind {p : Prog C R ε α} {q : Prog C R ε β} {f : α → Prog C R ε α'}
    {g : β → Prog C R ε β'} (mid : α → β → σ → σ → Prop) {post : α' → β' → σ → σ → Prop}
    (hpq : Related serve pre p q mid raised)
    (hfg : ∀ a b, Related serve (mid a b) (f a) (g b) post raised) :
    Related serve pre (p.bind f) (q.bind g) post raised := by
  intro s t hst
  have hmid := hpq s t hst
  rw [run_bind, run_bind]
  rcases hs : run serve p s with ⟨a | a, s'⟩ <;> rcases ht : run serve q t with ⟨b | b, t'⟩ <;>
    rw [hs, ht] at hmid
  · exact hmid
  · exact hmid.elim
  · exact hmid.elim
  · exact hfg a b s' t' hmid

theorem Related.tryCatch {p : Prog C R ε α} {q : Prog C R ε β} {f : ε → Prog C R ε α}
    {g : ε → Prog C R ε β} {post : α → β → σ → σ → Prop} (mid : σ → σ → Prop)
    (hpq : Related serve pre p q post mid)
    (hfg : ∀ e, Related serve mid (f e) (g e) post raised) :
    Related serve pre (p.tryCatch f) (q.tryCatch g) post raised := by
  intro s t hst
  have hmid := hpq s t hst
  rw [run_tryCatch, run_tryCatch]
  rcases hs : run serve p s with ⟨a | a, s'⟩ <;> rcases ht : run serve q t with ⟨b | b, t'⟩ <;>
    rw [hs, ht] at hmid
  · obtain ⟨rfl, hmid⟩ := hmid
    exact hfg a s' t' hmid
  · exact hmid.elim
  · exact hmid.elim
  · exact hmid

theorem Related.weaken {p : Prog C R ε α} {q : Prog C R ε β} {pre' raised' : σ → σ → Prop}
    {post post' : α → β → σ → σ → Prop} (h : Related serve pre p q post raised)
    (hpre : ∀ s t, pre' s t → pre s t) (hpost : ∀ a b s t, post a b s t → post' a b s t)
    (hraised : ∀ s t, raised s t → raised' s t) : Related serve pre' p q post' raised' := by
  intro s t hst
  have hout := h s t (hpre s t hst)
  rcases hs : run serve p s with ⟨a | a, s'⟩ <;> rcases ht : run serve q t with ⟨b | b, t'⟩ <;>
    rw [hs, ht] at hout
  · exact ⟨hout.1, hraised s' t' hout.2⟩
  · exact hout
  · exact hout
  · exact hpost a b s' t' hout

/-- A program whose calls all get the same reply in related states. -/
theorem Calls.related {allowed : C → Prop} {p : Prog C R ε α} (hp : p.Calls allowed)
    (hstep : ∀ c s t, allowed c → pre s t →
      (serve c s).1 = (serve c t).1 ∧ pre (serve c s).2 (serve c t).2) :
    Related serve pre p p (fun a b s t => a = b ∧ pre s t) pre := by
  intro s t hst
  induction p generalizing s t with
  | ret a => exact ⟨rfl, hst⟩
  | raise e => exact ⟨rfl, hst⟩
  | call c k ih =>
    obtain ⟨hreply, hnext⟩ := hstep c s t hp.1 hst
    rw [run_call, run_call, ← hreply]
    exact ih (serve c s).1 (hp.2 _) (serve c s).2 (serve c t).2 hnext

theorem Related.outcome_eq {p q : Prog C R ε α} {post : σ → σ → Prop}
    (h : Related serve pre p q (fun a b s t => a = b ∧ post s t) raised) {s t : σ}
    (hst : pre s t) : (run serve p s).1 = (run serve q t).1 := by
  have hout := h s t hst
  rcases hs : run serve p s with ⟨a | a, s'⟩ <;> rcases ht : run serve q t with ⟨b | b, t'⟩ <;>
    rw [hs, ht] at hout
  · exact congrArg Except.error hout.1
  · exact hout.elim
  · exact hout.elim
  · exact congrArg Except.ok hout.1

/-- Both runs end in related states. -/
theorem Related.final {p q : Prog C R ε α} {post : σ → σ → Prop}
    (h : Related serve pre p q (fun a b s t => a = b ∧ post s t) post) {s t : σ}
    (hst : pre s t) : post (run serve p s).2 (run serve q t).2 := by
  have hout := h s t hst
  rcases hs : run serve p s with ⟨a | a, s'⟩ <;> rcases ht : run serve q t with ⟨b | b, t'⟩ <;>
    rw [hs, ht] at hout
  · exact hout.2
  · exact hout.elim
  · exact hout.elim
  · exact hout.2

end Related

end Run

/-! ### Recorded runs -/

/-- A server whose state is the list of all calls so far. -/
def recorded (reply : List C → (c : C) → R c) (c : C) (history : List C) : R c × List C :=
  (reply history c, history ++ [c])

/-- The state that the calls of a history lead to. -/
def replay {σ : Type} (step : List C → σ → C → σ) (start : σ) (history : List C) : σ :=
  (history.foldl (fun now c => (now.1 ++ [c], step now.1 now.2 c)) ([], start)).2

theorem replay_concat {σ : Type} (step : List C → σ → C → σ) (start : σ) (history : List C)
    (c : C) :
    replay step start (history ++ [c]) = step history (replay step start history) c := by
  have hpast : ∀ (calls : List C) (now : List C × σ),
      (calls.foldl (fun now c => (now.1 ++ [c], step now.1 now.2 c)) now).1 = now.1 ++ calls := by
    intro calls
    induction calls with
    | nil => exact fun now => (List.append_nil now.1).symm
    | cons c calls ih =>
      intro now
      rw [List.foldl_cons, ih, List.append_assoc, List.singleton_append]
  rw [replay, List.foldl_append, List.foldl_cons, List.foldl_nil, hpast, List.nil_append, replay]

end Prog

end RenkuNotebooks
