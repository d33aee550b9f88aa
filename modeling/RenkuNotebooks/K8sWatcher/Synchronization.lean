import Mathlib.Logic.Function.Basic
import RenkuNotebooks.Foundation.PartialRuns
import RenkuNotebooks.K8sWatcher.CacheCollection

/-!
# Waiting for the caches

`CacheCollection.synchronize` starts a goroutine for each cache and one for the timeout, and
receives what they send on two channels without buffers: sending and receiving a message is one
step of both.
-/

namespace RenkuNotebooks.K8sWatcher

open PartialRuns

/-- The goroutine of `Cache.synchronize`. -/
inductive Sync where
  | waiting
  /-- It is about to send `false`. -/
  | failed
  /-- It is about to send `true`, which it also does after it has sent `false`. -/
  | reporting (synced : Bool)
  | reported (synced : Bool)
  deriving DecidableEq

/-- The goroutine that sleeps for the timeout. -/
inductive Timer where
  | sleeping
  /-- It is about to send its message. -/
  | expired
  | received
  deriving DecidableEq

/-- The loop of `CacheCollection.synchronize`. -/
inductive Loop where
  | waiting (syncCount : Nat)
  | returned
  /-- `log.Fatalf` ends the process. -/
  | terminated
  deriving DecidableEq

structure Synchronization where
  loop : Loop
  timer : Timer
  syncs : String → Sync

inductive SyncAction where
  | syncEnds (ns : String)
  | expires
  | receiveDone (ns : String)
  | receiveTimeout
  | leaves
  deriving DecidableEq

namespace Synchronization

def start : Synchronization := ⟨.waiting 0, .sleeping, fun _ => .waiting⟩

def setSync (s : Synchronization) (ns : String) (sync : Sync) : Synchronization :=
  { s with syncs := Function.update s.syncs ns sync }

/-- The select statement, unless all caches have been counted. -/
def receiving (c : CacheCollection) (s : Synchronization) : Option Nat :=
  match s.loop with
  | .waiting syncCount => if syncCount = c.caches.length then none else some syncCount
  | _ => none

/-- `outcome` is what `WaitForCacheSync` returns, if it does. -/
def step (c : CacheCollection) (outcome : String → Option Bool) (action : SyncAction)
    (s : Synchronization) : Option Synchronization :=
  if s.loop = .terminated then none
  else match action with
    | .syncEnds ns =>
      if ns ∈ c.caches.map (·.1) ∧ s.syncs ns = .waiting then
        (outcome ns).map fun synced => s.setSync ns (if synced then .reporting true else .failed)
      else none
    | .expires => if s.timer = .sleeping then some { s with timer := .expired } else none
    | .receiveDone ns =>
      (receiving c s).bind fun syncCount =>
        match s.syncs ns with
        | .failed => some { s.setSync ns (.reporting false) with loop := .terminated }
        | .reporting synced =>
          some { s.setSync ns (.reported synced) with loop := .waiting (syncCount + 1) }
        | _ => none
    | .receiveTimeout =>
      (receiving c s).bind fun _ =>
        if s.timer = .expired then some { s with timer := .received, loop := .terminated } else none
    | .leaves =>
      if s.loop = .waiting c.caches.length then some { s with loop := .returned } else none

/-! ### What a step can do -/

section

variable (c : CacheCollection) (outcome : String → Option Bool)

/-- The steps from a state whose process has not ended. -/
inductive Transition : SyncAction → Synchronization → Synchronization → Prop
  | syncEnds {s ns synced} : ns ∈ c.caches.map (·.1) → s.syncs ns = .waiting →
    outcome ns = some synced →
      Transition (.syncEnds ns) s (s.setSync ns (if synced then .reporting true else .failed))
  | expires {s} : s.timer = .sleeping → Transition .expires s { s with timer := .expired }
  | receiveFailure {s ns syncCount} : s.loop = .waiting syncCount → s.syncs ns = .failed →
    Transition (.receiveDone ns) s { s.setSync ns (.reporting false) with loop := .terminated }
  | receiveReport {s ns syncCount synced} : s.loop = .waiting syncCount →
    s.syncs ns = .reporting synced →
      Transition (.receiveDone ns) s
        { s.setSync ns (.reported synced) with loop := .waiting (syncCount + 1) }
  | receiveTimeout {s syncCount} : s.loop = .waiting syncCount → s.timer = .expired →
    Transition .receiveTimeout s { s with timer := .received, loop := .terminated }
  | leaves {s} : s.loop = .waiting c.caches.length →
    Transition .leaves s { s with loop := .returned }

end

section

variable {c : CacheCollection} {outcome : String → Option Bool} {s s' : Synchronization}
  {action : SyncAction}

theorem receiving_eq_some {syncCount : Nat} (h : receiving c s = some syncCount) :
    s.loop = .waiting syncCount := by
  unfold receiving at h
  split at h
  next loop =>
    split at h
    · cases h
    · cases h
      exact loop
  · cases h

theorem step_of_terminated (h : s.loop = .terminated) : step c outcome action s = none := by
  unfold step
  rw [if_pos h]

theorem transition_of_step (h : step c outcome action s = some s') :
    s.loop ≠ .terminated ∧ Transition c outcome action s s' := by
  by_cases hloop : s.loop = .terminated
  · rw [step_of_terminated hloop] at h
    cases h
  refine ⟨hloop, ?_⟩
  unfold step at h
  rw [if_neg hloop] at h
  cases action with
  | syncEnds ns =>
    dsimp only at h
    split at h
    next hns =>
      obtain ⟨synced, houtcome, rfl⟩ := Option.map_eq_some_iff.mp h
      exact .syncEnds hns.1 hns.2 houtcome
    · cases h
  | expires =>
    dsimp only at h
    split at h
    next htimer =>
      cases h
      exact .expires htimer
    · cases h
  | receiveDone ns =>
    obtain ⟨syncCount, hreceiving, h⟩ := Option.bind_eq_some_iff.mp h
    have hcount := receiving_eq_some hreceiving
    split at h
    next hsync =>
      cases h
      exact .receiveFailure hcount hsync
    next hsync =>
      cases h
      exact .receiveReport hcount hsync
    · cases h
  | receiveTimeout =>
    obtain ⟨syncCount, hreceiving, h⟩ := Option.bind_eq_some_iff.mp h
    have hcount := receiving_eq_some hreceiving
    split at h
    next htimer =>
      cases h
      exact .receiveTimeout hcount htimer
    · cases h
  | leaves =>
    dsimp only at h
    split at h
    next hall =>
      cases h
      exact .leaves hall
    · cases h

/-! ### Which caches are counted -/

/-- The namespaces whose reports have been received. -/
def reportedIn (c : CacheCollection) (s : Synchronization) : List String :=
  (c.caches.map (·.1)).filter fun ns => s.syncs ns = .reported true

/-- What holds as long as the process runs. -/
structure Sound (c : CacheCollection) (outcome : String → Option Bool) (s : Synchronization) :
    Prop where
  /-- Only caches that failed are about to say so. -/
  failed : ∀ ns, s.syncs ns = .failed → outcome ns = some false
  synced : ∀ ns, s.syncs ns = .reporting true ∨ s.syncs ns = .reported true →
    ns ∈ c.caches.map (·.1) ∧ outcome ns = some true
  timer : s.timer ≠ .received
  /-- No cache that failed has been listened to. -/
  honest : ∀ ns, s.syncs ns ≠ .reporting false ∧ s.syncs ns ≠ .reported false
  counted : ∀ syncCount, s.loop = .waiting syncCount → syncCount = (reportedIn c s).length
  returned : s.loop = .returned → ∀ ns ∈ c.caches.map (·.1), s.syncs ns = .reported true

/-- The process has ended, or all is sound. -/
def Good (c : CacheCollection) (outcome : String → Option Bool) (s : Synchronization) : Prop :=
  s.loop = .terminated ∨ Sound c outcome s

theorem length_filter_add {names : List String} {ns : String} {p p' : String → Bool}
    (hnodup : names.Nodup) (hmem : ns ∈ names) (hother : ∀ x, x ≠ ns → p' x = p x)
    (hbefore : p ns = false) (hafter : p' ns = true) :
    (names.filter p').length = (names.filter p).length + 1 := by
  induction names with
  | nil => cases hmem
  | cons x names ih =>
    obtain ⟨hx, hnodup⟩ := List.nodup_cons.mp hnodup
    by_cases hns : x = ns
    · subst hns
      have hrest : names.filter p' = names.filter p :=
        List.filter_congr fun y hy => hother y fun heq => hx (heq ▸ hy)
      rw [List.filter_cons_of_pos hafter, List.filter_cons_of_neg (by rw [hbefore]; nofun), hrest,
        List.length_cons]
    · have hlater := ih hnodup ((List.mem_cons.mp hmem).resolve_left fun heq => hns heq.symm)
      rw [List.filter_cons, List.filter_cons, hother x hns]
      split
      · rw [List.length_cons, List.length_cons, hlater]
      · exact hlater

theorem setSync_self (s : Synchronization) (ns : String) (sync : Sync) :
    (s.setSync ns sync).syncs ns = sync :=
  Function.update_self ..

theorem setSync_of_ne {ns x : String} (h : x ≠ ns) (s : Synchronization) (sync : Sync) :
    (s.setSync ns sync).syncs x = s.syncs x :=
  Function.update_of_ne h ..

theorem sound_start : Sound c outcome start where
  failed ns h := by cases h
  synced ns h := by rcases h with h | h <;> cases h
  timer h := by cases h
  honest ns := ⟨nofun, nofun⟩
  counted syncCount h := by
    have hnone : reportedIn c start = [] := List.filter_eq_nil_iff.mpr fun ns _ h => by cases h
    rw [hnone, ← Loop.waiting.inj h]
    rfl
  returned h := by cases h

/-- The end of a sync is no report yet. -/
theorem Sound.syncEnds {ns : String} {synced : Bool} (h : Sound c outcome s)
    (hns : ns ∈ c.caches.map (·.1)) (hwaiting : s.syncs ns = .waiting)
    (houtcome : outcome ns = some synced) :
    Sound c outcome (s.setSync ns (if synced then .reporting true else .failed)) := by
  have hreported : ∀ x, (s.setSync ns (if synced then .reporting true else .failed)).syncs x =
      .reported true ↔ s.syncs x = .reported true := by
    intro x
    by_cases hx : x = ns
    · rw [hx, setSync_self, hwaiting]
      cases synced <;> exact ⟨nofun, nofun⟩
    · rw [setSync_of_ne hx]
  constructor
  · intro x hx
    by_cases hxs : x = ns
    · rw [hxs, setSync_self] at hx
      cases synced with
      | true => cases hx
      | false => rw [hxs, houtcome]
    · rw [setSync_of_ne hxs] at hx
      exact h.failed x hx
  · intro x hx
    by_cases hxs : x = ns
    · rw [hxs, setSync_self] at hx
      cases synced with
      | true => exact ⟨hxs ▸ hns, hxs ▸ houtcome⟩
      | false => rcases hx with hx | hx <;> cases hx
    · rw [setSync_of_ne hxs] at hx
      exact h.synced x hx
  · exact h.timer
  · intro x
    by_cases hxs : x = ns
    · rw [hxs, setSync_self]
      cases synced <;> exact ⟨nofun, nofun⟩
    · rw [setSync_of_ne hxs]
      exact h.honest x
  · intro syncCount hloop
    rw [h.counted syncCount hloop, reportedIn, reportedIn]
    exact congrArg List.length
      (List.filter_congr fun x _ => decide_eq_decide.mpr (hreported x).symm)
  · intro hloop x hx
    exact (hreported x).mpr (h.returned hloop x hx)

/-- One more report is one more counted. -/
theorem Sound.receiveReport {ns : String} {syncCount : Nat} {synced : Bool}
    (h : Sound c outcome s) (hloop : s.loop = .waiting syncCount)
    (hreporting : s.syncs ns = .reporting synced) :
    Sound c outcome { s.setSync ns (.reported synced) with loop := .waiting (syncCount + 1) } := by
  obtain rfl : synced = true := by
    cases synced with
    | true => rfl
    | false => exact absurd hreporting (h.honest ns).1
  obtain ⟨hns, houtcome⟩ := h.synced ns (.inl hreporting)
  constructor
  · intro x hx
    by_cases hxs : x = ns
    · rw [hxs] at hx
      cases (setSync_self s ns _).symm.trans hx
    · exact h.failed x ((setSync_of_ne hxs s _).symm.trans hx)
  · intro x hx
    by_cases hxs : x = ns
    · exact hxs ▸ ⟨hns, houtcome⟩
    · have hsame := setSync_of_ne hxs s (.reported true)
      exact h.synced x (hx.imp hsame.symm.trans hsame.symm.trans)
  · exact h.timer
  · intro x
    by_cases hxs : x = ns
    · have hself := setSync_self s ns (.reported true)
      subst hxs
      constructor
      · intro hx
        cases hself.symm.trans hx
      · intro hx
        cases hself.symm.trans hx
    · have hsame := setSync_of_ne hxs s (.reported true)
      exact ⟨fun hx => (h.honest x).1 (hsame.symm.trans hx),
        fun hx => (h.honest x).2 (hsame.symm.trans hx)⟩
  · intro syncCount' hloop'
    obtain rfl := Loop.waiting.inj hloop'
    rw [h.counted syncCount hloop]
    refine (length_filter_add c.nodup hns (fun x hx => ?_) ?_ ?_).symm
    · exact decide_eq_decide.mpr (by rw [setSync_of_ne hx])
    · rw [hreporting]
      rfl
    · exact decide_eq_true (setSync_self s ns _)
  · intro hreturned
    cases hreturned

theorem Sound.leaves (h : Sound c outcome s) (hall : s.loop = .waiting c.caches.length) :
    Sound c outcome { s with loop := .returned } where
  failed := h.failed
  synced := h.synced
  timer := h.timer
  honest := h.honest
  counted _ hloop := by cases hloop
  returned _ ns hns := by
    have hcount := h.counted _ hall
    have hlength : (reportedIn c s).length = (c.caches.map (·.1)).length := by
      rw [← hcount, List.length_map]
    exact of_decide_eq_true (List.length_filter_eq_length_iff.mp hlength ns hns)

theorem good_step (h : Good c outcome s) (hstep : step c outcome action s = some s') :
    Good c outcome s' := by
  obtain ⟨hloop, htransition⟩ := transition_of_step hstep
  have hsound := h.resolve_left hloop
  cases htransition with
  | syncEnds hns hwaiting houtcome => exact .inr (hsound.syncEnds hns hwaiting houtcome)
  | expires _ => exact .inr { hsound with timer := nofun }
  | receiveFailure _ _ => exact .inl rfl
  | receiveReport hcount hreporting => exact .inr (hsound.receiveReport hcount hreporting)
  | receiveTimeout _ _ => exact .inl rfl
  | leaves hall => exact .inr (hsound.leaves hall)

/-! ### Whole runs -/

theorem good_run {actions : List SyncAction} (h : run (step c outcome) actions start = some s) :
    Good c outcome s :=
  run_invariant (fun _ _ _ => good_step) (.inr sound_start) h

/-- Only a process whose caches have all synced gets past the loop. -/
theorem synced_of_returned (h : Good c outcome s) (hreturned : s.loop = .returned) :
    ∀ ns ∈ c.caches.map (·.1), s.syncs ns = .reported true ∧ outcome ns = some true := by
  have hsound := h.resolve_left fun hterminated => by
    rw [hreturned] at hterminated
    cases hterminated
  intro ns hns
  have hreported := hsound.returned hreturned ns hns
  exact ⟨hreported, (hsound.synced ns (.inr hreported)).2⟩

theorem terminated_of_timeout (h : step c outcome .receiveTimeout s = some s') :
    s'.loop = .terminated := by
  cases (transition_of_step h).2
  rfl

theorem terminated_step (h : s.loop = .terminated) (hstep : step c outcome action s = some s') :
    s'.loop = .terminated := by
  rw [step_of_terminated h] at hstep
  cases hstep

/-- While the loop waits, something can happen: at the latest, the time runs out. -/
theorem not_stuck_of_waiting {syncCount : Nat} (h : Sound c outcome s)
    (hloop : s.loop = .waiting syncCount) : ¬ Stuck (step c outcome) s := by
  intro hstuck
  have hrunning : s.loop ≠ .terminated := by
    rw [hloop]
    nofun
  by_cases hall : syncCount = c.caches.length
  · have hleaves := hstuck .leaves
    unfold step at hleaves
    rw [if_neg hrunning] at hleaves
    simp [hloop, hall] at hleaves
  cases htimer : s.timer with
  | sleeping =>
    have hexpires := hstuck .expires
    unfold step at hexpires
    rw [if_neg hrunning] at hexpires
    simp [htimer] at hexpires
  | expired =>
    have htimeout := hstuck .receiveTimeout
    unfold step at htimeout
    rw [if_neg hrunning] at htimeout
    simp [receiving, hloop, hall, htimer] at htimeout
  | received => exact h.timer htimer

theorem ended_of_stuck (h : Good c outcome s) (hstuck : Stuck (step c outcome) s) :
    s.loop = .returned ∨ s.loop = .terminated := by
  rcases h with hterminated | hsound
  · exact .inr hterminated
  cases hloop : s.loop with
  | waiting syncCount => exact absurd hstuck (not_stuck_of_waiting hsound hloop)
  | returned => exact .inl rfl
  | terminated => exact .inr rfl

/-! ### How long a run can be -/

/-- The steps that a goroutine still has before it. -/
def syncAhead : Sync → Nat
  | .waiting => 3
  | .failed => 2
  | .reporting _ => 1
  | .reported _ => 0

def timerAhead : Timer → Nat
  | .sleeping => 2
  | .expired => 1
  | .received => 0

def loopAhead : Loop → Nat
  | .waiting _ => 1
  | .returned | .terminated => 0

def syncsAhead (syncs : String → Sync) : List String → Nat
  | [] => 0
  | ns :: names => syncAhead (syncs ns) + syncsAhead syncs names

def ahead (c : CacheCollection) (s : Synchronization) : Nat :=
  syncsAhead s.syncs (c.caches.map (·.1)) + timerAhead s.timer + loopAhead s.loop

theorem syncsAhead_start (names : List String) :
    syncsAhead start.syncs names = 3 * names.length := by
  induction names with
  | nil => rfl
  | cons ns names ih =>
    rw [syncsAhead, ih, List.length_cons]
    simp only [start, syncAhead]
    omega

theorem syncsAhead_setSync_le (s : Synchronization) {ns : String} (sync : Sync)
    (h : syncAhead sync ≤ syncAhead (s.syncs ns)) (names : List String) :
    syncsAhead (s.setSync ns sync).syncs names ≤ syncsAhead s.syncs names := by
  induction names with
  | nil => exact le_rfl
  | cons x names ih =>
    rw [syncsAhead, syncsAhead]
    by_cases hx : x = ns
    · rw [hx, setSync_self]
      omega
    · rw [setSync_of_ne hx]
      omega

theorem syncsAhead_setSync_lt (s : Synchronization) {ns : String} (sync : Sync)
    {names : List String}
    (h : syncAhead sync < syncAhead (s.syncs ns)) (hmem : ns ∈ names) :
    syncsAhead (s.setSync ns sync).syncs names < syncsAhead s.syncs names := by
  induction names with
  | nil => cases hmem
  | cons x names ih =>
    rw [syncsAhead, syncsAhead]
    have hle := syncsAhead_setSync_le s sync (Nat.le_of_lt h) names
    by_cases hx : x = ns
    · rw [hx, setSync_self]
      omega
    · have hlater := ih ((List.mem_cons.mp hmem).resolve_left fun heq => hx heq.symm)
      rw [setSync_of_ne hx]
      omega

theorem ahead_step (h : Good c outcome s) (hstep : step c outcome action s = some s') :
    ahead c s' < ahead c s := by
  obtain ⟨hloop, htransition⟩ := transition_of_step hstep
  have hsound := h.resolve_left hloop
  unfold ahead
  cases htransition with
  | @syncEnds _ ns synced hns hwaiting houtcome =>
    have hless := syncsAhead_setSync_lt s (if synced then .reporting true else .failed)
      (by rw [hwaiting]; cases synced <;> decide) hns
    dsimp only [setSync] at hless ⊢
    omega
  | expires htimer =>
    rw [htimer]
    simp only [timerAhead]
    omega
  | @receiveFailure _ ns syncCount hcount hfailed =>
    have hfewer : syncAhead (.reporting false) ≤ syncAhead (s.syncs ns) := by
      rw [hfailed]
      decide
    have hle := syncsAhead_setSync_le s (.reporting false) hfewer (c.caches.map (·.1))
    rw [hcount]
    dsimp only [setSync, loopAhead] at hle ⊢
    omega
  | @receiveReport _ ns syncCount synced hcount hreporting =>
    obtain rfl : synced = true := by
      cases synced with
      | true => rfl
      | false => exact absurd hreporting (hsound.honest ns).1
    have hless := syncsAhead_setSync_lt s (.reported true)
      (by rw [hreporting]; decide) (hsound.synced ns (.inl hreporting)).1
    rw [hcount]
    dsimp only [setSync, loopAhead] at hless ⊢
    omega
  | receiveTimeout hcount htimer =>
    rw [hcount, htimer]
    simp only [loopAhead, timerAhead]
    omega
  | leaves hall =>
    rw [hall]
    simp only [loopAhead]
    omega

variable {actions : List SyncAction}

theorem run_length (h : run (step c outcome) actions start = some s) :
    actions.length ≤ 3 * c.caches.length + 3 := by
  have hbound := run_length_le (Good c outcome) (ahead c) (fun _ _ _ => good_step)
    (fun _ _ _ => ahead_step) (.inr sound_start) h
  have hstart : ahead c start = 3 * c.caches.length + 2 + 1 := by
    rw [ahead, syncsAhead_start, List.length_map]
    rfl
  omega

/-- `synchronize` returns only after every cache has synced. If one does not sync, or if the timeout
is received, it does not return, and as no run goes on for ever, the process ends. -/
theorem synchronize_safe (h : run (step c outcome) actions start = some s) :
    (s.loop = .returned →
      ∀ ns ∈ c.caches.map (·.1), s.syncs ns = .reported true ∧ outcome ns = some true) ∧
    ((∃ ns ∈ c.caches.map (·.1), outcome ns ≠ some true) ∨ .receiveTimeout ∈ actions →
      s.loop ≠ .returned ∧ (Stuck (step c outcome) s → s.loop = .terminated)) ∧
    actions.length ≤ 3 * c.caches.length + 3 := by
  have hgood := good_run h
  refine ⟨synced_of_returned hgood, fun hwrong => ?_, run_length h⟩
  have hnot : s.loop ≠ .returned := by
    intro hreturned
    rcases hwrong with ⟨ns, hns, hfailed⟩ | htimeout
    · exact hfailed (synced_of_returned hgood hreturned ns hns).2
    · have hterminated := run_of_mem (J := fun s => s.loop = .terminated) h htimeout
        (.inr sound_start) (fun _ _ _ => good_step) (fun _ _ _ => terminated_step)
        fun _ _ _ => terminated_of_timeout
      rw [hreturned] at hterminated
      cases hterminated
  exact ⟨hnot, fun hstuck => (ended_of_stuck hgood hstuck).resolve_left hnot⟩

end

/-! ### Two caches, one of which fails -/

theorem emptyCache_named (name : String) (object : Json)
    (h : (∅ : Std.ExtTreeMap String Json)[name]? = some object) :
    object.dig ["metadata", "name"] = some (.str name) := by
  rw [Std.ExtTreeMap.getElem?_empty] at h
  cases h

def emptyCache : Cache := ⟨∅, emptyCache_named, "userId"⟩

theorem twoCaches_nodup : ([("renku", emptyCache), ("sessions", emptyCache)].map (·.1)).Nodup := by
  decide

def twoCaches : CacheCollection :=
  ⟨[("renku", emptyCache), ("sessions", emptyCache)], twoCaches_nodup⟩

def oneFails (ns : String) : Option Bool := some (ns = "renku")

theorem oneFails_run : ∃ s, run (step twoCaches oneFails)
    [.syncEnds "renku", .syncEnds "sessions", .receiveDone "renku", .receiveDone "sessions"] start =
      some s ∧ Stuck (step twoCaches oneFails) s :=
  ⟨_, rfl, fun _ => step_of_terminated rfl⟩

theorem oneFails_terminates : ∃ s, run (step twoCaches oneFails)
    [.syncEnds "renku", .syncEnds "sessions", .receiveDone "renku", .receiveDone "sessions"] start =
      some s ∧ s.loop = .terminated := by
  obtain ⟨s, hrun, hstuck⟩ := oneFails_run
  refine ⟨s, hrun, ((synchronize_safe hrun).2.1 (.inl ⟨"sessions", ?_, ?_⟩)).2 hstuck⟩
  · decide
  · decide

end Synchronization

end RenkuNotebooks.K8sWatcher
