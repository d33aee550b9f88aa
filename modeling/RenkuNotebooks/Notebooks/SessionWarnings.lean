import Mathlib.Algebra.Order.Field.Rat
import Mathlib.Algebra.Order.Group.MinMax
import RenkuNotebooks.Foundation.Results
import RenkuNotebooks.Notebooks.PyDict

/-!
# Warnings of a session

The warnings that `get_status` adds to the status of a session. Times are in seconds, as exact
numbers.
-/

namespace RenkuNotebooks.Notebooks.SessionWarnings

open PyDict

inductive Warning where
  | defaultImage
  | idle (action : String) (seconds : Json) (critical : Bool)
  | hibernated (seconds : Json) (critical : Bool)
  | maxAge (seconds : Json) (critical : Bool)
  deriving DecidableEq

def Warning.message (pyRepr : Json → String) : Warning → String
  | .defaultImage => "Server was started using the default image."
  | .idle action seconds _ =>
    "Server is idle and will be " ++ action ++ " in " ++ pyRepr seconds ++ " seconds."
  | .hibernated seconds _ =>
    "Server is hibernated and will be terminated in " ++ pyRepr seconds ++ " seconds."
  | .maxAge seconds _ => "Server is reaching the maximum session age and will be terminated in " ++
    pyRepr seconds ++ " seconds."

/-- The first warning has no such key. -/
def Warning.critical : Warning → Option Bool
  | .defaultImage => none
  | .idle _ _ critical | .hibernated _ critical | .maxAge _ critical => some critical

/-- A value that Python compares with a number. -/
def number : Json → Except PyError Rat
  | .bool b => .ok (if b then 1 else 0)
  | .int n => .ok n
  | .float q => .ok q
  | _ => .error .typeError

/-- `max(seconds, 0)` -/
def maxZero (seconds : Json) : Except PyError Json := do
  let value ← number seconds
  pure (if 0 > value then .int 0 else seconds)

/-- The configured duration, and `fromisoformat` with the date in seconds since the epoch; a date
without a time zone raises where it is subtracted. -/
structure StatusLibrary where
  terminationWarningDurationSeconds : Rat
  fromisoformat : String → Except PyError Rat

/-- When `get_status` runs: it reads the clock a second time for the age of the session. -/
structure Clock where
  now : Rat
  later : Rat

section

variable (library : StatusLibrary) (manifest : Json)

def annotations : Except PyError Json := do
  let metadata ← getOr "metadata" (.obj []) manifest
  getOr "annotations" (.obj []) metadata

def annotation (key : String) : Except PyError Json := do
  let annotations ← annotations manifest
  getOr key .null annotations

/-- `manifest.get("spec", {}).get("culling", {}).get(key, 0)` -/
def culling (key : String) : Except PyError Json := do
  let spec ← getOr "spec" (.obj []) manifest
  let culling ← getOr "culling" (.obj []) spec
  getOr key (.int 0) culling

def startsWithAnon (value : Json) : Except PyError Bool := do
  let s ← text value
  pure ("anon-".toList.isPrefixOf s.toList)

def isUserAnonymous : Except PyError Bool := do
  let annotations ← annotations manifest
  let userId ← getOr "renku.io/userId" (.str "") annotations
  if !(← startsWithAnon userId) then pure false
  else do
    let username ← getOr "renku.io/username" (.str "") annotations
    if !(← startsWithAnon username) then pure false
    else do
      let metadata ← getOr "metadata" (.obj []) manifest
      let name ← getOr "name" (.str "") metadata
      startsWithAnon name

/-- `datetime.fromisoformat(date)` -/
def dateOf : Json → Except PyError Rat
  | .str date => library.fromisoformat date
  | _ => .error .typeError

def critical (remaining : Rat) : Bool := remaining < library.terminationWarningDurationSeconds

def idleWarning (now : Rat) : Except PyError (List Warning) := do
  let lastActivityDate ← annotation manifest "renku.io/lastActivityDate"
  let idleThreshold ← culling manifest "idleSecondsThreshold" >>= number
  if idleThreshold > 0 ∧ lastActivityDate.truthy then do
    let lastActivity ← dateOf library lastActivityDate
    let remainingIdleTime := idleThreshold - (now - lastActivity)
    let action := if ← isUserAnonymous manifest then "deleted" else "hibernated"
    let seconds ← maxZero (.float remainingIdleTime)
    pure [.idle action seconds (critical library remainingIdleTime)]
  else pure []

def hibernationWarning (now : Rat) : Except PyError (List Warning) := do
  let hibernationDate ← annotation manifest "renku.io/hibernationDate"
  let hibernatedSecondsThreshold ← culling manifest "hibernatedSecondsThreshold"
  if hibernationDate.truthy then do
    let threshold ← number hibernatedSecondsThreshold
    if threshold > 0 then do
      if ← isUserAnonymous manifest then pure []
      else do
        let hibernation ← dateOf library hibernationDate
        let remainingHibernatedTime := threshold - (now - hibernation)
        let seconds ← maxZero hibernatedSecondsThreshold
        pure [.hibernated seconds (critical library remainingHibernatedTime)]
    else pure []
  else pure []

def maxAgeWarning (started later : Rat) : Except PyError (List Warning) := do
  let maxAgeThreshold ← culling manifest "maxAgeSecondsThreshold" >>= number
  let remainingSessionTime := maxAgeThreshold - (later - started)
  if maxAgeThreshold > 0 ∧ critical library remainingSessionTime then do
    let seconds ← maxZero (.float remainingSessionTime)
    pure [.maxAge seconds true]
  else pure []

/-- `output["warnings"]` of `get_status` -/
def getWarnings (usingDefaultImage : Bool) (started : Rat) (clock : Clock) :
    Except PyError (List Warning) := do
  let idle ← idleWarning library manifest clock.now
  let hibernated ← hibernationWarning library manifest clock.now
  let maxAge ← maxAgeWarning library manifest started clock.later
  pure ((if usingDefaultImage then [.defaultImage] else []) ++ idle ++ hibernated ++ maxAge)

end

/-! ### What the warnings say -/

section

variable (library : StatusLibrary) (manifest : Json) (started : Rat) (clock : Clock)

/-- The threshold and the time since which it runs out, for a warning of each kind. -/
def threshold (key : String) : Except PyError Rat := culling manifest key >>= number

def dateIn (key : String) : Except PyError Rat := annotation manifest key >>= dateOf library

/-- The seconds that remain are announced, and the warning is critical if they are few. -/
def Announces (threshold elapsed : Rat) (seconds : Json) (critical : Bool) : Prop :=
  number seconds = .ok (max (threshold - elapsed) 0) ∧
    (critical = true ↔ threshold - elapsed < library.terminationWarningDurationSeconds)

def Truthful : Warning → Prop
  | .defaultImage => True
  | .idle _ seconds critical => ∃ limit lastActivity,
    threshold manifest "idleSecondsThreshold" = .ok limit ∧
      dateIn library manifest "renku.io/lastActivityDate" = .ok lastActivity ∧
        Announces library limit (clock.now - lastActivity) seconds critical
  | .hibernated seconds critical => ∃ limit hibernation,
    threshold manifest "hibernatedSecondsThreshold" = .ok limit ∧
      dateIn library manifest "renku.io/hibernationDate" = .ok hibernation ∧
        Announces library limit (clock.now - hibernation) seconds critical
  | .maxAge seconds critical => ∃ limit, threshold manifest "maxAgeSecondsThreshold" = .ok limit ∧
    Announces library limit (clock.later - started) seconds critical

/-- What a warning announces. -/
def Warning.seconds : Warning → Option Json
  | .defaultImage => none
  | .idle _ seconds _ | .hibernated seconds _ | .maxAge seconds _ => some seconds

/-- Warnings of one kind. -/
def SameKind : Warning → Warning → Prop
  | .idle .., .idle .. | .hibernated .., .hibernated .. | .maxAge .., .maxAge .. => True
  | _, _ => False

/-- No warning announces more time than one of its kind before. -/
def NeverIncreases (warnings warnings' : List Warning) : Prop :=
  ∀ w ∈ warnings, ∀ w' ∈ warnings', SameKind w w' → ∀ seconds ∈ w.seconds,
    ∀ seconds' ∈ w'.seconds, ∃ announced announced', number seconds = .ok announced ∧
      number seconds' = .ok announced' ∧ announced' ≤ announced

/-- The session has been hibernated at this very time, if a warning about it is due. -/
def HibernatedNow : Prop :=
  ∀ limit hibernation, threshold manifest "hibernatedSecondsThreshold" = .ok limit → limit > 0 →
    dateIn library manifest "renku.io/hibernationDate" = .ok hibernation →
      (∀ date, annotation manifest "renku.io/hibernationDate" = .ok date → date.truthy = true) →
        isUserAnonymous manifest = .ok false → clock.now = hibernation

end

/-! ### One block after the other -/

section

variable {library : StatusLibrary} {manifest : Json} {started : Rat} {clock : Clock}

theorem number_maxZero {seconds found : Json} (h : maxZero seconds = .ok found) :
    ∃ value, number seconds = .ok value ∧ number found = .ok (max value 0) := by
  obtain ⟨value, hvalue, h⟩ := Results.bind_eq_ok_iff.mp h
  refine ⟨value, hvalue, ?_⟩
  cases h
  split
  next hneg =>
    rw [max_eq_right (le_of_lt hneg)]
    rfl
  next hneg => rw [max_eq_left (not_lt.mp hneg), hvalue]

theorem number_maxZero_float {q : Rat} {found : Json} (h : maxZero (.float q) = .ok found) :
    number found = .ok (max q 0) := by
  obtain ⟨value, hvalue, hfound⟩ := number_maxZero h
  obtain rfl : q = value := Except.ok.inj hvalue
  exact hfound

theorem critical_iff (remaining : Rat) :
    critical library remaining = true ↔ remaining < library.terminationWarningDurationSeconds :=
  decide_eq_true_iff

theorem idleWarning_spec {now : Rat} {warnings : List Warning}
    (h : idleWarning library manifest now = .ok warnings) :
    warnings = [] ∨ ∃ action seconds isCritical limit lastActivity,
      warnings = [.idle action seconds isCritical] ∧
        threshold manifest "idleSecondsThreshold" = .ok limit ∧
        dateIn library manifest "renku.io/lastActivityDate" = .ok lastActivity ∧
        Announces library limit (now - lastActivity) seconds isCritical := by
  obtain ⟨date, hdate, h⟩ := Results.bind_eq_ok_iff.mp h
  obtain ⟨limit, hlimit, h⟩ := Results.bind_eq_ok_iff.mp h
  split at h
  · obtain ⟨lastActivity, hlast, h⟩ := Results.bind_eq_ok_iff.mp h
    obtain ⟨anonymous, -, h⟩ := Results.bind_eq_ok_iff.mp h
    obtain ⟨seconds, hseconds, h⟩ := Results.bind_eq_ok_iff.mp h
    cases h
    exact .inr ⟨_, seconds, _, limit, lastActivity, rfl, hlimit,
      Results.bind_eq_ok_iff.mpr ⟨date, hdate, hlast⟩, number_maxZero_float hseconds,
      critical_iff _⟩
  · cases h
    exact .inl rfl

theorem maxAgeWarning_spec {later : Rat} {warnings : List Warning}
    (h : maxAgeWarning library manifest started later = .ok warnings) :
    warnings = [] ∨ ∃ seconds isCritical limit, warnings = [.maxAge seconds isCritical] ∧
      threshold manifest "maxAgeSecondsThreshold" = .ok limit ∧
        Announces library limit (later - started) seconds isCritical := by
  obtain ⟨limit, hlimit, h⟩ := Results.bind_eq_ok_iff.mp h
  dsimp only at h
  split at h
  next hemit =>
    obtain ⟨seconds, hseconds, h⟩ := Results.bind_eq_ok_iff.mp h
    cases h
    have hcritical := (critical_iff _).mp hemit.2
    exact .inr ⟨seconds, true, limit, rfl, hlimit, number_maxZero_float hseconds,
      fun _ => hcritical, fun _ => rfl⟩
  next =>
    cases h
    exact .inl rfl

/-- The warning about hibernation announces the threshold, whatever time has passed. -/
theorem hibernationWarning_spec {now : Rat} {warnings : List Warning}
    (h : hibernationWarning library manifest now = .ok warnings) :
    warnings = [] ∧ (∀ limit hibernation,
        threshold manifest "hibernatedSecondsThreshold" = .ok limit → limit > 0 →
          dateIn library manifest "renku.io/hibernationDate" = .ok hibernation →
            (∀ date, annotation manifest "renku.io/hibernationDate" = .ok date →
              date.truthy = true) → isUserAnonymous manifest ≠ .ok false) ∨
      ∃ seconds isCritical limit hibernation, warnings = [.hibernated seconds isCritical] ∧
        threshold manifest "hibernatedSecondsThreshold" = .ok limit ∧ limit > 0 ∧
        dateIn library manifest "renku.io/hibernationDate" = .ok hibernation ∧
        (∀ date, annotation manifest "renku.io/hibernationDate" = .ok date → date.truthy = true) ∧
        isUserAnonymous manifest = .ok false ∧ number seconds = .ok limit ∧
        (isCritical = true ↔
          limit - (now - hibernation) < library.terminationWarningDurationSeconds) := by
  obtain ⟨date, hdate, h⟩ := Results.bind_eq_ok_iff.mp h
  obtain ⟨seconds, hseconds, h⟩ := Results.bind_eq_ok_iff.mp h
  have hlimit : ∀ limit, number seconds = .ok limit →
      threshold manifest "hibernatedSecondsThreshold" = .ok limit := fun limit hnumber =>
    Results.bind_eq_ok_iff.mpr ⟨seconds, hseconds, hnumber⟩
  split at h
  swap
  next htruthy =>
    cases h
    exact .inl ⟨rfl, fun _ _ _ _ _ hall => absurd (hall date hdate) htruthy⟩
  next htruthy =>
    obtain ⟨limit, hnumber, h⟩ := Results.bind_eq_ok_iff.mp h
    split at h
    swap
    next hpositive =>
      cases h
      refine .inl ⟨rfl, fun limit' _ hlimit' hpositive' => ?_⟩
      obtain rfl := Except.ok.inj ((hlimit limit hnumber).symm.trans hlimit')
      exact absurd hpositive' hpositive
    next hpositive =>
      obtain ⟨anonymous, hanonymous, h⟩ := Results.bind_eq_ok_iff.mp h
      split at h
      next hyes =>
        cases h
        refine .inl ⟨rfl, fun _ _ _ _ _ _ hno => ?_⟩
        obtain rfl := Except.ok.inj (hanonymous.symm.trans hno)
        cases hyes
      next hno =>
        obtain ⟨hibernation, hhibernation, h⟩ := Results.bind_eq_ok_iff.mp h
        obtain ⟨shown, hshown, h⟩ := Results.bind_eq_ok_iff.mp h
        cases h
        obtain ⟨value, hvalue, hfound⟩ := number_maxZero hshown
        obtain rfl := Except.ok.inj (hnumber.symm.trans hvalue)
        rw [max_eq_left (le_of_lt hpositive)] at hfound
        refine .inr ⟨shown, _, limit, hibernation, rfl, hlimit limit hnumber, hpositive,
          Results.bind_eq_ok_iff.mpr ⟨date, hdate, hhibernation⟩, ?_, ?_, hfound, critical_iff _⟩
        · intro date' hdate'
          obtain rfl := Except.ok.inj (hdate.symm.trans hdate')
          exact htruthy
        · rw [hanonymous, Bool.eq_false_iff.mpr hno]

/-- Each block gives the warnings of its kind. -/
theorem getWarnings_spec {usingDefaultImage : Bool} {warnings : List Warning}
    (h : getWarnings library manifest usingDefaultImage started clock = .ok warnings) :
    ∃ idle hibernated maxAge, idleWarning library manifest clock.now = .ok idle ∧
      hibernationWarning library manifest clock.now = .ok hibernated ∧
      maxAgeWarning library manifest started clock.later = .ok maxAge ∧
      (∀ action seconds critical,
        .idle action seconds critical ∈ warnings ↔ .idle action seconds critical ∈ idle) ∧
      (∀ seconds critical,
        .hibernated seconds critical ∈ warnings ↔ .hibernated seconds critical ∈ hibernated) ∧
      ∀ seconds critical,
        .maxAge seconds critical ∈ warnings ↔ .maxAge seconds critical ∈ maxAge := by
  obtain ⟨idle, hidle, h⟩ := Results.bind_eq_ok_iff.mp h
  obtain ⟨hibernated, hhibernated, h⟩ := Results.bind_eq_ok_iff.mp h
  obtain ⟨maxAge, hmaxAge, h⟩ := Results.bind_eq_ok_iff.mp h
  cases h
  refine ⟨idle, hibernated, maxAge, hidle, hhibernated, hmaxAge, ?_⟩
  rcases idleWarning_spec hidle with rfl | ⟨_, _, _, _, _, rfl, -⟩ <;>
  rcases hibernationWarning_spec hhibernated with ⟨rfl, -⟩ | ⟨_, _, _, _, rfl, -⟩ <;>
  rcases maxAgeWarning_spec hmaxAge with rfl | ⟨_, _, _, rfl, -⟩ <;>
  cases usingDefaultImage <;> simp

/-! ### While the session is left alone -/

/-- Less time remains later. -/
theorem Announces.antitone {limit elapsed elapsed' : Rat} {seconds seconds' : Json}
    {critical critical' : Bool} (h : Announces library limit elapsed seconds critical)
    (h' : Announces library limit elapsed' seconds' critical') (hle : elapsed ≤ elapsed') :
    ∃ announced announced', number seconds = .ok announced ∧ number seconds' = .ok announced' ∧
      announced' ≤ announced :=
  ⟨_, _, h.1, h'.1, max_le_max_right 0 (sub_le_sub_left hle limit)⟩

/-- The threshold is announced truthfully at the time of the hibernation only. -/
theorem announced_eq_iff {limit elapsed : Rat} (hpositive : limit > 0) :
    limit = max (limit - elapsed) 0 ↔ elapsed = 0 := by
  constructor
  · intro h
    rcases le_total (limit - elapsed) 0 with hle | hle
    · rw [max_eq_right hle] at h
      exact absurd h hpositive.ne'
    · rw [max_eq_left hle] at h
      exact sub_eq_self.mp h.symm
  · rintro rfl
    rw [sub_zero, max_eq_left (le_of_lt hpositive)]

variable {clock' : Clock}

theorem idle_le {w w' : List Warning} (hnow : clock.now ≤ clock'.now)
    (h : idleWarning library manifest clock.now = .ok w)
    (h' : idleWarning library manifest clock'.now = .ok w') : NeverIncreases w w' := by
  intro a ha a' ha' _ seconds hs seconds' hs'
  rcases idleWarning_spec h with rfl | ⟨_, _, _, limit, last, rfl, hlimit, hlast, hsays⟩
  · cases ha
  rcases idleWarning_spec h' with rfl | ⟨_, _, _, limit', last', rfl, hlimit', hlast', hsays'⟩
  · cases ha'
  obtain rfl := List.mem_singleton.mp ha
  obtain rfl := List.mem_singleton.mp ha'
  obtain rfl := Except.ok.inj (hlimit.symm.trans hlimit')
  obtain rfl := Except.ok.inj (hlast.symm.trans hlast')
  cases hs
  cases hs'
  exact hsays.antitone hsays' (sub_le_sub_right hnow last)

theorem maxAge_le {w w' : List Warning} (hlater : clock.later ≤ clock'.later)
    (h : maxAgeWarning library manifest started clock.later = .ok w)
    (h' : maxAgeWarning library manifest started clock'.later = .ok w') : NeverIncreases w w' := by
  intro a ha a' ha' _ seconds hs seconds' hs'
  rcases maxAgeWarning_spec h with rfl | ⟨_, _, limit, rfl, hlimit, hsays⟩
  · cases ha
  rcases maxAgeWarning_spec h' with rfl | ⟨_, _, limit', rfl, hlimit', hsays'⟩
  · cases ha'
  obtain rfl := List.mem_singleton.mp ha
  obtain rfl := List.mem_singleton.mp ha'
  obtain rfl := Except.ok.inj (hlimit.symm.trans hlimit')
  cases hs
  cases hs'
  exact hsays.antitone hsays' (sub_le_sub_right hlater started)

theorem hibernated_le {w w' : List Warning}
    (h : hibernationWarning library manifest clock.now = .ok w)
    (h' : hibernationWarning library manifest clock'.now = .ok w') : NeverIncreases w w' := by
  intro a ha a' ha' _ seconds hs seconds' hs'
  rcases hibernationWarning_spec h with ⟨rfl, -⟩ |
    ⟨_, _, limit, _, rfl, hlimit, -, -, -, -, hseconds, -⟩
  · cases ha
  rcases hibernationWarning_spec h' with ⟨rfl, -⟩ |
    ⟨_, _, limit', _, rfl, hlimit', -, -, -, -, hseconds', -⟩
  · cases ha'
  obtain rfl := List.mem_singleton.mp ha
  obtain rfl := List.mem_singleton.mp ha'
  obtain rfl := Except.ok.inj (hlimit.symm.trans hlimit')
  cases hs
  cases hs'
  exact ⟨limit, limit, hseconds, hseconds', le_rfl⟩

theorem getWarnings_neverIncreases {usingDefaultImage usingDefaultImage' : Bool}
    {warnings warnings' : List Warning} (hnow : clock.now ≤ clock'.now)
    (hlater : clock.later ≤ clock'.later)
    (h : getWarnings library manifest usingDefaultImage started clock = .ok warnings)
    (h' : getWarnings library manifest usingDefaultImage' started clock' = .ok warnings') :
    NeverIncreases warnings warnings' := by
  obtain ⟨_, _, _, hidle, hhibernated, hmaxAge, inIdle, inHibernated, inMaxAge⟩ :=
    getWarnings_spec h
  obtain ⟨_, _, _, hidle', hhibernated', hmaxAge', inIdle', inHibernated', inMaxAge'⟩ :=
    getWarnings_spec h'
  intro w hw w' hw' hsame
  cases w <;> cases w' <;> try exact hsame.elim
  case idle.idle =>
    exact idle_le hnow hidle hidle' _ ((inIdle ..).mp hw) _ ((inIdle' ..).mp hw') hsame
  case hibernated.hibernated =>
    exact hibernated_le hhibernated hhibernated' _ ((inHibernated ..).mp hw) _
      ((inHibernated' ..).mp hw') hsame
  case maxAge.maxAge =>
    exact maxAge_le hlater hmaxAge hmaxAge' _ ((inMaxAge ..).mp hw) _ ((inMaxAge' ..).mp hw') hsame

/-- Only the warning about hibernation can be wrong. -/
theorem getWarnings_truthful_iff {usingDefaultImage : Bool} {warnings : List Warning}
    (h : getWarnings library manifest usingDefaultImage started clock = .ok warnings) :
    (∀ w ∈ warnings, Truthful library manifest started clock w) ↔
      HibernatedNow library manifest clock := by
  obtain ⟨_, _, _, hidle, hhibernated, hmaxAge, inIdle, inHibernated, inMaxAge⟩ :=
    getWarnings_spec h
  constructor
  · intro htruthful limit hibernation hlimit hpositive hdate htruthy hanonymous
    rcases hibernationWarning_spec hhibernated with ⟨rfl, hnot⟩ |
      ⟨seconds, isCritical, limit', _, rfl, hlimit', -, -, -, -, hseconds, -⟩
    · exact absurd hanonymous (hnot limit hibernation hlimit hpositive hdate htruthy)
    obtain rfl := Except.ok.inj (hlimit.symm.trans hlimit')
    obtain ⟨limit', hibernation', hlimit'', hdate', hsays, -⟩ :=
      htruthful _ ((inHibernated seconds isCritical).mpr (List.mem_singleton_self _))
    obtain rfl := Except.ok.inj (hlimit.symm.trans hlimit'')
    obtain rfl := Except.ok.inj (hdate.symm.trans hdate')
    have hsame := Except.ok.inj (hseconds.symm.trans hsays)
    exact sub_eq_zero.mp ((announced_eq_iff hpositive).mp hsame)
  · intro hnow w hw
    cases w with
    | defaultImage => trivial
    | idle action seconds isCritical =>
      have hmem := (inIdle action seconds isCritical).mp hw
      rcases idleWarning_spec hidle with rfl | ⟨_, _, _, limit, last, rfl, hlimit, hlast, hsays⟩
      · cases hmem
      obtain ⟨rfl, rfl, rfl⟩ := Warning.idle.inj (List.mem_singleton.mp hmem)
      exact ⟨limit, last, hlimit, hlast, hsays⟩
    | hibernated seconds isCritical =>
      have hmem := (inHibernated seconds isCritical).mp hw
      rcases hibernationWarning_spec hhibernated with ⟨rfl, -⟩ | ⟨_, _, limit, hibernation, rfl,
        hlimit, hpositive, hdate, htruthy, hanonymous, hseconds, hcritical⟩
      · cases hmem
      obtain ⟨rfl, rfl⟩ := Warning.hibernated.inj (List.mem_singleton.mp hmem)
      have helapsed := sub_eq_zero.mpr
        (hnow limit hibernation hlimit hpositive hdate htruthy hanonymous)
      exact ⟨limit, hibernation, hlimit, hdate,
        hseconds.trans (congrArg _ ((announced_eq_iff hpositive).mpr helapsed)), hcritical⟩
    | maxAge seconds isCritical =>
      have hmem := (inMaxAge seconds isCritical).mp hw
      rcases maxAgeWarning_spec hmaxAge with rfl | ⟨_, _, limit, rfl, hlimit, hsays⟩
      · cases hmem
      obtain ⟨rfl, rfl⟩ := Warning.maxAge.inj (List.mem_singleton.mp hmem)
      exact ⟨limit, hlimit, hsays⟩

/-- What the warnings promise, for the manifest as it is now and as long as it stays so. -/
theorem warnings_kept_iff {usingDefaultImage : Bool} {warnings : List Warning}
    (h : getWarnings library manifest usingDefaultImage started clock = .ok warnings) :
    ((∀ w ∈ warnings, Truthful library manifest started clock w) ∧
      ∀ clock' : Clock, clock.now ≤ clock'.now → clock.later ≤ clock'.later →
        ∀ usingDefaultImage' warnings',
          getWarnings library manifest usingDefaultImage' started clock' = .ok warnings' →
            NeverIncreases warnings warnings') ↔
      HibernatedNow library manifest clock := by
  rw [getWarnings_truthful_iff h]
  exact and_iff_left fun _ hnow hlater _ _ => getWarnings_neverIncreases hnow hlater h

end

/-! ### Two sessions -/

def sampleLibrary : StatusLibrary where
  terminationWarningDurationSeconds := 300
  fromisoformat date :=
    if date = "1970-01-01T00:16:40+00:00" then .ok 1000 else .error .valueError

def manifestWith (key : String) : Json :=
  .obj [("metadata", .obj [("annotations", .obj [(key, .str "1970-01-01T00:16:40+00:00")])]),
    ("spec", .obj [("culling", .obj [("idleSecondsThreshold", .int 600),
      ("hibernatedSecondsThreshold", .int 600), ("maxAgeSecondsThreshold", .int 700)])])]

def idleManifest : Json := manifestWith "renku.io/lastActivityDate"

def hibernatedManifest : Json := manifestWith "renku.io/hibernationDate"

theorem idle_warnings : getWarnings sampleLibrary idleManifest false 500 ⟨1100, 1101⟩ =
    .ok [.idle "hibernated" (.float 500) false, .maxAge (.float 99) true] := by
  decide +kernel

theorem hibernated_warnings : getWarnings sampleLibrary hibernatedManifest false 1000 ⟨1100, 1101⟩ =
    .ok [.hibernated (.int 600) false] := by
  decide +kernel

theorem idle_not_hibernated : HibernatedNow sampleLibrary idleManifest ⟨1100, 1101⟩ :=
  fun _ _ _ _ hdate _ _ => nomatch (show Except.error PyError.typeError = .ok _ from hdate)

theorem idle_warnings_kept :
    (∀ w ∈ [.idle "hibernated" (.float 500) false, .maxAge (.float 99) true],
      Truthful sampleLibrary idleManifest 500 ⟨1100, 1101⟩ w) ∧
    ∀ clock' : Clock, 1100 ≤ clock'.now → 1101 ≤ clock'.later →
      ∀ usingDefaultImage' warnings',
        getWarnings sampleLibrary idleManifest usingDefaultImage' 500 clock' = .ok warnings' →
          NeverIncreases [.idle "hibernated" (.float 500) false, .maxAge (.float 99) true]
            warnings' :=
  (warnings_kept_iff idle_warnings).mpr idle_not_hibernated

/-- A hundred seconds after the hibernation the warning still announces the whole threshold. -/
theorem hibernated_not_truthful :
    ∃ warnings,
      getWarnings sampleLibrary hibernatedManifest false 1000 ⟨1100, 1101⟩ = .ok warnings ∧
      ¬ ∀ w ∈ warnings, Truthful sampleLibrary hibernatedManifest 1000 ⟨1100, 1101⟩ w := by
  refine ⟨_, hibernated_warnings, fun htruthful => ?_⟩
  have hnow := (getWarnings_truthful_iff hibernated_warnings).mp htruthful
  have h : (1100 : Rat) = 1000 := hnow 600 1000 rfl (by decide +kernel) rfl
    (fun date hdate => ?_) rfl
  · exact absurd h (by decide)
  · obtain rfl : (.str "1970-01-01T00:16:40+00:00") = date := Except.ok.inj hdate
    decide

end RenkuNotebooks.Notebooks.SessionWarnings
