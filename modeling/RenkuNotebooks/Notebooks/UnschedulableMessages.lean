import Mathlib.Data.List.DropRight
import Mathlib.Algebra.Order.Ring.Rat
import RenkuNotebooks.Foundation.PyText
import RenkuNotebooks.Foundation.Regex
import RenkuNotebooks.Foundation.Results
import RenkuNotebooks.Foundation.Separators
import RenkuNotebooks.Foundation.Sorting
import RenkuNotebooks.Notebooks.PyDict

/-!
# Sessions that cannot be scheduled

What a user is told about a pod for which the scheduler finds no node.
-/

namespace RenkuNotebooks.Notebooks.UnschedulableMessages

open PyDict Sorting

/-- `s.rstrip(c)` -/
def rstrip (c : Char) (s : String) : String := String.ofList (s.toList.rdropWhile (· = c))

/-- `^[0-9]+\/[0-9]+ nodes are available` -/
def initialTest : Regex :=
  .seq [.start, .many (·.isDigit), .char (· = '/'), .many (·.isDigit),
    .literal " nodes are available".toList]

/-- `,\ (?=[0-9])|:\ (?=[0-9])` -/
def separator : Separator Char where
  opens c := c = ',' ∨ c = ':'
  blank := ' '
  next := Char.isDigit
  opens_blank := rfl
  opens_next c h := by
    refine decide_eq_false ?_
    rintro (rfl | rfl) <;> cases h

/-- `int(x.split(" ")[0])` -/
def count (part : List Char) : Except PyError Int :=
  (PyText.toInt (String.ofList (PyText.splitChars ' ' part).1)).elim (.error .valueError) .ok

/-- `lstrip("1234567890 ")` -/
def stripCount (part : List Char) : List Char := part.dropWhile (· ∈ "1234567890 ".toList)

def insufficientResources (reason : String) : String :=
  "Your session cannot be scheduled due to insufficent resources. The most likely reason is: '" ++
    reason ++ "'. You may wait for resources to free up or you can adjust the specific resource " ++
    "and restart your session."

/-- What becomes of a message that is not empty. -/
def explain (msg : String) : String :=
  let msgParts := (separator.split (rstrip '.' msg).toList).2
  if (initialTest.matchGroups msg.toList).isNone ∨ msgParts = [] then msg
  else
    match msgParts.mapM fun part => (count part).map (·, part) with
    | .error _ => msg
    | .ok counted =>
      match sortedReverse (·.1) counted with
      | [] => msg
      | (_, part) :: _ => insufficientResources (String.ofList (stripCount part))

/-- The message of a condition; `re.match` raises for what is not a text. -/
def explainMessage (msg : Json) : Except PyError (Option String) :=
  if msg.truthy then
    match msg with
    | .str msg => .ok (some (explain msg))
    | _ => .error .typeError
  else .ok none

/-- A `datetime`: the instant that its fields name in UTC, or in their own offset where it has
one. -/
structure DateTime where
  instant : Rat
  aware : Bool
deriving DecidableEq

section

variable (fromisoformat : String → Except PyError DateTime)

/-- `datetime.fromisoformat(x["lastTransitionTime"].rstrip("Z"))` -/
def transitionTime (condition : Json) : Except PyError DateTime := do
  let time ← getItem "lastTransitionTime" condition >>= text
  fromisoformat (rstrip 'Z' time)

/-- Comparing a time with an offset with one without raises, and no sort gets by without comparing
one of a kind with one of the other. -/
def sortedConditions (conditions : List Json) : Except PyError (List Json) := do
  let timed ← conditions.mapM fun condition =>
    (transitionTime fromisoformat condition).map (·, condition)
  if timed.any (·.1.aware) ∧ timed.any (!·.1.aware) then .error .typeError
  else pure ((sortedReverse (·.1.instant) timed).map (·.2))

def getUnschedulableMessage (pod : Json) : Except PyError (Option String) := do
  let status ← getOr "status" (.obj []) pod
  let phase ← getOr "phase" .null status
  let conditions ← getOr "conditions" (.arr []) status >>= elements
  match ← sortedConditions fromisoformat conditions with
  | [] => pure none
  | latest :: _ =>
    if phase = .str "Pending" then do
      let reason ← getOr "reason" .null latest
      if reason = .str "Unschedulable" then getOr "message" .null latest >>= explainMessage
      else pure none
    else pure none

/-- The conditions that have a time, with their times. -/
def timedConditions (conditions : List Json) : List (DateTime × Json) :=
  conditions.filterMap fun condition =>
    (transitionTime fromisoformat condition).toOption.map (·, condition)

/-- A pending pod with these conditions, whose latest one is that it cannot be scheduled, with the
message of that condition (or `null` if it has none). Times without an offset are in UTC. -/
def Unschedulable (pod : Json) (conditions : List Json) (message : Json) : Prop :=
  ∃ status latest,
    getOr "status" (.obj []) pod = .ok status ∧ getOr "phase" .null status = .ok (.str "Pending") ∧
      getOr "conditions" (.arr []) status = .ok (.arr conditions) ∧
      FirstLargest (·.1.instant) (timedConditions fromisoformat conditions) latest ∧
      getOr "reason" .null latest.2 = .ok (.str "Unschedulable") ∧
      getOr "message" .null latest.2 = .ok message

/-- Every condition has a time, and all of these times have an offset or none of them has. -/
def Sortable (conditions : List Json) : Prop :=
  ∃ aware, ∀ condition ∈ conditions, ∃ instant,
    transitionTime fromisoformat condition = .ok ⟨instant, aware⟩

end

/-- A message that is a text, or that counts as none. -/
def IsMessage (message : Json) : Prop := message.truthy = true → ∃ msg, message = .str msg

/-! ### The messages of the scheduler -/

structure Reason where
  count : String
  reason : String

def Numeral (s : String) : Prop := s ≠ "" ∧ ∀ c ∈ s.toList, c.isDigit = true

def numeralValue (s : String) : Nat := Nat.ofDigitChars 10 s.toList 0

/-- A reason that is not mistaken for a part of the format. -/
structure Reason.Plain (r : Reason) : Prop where
  numeral : Numeral r.count
  start : ∀ c, r.reason.toList.head? = some c → c.isDigit = false ∧ c ≠ ' '
  last : r.reason.toList.getLast? ≠ some '.'
  inner : ∀ c, c.isDigit = true →
    ¬ [',', ' ', c] <:+: r.reason.toList ∧ ¬ [':', ' ', c] <:+: r.reason.toList

def Reason.text (r : Reason) : String := r.count ++ " " ++ r.reason

/-- `a/b nodes are available: n1 r1, …, nk rk.` -/
def schedulerMessage (a b : String) (reasons : List Reason) : String :=
  a ++ "/" ++ b ++ " nodes are available: " ++ ", ".intercalate (reasons.map Reason.text) ++ "."

/-- The message starts as the scheduler's do, and what follows are parts with a count each. -/
def Splittable (msg : String) : Prop :=
  (∃ a b rest, Numeral a ∧ Numeral b ∧ msg = a ++ "/" ++ b ++ " nodes are available" ++ rest) ∧
    ∃ first parts, separator.Splits (rstrip '.' msg).toList first parts ∧ parts ≠ [] ∧
      ∀ part ∈ parts, ∃ n, count part = .ok n

/-! ### Taking a message apart -/

theorem initialTest_iff {cs : List Char} : (initialTest.matchGroups cs).isSome = true ↔
    ∃ a b rest, (a ≠ [] ∧ ∀ c ∈ a, c.isDigit = true) ∧ (b ≠ [] ∧ ∀ c ∈ b, c.isDigit = true) ∧
      cs = a ++ '/' :: (b ++ (" nodes are available".toList ++ rest)) := by
  rw [Regex.matchGroups_isSome_iff]
  simp only [initialTest, Regex.seq, Regex.mem_search_both, Regex.mem_search_start]
  constructor
  · rintro ⟨_, _, _, _, _, ⟨rfl, -⟩, ⟨_, _, _, hmany, ⟨_, _, _, hslash, ⟨_, _, _, hmany',
      ⟨_, _, _, hliteral, -⟩, -⟩, -⟩, -⟩, -⟩
    obtain ⟨a, _, ha, hdigits, rfl, rfl, -⟩ := Regex.mem_search_many.mp hmany
    obtain ⟨c, _, hc, rfl, rfl, -⟩ := Regex.mem_search_char.mp hslash
    obtain rfl : c = '/' := of_decide_eq_true hc
    obtain ⟨b, _, hb, hdigits', rfl, rfl, -⟩ := Regex.mem_search_many.mp hmany'
    obtain ⟨rest, rfl, -⟩ := Regex.mem_search_literal.mp hliteral
    exact ⟨a, b, rest, ⟨ha, hdigits⟩, ⟨hb, hdigits'⟩, rfl⟩
  · rintro ⟨a, b, rest, ⟨ha, hdigits⟩, ⟨hb, hdigits'⟩, rfl⟩
    exact ⟨_, _, _, _, _, ⟨rfl, rfl⟩, ⟨_, _, _,
      Regex.mem_search_many.mpr ⟨a, _, ha, hdigits, rfl, rfl, rfl⟩, ⟨_, _, _,
      Regex.mem_search_char.mpr ⟨'/', _, rfl, rfl, rfl, rfl⟩, ⟨_, _, _,
      Regex.mem_search_many.mpr ⟨b, _, hb, hdigits', rfl, rfl, rfl⟩, ⟨_, _, _,
      Regex.mem_search_literal.mpr ⟨rest, rfl, rfl, rfl⟩,
      Regex.mem_search_empty.mpr ⟨rfl, rfl⟩, rfl⟩, rfl⟩, rfl⟩, rfl⟩, rfl⟩

theorem initialTest_of_header {a b rest : String} (ha : Numeral a) (hb : Numeral b) :
    (initialTest.matchGroups (a ++ "/" ++ b ++ " nodes are available" ++ rest).toList).isSome =
      true := by
  refine initialTest_iff.mpr ⟨a.toList, b.toList, rest.toList, ⟨?_, ha.2⟩, ⟨?_, hb.2⟩, ?_⟩
  · exact fun hnil => ha.1 (String.toList_eq_nil_iff.mp hnil)
  · exact fun hnil => hb.1 (String.toList_eq_nil_iff.mp hnil)
  · simp

theorem header_of_initialTest {msg : String}
    (h : (initialTest.matchGroups msg.toList).isSome = true) :
    ∃ a b rest, Numeral a ∧ Numeral b ∧
      msg = a ++ "/" ++ b ++ " nodes are available" ++ rest := by
  obtain ⟨a, b, rest, ⟨ha, hdigits⟩, ⟨hb, hdigits'⟩, heq⟩ := initialTest_iff.mp h
  refine ⟨String.ofList a, String.ofList b, String.ofList rest, ⟨?_, ?_⟩, ⟨?_, ?_⟩, ?_⟩
  · exact fun hnil => ha (by simpa using congrArg String.toList hnil)
  · rwa [String.toList_ofList]
  · exact fun hnil => hb (by simpa using congrArg String.toList hnil)
  · rwa [String.toList_ofList]
  · rw [← String.toList_inj, heq]
    simp

/-- A message that splits is explained by the first of its parts with the largest count. -/
theorem explain_of_splits {msg : String} {first part : List Char} {parts : List (List Char)}
    {counted : List (Int × List Char)} {n : Int}
    (hstart : (initialTest.matchGroups msg.toList).isSome = true)
    (hsplits : separator.Splits (rstrip '.' msg).toList first parts) (hne : parts ≠ [])
    (hcounted : (parts.mapM fun part => (count part).map (·, part)) = .ok counted)
    (hlargest : FirstLargest Prod.fst counted (n, part)) :
    explain msg = insufficientResources (String.ofList (stripCount part)) := by
  have hsplit := Separator.splits_iff.mp hsplits
  have htest : ¬ ((initialTest.matchGroups msg.toList).isNone = true ∨ parts = []) := by
    rintro (hnone | hnil)
    · rw [Option.isNone_iff_eq_none] at hnone
      rw [hnone] at hstart
      cases hstart
    · exact hne hnil
  have hhead := head?_sortedReverse hlargest
  rw [explain, hsplit]
  dsimp only
  rw [if_neg htest, hcounted]
  dsimp only
  split
  next hsorted =>
    rw [hsorted] at hhead
    cases hhead
  next hsorted =>
    rw [hsorted] at hhead
    cases hhead
    rfl

theorem explain_of_not_splittable {msg : String} (h : ¬ Splittable msg) : explain msg = msg := by
  rw [explain]
  split
  · rfl
  next htest =>
    obtain ⟨hsome, hne⟩ := not_or.mp htest
    have hstart : (initialTest.matchGroups msg.toList).isSome = true := by
      rwa [← Option.not_isNone, Bool.not_eq_true', ← Bool.not_eq_true]
    split
    · rfl
    next hcounted =>
      refine absurd ⟨header_of_initialTest hstart, _, _, Separator.splits_split _, hne, ?_⟩ h
      intro part hpart
      obtain ⟨_, hcount⟩ := Results.exists_ok_of_mapM hcounted hpart
      obtain ⟨n, hn, -⟩ := Results.map_eq_ok_iff.mp hcount
      exact ⟨n, hn⟩

/-! ### Messages in the format -/

/-- The characters that `stripCount` drops. -/
theorem mem_counts_iff {c : Char} :
    c ∈ "1234567890 ".toList ↔ c.isDigit = true ∨ c = ' ' := by
  constructor
  · have hall : ∀ c ∈ "1234567890 ".toList, c.isDigit = true ∨ c = ' ' :=
      PyText.forall_of_all (by decide)
    exact hall c
  · rintro (hdigit | rfl)
    · have hall : ∀ k < 10, Char.ofNat (48 + k) ∈ "1234567890 ".toList := by decide
      obtain ⟨hlow, hhigh⟩ : 48 ≤ c.toNat ∧ c.toNat ≤ 57 := Char.isDigit_iff_toNat.mp hdigit
      have hmem := hall (c.toNat - 48) (by omega)
      rwa [Nat.add_sub_cancel' hlow, Char.ofNat_toNat] at hmem
    · decide

theorem Reason.toList_text (r : Reason) :
    r.text.toList = r.count.toList ++ ' ' :: r.reason.toList := by
  simp [Reason.text]

section

variable {r : Reason} (h : r.Plain)

include h

theorem Reason.Plain.digits_ne_nil : r.count.toList ≠ [] :=
  fun hnil => h.numeral.1 (String.toList_eq_nil_iff.mp hnil)

theorem Reason.Plain.count_text : UnschedulableMessages.count r.text.toList =
    .ok (numeralValue r.count : Int) := by
  have hblank : ' ' ∉ r.count.toList := fun hmem => by
    have hdigit := h.numeral.2 ' ' hmem
    cases hdigit
  rw [UnschedulableMessages.count, Reason.toList_text, PyText.splitChars_append_sep hblank,
    String.ofList_toList, PyText.toInt_of_digits h.digits_ne_nil h.numeral.2]
  rfl

theorem Reason.Plain.last_text : r.text.toList.getLast? ≠ some '.' := by
  rw [Reason.toList_text, List.getLast?_append]
  cases hcs : r.reason.toList with
  | nil => simp
  | cons c cs =>
    rw [List.getLast?_cons_cons, List.getLast?_eq_some_getLast (List.cons_ne_nil c cs),
      Option.some_or, ← List.getLast?_eq_some_getLast, ← hcs]
    exact h.last

theorem Reason.Plain.stripCount_text : stripCount r.text.toList = r.reason.toList := by
  have hdigits : ∀ c ∈ r.count.toList, decide (c ∈ "1234567890 ".toList) = true :=
    fun c hc => decide_eq_true (mem_counts_iff.mpr (.inl (h.numeral.2 c hc)))
  have hreason : r.reason.toList.dropWhile (· ∈ "1234567890 ".toList) = r.reason.toList := by
    cases hcs : r.reason.toList with
    | nil => rfl
    | cons c cs =>
      obtain ⟨hdigit, hblank⟩ := h.start c (by rw [hcs, List.head?_cons])
      refine List.dropWhile_cons_of_neg fun hmem => ?_
      rcases mem_counts_iff.mp (of_decide_eq_true hmem) with hc | hc
      · exact absurd hc (Bool.eq_false_iff.mp hdigit)
      · exact hblank hc
  rw [stripCount, Reason.toList_text, List.dropWhile_append_of_pos hdigits,
    List.dropWhile_cons_of_pos (by decide), hreason]

theorem Reason.Plain.free_text : separator.Free r.text.toList := by
  rw [Reason.toList_text]
  refine Separator.Free.append (fun c hc => separator.opens_next c (h.numeral.2 c hc)) ?_
  refine Separator.Free.cons separator.opens_blank fun a c ha hc hsub => ?_
  rcases of_decide_eq_true ha with rfl | rfl
  · exact (h.inner c hc).1 hsub
  · exact (h.inner c hc).2 hsub

theorem Reason.Plain.text_ne_nil : r.text.toList ≠ [] := by
  rw [Reason.toList_text]
  exact List.append_ne_nil_of_left_ne_nil h.digits_ne_nil _

theorem Reason.Plain.head_text : r.text.toList.head?.any Char.isDigit = true := by
  rw [Reason.toList_text]
  obtain ⟨c, cs, heq⟩ := List.exists_cons_of_ne_nil h.digits_ne_nil
  rw [heq]
  exact h.numeral.2 c (heq ▸ List.mem_cons_self)

end

theorem splits_reasons {r : Reason} {reasons : List Reason} (h : ∀ r' ∈ r :: reasons, r'.Plain) :
    separator.Splits (", ".intercalate ((r :: reasons).map Reason.text)).toList r.text.toList
      (reasons.map (·.text.toList)) := by
  induction reasons generalizing r with
  | nil =>
    rw [List.map_cons, List.map_nil, String.intercalate_singleton]
    exact .last (h r List.mem_cons_self).free_text
  | cons r' reasons ih =>
    have hrest := ih fun r'' hr'' => h r'' (List.mem_cons_of_mem _ hr'')
    rw [List.map_cons, List.map_cons, String.intercalate_cons_cons, ← List.map_cons,
      String.toList_append, String.toList_append, List.append_assoc]
    have hplain := h r' (List.mem_cons_of_mem _ List.mem_cons_self)
    have hnext : (", ".intercalate ((r' :: reasons).map Reason.text)).toList.head?.any
        Char.isDigit = true := by
      rw [hrest.head?_eq hplain.text_ne_nil]
      exact hplain.head_text
    exact .more (h r List.mem_cons_self).free_text rfl hnext hrest

theorem rstrip_append_dot {s : String} (h : s.toList.getLast? ≠ some '.') :
    (rstrip '.' (s ++ ".")).toList = s.toList := by
  have hdot : (s ++ ".").toList = s.toList ++ ['.'] := String.toList_append
  rw [rstrip, String.toList_ofList, hdot, List.rdropWhile_concat_pos _ _ _ (by decide)]
  refine List.rdropWhile_eq_self_iff.mpr fun hne hlast => h ?_
  rw [List.getLast?_eq_some_getLast hne, of_decide_eq_true hlast]

/-- The parts of a message of the scheduler are its reasons with their counts. -/
theorem splits_schedulerMessage {a b : String} {r : Reason} {reasons : List Reason}
    (ha : Numeral a) (hb : Numeral b) (h : ∀ r' ∈ r :: reasons, r'.Plain) :
    separator.Splits (rstrip '.' (schedulerMessage a b (r :: reasons))).toList
      (a ++ "/" ++ b ++ " nodes are available").toList
      ((r :: reasons).map (·.text.toList)) := by
  have hbody := splits_reasons h
  have hplain := h r List.mem_cons_self
  set body := ", ".intercalate ((r :: reasons).map Reason.text)
  have hne : body.toList ≠ [] := by
    intro hnil
    have hhead := hbody.head?_eq hplain.text_ne_nil
    rw [hnil] at hhead
    exact hplain.text_ne_nil (List.head?_eq_none_iff.mp hhead.symm)
  have hlast : (a ++ "/" ++ b ++ " nodes are available: " ++ body).toList.getLast? ≠ some '.' := by
    rw [String.toList_append, List.getLast?_append, List.getLast?_eq_some_getLast hne,
      Option.some_or, ← List.getLast?_eq_some_getLast hne]
    intro hdot
    obtain ⟨piece, hpiece, hdot⟩ := hbody.exists_getLast?_eq hdot
    obtain ⟨r', hr', rfl⟩ : ∃ r' ∈ r :: reasons, r'.text.toList = piece :=
      List.mem_map.mp (by rwa [List.map_cons])
    exact (h r' hr').last_text hdot
  have hheader : separator.Free (a ++ "/" ++ b ++ " nodes are available").toList := by
    refine Separator.free_of_not_opens fun c hc => ?_
    simp only [String.toList_append, List.mem_append] at hc
    rcases hc with ((hc | hc) | hc) | hc
    · exact separator.opens_next c (ha.2 c hc)
    · exact decide_eq_false (by rintro (rfl | rfl) <;> revert hc <;> decide)
    · exact separator.opens_next c (hb.2 c hc)
    · exact decide_eq_false (by rintro (rfl | rfl) <;> revert hc <;> decide)
  have hparts : (a ++ "/" ++ b ++ " nodes are available: " ++ body).toList =
      (a ++ "/" ++ b ++ " nodes are available").toList ++ ':' :: ' ' :: body.toList := by
    simp
  have hnext : body.toList.head?.any Char.isDigit = true := by
    rw [hbody.head?_eq hplain.text_ne_nil]
    exact hplain.head_text
  rw [schedulerMessage, rstrip_append_dot hlast, hparts]
  exact .more hheader rfl hnext hbody

theorem schedulerMessage_ne_empty (a b : String) (reasons : List Reason) :
    schedulerMessage a b reasons ≠ "" := by
  rw [Ne, ← String.toList_inj, schedulerMessage, String.toList_append]
  exact List.append_ne_nil_of_right_ne_nil _ (List.cons_ne_nil _ _)

theorem initialTest_schedulerMessage {a b : String} (ha : Numeral a) (hb : Numeral b)
    (reasons : List Reason) :
    (initialTest.matchGroups (schedulerMessage a b reasons).toList).isSome = true := by
  have hparts : schedulerMessage a b reasons = a ++ "/" ++ b ++ " nodes are available" ++
      (": " ++ ", ".intercalate (reasons.map Reason.text) ++ ".") := by
    rw [← String.toList_inj]
    simp [schedulerMessage]
  rw [hparts]
  exact initialTest_of_header ha hb

/-- A part with its count, as it is sorted. -/
def Reason.counted (r : Reason) : Int × List Char := (numeralValue r.count, r.text.toList)

theorem mapM_count {reasons : List Reason} (h : ∀ r ∈ reasons, r.Plain) :
    (reasons.map (·.text.toList)).mapM
      (fun part => (UnschedulableMessages.count part).map (·, part)) =
        .ok (reasons.map Reason.counted) := by
  rw [List.mapM_map]
  refine Results.mapM_eq_ok_map fun r hr => ?_
  rw [Function.comp_apply, (h r hr).count_text]
  rfl

theorem explain_schedulerMessage {a b : String} {reasons : List Reason} (ha : Numeral a)
    (hb : Numeral b) (hne : reasons ≠ []) (h : ∀ r ∈ reasons, r.Plain) :
    ∃ r, FirstLargest (numeralValue ·.count) reasons r ∧
      explain (schedulerMessage a b reasons) = insufficientResources r.reason := by
  obtain ⟨r, hr⟩ := exists_firstLargest (numeralValue ·.count) hne
  obtain ⟨first, rest, rfl⟩ := List.exists_cons_of_ne_nil hne
  have hlargest : FirstLargest Prod.fst ((first :: rest).map Reason.counted) r.counted :=
    hr.map fun _ _ => Int.ofNat_lt.symm
  refine ⟨r, hr, ?_⟩
  rw [explain_of_splits (initialTest_schedulerMessage ha hb _) (splits_schedulerMessage ha hb h)
    (List.cons_ne_nil _ _) (mapM_count h) hlargest, (h r hr.mem).stripCount_text,
    String.ofList_toList]

/-! ### The latest condition -/

section

variable {fromisoformat : String → Except PyError DateTime} {pod : Json} {conditions : List Json}
  {message : Json}

/-- What is reported of a pod: something in any case, for a message in the format of the scheduler
the first of the reasons that hold for most nodes, and the whole of a message that does not
split. -/
def Reported (fromisoformat : String → Except PyError DateTime) (pod message : Json) : Prop :=
  (∃ shown, getUnschedulableMessage fromisoformat pod = .ok shown) ∧
    ∀ msg, message = .str msg →
      (∀ a b reasons, Numeral a → Numeral b → reasons ≠ [] → (∀ r ∈ reasons, r.Plain) →
        msg = schedulerMessage a b reasons →
          ∃ r, FirstLargest (numeralValue ·.count) reasons r ∧
            getUnschedulableMessage fromisoformat pod =
              .ok (some (insufficientResources r.reason))) ∧
        (msg ≠ "" → ¬ Splittable msg →
          getUnschedulableMessage fromisoformat pod = .ok (some msg))

theorem mapM_transitionTime (h : Sortable fromisoformat conditions) :
    conditions.mapM
      (fun condition => (transitionTime fromisoformat condition).map (·, condition)) =
        .ok (timedConditions fromisoformat conditions) := by
  obtain ⟨aware, htimes⟩ := h
  induction conditions with
  | nil => rfl
  | cons condition conditions ih =>
    obtain ⟨instant, htime⟩ := htimes condition List.mem_cons_self
    have hrest := ih fun c hc => htimes c (List.mem_cons_of_mem _ hc)
    have hhead : timedConditions fromisoformat (condition :: conditions) =
        (⟨instant, aware⟩, condition) :: timedConditions fromisoformat conditions :=
      List.filterMap_cons_some (by rw [htime]; rfl)
    rw [List.mapM_cons, hrest, htime, hhead]
    rfl

theorem aware_of_mem_timedConditions {aware : Bool}
    (h : ∀ condition ∈ conditions, ∃ instant,
      transitionTime fromisoformat condition = .ok ⟨instant, aware⟩)
    {timed : DateTime × Json} (hmem : timed ∈ timedConditions fromisoformat conditions) :
    timed.1.aware = aware := by
  obtain ⟨condition, hcondition, htimed⟩ := List.mem_filterMap.mp hmem
  obtain ⟨instant, htime⟩ := h condition hcondition
  rw [htime] at htimed
  cases htimed
  rfl

theorem not_mixed (h : Sortable fromisoformat conditions) :
    ¬ ((timedConditions fromisoformat conditions).any (·.1.aware) = true ∧
      (timedConditions fromisoformat conditions).any (!·.1.aware) = true) := by
  obtain ⟨aware, htimes⟩ := h
  rintro ⟨haware, hnaive⟩
  obtain ⟨timed, hmem, htimed⟩ := List.any_eq_true.mp haware
  obtain ⟨timed', hmem', htimed'⟩ := List.any_eq_true.mp hnaive
  rw [aware_of_mem_timedConditions htimes hmem] at htimed
  rw [aware_of_mem_timedConditions htimes hmem', htimed] at htimed'
  cases htimed'

/-- The sort puts the latest condition first. -/
theorem sortedConditions_of_sortable (h : Sortable fromisoformat conditions)
    {latest : DateTime × Json}
    (hlatest : FirstLargest (·.1.instant) (timedConditions fromisoformat conditions) latest) :
    ∃ others, sortedConditions fromisoformat conditions = .ok (latest.2 :: others) := by
  obtain ⟨others, hsorted⟩ := List.head?_eq_some_iff.mp (head?_sortedReverse hlatest)
  refine ⟨others.map Prod.snd, ?_⟩
  rw [sortedConditions, mapM_transitionTime h, Results.ok_bind, if_neg (not_mixed h), hsorted]
  rfl

/-- Conditions that are sorted have times of one kind. -/
theorem sortable_of_sortedConditions {sorted : List Json}
    (h : sortedConditions fromisoformat conditions = .ok sorted) :
    Sortable fromisoformat conditions := by
  obtain ⟨timed, htimed, h⟩ := Results.bind_eq_ok_iff.mp h
  have htime : ∀ condition ∈ conditions, ∃ time,
      transitionTime fromisoformat condition = .ok time ∧ (time, condition) ∈ timed := by
    intro condition hcondition
    obtain ⟨result, hresult, hmem⟩ := Results.mem_of_mapM htimed hcondition
    obtain ⟨time, htime, rfl⟩ := Results.map_eq_ok_iff.mp hresult
    exact ⟨time, htime, hmem⟩
  split at h
  · cases h
  next hkinds =>
    by_cases haware : timed.any (·.1.aware) = true
    · refine ⟨true, fun condition hcondition => ?_⟩
      obtain ⟨⟨instant, aware⟩, htime, hmem⟩ := htime condition hcondition
      cases aware with
      | true => exact ⟨instant, htime⟩
      | false => exact absurd ⟨haware, List.any_eq_true.mpr ⟨_, hmem, rfl⟩⟩ hkinds
    · refine ⟨false, fun condition hcondition => ?_⟩
      obtain ⟨⟨instant, aware⟩, htime, hmem⟩ := htime condition hcondition
      cases aware with
      | true => exact absurd (List.any_eq_true.mpr ⟨_, hmem, rfl⟩) haware
      | false => exact ⟨instant, htime⟩

theorem explainMessage_str (msg : String) :
    explainMessage (.str msg) = .ok (if msg = "" then none else some (explain msg)) := by
  by_cases hmsg : msg = ""
  · rw [hmsg]
    rfl
  · have htruthy : (Json.str msg).truthy = true := decide_eq_true hmsg
    rw [explainMessage, if_pos htruthy, if_neg hmsg]

theorem explainMessage_ok_iff : (∃ shown, explainMessage message = .ok shown) ↔ IsMessage message := by
  constructor
  · rintro ⟨shown, hshown⟩ htruthy
    unfold explainMessage at hshown
    rw [if_pos htruthy] at hshown
    cases message with
    | str msg => exact ⟨msg, rfl⟩
    | _ => cases hshown
  · intro h
    by_cases htruthy : message.truthy = true
    · obtain ⟨msg, rfl⟩ := h htruthy
      exact ⟨_, explainMessage_str msg⟩
    · exact ⟨none, if_neg htruthy⟩

/-- The explanation of the latest condition's message, where the conditions can be sorted. -/
theorem getUnschedulableMessage_of_sortable (h : Unschedulable fromisoformat pod conditions message)
    (hsortable : Sortable fromisoformat conditions) :
    getUnschedulableMessage fromisoformat pod = explainMessage message := by
  obtain ⟨status, latest, hstatus, hphase, hconditions, hlatest, hreason, hmessage⟩ := h
  obtain ⟨others, hsorted⟩ := sortedConditions_of_sortable hsortable hlatest
  rw [getUnschedulableMessage, hstatus]
  simp only [bind, Except.bind, hphase, hconditions, elements, hsorted, hreason, if_pos, hmessage]

theorem sortable_of_shown (h : Unschedulable fromisoformat pod conditions message)
    {shown : Option String} (hshown : getUnschedulableMessage fromisoformat pod = .ok shown) :
    Sortable fromisoformat conditions := by
  obtain ⟨status, latest, hstatus, hphase, hconditions, -⟩ := h
  simp only [getUnschedulableMessage, hstatus, hphase, hconditions, elements,
    Results.ok_bind] at hshown
  obtain ⟨sorted, hsorted, -⟩ := Results.bind_eq_ok_iff.mp hshown
  exact sortable_of_sortedConditions hsorted

/-- A pod that cannot be scheduled has an explanation exactly if its conditions can be sorted and
the message of the latest one is a text or missing. -/
theorem reported_iff (h : Unschedulable fromisoformat pod conditions message) :
    Reported fromisoformat pod message ↔
      Sortable fromisoformat conditions ∧ IsMessage message := by
  constructor
  · rintro ⟨⟨shown, hshown⟩, -⟩
    have hsortable := sortable_of_shown h hshown
    rw [getUnschedulableMessage_of_sortable h hsortable] at hshown
    exact ⟨hsortable, explainMessage_ok_iff.mp ⟨shown, hshown⟩⟩
  · rintro ⟨hsortable, hmessage⟩
    have hshown := getUnschedulableMessage_of_sortable h hsortable
    refine ⟨by rw [hshown]; exact explainMessage_ok_iff.mpr hmessage, ?_⟩
    rintro msg rfl
    have hexplain : msg ≠ "" →
        getUnschedulableMessage fromisoformat pod = .ok (some (explain msg)) := fun hmsg => by
      rw [hshown, explainMessage_str, if_neg hmsg]
    constructor
    · rintro a b reasons ha hb hne hplain rfl
      obtain ⟨r, hr, hreported⟩ := explain_schedulerMessage ha hb hne hplain
      refine ⟨r, hr, ?_⟩
      rw [hexplain (schedulerMessage_ne_empty a b reasons), hreported]
    · intro hmsg hno
      rw [hexplain hmsg, explain_of_not_splittable hno]

end

/-! ### A pod with two conditions -/

def sampleFromisoformat (date : String) : Except PyError DateTime :=
  if date = "2023-04-18T12:00:00" then .ok ⟨1681819200, false⟩ else .error .valueError

def sampleCondition : Json := .obj [("lastTransitionTime", .str "2023-04-18T12:00:00Z"),
  ("reason", .str "Unschedulable"),
  ("message", .str "0/3 nodes are available: 1 node(s) had taints, 2 Insufficient cpu.")]

def gateCondition : Json := .obj [("type", .str "gate"), ("lastTransitionTime", .null)]

def podWith (conditions : List Json) : Json :=
  .obj [("status", .obj [("phase", .str "Pending"), ("conditions", .arr conditions)])]

def sampleMessage : Json :=
  .str "0/3 nodes are available: 1 node(s) had taints, 2 Insufficient cpu."

theorem sample_latest : FirstLargest (·.1.instant)
    [((⟨1681819200, false⟩ : DateTime), sampleCondition)] (⟨1681819200, false⟩, sampleCondition) :=
  ⟨[], [], rfl, List.forall_mem_nil _, List.forall_mem_nil _⟩

theorem sample_transitionTime :
    transitionTime sampleFromisoformat sampleCondition = .ok ⟨1681819200, false⟩ := by
  decide +kernel

theorem sample_unschedulable :
    Unschedulable sampleFromisoformat (podWith [sampleCondition]) [sampleCondition] sampleMessage :=
  ⟨_, _, rfl, rfl, rfl, sample_latest, rfl, rfl⟩

theorem gated_unschedulable : Unschedulable sampleFromisoformat
    (podWith [sampleCondition, gateCondition]) [sampleCondition, gateCondition] sampleMessage :=
  ⟨_, _, rfl, rfl, rfl, sample_latest, rfl, rfl⟩

/-- A condition without a time keeps the message of the latest one from being read. -/
theorem untimed_condition_raises :
    ¬ ∀ fromisoformat pod conditions message,
      Unschedulable fromisoformat pod conditions message → Reported fromisoformat pod message := by
  intro hall
  obtain ⟨⟨shown, hshown⟩, -⟩ := hall _ _ _ _ gated_unschedulable
  have hsortable := sortable_of_shown gated_unschedulable hshown
  obtain ⟨aware, htimes⟩ := hsortable
  obtain ⟨instant, htime⟩ := htimes gateCondition (List.mem_cons_of_mem _ List.mem_cons_self)
  cases htime

theorem sample_reported : Reported sampleFromisoformat (podWith [sampleCondition]) sampleMessage :=
  (reported_iff sample_unschedulable).mpr
    ⟨⟨false, List.forall_mem_singleton.mpr ⟨_, sample_transitionTime⟩⟩, fun _ => ⟨_, rfl⟩⟩

end RenkuNotebooks.Notebooks.UnschedulableMessages
