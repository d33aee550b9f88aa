import Mathlib.Data.List.Basic

/-!
# Regular expressions

Matching by backtracking, as `re` does it: the results of an expression at a place in a text are
listed in the order in which they are tried.
-/

namespace RenkuNotebooks

inductive Regex where
  | empty
  | char (p : Char → Bool)
  /-- `[…]{1,}` -/
  | many (p : Char → Bool)
  | both (r s : Regex)
  | either (r s : Regex)
  /-- `(?=…)` -/
  | ahead (r : Regex)
  /-- `(?<=…)` with one character of a class. -/
  | behind (p : Char → Bool)
  /-- `(?<!…)` -/
  | notBehind (p : Char → Bool)
  /-- `^` -/
  | start
  /-- `$`, which also matches before a line feed at the end. -/
  | finish
  /-- `(?P<name>…)` -/
  | group (name : String) (r : Regex)

namespace Regex

abbrev Groups := List (String × String)

/-- A place in a text; what comes before it has its last character first. -/
structure Cursor where
  past : List Char
  rest : List Char
  deriving DecidableEq

/-- The places to which characters of a class lead, the longest way first. -/
def manyFrom (p : Char → Bool) (past : List Char) : List Char → List Cursor
  | [] => []
  | c :: rest => if p c then manyFrom p (c :: past) rest ++ [⟨c :: past, rest⟩] else []

/-- The text between two places. -/
def between (before after : Cursor) : String :=
  String.ofList (after.past.take (after.past.length - before.past.length)).reverse

def AtEnd (rest : List Char) : Prop := rest = [] ∨ rest = ['\n']

instance (rest : List Char) : Decidable (AtEnd rest) :=
  inferInstanceAs (Decidable (rest = [] ∨ rest = ['\n']))

def search : Regex → Cursor → List (Cursor × Groups)
  | .empty, now => [(now, [])]
  | .char _, ⟨_, []⟩ => []
  | .char p, ⟨past, c :: rest⟩ => if p c then [(⟨c :: past, rest⟩, [])] else []
  | .many p, ⟨past, rest⟩ => (manyFrom p past rest).map (·, [])
  | .both r s, now =>
    (r.search now).flatMap fun first =>
      (s.search first.1).map fun second => (second.1, first.2 ++ second.2)
  | .either r s, now => r.search now ++ s.search now
  | .ahead r, now => if (r.search now).isEmpty then [] else [(now, [])]
  | .behind p, now => if now.past.head?.any p then [(now, [])] else []
  | .notBehind p, now => if now.past.head?.any p then [] else [(now, [])]
  | .start, now => if now.past = [] then [(now, [])] else []
  | .finish, now => if AtEnd now.rest then [(now, [])] else []
  | .group name r, now =>
    (r.search now).map fun found => (found.1, (name, between now found.1) :: found.2)

/-- One after the other. -/
def seq : List Regex → Regex
  | [] => .empty
  | r :: rs => .both r (seq rs)

/-- `[…]*` -/
def star (p : Char → Bool) : Regex := .either (.many p) .empty

/-- `…?` -/
def optional (r : Regex) : Regex := .either r .empty

/-- `match(…).groupdict()` -/
def matchGroups (r : Regex) (cs : List Char) : Option Groups :=
  ((r.search ⟨[], cs⟩).head?).map (·.2)

/-! ### Searching -/

section

attribute [local simp] search

variable {r s : Regex} {p : Char → Bool} {past rest cs : List Char} {now : Cursor}

theorem search_both_of_nil (h : r.search now = []) : (both r s).search now = [] := by
  rw [search, h, List.flatMap_nil]

theorem search_both_of_single {next : Cursor} {groups : Groups}
    (h : r.search now = [(next, groups)]) :
    (both r s).search now = (s.search next).map fun second => (second.1, groups ++ second.2) := by
  rw [search, h, List.flatMap_cons, List.flatMap_nil, List.append_nil]

/-- An expression before which nothing was found. -/
theorem search_both_of_empty (h : r.search now = [(now, [])]) :
    (both r s).search now = s.search now := by
  rw [search_both_of_single h]
  simp

theorem search_char_cons {c : Char} (h : p c = true) :
    (char p).search ⟨past, c :: rest⟩ = [(⟨c :: past, rest⟩, [])] := by
  rw [search, if_pos h]

theorem search_char_cons_of_not {c : Char} (h : p c = false) :
    (char p).search ⟨past, c :: rest⟩ = [] := by
  rw [search, h, if_neg Bool.false_ne_true]

/-- An expression that cannot begin with a character of the class. -/
def Refuses (s : Regex) (p : Char → Bool) : Prop :=
  ∀ past c rest, p c = true → s.search ⟨past, c :: rest⟩ = []

/-- Where the characters of a class are followed by an expression that refuses them, only the
longest way can be right. -/
theorem search_both_many (h : s.Refuses p) (past cs : List Char) :
    (both (many p) s).search ⟨past, cs⟩ =
      if cs.takeWhile p = [] then []
      else s.search ⟨(cs.takeWhile p).reverse ++ past, cs.dropWhile p⟩ := by
  induction cs generalizing past with
  | nil => rfl
  | cons c cs ih =>
    cases hc : p c with
    | false =>
      rw [List.takeWhile_cons_of_neg (by simp [hc]), if_pos rfl, search, search, manyFrom, hc,
        if_neg Bool.false_ne_true]
      rfl
    | true =>
      have hmany : (both (many p) s).search ⟨past, c :: cs⟩ =
          (both (many p) s).search ⟨c :: past, cs⟩ ++ s.search ⟨c :: past, cs⟩ := by
        simp [search, manyFrom, hc]
      rw [hmany, ih, List.takeWhile_cons_of_pos hc, List.dropWhile_cons_of_pos hc,
        if_neg (List.cons_ne_nil _ _), List.reverse_cons, List.append_assoc,
        List.singleton_append]
      cases cs with
      | nil => rfl
      | cons d cs =>
        cases hd : p d with
        | false =>
          rw [List.takeWhile_cons_of_neg (by simp [hd]), if_pos rfl,
            List.dropWhile_cons_of_neg (by simp [hd])]
          rfl
        | true =>
          rw [h (c :: past) d cs hd, List.append_nil, if_neg]
          rw [List.takeWhile_cons_of_pos hd]
          exact List.cons_ne_nil _ _

theorem between_append (past word rest rest' : List Char) :
    between ⟨past, rest⟩ ⟨word.reverse ++ past, rest'⟩ = String.ofList word := by
  simp [between]

/-- A group of characters of a class between two assertions, the second one about what follows. -/
theorem search_group_many (holds : List Char → Prop) [DecidablePred holds] {name : String}
    {before after : Regex} (hbefore : before.search ⟨past, cs⟩ = [(⟨past, cs⟩, [])])
    (hafter : ∀ now, after.search now = if holds now.rest then [(now, [])] else [])
    (hrefuses : ∀ c rest, p c = true → ¬ holds (c :: rest)) :
    (group name (seq [before, .many p, after])).search ⟨past, cs⟩ =
      if cs.takeWhile p ≠ [] ∧ holds (cs.dropWhile p) then
        [(⟨(cs.takeWhile p).reverse ++ past, cs.dropWhile p⟩,
          [(name, String.ofList (cs.takeWhile p))])]
      else [] := by
  have hend : ∀ now, (seq [after]).search now = if holds now.rest then [(now, [])] else [] := by
    intro now
    rw [seq, seq]
    by_cases hnow : holds now.rest
    · rw [search_both_of_empty (by rw [hafter, if_pos hnow]), search, if_pos hnow]
    · rw [search_both_of_nil (by rw [hafter, if_neg hnow]), if_neg hnow]
  have hword : (seq [.many p, after]).search ⟨past, cs⟩ =
      if cs.takeWhile p = [] then []
      else (seq [after]).search ⟨(cs.takeWhile p).reverse ++ past, cs.dropWhile p⟩ := by
    rw [seq]
    apply search_both_many
    intro past c rest hc
    rw [hend, if_neg (hrefuses c rest hc)]
  rw [search, seq, search_both_of_empty hbefore, hword, hend]
  by_cases hempty : cs.takeWhile p = []
  · simp [hempty]
  · by_cases hnext : holds (cs.dropWhile p)
    · rw [if_neg hempty, if_pos hnext, if_pos ⟨hempty, hnext⟩, List.map_cons, List.map_nil,
        between_append]
    · rw [if_neg hempty, if_neg hnext, if_neg fun h => hnext h.2, List.map_nil]

theorem search_ahead_char (q : Char → Bool) (now : Cursor) :
    (ahead (.char q)).search now = if now.rest.head?.any q then [(now, [])] else [] := by
  obtain ⟨past, rest⟩ := now
  cases rest with
  | nil => rfl
  | cons c rest =>
    rw [search]
    cases hc : q c with
    | true => simp [hc]
    | false => simp [hc]

theorem search_ahead_finish (now : Cursor) :
    (ahead .finish).search now = if AtEnd now.rest then [(now, [])] else [] := by
  rw [search, search]
  split <;> rfl

theorem not_atEnd {c : Char} (hp : p '\n' = false) (hc : p c = true) (rest : List Char) :
    ¬ AtEnd (c :: rest) := by
  rintro (h | h)
  · cases h
  · cases h
    rw [hp] at hc
    cases hc

/-! ### The first result -/

/-- The result that is tried first. -/
def First (r : Regex) (now next : Cursor) (groups : Groups) : Prop :=
  (r.search now).head? = some (next, groups)

theorem First.empty (now : Cursor) : First .empty now now [] := by
  rw [First, search]
  rfl

/-- The first way through an expression is the one that is taken if it can be completed. -/
theorem First.both {next last : Cursor} {groups groups' : Groups} (hr : First r now next groups)
    (hs : First s next last groups') : First (.both r s) now last (groups ++ groups') := by
  obtain ⟨rest, hrest⟩ := List.head?_eq_some_iff.mp hr
  obtain ⟨rest', hrest'⟩ := List.head?_eq_some_iff.mp hs
  rw [First, search, hrest, List.flatMap_cons, hrest']
  rfl

theorem First.group {name : String} {next : Cursor} {groups : Groups} (hr : First r now next groups) :
    First (.group name r) now next ((name, between now next) :: groups) := by
  rw [First, search, List.head?_map, hr]
  rfl

theorem manyFrom_head? (p : Char → Bool) (past cs : List Char) :
    (manyFrom p past cs).head? =
      if cs.takeWhile p = [] then none
      else some ⟨(cs.takeWhile p).reverse ++ past, cs.dropWhile p⟩ := by
  induction cs generalizing past with
  | nil => rfl
  | cons c cs ih =>
    rw [manyFrom]
    by_cases hc : p c = true
    · rw [if_pos hc, List.head?_append, ih, List.takeWhile_cons_of_pos hc,
        List.dropWhile_cons_of_pos hc, if_neg (List.cons_ne_nil _ _)]
      by_cases hempty : cs.takeWhile p = []
      · have hdrop : cs.dropWhile p = cs := by
          conv_rhs => rw [← List.takeWhile_append_dropWhile (p := p) (l := cs), hempty]
          rfl
        simp [hempty, hdrop]
      · simp [hempty]
    · rw [if_neg hc, List.takeWhile_cons_of_neg hc, if_pos rfl]
      rfl

theorem First.star (p : Char → Bool) (past cs : List Char) :
    First (.star p) ⟨past, cs⟩ ⟨(cs.takeWhile p).reverse ++ past, cs.dropWhile p⟩ [] := by
  rw [First, Regex.star, search, search, search, List.head?_append, List.head?_map, manyFrom_head?]
  by_cases hempty : cs.takeWhile p = []
  · have hdrop : cs.dropWhile p = cs := by
      conv_rhs => rw [← List.takeWhile_append_dropWhile (p := p) (l := cs), hempty]
      rfl
    rw [if_pos hempty, hempty, hdrop]
    rfl
  · rw [if_neg hempty]
    rfl

theorem First.optional_char {c : Char} (h : p c = true) (past rest : List Char) :
    First (.optional (.char p)) ⟨past, c :: rest⟩ ⟨c :: past, rest⟩ [] := by
  rw [First, Regex.optional, search, search_char_cons h]
  rfl

theorem First.optional_none (h : r.search now = []) : First (.optional r) now now [] := by
  rw [First, Regex.optional, search, h, search]
  rfl

theorem First.start (cs : List Char) : First .start ⟨[], cs⟩ ⟨[], cs⟩ [] := rfl

theorem First.notBehind (p : Char → Bool) (cs : List Char) :
    First (.notBehind p) ⟨[], cs⟩ ⟨[], cs⟩ [] := rfl

theorem First.behind {c : Char} (h : p c = true) (past cs : List Char) :
    First (.behind p) ⟨c :: past, cs⟩ ⟨c :: past, cs⟩ [] := by
  rw [First, search, if_pos (by simpa using h)]
  rfl

theorem First.finish (past : List Char) : First .finish ⟨past, []⟩ ⟨past, []⟩ [] := by
  have hend : AtEnd [] := Or.inl rfl
  rw [First, search, if_pos hend]
  rfl

theorem First.matchGroups {cs : List Char} {next : Cursor} {groups : Groups}
    (h : First r ⟨[], cs⟩ next groups) : r.matchGroups cs = some groups := by
  rw [Regex.matchGroups, h]
  rfl

/-! ### What is found -/

/-- The groups of each result. -/
def found (r : Regex) (now : Cursor) : List Groups := (r.search now).map (·.2)

theorem matchGroups_eq (r : Regex) (cs : List Char) :
    r.matchGroups cs = (r.found ⟨[], cs⟩).head? := by
  rw [matchGroups, found, List.head?_map]

theorem found_both_of_nil (h : r.search now = []) : (both r s).found now = [] := by
  rw [found, search_both_of_nil h, List.map_nil]

theorem found_both_of_single {next : Cursor} {groups : Groups}
    (h : r.search now = [(next, groups)]) :
    (both r s).found now = (s.found next).map (groups ++ ·) := by
  rw [found, search_both_of_single h, found, List.map_map, List.map_map]
  rfl

theorem found_both_of_empty (h : r.search now = [(now, [])]) :
    (both r s).found now = s.found now := by
  rw [found, search_both_of_empty h, found]

/-! ### Where an expression can lead -/

/-- A text of its own. -/
def literal (text : List Char) : Regex := seq (text.map fun c => char (· = c))

variable {next last : Cursor} {groups : Groups}

theorem matchGroups_isSome_iff : (matchGroups r cs).isSome = true ↔
    ∃ next groups, (next, groups) ∈ r.search ⟨[], cs⟩ := by
  rw [matchGroups, Option.isSome_map, List.isSome_head?]
  constructor
  · intro hne
    obtain ⟨⟨next, groups⟩, hmem⟩ := List.exists_mem_of_ne_nil _ hne
    exact ⟨next, groups, hmem⟩
  · rintro ⟨next, groups, hmem⟩
    exact List.ne_nil_of_mem hmem

theorem mem_of_matchGroups (h : matchGroups r cs = some groups) :
    ∃ next, (next, groups) ∈ r.search ⟨[], cs⟩ := by
  obtain ⟨⟨next, _⟩, hfirst, rfl⟩ := Option.map_eq_some_iff.mp h
  exact ⟨next, List.mem_of_head? hfirst⟩

theorem mem_search_empty : (next, groups) ∈ empty.search now ↔ next = now ∧ groups = [] := by
  simp [search]

theorem mem_search_start :
    (next, groups) ∈ start.search ⟨[], cs⟩ ↔ next = ⟨[], cs⟩ ∧ groups = [] := by
  simp [search]

theorem mem_search_notBehind :
    (next, groups) ∈ (notBehind p).search ⟨[], cs⟩ ↔ next = ⟨[], cs⟩ ∧ groups = [] := by
  simp [search]

theorem mem_search_behind : (next, groups) ∈ (behind p).search now ↔
    now.past.head?.any p = true ∧ next = now ∧ groups = [] := by
  cases h : now.past.head?.any p <;> simp [search, h]

theorem mem_search_finish :
    (next, groups) ∈ finish.search now ↔ AtEnd now.rest ∧ next = now ∧ groups = [] := by
  by_cases h : AtEnd now.rest <;> simp [search, h]

theorem mem_search_both : (last, groups) ∈ (both r s).search now ↔ ∃ mid first second,
    (mid, first) ∈ r.search now ∧ (last, second) ∈ s.search mid ∧ groups = first ++ second := by
  rw [search]
  constructor
  · intro hmem
    obtain ⟨⟨mid, first⟩, hfirst, hmem⟩ := List.mem_flatMap.mp hmem
    obtain ⟨⟨_, second⟩, hsecond, heq⟩ := List.mem_map.mp hmem
    obtain ⟨rfl, rfl⟩ := Prod.mk.inj heq
    exact ⟨mid, first, second, hfirst, hsecond, rfl⟩
  · rintro ⟨mid, first, second, hfirst, hsecond, rfl⟩
    exact List.mem_flatMap.mpr ⟨_, hfirst, List.mem_map.mpr ⟨_, hsecond, rfl⟩⟩

theorem mem_search_either : (next, groups) ∈ (either r s).search now ↔
    (next, groups) ∈ r.search now ∨ (next, groups) ∈ s.search now := by
  rw [search, List.mem_append]

theorem mem_search_group {name : String} : (next, groups) ∈ (group name r).search now ↔
    ∃ inner, (next, inner) ∈ r.search now ∧ groups = (name, between now next) :: inner := by
  rw [search]
  constructor
  · intro hmem
    obtain ⟨⟨_, inner⟩, hinner, heq⟩ := List.mem_map.mp hmem
    obtain ⟨rfl, rfl⟩ := Prod.mk.inj heq
    exact ⟨inner, hinner, rfl⟩
  · rintro ⟨inner, hinner, rfl⟩
    exact List.mem_map.mpr ⟨_, hinner, rfl⟩

/-- The expression leads over a text, and finds no groups in it. -/
def Passes (past word rest : List Char) (next : Cursor) (groups : Groups) : Prop :=
  next = ⟨word.reverse ++ past, rest⟩ ∧ groups = []

theorem passes_cons {c : Char} {word : List Char} :
    Passes past (c :: word) rest next groups ↔ Passes (c :: past) word rest next groups := by
  rw [Passes, Passes, List.reverse_cons, List.append_assoc, List.singleton_append]

theorem mem_search_char : (next, groups) ∈ (char p).search ⟨past, cs⟩ ↔
    ∃ c rest, p c = true ∧ cs = c :: rest ∧ Passes past [c] rest next groups := by
  cases cs with
  | nil => simp [search]
  | cons c cs =>
    cases hc : p c with
    | true => simp [hc, Passes]
    | false => simp [hc]

theorem mem_manyFrom : next ∈ manyFrom p past cs ↔ ∃ word rest, word ≠ [] ∧
    (∀ c ∈ word, p c = true) ∧ cs = word ++ rest ∧ next = ⟨word.reverse ++ past, rest⟩ := by
  induction cs generalizing past with
  | nil =>
    constructor
    · intro h
      cases h
    · rintro ⟨word, rest, hne, -, heq, -⟩
      exact absurd (List.append_eq_nil_iff.mp heq.symm).1 hne
  | cons c cs ih =>
    rw [manyFrom]
    constructor
    · intro h
      split at h
      swap
      · cases h
      next hc =>
        rcases List.mem_append.mp h with hmore | hone
        · obtain ⟨word, rest, -, hword, rfl, rfl⟩ := ih.mp hmore
          exact ⟨c :: word, rest, List.cons_ne_nil _ _, List.forall_mem_cons.mpr ⟨hc, hword⟩, rfl,
            by rw [List.reverse_cons, List.append_assoc, List.singleton_append]⟩
        · exact ⟨[c], cs, List.cons_ne_nil _ _, List.forall_mem_singleton.mpr hc, rfl,
            List.mem_singleton.mp hone⟩
    · rintro ⟨word, rest, hne, hword, heq, rfl⟩
      obtain ⟨d, word, rfl⟩ := List.exists_cons_of_ne_nil hne
      obtain ⟨rfl, rfl⟩ := List.cons.inj heq
      obtain ⟨hc, hword⟩ := List.forall_mem_cons.mp hword
      rw [if_pos hc]
      refine List.mem_append.mpr ?_
      by_cases hnil : word = []
      · subst hnil
        exact .inr (List.mem_singleton_self _)
      · exact .inl (ih.mpr ⟨word, rest, hnil, hword, rfl,
          by rw [List.reverse_cons, List.append_assoc, List.singleton_append]⟩)

theorem mem_search_many : (next, groups) ∈ (many p).search ⟨past, cs⟩ ↔ ∃ word rest,
    word ≠ [] ∧ (∀ c ∈ word, p c = true) ∧ cs = word ++ rest ∧
      Passes past word rest next groups := by
  have hmem : (next, groups) ∈ (many p).search ⟨past, cs⟩ ↔
      next ∈ manyFrom p past cs ∧ groups = [] := by simp [search, eq_comm]
  rw [hmem, mem_manyFrom]
  constructor
  · rintro ⟨⟨word, rest, hne, hword, heq, hnext⟩, hgroups⟩
    exact ⟨word, rest, hne, hword, heq, hnext, hgroups⟩
  · rintro ⟨word, rest, hne, hword, heq, hnext, hgroups⟩
    exact ⟨⟨word, rest, hne, hword, heq, hnext⟩, hgroups⟩

theorem mem_search_star : (next, groups) ∈ (star p).search ⟨past, cs⟩ ↔ ∃ word rest,
    (∀ c ∈ word, p c = true) ∧ cs = word ++ rest ∧ Passes past word rest next groups := by
  rw [star, mem_search_either, mem_search_many, mem_search_empty]
  constructor
  · rintro (⟨word, rest, -, h⟩ | hnone)
    · exact ⟨word, rest, h⟩
    · exact ⟨[], cs, List.forall_mem_nil _, rfl, hnone⟩
  · rintro ⟨word, rest, hword, heq, hpasses⟩
    by_cases hnil : word = []
    · subst hnil
      subst heq
      exact .inr hpasses
    · exact .inl ⟨word, rest, hnil, hword, heq, hpasses⟩

theorem mem_search_literal {text : List Char} :
    (next, groups) ∈ (literal text).search ⟨past, cs⟩ ↔
      ∃ rest, cs = text ++ rest ∧ Passes past text rest next groups := by
  induction text generalizing past cs groups with
  | nil =>
    have hempty : (next, groups) ∈ (literal []).search ⟨past, cs⟩ ↔
        next = ⟨past, cs⟩ ∧ groups = [] := mem_search_empty
    rw [hempty]
    exact ⟨fun h => ⟨cs, rfl, h⟩, fun ⟨_, hcs, h⟩ => hcs ▸ h⟩
  | cons c text ih =>
    have hstep : (next, groups) ∈ (literal (c :: text)).search ⟨past, cs⟩ ↔
        ∃ mid first second, (mid, first) ∈ (char (· = c)).search ⟨past, cs⟩ ∧
          (next, second) ∈ (literal text).search mid ∧ groups = first ++ second := mem_search_both
    rw [hstep]
    constructor
    · rintro ⟨mid, first, second, hmid, hnext, rfl⟩
      obtain ⟨d, rest, hd, rfl, rfl, rfl⟩ := mem_search_char.mp hmid
      obtain rfl : d = c := by simpa using hd
      obtain ⟨rest, rfl, hpasses⟩ := ih.mp hnext
      exact ⟨rest, rfl, passes_cons.mpr hpasses⟩
    · rintro ⟨rest, rfl, hpasses⟩
      exact ⟨_, [], groups, mem_search_char.mpr ⟨c, text ++ rest, by simp, rfl, rfl, rfl⟩,
        ih.mpr ⟨rest, rfl, passes_cons.mp hpasses⟩, rfl⟩

end

end Regex

end RenkuNotebooks
