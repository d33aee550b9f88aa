import Mathlib.Data.List.Infix

/-!
# Ignored paths

What git ignores for the lines of an exclude file. A path is the list of its names below the
repository; the last line that matches a path decides, and what lies in an ignored directory is
ignored.
-/

namespace RenkuNotebooks.Gitignore

abbrev Name := List Char

def IsPart (name : Name) : Prop := name ≠ [] ∧ '/' ∉ name

/-- The names that occur in a repository. -/
def IsName (name : Name) : Prop := IsPart name ∧ name ≠ ['.'] ∧ name ≠ ['.', '.']

instance (name : Name) : Decidable (IsPart name) :=
  inferInstanceAs (Decidable (name ≠ [] ∧ '/' ∉ name))

instance (name : Name) : Decidable (IsName name) :=
  inferInstanceAs (Decidable (IsPart name ∧ name ≠ ['.'] ∧ name ≠ ['.', '.']))

def text (names : List Name) : List Char := ['/'].intercalate names

/-! ### Patterns -/

inductive Item where
  | one (p : Char → Bool)
  /-- `*` -/
  | star
  /-- Two stars and a slash: any directories. -/
  | dirs
  /-- Two stars after a slash: everything inside. -/
  | rest

/-- The members of a class up to its closing bracket, with what follows it. -/
def members (first : Bool) : List Char → Option ((Char → Bool) × List Char)
  | [] => none
  | ']' :: cs =>
    if first then (members false cs).map fun (p, rest) => (fun d => d = ']' || p d, rest)
    else some (fun _ => false, cs)
  | '\\' :: c :: cs => (members false cs).map fun (p, rest) => (fun d => d = c || p d, rest)
  | a :: '-' :: b :: cs =>
    if b = ']' then some (fun d => d = a || d = '-', cs)
    else (members false cs).map fun (p, rest) => (fun d => (a ≤ d && d ≤ b) || p d, rest)
  | a :: cs => (members false cs).map fun (p, rest) => (fun d => d = a || p d, rest)

def bracket : List Char → Option ((Char → Bool) × List Char)
  | '!' :: cs | '^' :: cs => (members true cs).map fun (p, rest) => (fun d => d ≠ '/' && !p d, rest)
  | cs => (members true cs).map fun (p, rest) => (fun d => d ≠ '/' && p d, rest)

def literal (c : Char) : Item := .one (· = c)

/-- The items of a pattern, `none` if it is broken and matches nothing. `fuel` bounds the characters
that are read, and `start` says that a name begins here. -/
def items : Nat → Bool → List Char → Option (List Item)
  | 0, _, _ => some []
  | _ + 1, _, [] => some []
  | fuel + 1, start, c :: cs =>
    if c = '*' then
      match start, cs with
      | true, ['*'] => some [.rest]
      | true, '*' :: '/' :: after => (items fuel true after).map (.dirs :: ·)
      | _, _ => (items fuel false cs).map (.star :: ·)
    else if c = '?' then (items fuel false cs).map (.one (· ≠ '/') :: ·)
    else if c = '[' then
      match bracket cs with
      | none => none
      | some (p, after) => (items fuel false after).map (.one p :: ·)
    else if c = '\\' then
      match cs with
      | [] => none
      | d :: after => (items fuel false after).map (literal d :: ·)
    else (items fuel (c = '/') cs).map (literal c :: ·)

/-- After some characters other than a slash. -/
def skipName (k : List Char → Bool) : List Char → Bool
  | [] => k []
  | c :: cs => k (c :: cs) || (c ≠ '/' && skipName k cs)

/-- After a slash. -/
def skipDirs (k : List Char → Bool) : List Char → Bool
  | [] => false
  | c :: cs => (c = '/' && k cs) || skipDirs k cs

def wildmatch : List Item → List Char → Bool
  | [], cs => cs.isEmpty
  | .one p :: is, cs =>
    match cs with
    | [] => false
    | c :: cs => p c && wildmatch is cs
  | .star :: is, cs => skipName (wildmatch is) cs
  | .dirs :: is, cs => wildmatch is cs || skipDirs (wildmatch is) cs
  | .rest :: _, cs => !cs.isEmpty

/-! ### Lines -/

structure Rule where
  negated : Bool
  directoryOnly : Bool
  /-- The pattern is about the path from the repository on. -/
  anchored : Bool
  items : Option (List Item)

def readRule (negated : Bool) (pattern : List Char) : Rule :=
  let directoryOnly : Bool := pattern.getLast? = some '/'
  let body := if directoryOnly then pattern.dropLast else pattern
  let relative := if body.head? = some '/' then body.tail else body
  { negated, directoryOnly, anchored := '/' ∈ body, items := items relative.length true relative }

/-- Blanks at the end do not count unless they are quoted. -/
def trimBlanks : List Char → List Char
  | [] => []
  | '\\' :: c :: cs => '\\' :: c :: trimBlanks cs
  | c :: cs => if c = ' ' ∧ cs.all (· = ' ') then [] else c :: trimBlanks cs

def readLine (line : List Char) : Option Rule :=
  match trimBlanks line with
  | [] => none
  | c :: cs =>
    if c = '#' then none
    else if c = '!' then some (readRule true cs)
    else some (readRule false (c :: cs))

def dropReturn (line : List Char) : List Char :=
  if line.getLast? = some '\r' then line.dropLast else line

def readRules (content : List Char) : List Rule :=
  (content.splitOn '\n').filterMap fun line => readLine (dropReturn line)

/-! ### Decisions -/

def Rule.matchesPath (rule : Rule) (names : List Name) (directory : Bool) : Bool :=
  (!rule.directoryOnly || directory) &&
    rule.items.any fun is =>
      wildmatch is (if rule.anchored then text names else names.getLastD [])

/-- The last rule that matches decides. -/
def decision (rules : List Rule) (names : List Name) (directory : Bool) : Option Bool :=
  (rules.reverse.find? fun rule => rule.matchesPath names directory).map fun rule => !rule.negated

/-- The path or a directory above it is excluded. -/
def ignored (rules : List Rule) (names : List Name) (directory : Bool) : Bool :=
  names.inits.any fun above =>
    above ≠ [] && decision rules above (directory || above ≠ names) = some true

/-! ### Names and texts -/

theorem splitOn_text {names : List Name} (hnames : ∀ name ∈ names, IsPart name) (hne : names ≠ []) :
    (text names).splitOn '/' = names :=
  List.splitOn_intercalate '/' (fun name hname => (hnames name hname).2) hne

/-- Only what lies at or below a path begins with its text and a slash. -/
theorem prefix_of_text {outer names : List Name} (houter : ∀ name ∈ outer, IsPart name)
    (hnames : ∀ name ∈ names, IsPart name) (hne : outer ≠ []) (hne' : names ≠ [])
    {more : List Char} (h : text names = text outer ++ '/' :: more) : outer <+: names := by
  have hsplit := congrArg (List.splitOn '/') h
  rw [splitOn_text hnames hne', List.splitOn_append_cons_self, splitOn_text houter hne] at hsplit
  rw [hsplit]
  exact List.prefix_append _ _

theorem text_injective {names names' : List Name} (hnames : ∀ name ∈ names, IsPart name)
    (hnames' : ∀ name ∈ names', IsPart name) (hne : names ≠ []) (hne' : names' ≠ [])
    (h : text names = text names') : names = names' := by
  rw [← splitOn_text hnames hne, h, splitOn_text hnames' hne']

/-! ### Plain texts -/

/-- A character that stands for itself. -/
def PlainChar (c : Char) : Prop :=
  c ≠ '*' ∧ c ≠ '?' ∧ c ≠ '[' ∧ c ≠ '\\' ∧ c ≠ '\n' ∧ c ≠ '\r'

instance (c : Char) : Decidable (PlainChar c) :=
  inferInstanceAs
    (Decidable (c ≠ '*' ∧ c ≠ '?' ∧ c ≠ '[' ∧ c ≠ '\\' ∧ c ≠ '\n' ∧ c ≠ '\r'))

/-- A text that is a pattern for itself alone. -/
structure Plain (cs : List Char) : Prop where
  chars : ∀ c ∈ cs, PlainChar c
  nonempty : cs ≠ []
  notComment : cs.head? ≠ some '#'
  notNegated : cs.head? ≠ some '!'
  noBlank : cs.getLast? ≠ some ' '

theorem items_literal {c : Char} (h : PlainChar c) (fuel : ℕ) (start : Bool) (cs : List Char) :
    items (fuel + 1) start (c :: cs) = (items fuel (c = '/') cs).map (literal c :: ·) := by
  obtain ⟨hstar, hone, hclass, hquote, _⟩ := h
  rw [items.eq_def]
  dsimp only
  rw [if_neg hstar, if_neg hone, if_neg hclass, if_neg hquote]

theorem items_append {cs : List Char} (h : ∀ c ∈ cs, PlainChar c) (fuel : ℕ) (start : Bool)
    (more : List Char) :
    ∃ start', items (fuel + cs.length) start (cs ++ more) =
      (items fuel start' more).map (cs.map literal ++ ·) := by
  induction cs generalizing start with
  | nil =>
    refine ⟨start, ?_⟩
    rw [List.nil_append, List.length_nil, Nat.add_zero]
    cases items fuel start more with
    | none => rfl
    | some is => rfl
  | cons c cs ih =>
    obtain ⟨start', hrest⟩ := ih (fun d hd => h d (List.mem_cons_of_mem _ hd)) (c = '/')
    refine ⟨start', ?_⟩
    have hlength : fuel + (c :: cs).length = fuel + cs.length + 1 := by
      rw [List.length_cons, Nat.add_assoc]
    rw [hlength, List.cons_append, items_literal (h c List.mem_cons_self), hrest, Option.map_map]
    rfl

theorem items_plain {cs : List Char} (h : ∀ c ∈ cs, PlainChar c) (start : Bool) :
    items cs.length start cs = some (cs.map literal) := by
  obtain ⟨start', hitems⟩ := items_append h 0 start []
  rw [Nat.zero_add, List.append_nil] at hitems
  rw [hitems, items, Option.map_some, List.append_nil]

theorem wildmatch_append {cs : List Char} {is : List Item} {ds : List Char}
    (h : wildmatch (cs.map literal ++ is) ds = true) :
    ∃ more, ds = cs ++ more ∧ wildmatch is more = true := by
  induction cs generalizing ds with
  | nil => exact ⟨ds, rfl, h⟩
  | cons c cs ih =>
    cases ds with
    | nil => cases h
    | cons d ds =>
      have hboth : (d = c) ∧ wildmatch (cs.map literal ++ is) ds = true := by
        simpa [literal, wildmatch] using h
      obtain ⟨more, rfl, hmore⟩ := ih hboth.2
      exact ⟨more, by rw [hboth.1, List.cons_append], hmore⟩

theorem wildmatch_plain (cs ds : List Char) : wildmatch (cs.map literal) ds = true ↔ ds = cs := by
  constructor
  · intro h
    rw [← List.append_nil (cs.map literal)] at h
    obtain ⟨more, rfl, hmore⟩ := wildmatch_append h
    rw [List.isEmpty_iff.mp hmore, List.append_nil]
  · rintro rfl
    induction ds with
    | nil => rfl
    | cons d ds ih => simpa [literal, wildmatch] using ih

theorem trimBlanks_cons {c : Char} (h : PlainChar c) {cs : List Char}
    (hblank : ¬ (c = ' ' ∧ cs.all (· = ' ') = true)) :
    trimBlanks (c :: cs) = c :: trimBlanks cs := by
  obtain ⟨_, _, _, hquote, _⟩ := h
  rw [trimBlanks, if_neg hblank]
  exact fun d ds heq _ => hquote heq

theorem trimBlanks_append {cs : List Char} (h : ∀ c ∈ cs, PlainChar c) (more : List Char) :
    trimBlanks (cs ++ '/' :: more) = cs ++ '/' :: trimBlanks more := by
  induction cs with
  | nil => exact trimBlanks_cons (by simp [PlainChar]) (by simp)
  | cons c cs ih =>
    have hrest := ih fun d hd => h d (List.mem_cons_of_mem _ hd)
    have hslash : (cs ++ '/' :: more).all (· = ' ') = false := by simp
    rw [List.cons_append, trimBlanks_cons (h c List.mem_cons_self) (by simp [hslash]), hrest]
    rfl

theorem trimBlanks_plain {cs : List Char} (h : ∀ c ∈ cs, PlainChar c)
    (hlast : cs.getLast? ≠ some ' ') : trimBlanks cs = cs := by
  induction cs with
  | nil => rfl
  | cons c cs ih =>
    have hblank : ¬ (c = ' ' ∧ cs.all (· = ' ') = true) := by
      rintro ⟨rfl, hall⟩
      apply hlast
      rw [List.getLast?_cons]
      cases hend : cs.getLast? with
      | none => rfl
      | some d =>
        have hd := List.all_eq_true.mp hall d (List.mem_of_getLast? hend)
        rw [of_decide_eq_true hd]
        rfl
    rw [trimBlanks_cons (h c List.mem_cons_self) hblank,
      ih (fun d hd => h d (List.mem_cons_of_mem _ hd))]
    intro hend
    apply hlast
    rw [List.getLast?_cons, hend]
    rfl

/-! ### The rules of plain lines -/

theorem dropReturn_of_not_mem {cs : List Char} (h : '\r' ∉ cs) : dropReturn cs = cs := by
  apply if_neg
  intro hlast
  exact h (List.mem_of_getLast? hlast)

/-- The rule of a text that is a pattern for itself. -/
def plainRule (cs : List Char) : Rule :=
  { negated := false, directoryOnly := false, anchored := '/' ∈ cs, items := some (cs.map literal) }

theorem readLine_of_first {cs : List Char} {c : Char} (hfirst : cs.head? = some c)
    (hcomment : c ≠ '#') (hnegated : c ≠ '!') {line : List Char} (hline : trimBlanks line = cs) :
    readLine line = some (readRule false cs) := by
  cases cs with
  | nil => cases hfirst
  | cons d rest =>
    cases hfirst
    rw [readLine, hline]
    dsimp only
    rw [if_neg hcomment, if_neg hnegated]

theorem readRule_of_head {cs : List Char} (hfirst : cs.head? ≠ some '/')
    (hlast : cs.getLast? ≠ some '/') :
    readRule false cs =
      { negated := false, directoryOnly := false, anchored := '/' ∈ cs,
        items := items cs.length true cs } := by
  have hdirectory : decide (cs.getLast? = some '/') = false := decide_eq_false hlast
  simp only [readRule, hdirectory, Bool.false_eq_true, if_false, if_neg hfirst]

theorem readRule_of_slash {cs : List Char} (hfirst : cs.head? ≠ some '/') :
    readRule false (cs ++ ['/']) =
      { negated := false, directoryOnly := true, anchored := '/' ∈ cs,
        items := items cs.length true cs } := by
  have hdirectory : decide ((cs ++ ['/']).getLast? = some '/') = true := by simp
  simp only [readRule, hdirectory, if_true, List.dropLast_concat, if_neg hfirst]

theorem readLine_plain {cs : List Char} (h : Plain cs) (hfirst : cs.head? ≠ some '/')
    (hlast : cs.getLast? ≠ some '/') : readLine (dropReturn cs) = some (plainRule cs) := by
  have hreturn : '\r' ∉ cs := fun hmem => (h.chars _ hmem).2.2.2.2.2 rfl
  obtain ⟨c, hc⟩ := Option.isSome_iff_exists.mp (List.isSome_head?.mpr h.nonempty)
  have hcomment : c ≠ '#' := fun heq => h.notComment (heq ▸ hc)
  have hnegated : c ≠ '!' := fun heq => h.notNegated (heq ▸ hc)
  rw [dropReturn_of_not_mem hreturn,
    readLine_of_first hc hcomment hnegated (trimBlanks_plain h.chars h.noBlank),
    readRule_of_head hfirst hlast, items_plain h.chars]
  rfl

theorem dropReturn_append (cs more : List Char) :
    dropReturn (cs ++ '/' :: more) = cs ++ '/' :: dropReturn more := by
  cases more using List.reverseRecOn with
  | nil => simp [dropReturn]
  | append_singleton more c =>
    have hassoc : cs ++ '/' :: (more ++ [c]) = (cs ++ '/' :: more) ++ [c] := by simp
    rw [hassoc, dropReturn, dropReturn, List.getLast?_concat, List.getLast?_concat]
    split
    · rw [List.dropLast_concat, List.dropLast_concat]
    · exact hassoc.symm

/-- A rule that only matches paths at or below a path. -/
def Confined (outer : List Name) (rule : Rule) : Prop :=
  ∀ names directory, (∀ name ∈ names, IsPart name) → names ≠ [] →
    rule.matchesPath names directory = true → outer <+: names

theorem text_of_matches {rule : Rule} {is : List Item} (hanchored : rule.anchored = true)
    (hitems : rule.items = some is) {names : List Name} {directory : Bool}
    (h : rule.matchesPath names directory = true) : wildmatch is (text names) = true := by
  rw [Rule.matchesPath, hanchored, hitems, Bool.and_eq_true] at h
  exact h.2

/-- A path whose text is a pattern for itself. -/
structure PlainPath (names : List Name) : Prop where
  parts : ∀ name ∈ names, IsPart name
  plain : Plain (text names)

theorem PlainPath.ne_nil {names : List Name} (h : PlainPath names) : names ≠ [] := by
  rintro rfl
  exact h.plain.nonempty rfl

theorem confined_plain {outer : List Name} (h : PlainPath outer) {rule : Rule}
    (hanchored : rule.anchored = true)
    (hitems : rule.items = some ((text outer).map literal)) : Confined outer rule := by
  intro names directory hnames hne hmatches
  have hwild := text_of_matches hanchored hitems hmatches
  have htext := (wildmatch_plain _ _).mp hwild
  rw [text_injective hnames h.parts hne h.ne_nil htext]

theorem confined_below {outer : List Name} (h : PlainPath outer) {rule : Rule} {more : List Char}
    (hanchored : rule.anchored = true)
    (hitems : rule.items = items (text outer ++ '/' :: more).length true (text outer ++ '/' :: more)) :
    Confined outer rule := by
  intro names directory hnames hne hmatches
  have hchars : ∀ c ∈ text outer ++ ['/'], PlainChar c := by
    refine List.forall_mem_append.mpr ⟨h.plain.chars, ?_⟩
    simp [PlainChar]
  obtain ⟨start, happend⟩ := items_append hchars more.length true more
  have hassoc : text outer ++ '/' :: more = text outer ++ ['/'] ++ more := by simp
  have hlength : (text outer ++ '/' :: more).length = more.length + (text outer ++ ['/']).length := by
    simp
    omega
  rw [hlength, hassoc, happend] at hitems
  cases hmore : items more.length start more with
  | none =>
    rw [hmore] at hitems
    rw [Rule.matchesPath, hitems] at hmatches
    simp at hmatches
  | some is =>
    rw [hmore] at hitems
    have hwild := text_of_matches hanchored hitems hmatches
    obtain ⟨rest, hrest, _⟩ := wildmatch_append hwild
    rw [List.append_assoc, List.singleton_append] at hrest
    exact prefix_of_text h.parts hnames h.ne_nil hne hrest

theorem PlainPath.head?_ne {names : List Name} (h : PlainPath names) :
    (text names).head? ≠ some '/' := by
  obtain ⟨name, rest, rfl⟩ := List.exists_cons_of_ne_nil h.ne_nil
  obtain ⟨hne, hslash⟩ := h.parts name List.mem_cons_self
  obtain ⟨c, cs, rfl⟩ := List.exists_cons_of_ne_nil hne
  have hc : c ≠ '/' := fun heq => hslash (heq ▸ List.mem_cons_self)
  have hhead : (text ((c :: cs) :: rest)).head? = some c := by
    cases rest with
    | nil => rfl
    | cons name rest => rfl
  rw [hhead]
  exact fun heq => hc (Option.some.inj heq)

theorem text_append {names more : List Name} (hne : names ≠ []) (hne' : more ≠ []) :
    text (names ++ more) = text names ++ '/' :: text more := by
  induction names with
  | nil => exact absurd rfl hne
  | cons first names ih =>
    cases names with
    | nil =>
      rw [text, List.singleton_append, List.intercalate_cons_of_ne_nil hne', text,
        List.intercalate_singleton, List.append_assoc]
      rfl
    | cons second names =>
      have hrest := ih (List.cons_ne_nil _ _)
      rw [text, List.cons_append, List.cons_append, List.intercalate_cons_cons, text,
        List.intercalate_cons_cons, List.append_assoc]
      rw [text, List.cons_append] at hrest
      rw [hrest, ← text, List.append_assoc, List.append_assoc]

theorem PlainPath.getLast?_ne {names : List Name} (h : PlainPath names) :
    (text names).getLast? ≠ some '/' := by
  obtain ⟨front, name, rfl⟩ := List.eq_nil_or_concat names |>.resolve_left h.ne_nil
  obtain ⟨hne, hslash⟩ := h.parts name (by simp)
  obtain ⟨cs, c, rfl⟩ := List.eq_nil_or_concat name |>.resolve_left hne
  have hc : c ≠ '/' := fun heq => hslash (by simp [heq])
  have hlast : (text (front ++ [cs ++ [c]])).getLast? = some c := by
    by_cases hfront : front = []
    · simp [hfront, text]
    · have hname : text [cs ++ [c]] = cs ++ [c] := List.intercalate_singleton
      rw [text_append hfront (List.cons_ne_nil _ _), hname, ← List.cons_append, ← List.append_assoc, List.getLast?_concat]
  rw [List.concat_eq_append, List.concat_eq_append, hlast]
  exact fun heq => hc (Option.some.inj heq)

/-- The line of a path below a plain one, whatever its other names are. -/
theorem readLine_below {outer : List Name} (h : PlainPath outer) (hinner : '/' ∈ text outer)
    (more : List Char) :
    ∃ rule, readLine (dropReturn (text outer ++ '/' :: more)) = some rule ∧
      rule.negated = false ∧ Confined outer rule := by
  obtain ⟨c, hc⟩ := Option.isSome_iff_exists.mp (List.isSome_head?.mpr h.plain.nonempty)
  have hcomment : c ≠ '#' := fun heq => h.plain.notComment (heq ▸ hc)
  have hnegated : c ≠ '!' := fun heq => h.plain.notNegated (heq ▸ hc)
  have hhead : ∀ rest, (text outer ++ rest).head? = some c := fun rest => by
    rw [List.head?_append, hc]
    rfl
  have hslash : ∀ rest, (text outer ++ rest).head? ≠ some '/' := fun rest => by
    rw [hhead, ← hc]
    exact h.head?_ne
  have htrim := trimBlanks_append h.plain.chars (dropReturn more)
  rw [dropReturn_append, readLine_of_first (hhead _) hcomment hnegated htrim]
  refine ⟨_, rfl, ?_⟩
  generalize trimBlanks (dropReturn more) = tail_
  cases tail_ using List.reverseRecOn with
  | nil =>
    have hrule := @readRule_of_slash (text outer) h.head?_ne
    rw [hrule]
    exact ⟨rfl, confined_plain h (decide_eq_true hinner) (items_plain h.plain.chars true)⟩
  | append_singleton front d =>
    by_cases hd : d = '/'
    · have hassoc : text outer ++ '/' :: (front ++ [d]) = (text outer ++ '/' :: front) ++ ['/'] := by
        rw [hd]
        simp
      rw [hassoc, readRule_of_slash (hslash _)]
      exact ⟨rfl, confined_below h (by simp) rfl⟩
    · have hlast : (text outer ++ '/' :: (front ++ [d])).getLast? ≠ some '/' := by
        have hassoc : text outer ++ '/' :: (front ++ [d]) = (text outer ++ '/' :: front) ++ [d] := by
          simp
        rw [hassoc, List.getLast?_concat]
        exact fun heq => hd (Option.some.inj heq)
      rw [readRule_of_head (hslash _) hlast]
      exact ⟨rfl, confined_below h (by simp) rfl⟩

theorem mem_text {outer : List Name} (houter : ∀ name ∈ outer, IsPart name) :
    '/' ∈ text outer ↔ 2 ≤ outer.length := by
  cases outer with
  | nil => simp [text]
  | cons first outer =>
    cases outer with
    | nil =>
      have hfirst := (houter first List.mem_cons_self).2
      simpa [text] using hfirst
    | cons second outer => simp [text, List.intercalate_cons_cons]

theorem PlainPath.readLine {names : List Name} (h : PlainPath names) :
    readLine (dropReturn (text names)) = some (plainRule (text names)) :=
  readLine_plain h.plain h.head?_ne h.getLast?_ne

theorem plainRule_matches {outer names : List Name} (houter : ∀ name ∈ outer, IsPart name)
    (hnames : ∀ name ∈ names, IsPart name) (hinner : 2 ≤ outer.length) (hne : names ≠ [])
    (directory : Bool) :
    (plainRule (text outer)).matchesPath names directory = true ↔ names = outer := by
  have hne' : outer ≠ [] := by
    rintro rfl
    cases hinner
  have hanchored : decide ('/' ∈ text outer) = true := decide_eq_true ((mem_text houter).mpr hinner)
  simp only [Rule.matchesPath, plainRule, hanchored, if_true, Option.any_some, Bool.not_false,
    Bool.true_or, Bool.true_and, wildmatch_plain]
  constructor
  · exact text_injective hnames houter hne hne'
  · rintro rfl
    rfl

theorem plainRule_matches_name {name : Name} (hname : IsPart name) {names : List Name}
    (hne : names ≠ []) (directory : Bool) :
    (plainRule name).matchesPath names directory = true ↔ names.getLast hne = name := by
  have hanchored : decide ('/' ∈ name) = false := decide_eq_false hname.2
  simp only [Rule.matchesPath, plainRule, hanchored, Bool.false_eq_true, if_false, Option.any_some,
    Bool.not_false, Bool.true_or, Bool.true_and, wildmatch_plain, List.getLastD_eq_getLast?,
    List.getLast?_eq_some_getLast hne, Option.getD_some]

/-! ### Many lines -/

theorem readRules_lines {lines : List (List Char)} (hlines : ∀ line ∈ lines, '\n' ∉ line) :
    readRules ('\n' :: lines.flatMap (· ++ ['\n'])) =
      lines.filterMap fun line => readLine (dropReturn line) := by
  have hsplit : (lines.flatMap (· ++ ['\n'])).splitOn '\n' = lines ++ [[]] := by
    induction lines with
    | nil => rfl
    | cons line lines ih =>
      rw [List.flatMap_cons, List.append_assoc, List.singleton_append,
        List.splitOn_append_cons_self_of_not_mem (hlines line List.mem_cons_self),
        ih fun other hother => hlines other (List.mem_cons_of_mem _ hother), List.cons_append]
  have hfirst := List.splitOn_append_cons_self [] (lines.flatMap (· ++ ['\n'])) (a := '\n')
  rw [List.nil_append, hsplit] at hfirst
  have hempty : readLine (dropReturn []) = none := by decide
  rw [readRules, hfirst, List.splitOn_nil, List.singleton_append, List.filterMap_cons, hempty,
    List.filterMap_append, List.filterMap_cons, hempty, List.filterMap_nil, List.append_nil]

theorem decision_of_positive {rules : List Rule} (h : ∀ rule ∈ rules, rule.negated = false)
    (names : List Name) (directory : Bool) :
    decision rules names directory = some true ↔
      ∃ rule ∈ rules, rule.matchesPath names directory = true := by
  rw [decision]
  cases hfind : rules.reverse.find? fun rule => rule.matchesPath names directory with
  | none =>
    have hall := List.find?_eq_none.mp hfind
    constructor
    · intro hnone
      cases hnone
    · rintro ⟨rule, hmem, hmatches⟩
      exact absurd hmatches (hall rule (List.mem_reverse.mpr hmem))
  | some rule =>
    have hmem := List.mem_reverse.mp (List.mem_of_find?_eq_some hfind)
    have hmatches : rule.matchesPath names directory = true :=
      List.find?_some (p := fun rule : Rule => rule.matchesPath names directory) hfind
    rw [Option.map_some, h rule hmem]
    exact ⟨fun _ => ⟨rule, hmem, hmatches⟩, fun _ => rfl⟩

/-- Without exceptions a path is ignored if a rule matches it or a directory above it. -/
theorem ignored_of_positive {rules : List Rule} (h : ∀ rule ∈ rules, rule.negated = false)
    (names : List Name) (directory : Bool) :
    ignored rules names directory = true ↔
      ∃ above, above <+: names ∧ above ≠ [] ∧
        ∃ rule ∈ rules, rule.matchesPath above (directory || above ≠ names) = true := by
  rw [ignored, List.any_eq_true]
  constructor
  · rintro ⟨above, hmem, hboth⟩
    rw [Bool.and_eq_true, decide_eq_true_iff, decide_eq_true_iff, decision_of_positive h] at hboth
    exact ⟨above, (List.mem_inits _ _).mp hmem, hboth⟩
  · rintro ⟨above, hstart, hboth⟩
    refine ⟨above, (List.mem_inits _ _).mpr hstart, ?_⟩
    rw [Bool.and_eq_true, decide_eq_true_iff, decide_eq_true_iff, decision_of_positive h]
    exact hboth

end RenkuNotebooks.Gitignore
