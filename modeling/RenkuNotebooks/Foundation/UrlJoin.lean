import RenkuNotebooks.Foundation.PosixPath
import RenkuNotebooks.Foundation.PyUrl

/-!
# `urllib.parse.urljoin`

A URL taken apart into all of its components, put together again and joined with a base. A path
joined with a base stays on the host of the base.
-/

namespace RenkuNotebooks.PyUrl

structure Components where
  scheme : List Char
  netloc : List Char
  path : List Char
  params : List Char
  query : List Char
  fragment : List Char
  deriving DecidableEq, Repr

def usesRelative : List String :=
  ["", "ftp", "http", "gopher", "nntp", "imap", "wais", "file", "https", "shttp", "mms",
    "prospero", "rtsp", "rtsps", "rtspu", "sftp", "svn", "svn+ssh", "ws", "wss"]

def usesNetloc : List String :=
  ["", "ftp", "http", "gopher", "nntp", "telnet", "imap", "wais", "file", "mms", "https", "shttp",
    "snews", "prospero", "rtsp", "rtsps", "rtspu", "rsync", "svn", "svn+ssh", "sftp", "nfs",
    "git", "git+ssh", "ws", "wss"]

/-- `s.split(separator, 1)`, empty after it where there is no separator. -/
def cutAt (separator : Char) (s : List Char) : List Char × List Char :=
  (s.takeWhile (· ≠ separator), (s.dropWhile (· ≠ separator)).drop 1)

/-- What `dropParams` drops, without the semicolon. -/
def lastParams (path : List Char) : List Char :=
  ((afterLast '/' path).dropWhile (· ≠ ';')).drop 1

/-- The components of what stands behind the host. -/
def Components.ofRest (scheme netloc rest : List Char) : Components :=
  let (rest, fragment) := cutAt '#' rest
  let (path, query) := cutAt '?' rest
  let hasParams := usesParams.contains (String.ofList scheme)
  { scheme := scheme
    netloc := netloc
    path := if hasParams then dropParams path else path
    params := if hasParams then lastParams path else []
    query := query
    fragment := fragment }

/-- `urlparse(url, scheme)` -/
def components (rejects : List Char → Bool) (defaultScheme : List Char) (url : String) :
    Except String Components :=
  let (scheme, rest) := splitScheme (clean url.toList)
  let (netloc, rest) := splitNetloc rest
  if rejects netloc then .error "ValueError"
  else .ok (.ofRest (if scheme = [] then defaultScheme else scheme) netloc rest)

/-- A part with the character in front that sets it off, nothing for an empty part. -/
def setOff (separator : Char) (part : List Char) : List Char :=
  if part = [] then [] else separator :: part

def urlunparse (c : Components) : List Char :=
  let url := c.path ++ setOff ';' c.params
  let url :=
    if c.netloc ≠ [] ∨ (c.scheme ≠ [] ∧ usesNetloc.contains (String.ofList c.scheme)) ∨
        url.take 2 = ['/', '/'] then
      "//".toList ++ c.netloc ++ (if url ≠ [] ∧ url.head? ≠ some '/' then '/' :: url else url)
    else url
  let url := if c.scheme ≠ [] then c.scheme ++ ':' :: url else url
  url ++ setOff '?' c.query ++ setOff '#' c.fragment

/-- One step of the loop over the segments. -/
def resolveSegment (resolved : List (List Char)) (segment : List Char) : List (List Char) :=
  if segment = ['.', '.'] then resolved.dropLast
  else if segment = ['.'] then resolved
  else resolved ++ [segment]

/-- Empty segments in the middle are dropped. -/
def dropEmptyInside (segments : List (List Char)) : List (List Char) :=
  segments.take 1 ++ ((segments.drop 1).dropLast.filter (· ≠ [])) ++
    (segments.drop 1).getLast?.toList

def joinedSegments (basePath path : List Char) : List (List Char) :=
  let baseParts := PosixPath.segments basePath
  let baseParts := if baseParts.getLast? ≠ some [] then baseParts.dropLast else baseParts
  if path.head? = some '/' then PosixPath.segments path
  else dropEmptyInside (baseParts ++ PosixPath.segments path)

/-- A dot at the end leaves a slash there. -/
def resolvedSegments (segments : List (List Char)) : List (List Char) :=
  let resolved := segments.foldl resolveSegment []
  if segments.getLast? = some ['.'] ∨ segments.getLast? = some ['.', '.'] then resolved ++ [[]]
  else resolved

def joinPath (basePath path : List Char) : List Char :=
  let joined := List.intercalate ['/'] (resolvedSegments (joinedSegments basePath path))
  if joined = [] then ['/'] else joined

/-- The join of a base with a URL that is taken apart. -/
def joinComponents (b u : Components) (url : String) : String :=
  let scheme := String.ofList u.scheme
  if u.scheme ≠ b.scheme ∨ ¬ usesRelative.contains scheme then url
  else if usesNetloc.contains scheme ∧ u.netloc ≠ [] then String.ofList (urlunparse u)
  else
    let netloc := if usesNetloc.contains scheme then b.netloc else u.netloc
    if u.path = [] ∧ u.params = [] then
      String.ofList (urlunparse
        { u with
          netloc := netloc
          path := b.path
          params := b.params
          query := if u.query = [] then b.query else u.query })
    else String.ofList (urlunparse { u with netloc := netloc, path := joinPath b.path u.path })

def urljoin (rejects : List Char → Bool) (base url : String) : Except String String :=
  if base = "" then .ok url
  else if url = "" then .ok base
  else do
    let b ← components rejects [] base
    let u ← components rejects b.scheme url
    .ok (joinComponents b u url)

/-! ### Characters that are dropped -/

/-- Not dropped wherever it stands. -/
def Kept (c : Char) : Prop := c ≠ '\t' ∧ c ≠ '\r' ∧ c ≠ '\n'

instance (c : Char) : Decidable (Kept c) :=
  inferInstanceAs (Decidable (c ≠ '\t' ∧ c ≠ '\r' ∧ c ≠ '\n'))

theorem clean_eq_self {url : List Char} (hfirst : ∀ c, url.head? = some c → 32 < c.toNat)
    (hkept : ∀ c ∈ url, Kept c) : clean url = url := by
  have hdrop : url.dropWhile (·.toNat ≤ 32) = url := by
    cases url with
    | nil => rfl
    | cons c cs =>
      have hc := hfirst c rfl
      rw [List.dropWhile_cons_of_neg]
      simpa using hc
  rw [clean, hdrop]
  exact List.filter_eq_self.mpr fun c hc => decide_eq_true (hkept c hc)

theorem mem_cutAt {separator : Char} {s : List Char} {c : Char}
    (h : c ∈ (cutAt separator s).1 ∨ c ∈ (cutAt separator s).2) : c ∈ s := by
  rcases h with h | h
  · exact (List.takeWhile_sublist _).subset h
  · exact (List.dropWhile_sublist _).subset (List.mem_of_mem_drop h)

theorem mem_afterLast {separator : Char} {s : List Char} {c : Char}
    (h : c ∈ afterLast separator s) : c ∈ s :=
  List.mem_reverse.mp ((List.takeWhile_sublist _).subset (List.mem_reverse.mp h))

theorem mem_dropParams {path : List Char} {c : Char} (h : c ∈ dropParams path) : c ∈ path := by
  rcases List.mem_append.mp h with h | h
  · exact List.mem_of_mem_take h
  · exact mem_afterLast ((List.takeWhile_sublist _).subset h)

theorem mem_lastParams {path : List Char} {c : Char} (h : c ∈ lastParams path) : c ∈ path :=
  mem_afterLast ((List.dropWhile_sublist _).subset (List.mem_of_mem_drop h))

namespace Components

/-- Everything that stands behind the host. -/
def tail (u : Components) : List Char := u.path ++ u.params ++ u.query ++ u.fragment

theorem mem_tail_ofRest {scheme netloc rest : List Char} {c : Char}
    (h : c ∈ (ofRest scheme netloc rest).tail) : c ∈ rest := by
  have hpath : c ∈ (cutAt '?' (cutAt '#' rest).1).1 → c ∈ rest :=
    fun hc => mem_cutAt (Or.inl (mem_cutAt (Or.inl hc)))
  simp only [tail, ofRest, List.mem_append] at h
  rcases h with ((h | h) | h) | h
  · split at h
    · exact hpath (mem_dropParams h)
    · exact hpath h
  · split at h
    · exact hpath (mem_lastParams h)
    · cases h
  · exact mem_cutAt (Or.inl (mem_cutAt (Or.inr h)))
  · exact mem_cutAt (Or.inr h)

end Components

variable {rejects : List Char → Bool} {defaultScheme : List Char} {url : String}

theorem mem_of_mem_segments {path segment : List Char} {c : Char}
    (hsegment : segment ∈ PosixPath.segments path) (hc : c ∈ segment) : c ∈ path := by
  induction path generalizing segment with
  | nil =>
    rw [List.mem_singleton.mp hsegment] at hc
    cases hc
  | cons d ds ih =>
    rw [PosixPath.segments] at hsegment
    split at hsegment
    · rcases List.mem_cons.mp hsegment with rfl | hsegment
      · cases hc
      · exact List.mem_cons_of_mem _ (ih hsegment hc)
    · split at hsegment
      · rw [List.mem_singleton.mp hsegment, List.mem_singleton] at hc
        rw [hc]
        exact List.mem_cons_self
      · rename_i part parts heq
        rw [heq] at ih
        rcases List.mem_cons.mp hsegment with rfl | hsegment
        · rcases List.mem_cons.mp hc with rfl | hc
          · exact List.mem_cons_self
          · exact List.mem_cons_of_mem _ (ih List.mem_cons_self hc)
        · exact List.mem_cons_of_mem _ (ih (List.mem_cons_of_mem _ hsegment) hc)

theorem mem_resolved {segments resolved : List (List Char)} {segment : List Char}
    (h : segment ∈ segments.foldl resolveSegment resolved) :
    segment ∈ resolved ∨ segment ∈ segments := by
  induction segments generalizing resolved with
  | nil => exact Or.inl h
  | cons s segments ih =>
    rcases ih h with h | h
    · unfold resolveSegment at h
      split at h
      · exact Or.inl (List.mem_of_mem_dropLast h)
      · split at h
        · exact Or.inl h
        · rcases List.mem_append.mp h with h | h
          · exact Or.inl h
          · rw [List.mem_singleton.mp h]
            exact Or.inr List.mem_cons_self
    · exact Or.inr (List.mem_cons_of_mem _ h)

theorem mem_resolvedSegments {segments : List (List Char)} {segment : List Char}
    (h : segment ∈ resolvedSegments segments) : segment = [] ∨ segment ∈ segments := by
  have hresolved : segment ∈ segments.foldl resolveSegment [] → segment ∈ segments := by
    intro h
    rcases mem_resolved h with h | h
    · cases h
    · exact h
  unfold resolvedSegments at h
  dsimp only at h
  split at h
  · rcases List.mem_append.mp h with h | h
    · exact Or.inr (hresolved h)
    · exact Or.inl (List.mem_singleton.mp h)
  · exact Or.inr (hresolved h)

theorem mem_dropEmptyInside {segments : List (List Char)} {segment : List Char}
    (h : segment ∈ dropEmptyInside segments) : segment ∈ segments := by
  simp only [dropEmptyInside, List.mem_append, Option.mem_toList] at h
  rcases h with (h | h) | h
  · exact List.mem_of_mem_take h
  · exact List.mem_of_mem_drop (List.mem_of_mem_dropLast (List.mem_of_mem_filter h))
  · exact List.mem_of_mem_drop (List.mem_of_getLast? h)

theorem mem_intercalate_slash {segments : List (List Char)} {c : Char}
    (h : c ∈ List.intercalate ['/'] segments) : c = '/' ∨ ∃ segment ∈ segments, c ∈ segment := by
  induction segments with
  | nil => cases h
  | cons segment segments ih =>
    cases segments with
    | nil =>
      rw [List.intercalate_singleton] at h
      exact Or.inr ⟨segment, List.mem_cons_self, h⟩
    | cons next segments =>
      rw [List.intercalate_cons_cons, List.mem_append, List.mem_append] at h
      rcases h with (h | h) | h
      · exact Or.inr ⟨segment, List.mem_cons_self, h⟩
      · exact Or.inl (List.mem_singleton.mp h)
      · rcases ih h with h | ⟨later, hlater, hc⟩
        · exact Or.inl h
        · exact Or.inr ⟨later, List.mem_cons_of_mem _ hlater, hc⟩

theorem mem_joinPath {basePath path : List Char} {c : Char} (h : c ∈ joinPath basePath path) :
    c = '/' ∨ c ∈ basePath ∨ c ∈ path := by
  have hsegments : ∀ segment ∈ joinedSegments basePath path, c ∈ segment →
      c ∈ basePath ∨ c ∈ path := by
    intro segment hsegment hc
    unfold joinedSegments at hsegment
    split at hsegment
    · exact Or.inr (mem_of_mem_segments hsegment hc)
    · rcases List.mem_append.mp (mem_dropEmptyInside hsegment) with hbase | hpath
      · split at hbase
        · exact Or.inl (mem_of_mem_segments (List.mem_of_mem_dropLast hbase) hc)
        · exact Or.inl (mem_of_mem_segments hbase hc)
      · exact Or.inr (mem_of_mem_segments hpath hc)
  unfold joinPath at h
  dsimp only at h
  split at h
  · exact Or.inl (List.mem_singleton.mp h)
  · rcases mem_intercalate_slash h with h | ⟨segment, hsegment, hc⟩
    · exact Or.inl h
    · rcases mem_resolvedSegments hsegment with rfl | hsegment
      · cases hc
      · exact Or.inr (hsegments segment hsegment hc)

/-! ### URLs on a host -/

/-- As `urlparse` gives a scheme. -/
structure PlainScheme (scheme : List Char) : Prop where
  first : scheme.head?.any Char.isAlpha = true
  chars : ∀ c ∈ scheme, isSchemeChar c = true
  lower : scheme.map Char.toLower = scheme

/-- A host that ends before the path. -/
structure PlainHost (rejects : List Char → Bool) (netloc : List Char) : Prop where
  nonempty : netloc ≠ []
  chars : ∀ c ∈ netloc, Kept c ∧ c ≠ '/' ∧ c ≠ '?' ∧ c ≠ '#'
  accepted : rejects netloc = false

/-- What can stand behind a host. -/
structure Behind (rest : List Char) : Prop where
  first : ∀ c, rest.head? = some c → c = '/' ∨ c = '?' ∨ c = '#'
  kept : ∀ c ∈ rest, Kept c

def hosted (scheme netloc rest : List Char) : List Char :=
  scheme ++ ':' :: '/' :: '/' :: (netloc ++ rest)

section Hosted

variable {scheme netloc rest : List Char}

theorem PlainScheme.ne_nil (h : PlainScheme scheme) : scheme ≠ [] := by
  rintro rfl
  cases h.first

theorem splitScheme_hosted (hscheme : PlainScheme scheme) (behind : List Char) :
    splitScheme (scheme ++ ':' :: behind) = (scheme, behind) := by
  have hcolon : ∀ c ∈ scheme, decide (c ≠ ':') = true := by
    intro c hc
    have hchar := hscheme.chars c hc
    apply decide_eq_true
    rintro rfl
    exact absurd hchar (by decide)
  have hspan : (scheme ++ ':' :: behind).span (· ≠ ':') = (scheme, ':' :: behind) := by
    rw [List.span_eq_takeWhile_dropWhile, List.takeWhile_append_of_pos hcolon,
      List.dropWhile_append_of_pos hcolon]
    simp
  have hall : scheme.all isSchemeChar = true := List.all_eq_true.mpr hscheme.chars
  rw [splitScheme, hspan]
  simp only [hscheme.first, hall, hscheme.lower, Bool.and_self, if_true]

theorem splitNetloc_hosted (hhost : PlainHost rejects netloc) (hbehind : Behind rest) :
    splitNetloc ('/' :: '/' :: (netloc ++ rest)) = (netloc, rest) := by
  have hinside : ∀ c ∈ netloc, decide (c ≠ '/' ∧ c ≠ '?' ∧ c ≠ '#') = true :=
    fun c hc => decide_eq_true (hhost.chars c hc).2
  show (netloc ++ rest).span _ = _
  rw [List.span_eq_takeWhile_dropWhile, List.takeWhile_append_of_pos hinside,
    List.dropWhile_append_of_pos hinside]
  cases rest with
  | nil => simp
  | cons c cs =>
    have hend : decide (c ≠ '/' ∧ c ≠ '?' ∧ c ≠ '#') = false := by
      rcases hbehind.first c rfl with rfl | rfl | rfl <;> decide
    simp only [List.takeWhile_cons, List.dropWhile_cons, hend, Bool.false_eq_true, if_false,
      List.append_nil]

theorem kept_of_isSchemeChar {c : Char} (h : isSchemeChar c = true) : Kept c := by
  refine ⟨?_, ?_, ?_⟩ <;> rintro rfl <;> exact absurd h (by decide)

/-- Behind the host, only the characters that are dropped are missing. -/
theorem clean_hosted_filter (hscheme : PlainScheme scheme) (hhost : PlainHost rejects netloc)
    (rest : List Char) :
    clean (hosted scheme netloc rest) =
      hosted scheme netloc (rest.filter fun c => decide (Kept c)) := by
  have hfirst : (hosted scheme netloc rest).dropWhile (·.toNat ≤ 32) =
      hosted scheme netloc rest := by
    cases scheme with
    | nil => exact absurd rfl hscheme.ne_nil
    | cons d ds =>
      have halpha : d.isAlpha = true := hscheme.first
      delta Char.isAlpha at halpha
      rw [Bool.or_eq_true, PyText.isUpper_iff, PyText.isLower_iff] at halpha
      apply List.dropWhile_cons_of_neg
      rw [decide_eq_true_eq]
      omega
  have hkeep : ∀ part : List Char, (∀ c ∈ part, Kept c) →
      part.filter (fun c => decide (Kept c)) = part :=
    fun part hpart => List.filter_eq_self.mpr fun c hc => decide_eq_true (hpart c hc)
  have hprefix := hkeep (scheme ++ ':' :: '/' :: '/' :: netloc) fun c hc => by
    simp only [List.mem_append, List.mem_cons] at hc
    rcases hc with hc | rfl | rfl | rfl | hc
    · exact kept_of_isSchemeChar (hscheme.chars c hc)
    · decide
    · decide
    · decide
    · exact (hhost.chars c hc).1
  rw [clean, hfirst]
  show List.filter (fun c => decide (Kept c)) _ = _
  have hparts : ∀ rest : List Char, hosted scheme netloc rest =
      (scheme ++ ':' :: '/' :: '/' :: netloc) ++ rest := fun rest => by simp [hosted]
  rw [hparts, hparts, List.filter_append, hprefix]

theorem components_hosted_filter (hscheme : PlainScheme scheme) (hhost : PlainHost rejects netloc)
    (hbehind : Behind (rest.filter fun c => decide (Kept c))) :
    components rejects defaultScheme (String.ofList (hosted scheme netloc rest)) =
      .ok (.ofRest scheme netloc (rest.filter fun c => decide (Kept c))) := by
  unfold components
  rw [String.toList_ofList, clean_hosted_filter hscheme hhost, hosted,
    splitScheme_hosted hscheme]
  dsimp only
  rw [splitNetloc_hosted hhost hbehind]
  dsimp only
  rw [hhost.accepted, if_neg hscheme.ne_nil]
  rfl

theorem components_hosted (hscheme : PlainScheme scheme) (hhost : PlainHost rejects netloc)
    (hbehind : Behind rest) :
    components rejects defaultScheme (String.ofList (hosted scheme netloc rest)) =
      .ok (.ofRest scheme netloc rest) := by
  have hself : (rest.filter fun c => decide (Kept c)) = rest :=
    List.filter_eq_self.mpr fun c hc => decide_eq_true (hbehind.kept c hc)
  rw [components_hosted_filter hscheme hhost (by rw [hself]; exact hbehind), hself]

/-- `urlparse` with no default scheme, as far as the other functions read it. -/
theorem urlparse_eq_components (rejects : List Char → Bool) (url : String) :
    urlparse rejects url =
      (components rejects [] url).map fun u => ⟨u.scheme, u.netloc, u.path⟩ := by
  have hscheme : ∀ scheme : List Char, (if scheme = [] then [] else scheme) = scheme :=
    fun scheme => by split <;> simp_all
  unfold urlparse components
  dsimp only
  rw [hscheme]
  split <;> rfl

/-- The URL leads to this host. -/
def LeadsTo (rejects : List Char → Bool) (scheme netloc : List Char) (url : String) : Prop :=
  ∃ path, urlparse rejects url = .ok ⟨scheme, netloc, path⟩

theorem leadsTo_hosted (hscheme : PlainScheme scheme) (hhost : PlainHost rejects netloc)
    (hbehind : Behind rest) :
    LeadsTo rejects scheme netloc (String.ofList (hosted scheme netloc rest)) := by
  unfold LeadsTo
  rw [urlparse_eq_components, components_hosted hscheme hhost hbehind]
  exact ⟨_, rfl⟩

theorem setOff_kept {separator : Char} {part : List Char} (hseparator : Kept separator)
    (hpart : ∀ c ∈ part, Kept c) : ∀ c ∈ setOff separator part, Kept c := by
  intro c hc
  unfold setOff at hc
  split at hc
  · cases hc
  · rcases List.mem_cons.mp hc with rfl | hc
    · exact hseparator
    · exact hpart c hc

theorem setOff_head {separator : Char} {part : List Char} {c : Char}
    (h : (setOff separator part).head? = some c) : c = separator := by
  unfold setOff at h
  split at h <;> cases h
  rfl

theorem urlunparse_hosted {u : Components} (hscheme : u.scheme ≠ []) (hnetloc : u.netloc ≠ [])
    (hkept : ∀ c ∈ u.tail, Kept c) :
    ∃ rest, urlunparse u = hosted u.scheme u.netloc rest ∧ Behind rest := by
  let url := u.path ++ setOff ';' u.params
  let path := if url ≠ [] ∧ url.head? ≠ some '/' then '/' :: url else url
  refine ⟨path ++ setOff '?' u.query ++ setOff '#' u.fragment, ?_, ?_, ?_⟩
  · unfold urlunparse
    dsimp only
    rw [if_pos (Or.inl hnetloc), if_pos hscheme]
    simp [hosted, path, url]
  · intro c hc
    rw [List.append_assoc, List.head?_append] at hc
    cases hpath : path.head? with
    | some d =>
      rw [hpath] at hc
      cases hc
      refine Or.inl ?_
      by_cases hurl : url ≠ [] ∧ url.head? ≠ some '/'
      · simp only [path, if_pos hurl] at hpath
        cases hpath
        rfl
      · simp only [path, if_neg hurl] at hpath
        by_contra hne
        apply hurl
        refine ⟨?_, ?_⟩
        · rintro hnil
          rw [hnil] at hpath
          cases hpath
        · rw [hpath]
          exact fun heq => hne (Option.some.inj heq)
    | none =>
      rw [hpath, Option.none_or, List.head?_append] at hc
      cases hquery : (setOff '?' u.query).head? with
      | some d =>
        rw [hquery] at hc
        cases hc
        exact Or.inr (Or.inl (setOff_head hquery))
      | none =>
        rw [hquery, Option.none_or] at hc
        exact Or.inr (Or.inr (setOff_head hc))
  · have hparts : ∀ c, c ∈ u.path ∨ c ∈ u.params ∨ c ∈ u.query ∨ c ∈ u.fragment → Kept c := by
      intro c hc
      apply hkept c
      simp only [Components.tail, List.mem_append]
      tauto
    have hurl : ∀ c ∈ url, Kept c := by
      intro c hc
      rcases List.mem_append.mp hc with hc | hc
      · exact hparts c (Or.inl hc)
      · exact setOff_kept (by decide) (fun d hd => hparts d (Or.inr (Or.inl hd))) c hc
    intro c hc
    rcases List.mem_append.mp hc with hc | hc
    · rcases List.mem_append.mp hc with hc | hc
      · simp only [path] at hc
        split at hc
        · rcases List.mem_cons.mp hc with rfl | hc
          · decide
          · exact hurl c hc
        · exact hurl c hc
      · exact setOff_kept (by decide) (fun d hd => hparts d (by tauto)) c hc
    · exact setOff_kept (by decide) (fun d hd => hparts d (by tauto)) c hc

/-- A text that can be the path of a URL on a host, or empty. -/
structure OnlyPath (path : List Char) : Prop where
  first : ∀ c, path.head? = some c → c = '/'
  single : path.take 2 ≠ ['/', '/']
  kept : ∀ c ∈ path, Kept c

theorem OnlyPath.of_prefix {path start : List Char} (hpath : OnlyPath path)
    (hstart : start <+: path) : OnlyPath start where
  first := by
    intro c hc
    apply hpath.first
    cases start with
    | nil => cases hc
    | cons d ds =>
      obtain ⟨tail, rfl⟩ := hstart
      exact hc
  single := by
    intro htwo
    apply hpath.single
    obtain ⟨tail, rfl⟩ := hstart
    have hlength : 2 ≤ start.length := by
      have h := congrArg List.length htwo
      simp only [List.length_take, List.length_cons, List.length_nil] at h
      omega
    rw [List.take_append_of_le_length hlength, htwo]
  kept := fun c hc => hpath.kept c (hstart.subset hc)

theorem OnlyPath.behind {path : List Char} (hpath : OnlyPath path) : Behind path where
  first := fun c hc => Or.inl (hpath.first c hc)
  kept := hpath.kept

theorem afterLast_suffix (separator : Char) (s : List Char) : afterLast separator s <:+ s := by
  have h := List.reverse_suffix.mpr (List.takeWhile_prefix (l := s.reverse) (· ≠ separator))
  rwa [List.reverse_reverse] at h

theorem dropParams_prefix (path : List Char) : dropParams path <+: path := by
  obtain ⟨start, hstart⟩ := afterLast_suffix '/' path
  have htake : path.take (path.length - (afterLast '/' path).length) = start := by
    have hlength := congrArg List.length hstart
    rw [List.length_append] at hlength
    have hindex : path.length - (afterLast '/' path).length = start.length := by omega
    rw [hindex]
    conv_lhs => rw [← hstart]
    exact List.take_left
  show path.take _ ++ List.takeWhile _ (afterLast '/' path) <+: path
  rw [htake]
  conv_rhs => rw [← hstart]
  exact (List.prefix_append_right_inj start).mpr (List.takeWhile_prefix _)

theorem Components.path_ofRest_prefix (scheme netloc rest : List Char) :
    (ofRest scheme netloc rest).path <+: rest := by
  have hpath : (cutAt '?' (cutAt '#' rest).1).1 <+: rest :=
    (List.takeWhile_prefix _).trans (List.takeWhile_prefix _)
  simp only [ofRest]
  split
  · have hdrop := dropParams_prefix (cutAt '?' (cutAt '#' rest).1).1
    exact hdrop.trans hpath
  · exact hpath

/-- The path of a URL on a host. -/
theorem onlyPath_of_urlparse (hscheme : PlainScheme scheme) (hhost : PlainHost rejects netloc)
    (hrest : OnlyPath (rest.filter fun c => decide (Kept c))) {parsed : ParseResult}
    (h : urlparse rejects (String.ofList (hosted scheme netloc rest)) = .ok parsed) :
    OnlyPath parsed.path := by
  rw [urlparse_eq_components, components_hosted_filter hscheme hhost hrest.behind] at h
  cases h
  exact hrest.of_prefix (Components.path_ofRest_prefix scheme netloc _)

theorem OnlyPath.splitScheme_eq {path : List Char} (hpath : OnlyPath path) :
    splitScheme path = ([], path) := by
  cases path with
  | nil => rfl
  | cons c cs =>
    obtain rfl := hpath.first c rfl
    unfold splitScheme
    split
    · rename_i scheme rest hspan
      rw [List.span_eq_takeWhile_dropWhile] at hspan
      obtain ⟨hscheme, -⟩ := Prod.mk.inj hspan
      rw [List.takeWhile_cons_of_pos (by decide)] at hscheme
      rw [← hscheme]
      rfl
    · rfl

theorem OnlyPath.splitNetloc_eq {path : List Char} (hpath : OnlyPath path) :
    splitNetloc path = ([], path) := by
  unfold splitNetloc
  split
  · exact absurd rfl hpath.single
  · rfl

theorem components_onlyPath {path : String} (hpath : OnlyPath path.toList)
    (haccepted : rejects [] = false) :
    components rejects defaultScheme path = .ok (.ofRest defaultScheme [] path.toList) := by
  have hclean : clean path.toList = path.toList := by
    apply clean_eq_self _ hpath.kept
    intro c hc
    rw [hpath.first c hc]
    decide
  unfold components
  rw [hclean, hpath.splitScheme_eq]
  dsimp only
  rw [hpath.splitNetloc_eq]
  dsimp only
  rw [haccepted]
  rfl

theorem joinComponents_hosted {b u : Components} (hscheme : u.scheme = b.scheme)
    (hnetloc : u.netloc = []) (hbase : b.scheme ≠ [] ∧ b.netloc ≠ [])
    (hrelative : usesRelative.contains (String.ofList b.scheme) = true)
    (hjoins : usesNetloc.contains (String.ofList b.scheme) = true)
    (hb : ∀ c ∈ b.tail, Kept c) (hu : ∀ c ∈ u.tail, Kept c) (url : String) :
    ∃ behind, Behind behind ∧
      joinComponents b u url = String.ofList (hosted b.scheme b.netloc behind) := by
  have hjoined : ∀ v : Components, v.scheme = b.scheme → v.netloc = b.netloc →
      (∀ c ∈ v.tail, Kept c) → ∃ behind, Behind behind ∧
        String.ofList (urlunparse v) = String.ofList (hosted b.scheme b.netloc behind) := by
    rintro v hv hhost hkept
    rw [← hv, ← hhost] at hbase ⊢
    obtain ⟨behind, heq, hbehind⟩ := urlunparse_hosted hbase.1 hbase.2 hkept
    exact ⟨behind, hbehind, by rw [heq]⟩
  have hother : ¬ (u.scheme ≠ b.scheme ∨ ¬ usesRelative.contains (String.ofList u.scheme)) := by
    rw [hscheme]
    exact fun h => h.elim (fun hne => hne rfl) fun hnot => hnot hrelative
  have hnone : ¬ (usesNetloc.contains (String.ofList u.scheme) ∧ u.netloc ≠ []) :=
    fun h => h.2 hnetloc
  have huses : usesNetloc.contains (String.ofList u.scheme) = true := by rw [hscheme]; exact hjoins
  unfold joinComponents
  dsimp only
  rw [if_neg hother, if_neg hnone, if_pos huses]
  simp only [Components.tail, List.mem_append] at hb hu
  split
  · refine hjoined _ (by exact hscheme) (by rfl) ?_
    intro c hc
    simp only [Components.tail, List.mem_append] at hc
    rcases hc with ((hc | hc) | hc) | hc
    · exact hb c (by tauto)
    · exact hb c (by tauto)
    · split at hc
      · exact hb c (by tauto)
      · exact hu c (by tauto)
    · exact hu c (by tauto)
  · refine hjoined _ (by exact hscheme) (by rfl) ?_
    intro c hc
    simp only [Components.tail, List.mem_append] at hc
    rcases hc with ((hc | hc) | hc) | hc
    · rcases mem_joinPath hc with rfl | hc | hc
      · decide
      · exact hb c (by tauto)
      · exact hu c (by tauto)
    · exact hu c (by tauto)
    · exact hu c (by tauto)
    · exact hu c (by tauto)

/-- A path joined with a URL on a host leads to that host. -/
theorem urljoin_hosted (hscheme : PlainScheme scheme)
    (hrelative : usesRelative.contains (String.ofList scheme) = true)
    (hjoins : usesNetloc.contains (String.ofList scheme) = true)
    (hhost : PlainHost rejects netloc) (hbehind : Behind rest) (haccepted : rejects [] = false)
    {path : String} (hpath : OnlyPath path.toList) :
    ∃ behind, Behind behind ∧ urljoin rejects (String.ofList (hosted scheme netloc rest)) path =
      .ok (String.ofList (hosted scheme netloc behind)) := by
  have hbase : String.ofList (hosted scheme netloc rest) ≠ "" := by
    intro h
    have hnil := congrArg String.toList h
    rw [String.toList_ofList] at hnil
    exact absurd (List.append_eq_nil_iff.mp hnil).1 hscheme.ne_nil
  unfold urljoin
  rw [if_neg hbase]
  split
  · exact ⟨rest, hbehind, rfl⟩
  obtain ⟨behind, hbehind', hjoined⟩ := joinComponents_hosted
    (b := .ofRest scheme netloc rest) (u := .ofRest scheme [] path.toList) rfl rfl
    ⟨hscheme.ne_nil, hhost.nonempty⟩ hrelative hjoins
    (fun c hc => hbehind.kept c (Components.mem_tail_ofRest hc))
    (fun c hc => hpath.kept c (Components.mem_tail_ofRest hc)) path
  refine ⟨behind, hbehind', ?_⟩
  rw [components_hosted hscheme hhost hbehind]
  show Except.bind (components rejects scheme path) _ = _
  rw [components_onlyPath hpath haccepted]
  exact congrArg Except.ok hjoined

end Hosted

end RenkuNotebooks.PyUrl
