import RenkuNotebooks.Foundation.Gitignore
import RenkuNotebooks.GitServices.OwnDirectories

/-!
# Storage mounts inside a repository

The lines that `_exclude_storages_from_git` appends are read as git reads them. A mount of two or
more names is excluded where it is; the line of a mount directly in the repository has no slash and
excludes its name everywhere.
-/

namespace RenkuNotebooks.GitServices.ExcludedMounts

open Gitignore

def names (path : List String) : List Name := path.map String.toList

/-- Where a mount is. -/
def location (storage : String) : Directory := (PosixPath.ofString storage).resolve

/-- The path of a mount below the repository, if it begins with the path of the repository; with
two leading slashes it does not. -/
def relativePath (repository : Repository) (storage : String) : Option (List String) :=
  let path := PosixPath.ofString storage
  if repository.absolutePath.isParentOf path then some (path.relativeTo repository.absolutePath)
  else none

/-- What the program appends to the exclude file. -/
def appended (repository : Repository) (storages : List String) : String :=
  String.join ("\n" :: GitCloner.excludeLines repository storages)

def rules (repository : Repository) (storages : List String) : List Rule :=
  readRules (appended repository storages).toList

/-- Where a path of the repository is. -/
def place (repository : Repository) (path : List Name) : Directory :=
  (path.map String.ofList).reverse ++ repository.directory

/-- Git ignores what is at or below the mounts inside the repository and nothing else. -/
def IgnoresExactly (repository : Repository) (storages : List String) : Prop :=
  ∀ (path : List Name) (directory : Bool), (∀ name ∈ path, IsName name) → path ≠ [] →
    (ignored (rules repository storages) path directory = true ↔
      ∃ storage ∈ storages, repository.directory.Below (location storage) ∧
        (location storage).Within (place repository path))

/-- A mount whose line stands for the mount alone. -/
structure Exact (repository : Repository) (storages : List String) (path : List String) : Prop where
  mount : ∃ storage ∈ storages, relativePath repository storage = some path
  proper : ".." ∉ path
  inner : 2 ≤ path.length
  plain : Gitignore.Plain (text (names path))

/-- A line that excludes nothing outside of these mounts: it has `..` in it, or goes on from the line
of such a mount. -/
def Harmless (repository : Repository) (storages : List String) (path : List String) : Prop :=
  (".." ∈ path ∧ Gitignore.Plain (text (names path))) ∨
    ∃ outer, Exact repository storages outer ∧ outer <+: path ∧ '\n' ∉ text (names path)

structure Safe (repository : Repository) (storages : List String) : Prop where
  lines : ∀ storage ∈ storages, ∀ path, relativePath repository storage = some path →
    Harmless repository storages path
  mounts : ∀ storage ∈ storages, repository.directory.Below (location storage) →
    ∃ outer, Exact repository storages outer ∧
      Directory.Within (outer.reverse ++ repository.directory) (location storage)

/-- No line has special characters in it, except after the line of an exact mount. -/
def Ordinary (repository : Repository) (storages : List String) : Prop :=
  ∀ storage ∈ storages, ∀ path, relativePath repository storage = some path →
    Gitignore.Plain (text (names path)) ∨ Harmless repository storages path

theorem excludeStoragesFromGit_writes (repository : Repository) {storages : List String}
    (hne : storages ≠ []) :
    GitCloner.excludeStoragesFromGit repository storages =
      (CloneProg.openAppend (repository.absolutePath.child [".git", "info", "exclude"])).bind fun _ =>
        CloneProg.write (repository.absolutePath.child [".git", "info", "exclude"])
          (appended repository storages) := by
  have hempty : storages.isEmpty = false := List.isEmpty_eq_false_iff.mpr hne
  rw [GitCloner.excludeStoragesFromGit, hempty]
  rfl

/-! ### Paths -/

theorem isPart_of_ofString {s part : String} (h : part ∈ (PosixPath.ofString s).parts) :
    IsPart part.toList ∧ part ≠ "." := by
  obtain ⟨cs, hcs, rfl⟩ := List.mem_map.mp h
  obtain ⟨hmem, hkept⟩ := List.mem_filter.mp hcs
  obtain ⟨hne, hdot⟩ := of_decide_eq_true hkept
  rw [String.toList_ofList]
  refine ⟨⟨hne, PosixPath.parts_of_segments _ cs hmem⟩, fun heq => hdot ?_⟩
  rw [← String.toList_ofList (l := cs), heq]
  decide

theorem isName_of_ofString {s part : String} (h : part ∈ (PosixPath.ofString s).parts)
    (hproper : part ≠ "..") :
    IsName part.toList := by
  obtain ⟨hpart, hdot⟩ := isPart_of_ofString h
  refine ⟨hpart, fun heq => hdot ?_, fun heq => hproper ?_⟩
  · rw [← String.ofList_toList (s := part), heq]
  · rw [← String.ofList_toList (s := part), heq]

theorem parts_eq_of_relativePath {repository : Repository} {storage : String} {path : List String}
    (h : relativePath repository storage = some path) :
    (PosixPath.ofString storage).isAbsolute = repository.absolutePath.isAbsolute ∧
      (PosixPath.ofString storage).parts = repository.absolutePath.parts ++ path ∧ path ≠ [] := by
  rw [relativePath] at h
  split at h
  next hparent =>
    obtain rfl := Option.some.inj h
    simp only [PosixPath.isParentOf, Bool.and_eq_true, beq_iff_eq, bne_iff_ne] at hparent
    obtain ⟨⟨⟨habsolute, _⟩, hprefix⟩, hne⟩ := hparent
    obtain ⟨rest, hrest⟩ := List.isPrefixOf_iff_prefix.mp hprefix
    rw [PosixPath.relativeTo, ← hrest, List.drop_left]
    refine ⟨habsolute.symm, rfl, ?_⟩
    rintro rfl
    rw [List.append_nil] at hrest
    exact hne hrest
  next => cases h

theorem location_of_relativePath {repository : Repository} {storage : String} {path : List String}
    (h : relativePath repository storage = some path) (hproper : ".." ∉ path) :
    location storage = path.reverse ++ repository.directory := by
  obtain ⟨habsolute, hparts, _⟩ := parts_eq_of_relativePath h
  rw [location, PosixPath.resolve, PosixPath.start, habsolute, hparts, List.foldl_append,
    PosixPath.resolve_proper hproper]
  rfl

theorem isName_of_location {storage part : String} (h : part ∈ location storage) :
    IsName part.toList := by
  obtain hstart | ⟨hmem, hproper⟩ := PosixPath.mem_of_resolve h
  · rw [PosixPath.start] at hstart
    split at hstart
    · cases hstart
    · obtain rfl := List.mem_singleton.mp hstart
      decide +kernel
  · exact isName_of_ofString hmem hproper

/-! ### Lines -/

theorem appended_toList (repository : Repository) (storages : List String) :
    (appended repository storages).toList =
      '\n' :: (storages.filterMap (relativePath repository)).flatMap fun path =>
        text (names path) ++ ['\n'] := by
  have hlines : GitCloner.excludeLines repository storages =
      (storages.filterMap (relativePath repository)).map fun path => "/".intercalate path ++ "\n" := by
    rw [List.map_filterMap, GitCloner.excludeLines]
    congr 1
    funext storage
    rw [relativePath]
    dsimp only
    split <;> rfl
  have hline : (fun path : List String => ("/".intercalate path ++ "\n").toList) =
      fun path => text (names path) ++ ['\n'] := by
    funext path
    rw [String.toList_append, String.toList_intercalate]
    rfl
  rw [appended, hlines, String.toList_join, List.flatMap_cons, List.flatMap_map, hline]
  rfl

theorem rules_eq {repository : Repository} {storages : List String}
    (hlines : ∀ storage ∈ storages, ∀ path, relativePath repository storage = some path →
      '\n' ∉ text (names path)) :
    rules repository storages =
      (storages.filterMap (relativePath repository)).filterMap fun path =>
        readLine (dropReturn (text (names path))) := by
  have hflat : ((storages.filterMap (relativePath repository)).flatMap fun path =>
      text (names path) ++ ['\n']) =
      ((storages.filterMap (relativePath repository)).map fun path => text (names path)).flatMap
        (· ++ ['\n']) := by
    rw [List.flatMap_map]
  rw [rules, appended_toList, hflat, readRules_lines, List.filterMap_map]
  · rfl
  · intro line hline
    obtain ⟨path, hpath, rfl⟩ := List.mem_map.mp hline
    obtain ⟨storage, hstorage, hrelative⟩ := List.mem_filterMap.mp hpath
    exact hlines storage hstorage path hrelative

variable {repository : Repository} {storages : List String}

theorem mem_rules (hlines : ∀ storage ∈ storages, ∀ path,
      relativePath repository storage = some path → '\n' ∉ text (names path)) {rule : Rule} :
    rule ∈ rules repository storages ↔ ∃ storage ∈ storages, ∃ path,
      relativePath repository storage = some path ∧
        readLine (dropReturn (text (names path))) = some rule := by
  rw [rules_eq hlines, List.mem_filterMap]
  constructor
  · rintro ⟨path, hpath, hrule⟩
    obtain ⟨storage, hstorage, hrelative⟩ := List.mem_filterMap.mp hpath
    exact ⟨storage, hstorage, path, hrelative, hrule⟩
  · rintro ⟨storage, hstorage, path, hrelative, hrule⟩
    exact ⟨path, List.mem_filterMap.mpr ⟨storage, hstorage, hrelative⟩, hrule⟩

theorem parts_of_relativePath {storage : String} {path : List String}
    (h : relativePath repository storage = some path) : ∀ name ∈ names path, IsPart name := by
  intro name hname
  obtain ⟨part, hpart, rfl⟩ := List.mem_map.mp hname
  have hmem : part ∈ (PosixPath.ofString storage).parts :=
    (parts_eq_of_relativePath h).2.1 ▸ List.mem_append_right _ hpart
  exact (isPart_of_ofString hmem).1

theorem plainPath {storage : String} {path : List String}
    (h : relativePath repository storage = some path) (hplain : Gitignore.Plain (text (names path))) :
    PlainPath (names path) :=
  ⟨parts_of_relativePath h, hplain⟩

theorem not_newline_of_plain {cs : List Char} (h : Gitignore.Plain cs) : '\n' ∉ cs :=
  fun hmem => (h.chars _ hmem).2.2.2.2.1 rfl

theorem Exact.plainPath {outer : List String} (h : Exact repository storages outer) :
    PlainPath (names outer) := by
  obtain ⟨storage, _, hrelative⟩ := h.mount
  exact ⟨parts_of_relativePath hrelative, h.plain⟩

theorem Exact.inner_names {outer : List String} (h : Exact repository storages outer) :
    2 ≤ (names outer).length := by
  rw [names, List.length_map]
  exact h.inner

/-- At or below an exact mount. -/
def Covered (repository : Repository) (storages : List String) (path : List Name) : Prop :=
  ∃ outer, Exact repository storages outer ∧ names outer <+: path

theorem covered_of_harmless {path : List String} {storage : String}
    (hrelative : relativePath repository storage = some path)
    (h : Harmless repository storages path) :
    '\n' ∉ text (names path) ∧ ∃ rule, readLine (dropReturn (text (names path))) = some rule ∧
      rule.negated = false ∧ ∀ below directory, (∀ name ∈ below, IsName name) → below ≠ [] →
        rule.matchesPath below directory = true → Covered repository storages below := by
  obtain ⟨hproper, hplain⟩ | ⟨outer, hexact, ⟨more, rfl⟩, hline⟩ := h
  · -- A path of the repository has no `..` in it.
    have hpath := plainPath hrelative hplain
    refine ⟨not_newline_of_plain hplain, _, hpath.readLine, rfl, ?_⟩
    intro below directory hbelow hne hmatches
    exfalso
    have hdots : ['.', '.'] ∈ names path :=
      List.mem_map.mpr ⟨"..", hproper, by decide⟩
    have hparts : ∀ name ∈ below, IsPart name := fun name hname => (hbelow name hname).1
    by_cases hinner : 2 ≤ (names path).length
    · rw [plainRule_matches hpath.parts hparts hinner hne] at hmatches
      exact (hbelow _ (hmatches ▸ hdots)).2.2 rfl
    · obtain ⟨name, hname⟩ : ∃ name, names path = [name] := by
        refine List.length_eq_one_iff.mp ?_
        have := List.length_pos_iff.mpr hpath.ne_nil
        omega
      rw [hname] at hdots hmatches
      obtain rfl := List.mem_singleton.mp hdots
      have htext : text [['.', '.']] = ['.', '.'] := by decide
      rw [htext, plainRule_matches_name (by decide) hne] at hmatches
      exact (hbelow _ (List.getLast_mem hne)).2.2 hmatches
  · refine ⟨hline, ?_⟩
    have hconfined : ∀ rule, Confined (names outer) rule → ∀ below directory,
        (∀ name ∈ below, IsName name) → below ≠ [] → rule.matchesPath below directory = true →
          Covered repository storages below := by
      intro rule hrule below directory hbelow hne hmatches
      exact ⟨outer, hexact, hrule below directory (fun name hname => (hbelow name hname).1) hne hmatches⟩
    have hslash := (mem_text hexact.plainPath.parts).mpr hexact.inner_names
    cases more with
    | nil =>
      rw [List.append_nil]
      exact ⟨_, hexact.plainPath.readLine, rfl,
        hconfined _ (confined_plain hexact.plainPath (decide_eq_true hslash) rfl)⟩
    | cons first more =>
      have htext : text (names (outer ++ first :: more)) =
          text (names outer) ++ '/' :: text (names (first :: more)) := by
        rw [names, List.map_append, ← names, ← names]
        exact text_append hexact.plainPath.ne_nil (by simp [names])
      obtain ⟨rule, hread, hpositive, hbelow⟩ :=
        readLine_below hexact.plainPath hslash (text (names (first :: more)))
      rw [htext]
      exact ⟨rule, hread, hpositive, hconfined rule hbelow⟩

/-! ### Mounts and paths -/

theorem names_initial {outer : List String} {path : List Name} :
    names outer <+: path ↔ outer <+: path.map String.ofList := by
  have htoList : (String.ofList ∘ String.toList) = id := funext fun _ => String.ofList_toList
  have hofList : (String.toList ∘ String.ofList) = id := funext fun _ => String.toList_ofList
  constructor
  · rintro ⟨rest, rfl⟩
    rw [List.map_append, names, List.map_map, htoList, List.map_id]
    exact List.prefix_append _ _
  · rintro ⟨rest, hrest⟩
    have hpath := congrArg (List.map String.toList) hrest
    rw [List.map_append, List.map_map, hofList, List.map_id] at hpath
    rw [← hpath]
    exact List.prefix_append _ _

theorem within_place {outer : List String} {path : List Name} :
    Directory.Within (outer.reverse ++ repository.directory) (place repository path) ↔
      names outer <+: path := by
  rw [names_initial, ← List.reverse_suffix]
  constructor
  · rintro ⟨rest, hrest⟩
    rw [place, ← List.append_assoc] at hrest
    exact ⟨rest, List.append_cancel_right hrest⟩
  · rintro ⟨rest, hrest⟩
    exact ⟨rest, by rw [place, ← hrest, List.append_assoc]⟩

theorem Exact.location {outer : List String} (h : Exact repository storages outer) :
    ∃ storage ∈ storages, location storage = outer.reverse ++ repository.directory ∧
      repository.directory.Below (location storage) := by
  obtain ⟨storage, hstorage, hrelative⟩ := h.mount
  have hlocation := location_of_relativePath hrelative h.proper
  refine ⟨storage, hstorage, hlocation, ?_, ?_⟩
  · rw [hlocation]
    exact List.suffix_append _ _
  · rw [hlocation]
    intro heq
    have hnil : outer.reverse = [] := List.append_left_eq_self.mp heq
    have hinner := h.inner
    rw [List.reverse_eq_nil_iff.mp hnil] at hinner
    cases hinner

theorem below_of_covered {path : List Name} (h : Covered repository storages path) :
    ∃ storage ∈ storages, repository.directory.Below (location storage) ∧
      (location storage).Within (place repository path) := by
  obtain ⟨outer, hexact, hstart⟩ := h
  obtain ⟨storage, hstorage, hlocation, hbelow⟩ := hexact.location
  refine ⟨storage, hstorage, hbelow, ?_⟩
  rw [hlocation]
  exact within_place.mpr hstart

theorem Covered.mono {above path : List Name} (h : Covered repository storages above)
    (hstart : above <+: path) : Covered repository storages path := by
  obtain ⟨outer, hexact, houter⟩ := h
  exact ⟨outer, hexact, houter.trans hstart⟩

/-! ### Safe mounts are ignored exactly -/

/-- Where all lines are harmless, only what exact mounts cover is ignored. -/
theorem covered_of_ignored (hharmless : ∀ storage ∈ storages, ∀ path,
      relativePath repository storage = some path → Harmless repository storages path)
    {path : List Name} {directory : Bool} (hpath : ∀ name ∈ path, IsName name)
    (hignored : ignored (rules repository storages) path directory = true) :
    Covered repository storages path := by
  have hrule := @mem_rules repository storages fun storage hstorage path hrelative =>
    (covered_of_harmless hrelative (hharmless storage hstorage path hrelative)).1
  have hspec : ∀ rule ∈ rules repository storages, rule.negated = false ∧
      ∀ below directory, (∀ name ∈ below, IsName name) → below ≠ [] →
        rule.matchesPath below directory = true → Covered repository storages below := by
    intro rule hmem
    obtain ⟨storage, hstorage, path, hrelative, hread⟩ := hrule.mp hmem
    obtain ⟨_, rule', hread', hspec⟩ :=
      covered_of_harmless hrelative (hharmless storage hstorage path hrelative)
    obtain rfl := Option.some.inj (hread.symm.trans hread')
    exact hspec
  rw [ignored_of_positive fun rule hmem => (hspec rule hmem).1] at hignored
  obtain ⟨above, hstart, hne, rule, hmem, hmatches⟩ := hignored
  have habove : ∀ name ∈ above, IsName name := fun name hname => hpath name (hstart.mem hname)
  exact ((hspec rule hmem).2 above _ habove hne hmatches).mono hstart

/-- What lies at or below a path whose line is plain is ignored, if no line is an exception. -/
theorem ignored_of_rule (hpositive : ∀ rule ∈ rules repository storages, rule.negated = false)
    {rule : Rule} (hrule : rule ∈ rules repository storages) {above path : List Name}
    (hstart : above <+: path) (hne : above ≠ [])
    (hmatches : ∀ directory, rule.matchesPath above directory = true) (directory : Bool) :
    ignored (rules repository storages) path directory = true := by
  rw [ignored_of_positive hpositive]
  exact ⟨above, hstart, hne, rule, hrule, hmatches _⟩

theorem ignoresExactly_of_safe (h : Safe repository storages) :
    IgnoresExactly repository storages := by
  have hline := fun storage hstorage path hrelative =>
    covered_of_harmless hrelative (h.lines storage hstorage path hrelative)
  have hrule := @mem_rules repository storages fun storage hstorage path hrelative =>
    (hline storage hstorage path hrelative).1
  intro path directory hpath hne
  constructor
  · exact fun hignored => below_of_covered (covered_of_ignored h.lines hpath hignored)
  · rintro ⟨storage, hstorage, hbelow, hwithin⟩
    obtain ⟨outer, hexact, houter⟩ := h.mounts storage hstorage hbelow
    have hstart : names outer <+: path := within_place.mp (houter.trans hwithin)
    obtain ⟨other, hother, hrelative⟩ := hexact.mount
    have hmem := hrule.mpr ⟨other, hother, outer, hrelative, hexact.plainPath.readLine⟩
    refine ignored_of_rule ?_ hmem hstart hexact.plainPath.ne_nil (fun directory => ?_) directory
    · intro rule hmem
      obtain ⟨storage, hstorage, path, hrelative, hread⟩ := hrule.mp hmem
      obtain ⟨_, rule', hread', hpositive, _⟩ := hline storage hstorage path hrelative
      rw [Option.some.inj (hread.symm.trans hread')]
      exact hpositive
    · have hparts := hexact.plainPath.parts
      exact (plainRule_matches hparts hparts hexact.inner_names hexact.plainPath.ne_nil _).mpr rfl

/-! ### Mounts that are ignored exactly are safe -/

theorem exists_longer (parts : List String) : ∃ n, ∀ part ∈ parts, part.length < n := by
  induction parts with
  | nil => exact ⟨0, by simp⟩
  | cons part parts ih =>
    obtain ⟨n, hn⟩ := ih
    refine ⟨n + part.length + 1, List.forall_mem_cons.mpr ⟨by omega, fun other hother => ?_⟩⟩
    have := hn other hother
    omega

/-- A name that is not in the place of any mount. -/
theorem exists_fresh (storages : List String) :
    ∃ fresh : Name, IsName fresh ∧ ∀ storage ∈ storages, String.ofList fresh ∉ location storage := by
  obtain ⟨n, hn⟩ := exists_longer (storages.flatMap location)
  refine ⟨List.replicate (n + 3) 'a', ⟨⟨by simp, by simp⟩, ?_, ?_⟩, ?_⟩
  · simp [List.replicate_succ]
  · simp [List.replicate_succ]
  · intro storage hstorage hmem
    have hlt := hn _ (List.mem_flatMap.mpr ⟨storage, hstorage, hmem⟩)
    rw [String.length_ofList, List.length_replicate] at hlt
    omega

/-- The line of a mount directly in the repository also ignores its name in a fresh directory. -/
theorem not_ignoresExactly_of_name (hpositive : ∀ rule ∈ rules repository storages,
      rule.negated = false)
    {name : Name} (hname : IsName name) (hrule : plainRule name ∈ rules repository storages) :
    ¬ IgnoresExactly repository storages := by
  intro hexactly
  obtain ⟨fresh, hfresh, hnot⟩ := exists_fresh storages
  have hpath : ∀ part ∈ [fresh, name], IsName part :=
    List.forall_mem_cons.mpr ⟨hfresh, List.forall_mem_singleton.mpr hname⟩
  have hignored : ignored (rules repository storages) [fresh, name] false = true := by
    refine ignored_of_rule hpositive hrule (List.prefix_refl _) (List.cons_ne_nil _ _) ?_ false
    intro directory
    exact (plainRule_matches_name hname.1 (List.cons_ne_nil _ _) _).mpr rfl
  obtain ⟨storage, hstorage, ⟨hwithin, hne⟩, more, hmore⟩ :=
    (hexactly _ false hpath (List.cons_ne_nil _ _)).mp hignored
  -- The mount is the path itself or the fresh directory.
  obtain ⟨front, hfront⟩ := hwithin
  have hplace : place repository [fresh, name] =
      [String.ofList name, String.ofList fresh] ++ repository.directory := rfl
  rw [hplace, ← hfront, ← List.append_assoc] at hmore
  have hnames : more ++ front = [String.ofList name, String.ofList fresh] :=
    List.append_cancel_right hmore
  have hfront' : front ≠ [] := by
    rintro rfl
    exact hne hfront.symm
  have hlast : String.ofList fresh ∈ front := by
    have hgetLast : front.getLast hfront' = String.ofList fresh := by
      rw [← List.getLast_append_of_right_ne_nil more front hfront']
      simp only [hnames]
      rfl
    rw [← hgetLast]
    exact List.getLast_mem hfront'
  apply hnot storage hstorage
  rw [← hfront]
  exact List.mem_append_left _ hlast

theorem lines_of_ordinary (h : Ordinary repository storages) :
    ∀ storage ∈ storages, ∀ path, relativePath repository storage = some path →
      '\n' ∉ text (names path) ∧
        ∃ rule, readLine (dropReturn (text (names path))) = some rule ∧ rule.negated = false := by
  intro storage hstorage path hrelative
  obtain hplain | hharmless := h storage hstorage path hrelative
  · exact ⟨not_newline_of_plain hplain, _, (plainPath hrelative hplain).readLine, rfl⟩
  · obtain ⟨hnewline, rule, hread, hpositive, _⟩ := covered_of_harmless hrelative hharmless
    exact ⟨hnewline, rule, hread, hpositive⟩

theorem harmless_of_ignoresExactly (hordinary : Ordinary repository storages)
    (h : IgnoresExactly repository storages) : ∀ storage ∈ storages, ∀ path,
      relativePath repository storage = some path → Harmless repository storages path := by
  intro storage hstorage path hrelative
  obtain hplain | hharmless := hordinary storage hstorage path hrelative
  swap
  · exact hharmless
  by_cases hproper : ".." ∈ path
  · exact .inl ⟨hproper, hplain⟩
  by_cases hinner : 2 ≤ path.length
  · exact .inr ⟨path, ⟨⟨storage, hstorage, hrelative⟩, hproper, hinner, hplain⟩,
      List.prefix_refl _, not_newline_of_plain hplain⟩
  · exfalso
    obtain ⟨_, hparts, hne⟩ := parts_eq_of_relativePath hrelative
    obtain ⟨part, rfl⟩ : ∃ part, path = [part] := by
      refine List.length_eq_one_iff.mp ?_
      have := List.length_pos_iff.mpr hne
      omega
    have hlines := lines_of_ordinary hordinary
    have hrule := @mem_rules repository storages fun storage hstorage path hrelative =>
      (hlines storage hstorage path hrelative).1
    have hmem : part ∈ (PosixPath.ofString storage).parts :=
      hparts ▸ List.mem_append_right _ List.mem_cons_self
    have hname : IsName part.toList :=
      isName_of_ofString hmem fun heq => hproper (List.mem_singleton.mpr heq.symm)
    have htext : text (names [part]) = part.toList := List.intercalate_singleton
    have hread := (plainPath hrelative hplain).readLine
    rw [htext] at hread
    have hmemRule : plainRule part.toList ∈ rules repository storages :=
      hrule.mpr ⟨storage, hstorage, [part], hrelative, by rw [htext, hread]⟩
    refine not_ignoresExactly_of_name ?_ hname hmemRule h
    intro rule hmem
    obtain ⟨storage, hstorage, path, hrelative, hread⟩ := hrule.mp hmem
    obtain ⟨_, rule', hread', hpositive⟩ := hlines storage hstorage path hrelative
    rw [Option.some.inj (hread.symm.trans hread')]
    exact hpositive

theorem safe_of_ignoresExactly (hordinary : Ordinary repository storages)
    (h : IgnoresExactly repository storages) : Safe repository storages := by
  have hharmless := harmless_of_ignoresExactly hordinary h
  refine ⟨hharmless, fun storage hstorage hbelow => ?_⟩
  -- The mount itself is a path of the repository.
  obtain ⟨⟨front, hfront⟩, hne⟩ := hbelow
  have hfront' : front ≠ [] := by
    rintro rfl
    exact hne hfront.symm
  have hplace : place repository (names front.reverse) = location storage := by
    have htoList : (String.ofList ∘ String.toList) = id := funext fun _ => String.ofList_toList
    rw [place, names, List.map_map, htoList, List.map_id, List.reverse_reverse, hfront]
  have hpath : ∀ name ∈ names front.reverse, IsName name := by
    intro name hname
    obtain ⟨part, hpart, rfl⟩ := List.mem_map.mp hname
    apply @isName_of_location storage
    rw [← hfront]
    exact List.mem_append_left _ (List.mem_reverse.mp hpart)
  have hignored := (h (names front.reverse) true hpath (by simpa [names] using hfront')).mpr
    ⟨storage, hstorage, ⟨⟨front, hfront⟩, hne⟩, by rw [hplace]⟩
  obtain ⟨outer, hexact, hstart⟩ := covered_of_ignored hharmless hpath hignored
  refine ⟨outer, hexact, ?_⟩
  rw [← hplace]
  exact within_place.mpr hstart

/-- Safe mounts are ignored exactly, and without special characters only they are. -/
theorem ignoresExactly_when_safe (repository : Repository) (storages : List String) :
    (Safe repository storages → IgnoresExactly repository storages) ∧
      (Ordinary repository storages →
        (IgnoresExactly repository storages ↔ Safe repository storages)) :=
  ⟨ignoresExactly_of_safe, fun hordinary =>
    ⟨safe_of_ignoresExactly hordinary, ignoresExactly_of_safe⟩⟩

def sampleRepository : Repository :=
  { url := "https://example.org/repo.git", dirname := "repo", absolutePath := .ofString "/work/repo"
    provider := none, branch := none, commitSha := none }

/-- The same place with the other root gets no line. -/
example : relativePath sampleRepository "//work/repo/data/raw" = none ∧
    sampleRepository.directory.Below (location "//work/repo/data/raw") := by
  decide +kernel

theorem sample_ignoresExactly :
    Safe sampleRepository ["/work/repo/data/raw", "/work/cache"] ∧
      IgnoresExactly sampleRepository ["/work/repo/data/raw", "/work/cache"] := by
  have hraw : relativePath sampleRepository "/work/repo/data/raw" = some ["data", "raw"] := by
    decide +kernel
  have hcache : relativePath sampleRepository "/work/cache" = none := by decide +kernel
  have hplain : Gitignore.Plain (text (names ["data", "raw"])) := by
    have htext : text (names ["data", "raw"]) = "data/raw".toList := by decide +kernel
    have hchars : ∀ c ∈ "data/raw".toList, PlainChar c := PyText.forall_of_all (by decide +kernel)
    rw [htext]
    exact ⟨hchars, by decide +kernel, by decide +kernel, by decide +kernel, by decide +kernel⟩
  have hexact : Exact sampleRepository ["/work/repo/data/raw", "/work/cache"] ["data", "raw"] :=
    ⟨⟨_, List.mem_cons_self, hraw⟩, by decide +kernel, by decide, hplain⟩
  have hsafe : Safe sampleRepository ["/work/repo/data/raw", "/work/cache"] := by
    constructor
    · refine List.forall_mem_cons.mpr ⟨?_, List.forall_mem_singleton.mpr ?_⟩
      · intro path hpath
        obtain rfl := Option.some.inj (hraw.symm.trans hpath)
        exact .inr ⟨_, hexact, List.prefix_refl _, not_newline_of_plain hplain⟩
      · intro path hpath
        cases hcache.symm.trans hpath
    · refine List.forall_mem_cons.mpr ⟨fun _ => ?_, List.forall_mem_singleton.mpr ?_⟩
      · exact ⟨_, hexact, by decide +kernel⟩
      · intro hbelow
        exact absurd hbelow (by decide +kernel)
  exact ⟨hsafe, (ignoresExactly_when_safe _ _).1 hsafe⟩

/-- With the mount `data` the directory `src/data` is ignored as well. -/
theorem same_name_ignored :
    ¬ ∀ repository storages, IgnoresExactly repository storages := by
  intro h
  have hignored : ignored (rules sampleRepository ["/work/repo/data"])
      ["src".toList, "data".toList] true = true := by decide +kernel
  obtain ⟨storage, hstorage, _, hwithin⟩ := (h sampleRepository ["/work/repo/data"]
    ["src".toList, "data".toList] true (by decide +kernel) (List.cons_ne_nil _ _)).mp hignored
  obtain rfl := List.mem_singleton.mp hstorage
  exact absurd hwithin (by decide +kernel)

end RenkuNotebooks.GitServices.ExcludedMounts
