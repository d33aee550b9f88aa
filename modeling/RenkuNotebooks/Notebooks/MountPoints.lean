import Mathlib.Data.List.Dedup
import Mathlib.Data.List.Nodup
import RenkuNotebooks.Notebooks.Preparation

/-!
# The mount points of cloud storages

The checks compare the texts of the mount folders. What they should compare are the directories
that the folders lead to.
-/

namespace RenkuNotebooks.Notebooks

namespace MountPoints

open RCloneStorage

variable {α : Type}

/-- Two elements at different places are related. -/
def TwoOf (as : List α) (related : α → α → Prop) : Prop :=
  ∃ (i j : ℕ) (a b : α), i ≠ j ∧ as[i]? = some a ∧ as[j]? = some b ∧ related a b

theorem TwoOf.mono {as : List α} {related related' : α → α → Prop} (h : TwoOf as related)
    (himp : ∀ a ∈ as, ∀ b ∈ as, related a b → related' a b) : TwoOf as related' := by
  obtain ⟨i, j, a, b, hne, ha, hb, hab⟩ := h
  exact ⟨i, j, a, b, hne, ha, hb,
    himp a (List.mem_of_getElem? ha) b (List.mem_of_getElem? hb) hab⟩

theorem twoOf_map {β : Type} (f : α → β) (as : List α) (related : β → β → Prop) :
    TwoOf (as.map f) related ↔ TwoOf as fun a b => related (f a) (f b) := by
  constructor
  · rintro ⟨i, j, x, y, hne, hx, hy, hxy⟩
    rw [List.getElem?_map, Option.map_eq_some_iff] at hx hy
    obtain ⟨a, ha, rfl⟩ := hx
    obtain ⟨b, hb, rfl⟩ := hy
    exact ⟨i, j, a, b, hne, ha, hb, hxy⟩
  · rintro ⟨i, j, a, b, hne, ha, hb, hab⟩
    refine ⟨i, j, f a, f b, hne, ?_, ?_, hab⟩
    · rw [List.getElem?_map, ha]
      rfl
    · rw [List.getElem?_map, hb]
      rfl

theorem nodup_of_not_twoOf {as : List α} {related : α → α → Prop} (hrefl : ∀ a, related a a)
    (h : ¬ TwoOf as related) : as.Nodup := by
  rw [List.nodup_iff_getElem?_ne_getElem?]
  intro i j hij hj heq
  apply h
  refine ⟨i, j, as[j], as[j], hij.ne, ?_, ?_, hrefl _⟩
  · rw [heq, List.getElem?_eq_getElem hj]
  · exact List.getElem?_eq_getElem hj

/-- Nothing is lost exactly when everything is kept and nothing occurs twice. -/
theorem length_dedup_filter_eq_iff [DecidableEq α] (p : α → Bool) (as : List α) :
    (as.filter p).dedup.length = as.length ↔ (∀ a ∈ as, p a = true) ∧ as.Nodup := by
  constructor
  · intro hlength
    have hdedup : (as.filter p).dedup.length ≤ (as.filter p).length :=
      (List.dedup_sublist _).length_le
    have hfilter : (as.filter p).length ≤ as.length := List.length_filter_le p as
    have hall : as.filter p = as := by
      apply List.filter_sublist.eq_of_length
      omega
    have hsame : (as.filter p).dedup = as.filter p := by
      apply (List.dedup_sublist _).eq_of_length
      omega
    refine ⟨List.filter_eq_self.mp hall, ?_⟩
    rw [← hall, ← hsame]
    exact List.nodup_dedup _
  · rintro ⟨hall, hnodup⟩
    rw [List.filter_eq_self.mpr hall, List.dedup_eq_self.mpr hnodup]

theorem anyStartsWith_eq_true_iff (folders : List String) :
    anyStartsWith folders = true ↔ TwoOf folders fun f g => f.toList <+: g.toList := by
  unfold anyStartsWith
  simp only [List.any_eq_true, decide_eq_true_eq, Prod.exists, List.mem_zipIdx_iff_getElem?,
    List.isPrefixOf_iff_prefix]
  constructor
  · rintro ⟨g, j, hg, f, i, hf, hne, hstarts⟩
    exact ⟨i, j, f, g, hne.symm, hf, hg, hstarts⟩
  · rintro ⟨i, j, f, g, hne, hf, hg, hstarts⟩
    exact ⟨g, j, hg, f, i, hf, hne.symm, hstarts⟩

theorem checkMountPoints_eq_ok_iff (folders : List String) :
    checkMountPoints folders = .ok () ↔
      (∀ folder ∈ folders, folder ≠ "" ∧ folder ≠ "/") ∧
        ¬ TwoOf folders fun f g => f.toList <+: g.toList := by
  have hlength := length_dedup_filter_eq_iff (fun folder => folder ≠ "" ∧ folder ≠ "/") folders
  simp only [decide_eq_true_eq] at hlength
  unfold checkMountPoints
  dsimp only
  rw [← anyStartsWith_eq_true_iff]
  split
  · rename_i hne
    constructor
    · intro h
      cases h
    · rintro ⟨hall, hnone⟩
      exfalso
      apply hne
      rw [hlength]
      rw [anyStartsWith_eq_true_iff] at hnone
      exact ⟨hall, nodup_of_not_twoOf (fun f => List.prefix_refl f.toList) hnone⟩
  · rename_i heq
    rw [not_not, hlength] at heq
    split
    · rename_i hstarts
      constructor
      · intro h
        cases h
      · exact fun h => absurd hstarts h.2
    · rename_i hnone
      exact ⟨fun _ => ⟨heq.1, hnone⟩, fun _ => rfl⟩

/-! ### Folders and directories -/

section Targets

-- the work directory and the target paths of the storages, as texts
variable (workDir : String) (targets : List String)

/-- `work_dir.absolute() / target_path` -/
def mountPath (target : String) : PosixPath :=
  (PosixPath.ofString workDir).absolute.join (.ofString target)

def folder (target : String) : String :=
  mountFolderIn (PosixPath.ofString workDir).absolute target

/-- Where a target leads to, innermost name first. -/
def directory (target : String) : Directory :=
  (mountPath workDir target).resolve

def workDirectory : Directory :=
  (PosixPath.ofString workDir).absolute.resolve

theorem absolute_parts (s : String) :
    "" ∉ (PosixPath.ofString s).absolute.parts ∧ (PosixPath.ofString s).absolute.isAbsolute = true := by
  have hparts := PosixPath.parts_ne_empty s
  unfold PosixPath.absolute PosixPath.join
  cases habsolute : (PosixPath.ofString s).isAbsolute with
  | true =>
    rw [if_pos rfl]
    exact ⟨hparts, habsolute⟩
  | false =>
    rw [if_neg Bool.false_ne_true]
    refine ⟨?_, rfl⟩
    intro h
    rcases List.mem_append.mp h with h | h
    · exact absurd h (by decide)
    · exact hparts h

theorem mountPath_parts (target : String) :
    "" ∉ (mountPath workDir target).parts ∧ (mountPath workDir target).isAbsolute = true := by
  obtain ⟨hwork, habsolute⟩ := absolute_parts workDir
  have htarget := PosixPath.parts_ne_empty target
  unfold mountPath PosixPath.join
  cases hroot : (PosixPath.ofString target).isAbsolute with
  | true =>
    rw [if_pos rfl]
    exact ⟨htarget, hroot⟩
  | false =>
    rw [if_neg Bool.false_ne_true]
    refine ⟨?_, habsolute⟩
    intro h
    rcases List.mem_append.mp h with h | h
    · exact hwork h
    · exact htarget h

theorem folder_eq (target : String) :
    folder workDir target = (if (mountPath workDir target).twoSlashes then "//" else "/") ++
      "/".intercalate (mountPath workDir target).parts := by
  have habsolute := (mountPath_parts workDir target).2
  change (mountPath workDir target).asPosix = _
  unfold PosixPath.asPosix
  rw [if_pos habsolute]

theorem folder_ne_empty (target : String) : folder workDir target ≠ "" := by
  rw [folder_eq]
  intro h
  have hlength := congrArg String.length h
  rw [String.length_append] at hlength
  split at hlength
  · exact absurd hlength (by simp)
  · exact absurd hlength (by simp)

theorem parts_eq_nil_of_intercalate {parts : List String} (hparts : "" ∉ parts)
    (h : "/".intercalate parts = "") : parts = [] := by
  match parts with
  | [] => rfl
  | [part] =>
    rw [String.intercalate_singleton] at h
    exact absurd (List.mem_singleton.mpr h.symm) hparts
  | part :: next :: rest =>
    rw [String.intercalate_cons_cons] at h
    have hlength := congrArg String.length h
    rw [String.length_append, String.length_append] at hlength
    exact absurd hlength (by simp)

/-- Only the root itself is written as a slash. -/
theorem directory_of_folder_root {target : String} (h : folder workDir target = "/") :
    directory workDir target = [] := by
  rw [folder_eq] at h
  have hlength := congrArg String.length h
  rw [String.length_append] at hlength
  split at hlength
  · have htwo : "//".length = 2 := by decide
    have hone : "/".length = 1 := by decide
    omega
  · have hrest : ("/".intercalate (mountPath workDir target).parts).length = 0 := by omega
    have hnil := parts_eq_nil_of_intercalate (mountPath_parts workDir target).1
      (String.length_eq_zero_iff.mp hrest)
    unfold directory PosixPath.resolve PosixPath.start
    rw [hnil, if_pos (mountPath_parts workDir target).2]
    rfl

/-! ### The checks and what they stand for -/

def Accepted : Prop := checkMountPoints (targets.map (folder workDir)) = .ok ()

/-- No storage is mounted at the root or at the work directory, and none at or below another
one. -/
def WellPlaced : Prop :=
  (∀ target ∈ targets, directory workDir target ≠ [] ∧
    directory workDir target ≠ workDirectory workDir) ∧
  ¬ TwoOf targets fun t u => (directory workDir t).Within (directory workDir u)

/-- Two folders whose texts start alike, although neither directory lies in the other. -/
def ClashingNames : Prop :=
  TwoOf targets fun t u => (folder workDir t).toList <+: (folder workDir u).toList ∧
    ¬ (directory workDir t).Within (directory workDir u)

/-- A folder at the root or the work directory that is not written as a slash, or a directory in
another one whose text does not start with it. -/
def ConcealedConflict : Prop :=
  (∃ target ∈ targets, folder workDir target ≠ "/" ∧
    (directory workDir target = [] ∨ directory workDir target = workDirectory workDir)) ∨
  TwoOf targets fun t u => (directory workDir t).Within (directory workDir u) ∧
    ¬ (folder workDir t).toList <+: (folder workDir u).toList

/-- A folder written as a slash, or a text that starts with another one. -/
def TextConflict : Prop :=
  (∃ target ∈ targets, folder workDir target = "/") ∨
  TwoOf targets fun t u => (folder workDir t).toList <+: (folder workDir u).toList

theorem accepted_iff : Accepted workDir targets ↔ ¬ TextConflict workDir targets := by
  unfold Accepted TextConflict
  rw [checkMountPoints_eq_ok_iff, twoOf_map, not_or, not_exists]
  apply and_congr_left
  intro _
  constructor
  · intro hall target htarget
    exact (hall _ (List.mem_map_of_mem htarget.1)).2 htarget.2
  · intro hall text htext
    obtain ⟨target, htarget, rfl⟩ := List.mem_map.mp htext
    exact ⟨folder_ne_empty workDir target, fun h => hall target ⟨htarget, h⟩⟩

/-- The checks are right exactly when clashing names come with a misplaced storage, and a concealed
conflict with one in the texts. -/
theorem accepted_iff_wellPlaced_iff :
    (Accepted workDir targets ↔ WellPlaced workDir targets) ↔
      (ClashingNames workDir targets → ¬ WellPlaced workDir targets) ∧
        (ConcealedConflict workDir targets → TextConflict workDir targets) := by
  constructor
  · intro hiff
    constructor
    · rintro hnames hplaced
      obtain htext := (accepted_iff workDir targets).mp (hiff.mpr hplaced)
      exact htext (.inr (hnames.mono fun _ _ _ _ h => h.1))
    · intro hconcealed
      by_contra htext
      obtain ⟨hsingle, hpairs⟩ := hiff.mp ((accepted_iff workDir targets).mpr htext)
      rcases hconcealed with ⟨target, htarget, _, hroot | hwork⟩ | hpair
      · exact (hsingle target htarget).1 hroot
      · exact (hsingle target htarget).2 hwork
      · exact hpairs (hpair.mono fun _ _ _ _ h => h.1)
  · rintro ⟨hnames, hconcealed⟩
    constructor
    · intro haccepted
      have htext := (accepted_iff workDir targets).mp haccepted
      have hnone : ¬ ConcealedConflict workDir targets := fun h => htext (hconcealed h)
      constructor
      · intro target htarget
        have hslash : folder workDir target ≠ "/" := fun h => htext (.inl ⟨target, htarget, h⟩)
        constructor
        · exact fun h => hnone (.inl ⟨target, htarget, hslash, .inl h⟩)
        · exact fun h => hnone (.inl ⟨target, htarget, hslash, .inr h⟩)
      · rintro ⟨i, j, t, u, hne, ht, hu, hwithin⟩
        apply hnone
        refine .inr ⟨i, j, t, u, hne, ht, hu, hwithin, ?_⟩
        exact fun h => htext (.inr ⟨i, j, t, u, hne, ht, hu, h⟩)
    · intro hplaced
      rw [accepted_iff]
      rintro (⟨target, htarget, hslash⟩ | ⟨i, j, t, u, hne, ht, hu, hstarts⟩)
      · exact (hplaced.1 target htarget).1 (directory_of_folder_root workDir hslash)
      · apply hnames _ hplaced
        refine ⟨i, j, t, u, hne, ht, hu, hstarts, ?_⟩
        exact fun h => hplaced.2 ⟨i, j, t, u, hne, ht, hu, h⟩

/-- Sibling folders are rejected for their names, and a storage over the project is accepted. -/
theorem siblings_rejected_project_covered :
    ¬ Accepted "/work/project" ["data", "data-2"] ∧ WellPlaced "/work/project" ["data", "data-2"] ∧
    Accepted "/work/project" [""] ∧ ¬ WellPlaced "/work/project" [""] := by
  have hdata : directory "/work/project" "data" = ["data", "project", "work"] := by decide +kernel
  have hdata2 : directory "/work/project" "data-2" = ["data-2", "project", "work"] := by
    decide +kernel
  have hproject : workDirectory "/work/project" = ["project", "work"] := by decide +kernel
  refine ⟨?_, ⟨?_, ?_⟩, ?_, ?_⟩
  · rw [accepted_iff, not_not]
    exact .inr ⟨0, 1, "data", "data-2", by decide, rfl, rfl, by decide +kernel⟩
  · intro target htarget
    rcases List.mem_pair.mp htarget with rfl | rfl
    · rw [hdata, hproject]
      decide
    · rw [hdata2, hproject]
      decide
  · rintro ⟨i, j, t, u, hne, ht, hu, hwithin⟩
    match i, j with
    | 0, 0 => exact hne rfl
    | 0, 1 =>
      cases ht
      cases hu
      rw [hdata, hdata2] at hwithin
      exact absurd hwithin (by decide)
    | 1, 0 =>
      cases ht
      cases hu
      rw [hdata, hdata2] at hwithin
      exact absurd hwithin (by decide)
    | 1, 1 => exact hne rfl
    | i + 2, _ => cases ht
    | _, j + 2 => cases hu
  · rw [accepted_iff]
    rintro (⟨target, htarget, hslash⟩ | ⟨i, j, t, u, hne, ht, hu, _⟩)
    · cases List.mem_singleton.mp htarget
      exact absurd hslash (by decide +kernel)
    · match i, j with
      | 0, 0 => exact hne rfl
      | i + 1, _ => cases ht
      | _, j + 1 => cases hu
  · intro hplaced
    exact (hplaced.1 "" List.mem_cons_self).2 (by decide +kernel)

end Targets

/-! ### The launch -/

section Launch

variable (validator : StorageValidator) (user : User) (endpoint : String) (workDir : String)
  (userSecretKey : String)

/-- The path that a storage of the request is mounted at. -/
def HasTarget (data : RCloneStorageRequest) (target : String) : Prop :=
  ∃ stored name, storageConfig validator user endpoint data = .ok (stored, name) ∧
    stored.targetPath = target

theorem exists_targets {cloudstorage : List RCloneStorageRequest} {storages : List RCloneStorage}
    (h : List.Forall₂ (fun data storage => storageFromSchema validator user endpoint
      (PosixPath.ofString workDir).absolute userSecretKey data = .ok storage) cloudstorage storages) :
    ∃ targets : List String, List.Forall₂ (HasTarget validator user endpoint) cloudstorage targets ∧
      storages.map (·.mountFolder) = targets.map (folder workDir) := by
  induction h with
  | nil => exact ⟨[], .nil, rfl⟩
  | cons hdata _ ih =>
    obtain ⟨targets, htargets, hfolders⟩ := ih
    obtain ⟨⟨stored, name⟩, hstored, hdata⟩ := Results.bind_eq_ok_iff.mp hdata
    obtain ⟨_, _, hdata⟩ := Results.bind_eq_ok_iff.mp hdata
    cases hdata
    refine ⟨stored.targetPath :: targets, .cons ⟨stored, name, hstored, rfl⟩ htargets, ?_⟩
    rw [List.map_cons, List.map_cons, hfolders]
    rfl

/-- The storages of a launch are accepted exactly when their target paths are. -/
theorem mountStorages_eq_ok_iff {cloudstorage : List RCloneStorageRequest}
    {storages : List RCloneStorage} (hne : cloudstorage ≠ [])
    (hload : loadStorages validator user endpoint (PosixPath.ofString workDir).absolute userSecretKey
      cloudstorage = .ok storages) :
    ∃ targets, List.Forall₂ (HasTarget validator user endpoint) cloudstorage targets ∧
      (mountStorages validator user endpoint (PosixPath.ofString workDir).absolute userSecretKey
        cloudstorage = .ok storages ↔ Accepted workDir targets) := by
  have hmap : cloudstorage.mapM (storageFromSchema validator user endpoint
      (PosixPath.ofString workDir).absolute userSecretKey) = .ok storages := by
    unfold loadStorages at hload
    split at hload
    · cases hload
    · exact hload
  obtain ⟨targets, htargets, hfolders⟩ := exists_targets validator user endpoint workDir
    userSecretKey (Results.forall2_of_mapM_eq_ok hmap)
  refine ⟨targets, htargets, ?_⟩
  have hnonempty : cloudstorage.isEmpty = false := by
    cases cloudstorage with
    | nil => exact absurd rfl hne
    | cons data rest => rfl
  unfold mountStorages Accepted
  rw [hnonempty, hload, ← hfolders]
  constructor
  · intro h
    obtain ⟨loaded, hloaded, h⟩ := Results.bind_eq_ok_iff.mp h
    cases hloaded
    obtain ⟨_, hchecked, _⟩ := Results.bind_eq_ok_iff.mp h
    exact hchecked
  · intro hchecked
    exact Results.bind_eq_ok_iff.mpr ⟨storages, rfl, Results.bind_eq_ok_iff.mpr ⟨(), hchecked, rfl⟩⟩

end Launch

end MountPoints

end RenkuNotebooks.Notebooks
