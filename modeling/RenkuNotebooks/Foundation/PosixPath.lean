import Mathlib.Data.List.Infix

/-!
# Paths

A `PosixPath` is a path as `pathlib` keeps it, with the `..` in it. The directory it leads to, where
no link is followed, is a list of names with the innermost one first, so that a directory lies in the
directories that are its suffixes.
-/

namespace RenkuNotebooks

abbrev Directory := List String

namespace Directory

/-- At or below. -/
abbrev Within (outer dir : Directory) : Prop := outer <:+ dir

abbrev Below (outer dir : Directory) : Prop := outer <:+ dir ∧ dir ≠ outer

/-- Where the programs run. -/
def working : Directory := ["app"]

end Directory

/-- `pathlib.Path`: the parts hold no empty and no `.` segment. -/
structure PosixPath where
  isAbsolute : Bool
  parts : List String
  /-- Exactly two leading slashes are a root of their own. -/
  twoSlashes : Bool := false
  deriving DecidableEq, Repr

namespace PosixPath

def segments : List Char → List (List Char)
  | [] => [[]]
  | c :: cs =>
    if c = '/' then [] :: segments cs
    else match segments cs with
      | [] => [[c]]
      | part :: parts => (c :: part) :: parts

def ofString (s : String) : PosixPath where
  isAbsolute := s.toList.head? = some '/'
  parts :=
    ((segments s.toList).filter fun part => part ≠ [] ∧ part ≠ ['.']).map String.ofList
  twoSlashes := s.toList.take 2 = ['/', '/'] ∧ (s.toList.drop 2).head? ≠ some '/'

/-- `p / q` -/
def join (p q : PosixPath) : PosixPath :=
  if q.isAbsolute then q else { p with parts := p.parts ++ q.parts }

/-- `path / name / …` for names that are no paths of their own. -/
def child (path : PosixPath) (names : List String) : PosixPath :=
  { path with parts := path.parts ++ names }

/-- `p.absolute()` -/
def absolute (p : PosixPath) : PosixPath :=
  join { isAbsolute := true, parts := Directory.working.reverse } p

def asPosix (p : PosixPath) : String :=
  if p.isAbsolute then (if p.twoSlashes then "//" else "/") ++ "/".intercalate p.parts
  else if p.parts.isEmpty then "."
  else "/".intercalate p.parts

/-- `path in other.parents`. -/
def isParentOf (path other : PosixPath) : Bool :=
  path.isAbsolute == other.isAbsolute && path.twoSlashes == other.twoSlashes &&
    path.parts.isPrefixOf other.parts && path.parts != other.parts

/-- The parts of `other.relative_to(path)` for a path that it starts with. -/
def relativeTo (other path : PosixPath) : List String := other.parts.drop path.parts.length

/-! ### The directory -/

def resolveStep (dir : Directory) (part : String) : Directory :=
  if part = ".." then dir.tail else part :: dir

/-- Where a path begins; the two slashes lead to `/`. -/
def start (path : PosixPath) : Directory := if path.isAbsolute then [] else Directory.working

/-- The directory that the path leads to. -/
def resolve (path : PosixPath) : Directory := path.parts.foldl resolveStep path.start

theorem resolve_proper {parts : List String} (hproper : ".." ∉ parts) (dir : Directory) :
    parts.foldl resolveStep dir = parts.reverse ++ dir := by
  induction parts generalizing dir with
  | nil => rfl
  | cons part parts ih =>
    have hpart : part ≠ ".." := fun heq => hproper (heq ▸ List.mem_cons_self)
    have hrest : ".." ∉ parts := fun hmem => hproper (List.mem_cons_of_mem _ hmem)
    rw [List.foldl_cons, ih hrest, resolveStep, if_neg hpart, List.reverse_cons,
      List.append_assoc, List.singleton_append]

theorem resolve_child (path : PosixPath) {names : List String} (hproper : ".." ∉ names) :
    (path.child names).resolve = names.reverse ++ path.resolve := by
  rw [resolve, child, List.foldl_append, resolve_proper hproper]
  rfl

theorem mem_of_resolve {parts : List String} {dir : Directory} {part : String}
    (h : part ∈ parts.foldl resolveStep dir) : part ∈ dir ∨ (part ∈ parts ∧ part ≠ "..") := by
  induction parts generalizing dir with
  | nil => exact .inl h
  | cons first parts ih =>
    obtain hdir | ⟨hmem, hproper⟩ := ih h
    · rw [resolveStep] at hdir
      by_cases hfirst : first = ".."
      · rw [if_pos hfirst] at hdir
        exact .inl (List.mem_of_mem_tail hdir)
      · rw [if_neg hfirst] at hdir
        obtain rfl | hdir := List.mem_cons.mp hdir
        · exact .inr ⟨List.mem_cons_self, hfirst⟩
        · exact .inl hdir
    · exact .inr ⟨List.mem_cons_of_mem _ hmem, hproper⟩

theorem parts_of_segments (cs : List Char) : ∀ part ∈ segments cs, '/' ∉ part := by
  induction cs with
  | nil => simp [segments]
  | cons c cs ih =>
    rw [segments]
    by_cases hc : c = '/'
    · rw [if_pos hc]
      exact List.forall_mem_cons.mpr ⟨List.not_mem_nil, ih⟩
    · rw [if_neg hc]
      have hcons : ∀ part : List Char, '/' ∉ part → '/' ∉ c :: part := fun part hpart hmem =>
        (List.mem_cons.mp hmem).elim (fun heq => hc heq.symm) hpart
      cases hrest : segments cs with
      | nil => exact List.forall_mem_singleton.mpr (hcons [] List.not_mem_nil)
      | cons part parts =>
        rw [hrest] at ih
        obtain ⟨hpart, hparts⟩ := List.forall_mem_cons.mp ih
        exact List.forall_mem_cons.mpr ⟨hcons part hpart, hparts⟩

theorem parts_ne_empty (s : String) : "" ∉ (ofString s).parts := by
  intro hmem
  obtain ⟨cs, hcs, hempty⟩ := List.mem_map.mp hmem
  obtain ⟨_, hkept⟩ := List.mem_filter.mp hcs
  exact (of_decide_eq_true hkept).1 (String.ofList_eq_empty_iff.mp hempty)

end PosixPath

end RenkuNotebooks
