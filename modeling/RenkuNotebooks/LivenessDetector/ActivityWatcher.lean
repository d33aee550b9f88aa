import Mathlib
import RenkuNotebooks.Foundation.Runs

/-!
# The activity watcher

The liveness detector keeps an inotify watch on every directory below the workdir. A new directory
gets a watch of its own, but when a directory is removed the watch that is given up is the one of
the directory it was in.
-/

namespace RenkuNotebooks.LivenessDetector

open Runs

/-- The names on the way down from the workdir, the last one first. -/
abbrev Path := List String

structure DirectoryTree where
  dirs : List Path
  files : List Path
  workdir_mem : [] ∈ dirs
  parent_mem : ∀ name dir, name :: dir ∈ dirs ∨ name :: dir ∈ files → dir ∈ dirs
  apart : ∀ path ∈ dirs, path ∉ files

inductive Verb
  | mkdir
  | rmdir
  | create
  | modify
  | delete
  deriving DecidableEq

structure Operation where
  verb : Verb
  dir : Path
  name : String
  deriving DecidableEq

def Operation.path (op : Operation) : Path := op.name :: op.dir

namespace DirectoryTree

variable (tree : DirectoryTree) (op : Operation)

def Free : Prop := op.dir ∈ tree.dirs ∧ op.path ∉ tree.dirs ∧ op.path ∉ tree.files

instance : Decidable (tree.Free op) := inferInstanceAs (Decidable (_ ∧ _))

/-- An empty directory. -/
def Removable : Prop :=
  op.path ∈ tree.dirs ∧ ∀ path ∈ tree.dirs ++ tree.files, path.tail? ≠ some op.path

instance : Decidable (tree.Removable op) := inferInstanceAs (Decidable (_ ∧ _))

def mkdir (h : tree.Free op) : DirectoryTree where
  dirs := op.path :: tree.dirs
  files := tree.files
  workdir_mem := List.mem_cons_of_mem _ tree.workdir_mem
  parent_mem := by
    intro name dir hmem
    apply List.mem_cons_of_mem
    rcases hmem with hdir | hfile
    · rcases List.mem_cons.mp hdir with heq | hdir
      · rw [(List.cons.inj heq).2]
        exact h.1
      · exact tree.parent_mem name dir (.inl hdir)
    · exact tree.parent_mem name dir (.inr hfile)
  apart := by
    intro path hdir
    rcases List.mem_cons.mp hdir with rfl | hdir
    · exact h.2.2
    · exact tree.apart path hdir

def rmdir (h : tree.Removable op) : DirectoryTree where
  dirs := tree.dirs.filter (· ≠ op.path)
  files := tree.files
  workdir_mem := by
    apply List.mem_filter.mpr
    exact ⟨tree.workdir_mem, by simp [Operation.path]⟩
  parent_mem := by
    intro name dir hmem
    have hold : name :: dir ∈ tree.dirs ∨ name :: dir ∈ tree.files :=
      hmem.imp_left (fun hdir => (List.mem_filter.mp hdir).1)
    have hne : dir ≠ op.path := by
      intro heq
      apply h.2 (name :: dir) (List.mem_append.mpr hold)
      rw [List.tail?_cons, heq]
    apply List.mem_filter.mpr
    exact ⟨tree.parent_mem name dir hold, by simpa using hne⟩
  apart := fun path hdir => tree.apart path (List.mem_filter.mp hdir).1

def create (h : tree.Free op) : DirectoryTree where
  dirs := tree.dirs
  files := op.path :: tree.files
  workdir_mem := tree.workdir_mem
  parent_mem := by
    intro name dir hmem
    rcases hmem with hdir | hfile
    · exact tree.parent_mem name dir (.inl hdir)
    · rcases List.mem_cons.mp hfile with heq | hfile
      · rw [(List.cons.inj heq).2]
        exact h.1
      · exact tree.parent_mem name dir (.inr hfile)
  apart := by
    intro path hdir hfile
    rcases List.mem_cons.mp hfile with rfl | hfile
    · exact h.2.1 hdir
    · exact tree.apart path hdir hfile

def delete : DirectoryTree where
  dirs := tree.dirs
  files := tree.files.filter (· ≠ op.path)
  workdir_mem := tree.workdir_mem
  parent_mem := by
    intro name dir hmem
    apply tree.parent_mem name dir
    exact hmem.imp_right (fun hfile => (List.mem_filter.mp hfile).1)
  apart := fun path hdir hfile => tree.apart path hdir (List.mem_filter.mp hfile).1

theorem exists_file_iff : (∃ file ∈ tree.files, op.path = file) ↔ op.path ∈ tree.files :=
  exists_eq_right'

instance : Decidable (op.path ∈ tree.files) := decidable_of_iff _ (exists_file_iff tree op)

/-- The tree after an operation, none where the kernel refuses it. -/
def apply : Option DirectoryTree :=
  match op.verb with
  | .mkdir => if h : tree.Free op then some (tree.mkdir op h) else none
  | .rmdir => if h : tree.Removable op then some (tree.rmdir op h) else none
  | .create => if h : tree.Free op then some (tree.create op h) else none
  | .modify => if op.path ∈ tree.files then some tree else none
  | .delete => if op.path ∈ tree.files then some (tree.delete op) else none

variable {tree op}

theorem apply_parent {tree' : DirectoryTree} (h : tree.apply op = some tree') :
    op.dir ∈ tree.dirs := by
  have hmem : op.path ∈ tree.dirs ∨ op.path ∈ tree.files → op.dir ∈ tree.dirs :=
    tree.parent_mem op.name op.dir
  simp only [apply] at h
  split at h
  · split at h
    case isTrue hfree => exact hfree.1
    case isFalse => cases h
  · split at h
    case isTrue hremovable => exact hmem (.inl hremovable.1)
    case isFalse => cases h
  · split at h
    case isTrue hfree => exact hfree.1
    case isFalse => cases h
  · split at h
    case isTrue hfile => exact hmem (.inr hfile)
    case isFalse => cases h
  · split at h
    case isTrue hfile => exact hmem (.inr hfile)
    case isFalse => cases h

/-- What an operation does to the directories. -/
theorem mem_apply {tree' : DirectoryTree} (h : tree.apply op = some tree') (dir : Path) :
    dir ∈ tree'.dirs ↔
      (op.verb = .mkdir ∧ dir = op.path) ∨ (dir ∈ tree.dirs ∧ (op.verb = .rmdir → dir ≠ op.path)) := by
  simp only [apply] at h
  split at h
  case h_1 hverb =>
    split at h
    · cases h
      simp [mkdir, hverb]
    · cases h
  case h_2 hverb =>
    split at h
    · cases h
      simp [rmdir, hverb]
    · cases h
  case h_3 hverb =>
    split at h
    · cases h
      simp [create, hverb]
    · cases h
  case h_4 hverb =>
    split at h
    · cases h
      simp [hverb]
    · cases h
  case h_5 hverb =>
    split at h
    · cases h
      simp [delete, hverb]
    · cases h

end DirectoryTree

abbrev Mask := Nat

namespace Mask

def access : Mask := 0x1
def modify : Mask := 0x2
def create : Mask := 0x100
def delete : Mask := 0x200
def isdir : Mask := 0x40000000

end Mask

def Verb.mask : Verb → Mask
  | .mkdir => Mask.create ||| Mask.isdir
  | .rmdir => Mask.delete ||| Mask.isdir
  | .create => Mask.create
  | .modify => Mask.modify
  | .delete => Mask.delete

inductive Root
  | devPts
  | workdir
  deriving DecidableEq

structure Place where
  root : Root
  path : Path
  deriving DecidableEq

def devPts : Place := ⟨.devPts, []⟩

def inWorkdir (path : Path) : Place := ⟨.workdir, path⟩

structure Event where
  watch : Place
  name : String
  mask : Mask

/-- The mask of the watch on each place that has one. -/
abbrev Inotify := Place → Option Mask

namespace Inotify

variable (inotify : Inotify)

def addWatch (place : Place) (mask : Mask) : Inotify := Function.update inotify place (some mask)

def rmWatch (place : Place) : Inotify := Function.update inotify place none

/-- The events of something that happens to an entry of a directory. -/
def events (place : Place) (name : String) (mask : Mask) : List Event :=
  match inotify place with
  | some watched => if watched &&& mask ≠ 0 then [⟨place, name, mask⟩] else []
  | none => []

end Inotify

/-- With the inotify of its `run_inotify`. -/
structure ActivityWatcher where
  ttyTime : Rat
  fileTime : Rat
  inotify : Inotify

namespace ActivityWatcher

def directoryCreated : Mask := Mask.create ||| Mask.isdir
def directoryDeleted : Mask := Mask.delete ||| Mask.isdir

def workdirMask : Mask := Mask.modify ||| Mask.create ||| Mask.delete

def int (time : Rat) : Int := time.num.tdiv time.den

def lastFileActivity (watcher : ActivityWatcher) : Int := int watcher.fileTime

def lastTtyActivity (watcher : ActivityWatcher) : Int := int watcher.ttyTime

/-- The watches with which `run_inotify` starts. -/
def watchAll (tree : DirectoryTree) : Inotify :=
  let inotify := Inotify.addWatch (fun _ => none) devPts Mask.access
  let inotify := inotify.addWatch (inWorkdir []) workdirMask
  tree.dirs.foldl (fun inotify path => inotify.addWatch (inWorkdir path) workdirMask) inotify

def begin (tree : DirectoryTree) (time : Rat) : ActivityWatcher := ⟨time, time, watchAll tree⟩

def handle (time : Rat) (event : Event) (watcher : ActivityWatcher) : ActivityWatcher :=
  let watcher :=
    if event.mask &&& Mask.access == Mask.access then { watcher with ttyTime := time }
    else { watcher with fileTime := time }
  if event.mask &&& directoryCreated == directoryCreated then
    let path : Place := { event.watch with path := event.name :: event.watch.path }
    { watcher with inotify := watcher.inotify.addWatch path workdirMask }
  else if event.mask &&& directoryDeleted == directoryDeleted then
    { watcher with inotify := watcher.inotify.rmWatch event.watch }
  else watcher

def handleAll (time : Rat) (events : List Event) (watcher : ActivityWatcher) : ActivityWatcher :=
  events.foldl (fun watcher event => watcher.handle time event) watcher

end ActivityWatcher

/-- An operation below the workdir, or a read of a pseudo-terminal. -/
inductive Happening
  | operation (op : Operation)
  | terminal (name : String)
  deriving DecidableEq

structure Container where
  tree : DirectoryTree
  watcher : ActivityWatcher

namespace DirectoryTree

def Takes (tree : DirectoryTree) (op : Operation) : Prop := (tree.apply op).isSome = true

def after (tree : DirectoryTree) : Happening → DirectoryTree
  | .operation op => (tree.apply op).getD tree
  | .terminal _ => tree

end DirectoryTree

namespace Container

def begin (tree : DirectoryTree) (time : Rat) : Container := ⟨tree, .begin tree time⟩

/-- The kernel carries out the operation and gives up the watch of a removed directory; the events
are handled before anything else happens. -/
def next (r : Happening × Rat) (c : Container) : Container :=
  match r.1 with
  | .operation op =>
    match c.tree.apply op with
    | none => c
    | some tree =>
      let events := c.watcher.inotify.events (inWorkdir op.dir) op.name op.verb.mask
      let inotify :=
        if op.verb = .rmdir then c.watcher.inotify.rmWatch (inWorkdir op.path)
        else c.watcher.inotify
      ⟨tree, { c.watcher with inotify := inotify }.handleAll r.2 events⟩
  | .terminal name =>
    let events := c.watcher.inotify.events devPts name Mask.access
    ⟨c.tree, c.watcher.handleAll r.2 events⟩

theorem next_tree (r : Happening × Rat) (c : Container) : (next r c).tree = c.tree.after r.1 := by
  obtain ⟨op | name, time⟩ := r
  · simp only [next, DirectoryTree.after]
    cases c.tree.apply op with
    | none => rfl
    | some tree => rfl
  · rfl

end Container

end RenkuNotebooks.LivenessDetector
