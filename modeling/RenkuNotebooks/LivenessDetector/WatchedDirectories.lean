import RenkuNotebooks.LivenessDetector.ActivityWatcher

/-!
# Directories that stay watched

All directories are watched, and so all activity is noticed, up to the first removal of a
directory.
-/

namespace RenkuNotebooks.LivenessDetector

open Runs

section Statement

def Container.Watched (c : Container) : Prop :=
  ∀ dir ∈ c.tree.dirs, c.watcher.inotify (inWorkdir dir) = some ActivityWatcher.workdirMask

/-- After the step all directories are watched, and its operation is in the last file activity. -/
def Notices (r : Happening × Rat) (c : Container) : Prop :=
  (c.next r).Watched ∧ ∀ op, r.1 = .operation op → c.tree.Takes op →
    (c.next r).watcher.lastFileActivity = ActivityWatcher.int r.2

def Happening.RemovesDirectory (tree : DirectoryTree) (happening : Happening) : Prop :=
  ∃ op, happening = .operation op ∧ op.verb = .rmdir ∧ tree.Takes op

end Statement

section Steps

variable {c : Container} {op : Operation} {tree : DirectoryTree}

theorem addWatch_self (inotify : Inotify) (place : Place) (mask : Mask) :
    inotify.addWatch place mask place = some mask :=
  Function.update_self ..

theorem addWatch_of_watched {inotify : Inotify} {place : Place} {mask : Mask}
    (h : inotify place = some mask) (place' : Place) :
    inotify.addWatch place' mask place = some mask := by
  by_cases heq : place = place'
  · rw [heq, addWatch_self]
  · rw [Inotify.addWatch, Function.update_of_ne heq, h]

theorem watchAll_watched {dir : Path} {paths : List Path} {mask : Mask} {inotify : Inotify}
    (h : dir ∈ paths ∨ inotify (inWorkdir dir) = some mask) :
    paths.foldl (fun inotify path => inotify.addWatch (inWorkdir path) mask) inotify
      (inWorkdir dir) = some mask := by
  induction paths generalizing inotify with
  | nil => simpa using h
  | cons path paths ih =>
    rw [List.foldl_cons]
    apply ih
    rcases h with hmem | hwatched
    · rcases List.mem_cons.mp hmem with rfl | hmem
      · exact .inr (addWatch_self ..)
      · exact .inl hmem
    · exact .inr (addWatch_of_watched hwatched _)

theorem begin_watched (tree : DirectoryTree) (time : Rat) :
    (Container.begin tree time).Watched :=
  fun _ hdir => watchAll_watched (.inl hdir)

theorem mask_access (verb : Verb) : (verb.mask &&& Mask.access == Mask.access) = false := by
  cases verb <;> rfl

theorem mask_directoryCreated (verb : Verb) :
    (verb.mask &&& ActivityWatcher.directoryCreated == ActivityWatcher.directoryCreated) =
      decide (verb = .mkdir) := by
  cases verb <;> rfl

theorem mask_directoryDeleted (verb : Verb) :
    (verb.mask &&& ActivityWatcher.directoryDeleted == ActivityWatcher.directoryDeleted) =
      decide (verb = .rmdir) := by
  cases verb <;> rfl

/-- What the handling of an operation's event does to the watches. -/
def Inotify.afterEvent (inotify : Inotify) (op : Operation) : Inotify :=
  match op.verb with
  | .mkdir => inotify.addWatch (inWorkdir op.path) ActivityWatcher.workdirMask
  | .rmdir => inotify.rmWatch (inWorkdir op.dir)
  | _ => inotify

theorem handle_operation (watcher : ActivityWatcher) (op : Operation) (time : Rat) :
    watcher.handle time ⟨inWorkdir op.dir, op.name, op.verb.mask⟩ =
      ⟨watcher.ttyTime, time, watcher.inotify.afterEvent op⟩ := by
  simp only [ActivityWatcher.handle, mask_access, mask_directoryCreated, mask_directoryDeleted]
  obtain ⟨verb, dir, name⟩ := op
  cases verb <;> rfl

theorem events_of_watched {inotify : Inotify} {place : Place}
    (h : inotify place = some ActivityWatcher.workdirMask) (name : String) (verb : Verb) :
    inotify.events place name verb.mask = [⟨place, name, verb.mask⟩] := by
  have hmask : ActivityWatcher.workdirMask &&& verb.mask ≠ 0 := by
    cases verb <;> decide
  rw [Inotify.events, h]
  exact if_pos hmask

theorem next_operation (hwatched : c.Watched) (happly : c.tree.apply op = some tree) (time : Rat) :
    c.next (.operation op, time) =
      ⟨tree, c.watcher.ttyTime, time,
        (if op.verb = .rmdir then c.watcher.inotify.rmWatch (inWorkdir op.path)
          else c.watcher.inotify).afterEvent op⟩ := by
  have hdir := hwatched op.dir (DirectoryTree.apply_parent happly)
  simp only [Container.next, happly, events_of_watched hdir]
  congr 1
  exact handle_operation _ op time

theorem next_refused (happly : c.tree.apply op = none) (time : Rat) :
    c.next (.operation op, time) = c := by
  simp only [Container.next, happly]

theorem handle_terminal (watcher : ActivityWatcher) (name : String) (time : Rat) :
    watcher.handle time ⟨devPts, name, Mask.access⟩ = { watcher with ttyTime := time } := by
  have haccess : (Mask.access &&& Mask.access == Mask.access) = true := rfl
  have hcreated : (Mask.access &&& ActivityWatcher.directoryCreated ==
      ActivityWatcher.directoryCreated) = false := rfl
  have hdeleted : (Mask.access &&& ActivityWatcher.directoryDeleted ==
      ActivityWatcher.directoryDeleted) = false := rfl
  simp only [ActivityWatcher.handle, haccess, hcreated, hdeleted]
  rfl

theorem next_terminal (c : Container) (name : String) (time : Rat) :
    (c.next (.terminal name, time)).watcher.inotify = c.watcher.inotify := by
  simp only [Container.next, Inotify.events]
  cases c.watcher.inotify devPts with
  | none => rfl
  | some mask =>
    dsimp only
    split
    · change (c.watcher.handle time ⟨devPts, name, Mask.access⟩).inotify = c.watcher.inotify
      rw [handle_terminal]
    · rfl

/-- All directories stay watched by an operation that removes none. -/
theorem next_watched (hwatched : c.Watched) (happly : c.tree.apply op = some tree)
    (hverb : op.verb ≠ .rmdir) (time : Rat) : (c.next (.operation op, time)).Watched := by
  rw [next_operation hwatched happly, if_neg hverb]
  intro dir hdir
  change c.watcher.inotify.afterEvent op (inWorkdir dir) = some ActivityWatcher.workdirMask
  rcases (DirectoryTree.mem_apply happly dir).mp hdir with ⟨hmkdir, rfl⟩ | ⟨hold, -⟩
  · rw [Inotify.afterEvent, hmkdir]
    exact addWatch_self ..
  · have hkept := hwatched dir hold
    obtain ⟨verb, parent, name⟩ := op
    cases verb with
    | mkdir => exact addWatch_of_watched hkept _
    | rmdir => exact absurd rfl hverb
    | create => exact hkept
    | modify => exact hkept
    | delete => exact hkept

/-- The directory from which one is removed is no longer watched. -/
theorem next_not_watched (hwatched : c.Watched) (happly : c.tree.apply op = some tree)
    (hverb : op.verb = .rmdir) (time : Rat) : ¬ (c.next (.operation op, time)).Watched := by
  rw [next_operation hwatched happly, if_pos hverb]
  intro h
  have hne : op.dir ≠ op.path := (List.cons_ne_self op.name op.dir).symm
  have hdir : op.dir ∈ tree.dirs :=
    (DirectoryTree.mem_apply happly op.dir).mpr
      (.inr ⟨DirectoryTree.apply_parent happly, fun _ => hne⟩)
  have hgone : ((c.watcher.inotify.rmWatch (inWorkdir op.path)).afterEvent op)
      (inWorkdir op.dir) = none := by
    rw [Inotify.afterEvent, hverb]
    exact Function.update_self ..
  have hstill := hgone.symm.trans (h op.dir hdir)
  cases hstill

theorem notices_iff (hwatched : c.Watched) (r : Happening × Rat) :
    Notices r c ↔ ¬ r.1.RemovesDirectory c.tree := by
  obtain ⟨op | name, time⟩ := r
  · cases happly : c.tree.apply op with
    | none =>
      have hidle : ¬ c.tree.Takes op := by simp [DirectoryTree.Takes, happly]
      constructor
      · rintro - ⟨op', heq, -, htakes⟩
        cases heq
        exact hidle htakes
      · intro _
        refine ⟨?_, ?_⟩
        · rwa [next_refused happly]
        · intro op' heq htakes
          cases heq
          exact absurd htakes hidle
    | some tree =>
      have htakes : c.tree.Takes op := by simp [DirectoryTree.Takes, happly]
      constructor
      · rintro ⟨h, -⟩ ⟨op', heq, hverb, -⟩
        cases heq
        exact next_not_watched hwatched happly hverb time h
      · intro hstays
        have hverb : op.verb ≠ .rmdir := fun hverb => hstays ⟨op, rfl, hverb, htakes⟩
        refine ⟨next_watched hwatched happly hverb time, ?_⟩
        intro _ _ _
        rw [next_operation hwatched happly]
        rfl
  · constructor
    · rintro - ⟨op, heq, -⟩
      cases heq
    · intro _
      refine ⟨?_, fun op heq => by cases heq⟩
      intro dir hdir
      rw [next_terminal]
      exact hwatched dir hdir

end Steps

/-- In every run all directories stay watched, and every operation is noticed, if and only if no
directory is removed. -/
theorem directories_stay_watched (tree : DirectoryTree) (time : Rat)
    (rs : List (Happening × Rat)) :
    (Container.begin tree time).Watched ∧ Along Container.next Notices rs (.begin tree time) ↔
      Along (fun r tree => tree.after r.1) (fun r tree => ¬ r.1.RemovesDirectory tree) rs tree := by
  have hruns : Along Container.next Notices rs (.begin tree time) ↔
      Along Container.next (fun r c => ¬ r.1.RemovesDirectory c.tree) rs (.begin tree time) :=
    along_iff (fun r c hwatched => notices_iff hwatched r)
      (fun r c hwatched hstays => ((notices_iff hwatched r).mpr hstays).1) (begin_watched tree time)
  have htrees : Along Container.next (fun r c => ¬ r.1.RemovesDirectory c.tree) rs
      (.begin tree time) ↔
      Along (fun r tree => tree.after r.1) (fun r tree => ¬ r.1.RemovesDirectory tree) rs tree :=
    along_part (P := fun (r : Happening × Rat) (tree : DirectoryTree) =>
      ¬ r.1.RemovesDirectory tree) Container.next_tree
  rw [hruns, htrees]
  exact and_iff_right (begin_watched tree time)

def projectTree : DirectoryTree where
  dirs := [[], ["src"], ["tmp"]]
  files := []
  workdir_mem := by decide
  parent_mem := by
    intro name dir h
    have hdir : name :: dir = ["src"] ∨ name :: dir = ["tmp"] := by simpa using h
    rcases hdir with heq | heq
    · cases heq
      decide
    · cases heq
      decide
  apart := by decide

/-- A minute after the start `tmp` is removed, a minute later a file is created next to it. -/
theorem rmdir_hides_create :
    let rs : List (Happening × Rat) :=
      [(.operation ⟨.rmdir, [], "tmp"⟩, 60), (.operation ⟨.create, [], "notes.txt"⟩, 120)]
    ¬ ((Container.begin projectTree 0).Watched ∧
        Along Container.next Notices rs (.begin projectTree 0)) ∧
      ["notes.txt"] ∈ (final Container.next rs (.begin projectTree 0)).tree.files ∧
      (final Container.next rs (.begin projectTree 0)).watcher.lastFileActivity = 60 := by
  intro rs
  refine ⟨?_, by decide +kernel, by decide +kernel⟩
  rintro ⟨-, ⟨hwatched, -⟩, -⟩
  have hgone : (Container.next (.operation ⟨.rmdir, [], "tmp"⟩, 60)
      (.begin projectTree 0)).watcher.inotify (inWorkdir []) = none := by
    decide +kernel
  have hstill := hgone.symm.trans (hwatched [] (by decide +kernel))
  cases hstill

end RenkuNotebooks.LivenessDetector
