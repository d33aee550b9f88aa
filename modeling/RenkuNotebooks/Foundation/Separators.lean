import Mathlib.Data.List.Infix

/-!
# Separators with a look-ahead

A text is split at pairs of characters that are followed by a character of some class, which
stays with what follows.
-/

namespace RenkuNotebooks

/-- A separator is a character that `opens` it and a `blank`; it counts if a character of the class
`next` follows. No two separators overlap. -/
structure Separator (α : Type) where
  opens : α → Bool
  blank : α
  next : α → Bool
  opens_blank : opens blank = false
  opens_next : ∀ a, next a = true → opens a = false

namespace Separator

variable {α : Type} (s : Separator α)

/-- The first piece and the ones after it. -/
def split [DecidableEq α] : List α → List α × List (List α)
  | a :: b :: rest =>
    if s.opens a ∧ b = s.blank ∧ rest.head?.any s.next then
      let (first, pieces) := split rest
      ([], first :: pieces)
    else
      let (first, pieces) := split (b :: rest)
      (a :: first, pieces)
  | cs => (cs, [])

/-- No separator is in the text. -/
def Free (cs : List α) : Prop :=
  ∀ a c, s.opens a = true → s.next c = true → ¬ [a, s.blank, c] <:+: cs

/-- The text is the first piece, and each piece after it follows a separator. -/
inductive Splits : List α → List α → List (List α) → Prop
  | last {cs} : s.Free cs → Splits cs cs []
  | more {a piece rest first pieces} : s.Free piece → s.opens a = true →
      rest.head?.any s.next = true → Splits rest first pieces →
        Splits (piece ++ a :: s.blank :: rest) piece (first :: pieces)

variable {s}

theorem Free.of_infix {cs part : List α} (h : s.Free cs) (hpart : part <:+: cs) : s.Free part :=
  fun a c ha hc hsub => h a c ha hc (hsub.trans hpart)

theorem free_of_length {cs : List α} (h : cs.length < 3) : s.Free cs := by
  intro a c _ _ hsub
  have hlength := hsub.length_le
  simp only [List.length_cons, List.length_nil] at hlength
  omega

theorem free_cons_cons {a b : α} {rest : List α} : s.Free (a :: b :: rest) ↔
    ¬ (s.opens a = true ∧ b = s.blank ∧ rest.head?.any s.next = true) ∧ s.Free (b :: rest) := by
  constructor
  · intro h
    refine ⟨?_, h.of_infix (List.suffix_cons a _).isInfix⟩
    rintro ⟨ha, rfl, hnext⟩
    cases rest with
    | nil => cases hnext
    | cons c rest => exact h a c ha hnext (List.prefix_append [a, s.blank, c] rest).isInfix
  · rintro ⟨hfirst, hrest⟩ d c hd hc hsub
    rcases List.infix_cons_iff.mp hsub with hstart | hlater
    · obtain ⟨tail, heq⟩ := hstart
      obtain ⟨rfl, rfl, rfl⟩ : d = a ∧ s.blank = b ∧ c :: tail = rest := by
        simpa using heq
      exact hfirst ⟨hd, rfl, hc⟩
    · exact hrest d c hd hc hlater

theorem free_of_not_opens {cs : List α} (h : ∀ a ∈ cs, s.opens a = false) : s.Free cs := by
  intro a c ha _ hsub
  have hmem : a ∈ cs := hsub.subset List.mem_cons_self
  exact absurd ha (Bool.eq_false_iff.mp (h a hmem))

variable {a b : α} {rest : List α}

theorem Free.cons (ha : s.opens a = false) (h : s.Free rest) : s.Free (a :: rest) := by
  cases rest with
  | nil => exact free_of_length (by simp)
  | cons b rest => exact free_cons_cons.mpr ⟨fun hsep => absurd hsep.1 (Bool.eq_false_iff.mp ha), h⟩

theorem Free.append {start : List α} (hstart : ∀ a ∈ start, s.opens a = false) (h : s.Free rest) :
    s.Free (start ++ rest) := by
  induction start with
  | nil => exact h
  | cons a start ih =>
    obtain ⟨ha, hstart⟩ := List.forall_mem_cons.mp hstart
    exact (ih hstart).cons ha

/-- A character before the first piece belongs to it, unless it opens a separator. -/
theorem Splits.cons {first : List α} {pieces : List (List α)}
    (hno : ¬ (s.opens a = true ∧ b = s.blank ∧ rest.head?.any s.next = true))
    (h : s.Splits (b :: rest) first pieces) : s.Splits (a :: b :: rest) (a :: first) pieces := by
  generalize hcs : b :: rest = cs at h
  cases h with
  | last hfree =>
    subst hcs
    exact .last (free_cons_cons.mpr ⟨hno, hfree⟩)
  | @more x _ tail next pieces hfree hx hnext hrest =>
    have hpiece : s.Free (a :: first) := by
      rcases first with - | ⟨y, - | ⟨z, piece⟩⟩
      · exact free_of_length (by simp)
      · exact free_of_length (by simp)
      · obtain ⟨rfl, rfl⟩ := List.cons.inj hcs
        exact free_cons_cons.mpr ⟨hno, hfree⟩
    rw [← List.cons_append]
    exact .more hpiece hx hnext hrest

theorem Splits.head?_eq {cs first : List α} {pieces : List (List α)} (h : s.Splits cs first pieces)
    (hne : first ≠ []) : cs.head? = first.head? := by
  cases h with
  | last _ => rfl
  | more _ _ _ _ =>
    rw [List.head?_append, Option.or_eq_left_of_isSome (List.isSome_head?.mpr hne)]

/-- A text ends as one of its pieces does. -/
theorem Splits.exists_getLast?_eq {cs first : List α} {pieces : List (List α)} {c : α}
    (h : s.Splits cs first pieces) (hlast : cs.getLast? = some c) :
    ∃ piece ∈ first :: pieces, piece.getLast? = some c := by
  induction h with
  | last _ => exact ⟨_, List.mem_cons_self, hlast⟩
  | @more a piece rest first pieces _ _ hnext _ ih =>
    have hrest : rest ≠ [] := by
      rintro rfl
      cases hnext
    have heq : (piece ++ a :: s.blank :: rest).getLast? = rest.getLast? := by
      rw [List.getLast?_append, List.getLast?_cons_cons, List.getLast?_cons_of_ne_nil hrest,
        List.getLast?_eq_some_getLast hrest, Option.some_or]
    obtain ⟨last, hmem, hlast⟩ := ih (heq.symm.trans hlast)
    exact ⟨last, List.mem_cons_of_mem _ hmem, hlast⟩

variable [DecidableEq α]

theorem split_separator (ha : s.opens a = true) (hnext : rest.head?.any s.next = true) :
    s.split (a :: s.blank :: rest) = ([], (s.split rest).1 :: (s.split rest).2) := by
  rw [split, if_pos ⟨ha, rfl, hnext⟩]

theorem split_cons_cons
    (h : ¬ (s.opens a = true ∧ b = s.blank ∧ rest.head?.any s.next = true)) :
    s.split (a :: b :: rest) = (a :: (s.split (b :: rest)).1, (s.split (b :: rest)).2) := by
  rw [split, if_neg h]

theorem split_of_free {cs : List α} (h : s.Free cs) : s.split cs = (cs, []) := by
  induction cs with
  | nil => rfl
  | cons a cs ih =>
    cases cs with
    | nil => rfl
    | cons b rest =>
      obtain ⟨hno, hfree⟩ := free_cons_cons.mp h
      rw [split_cons_cons hno, ih hfree]

theorem split_append {piece : List α} (hpiece : s.Free piece) (ha : s.opens a = true)
    (hnext : rest.head?.any s.next = true) : s.split (piece ++ a :: s.blank :: rest) =
      (piece, (s.split rest).1 :: (s.split rest).2) := by
  induction piece with
  | nil => exact split_separator ha hnext
  | cons x piece ih =>
    cases piece with
    | nil =>
      have hno : ¬ (s.opens x = true ∧ a = s.blank ∧
          (s.blank :: rest).head?.any s.next = true) := by
        rintro ⟨-, rfl, -⟩
        exact absurd ha (Bool.eq_false_iff.mp s.opens_blank)
      rw [List.cons_append, List.nil_append, split_cons_cons hno, split_separator ha hnext]
    | cons y piece =>
      obtain ⟨hfirst, hfree⟩ := free_cons_cons.mp hpiece
      have hno : ¬ (s.opens x = true ∧ y = s.blank ∧
          (piece ++ a :: s.blank :: rest).head?.any s.next = true) := by
        rintro ⟨hx, hy, hhead⟩
        cases piece with
        | nil => exact absurd ha (Bool.eq_false_iff.mp (s.opens_next a hhead))
        | cons z piece => exact hfirst ⟨hx, hy, hhead⟩
      rw [List.cons_append, List.cons_append, split_cons_cons hno, ← List.cons_append, ih hfree]

theorem splits_split (cs : List α) : s.Splits cs (s.split cs).1 (s.split cs).2 := by
  fun_induction s.split cs with
  | case1 a b rest hsep first pieces heq ih =>
    obtain ⟨ha, rfl, hnext⟩ := hsep
    rw [heq] at ih
    exact @Splits.more _ s a [] rest first pieces (free_of_length (by simp)) ha hnext ih
  | case2 a b rest hno first pieces heq ih =>
    rw [heq] at ih
    exact ih.cons hno
  | case3 cs hshort =>
    refine .last (free_of_length ?_)
    rcases cs with - | ⟨a, - | ⟨b, rest⟩⟩
    · simp
    · simp
    · exact absurd rfl (hshort a b rest)

/-- Texts split in one way only. -/
theorem splits_iff {cs first : List α} {pieces : List (List α)} :
    s.Splits cs first pieces ↔ s.split cs = (first, pieces) := by
  constructor
  · intro h
    induction h with
    | last hfree => exact split_of_free hfree
    | more hfree ha hnext _ ih => rw [split_append hfree ha hnext, ih]
  · intro h
    have hsplits := splits_split (s := s) cs
    rwa [h] at hsplits

end Separator

end RenkuNotebooks
