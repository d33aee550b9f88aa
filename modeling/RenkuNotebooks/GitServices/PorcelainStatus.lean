import Mathlib.Data.List.DropRight
import Mathlib.Data.List.Induction
import RenkuNotebooks.GitServices.Status

/-!
# The porcelain format of `git status`

The lines that `git status --porcelain=v2 --branch` writes, and for which outputs the sidecar reports
what they say. Unmerged entries are overlooked, and names of branches and of files may hold
characters that end a line for `str.splitlines` only.
-/

namespace RenkuNotebooks.GitServices

open PyText

/-! ### The format -/

def Unbroken (text : String) : Prop := ∀ c ∈ text.toList, isLineBoundary c = false

instance (text : String) : Decidable (Unbroken text) :=
  List.decidableBAll (fun c : Char => isLineBoundary c = false) text.toList

/-- Names of commits and headers without names. -/
structure LineText where
  text : String
  unbroken : Unbroken text

/-- Control characters of ASCII are quoted in any case; the tab stands between the two paths of a
renamed entry. -/
def isPrinted (c : Char) : Bool := c = '\t' ∨ 32 ≤ c.toNat ∧ c.toNat ≠ 127

/-- The fields and paths of an entry. With `core.quotePath=false` characters outside ASCII are
written as they are. -/
structure EntryText where
  text : String
  printed : ∀ c ∈ text.toList, isPrinted c = true

/-- What `git check-ref-format` lets through: no control character, no space, and none of a few
others. -/
def isRefChar (c : Char) : Bool :=
  32 < c.toNat ∧ c.toNat ≠ 127 ∧ c ∉ ['~', '^', ':', '?', '*', '[', '\\']

structure RefName where
  text : String
  valid : ∀ c ∈ text.toList, isRefChar c = true

/-- A header that the sidecar does not look for. -/
structure OtherHeader extends LineText where
  other : ∀ start ∈ [aheadBehindStart, branchStart, commitStart],
    startsWith ("# " ++ text) start = false

inductive StatusLine where
  | branchOid (commit : LineText)
  | branchHead (branch : RefName)
  | branchUpstream (branch : RefName)
  | branchAb (ahead behind : Nat)
  | otherHeader (header : OtherHeader)
  | ordinary (fields : EntryText)
  | renamed (fields : EntryText)
  | unmerged (fields : EntryText)
  | untracked (path : EntryText)
  | ignored (path : EntryText)

namespace StatusLine

def start : StatusLine → String
  | .branchOid _ => "# branch.oid "
  | .branchHead _ => "# branch.head "
  | .branchUpstream _ => "# branch.upstream "
  | .branchAb _ _ => "# branch.ab "
  | .otherHeader _ => "# "
  | .ordinary _ => "1 "
  | .renamed _ => "2 "
  | .unmerged _ => "u "
  | .untracked _ => "? "
  | .ignored _ => "! "

def text : StatusLine → String
  | .branchOid commit => commit.text
  | .branchHead branch | .branchUpstream branch => branch.text
  | .branchAb ahead behind => "+" ++ ahead.repr ++ " -" ++ behind.repr
  | .otherHeader header => header.text
  | .ordinary fields | .renamed fields | .unmerged fields => fields.text
  | .untracked path | .ignored path => path.text

def render (line : StatusLine) : String := line.start ++ line.text

def isUnmerged : StatusLine → Bool
  | .unmerged _ => true
  | _ => false

/-- Ordinary, renamed and untracked entries. -/
def isCounted : StatusLine → Bool
  | .ordinary _ | .renamed _ | .untracked _ => true
  | _ => false

/-- Work that is not committed. -/
def isPending (line : StatusLine) : Bool := line.isCounted || line.isUnmerged

def aheadBehind : StatusLine → Option (Int × Int)
  | .branchAb ahead behind => some (ahead, behind)
  | _ => none

def head : StatusLine → Option String
  | .branchHead branch => some branch.text
  | _ => none

def oid : StatusLine → Option String
  | .branchOid commit => some commit.text
  | _ => none

end StatusLine

def output (lines : List StatusLine) : String :=
  String.ofList (lines.flatMap fun line => line.render.toList ++ ['\n'])

/-- The value of the last header of a kind; git writes each of them at most once. -/
def lastValue {α : Type} (value : StatusLine → Option α) (lines : List StatusLine) : Option α :=
  (lines.filterMap value).getLast?

/-! ### Lines that are broken further -/

/-- The pieces that `str.splitlines` makes of a line. -/
def pieces (text : String) : List String :=
  (text.toList.splitOnP isLineBoundary).map String.ofList

def firstPiece (text : String) : String := (pieces text).headD ""

/-- Pieces that the sidecar takes for lines of their own. -/
def laterPieces (text : String) : List String := (pieces text).tail

def StatusLine.strays (line : StatusLine) : List String := laterPieces line.text

theorem pieces_eq (text : String) : pieces text = firstPiece text :: laterPieces text := by
  obtain ⟨first, later, hsplit⟩ :=
    List.exists_cons_of_ne_nil (List.splitOnP_ne_nil isLineBoundary text.toList)
  rw [firstPiece, laterPieces, pieces, hsplit]
  rfl

theorem mem_of_mem_pieces {text piece : String} (h : piece ∈ pieces text) :
    ∀ c ∈ piece.toList, c ∈ text.toList ∧ isLineBoundary c = false := by
  obtain ⟨cs, hcs, rfl⟩ := List.mem_map.mp h
  rw [String.toList_ofList]
  exact not_of_mem_splitOnP hcs

theorem pieces_of_unbroken {text : String} (h : Unbroken text) : pieces text = [text] := by
  rw [pieces, List.splitOnP_eq_singleton h, List.map_singleton, String.ofList_toList]

theorem laterPieces_of_unbroken {text : String} (h : Unbroken text) : laterPieces text = [] := by
  rw [laterPieces, pieces_of_unbroken h, List.tail_cons]

theorem firstPiece_eq_iff_unbroken (text : String) : firstPiece text = text ↔ Unbroken text := by
  constructor
  · intro h
    have hfirst : text ∈ pieces text := by
      rw [pieces_eq, h]
      exact List.mem_cons_self
    exact fun c hc => (mem_of_mem_pieces hfirst c hc).2
  · intro h
    rw [firstPiece, pieces_of_unbroken h, List.headD_cons]

theorem pieces_append {start : String} (h : Unbroken start) (text : String) :
    pieces (start ++ text) = (start ++ firstPiece text) :: laterPieces text := by
  obtain ⟨first, later, hsplit⟩ :=
    List.exists_cons_of_ne_nil (List.splitOnP_ne_nil isLineBoundary text.toList)
  have hfirst : String.ofList (start.toList ++ first) = start ++ String.ofList first := by
    rw [String.ofList_append, String.ofList_toList]
  rw [firstPiece, laterPieces, pieces, pieces, String.toList_append, splitOnP_append h, hsplit,
    List.modifyHead_cons, List.map_cons, hfirst]
  rfl

theorem StatusLine.unbroken_start (line : StatusLine) : Unbroken line.start := by
  cases line <;> dsimp only [start] <;> decide +kernel

theorem StatusLine.pieces_render (line : StatusLine) :
    pieces line.render = (line.start ++ firstPiece line.text) :: line.strays :=
  pieces_append line.unbroken_start line.text

/-! ### What the sidecar makes of a piece -/

/-- The rest of a piece that starts in this way. -/
def behind (start piece : String) : Option String :=
  if startsWith piece start then some (after start.length piece) else none

/-- The two numbers behind the start of `branch.ab`. -/
def counts (text : String) : Option (Int × Int) :=
  match split text ' ' with
  | [ahead, behind] =>
    match toInt (after 1 ahead), toInt (after 1 behind) with
    | some ahead, some behind => some (ahead, behind)
    | _, _ => none
  | _ => none

def isEntry (piece : String) : Bool := [some '1', some '2', some '?'].contains piece.toList.head?

/-- A piece that does not make the sidecar raise. -/
def WellFormed (piece : String) : Prop :=
  ∀ text, behind aheadBehindStart piece = some text → (counts text).isSome = true

def aheadBehindOf (piece : String) : Option (Int × Int) := (behind aheadBehindStart piece).bind counts

def readPiece (read : RepositoryStatus) (piece : String) : RepositoryStatus :=
  { read with
    clean := read.clean && !isEntry piece
    ahead := (aheadBehindOf piece).elim read.ahead Prod.fst
    behind := (aheadBehindOf piece).elim read.behind Prod.snd
    branch := (behind branchStart piece).getD read.branch
    commit := (behind commitStart piece).getD read.commit }

theorem startsWith_append (start rest : String) : startsWith (start ++ rest) start = true := by
  simp [startsWith, String.toList_append]

theorem after_append (start rest : String) : after start.length (start ++ rest) = rest := by
  rw [after, String.toList_append, ← String.length_toList, List.drop_left, String.ofList_toList]

theorem behind_append (start rest : String) : behind start (start ++ rest) = some rest := by
  rw [behind, if_pos (startsWith_append start rest), after_append]

/-- Starts of which none begins with the other do not start the same text. -/
theorem behind_eq_none {piece start start' : String} (h : startsWith piece start = true)
    (hdistinct : ¬ start.toList <+: start'.toList ∧ ¬ start'.toList <+: start.toList) :
    behind start' piece = none := by
  refine if_neg fun h' => ?_
  have hprefix := List.isPrefixOf_iff_prefix.mp h
  have hprefix' := List.isPrefixOf_iff_prefix.mp h'
  rcases List.prefix_or_prefix_of_prefix hprefix hprefix' with h | h
  · exact hdistinct.1 h
  · exact hdistinct.2 h

/-- Headers start with a number sign. -/
theorem isEntry_of_startsWith {piece start : String} (h : startsWith piece start = true)
    (hstart : start.toList.head? = some '#') : isEntry piece = false := by
  obtain ⟨rest, hrest⟩ := List.isPrefixOf_iff_prefix.mp h
  obtain ⟨cs, hcs⟩ := List.head?_eq_some_iff.mp hstart
  rw [isEntry, ← hrest, hcs]
  rfl

theorem readLine_aheadBehind {piece : String} (h : startsWith piece aheadBehindStart = true)
    (read : RepositoryStatus) : readLine read piece =
      ((counts (after aheadBehindStart.length piece)).elim (.error .valueError) fun found =>
        .ok { read with ahead := found.1, behind := found.2 }) := by
  have hne : piece ≠ "" := by
    rintro rfl
    revert h
    decide
  rw [readLine, if_neg hne, if_pos h, counts]
  generalize split (after aheadBehindStart.length piece) ' ' = parts
  rcases parts with - | ⟨ahead, - | ⟨behind, - | ⟨_, _⟩⟩⟩
  · rfl
  · rfl
  · simp only [parseCount]
    cases toInt (after 1 ahead) with
    | none => rfl
    | some n => cases toInt (after 1 behind) <;> rfl
  · rfl

theorem readLine_of_wellFormed {piece : String} (h : WellFormed piece) (read : RepositoryStatus) :
    readLine read piece = .ok (readPiece read piece) := by
  by_cases hcounts : startsWith piece aheadBehindStart = true
  · have hbehind : behind aheadBehindStart piece = some (after aheadBehindStart.length piece) :=
      if_pos hcounts
    obtain ⟨found, hfound⟩ := Option.isSome_iff_exists.mp (h _ hbehind)
    have hread : aheadBehindOf piece = some found := by
      rw [aheadBehindOf, hbehind, Option.bind_some, hfound]
    have hbranch : behind branchStart piece = none := behind_eq_none hcounts (by decide)
    have hcommit : behind commitStart piece = none := behind_eq_none hcounts (by decide)
    rw [readLine_aheadBehind hcounts, hfound, readPiece, hread, hbranch, hcommit,
      isEntry_of_startsWith hcounts rfl]
    simp
  have hread : aheadBehindOf piece = none := by
    rw [aheadBehindOf, behind, if_neg hcounts, Option.bind_none]
  rw [readPiece, hread]
  by_cases hempty : piece = ""
  · subst hempty
    simp [readLine, behind, startsWith, branchStart, commitStart, isEntry]
  rw [readLine, if_neg hempty, if_neg hcounts]
  by_cases hbranch : startsWith piece branchStart = true
  · have hcommit : behind commitStart piece = none := behind_eq_none hbranch (by decide)
    rw [if_pos hbranch, behind, if_pos hbranch, hcommit, isEntry_of_startsWith hbranch rfl]
    simp
  by_cases hcommit : startsWith piece commitStart = true
  · rw [if_neg hbranch, if_pos hcommit, behind, behind, if_neg hbranch, if_pos hcommit,
      isEntry_of_startsWith hcommit rfl]
    simp
  rw [if_neg hbranch, if_neg hcommit, behind, behind, if_neg hbranch, if_neg hcommit]
  by_cases hentry : piece.toList.head? ∈ [some '1', some '2', some '?']
  · rw [if_pos hentry, isEntry, List.contains_iff_mem.mpr hentry]
    simp
  · rw [if_neg hentry, isEntry, Bool.eq_false_iff.mpr (mt List.contains_iff_mem.mp hentry)]
    simp

theorem readLine_of_not_wellFormed {piece : String} (h : ¬ WellFormed piece)
    (read : RepositoryStatus) : readLine read piece = .error .valueError := by
  simp only [WellFormed, not_forall] at h
  obtain ⟨text, hbehind, hcounts⟩ := h
  by_cases hstart : startsWith piece aheadBehindStart = true
  · rw [behind, if_pos hstart] at hbehind
    cases hbehind
    rw [readLine_aheadBehind hstart, Option.not_isSome_iff_eq_none.mp hcounts]
    rfl
  · rw [behind, if_neg hstart] at hbehind
    cases hbehind

/-- The sidecar reads all pieces, or raises at one of them. -/
theorem foldlM_readLine_eq_ok_iff {read result : RepositoryStatus} {found : List String} :
    found.foldlM readLine read = .ok result ↔
      (∀ piece ∈ found, WellFormed piece) ∧ found.foldl readPiece read = result := by
  induction found generalizing read with
  | nil =>
    exact ⟨fun h => ⟨List.forall_mem_nil _, Except.ok.inj h⟩, fun h => congrArg Except.ok h.2⟩
  | cons piece found ih =>
    rw [List.foldlM_cons, List.foldl_cons, List.forall_mem_cons]
    by_cases hpiece : WellFormed piece
    · rw [readLine_of_wellFormed hpiece]
      exact ih.trans (by simp [hpiece])
    · rw [readLine_of_not_wellFormed hpiece]
      exact ⟨fun h => (by cases h), fun h => absurd h.1.1 hpiece⟩

/-- A field is what the last of the pieces says that sets it. -/
theorem foldl_readPiece {α : Type} (field : RepositoryStatus → α) (value : String → Option α)
    (h : ∀ read piece, field (readPiece read piece) = (value piece).getD (field read))
    (found : List String) (read : RepositoryStatus) :
    field (found.foldl readPiece read) =
      (found.filterMap value).getLast?.getD (field read) := by
  induction found using List.reverseRecOn with
  | nil => rfl
  | append_singleton found piece ih =>
    rw [List.foldl_append, List.foldl_cons, List.foldl_nil, h, ih, List.filterMap_append]
    cases hvalue : value piece with
    | none => simp [hvalue]
    | some a => simp [hvalue]

theorem clean_foldl (found : List String) (read : RepositoryStatus) :
    (found.foldl readPiece read).clean = (read.clean && found.all fun piece => !isEntry piece) := by
  induction found generalizing read with
  | nil => simp
  | cons piece found ih => rw [List.foldl_cons, ih, List.all_cons, readPiece, Bool.and_assoc]

/-! ### The first pieces of the lines -/

theorem split_aheadBehind (ahead behind : Nat) :
    split ("+" ++ ahead.repr ++ " -" ++ behind.repr) ' ' =
      ["+" ++ ahead.repr, "-" ++ behind.repr] := by
  have hspace : ∀ n : Nat, ' ' ∉ Nat.toDigits 10 n := fun n hmem => by
    have hdigit := isDigit_of_mem_repr (Nat.toList_repr ▸ hmem)
    cases hdigit
  have hahead : ' ' ∉ ("+" ++ ahead.repr).toList := by simp [hspace]
  have hbehind : ' ' ∉ ("-" ++ behind.repr).toList := by simp [hspace]
  have hlist : ("+" ++ ahead.repr ++ " -" ++ behind.repr).toList =
      ("+" ++ ahead.repr).toList ++ ' ' :: ("-" ++ behind.repr).toList := by simp
  rw [split, hlist, splitChars_append_sep hahead, splitChars_of_not_mem hbehind]
  simp only [List.map_cons, List.map_nil, String.ofList_toList]

theorem counts_aheadBehind (ahead behind : Nat) :
    counts ("+" ++ ahead.repr ++ " -" ++ behind.repr) = some ((ahead : Int), (behind : Int)) := by
  have hahead : after 1 ("+" ++ ahead.repr) = ahead.repr := after_append "+" ahead.repr
  have hbehind : after 1 ("-" ++ behind.repr) = behind.repr := after_append "-" behind.repr
  rw [counts, split_aheadBehind]
  dsimp only
  rw [hahead, hbehind, toInt_repr, toInt_repr]

theorem unbroken_aheadBehind (ahead behind : Nat) :
    Unbroken ("+" ++ ahead.repr ++ " -" ++ behind.repr) := by
  have hdigits : ∀ n : Nat, ∀ c ∈ n.repr.toList, isLineBoundary c = false := by
    intro n c hc
    have hdigit := Char.isDigit_iff_toNat.mp (isDigit_of_mem_repr hc)
    simp only [Char.reduceToNat] at hdigit
    simp only [isLineBoundary, decide_eq_false_iff_not, List.mem_cons, List.not_mem_nil, or_false]
    omega
  intro c hc
  simp only [String.toList_append, List.mem_append] at hc
  rcases hc with ((hc | hc) | hc) | hc
  · have hplus : Unbroken "+" := by decide +kernel
    exact hplus c hc
  · exact hdigits ahead c hc
  · have hminus : Unbroken " -" := by decide +kernel
    exact hminus c hc
  · exact hdigits behind c hc

/-- The first piece of a line that the sidecar does not look for. -/
theorem behind_otherHeader {start : String}
    (hstart : start ∈ [aheadBehindStart, branchStart, commitStart]) (header : OtherHeader) :
    behind start ("# " ++ firstPiece header.text) = none := by
  rw [(firstPiece_eq_iff_unbroken _).mpr header.unbroken, behind, header.other start hstart]
  rfl

theorem behind_start {start start' : String} (rest : String)
    (hdistinct : ¬ start'.toList <+: start.toList ∧ ¬ start.toList <+: start'.toList) :
    behind start (start' ++ rest) = none :=
  behind_eq_none (startsWith_append start' rest) hdistinct

namespace StatusLine

theorem behind_branchStart (line : StatusLine) :
    behind branchStart (line.start ++ firstPiece line.text) = line.head.map firstPiece := by
  cases line with
  | branchHead branch => exact behind_append branchStart _
  | otherHeader header => exact behind_otherHeader (by decide) header
  | _ => exact behind_start _ (by dsimp only [start]; decide)

theorem behind_commitStart (line : StatusLine) :
    behind commitStart (line.start ++ firstPiece line.text) = line.oid := by
  cases line with
  | branchOid commit =>
    rw [text, (firstPiece_eq_iff_unbroken _).mpr commit.unbroken]
    exact behind_append commitStart _
  | otherHeader header => exact behind_otherHeader (by decide) header
  | _ => exact behind_start _ (by dsimp only [start]; decide)

theorem behind_aheadBehindStart (line : StatusLine) :
    behind aheadBehindStart (line.start ++ firstPiece line.text) =
      line.aheadBehind.map fun _ => line.text := by
  cases line with
  | branchAb ahead behind =>
    rw [text, (firstPiece_eq_iff_unbroken _).mpr (unbroken_aheadBehind ahead behind)]
    exact behind_append aheadBehindStart _
  | otherHeader header => exact behind_otherHeader (by decide) header
  | _ => exact behind_start _ (by dsimp only [start]; decide)

theorem aheadBehindOf_first (line : StatusLine) :
    aheadBehindOf (line.start ++ firstPiece line.text) = line.aheadBehind := by
  rw [aheadBehindOf, behind_aheadBehindStart]
  cases line with
  | branchAb ahead behind => exact counts_aheadBehind ahead behind
  | _ => rfl

theorem wellFormed_first (line : StatusLine) : WellFormed (line.start ++ firstPiece line.text) := by
  intro text htext
  have hfirst := line.aheadBehindOf_first
  rw [aheadBehindOf, htext, Option.bind_some] at hfirst
  rw [behind_aheadBehindStart] at htext
  rw [hfirst]
  cases line <;> first | rfl | cases htext

theorem isEntry_first (line : StatusLine) :
    isEntry (line.start ++ firstPiece line.text) = line.isCounted := by
  cases line <;> simp [isEntry, start, isCounted]

/-- Only names and paths are broken further. -/
theorem strays_eq_nil {line : StatusLine} (h : Unbroken line.text) : line.strays = [] :=
  laterPieces_of_unbroken h

theorem strays_of_aheadBehind {line : StatusLine} (h : line.aheadBehind ≠ none) :
    line.strays = [] := by
  cases line with
  | branchAb ahead behind => exact strays_eq_nil (unbroken_aheadBehind ahead behind)
  | _ => exact absurd rfl h

theorem strays_of_oid {line : StatusLine} (h : line.oid ≠ none) : line.strays = [] := by
  cases line with
  | branchOid commit => exact strays_eq_nil commit.unbroken
  | _ => exact absurd rfl h

/-- Without a space, the rest of a broken name is no header. -/
theorem strays_of_head {line : StatusLine} (h : line.head ≠ none) :
    line.strays.filterMap (behind branchStart) = [] := by
  cases line with
  | branchHead name =>
    refine List.filterMap_eq_nil_iff.mpr fun piece hpiece => if_neg fun hstart => ?_
    have hmem : piece ∈ pieces name.text := by
      rw [pieces_eq]
      exact List.mem_cons_of_mem _ hpiece
    have hspace : ' ' ∈ piece.toList :=
      (List.isPrefixOf_iff_prefix.mp hstart).subset (by decide)
    cases name.valid _ (mem_of_mem_pieces hmem _ hspace).1
  | _ => exact absurd rfl h

theorem carriageReturn_not_mem_text (line : StatusLine) : '\r' ∉ line.text.toList := by
  have hunbroken : ∀ {text : String}, Unbroken text → '\r' ∉ text.toList :=
    fun htext hmem => by cases htext _ hmem
  intro hmem
  cases line with
  | branchHead name | branchUpstream name => cases name.valid _ hmem
  | branchAb ahead behind => exact hunbroken (unbroken_aheadBehind ahead behind) hmem
  | branchOid text => exact hunbroken text.unbroken hmem
  | otherHeader header => exact hunbroken header.unbroken hmem
  | ordinary text | renamed text | unmerged text | untracked text | ignored text =>
    cases text.printed _ hmem

theorem carriageReturn_not_mem_render (line : StatusLine) : '\r' ∉ line.render.toList := by
  rw [render, String.toList_append, List.mem_append]
  rintro (hmem | hmem)
  · cases line.unbroken_start _ hmem
  · exact line.carriageReturn_not_mem_text hmem

end StatusLine

/-! ### Whole outputs -/

theorem splitlines_output (lines : List StatusLine) :
    splitlines (output lines) = lines.flatMap fun line => pieces line.render := by
  rw [splitlines, output, String.toList_ofList]
  induction lines with
  | nil => rfl
  | cons line lines ih =>
    rw [List.flatMap_cons, List.flatMap_cons, List.append_assoc, List.singleton_append,
      splitlinesFrom_append_newline line.carriageReturn_not_mem_render, List.map_append, ih,
      List.splitOnPPrepend_nil_right]
    rfl

/-- What the pieces of broken lines say behind the last header of a kind. -/
def strayValues {α β : Type} (value : StatusLine → Option α) (found : String → Option β)
    (lines : List StatusLine) : List β :=
  (lines.rtakeWhile fun line => (value line).isNone).flatMap fun line => line.strays.filterMap found

theorem lastValue_append_singleton {α : Type} (value : StatusLine → Option α)
    (lines : List StatusLine) (line : StatusLine) :
    lastValue value (lines ++ [line]) = (value line).or (lastValue value lines) := by
  rw [lastValue, List.filterMap_append, List.getLast?_append]
  cases hvalue : value line <;> simp [hvalue, lastValue]

theorem strayValues_append_singleton {α β : Type} (value : StatusLine → Option α)
    (found : String → Option β) (lines : List StatusLine) (line : StatusLine) :
    strayValues value found (lines ++ [line]) =
      if (value line).isNone then strayValues value found lines ++ line.strays.filterMap found
      else [] := by
  rw [strayValues, List.rtakeWhile_concat]
  split
  · rw [List.flatMap_append, List.flatMap_singleton]
    rfl
  · rfl

/-- The last piece that says something is a stray one behind the last header, or that header. -/
theorem getLast?_pieces {α β : Type} {value : StatusLine → Option α} {found : String → Option β}
    {reading : α → β}
    (hfirst : ∀ line : StatusLine,
      found (line.start ++ firstPiece line.text) = (value line).map reading)
    (hstrays : ∀ line : StatusLine, value line ≠ none → line.strays.filterMap found = [])
    (lines : List StatusLine) :
    ((lines.flatMap fun line => pieces line.render).filterMap found).getLast? =
      (strayValues value found lines).getLast?.or ((lastValue value lines).map reading) := by
  induction lines using List.reverseRecOn with
  | nil => rfl
  | append_singleton lines line ih =>
    have hline : (pieces line.render).filterMap found =
        ((value line).map reading).toList ++ line.strays.filterMap found := by
      rw [line.pieces_render, List.filterMap_cons, hfirst]
      cases value line <;> rfl
    rw [List.flatMap_append, List.flatMap_singleton, List.filterMap_append, List.getLast?_append, ih,
      hline, strayValues_append_singleton, lastValue_append_singleton]
    cases hvalue : value line with
    | none => simp [List.getLast?_append, Option.or_assoc]
    | some a => simp [hstrays line (by rw [hvalue]; exact Option.some_ne_none a)]

/-! ### What the sidecar reports -/

structure Reported (lines : List StatusLine) (read : RepositoryStatus) : Prop where
  clean : read.clean = true ↔ ∀ line ∈ lines, line.isPending = false
  aheadBehind : (read.ahead, read.behind) = (lastValue StatusLine.aheadBehind lines).getD (0, 0)
  branch : ∀ name, lastValue StatusLine.head lines = some name → read.branch = name
  commit : ∀ commit, lastValue StatusLine.oid lines = some commit → read.commit = commit
  status : read.status = output lines

def ReportsStatus (lines : List StatusLine) : Prop :=
  ∃ read, status (output lines) = .ok read ∧ Reported lines read

/-- A stray piece that looks like an entry. -/
def hasStrayEntry (line : StatusLine) : Bool := line.strays.any isEntry

/-- Unmerged entries are seen only beside an entry of another kind, or where a stray piece looks
like one; and no stray piece is taken for a header that says something else. -/
structure Readable (lines : List StatusLine) : Prop where
  entries : (∃ line ∈ lines, line.isCounted = true) ∨
    ((∃ line ∈ lines, line.isUnmerged = true) ↔ ∃ line ∈ lines, hasStrayEntry line = true)
  wellFormed : ∀ line ∈ lines, ∀ piece ∈ line.strays, WellFormed piece
  aheadBehind : ∀ found ∈ (strayValues StatusLine.aheadBehind aheadBehindOf lines).getLast?,
    found = (lastValue StatusLine.aheadBehind lines).getD (0, 0)
  branch : ∀ name, lastValue StatusLine.head lines = some name → Unbroken name ∧
    ∀ found ∈ (strayValues StatusLine.head (behind branchStart) lines).getLast?, found = name
  commit : ∀ commit, lastValue StatusLine.oid lines = some commit →
    ∀ found ∈ (strayValues StatusLine.oid (behind commitStart) lines).getLast?, found = commit

theorem strays_of_unbroken {lines : List StatusLine}
    (h : ∀ line ∈ lines, Unbroken line.text) : ∀ line ∈ lines, line.strays = [] :=
  fun line hline => laterPieces_of_unbroken (h line hline)

theorem strayValues_of_unbroken {α β : Type} {value : StatusLine → Option α}
    {found : String → Option β} {lines : List StatusLine}
    (h : ∀ line ∈ lines, Unbroken line.text) : strayValues value found lines = [] := by
  refine List.flatMap_eq_nil_iff.mpr fun line hline => ?_
  rw [strays_of_unbroken h line ((List.rtakeWhile_suffix _ _).subset hline), List.filterMap_nil]

theorem lastValue_mem {α : Type} {value : StatusLine → Option α} {lines : List StatusLine} {a : α}
    (h : lastValue value lines = some a) : ∃ line ∈ lines, value line = some a :=
  List.mem_filterMap.mp (List.mem_of_getLast? h)

/-- Without names that break a line, only lone unmerged entries matter. -/
theorem readable_of_unbroken {lines : List StatusLine} (h : ∀ line ∈ lines, Unbroken line.text)
    (hentries : (∃ line ∈ lines, line.isCounted = true) ∨
      ∀ line ∈ lines, line.isUnmerged = false) : Readable lines where
  entries := by
    refine hentries.imp id fun hnone => ⟨?_, ?_⟩
    · rintro ⟨line, hline, hunmerged⟩
      cases (hnone line hline).symm.trans hunmerged
    · rintro ⟨line, hline, hstray⟩
      rw [hasStrayEntry, strays_of_unbroken h line hline] at hstray
      cases hstray
  wellFormed line hline piece hpiece := by
    rw [strays_of_unbroken h line hline] at hpiece
    cases hpiece
  aheadBehind found hfound := by
    rw [strayValues_of_unbroken h] at hfound
    cases hfound
  branch name hname := by
    obtain ⟨line, hline, hhead⟩ := lastValue_mem hname
    refine ⟨?_, fun found hfound => ?_⟩
    · cases line with
      | branchHead branch =>
        cases hhead
        exact h _ hline
      | _ => cases hhead
    · rw [strayValues_of_unbroken h] at hfound
      cases hfound
  commit _ _ found hfound := by
    rw [strayValues_of_unbroken h] at hfound
    cases hfound

section Reading

variable (lines : List StatusLine)

/-- What the sidecar has read at the end. -/
def finalRead : RepositoryStatus :=
  (lines.flatMap fun line => pieces line.render).foldl readPiece { status := output lines }

theorem status_output_iff (read : RepositoryStatus) : status (output lines) = .ok read ↔
    (∀ line ∈ lines, ∀ piece ∈ line.strays, WellFormed piece) ∧ finalRead lines = read := by
  rw [status, splitlines_output, foldlM_readLine_eq_ok_iff]
  refine and_congr_left fun _ => ⟨fun h line hline piece hpiece => ?_, fun h piece hpiece => ?_⟩
  · refine h piece (List.mem_flatMap.mpr ⟨line, hline, ?_⟩)
    rw [line.pieces_render]
    exact List.mem_cons_of_mem _ hpiece
  · obtain ⟨line, hline, hpiece⟩ := List.mem_flatMap.mp hpiece
    rw [line.pieces_render] at hpiece
    rcases List.mem_cons.mp hpiece with rfl | hpiece
    · exact line.wellFormed_first
    · exact h line hline piece hpiece

theorem clean_iff : (finalRead lines).clean = true ↔
    ¬ (∃ line ∈ lines, line.isCounted = true) ∧ ¬ ∃ line ∈ lines, hasStrayEntry line = true := by
  have hline : ∀ line : StatusLine, (pieces line.render).all (fun piece => !isEntry piece) =
      (!line.isCounted && !hasStrayEntry line) := by
    intro line
    rw [line.pieces_render, List.all_cons, line.isEntry_first, hasStrayEntry,
      List.all_eq_not_any_not]
    simp
  rw [finalRead, clean_foldl, List.all_flatMap, Bool.true_and, List.all_eq_true]
  simp only [hline, Bool.and_eq_true, Bool.not_eq_true', not_exists, not_and, Bool.not_eq_true]
  exact forall₂_and

theorem clean_eq_iff :
    ((finalRead lines).clean = true ↔ ∀ line ∈ lines, line.isPending = false) ↔
    ((∃ line ∈ lines, line.isCounted = true) ∨
      ((∃ line ∈ lines, line.isUnmerged = true) ↔ ∃ line ∈ lines, hasStrayEntry line = true)) := by
  have hpending : (∀ line ∈ lines, line.isPending = false) ↔
      ¬ (∃ line ∈ lines, line.isCounted = true) ∧ ¬ ∃ line ∈ lines, line.isUnmerged = true := by
    simp [StatusLine.isPending, forall_and]
  rw [clean_iff, hpending]
  by_cases hcounted : ∃ line ∈ lines, line.isCounted = true
  · simp only [hcounted, not_true_eq_false, false_and, true_or]
  · simp only [hcounted, not_false_eq_true, true_and, false_or, not_iff_not]
    exact Iff.comm

theorem finalRead_aheadBehind : ((finalRead lines).ahead, (finalRead lines).behind) =
    ((strayValues StatusLine.aheadBehind aheadBehindOf lines).getLast?.or
      (lastValue StatusLine.aheadBehind lines)).getD (0, 0) := by
  have hfields := foldl_readPiece (fun read => (read.ahead, read.behind)) aheadBehindOf
    (fun read piece => by
      simp only [readPiece]
      cases aheadBehindOf piece <;> rfl)
    (lines.flatMap fun line => pieces line.render) { status := output lines }
  have hlast := @getLast?_pieces _ _ StatusLine.aheadBehind aheadBehindOf id
    (fun line => by rw [line.aheadBehindOf_first, Option.map_id_fun, id])
    (fun line hline => by rw [line.strays_of_aheadBehind hline, List.filterMap_nil]) lines
  rw [hlast, Option.map_id_fun, id] at hfields
  exact hfields

theorem finalRead_branch : (finalRead lines).branch =
    ((strayValues StatusLine.head (behind branchStart) lines).getLast?.or
      ((lastValue StatusLine.head lines).map firstPiece)).getD "" := by
  have hlast := getLast?_pieces StatusLine.behind_branchStart
    (fun line hline => line.strays_of_head hline) lines
  rw [← hlast]
  exact foldl_readPiece RepositoryStatus.branch (behind branchStart) (fun _ _ => rfl) _ _

theorem finalRead_commit : (finalRead lines).commit =
    ((strayValues StatusLine.oid (behind commitStart) lines).getLast?.or
      (lastValue StatusLine.oid lines)).getD "" := by
  have hlast := @getLast?_pieces _ _ StatusLine.oid (behind commitStart) id
    (fun line => by rw [line.behind_commitStart, Option.map_id_fun, id])
    (fun line hline => by rw [line.strays_of_oid hline, List.filterMap_nil]) lines
  rw [Option.map_id_fun, id] at hlast
  rw [← hlast]
  exact foldl_readPiece RepositoryStatus.commit (behind commitStart) (fun _ _ => rfl) _ _

theorem finalRead_status : (finalRead lines).status = output lines := by
  have hstatus := foldl_readPiece RepositoryStatus.status (fun _ => none) (fun _ _ => rfl)
    (lines.flatMap fun line => pieces line.render) { status := output lines }
  have hnone : (lines.flatMap fun line => pieces line.render).filterMap
      (fun _ => (none : Option String)) = [] := List.filterMap_eq_nil_iff.mpr fun _ _ => rfl
  rw [hnone] at hstatus
  exact hstatus

end Reading

/-- A name that was broken is not what any piece says. -/
theorem eq_firstPiece_iff {name : String} {stray : Option String}
    (hstray : ∀ found ∈ stray, Unbroken found) :
    (stray.or (some (firstPiece name))).getD "" = name ↔
      Unbroken name ∧ ∀ found ∈ stray, found = name := by
  cases stray with
  | none =>
    rw [Option.none_or, Option.getD_some, firstPiece_eq_iff_unbroken]
    exact ⟨fun h => ⟨h, nofun⟩, fun h => h.1⟩
  | some found =>
    have hfound := hstray found rfl
    rw [Option.some_or, Option.getD_some]
    constructor
    · rintro rfl
      exact ⟨hfound, fun _ h => (Option.some.inj h).symm⟩
    · exact fun h => h.2 found rfl

theorem unbroken_of_strayValues {lines : List StatusLine} {found : String}
    (h : found ∈ (strayValues StatusLine.head (behind branchStart) lines).getLast?) :
    Unbroken found := by
  obtain ⟨line, -, hfound⟩ := List.mem_flatMap.mp (List.mem_of_getLast? h)
  obtain ⟨piece, hpiece, hbehind⟩ := List.mem_filterMap.mp hfound
  have hmem : piece ∈ pieces line.text := by
    rw [pieces_eq]
    exact List.mem_cons_of_mem _ hpiece
  rw [behind] at hbehind
  split at hbehind
  · cases hbehind
    intro c hc
    rw [after, String.toList_ofList] at hc
    exact (mem_of_mem_pieces hmem c (List.mem_of_mem_drop hc)).2
  · cases hbehind

theorem getD_eq_iff {α : Type} {stray value : Option α} {default_ : α} :
    (stray.or value).getD default_ = value.getD default_ ↔
      ∀ found ∈ stray, found = value.getD default_ := by
  cases stray with
  | none => simp
  | some found => simp

theorem reports_iff {lines : List StatusLine}
    (hwellFormed : ∀ line ∈ lines, ∀ piece ∈ line.strays, WellFormed piece) :
    Reported lines (finalRead lines) ↔ Readable lines := by
  have hbranch : ∀ name, lastValue StatusLine.head lines = some name →
      ((finalRead lines).branch = name ↔ Unbroken name ∧
        ∀ found ∈ (strayValues StatusLine.head (behind branchStart) lines).getLast?,
          found = name) := by
    intro name hname
    rw [finalRead_branch, hname, Option.map_some]
    exact eq_firstPiece_iff fun found hfound => unbroken_of_strayValues hfound
  have hcommit : ∀ commit, lastValue StatusLine.oid lines = some commit →
      ((finalRead lines).commit = commit ↔
        ∀ found ∈ (strayValues StatusLine.oid (behind commitStart) lines).getLast?,
          found = commit) := by
    intro commit hvalue
    have hiff := @getD_eq_iff _ (strayValues StatusLine.oid (behind commitStart) lines).getLast?
      (lastValue StatusLine.oid lines) ""
    rw [finalRead_commit]
    rwa [hvalue] at hiff ⊢
  constructor
  · intro h
    refine ⟨(clean_eq_iff lines).mp h.clean, hwellFormed, ?_, fun name hname => ?_,
      fun commit hvalue => ?_⟩
    · exact getD_eq_iff.mp ((finalRead_aheadBehind lines).symm.trans h.aheadBehind)
    · exact (hbranch name hname).mp (h.branch name hname)
    · exact (hcommit commit hvalue).mp (h.commit commit hvalue)
  · intro h
    refine ⟨(clean_eq_iff lines).mpr h.entries, ?_, fun name hname => ?_, fun commit hvalue => ?_,
      finalRead_status lines⟩
    · exact (finalRead_aheadBehind lines).trans (getD_eq_iff.mpr h.aheadBehind)
    · exact (hbranch name hname).mpr (h.branch name hname)
    · exact (hcommit commit hvalue).mpr (h.commit commit hvalue)

theorem reportsStatus_iff_readable (lines : List StatusLine) :
    ReportsStatus lines ↔ Readable lines := by
  constructor
  · rintro ⟨read, hread, hreported⟩
    obtain ⟨hwellFormed, rfl⟩ := (status_output_iff lines read).mp hread
    exact (reports_iff hwellFormed).mp hreported
  · intro h
    exact ⟨_, (status_output_iff lines _).mpr ⟨h.wellFormed, rfl⟩,
      (reports_iff h.wellFormed).mpr h⟩

/-- A repository in the middle of a merge, with one conflict. -/
def conflict : List StatusLine :=
  [.branchOid ⟨"8f9b6c1", by decide +kernel⟩, .branchHead ⟨"main", forall_of_all (by decide)⟩,
    .branchUpstream ⟨"origin/main", forall_of_all (by decide)⟩, .branchAb 1 1,
    .unmerged ⟨"UU N... 100644 100644 100644 100644 1269488 6320cd2 0c3e8a4 README.md",
      forall_of_all (by decide +kernel)⟩]

theorem conflict_not_reported : ¬ ReportsStatus conflict := by
  rintro ⟨read, hread, hreported⟩
  obtain ⟨-, rfl⟩ := (status_output_iff conflict read).mp hread
  have hentries := (clean_eq_iff conflict).mp hreported.clean
  revert hentries
  decide +kernel

end RenkuNotebooks.GitServices
