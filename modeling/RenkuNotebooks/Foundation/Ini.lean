import RenkuNotebooks.Foundation.PyText
import Mathlib.Data.List.Forall2

/-!
# INI files

A reader of INI files goes through a text line by line. What it makes of a single line is up to the
reader; how lines add up to sections is the same for all of them. A document of one section is read
back exactly when each of its lines is.
-/

namespace RenkuNotebooks.Ini

abbrev Entries := List (String × String)

inductive Line where
  | skipped
  | header (name : String)
  | entry (key value : String)
  deriving DecidableEq, Repr

/-- Entries before the first header belong to this section. -/
def defaultSection : String := "DEFAULT"

/-- The rule for single lines: none for a line that is an error. -/
structure Reader where
  readLine : String → Option Line
  blank : readLine "" = some .skipped
  comment : ∀ line, line.toList.head? = some '#' → readLine line = some .skipped
  default_header : readLine "[DEFAULT]" = some (.header defaultSection)
  header_line : ∀ line name, readLine line = some (.header name) → '\n' ∉ line.toList →
    '\n' ∉ name.toList
  entry_line : ∀ line key value, readLine line = some (.entry key value) → '\n' ∉ line.toList →
    '\n' ∉ key.toList ∧ '\n' ∉ value.toList
  /-- A key stands at the start of its line, maybe after blanks and quotes; only the keys that a
  reader makes up start with a number sign. -/
  entry_key : ∀ line key value, readLine line = some (.entry key value) →
    key.toList.head? = some '#' ∨
      ∃ before rest, line.toList = before ++ key.toList ++ rest ∧
        ∀ c ∈ before, PyText.isCaseless c = true

structure State where
  sections : List (String × Entries)
  current : String
  deriving DecidableEq, Repr

def setEntry (key value : String) : Entries → Entries
  | [] => [(key, value)]
  | e :: rest => if e.1 = key then (key, value) :: rest else e :: setEntry key value rest

def alterSection (name : String) (f : Entries → Entries) :
    List (String × Entries) → List (String × Entries)
  | [] => [(name, f [])]
  | s :: rest => if s.1 = name then (s.1, f s.2) :: rest else s :: alterSection name f rest

def State.next (state : State) : Line → State
  | .skipped => state
  | .header name => { sections := alterSection name id state.sections, current := name }
  | .entry key value =>
    { state with sections := alterSection state.current (setEntry key value) state.sections }

namespace Reader

variable (reader : Reader)

def step (state : State) (line : String) : Option State := (reader.readLine line).map state.next

def readLines (lines : List String) : Option (List (String × Entries)) :=
  (lines.foldlM reader.step { sections := [], current := defaultSection }).map (·.sections)

def read (text : String) : Option (List (String × Entries)) :=
  reader.readLines (PyText.split text '\n')

end Reader

/-! ### Sections -/

theorem alterSection_ne_nil (name : String) (f : Entries → Entries)
    (sections : List (String × Entries)) : alterSection name f sections ≠ [] := by
  cases sections with
  | nil => simp [alterSection]
  | cons s rest =>
    rw [alterSection]
    split <;> simp

/-- The first section stays the first one. -/
theorem head_alterSection {name : String} {f : Entries → Entries}
    {sections : List (String × Entries)} (h : sections ≠ []) :
    (alterSection name f sections).head?.map Prod.fst = sections.head?.map Prod.fst := by
  cases sections with
  | nil => exact absurd rfl h
  | cons s rest =>
    rw [alterSection]
    split <;> rfl

theorem mem_alterSection {name : String} {f : Entries → Entries}
    {sections : List (String × Entries)} {s : String × Entries}
    (h : s ∈ alterSection name f sections) :
    s ∈ sections ∨ s.1 = name ∧ (s.2 = f [] ∨ ∃ t ∈ sections, s.2 = f t.2) := by
  induction sections with
  | nil =>
    rw [alterSection, List.mem_singleton] at h
    subst h
    exact .inr ⟨rfl, .inl rfl⟩
  | cons t rest ih =>
    rw [alterSection] at h
    split at h
    · rename_i hname
      rcases List.mem_cons.mp h with rfl | h
      · exact .inr ⟨hname, .inr ⟨t, List.mem_cons_self, rfl⟩⟩
      · exact .inl (List.mem_cons_of_mem _ h)
    · rcases List.mem_cons.mp h with rfl | h
      · exact .inl List.mem_cons_self
      · rcases ih h with h | ⟨hname, h⟩
        · exact .inl (List.mem_cons_of_mem _ h)
        · refine .inr ⟨hname, h.imp_right ?_⟩
          rintro ⟨u, hu, heq⟩
          exact ⟨u, List.mem_cons_of_mem _ hu, heq⟩

theorem mem_setEntry {key value : String} {entries : Entries} {e : String × String}
    (h : e ∈ setEntry key value entries) : e = (key, value) ∨ e ∈ entries := by
  induction entries with
  | nil => exact .inl (List.mem_singleton.mp h)
  | cons d rest ih =>
    rw [setEntry] at h
    split at h
    · exact (List.mem_cons.mp h).imp_right (List.mem_cons_of_mem _)
    · rcases List.mem_cons.mp h with rfl | h
      · exact .inr List.mem_cons_self
      · exact (ih h).imp_right (List.mem_cons_of_mem _)

theorem setEntry_of_not_mem {key : String} {entries : Entries}
    (h : key ∉ entries.map Prod.fst) (value : String) :
    setEntry key value entries = entries ++ [(key, value)] := by
  induction entries with
  | nil => rfl
  | cons e rest ih =>
    rw [List.map_cons, List.mem_cons, not_or] at h
    rw [setEntry, if_neg (Ne.symm h.1), ih h.2, List.cons_append]

theorem length_setEntry_of_mem {key : String} {entries : Entries}
    (h : key ∈ entries.map Prod.fst) (value : String) :
    (setEntry key value entries).length = entries.length := by
  induction entries with
  | nil => cases h
  | cons e rest ih =>
    rw [setEntry]
    split
    · rfl
    · rename_i hne
      rw [List.map_cons, List.mem_cons] at h
      rw [List.length_cons, List.length_cons, ih (h.resolve_left (Ne.symm hne))]

/-! ### How many entries there are -/

def count : List (String × Entries) → Nat
  | [] => 0
  | s :: rest => s.2.length + count rest

theorem count_header (name : String) (sections : List (String × Entries)) :
    count (alterSection name id sections) = count sections := by
  induction sections with
  | nil => rfl
  | cons s rest ih =>
    rw [alterSection]
    split
    · rfl
    · exact congrArg (s.2.length + ·) ih

theorem count_entry_le (name key value : String) (sections : List (String × Entries)) :
    count (alterSection name (setEntry key value) sections) ≤ count sections + 1 := by
  induction sections with
  | nil => exact Nat.le_refl 1
  | cons s rest ih =>
    rw [alterSection]
    split
    · have hlength : (setEntry key value s.2).length ≤ s.2.length + 1 := by
        by_cases hkey : key ∈ s.2.map Prod.fst
        · rw [length_setEntry_of_mem hkey]
          omega
        · rw [setEntry_of_not_mem hkey, List.length_append, List.length_singleton]
      simp only [count]
      omega
    · simp only [count]
      omega

theorem count_next_le (state : State) (line : Line) :
    count (state.next line).sections ≤ count state.sections + 1 := by
  cases line with
  | skipped => exact Nat.le_succ _
  | header name =>
    rw [State.next, count_header]
    exact Nat.le_succ _
  | entry key value => exact count_entry_le _ _ _ _

/-! ### Lines one after another -/

section Lines

variable {reader : Reader} {state after : State} {lines : List String}

theorem step_eq_some {line : String} (h : reader.step state line = some after) :
    ∃ read, reader.readLine line = some read ∧ after = state.next read := by
  obtain ⟨read, hread, rfl⟩ := Option.map_eq_some_iff.mp h
  exact ⟨read, hread, rfl⟩

theorem count_foldlM_le (h : lines.foldlM reader.step state = some after) :
    count after.sections ≤ count state.sections + lines.length := by
  induction lines generalizing state with
  | nil =>
    cases h
    exact Nat.le_refl _
  | cons line lines ih =>
    rw [List.foldlM_cons] at h
    obtain ⟨middle, hstep, h⟩ := Option.bind_eq_some_iff.mp h
    obtain ⟨read, -, rfl⟩ := step_eq_some hstep
    have hnext := count_next_le state read
    have hrest := ih h
    rw [List.length_cons]
    omega

theorem head_foldlM (h : lines.foldlM reader.step state = some after)
    (hstate : state.sections ≠ []) :
    after.sections.head?.map Prod.fst = state.sections.head?.map Prod.fst := by
  induction lines generalizing state with
  | nil =>
    cases h
    rfl
  | cons line lines ih =>
    rw [List.foldlM_cons] at h
    obtain ⟨middle, hstep, h⟩ := Option.bind_eq_some_iff.mp h
    obtain ⟨read, -, rfl⟩ := step_eq_some hstep
    cases read with
    | skipped => exact ih h hstate
    | header name => exact (ih h (alterSection_ne_nil _ _ _)).trans (head_alterSection hstate)
    | entry key value => exact (ih h (alterSection_ne_nil _ _ _)).trans (head_alterSection hstate)

theorem foldlM_blank (n : Nat) :
    (List.replicate n "").foldlM reader.step state = some state := by
  induction n with
  | zero => rfl
  | succ n ih =>
    have hblank : reader.step state "" = some state := by rw [Reader.step, reader.blank]; rfl
    rw [List.replicate_succ, List.foldlM_cons, hblank]
    exact ih

/-- The line of an entry. -/
def Reads (reader : Reader) (line : String) (e : String × String) : Prop :=
  reader.readLine line = some (.entry e.1 e.2)

/-- Entries with new keys are added one by one. -/
theorem foldlM_entries {name : String} {entries added : Entries}
    (h : List.Forall₂ (Reads reader) lines added)
    (hnodup : ((entries ++ added).map Prod.fst).Nodup) :
    lines.foldlM reader.step { sections := [(name, entries)], current := name } =
      some { sections := [(name, entries ++ added)], current := name } := by
  induction h generalizing entries with
  | nil =>
    rw [List.append_nil]
    rfl
  | @cons line e lines added hline _ ih =>
    have hassoc : entries ++ e :: added = entries ++ [(e.1, e.2)] ++ added := by simp
    have hnew : e.1 ∉ entries.map Prod.fst := by
      intro hmem
      rw [List.map_append, List.map_cons, List.nodup_append] at hnodup
      exact hnodup.2.2 _ hmem _ List.mem_cons_self rfl
    have hstep : reader.step { sections := [(name, entries)], current := name } line =
        some { sections := [(name, entries ++ [(e.1, e.2)])], current := name } := by
      rw [Reader.step, hline, Option.map_some, State.next, alterSection, if_pos rfl,
        setEntry_of_not_mem hnew]
    rw [hassoc] at hnodup ⊢
    rw [List.foldlM_cons, hstep]
    exact ih hnodup

/-- Where every line has to be an entry, every line is one. -/
theorem entries_of_foldlM {name : String} {entries : Entries}
    (h : lines.foldlM reader.step { sections := [(name, entries)], current := name } = some after)
    (hcount : entries.length + lines.length ≤ count after.sections) :
    ∃ added, List.Forall₂ (Reads reader) lines added ∧
      after.sections = [(name, entries ++ added)] := by
  induction lines generalizing entries with
  | nil =>
    cases h
    exact ⟨[], .nil, by rw [List.append_nil]⟩
  | cons line lines ih =>
    rw [List.foldlM_cons] at h
    obtain ⟨middle, hstep, h⟩ := Option.bind_eq_some_iff.mp h
    obtain ⟨read, hread, rfl⟩ := step_eq_some hstep
    have hrest := count_foldlM_le h
    rw [List.length_cons] at hcount
    cases read with
    | skipped =>
      have hsame : count [(name, entries)] = entries.length := by simp [count]
      simp only [State.next, hsame] at hrest
      omega
    | header other =>
      have hsame : count (alterSection other id [(name, entries)]) = entries.length := by
        rw [count_header]
        simp [count]
      simp only [State.next, hsame] at hrest
      omega
    | entry key value =>
      have hnext : (State.next { sections := [(name, entries)], current := name }
          (.entry key value)) =
          { sections := [(name, setEntry key value entries)], current := name } := by
        rw [State.next, alterSection, if_pos rfl]
      rw [hnext] at h hrest
      by_cases hkey : key ∈ entries.map Prod.fst
      · have hsame : count [(name, setEntry key value entries)] = entries.length := by
          simp [count, length_setEntry_of_mem hkey]
        simp only [hsame] at hrest
        omega
      · rw [setEntry_of_not_mem hkey] at h
        have hlength : (entries ++ [(key, value)]).length = entries.length + 1 := by simp
        obtain ⟨added, hadded, hsections⟩ := ih h (by omega)
        refine ⟨(key, value) :: added, .cons hread hadded, ?_⟩
        rw [hsections, List.append_assoc, List.singleton_append]

end Lines

/-! ### Documents of one section -/

def headerLine (name : String) : String := "[" ++ name ++ "]"

def entryLine (e : String × String) : String := e.1 ++ " = " ++ e.2

section Document

variable {reader : Reader} {name : String} {written items : Entries}

theorem readLines_document (hheader : reader.readLine (headerLine name) = some (.header name))
    (hentries : List.Forall₂ (Reads reader) (written.map entryLine) items)
    (hnodup : (items.map Prod.fst).Nodup) (blanks : Nat) :
    reader.readLines (headerLine name :: written.map entryLine ++ List.replicate blanks "") =
      some [(name, items)] := by
  have hstep : reader.step { sections := [], current := defaultSection } (headerLine name) =
      some { sections := [(name, [])], current := name } := by
    rw [Reader.step, hheader]
    rfl
  have hfold : (written.map entryLine).foldlM reader.step
      { sections := [(name, [])], current := name } =
        some { sections := [(name, [] ++ items)], current := name } :=
    foldlM_entries hentries hnodup
  rw [Reader.readLines, List.cons_append, List.foldlM_cons, hstep, Option.bind_eq_bind,
    Option.bind_some, List.foldlM_append, hfold, Option.bind_eq_bind, Option.bind_some,
    foldlM_blank, Option.map_some, List.nil_append]

/-- One line at least opens the first section, and is no entry. -/
theorem count_lt_of_head {lines : List String} {after : State} {first : String × Entries}
    (h : lines.foldlM reader.step { sections := [], current := defaultSection } = some after)
    (hfirst : after.sections.head? = some first) (hname : first.1 ≠ defaultSection) :
    count after.sections < lines.length := by
  induction lines with
  | nil =>
    cases h
    cases hfirst
  | cons line lines ih =>
    rw [List.foldlM_cons] at h
    obtain ⟨middle, hstep, h⟩ := Option.bind_eq_some_iff.mp h
    obtain ⟨read, -, rfl⟩ := step_eq_some hstep
    rw [List.length_cons]
    cases read with
    | skipped => exact Nat.lt_succ_of_lt (ih h)
    | header name =>
      have hcount := count_foldlM_le h
      simp only [State.next, alterSection, count, id_eq, List.length_nil] at hcount
      omega
    | entry key value =>
      have hhead := head_foldlM h (alterSection_ne_nil _ _ _)
      rw [hfirst] at hhead
      exact absurd (Option.some.inj hhead) hname

theorem head_of_default_header {lines : List String} {sections : List (String × Entries)}
    (h : reader.readLines ("[DEFAULT]" :: lines) = some sections) :
    sections.head?.map Prod.fst = some defaultSection := by
  obtain ⟨after, hafter, rfl⟩ := Option.map_eq_some_iff.mp h
  have hstep : reader.step { sections := [], current := defaultSection } "[DEFAULT]" =
      some { sections := [(defaultSection, [])], current := defaultSection } := by
    rw [Reader.step, reader.default_header]
    rfl
  rw [List.foldlM_cons, hstep] at hafter
  exact head_foldlM hafter (List.cons_ne_nil _ _)

theorem lines_of_readLines (hname : name ≠ defaultSection) (hlength : written.length ≤ items.length)
    {blanks : Nat}
    (h : reader.readLines (headerLine name :: written.map entryLine ++ List.replicate blanks "") =
      some [(name, items)]) :
    reader.readLine (headerLine name) = some (.header name) ∧
      List.Forall₂ (Reads reader) (written.map entryLine) items := by
  obtain ⟨after, hafter, hsections⟩ := Option.map_eq_some_iff.mp h
  rw [List.foldlM_append] at hafter
  obtain ⟨middle, hmiddle, hafter⟩ := Option.bind_eq_some_iff.mp hafter
  rw [foldlM_blank] at hafter
  cases hafter
  have hfirst : after.sections.head? = some (name, items) := by rw [hsections]; rfl
  have hcount : count after.sections = items.length := by rw [hsections]; simp [count]
  rw [List.foldlM_cons] at hmiddle
  obtain ⟨start, hstep, hrest⟩ := Option.bind_eq_some_iff.mp hmiddle
  obtain ⟨read, hread, rfl⟩ := step_eq_some hstep
  cases read with
  | skipped =>
    have hlt := count_lt_of_head hrest hfirst hname
    rw [List.length_map] at hlt
    omega
  | header other =>
    have hhead := head_foldlM hrest (alterSection_ne_nil _ _ _)
    rw [hfirst] at hhead
    cases Option.some.inj hhead
    obtain ⟨added, hadded, hfinal⟩ := entries_of_foldlM hrest
      (by rw [hcount, List.length_map]; simpa using hlength)
    rw [hsections] at hfinal
    cases hfinal
    exact ⟨hread, hadded⟩
  | entry key value =>
    have hhead := head_foldlM hrest (alterSection_ne_nil _ _ _)
    rw [hfirst] at hhead
    exact absurd (Option.some.inj hhead) hname

end Document

/-! ### Texts of single lines -/

def SingleLine (text : String) : Prop := '\n' ∉ text.toList

def SingleLines (sections : List (String × Entries)) : Prop :=
  ∀ s ∈ sections, SingleLine s.1 ∧ ∀ e ∈ s.2, SingleLine e.1 ∧ SingleLine e.2

section Newlines

variable {reader : Reader}

theorem singleLines_alterSection {name : String} {f : Entries → Entries}
    {sections : List (String × Entries)} (hsections : SingleLines sections)
    (hname : SingleLine name)
    (hf : ∀ entries : Entries, (∀ e ∈ entries, SingleLine e.1 ∧ SingleLine e.2) →
      ∀ e ∈ f entries, SingleLine e.1 ∧ SingleLine e.2) :
    SingleLines (alterSection name f sections) := by
  intro s hs
  rcases mem_alterSection hs with hs | ⟨heq, hs | ⟨t, ht, hs⟩⟩
  · exact hsections s hs
  · rw [heq, hs]
    exact ⟨hname, hf [] (by simp)⟩
  · rw [heq, hs]
    exact ⟨hname, hf t.2 (hsections t ht).2⟩

theorem singleLines_step {state after : State} {line : String}
    (h : reader.step state line = some after) (hline : SingleLine line)
    (hstate : SingleLines state.sections ∧ SingleLine state.current) :
    SingleLines after.sections ∧ SingleLine after.current := by
  obtain ⟨read, hread, rfl⟩ := step_eq_some h
  cases read with
  | skipped => exact hstate
  | header name =>
    have hname := reader.header_line line name hread hline
    exact ⟨singleLines_alterSection hstate.1 hname fun entries hentries => hentries, hname⟩
  | entry key value =>
    have hentry := reader.entry_line line key value hread hline
    refine ⟨singleLines_alterSection hstate.1 hstate.2 fun entries hentries e he => ?_, hstate.2⟩
    rcases mem_setEntry he with rfl | he
    · exact hentry
    · exact hentries e he

theorem singleLines_foldlM {lines : List String} (hlines : ∀ line ∈ lines, SingleLine line)
    {state after : State} (h : lines.foldlM reader.step state = some after)
    (hstate : SingleLines state.sections ∧ SingleLine state.current) :
    SingleLines after.sections := by
  induction lines generalizing state with
  | nil =>
    cases h
    exact hstate.1
  | cons line lines ih =>
    rw [List.foldlM_cons] at h
    obtain ⟨middle, hstep, h⟩ := Option.bind_eq_some_iff.mp h
    have hmiddle := singleLines_step hstep (hlines line List.mem_cons_self) hstate
    exact ih (fun line hline => hlines line (List.mem_cons_of_mem _ hline)) h hmiddle

theorem singleLines_read {text : String} {sections : List (String × Entries)}
    (h : reader.read text = some sections) : SingleLines sections := by
  obtain ⟨after, hafter, rfl⟩ := Option.map_eq_some_iff.mp h
  have hstate : SingleLines ([] : List (String × Entries)) := fun s hs => by cases hs
  have hcurrent : '\n' ∉ defaultSection.toList := by decide
  exact singleLines_foldlM (fun line hline => PyText.not_mem_of_mem_split hline) hafter
    ⟨hstate, hcurrent⟩

end Newlines

/-! ### A plain reader -/

/-- Lines as they are written, without blanks around them and without quotes. -/
def plainLine (line : String) : Option Line :=
  match line.toList with
  | [] => some .skipped
  | '#' :: _ => some .skipped
  | '[' :: cs => if cs.getLast? = some ']' then some (.header (String.ofList cs.dropLast)) else none
  | cs =>
    match cs.dropWhile (· ≠ ' ') with
    | ' ' :: '=' :: ' ' :: value =>
      some (.entry (String.ofList (cs.takeWhile (· ≠ ' '))) (String.ofList value))
    | _ => none

theorem plainLine_header {line name : String} (h : plainLine line = some (.header name)) :
    ∃ cs, line.toList = '[' :: cs ∧ name = String.ofList cs.dropLast := by
  unfold plainLine at h
  split at h
  · cases h
  · cases h
  · rename_i cs hcs
    split at h
    · cases h
      exact ⟨cs, hcs, rfl⟩
    · cases h
  · split at h <;> cases h

theorem plainLine_entry {line key value : String} (h : plainLine line = some (.entry key value)) :
    ∃ cs, line.toList = key.toList ++ ' ' :: '=' :: ' ' :: cs ∧ value = String.ofList cs := by
  unfold plainLine at h
  split at h
  · cases h
  · cases h
  · split at h <;> cases h
  · split at h
    · rename_i cs hdrop
      cases h
      refine ⟨cs, ?_, rfl⟩
      rw [String.toList_ofList, ← hdrop, List.takeWhile_append_dropWhile]
    · cases h

def plainReader : Reader where
  readLine := plainLine
  blank := rfl
  comment line h := by
    obtain ⟨cs, hcs⟩ := List.head?_eq_some_iff.mp h
    rw [plainLine, hcs]
    rfl
  default_header := by decide
  header_line line name h hline := by
    obtain ⟨cs, hcs, rfl⟩ := plainLine_header h
    rw [String.toList_ofList]
    rw [hcs] at hline
    exact fun hmem => hline (List.mem_cons_of_mem _ (List.dropLast_subset _ hmem))
  entry_line line key value h hline := by
    obtain ⟨cs, hcs, rfl⟩ := plainLine_entry h
    rw [String.toList_ofList]
    rw [hcs] at hline
    simp only [List.mem_append, List.mem_cons, not_or] at hline
    exact ⟨hline.1, hline.2.2.2.2⟩
  entry_key line key value h := by
    obtain ⟨cs, hcs, -⟩ := plainLine_entry h
    exact .inr ⟨[], _, hcs, by simp⟩

end RenkuNotebooks.Ini
