import RenkuNotebooks.Foundation.Ini
import RenkuNotebooks.Foundation.Results
import RenkuNotebooks.Notebooks.CloudStorage

/-!
# Configurations of cloud storages

For which configurations the text of `config_string` is the INI file of the configuration. The
parser that writes it folds the case of the keys and interpolates percent signs, which rclone does
not.
-/

namespace RenkuNotebooks.Notebooks

open PyText

/-- A dictionary of texts, numbers and truth values. -/
structure RCloneConfiguration where
  members : List (String × Json)
  nodup : (members.map Prod.fst).Nodup
  scalar : ∀ m ∈ members, (∀ xs, m.2 ≠ .arr xs) ∧ (∀ ms, m.2 ≠ .obj ms) ∧ m.2 ≠ .null
  type : (Json.getMember "type" members).isSome

namespace RCloneStorage

def withMembers (s : RCloneStorage) (members : List (String × Json)) : RCloneStorage :=
  { s with configuration := members }

/-! ### What rewriting is for -/

section Rewriting

variable (members : List (String × Json))

def storageType : Json := (Json.getMember "type" members).getD (.str "")

def access : Json := (Json.getMember "provider" members).getD (.str "")

def isSharedLink : Prop := isPolyboxOrSwitch (storageType members) ∧ access members = .str "shared"

instance : Decidable (isSharedLink members) := inferInstanceAs (Decidable (_ ∧ _))

/-- The text of the public link, which only a text has. -/
def publicLink : Option String :=
  match (Json.getMember "public_link" members).getD (.str "") with
  | .str link => some link
  | _ => none

def webdavMembers : List (String × Json) :=
  let members' := Json.setMember "provider" (.str "") (Json.setMember "type" (.str "webdav") members)
  (endpointUrl (storageType members) (access members)).elim members' fun url =>
    Json.setMember "url" (.str url) members'

/-- Polybox and switchDrive become WebDAV with a known address, and for a shared link its last
segment as the user; the provider Switch of S3 becomes Other. -/
def rewritten : List (String × Json) :=
  if isPolyboxOrSwitch (storageType members) then
    if access members = .str "shared" then
      Json.setMember "user" (.str (lastSegment ((publicLink members).getD ""))) (webdavMembers members)
    else webdavMembers members
  else if storageType members = .str "s3" ∧ access members = .str "Switch" then
    Json.setMember "provider" (.str "Other") members
  else members

def LinkIsText : Prop := isSharedLink members → (publicLink members).isSome

/-- The type of a shared storage is looked up in a set. -/
def HashableType : Prop :=
  access members = .str "shared" →
    (∀ xs, storageType members ≠ .arr xs) ∧ ∀ ms, storageType members ≠ .obj ms

end Rewriting

theorem getMember_webdavMembers (members : List (String × Json)) {key : String}
    (htype : key ≠ "type") (hprovider : key ≠ "provider") (hurl : key ≠ "url") :
    Json.getMember key (webdavMembers members) = Json.getMember key members := by
  unfold webdavMembers
  cases endpointUrl (storageType members) (access members) with
  | none =>
    rw [Option.elim_none, Json.getMember_setMember_of_ne hprovider,
      Json.getMember_setMember_of_ne htype]
  | some url =>
    rw [Option.elim_some, Json.getMember_setMember_of_ne hurl,
      Json.getMember_setMember_of_ne hprovider, Json.getMember_setMember_of_ne htype]

theorem type_webdavMembers (members : List (String × Json)) :
    Json.getMember "type" (webdavMembers members) = some (.str "webdav") := by
  have hprovider : "type" ≠ "provider" := by decide
  have hurl : "type" ≠ "url" := by decide
  unfold webdavMembers
  cases endpointUrl (storageType members) (access members) with
  | none => rw [Option.elim_none, Json.getMember_setMember_of_ne hprovider, Json.getMember_setMember]
  | some url =>
    rw [Option.elim_some, Json.getMember_setMember_of_ne hurl,
      Json.getMember_setMember_of_ne hprovider, Json.getMember_setMember]

/-- No endpoint is known for other storages. -/
theorem endpointUrl_of_other {storageType : Json} (h : isPolyboxOrSwitch storageType = false)
    (access : Json) : endpointUrl storageType access = none := by
  simp only [isPolyboxOrSwitch, Bool.decide_or, Bool.or_eq_false_iff, decide_eq_false_iff_not] at h
  simp [endpointUrl, h.1, h.2]

/-- The last step of rewriting. -/
def switchStep (s : RCloneStorage) : Except PyError RCloneStorage :=
  match Json.getMember "type" s.configuration with
  | none => .error (.keyError "type")
  | some t =>
    if t = .str "s3" ∧ Json.getMember "provider" s.configuration = some (.str "Switch") then
      .ok (s.setConfig "provider" "Other")
    else .ok s

theorem rewriteConfiguration_of_webdav {s : RCloneStorage}
    (h : isPolyboxOrSwitch (storageType s.configuration) = true) :
    s.rewriteConfiguration =
      if access s.configuration = .str "shared" then
        match publicLink s.configuration with
        | some link =>
          switchStep (s.withMembers
            (Json.setMember "user" (.str (lastSegment link)) (webdavMembers s.configuration)))
        | none => .error .attributeError
      else switchStep (s.withMembers (webdavMembers s.configuration)) := by
  have htype : s.getConfig "type" = storageType s.configuration := rfl
  have haccess : s.getConfig "provider" = access s.configuration := rfl
  have hwebdav : ((endpointUrl (storageType s.configuration) (access s.configuration)).elim
      ((s.setConfig "type" "webdav").setConfig "provider" "") fun url =>
        ((s.setConfig "type" "webdav").setConfig "provider" "").setConfig "url" url) =
      s.withMembers (webdavMembers s.configuration) := by
    unfold webdavMembers
    cases endpointUrl (storageType s.configuration) (access s.configuration) <;> rfl
  have hlink : (s.withMembers (webdavMembers s.configuration)).getConfig "public_link" =
      (Json.getMember "public_link" s.configuration).getD (.str "") := by
    have htype : "public_link" ≠ "type" := by decide
    have hprovider : "public_link" ≠ "provider" := by decide
    have hurl : "public_link" ≠ "url" := by decide
    exact congrArg (Option.getD · _) (getMember_webdavMembers s.configuration htype hprovider hurl)
  unfold rewriteConfiguration
  rw [htype, haccess]
  simp only [h, if_true, hwebdav]
  by_cases hshared : access s.configuration = .str "shared"
  · simp only [hshared, if_true]
    have hst : storageType s.configuration = .str "polybox" ∨
        storageType s.configuration = .str "switchDrive" := by
      simpa [isPolyboxOrSwitch] using h
    rw [publicLink, ← hlink]
    rcases hst with hst | hst <;> rw [hst] <;>
      cases (s.withMembers (webdavMembers s.configuration)).getConfig "public_link" <;> rfl
  · simp only [hshared, if_false]
    rfl

theorem rewriteConfiguration_of_other {s : RCloneStorage}
    (h : isPolyboxOrSwitch (storageType s.configuration) = false)
    (hhashable : HashableType s.configuration) :
    s.rewriteConfiguration = switchStep s := by
  have htype : s.getConfig "type" = storageType s.configuration := rfl
  have haccess : s.getConfig "provider" = access s.configuration := rfl
  unfold rewriteConfiguration
  rw [htype, haccess]
  simp only [h, endpointUrl_of_other h, Option.elim_none, Bool.false_eq_true, if_false]
  by_cases hshared : access s.configuration = .str "shared"
  · simp only [hshared, if_true]
    cases hst : storageType s.configuration with
    | arr xs => exact absurd hst ((hhashable hshared).1 xs)
    | obj ms => exact absurd hst ((hhashable hshared).2 ms)
    | _ => rfl
  · simp only [hshared, if_false]
    rfl

theorem switchStep_of_webdav {s : RCloneStorage}
    (h : Json.getMember "type" s.configuration = some (.str "webdav")) : switchStep s = .ok s := by
  have hne : Json.str "webdav" ≠ .str "s3" := by decide
  rw [switchStep, h]
  exact if_neg fun hswitch => hne hswitch.1

theorem switchStep_of_other {s : RCloneStorage}
    (hother : isPolyboxOrSwitch (storageType s.configuration) = false)
    (htype : (Json.getMember "type" s.configuration).isSome) :
    switchStep s = .ok (s.withMembers (rewritten s.configuration)) := by
  obtain ⟨t, ht⟩ := Option.isSome_iff_exists.mp htype
  have hstorage : storageType s.configuration = t := by rw [storageType, ht]; rfl
  have hprovider : Json.getMember "provider" s.configuration = some (.str "Switch") ↔
      access s.configuration = .str "Switch" := by
    unfold access
    cases Json.getMember "provider" s.configuration with
    | none => simp
    | some provider => simp
  rw [switchStep, ht, rewritten, hother, ← hstorage]
  simp only [hprovider, Bool.false_eq_true, if_false]
  by_cases hswitch : storageType s.configuration = .str "s3" ∧ access s.configuration = .str "Switch"
  · rw [if_pos hswitch, if_pos hswitch]
    rfl
  · rw [if_neg hswitch, if_neg hswitch]
    rfl

theorem rewriteConfiguration_eq {s : RCloneStorage} (hlink : LinkIsText s.configuration)
    (hhashable : HashableType s.configuration)
    (htype : (Json.getMember "type" s.configuration).isSome) :
    s.rewriteConfiguration = .ok (s.withMembers (rewritten s.configuration)) := by
  cases hpolybox : isPolyboxOrSwitch (storageType s.configuration) with
  | false => rw [rewriteConfiguration_of_other hpolybox hhashable, switchStep_of_other hpolybox htype]
  | true =>
    rw [rewriteConfiguration_of_webdav hpolybox, rewritten, if_pos hpolybox]
    by_cases hshared : access s.configuration = .str "shared"
    · obtain ⟨link, hlink⟩ := Option.isSome_iff_exists.mp (hlink ⟨hpolybox, hshared⟩)
      have huser : "type" ≠ "user" := by decide
      rw [if_pos hshared, if_pos hshared, hlink, Option.getD_some]
      apply switchStep_of_webdav
      exact (Json.getMember_setMember_of_ne huser _ _).trans (type_webdavMembers _)
    · rw [if_neg hshared, if_neg hshared]
      exact switchStep_of_webdav (type_webdavMembers _)

theorem linkIsText_of_rewriteConfiguration {s s' : RCloneStorage}
    (h : s.rewriteConfiguration = .ok s') : LinkIsText s.configuration := by
  rintro ⟨hpolybox, hshared⟩
  rw [rewriteConfiguration_of_webdav hpolybox, if_pos hshared] at h
  cases hlink : publicLink s.configuration with
  | none =>
    rw [hlink] at h
    cases h
  | some link => rfl

theorem rewriteConfiguration_of_unhashable {s : RCloneStorage}
    (h : ¬ HashableType s.configuration) : s.rewriteConfiguration = .error .typeError := by
  unfold HashableType at h
  rw [Classical.not_imp] at h
  obtain ⟨hshared, hst⟩ := h
  have htype : s.getConfig "type" = storageType s.configuration := rfl
  have haccess : s.getConfig "provider" = .str "shared" := hshared
  unfold rewriteConfiguration
  rw [htype, haccess]
  cases hstorage : storageType s.configuration with
  | arr xs => rfl
  | obj ms => rfl
  | _ =>
    rw [hstorage] at hst
    simp at hst

theorem hashableType_of_rewriteConfiguration {s s' : RCloneStorage}
    (h : s.rewriteConfiguration = .ok s') : HashableType s.configuration := by
  by_contra hhashable
  cases (rewriteConfiguration_of_unhashable hhashable).symm.trans h

theorem type_of_rewriteConfiguration {s s' : RCloneStorage}
    (h : s.rewriteConfiguration = .ok s') : (Json.getMember "type" s.configuration).isSome := by
  cases htype : Json.getMember "type" s.configuration with
  | some t => rfl
  | none =>
    have hstorage : storageType s.configuration = .str "" := by rw [storageType, htype]; rfl
    have hother : isPolyboxOrSwitch (storageType s.configuration) = false := by
      rw [hstorage]
      decide
    rw [rewriteConfiguration_of_other hother (hashableType_of_rewriteConfiguration h), switchStep,
      htype] at h
    cases h

/-- When rewriting succeeds, and with what. -/
theorem rewriteConfiguration_eq_ok_iff {s s' : RCloneStorage} :
    s.rewriteConfiguration = .ok s' ↔
      LinkIsText s.configuration ∧ HashableType s.configuration ∧
        (Json.getMember "type" s.configuration).isSome ∧
          s' = s.withMembers (rewritten s.configuration) := by
  constructor
  · intro h
    have hlink := linkIsText_of_rewriteConfiguration h
    have hhashable := hashableType_of_rewriteConfiguration h
    have htype := type_of_rewriteConfiguration h
    rw [rewriteConfiguration_eq hlink hhashable htype] at h
    exact ⟨hlink, hhashable, htype, (Except.ok.inj h).symm⟩
  · rintro ⟨hlink, hhashable, htype, rfl⟩
    exact rewriteConfiguration_eq hlink hhashable htype

/-! ### Rewriting once is enough -/

/-- Configurations that rclone knows. -/
def Settled (members : List (String × Json)) : Prop :=
  isPolyboxOrSwitch (storageType members) = false ∧
    ¬ (storageType members = .str "s3" ∧ access members = .str "Switch")

theorem rewritten_of_settled {members : List (String × Json)} (h : Settled members) :
    rewritten members = members := by
  rw [rewritten, h.1, if_neg (by decide), if_neg h.2]

theorem linkIsText_of_settled {members : List (String × Json)} (h : Settled members) :
    LinkIsText members := by
  rintro ⟨hpolybox, -⟩
  rw [h.1] at hpolybox
  cases hpolybox

theorem settled_of_webdav {members : List (String × Json)}
    (h : Json.getMember "type" members = some (.str "webdav")) : Settled members := by
  have hne : Json.str "webdav" ≠ .str "s3" := by decide
  rw [Settled, storageType, h]
  exact ⟨by decide, fun hswitch => hne hswitch.1⟩

theorem settled_rewritten (members : List (String × Json)) : Settled (rewritten members) := by
  have huser : "type" ≠ "user" := by decide
  have hprovider : "type" ≠ "provider" := by decide
  unfold rewritten
  split
  · split
    · apply settled_of_webdav
      exact (Json.getMember_setMember_of_ne huser _ _).trans (type_webdavMembers _)
    · exact settled_of_webdav (type_webdavMembers _)
  · rename_i hpolybox
    split
    · refine ⟨?_, fun hswitch => ?_⟩
      · rw [storageType, Json.getMember_setMember_of_ne hprovider]
        exact Bool.eq_false_iff.mpr hpolybox
      · have hne : Json.str "Other" ≠ .str "Switch" := by decide
        have haccess := hswitch.2
        rw [access, Json.getMember_setMember] at haccess
        exact hne haccess
    · rename_i hswitch
      exact ⟨by simpa using hpolybox, hswitch⟩

/-! ### What the parser holds -/

section Parser

variable (lower : String → String)

/-- `parser.set` when the value is accepted. -/
def setOption (items : Ini.Entries) (item : String × String) : Ini.Entries :=
  if items.any (·.1 = lower item.1) then
    items.map fun i => if i.1 = lower item.1 then (lower item.1, item.2) else i
  else items ++ [(lower item.1, item.2)]

variable {lower}

theorem parserSet_eq (items : Ini.Entries) (item : String × String) :
    parserSet lower items item.1 item.2 = (beforeSet item.2).map fun _ => setOption lower items item := by
  unfold parserSet setOption
  cases beforeSet item.2 with
  | error e => rfl
  | ok a =>
    change (if items.any (·.1 = lower item.1) then _ else _) = _
    split <;> rfl

theorem foldlM_parserSet {items : Ini.Entries} (h : ∀ item ∈ items, beforeSet item.2 = .ok ())
    (parsed : Ini.Entries) :
    items.foldlM (fun parsed item => parserSet lower parsed item.1 item.2) parsed =
      .ok (items.foldl (setOption lower) parsed) := by
  induction items generalizing parsed with
  | nil => rfl
  | cons item items ih =>
    rw [List.foldlM_cons, parserSet_eq, h item List.mem_cons_self]
    exact ih (fun item hitem => h item (List.mem_cons_of_mem _ hitem)) _

theorem beforeSet_of_foldlM {items parsed parsed' : Ini.Entries}
    (h : items.foldlM (fun parsed item => parserSet lower parsed item.1 item.2) parsed = .ok parsed') :
    ∀ item ∈ items, beforeSet item.2 = .ok () := by
  induction items generalizing parsed with
  | nil => simp
  | cons item items ih =>
    rw [List.foldlM_cons, parserSet_eq] at h
    obtain ⟨middle, hmiddle, h⟩ := Results.bind_eq_ok_iff.mp h
    obtain ⟨_, hset, -⟩ := Results.map_eq_ok_iff.mp hmiddle
    intro other hother
    rcases List.mem_cons.mp hother with rfl | hother
    · exact hset
    · exact ih h other hother

theorem length_setOption (items : Ini.Entries) (item : String × String) :
    (setOption lower items item).length ≤ items.length + 1 ∧
      ((setOption lower items item).length = items.length + 1 →
        setOption lower items item = items ++ [(lower item.1, item.2)]) := by
  unfold setOption
  split
  · simp
  · simp

theorem length_foldl_setOption (items parsed : Ini.Entries) :
    (items.foldl (setOption lower) parsed).length ≤ parsed.length + items.length ∧
      ((items.foldl (setOption lower) parsed).length = parsed.length + items.length →
        items.foldl (setOption lower) parsed =
          parsed ++ items.map fun item => (lower item.1, item.2)) := by
  induction items generalizing parsed with
  | nil => simp
  | cons item items ih =>
    obtain ⟨hle, heq⟩ := @length_setOption lower parsed item
    obtain ⟨hrest, hrestEq⟩ := ih (setOption lower parsed item)
    rw [List.foldl_cons, List.length_cons]
    refine ⟨by omega, fun hlength => ?_⟩
    have hnew : (setOption lower parsed item).length = parsed.length + 1 := by omega
    rw [hrestEq (by omega), heq hnew, List.append_assoc, List.map_cons, List.singleton_append]

/-- Keys in lower case are kept as they are. -/
theorem foldl_setOption_of_lower {items parsed : Ini.Entries}
    (hlower : ∀ item ∈ items, lower item.1 = item.1)
    (hnodup : ((parsed ++ items).map Prod.fst).Nodup) :
    items.foldl (setOption lower) parsed = parsed ++ items := by
  induction items generalizing parsed with
  | nil => exact (List.append_nil _).symm
  | cons item items ih =>
    have hassoc : parsed ++ item :: items = parsed ++ [item] ++ items := by simp
    have hnew : setOption lower parsed item = parsed ++ [item] := by
      have hitem := hlower item List.mem_cons_self
      have habsent : parsed.any (·.1 = lower item.1) = false := by
        rw [hitem, List.any_eq_false]
        intro other hother heq
        rw [List.map_append, List.map_cons, List.nodup_append] at hnodup
        exact hnodup.2.2 _ (List.mem_map_of_mem hother) _ List.mem_cons_self (of_decide_eq_true heq)
      rw [setOption, if_neg (by simp [habsent]), hitem]
    rw [hassoc] at hnodup ⊢
    rw [List.foldl_cons, hnew]
    exact ih (fun item hitem => hlower item (List.mem_cons_of_mem _ hitem)) hnodup

end Parser

/-! ### The lines of the text -/

theorem split_append_newline {line : String} (h : Ini.SingleLine line) (rest : String) :
    split (line ++ "\n" ++ rest) '\n' = line :: split rest '\n' := by
  have hlist : (line ++ "\n" ++ rest).toList = line.toList ++ '\n' :: rest.toList := by
    simp [String.toList_append]
  rw [split, hlist, splitChars_append_sep h]
  simp only [List.map_cons, String.ofList_toList, split]

theorem singleLine_append {s t : String} (hs : Ini.SingleLine s) (ht : Ini.SingleLine t) :
    Ini.SingleLine (s ++ t) := by
  unfold Ini.SingleLine at *
  simp [String.toList_append, hs, ht]

theorem writeValue_of_singleLine {value : String} (h : Ini.SingleLine value) :
    writeValue value = value := by
  have hmap : ∀ cs : List Char, '\n' ∉ cs →
      cs.flatMap (fun c => if c = '\n' then ['\n', '\t'] else [c]) = cs := by
    intro cs hcs
    induction cs with
    | nil => rfl
    | cons c cs ih =>
      rw [List.mem_cons, not_or] at hcs
      rw [List.flatMap_cons, if_neg (Ne.symm hcs.1), ih hcs.2, List.singleton_append]
  rw [writeValue, hmap _ h, String.ofList_toList]

def SingleLineEntries (items : Ini.Entries) : Prop :=
  ∀ item ∈ items, Ini.SingleLine item.1 ∧ Ini.SingleLine item.2

theorem split_entries {items : Ini.Entries} (h : SingleLineEntries items) :
    split (String.join (items.map fun item => item.1 ++ " = " ++ writeValue item.2 ++ "\n") ++ "\n")
        '\n' =
      items.map Ini.entryLine ++ ["", ""] := by
  induction items with
  | nil => rfl
  | cons item items ih =>
    obtain ⟨hkey, hvalue⟩ := h item List.mem_cons_self
    have hequals : Ini.SingleLine " = " := by unfold Ini.SingleLine; decide
    have hline := singleLine_append (singleLine_append hkey hequals) hvalue
    rw [List.map_cons, String.join_cons, writeValue_of_singleLine hvalue, String.append_assoc,
      split_append_newline hline, ih fun item hitem => h item (List.mem_cons_of_mem _ hitem)]
    rfl

theorem split_writeSection {name : String} (hname : Ini.SingleLine name) {items : Ini.Entries}
    (h : SingleLineEntries items) :
    split (writeSection name items) '\n' =
      Ini.headerLine name :: items.map Ini.entryLine ++ List.replicate 2 "" := by
  have hbracket : Ini.SingleLine "[" := by unfold Ini.SingleLine; decide
  have hclose : Ini.SingleLine "]" := by unfold Ini.SingleLine; decide
  have hheader := singleLine_append (singleLine_append hbracket hname) hclose
  have htext : writeSection name items = "[" ++ name ++ "]" ++ "\n" ++
      (String.join (items.map fun item => item.1 ++ " = " ++ writeValue item.2 ++ "\n") ++ "\n") := by
    simp only [writeSection, String.append_assoc]
    rfl
  rw [htext, split_append_newline hheader, split_entries h]
  rfl

/-! ### Keys are read as they are written -/

section Keys

variable {py : PyText.Str}

/-- A key that is read where its folded form has been written was in lower case already: up to the
first character that was changed, what stands before the key is repeated over and over. -/
theorem lower_of_line {key : String} {tail before after : List Char}
    (hplain : ∀ c ∈ before, isCaseless c = true)
    (h : (py.lower key).toList ++ tail = before ++ key.toList ++ after) : py.lower key = key := by
  by_contra hne
  obtain ⟨kept, c, d, rest, rest', hkey, hlower, hchanged, -, hd⟩ := py.lower_changes key hne
  rw [hkey, hlower] at h
  have hline : ∀ j, j ≤ kept.length → ∀ a, (kept ++ d :: rest' ++ tail)[j]? = some a →
      before ≠ [] → isCaseless a = true := by
    intro j
    induction j using Nat.strong_induction_on with
    | _ j ih =>
      intro hj a ha hbefore
      have hread := h ▸ ha
      by_cases hlt : j < before.length
      · rw [List.append_assoc, List.getElem?_append_left hlt] at hread
        exact hplain a (List.mem_of_getElem? hread)
      · have hpos := List.length_pos_iff.mpr hbefore
        have hshift : j - before.length < kept.length := by omega
        rw [List.append_assoc, List.getElem?_append_right (by omega), List.append_assoc,
          List.getElem?_append_left hshift] at hread
        refine ih (j - before.length) (by omega) (by omega) a ?_ hbefore
        rw [List.append_assoc, List.getElem?_append_left hshift]
        exact hread
  have hwritten : (kept ++ d :: rest' ++ tail)[kept.length]? = some d := by simp
  by_cases hbefore : before = []
  · rw [hbefore, List.nil_append] at h
    rw [h] at hwritten
    simp at hwritten
    exact hchanged hwritten
  · rw [hline kept.length le_rfl d hwritten hbefore] at hd
    cases hd

theorem lower_of_reads {reader : Ini.Reader} {item : String × String}
    (h : Ini.Reads reader (Ini.entryLine (py.lower item.1, item.2)) item) :
    py.lower item.1 = item.1 := by
  have hline : (Ini.entryLine (py.lower item.1, item.2)).toList =
      (py.lower item.1).toList ++ (" = " ++ item.2).toList := by
    simp [Ini.entryLine, String.toList_append]
  rcases reader.entry_key _ _ _ h with hsign | ⟨before, after, hwritten, hplain⟩
  · by_contra hne
    obtain ⟨kept, c, d, rest, rest', hkey, hlower, -, hc, -⟩ := py.lower_changes item.1 hne
    have hfirst : (Ini.entryLine (py.lower item.1, item.2)).toList.head? = some '#' := by
      rw [hline, hlower]
      rw [hkey] at hsign
      cases kept with
      | nil =>
        cases hsign
        cases hc
      | cons first kept => exact hsign
    cases (reader.comment _ hfirst).symm.trans h
  · rw [hline] at hwritten
    exact lower_of_line hplain hwritten

/-- Newlines are neither removed nor made by folding. -/
theorem newline_mem_lower {s : String} (h : '\n' ∈ (py.lower s).toList) : '\n' ∈ s.toList := by
  have hmem : '\n' ∈ (py.lower s).toList.filter isCaseless := List.mem_filter.mpr ⟨h, rfl⟩
  rw [py.lower_caseless] at hmem
  exact (List.mem_filter.mp hmem).1

end Keys

/-! ### Round trips -/

section RoundTrip

variable (reader : Ini.Reader) (py : PyText.Str)

def stringified (members : List (String × Json)) : Ini.Entries :=
  members.map fun m => (m.1, stringify py m.2)

/-- What the file is to hold. -/
def fileEntries (configuration : RCloneConfiguration) : Ini.Entries :=
  stringified py (rewritten configuration.members)

/-- The text is the file of the configuration, and a second call gives the same text. -/
def RoundTrips (s : RCloneStorage) (configuration : RCloneConfiguration) (name : String) : Prop :=
  ∃ fileText after,
    (s.withMembers configuration.members).configString py name = .ok (fileText, after) ∧
      reader.read fileText = some [(name, fileEntries py configuration)] ∧
      ∃ again, after.configString py name = .ok (fileText, again)

/-- A public link is a text, the name is usable for the parser, no percent sign stands alone, and
the header and each entry can be written in an INI file as they are, with the key in lower case. -/
structure Writable (configuration : RCloneConfiguration) (name : String) : Prop where
  link : LinkIsText configuration.members
  name_ne : name ≠ "" ∧ name ≠ "DEFAULT"
  header : Ini.SingleLine name ∧
    reader.readLine (Ini.headerLine name) = some (.header name)
  entries : ∀ item ∈ fileEntries py configuration,
    beforeSet item.2 = .ok () ∧ py.lower item.1 = item.1 ∧
      Ini.SingleLine item.1 ∧ Ini.SingleLine item.2 ∧ Ini.Reads reader (Ini.entryLine item) item

variable {reader py}

theorem nodup_rewritten (configuration : RCloneConfiguration) :
    ((rewritten configuration.members).map Prod.fst).Nodup := by
  have hwebdav : ((webdavMembers configuration.members).map Prod.fst).Nodup := by
    have hprovider := Json.nodup_setMember "provider" (.str "")
      (Json.nodup_setMember "type" (.str "webdav") configuration.nodup)
    unfold webdavMembers
    cases endpointUrl (storageType configuration.members) (access configuration.members) with
    | none => exact hprovider
    | some url => exact Json.nodup_setMember _ _ hprovider
  unfold rewritten
  split
  · split
    · exact Json.nodup_setMember _ _ hwebdav
    · exact hwebdav
  · split
    · exact Json.nodup_setMember _ _ configuration.nodup
    · exact configuration.nodup

theorem scalar_storageType (configuration : RCloneConfiguration) :
    (∀ xs, storageType configuration.members ≠ .arr xs) ∧
      ∀ ms, storageType configuration.members ≠ .obj ms := by
  obtain ⟨t, ht⟩ := Option.isSome_iff_exists.mp configuration.type
  have hscalar := configuration.scalar _ (Json.mem_of_getMember ht)
  have htype : storageType configuration.members = t := by rw [storageType, ht]; rfl
  rw [htype]
  exact ⟨hscalar.1, hscalar.2.1⟩

theorem configString_eq_ok_iff {s after : RCloneStorage} {name fileText : String}
    (hne : s.configuration ≠ []) :
    s.configString py name = .ok (fileText, after) ↔
      s.rewriteConfiguration = .ok after ∧ name ≠ "DEFAULT" ∧
        (∀ item ∈ stringified py after.configuration, beforeSet item.2 = .ok ()) ∧
        fileText =
          parserWrite name ((stringified py after.configuration).foldl (setOption py.lower) []) := by
  have hfold : ∀ members : List (String × Json),
      members.foldlM (fun items item => parserSet py.lower items item.1 (stringify py item.2)) [] =
        (stringified py members).foldlM (fun items item => parserSet py.lower items item.1 item.2) [] := by
    intro members
    rw [stringified, List.foldlM_map]
  unfold configString
  simp only [List.isEmpty_iff, hne, if_false, hfold]
  rw [Results.bind_eq_ok_iff]
  constructor
  · rintro ⟨rewritten, hrewritten, h⟩
    by_cases hname : name = "DEFAULT"
    · rw [if_pos hname] at h
      cases h
    · rw [if_neg hname] at h
      obtain ⟨items, hitems, h⟩ := Results.bind_eq_ok_iff.mp h
      cases h
      have hset := beforeSet_of_foldlM hitems
      rw [foldlM_parserSet hset] at hitems
      cases hitems
      exact ⟨hrewritten, hname, hset, rfl⟩
  · rintro ⟨hrewritten, hname, hset, rfl⟩
    refine ⟨after, hrewritten, ?_⟩
    rw [if_neg hname, foldlM_parserSet hset]
    rfl

theorem type_rewritten (members : List (String × Json)) :
    Json.getMember "type" (rewritten members) = some (.str "webdav") ∨
      Json.getMember "type" (rewritten members) = Json.getMember "type" members := by
  have huser : "type" ≠ "user" := by decide
  have hprovider : "type" ≠ "provider" := by decide
  unfold rewritten
  split
  · split
    · exact .inl ((Json.getMember_setMember_of_ne huser _ _).trans (type_webdavMembers _))
    · exact .inl (type_webdavMembers _)
  · split
    · exact .inr (Json.getMember_setMember_of_ne hprovider _ _)
    · exact .inr rfl

theorem isSome_type_rewritten (configuration : RCloneConfiguration) :
    (Json.getMember "type" (rewritten configuration.members)).isSome := by
  rcases type_rewritten configuration.members with h | h <;> rw [h]
  · rfl
  · exact configuration.type

theorem scalar_storageType_rewritten (configuration : RCloneConfiguration) :
    (∀ xs, storageType (rewritten configuration.members) ≠ .arr xs) ∧
      ∀ ms, storageType (rewritten configuration.members) ≠ .obj ms := by
  rcases type_rewritten configuration.members with h | h <;> rw [storageType, h]
  · exact ⟨fun xs => by simp, fun ms => by simp⟩
  · exact scalar_storageType configuration

theorem ne_nil_of_isSome {members : List (String × Json)}
    (h : (Json.getMember "type" members).isSome) : members ≠ [] := by
  rintro rfl
  cases h

theorem nodup_fileEntries (configuration : RCloneConfiguration) :
    ((fileEntries py configuration).map Prod.fst).Nodup := by
  rw [fileEntries, stringified, List.map_map]
  exact nodup_rewritten configuration

theorem rewriteConfiguration_members (s : RCloneStorage) {configuration : RCloneConfiguration}
    (hlink : LinkIsText configuration.members) :
    (s.withMembers configuration.members).rewriteConfiguration =
      .ok (s.withMembers (rewritten configuration.members)) :=
  rewriteConfiguration_eq (s := s.withMembers configuration.members) hlink
    (fun _ => scalar_storageType configuration) configuration.type

/-- The second call finds nothing to rewrite. -/
theorem rewriteConfiguration_rewritten (s : RCloneStorage) (configuration : RCloneConfiguration) :
    (s.withMembers (rewritten configuration.members)).rewriteConfiguration =
      .ok (s.withMembers (rewritten configuration.members)) := by
  have hsettled := settled_rewritten configuration.members
  have hagain := rewriteConfiguration_eq (s := s.withMembers (rewritten configuration.members))
    (linkIsText_of_settled hsettled) (fun _ => scalar_storageType_rewritten configuration)
    (isSome_type_rewritten configuration)
  change _ = Except.ok (s.withMembers (rewritten (rewritten configuration.members))) at hagain
  rwa [rewritten_of_settled hsettled] at hagain

theorem roundTrips_of_writable {s : RCloneStorage} {configuration : RCloneConfiguration}
    {name : String} (h : Writable reader py configuration name) :
    RoundTrips reader py s configuration name := by
  have hwritten : (fileEntries py configuration).foldl (setOption py.lower) [] =
      fileEntries py configuration :=
    foldl_setOption_of_lower (fun item hitem => (h.entries item hitem).2.1)
      (nodup_fileEntries configuration)
  have hset : ∀ item ∈ fileEntries py configuration, beforeSet item.2 = .ok () :=
    fun item hitem => (h.entries item hitem).1
  have hne := ne_nil_of_isSome (isSome_type_rewritten configuration)
  have hconfig : (s.withMembers configuration.members).configString py name =
      .ok (parserWrite name ((fileEntries py configuration).foldl (setOption py.lower) []),
        s.withMembers (rewritten configuration.members)) :=
    (configString_eq_ok_iff (ne_nil_of_isSome configuration.type)).mpr
      ⟨rewriteConfiguration_members s h.link, h.name_ne.2, hset, rfl⟩
  have hagain : (s.withMembers (rewritten configuration.members)).configString py name =
      .ok (parserWrite name ((fileEntries py configuration).foldl (setOption py.lower) []),
        s.withMembers (rewritten configuration.members)) :=
    (configString_eq_ok_iff hne).mpr
      ⟨rewriteConfiguration_rewritten s configuration, h.name_ne.2, hset, rfl⟩
  refine ⟨_, _, hconfig, ?_, _, hagain⟩
  have hlines : List.Forall₂ (Ini.Reads reader)
      ((fileEntries py configuration).map Ini.entryLine) (fileEntries py configuration) := by
    rw [List.forall₂_map_left_iff, List.forall₂_same]
    exact fun item hitem => (h.entries item hitem).2.2.2.2
  rw [hwritten, parserWrite, if_neg h.name_ne.1, Ini.Reader.read,
    split_writeSection h.header.1 fun item hitem => (h.entries item hitem).2.2.imp_right And.left]
  exact Ini.readLines_document h.header.2 hlines (nodup_fileEntries configuration) 2

theorem singleLine_setOption {parsed : Ini.Entries} {item : String × String}
    (hparsed : SingleLineEntries parsed) (hitem : Ini.SingleLine item.1 ∧ Ini.SingleLine item.2) :
    SingleLineEntries (setOption py.lower parsed item) := by
  have hlower : Ini.SingleLine (py.lower item.1) := fun hmem => hitem.1 (newline_mem_lower hmem)
  intro other hother
  unfold setOption at hother
  split at hother
  · obtain ⟨i, hi, rfl⟩ := List.mem_map.mp hother
    split
    · exact ⟨hlower, hitem.2⟩
    · exact hparsed i hi
  · rcases List.mem_append.mp hother with hother | hother
    · exact hparsed other hother
    · rw [List.mem_singleton.mp hother]
      exact ⟨hlower, hitem.2⟩

theorem singleLine_foldl_setOption {items parsed : Ini.Entries} (hitems : SingleLineEntries items)
    (hparsed : SingleLineEntries parsed) : SingleLineEntries (items.foldl (setOption py.lower) parsed) := by
  induction items generalizing parsed with
  | nil => exact hparsed
  | cons item items ih =>
    exact ih (fun item hitem => hitems item (List.mem_cons_of_mem _ hitem))
      (singleLine_setOption hparsed (hitems item List.mem_cons_self))

theorem foldl_setOption_ne_nil {items parsed : Ini.Entries} (h : parsed ≠ [] ∨ items ≠ []) :
    items.foldl (setOption py.lower) parsed ≠ [] := by
  induction items generalizing parsed with
  | nil => exact h.resolve_right fun hne => hne rfl
  | cons item items ih =>
    refine ih (.inl ?_)
    unfold setOption
    split
    · rename_i hany
      rintro hnil
      rw [List.map_eq_nil_iff.mp hnil] at hany
      cases hany
    · simp

/-- Without a name the options land in a section DEFAULT of their own. -/
theorem name_ne_of_read {name : String} {items written : Ini.Entries} (hwritten : written ≠ [])
    (h : reader.read (parserWrite name written) = some [(name, items)]) : name ≠ "" := by
  rintro rfl
  have hline : Ini.SingleLine "[DEFAULT]" := by unfold Ini.SingleLine; decide
  have hstart : parserWrite "" written = "[DEFAULT]" ++ "\n" ++
      (String.join (written.map fun item => item.1 ++ " = " ++ writeValue item.2 ++ "\n") ++ "\n" ++
        writeSection "" []) := by
    have hheader : "[" ++ "DEFAULT" ++ "]\n" = "[DEFAULT]" ++ "\n" := rfl
    rw [parserWrite, if_pos rfl, if_neg hwritten, writeSection, hheader]
    simp only [String.append_assoc]
  rw [Ini.Reader.read, hstart, split_append_newline hline] at h
  have hne : some "" ≠ some Ini.defaultSection := by decide
  exact hne (Ini.head_of_default_header h)

theorem writable_of_roundTrips {s : RCloneStorage} {configuration : RCloneConfiguration}
    {name : String} (h : RoundTrips reader py s configuration name) :
    Writable reader py configuration name := by
  obtain ⟨fileText, after, hconfig, hread, -⟩ := h
  obtain ⟨hrewrite, hdefault, hset, rfl⟩ :=
    (configString_eq_ok_iff (ne_nil_of_isSome configuration.type)).mp hconfig
  have hlink : LinkIsText configuration.members := linkIsText_of_rewriteConfiguration hrewrite
  rw [rewriteConfiguration_members s hlink] at hrewrite
  cases hrewrite
  have hentries : stringified py (s.withMembers (rewritten configuration.members)).configuration =
      fileEntries py configuration := rfl
  rw [hentries] at hread hset
  have hne : fileEntries py configuration ≠ [] := fun hnil =>
    ne_nil_of_isSome (isSome_type_rewritten configuration) (List.map_eq_nil_iff.mp hnil)
  have hname := name_ne_of_read (foldl_setOption_ne_nil (.inr hne)) hread
  obtain ⟨hnameLine, hitemLines⟩ := Ini.singleLines_read hread _ (List.mem_singleton.mpr rfl)
  have hwrittenLines : SingleLineEntries ((fileEntries py configuration).foldl (setOption py.lower) []) :=
    singleLine_foldl_setOption hitemLines fun item hitem => by cases hitem
  have hlength := @length_foldl_setOption py.lower (fileEntries py configuration) []
  rw [parserWrite, if_neg hname, Ini.Reader.read,
    split_writeSection hnameLine hwrittenLines] at hread
  obtain ⟨hheader, hlines⟩ := Ini.lines_of_readLines hdefault
    (by simpa using hlength.1) hread
  have hwritten := hlength.2 (by simpa using hlines.length_eq)
  rw [hwritten, List.nil_append, List.map_map, List.forall₂_map_left_iff,
    List.forall₂_same] at hlines
  refine ⟨hlink, ⟨hname, hdefault⟩, ⟨hnameLine, hheader⟩, fun item hitem => ?_⟩
  have hlower := lower_of_reads (hlines item hitem)
  have hreads := hlines item hitem
  refine ⟨hset item hitem, hlower, (hitemLines item hitem).1, (hitemLines item hitem).2, ?_⟩
  rwa [Function.comp_apply, hlower] at hreads

/-- A configuration survives if and only if it can be written. -/
theorem roundTrips_iff_writable (reader : Ini.Reader) (py : PyText.Str) (s : RCloneStorage)
    (configuration : RCloneConfiguration) (name : String) :
    RoundTrips reader py s configuration name ↔ Writable reader py configuration name :=
  ⟨writable_of_roundTrips, roundTrips_of_writable⟩

end RoundTrip

/-- A WebDAV storage with a percent sign in its password. -/
def percentConfiguration : RCloneConfiguration where
  members := [("type", "webdav"), ("pass", "100%")]
  nodup := by decide
  scalar := by simp
  type := rfl

def emptyStorage : RCloneStorage :=
  { configuration := [], sourcePath := "", mountFolder := "/work/data", readonly := true,
    name := none, secrets := [], userSecretKey := "", baseName := none }

theorem percent_not_roundTrips :
    ¬ RoundTrips Ini.plainReader (.ascii fun _ => "") emptyStorage percentConfiguration "data" := by
  rintro ⟨fileText, after, hconfig, -⟩
  have herror : (emptyStorage.withMembers percentConfiguration.members).configString
      (.ascii fun _ => "") "data" = .error .valueError := rfl
  rw [herror] at hconfig
  cases hconfig

end RCloneStorage

end RenkuNotebooks.Notebooks
