import RenkuNotebooks.Notebooks.ServerNames

/-!
# Server names as names of services

Amalthea gives the name of a server to the Kubernetes service of its session. A user name is
escaped and put in lower case before it becomes a part of the name.
-/

namespace RenkuNotebooks.Notebooks

def isHexDigit (c : Char) : Bool := c.isDigit || ('a' ≤ c && c ≤ 'f')

/-- Lower-case ASCII letters and digits. -/
def isNameEnd (c : Char) : Bool := c.isLower || c.isDigit

def isNameChar (c : Char) : Bool := isNameEnd c || c = '-'

/-- The names that Kubernetes accepts for a service and Amalthea for its labels. -/
structure IsServiceName (name : String) : Prop where
  length_le : name.length ≤ 42
  chars : ∀ c ∈ name.toList, isNameChar c
  first : ∃ c rest, name.toList = c :: rest ∧ c.isLower
  last : ∃ c start, name.toList = start ++ [c] ∧ isNameEnd c

/-- The `safe_username` of `AnonymousUser` and `RegisteredUser`. -/
def safeUsernameOf (username : String) : String :=
  PyText.lower (ServerNames.escapeDash username)

namespace ServerNames

/-! ### Escaped texts -/

theorem upperHexDigit_isAlphanum : ∀ n < 16, (upperHexDigit n).isAlphanum := by
  decide

theorem upperHex_isAlphanum {byte : UInt8} {c : Char} (h : c ∈ upperHex byte) : c.isAlphanum := by
  have hbyte : byte.toNat < 256 := byte.toNat_lt
  unfold upperHex at h
  split at h
  · next hsmall =>
    rw [List.mem_singleton.mp h]
    exact upperHexDigit_isAlphanum _ hsmall
  · rcases List.mem_pair.mp h with rfl | rfl
    · exact upperHexDigit_isAlphanum _ (by omega)
    · exact upperHexDigit_isAlphanum _ (by omega)

theorem escapeDash_chars {s : String} {c : Char} (h : c ∈ (escapeDash s).toList) :
    c.isAlphanum ∨ c = '-' := by
  rw [escapeDash, String.toList_ofList] at h
  obtain ⟨d, -, hc⟩ := List.mem_flatMap.mp h
  split at hc
  · next hd =>
    rw [List.mem_singleton.mp hc]
    exact .inl hd
  · obtain ⟨byte, -, hc⟩ := List.mem_flatMap.mp hc
    rcases List.mem_cons.mp hc with rfl | hc
    · exact .inr rfl
    · exact .inl (upperHex_isAlphanum hc)

theorem isNameEnd_toLower {c : Char} (h : c.isAlphanum) : isNameEnd c.toLower := by
  unfold isNameEnd
  cases hupper : c.isUpper with
  | true =>
    have hbounds := PyText.isUpper_iff.mp hupper
    have hnat := PyText.toNat_toLower hupper
    have hlower : c.toLower.isLower = true := by
      rw [PyText.isLower_iff]
      omega
    rw [hlower, Bool.true_or]
  | false =>
    rw [PyText.toLower_of_not_upper hupper]
    delta Char.isAlphanum Char.isAlpha at h
    rwa [hupper, Bool.false_or] at h

theorem isAlphanum_of_isHexDigit {c : Char} (h : isHexDigit c) : c.isAlphanum := by
  simp only [isHexDigit, Bool.or_eq_true, Bool.and_eq_true, decide_eq_true_eq] at h
  rcases h with hdigit | ⟨ha, hf⟩
  · delta Char.isAlphanum
    rw [hdigit, Bool.or_true]
  · have hlower : c.isLower = true := by
      have ha' : 97 ≤ c.toNat := ha
      have hf' : c.toNat ≤ 102 := hf
      rw [PyText.isLower_iff]
      omega
    delta Char.isAlphanum Char.isAlpha
    rw [hlower, Bool.or_true, Bool.true_or]

/-- Part of an escaped text in lower case. -/
theorem isNameChar_lower {s : String} (hs : ∀ c ∈ s.toList, c.isAlphanum ∨ c = '-') :
    ∀ c ∈ (PyText.lower s).toList, isNameChar c := by
  intro c hc
  rw [PyText.toList_lower] at hc
  obtain ⟨d, hd, rfl⟩ := List.mem_map.mp hc
  rcases hs d hd with hd | rfl
  · rw [isNameChar, isNameEnd_toLower hd, Bool.true_or]
  · decide

theorem mem_takeText {n : Nat} {s : String} {c : Char} (h : c ∈ (takeText n s).toList) :
    c ∈ s.toList := by
  rw [takeText, String.toList_ofList] at h
  exact List.mem_of_mem_take h

theorem length_takeText_le (n : Nat) (s : String) : (takeText n s).length ≤ n := by
  rw [takeText, String.length_ofList]
  exact List.length_take_le n _

/-! ### The parts of a name -/

theorem not_upper_of_isNameChar {c : Char} (h : isNameChar c) : c.isUpper = false := by
  by_contra hupper
  rw [Bool.not_eq_false, PyText.isUpper_iff] at hupper
  simp only [isNameChar, isNameEnd, Bool.or_eq_true, decide_eq_true_eq, PyText.isLower_iff,
    Char.isDigit_iff_toNat] at h
  rcases h with (h | h) | rfl
  · omega
  · have hdigit : 48 ≤ c.toNat ∧ c.toNat ≤ 57 := h
    omega
  · revert hupper
    decide

theorem lower_of_isNameChar {s : String} (h : ∀ c ∈ s.toList, isNameChar c) :
    PyText.lower s = s := by
  apply String.ext
  rw [PyText.toList_lower]
  conv_rhs => rw [← List.map_id s.toList]
  apply List.map_congr_left
  intro c hc
  exact PyText.toLower_of_not_upper (not_upper_of_isNameChar (h c hc))

theorem isLower_of_isAlpha {c : Char} (h : isNameChar c) (halpha : c.isAlpha) : c.isLower := by
  delta Char.isAlpha at halpha
  rwa [not_upper_of_isNameChar h, Bool.false_or] at halpha

/-- What a name begins with: a letter, then letters, digits and dashes. -/
structure StartsName (s : String) : Prop where
  chars : ∀ c ∈ s.toList, isNameChar c
  first : ∃ c rest, s.toList = c :: rest ∧ c.isLower

theorem StartsName.take {s : String} (h : StartsName s) (n : Nat) :
    StartsName (takeText (n + 1) s) := by
  obtain ⟨c, rest, hs, hc⟩ := h.first
  refine ⟨fun d hd => h.chars d (mem_takeText hd), c, rest.take n, ?_, hc⟩
  rw [takeText, String.toList_ofList, hs, List.take_succ_cons]

theorem StartsName.append {s t : String} (h : StartsName s) (ht : ∀ c ∈ t.toList, isNameChar c) :
    StartsName (s ++ t) := by
  obtain ⟨c, rest, hs, hc⟩ := h.first
  refine ⟨fun d hd => ?_, c, rest ++ t.toList, ?_, hc⟩
  · rw [String.toList_append] at hd
    exact (List.mem_append.mp hd).elim (h.chars d) (ht d)
  · rw [String.toList_append, hs, List.cons_append]

/-- The letter in front of a user name makes it the start of a name. -/
theorem startsName_of_prefixed {safeUsername hstart : String}
    (hchars : ∀ c ∈ safeUsername.toList, isNameChar c)
    (h : makeServerNamePrefix safeUsername = .ok hstart) : StartsName hstart := by
  unfold makeServerNamePrefix at h
  dsimp only at h
  rw [lower_of_isNameChar hchars] at h
  split at h
  · cases h
  · next c rest hlist =>
    obtain rfl := Except.ok.inj h
    have hc : isNameChar c := hchars c (by rw [hlist]; exact List.mem_cons_self)
    split
    · next halpha => exact ⟨hchars, c, rest, hlist, isLower_of_isAlpha hc halpha⟩
    · have hn : StartsName "n" := ⟨PyText.forall_of_all (by decide), 'n', [], rfl, by decide⟩
      exact hn.append hchars

theorem makeServerNamePrefix_isOk {safeUsername : String} (hne : safeUsername ≠ "") :
    ∃ hstart, makeServerNamePrefix safeUsername = .ok hstart := by
  unfold makeServerNamePrefix
  dsimp only
  split
  · next hnil =>
    rw [PyText.toList_lower, List.map_eq_nil_iff] at hnil
    exact absurd (String.ext hnil) hne
  · exact ⟨_, rfl⟩

theorem isServiceName_of_startsName {s digest : String} (h : StartsName s) (hne : digest ≠ "")
    (hdigest : ∀ c ∈ digest.toList, isNameEnd c) (hlength : s.length + digest.length ≤ 42) :
    IsServiceName (s ++ digest) := by
  have hname : StartsName (s ++ digest) := h.append fun c hc => by
    rw [isNameChar, hdigest c hc, Bool.true_or]
  have hlist : digest.toList ≠ [] := fun hnil => hne (String.ext hnil)
  have hlast := List.dropLast_concat_getLast hlist
  refine ⟨?_, hname.chars, hname.first, digest.toList.getLast hlist,
    s.toList ++ digest.toList.dropLast, ?_, hdigest _ (List.getLast_mem hlist)⟩
  · rwa [String.length_append]
  · rw [String.toList_append, List.append_assoc, hlast]

/-- A name that ends in digits of the digest. -/
theorem isServiceName_of_digest {readable hexdigest : String} {n : Nat}
    (hreadable : StartsName readable) (hdigits : ∀ c ∈ hexdigest.toList, isHexDigit c)
    (hn : n + 1 ≤ hexdigest.length) (hlength : readable.length + 1 + (n + 1) ≤ 42) :
    IsServiceName (readable ++ "-" ++ takeText (n + 1) (PyText.lower hexdigest)) := by
  have hdigest := length_takeText_lower hn
  apply isServiceName_of_startsName (hreadable.append (PyText.forall_of_all (by decide)))
  · intro hnil
    rw [hnil] at hdigest
    cases hdigest
  · intro c hc
    have hc := mem_takeText hc
    rw [PyText.toList_lower] at hc
    obtain ⟨d, hd, rfl⟩ := List.mem_map.mp hc
    exact isNameEnd_toLower (isAlphanum_of_isHexDigit (hdigits d hd))
  · rw [String.length_append, hdigest]
    exact hlength

/-- Whatever the components of a session are, its name is one that Kubernetes accepts. -/
theorem makeServerName_isServiceName (library : NameLibrary) (hescape : library.escape = escapeDash)
    (hdigits : ∀ s, ∀ c ∈ (library.hexdigest s).toList, isHexDigit c) (username : String)
    (hne : safeUsernameOf username ≠ "") :
    (∀ session : Renku1Session, session.safeUsername = safeUsernameOf username →
      ∃ name, session.makeServerName library = .ok name ∧ IsServiceName name) ∧
    (∀ session : Renku2Session, session.safeUsername = safeUsernameOf username →
      ∃ name, session.makeServerName library = .ok name ∧ IsServiceName name) := by
  have hchars : ∀ c ∈ (safeUsernameOf username).toList, isNameChar c :=
    isNameChar_lower fun c hc => escapeDash_chars hc
  have hdash : ∀ c ∈ "-".toList, isNameChar c := PyText.forall_of_all (by decide)
  obtain ⟨hstart, hprefix⟩ := makeServerNamePrefix_isOk hne
  have hstarts : StartsName (takeText 12 hstart) := (startsName_of_prefixed hchars hprefix).take 11
  have hstartLength := length_takeText_le 12 hstart
  constructor
  · intro session husername
    have hproject : ∀ c ∈ (PyText.lower (takeText 20 (library.escape session.project))).toList,
        isNameChar c := by
      rw [hescape]
      exact isNameChar_lower fun c hc => escapeDash_chars (mem_takeText hc)
    have hprojectLength : (PyText.lower (takeText 20 (library.escape session.project))).length ≤ 20 := by
      rw [← String.length_toList, PyText.toList_lower, List.length_map, String.length_toList]
      exact length_takeText_le 20 _
    have hreadable : session.readable library = .ok (takeText 12 hstart ++ "-" ++
        PyText.lower (takeText 20 (library.escape session.project))) := by
      rw [Renku1Session.readable, husername, hprefix]
      rfl
    refine ⟨_, by rw [Renku1Session.makeServerName, hreadable]; rfl, ?_⟩
    apply isServiceName_of_digest ((hstarts.append hdash).append hproject) (hdigits _)
    · rw [library.length_hexdigest]
      omega
    · rw [String.length_append, String.length_append]
      change _ + 1 + _ + 1 + 8 ≤ 42
      omega
  · intro session husername
    have hreadable : session.readable = .ok (takeText 12 hstart ++ "-renku-2") := by
      rw [Renku2Session.readable, husername, hprefix]
      rfl
    refine ⟨_, by rw [Renku2Session.makeServerName, hreadable]; rfl, ?_⟩
    apply isServiceName_of_digest (hstarts.append (PyText.forall_of_all (by decide))) (hdigits _)
    · rw [library.length_hexdigest]
      omega
    · rw [String.length_append]
      change _ + 8 + 1 + 21 ≤ 42
      omega

def accentedProject : Renku1Session where
  safeUsername := safeUsernameOf "Éva"
  namespace_ := "group"
  project := "été 2024"
  branch := "main"
  commitSha := "0a1b2c"

theorem accentedProject_isServiceName :
    let library := sampleLibrary (fun _ => "339c0dd122a62efff474d9454ce755d5") fun _ => by decide
    ∃ name, accentedProject.makeServerName library = .ok name ∧ IsServiceName name := by
  intro library
  have hdigits : ∀ c ∈ "339c0dd122a62efff474d9454ce755d5".toList, isHexDigit c :=
    PyText.forall_of_all (by decide)
  exact (makeServerName_isServiceName library rfl (fun _ => hdigits) "Éva" (by decide +kernel)).1
    accentedProject rfl

end ServerNames

end RenkuNotebooks.Notebooks
