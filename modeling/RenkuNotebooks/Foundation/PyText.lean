import RenkuNotebooks.Foundation.Json

/-!
# Texts made by the Python standard library

`json.dumps`, `base64.b64encode` and `str` on the values that the program passes to them.
-/

namespace RenkuNotebooks.PyText

/-- `s.lower()` for texts of ASCII characters: names that were escaped, hexadecimal digests, paths
of JSON patches, words that git prints. For texts of any kind there is `Str.lower`. -/
def lower (s : String) : String := String.ofList (s.toList.map Char.toLower)

/-- `c.isspace()` -/
def isSpace (c : Char) : Bool :=
  c.toNat ∈ [9, 10, 11, 12, 13, 28, 29, 30, 31, 32, 133, 160, 5760, 8192, 8193, 8194, 8195, 8196,
    8197, 8198, 8199, 8200, 8201, 8202, 8232, 8233, 8239, 8287, 12288]

def stripChars (blank : Char → Bool) (cs : List Char) : List Char :=
  ((cs.dropWhile blank).reverse.dropWhile blank).reverse

/-- `s.strip()` -/
def strip (s : String) : String := String.ofList (stripChars isSpace s.toList)

/-- `sub in s` -/
def contains (s sub : String) : Bool := s.toList.tails.any (sub.toList.isPrefixOf ·)

/-- `s.split(sep)` on one character. -/
def splitChars (sep : Char) : List Char → List Char × List (List Char)
  | [] => ([], [])
  | c :: cs =>
    let (first, rest) := splitChars sep cs
    if c = sep then ([], first :: rest) else (c :: first, rest)

def split (s : String) (sep : Char) : List String :=
  let (first, rest) := splitChars sep s.toList
  (first :: rest).map String.ofList

/-- The line boundaries of `str.splitlines`, besides the pair of return and newline. -/
def isLineBoundary (c : Char) : Bool :=
  c.toNat ∈ [10, 11, 12, 13, 28, 29, 30, 133, 8232, 8233]

/-- The lines, with the one that is being read. -/
def splitlinesFrom (line : List Char) : List Char → List (List Char)
  | [] => if line = [] then [] else [line.reverse]
  | '\r' :: '\n' :: cs => line.reverse :: splitlinesFrom [] cs
  | c :: cs =>
    if isLineBoundary c then line.reverse :: splitlinesFrom [] cs
    else splitlinesFrom (c :: line) cs

def splitlines (s : String) : List String := (splitlinesFrom [] s.toList).map String.ofList

/-- A newline ends a line that other boundaries may have broken before. -/
theorem splitlinesFrom_append_newline {line cs : List Char} (h : '\r' ∉ cs) (rest : List Char) :
    splitlinesFrom line (cs ++ '\n' :: rest) =
      cs.splitOnPPrepend isLineBoundary line ++ splitlinesFrom [] rest := by
  induction cs generalizing line with
  | nil => rfl
  | cons c cs ih =>
    have hc : c ≠ '\r' := fun heq => h (heq ▸ List.mem_cons_self)
    have hcs : '\r' ∉ cs := fun hmem => h (List.mem_cons_of_mem _ hmem)
    rw [List.cons_append, splitlinesFrom.eq_3 line c _ fun _ heq _ => hc heq,
      List.splitOnPPrepend_cons_eq_if]
    split
    · rw [ih hcs, List.splitOnPPrepend_nil_right, List.cons_append]
    · exact ih hcs

theorem splitOnP_append {p : Char → Bool} {cs : List Char} (h : ∀ c ∈ cs, p c = false)
    (ds : List Char) : (cs ++ ds).splitOnP p = (ds.splitOnP p).modifyHead (cs ++ ·) := by
  induction cs with
  | nil =>
    rw [List.nil_append]
    cases ds.splitOnP p <;> rfl
  | cons c cs ih =>
    have hc := h c List.mem_cons_self
    have hcs := ih fun d hd => h d (List.mem_cons_of_mem _ hd)
    rw [List.cons_append, List.splitOnP_cons_eq_if_modifyHead, hcs, hc]
    cases ds.splitOnP p <;> rfl

theorem not_of_mem_splitOnP {p : Char → Bool} {cs piece : List Char}
    (h : piece ∈ cs.splitOnP p) : ∀ c ∈ piece, c ∈ cs ∧ p c = false := by
  induction cs generalizing piece with
  | nil =>
    rw [List.splitOnP_nil, List.mem_singleton] at h
    simp [h]
  | cons d cs ih =>
    rw [List.splitOnP_cons_eq_if_modifyHead] at h
    split at h
    · rcases List.mem_cons.mp h with rfl | h
      · simp
      · exact fun c hc => ⟨List.mem_cons_of_mem _ (ih h c hc).1, (ih h c hc).2⟩
    · rename_i hd
      obtain ⟨first, later, hsplit⟩ := List.exists_cons_of_ne_nil (List.splitOnP_ne_nil p cs)
      rw [hsplit] at h ih
      rcases List.mem_cons.mp h with rfl | h
      · intro c hc
        rcases List.mem_cons.mp hc with rfl | hc
        · exact ⟨List.mem_cons_self, by simpa using hd⟩
        · have hfirst := ih List.mem_cons_self c hc
          exact ⟨List.mem_cons_of_mem _ hfirst.1, hfirst.2⟩
      · have hlater := ih (List.mem_cons_of_mem _ h)
        exact fun c hc => ⟨List.mem_cons_of_mem _ (hlater c hc).1, (hlater c hc).2⟩

/-- What is computed for the characters of a text. -/
theorem forall_of_all {p : Char → Prop} [DecidablePred p] {cs : List Char}
    (h : cs.all (fun c => decide (p c)) = true) : ∀ c ∈ cs, p c :=
  fun c hc => of_decide_eq_true (List.all_eq_true.mp h c hc)

theorem splitChars_of_not_mem {sep : Char} {cs : List Char} (h : sep ∉ cs) :
    splitChars sep cs = (cs, []) := by
  induction cs with
  | nil => rfl
  | cons c cs ih =>
    have hc : c ≠ sep := fun heq => h (heq ▸ List.mem_cons_self)
    have hcs : sep ∉ cs := fun hmem => h (List.mem_cons_of_mem _ hmem)
    simp [splitChars, ih hcs, hc]

theorem splitChars_append_sep {sep : Char} {cs : List Char} (h : sep ∉ cs) (ds : List Char) :
    splitChars sep (cs ++ sep :: ds) = (cs, (splitChars sep ds).1 :: (splitChars sep ds).2) := by
  induction cs with
  | nil => simp [splitChars]
  | cons c cs ih =>
    have hc : c ≠ sep := fun heq => h (heq ▸ List.mem_cons_self)
    have hcs : sep ∉ cs := fun hmem => h (List.mem_cons_of_mem _ hmem)
    simp [splitChars, ih hcs, hc]

theorem not_mem_splitChars {sep : Char} {cs : List Char} :
    sep ∉ (splitChars sep cs).1 ∧ ∀ piece ∈ (splitChars sep cs).2, sep ∉ piece := by
  induction cs with
  | nil => simp [splitChars]
  | cons c cs ih =>
    by_cases hc : c = sep
    · simpa [splitChars, hc] using ih
    · simpa [splitChars, hc, Ne.symm hc] using ih

theorem not_mem_of_mem_split {sep : Char} {s piece : String} (h : piece ∈ split s sep) :
    sep ∉ piece.toList := by
  obtain ⟨cs, hcs, rfl⟩ := List.mem_map.mp h
  rw [String.toList_ofList]
  rcases List.mem_cons.mp hcs with rfl | hcs
  · exact not_mem_splitChars.1
  · exact not_mem_splitChars.2 cs hcs

theorem stripChars_of_no_blank {blank : Char → Bool} {cs : List Char}
    (h : ∀ c ∈ cs, blank c = false) : stripChars blank cs = cs := by
  have hdrop : ∀ {cs : List Char}, (∀ c ∈ cs, blank c = false) → cs.dropWhile blank = cs := by
    intro cs hcs
    cases cs with
    | nil => rfl
    | cons c cs => simp [List.dropWhile, hcs c List.mem_cons_self]
  have hreverse : ∀ c ∈ cs.reverse, blank c = false := fun c hc => h c (List.mem_reverse.mp hc)
  rw [stripChars, hdrop h, hdrop hreverse, List.reverse_reverse]

/-! ### Letters -/

theorem isUpper_iff {c : Char} : c.isUpper = true ↔ 65 ≤ c.toNat ∧ c.toNat ≤ 90 := by
  delta Char.isUpper
  rw [decide_eq_true_eq]
  rfl

theorem isLower_iff {c : Char} : c.isLower = true ↔ 97 ≤ c.toNat ∧ c.toNat ≤ 122 := by
  delta Char.isLower
  simp only [Bool.and_eq_true, decide_eq_true_eq]
  rfl

theorem toLower_of_not_upper {c : Char} (h : c.isUpper = false) : c.toLower = c := by
  delta Char.isUpper at h
  rw [decide_eq_false_iff_not] at h
  exact dif_neg h

theorem toNat_toLower {c : Char} (h : c.isUpper = true) : c.toLower.toNat = c.toNat + 32 := by
  have hbound := (isUpper_iff.mp h).2
  delta Char.isUpper at h
  rw [decide_eq_true_eq] at h
  have hlower : c.toLower.val = c.val + 32 := congrArg Char.val (dif_pos h)
  have hnat : (c.val + 32).toNat = (c.val.toNat + 32) % 2 ^ 32 := UInt32.toNat_add _ _
  change c.toLower.val.toNat = c.val.toNat + 32
  change c.val.toNat ≤ 90 at hbound
  rw [hlower, hnat]
  omega

theorem isAlpha_toLower (c : Char) : c.toLower.isAlpha = c.isAlpha := by
  cases hupper : c.isUpper with
  | false => rw [toLower_of_not_upper hupper]
  | true =>
    have hlower : c.toLower.isLower = true := by
      have hnat := toNat_toLower hupper
      have hbounds := isUpper_iff.mp hupper
      rw [isLower_iff]
      omega
    delta Char.isAlpha
    simp [hupper, hlower]

theorem toList_lower (s : String) : (lower s).toList = s.toList.map Char.toLower :=
  String.toList_ofList

/-! ### Texts of any kind -/

/-- Blanks and what is no letter in ASCII: no case is changed from one of them or to one. -/
def isCaseless (c : Char) : Bool := isSpace c || (c.toNat < 128 && !c.isAlpha)

/-- What is not modelled of `str`. -/
structure Str where
  /-- `str(value)` of what is neither a truth value nor a number nor a text. -/
  repr : Json → String
  /-- `s.lower()` -/
  lower : String → String
  /-- Characters without a case are kept, in their order. -/
  lower_caseless : ∀ s, (lower s).toList.filter isCaseless = s.toList.filter isCaseless
  /-- The first character that is changed is a letter, and becomes another one. -/
  lower_changes : ∀ s, lower s ≠ s → ∃ before c d rest rest',
    s.toList = before ++ c :: rest ∧ (lower s).toList = before ++ d :: rest' ∧ c ≠ d ∧
      isCaseless c = false ∧ isCaseless d = false

instance : CoeFun Str fun _ => Json → String := ⟨Str.repr⟩

theorem isCaseless_toLower (c : Char) : isCaseless c.toLower = isCaseless c := by
  cases hupper : c.isUpper with
  | false => rw [toLower_of_not_upper hupper]
  | true =>
    have halpha : c.isAlpha = true := by
      delta Char.isAlpha
      rw [hupper, Bool.true_or]
    have hbounds := isUpper_iff.mp hupper
    have hnat := toNat_toLower hupper
    have hspace : ∀ d : Char, 65 ≤ d.toNat → d.toNat ≤ 122 → isSpace d = false := by
      intro d hle hge
      simp only [isSpace, List.mem_cons, List.not_mem_nil, or_false, decide_eq_false_iff_not]
      omega
    have hboth : isSpace c.toLower = isSpace c := by
      rw [hspace c.toLower (by omega) (by omega), hspace c (by omega) (by omega)]
    unfold isCaseless
    rw [hboth, isAlpha_toLower, halpha]
    simp

theorem filter_map_toLower (cs : List Char) :
    (cs.map Char.toLower).filter isCaseless = cs.filter isCaseless := by
  induction cs with
  | nil => rfl
  | cons c cs ih =>
    rw [List.map_cons, List.filter_cons, List.filter_cons, isCaseless_toLower, ih]
    split
    next hcaseless =>
      have hupper : c.isUpper = false := by
        rw [Bool.eq_false_iff]
        intro hupper
        have halpha : c.isAlpha = true := by
          delta Char.isAlpha
          rw [hupper, Bool.true_or]
        have hbounds := isUpper_iff.mp hupper
        simp only [isCaseless, halpha, isSpace, List.mem_cons, List.not_mem_nil, or_false,
          Bool.not_true, Bool.and_false, Bool.or_false, decide_eq_true_eq] at hcaseless
        omega
      rw [toLower_of_not_upper hupper]
    next => rfl

theorem exists_changed {cs : List Char} (h : cs.map Char.toLower ≠ cs) :
    ∃ before c d rest rest', cs = before ++ c :: rest ∧ cs.map Char.toLower = before ++ d :: rest' ∧
      c ≠ d ∧ isCaseless c = false ∧ isCaseless d = false := by
  induction cs with
  | nil => exact absurd rfl h
  | cons c cs ih =>
    by_cases hc : c.toLower = c
    · have hcs : cs.map Char.toLower ≠ cs := fun heq => h (by rw [List.map_cons, hc, heq])
      obtain ⟨before, a, d, rest, rest', hbefore, hlower, hchanged⟩ := ih hcs
      refine ⟨c :: before, a, d, rest, rest', ?_, ?_, hchanged⟩
      · rw [hbefore, List.cons_append]
      · rw [List.map_cons, hc, hlower, List.cons_append]
    · have hcased : isCaseless c = false := by
        rw [Bool.eq_false_iff]
        intro hcaseless
        have hkept := filter_map_toLower [c]
        rw [List.map_singleton, List.filter_singleton, List.filter_singleton, isCaseless_toLower,
          hcaseless] at hkept
        exact hc (List.singleton_inj.mp hkept)
      exact ⟨[], c, c.toLower, cs, cs.map Char.toLower, rfl, rfl, fun heq => hc heq.symm, hcased,
        (isCaseless_toLower c).trans hcased⟩

/-- For ASCII texts. -/
def Str.ascii (repr : Json → String) : Str where
  repr := repr
  lower := PyText.lower
  lower_caseless s := by
    rw [toList_lower]
    exact filter_map_toLower s.toList
  lower_changes s h := by
    rw [toList_lower]
    refine exists_changed fun heq => h ?_
    rw [PyText.lower, heq, String.ofList_toList]

/-! ### Numbers -/

/-- `s.startswith(start)` -/
def startsWith (s start : String) : Bool := start.toList.isPrefixOf s.toList

/-- `s[n:]` -/
def after (n : Nat) (s : String) : String := String.ofList (s.toList.drop n)

/-- The zeros of the decimal digits of Unicode 14; the digits of one kind follow each other. -/
def decimalZeros : List Nat :=
  [0x30, 0x660, 0x6f0, 0x7c0, 0x966, 0x9e6, 0xa66, 0xae6, 0xb66, 0xbe6, 0xc66, 0xce6, 0xd66, 0xde6,
    0xe50, 0xed0, 0xf20, 0x1040, 0x1090, 0x17e0, 0x1810, 0x1946, 0x19d0, 0x1a80, 0x1a90, 0x1b50,
    0x1bb0, 0x1c40, 0x1c50, 0xa620, 0xa8d0, 0xa900, 0xa9d0, 0xa9f0, 0xaa50, 0xabf0, 0xff10, 0x104a0,
    0x10d30, 0x11066, 0x110f0, 0x11136, 0x111d0, 0x112f0, 0x11450, 0x114d0, 0x11650, 0x116c0,
    0x11730, 0x118e0, 0x11950, 0x11c50, 0x11d50, 0x11da0, 0x16a60, 0x16ac0, 0x16b50, 0x1d7ce,
    0x1d7d8, 0x1d7e2, 0x1d7ec, 0x1d7f6, 0x1e140, 0x1e2f0, 0x1e950, 0x1fbf0]

/-- A character as `int` reads it: decimal digits as ASCII digits, white space outside ASCII as
blanks. -/
def transformDecimal (c : Char) : Char :=
  if c.toNat < 127 then c
  else if isSpace c then ' '
  else
    match decimalZeros.find? fun first => first ≤ c.toNat ∧ c.toNat < first + 10 with
    | some first => Char.ofNat ('0'.toNat + (c.toNat - first))
    | none => '?'

/-- The white space that `int` skips. -/
def isCSpace (c : Char) : Bool := c.toNat ∈ [9, 10, 11, 12, 13, 32]

/-- The digits of a literal, in groups that single underscores separate. -/
def natLiteral (cs : List Char) : Option Nat :=
  let (first, rest) := splitChars '_' cs
  if (first :: rest).all fun group => group ≠ [] ∧ group.all Char.isDigit then
    some (Nat.ofDigitChars 10 (first :: rest).flatten 0)
  else none

/-- `int(s)` -/
def toInt (s : String) : Option Int :=
  match stripChars isCSpace (s.toList.map transformDecimal) with
  | '+' :: cs => (natLiteral cs).map Int.ofNat
  | '-' :: cs => (natLiteral cs).map Int.negOfNat
  | cs => (natLiteral cs).map Int.ofNat

theorem isDigit_of_mem_repr {n : Nat} {c : Char} (h : c ∈ n.repr.toList) : c.isDigit = true := by
  rw [Nat.toList_repr] at h
  exact Nat.isDigit_of_mem_toDigits (by omega) (by omega) h

theorem natLiteral_of_digits {cs : List Char} (hne : cs ≠ [])
    (hdigits : ∀ c ∈ cs, c.isDigit = true) :
    natLiteral cs = some (Nat.ofDigitChars 10 cs 0) := by
  have hunderscore : '_' ∉ cs := fun h => by
    have hdigit := hdigits _ h
    revert hdigit
    decide
  have hall : cs.all Char.isDigit = true := List.all_eq_true.mpr hdigits
  have hgroups : ([cs].all fun group => group ≠ [] ∧ group.all Char.isDigit) = true := by
    simp only [List.all_cons, List.all_nil, Bool.and_true, decide_eq_true_eq]
    exact ⟨hne, hall⟩
  rw [natLiteral, splitChars_of_not_mem hunderscore]
  exact (if_pos hgroups).trans (congrArg some (by rw [List.flatten_singleton]))

theorem transformDecimal_of_isDigit {c : Char} (h : c.isDigit = true) : transformDecimal c = c := by
  have hbounds : 48 ≤ c.toNat ∧ c.toNat ≤ 57 := Char.isDigit_iff_toNat.mp h
  exact if_pos (by omega)

theorem isCSpace_of_isDigit {c : Char} (h : c.isDigit = true) : isCSpace c = false := by
  have hbounds : 48 ≤ c.toNat ∧ c.toNat ≤ 57 := Char.isDigit_iff_toNat.mp h
  refine decide_eq_false fun hmem => ?_
  simp only [List.mem_cons, List.not_mem_nil, or_false] at hmem
  omega

theorem toInt_of_digits {s : String} (hne : s.toList ≠ [])
    (hdigits : ∀ c ∈ s.toList, c.isDigit = true) :
    toInt s = some (Nat.ofDigitChars 10 s.toList 0 : Int) := by
  have htransform : s.toList.map transformDecimal = s.toList :=
    (List.map_congr_left fun c hc => transformDecimal_of_isDigit (hdigits c hc)).trans
      (List.map_id' _)
  have hstrip : stripChars isCSpace s.toList = s.toList :=
    stripChars_of_no_blank fun c hc => isCSpace_of_isDigit (hdigits c hc)
  have hplus : ∀ cs, s.toList ≠ '+' :: cs := fun cs heq => by
    have hdigit := hdigits '+' (heq ▸ List.mem_cons_self)
    revert hdigit
    decide
  have hminus : ∀ cs, s.toList ≠ '-' :: cs := fun cs heq => by
    have hdigit := hdigits '-' (heq ▸ List.mem_cons_self)
    revert hdigit
    decide
  rw [toInt, htransform, hstrip]
  split
  · rename_i cs heq
    exact absurd heq (hplus cs)
  · rename_i cs heq
    exact absurd heq (hminus cs)
  · rw [natLiteral_of_digits hne hdigits, Option.map_some]
    rfl

theorem toInt_repr (n : Nat) : toInt n.repr = some (n : Int) := by
  have hne : n.repr.toList ≠ [] := by
    rw [Nat.toList_repr]
    exact Nat.toDigits_ne_nil
  rw [toInt_of_digits hne fun c hc => isDigit_of_mem_repr hc, Nat.toList_repr,
    Nat.ofDigitChars_ten_toDigits]

def hexDigit (n : Nat) : Char :=
  if n < 10 then Char.ofNat ('0'.toNat + n) else Char.ofNat ('a'.toNat + (n - 10))

def unicodeEscape (n : Nat) : List Char :=
  ['\\', 'u', hexDigit (n / 4096 % 16), hexDigit (n / 256 % 16), hexDigit (n / 16 % 16),
    hexDigit (n % 16)]

/-- Everything outside the printable ASCII characters is escaped, above the basic plane as a
surrogate pair. -/
def escapeChar (c : Char) : List Char :=
  if c = '"' then ['\\', '"']
  else if c = '\\' then ['\\', '\\']
  else if c = '\n' then ['\\', 'n']
  else if c = '\r' then ['\\', 'r']
  else if c = '\t' then ['\\', 't']
  else if c.toNat = 12 then ['\\', 'f']
  else if c.toNat = 8 then ['\\', 'b']
  else if 32 ≤ c.toNat ∧ c.toNat ≤ 126 then [c]
  else if c.toNat < 65536 then unicodeEscape c.toNat
  else unicodeEscape (55296 + (c.toNat - 65536) / 1024) ++
    unicodeEscape (56320 + (c.toNat - 65536) % 1024)

def dumpsString (s : String) : String :=
  "\"" ++ String.ofList (s.toList.flatMap escapeChar) ++ "\""

section Dumps

variable (pyRepr : Json → String)

mutual
/-- `json.dumps` with its default separators. -/
def dumps : Json → String
  | .null => "null"
  | .bool b => if b then "true" else "false"
  | .int n => toString n
  | .float q => pyRepr (.float q)
  | .str s => dumpsString s
  | .arr xs => "[" ++ dumpsElems xs ++ "]"
  | .obj ms => "\x7b" ++ dumpsMembers ms ++ "\x7d"

def dumpsElems : List Json → String
  | [] => ""
  | [x] => dumps x
  | x :: y :: xs => dumps x ++ ", " ++ dumpsElems (y :: xs)

def dumpsMembers : List (String × Json) → String
  | [] => ""
  | [(k, x)] => dumpsString k ++ ": " ++ dumps x
  | (k, x) :: m :: ms => dumpsString k ++ ": " ++ dumps x ++ ", " ++ dumpsMembers (m :: ms)
end

end Dumps

/-! ### Base64 -/

def base64Digit (n : Nat) : Char :=
  if n < 26 then Char.ofNat ('A'.toNat + n)
  else if n < 52 then Char.ofNat ('a'.toNat + (n - 26))
  else if n < 62 then Char.ofNat ('0'.toNat + (n - 52))
  else if n = 62 then '+'
  else '/'

def b64encodeBytes : List UInt8 → List Char
  | [] => []
  | [a] =>
    [base64Digit (a.toNat / 4), base64Digit (a.toNat % 4 * 16), '=', '=']
  | [a, b] =>
    [base64Digit (a.toNat / 4), base64Digit (a.toNat % 4 * 16 + b.toNat / 16),
      base64Digit (b.toNat % 16 * 4), '=']
  | a :: b :: c :: rest =>
    base64Digit (a.toNat / 4) :: base64Digit (a.toNat % 4 * 16 + b.toNat / 16) ::
      base64Digit (b.toNat % 16 * 4 + c.toNat / 64) :: base64Digit (c.toNat % 64) ::
      b64encodeBytes rest

/-- `base64.b64encode(s.encode()).decode()` -/
def b64encode (s : String) : String := String.ofList (b64encodeBytes s.toUTF8.toList)

end RenkuNotebooks.PyText
