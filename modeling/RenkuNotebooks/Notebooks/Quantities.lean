import RenkuNotebooks.Foundation.PyText
import RenkuNotebooks.Notebooks.CustomFields

/-!
# Quantities of Kubernetes

The fields for cpu and for bytes beside the quantities of Kubernetes, whose format they promise.
-/

namespace RenkuNotebooks.Notebooks.Quantities

open CustomFields Regex

/-! ### Quantities -/

/-- Digits around a point that may be left out, on one side of it at least. -/
inductive IsNumber : List Char → ℚ → Prop
  | whole {digits : List Char} : digits ≠ [] → (∀ c ∈ digits, c.isDigit = true) →
    IsNumber digits (Nat.ofDigitChars 10 digits 0 : ℕ)
  | point {digits fraction : List Char} : digits ++ fraction ≠ [] →
    (∀ c ∈ digits, c.isDigit = true) → (∀ c ∈ fraction, c.isDigit = true) →
    IsNumber (digits ++ '.' :: fraction)
      ((Nat.ofDigitChars 10 (digits ++ fraction) 0 : ℕ) / 10 ^ fraction.length)

inductive Sign where
  | none | plus | minus
  deriving DecidableEq

def Sign.text : Sign → List Char
  | .none => []
  | .plus => ['+']
  | .minus => ['-']

def Sign.factor : Sign → ℤ
  | .none | .plus => 1
  | .minus => -1

inductive Suffix where
  | nano | micro | milli | one | kilo | mega | giga | tera | peta | exa
  | kibi | mebi | gibi | tebi | pebi | exbi
  | exponent (capital : Bool) (sign : Sign) (digits : List Char) (hne : digits ≠ [])
    (hdigits : ∀ c ∈ digits, c.isDigit = true)

def Suffix.text : Suffix → List Char
  | .nano => ['n']
  | .micro => ['u']
  | .milli => ['m']
  | .one => []
  | .kilo => ['k']
  | .mega => ['M']
  | .giga => ['G']
  | .tera => ['T']
  | .peta => ['P']
  | .exa => ['E']
  | .kibi => ['K', 'i']
  | .mebi => ['M', 'i']
  | .gibi => ['G', 'i']
  | .tebi => ['T', 'i']
  | .pebi => ['P', 'i']
  | .exbi => ['E', 'i']
  | .exponent capital sign digits _ _ => (if capital then 'E' else 'e') :: (sign.text ++ digits)

def Suffix.factor : Suffix → ℚ
  | .nano => 1 / 1000 ^ 3
  | .micro => 1 / 1000 ^ 2
  | .milli => 1 / 1000
  | .one => 1
  | .kilo => 1000
  | .mega => 1000 ^ 2
  | .giga => 1000 ^ 3
  | .tera => 1000 ^ 4
  | .peta => 1000 ^ 5
  | .exa => 1000 ^ 6
  | .kibi => 1024
  | .mebi => 1024 ^ 2
  | .gibi => 1024 ^ 3
  | .tebi => 1024 ^ 4
  | .pebi => 1024 ^ 5
  | .exbi => 1024 ^ 6
  | .exponent _ sign digits _ _ => 10 ^ (sign.factor * (Nat.ofDigitChars 10 digits 0 : ℕ))

structure Quantity where
  sign : Sign
  number : List Char
  magnitude : ℚ
  isNumber : IsNumber number magnitude
  suffix : Suffix

def Quantity.text (x : Quantity) : String :=
  String.ofList (x.sign.text ++ (x.number ++ x.suffix.text))

def Quantity.value (x : Quantity) : ℚ := x.sign.factor * (x.magnitude * x.suffix.factor)

/-! ### The fields with any arithmetic -/

section

variable (float : ℚ → Option ℚ) (pyRepr : Json → String)

/-- `readFloat` where `float` gives what a float holds. -/
def readNumber (num : String) : Option (Option ℚ) := (decimal num.toList).map float

def cpuFieldWith (value : Json) : Except ReadError (Option ℚ) := do
  let value ← notNull value
  match cpuRegex.matchGroups (CustomFields.pyStr pyRepr value).toList with
  | none => validationError ("Unexpected format for cpu, must match regex " ++ cpuText ++ ".")
  | some groups =>
    match readNumber float (groupText "1" groups) with
    | none =>
      validationError
        ("Cannot convert " ++ groupText "1" groups ++ " to float as fractional cores.")
    | some num =>
      if groupText "2" groups = "m" then .ok (num.bind fun q => float (q / 1000))
      else .ok num

def byteSizeFieldWith (value : Json) : Except ReadError ℤ := do
  let value ← notNull value
  match byteSizeRegex.matchGroups (CustomFields.pyStr pyRepr value).toList with
  | none =>
    validationError ("Unexpected format for memory, must match regex " ++ byteSizeText ++ ".")
  | some groups =>
    let unit := groupText "2" groups
    let factor := toBytesConversion.lookup (PyText.lower unit)
    if unit ≠ "" ∧ factor.isNone then
      validationError ("Cannot recognize unit " ++ unit ++ " for memory or disk space.")
    else
      match readNumber float (groupText "1" groups) with
      | none => validationError ("Cannot convert " ++ groupText "1" groups ++ " to float.")
      | some num =>
        match num.bind fun q => float (q * (factor.getD 1 : ℕ)) with
        | none => .error .overflowError
        | some bytes => .ok (Double.roundHalfEven bytes)

end

/-- The fields are these with the arithmetic of floats. -/
theorem cpuField_eq (pyRepr : Json → String) (value : Json) :
    cpuField pyRepr value = cpuFieldWith Double.nearest pyRepr value := by
  unfold cpuField cpuFieldWith
  refine congrArg (notNull value >>= ·) (funext fun value => ?_)
  cases cpuRegex.matchGroups (CustomFields.pyStr pyRepr value).toList with
  | none => rfl
  | some groups => rfl

theorem byteSizeField_eq (pyRepr : Json → String) (value : Json) :
    byteSizeField pyRepr value = byteSizeFieldWith Double.nearest pyRepr value := by
  unfold byteSizeField byteSizeFieldWith
  refine congrArg (notNull value >>= ·) (funext fun value => ?_)
  cases byteSizeRegex.matchGroups (CustomFields.pyStr pyRepr value).toList with
  | none => rfl
  | some groups => rfl

/-! ### What the regular expressions find -/

def isNumberChar (c : Char) : Bool := c.isDigit || c = '.'

/-- A number and a unit, as the regular expressions of the fields have them. -/
def fieldRegex (unit : Regex) : Regex :=
  seq [.start, .notBehind (· = '-'), .group "1" number, .group "2" unit, .finish]

def cpuUnit : Regex := optional (.char (· = 'm'))

def byteSizeUnit : Regex := seq [.behind (fun c => c.isDigit || c = '.'), star isUnitChar]

theorem mem_search_number {past cs : List Char} {next : Cursor} {groups : Groups}
    (h : (next, groups) ∈ number.search ⟨past, cs⟩) : ∃ num rest,
      (∀ c ∈ num, isNumberChar c = true) ∧ cs = num ++ rest ∧ Passes past num rest next groups := by
  have hdigit : ∀ {c : Char}, c.isDigit = true → isNumberChar c = true := fun hc => by
    rw [isNumberChar, hc, Bool.true_or]
  obtain ⟨_, _, _, hwhole, hlater, rfl⟩ := mem_search_both.mp h
  obtain ⟨_, _, _, hpoint, hlast, rfl⟩ := mem_search_both.mp hlater
  obtain ⟨_, _, _, hfraction, hempty, rfl⟩ := mem_search_both.mp hlast
  obtain ⟨whole, rest, hdigits, rfl, rfl, rfl⟩ := mem_search_star.mp hwhole
  obtain ⟨rfl, rfl⟩ := mem_search_empty.mp hempty
  rcases mem_search_either.mp hpoint with hpoint | hpoint
  · obtain ⟨c, rest, hc, rfl, rfl, rfl⟩ := mem_search_char.mp hpoint
    obtain ⟨fraction, rest, hdigits', rfl, rfl, rfl⟩ := mem_search_star.mp hfraction
    refine ⟨whole ++ c :: fraction, rest, ?_, by simp, by simp, rfl⟩
    intro d hd
    rcases List.mem_append.mp hd with hd | hd
    · exact hdigit (hdigits d hd)
    rcases List.mem_cons.mp hd with rfl | hd
    · rw [isNumberChar, hc, Bool.or_true]
    · exact hdigit (hdigits' d hd)
  · obtain ⟨rfl, rfl⟩ := mem_search_empty.mp hpoint
    obtain ⟨fraction, rest, hdigits', rfl, rfl, rfl⟩ := mem_search_star.mp hfraction
    refine ⟨whole ++ fraction, rest, ?_, by simp, by simp, rfl⟩
    intro d hd
    rcases List.mem_append.mp hd with hd | hd
    · exact hdigit (hdigits d hd)
    · exact hdigit (hdigits' d hd)

theorem search_number {num : List Char} {q : ℚ} (h : IsNumber num q) (past rest : List Char) :
    (⟨num.reverse ++ past, rest⟩, []) ∈ number.search ⟨past, num ++ rest⟩ := by
  cases h with
  | whole hne hdigits =>
    exact mem_search_both.mpr ⟨_, [], [],
      mem_search_star.mpr ⟨num, rest, hdigits, rfl, rfl, rfl⟩, mem_search_both.mpr ⟨_, [], [],
      mem_search_either.mpr (.inr (mem_search_empty.mpr ⟨rfl, rfl⟩)), mem_search_both.mpr
      ⟨_, [], [], mem_search_star.mpr ⟨[], rest, List.forall_mem_nil _, rfl, rfl, rfl⟩,
      mem_search_empty.mpr ⟨rfl, rfl⟩, rfl⟩, rfl⟩, rfl⟩
  | @point digits fraction _ hdigits hfraction =>
    refine mem_search_both.mpr ⟨_, [], [], mem_search_star.mpr
      ⟨digits, '.' :: (fraction ++ rest), hdigits, by simp, rfl, rfl⟩, mem_search_both.mpr
      ⟨_, [], [], mem_search_either.mpr (.inl (mem_search_char.mpr
        ⟨'.', fraction ++ rest, by decide, rfl, rfl, rfl⟩)), mem_search_both.mpr
      ⟨_, [], [], mem_search_star.mpr ⟨fraction, rest, hfraction, rfl, rfl, rfl⟩,
      mem_search_empty.mpr ⟨by simp, rfl⟩, rfl⟩, rfl⟩, rfl⟩

/-- What a field finds in a text are a number, a unit, and perhaps a line feed after them. -/
theorem matchGroups_fieldRegex {unitRegex : Regex} {IsUnit : List Char → Prop}
    (hunit : ∀ past cs next groups, (next, groups) ∈ unitRegex.search ⟨past, cs⟩ →
      ∃ unit rest, IsUnit unit ∧ cs = unit ++ rest ∧ Passes past unit rest next groups)
    {cs : List Char} {groups : Groups} (h : (fieldRegex unitRegex).matchGroups cs = some groups) :
    ∃ num unit rest, (∀ c ∈ num, isNumberChar c = true) ∧ IsUnit unit ∧ AtEnd rest ∧
      cs = num ++ (unit ++ rest) ∧
        groups = [("1", String.ofList num), ("2", String.ofList unit)] := by
  obtain ⟨last, hmem⟩ := mem_of_matchGroups h
  obtain ⟨_, _, _, hstart, hmem₁, rfl⟩ := mem_search_both.mp hmem
  obtain ⟨rfl, rfl⟩ := mem_search_start.mp hstart
  obtain ⟨_, _, _, hbehind, hmem₂, rfl⟩ := mem_search_both.mp hmem₁
  obtain ⟨rfl, rfl⟩ := mem_search_notBehind.mp hbehind
  obtain ⟨_, _, _, hfirst, hmem₃, rfl⟩ := mem_search_both.mp hmem₂
  obtain ⟨_, hnumber, rfl⟩ := mem_search_group.mp hfirst
  obtain ⟨num, rest, hnum, rfl, rfl, rfl⟩ := mem_search_number hnumber
  obtain ⟨_, _, _, hsecond, hmem₄, rfl⟩ := mem_search_both.mp hmem₃
  obtain ⟨_, hgroup, rfl⟩ := mem_search_group.mp hsecond
  obtain ⟨unit, rest, hunit, rfl, rfl, rfl⟩ := hunit _ _ _ _ hgroup
  obtain ⟨_, _, _, hfinish, hmem₅, rfl⟩ := mem_search_both.mp hmem₄
  obtain ⟨hend, rfl, rfl⟩ := mem_search_finish.mp hfinish
  obtain ⟨rfl, rfl⟩ := mem_search_empty.mp hmem₅
  refine ⟨num, unit, rest, hnum, hunit, hend, rfl, ?_⟩
  rw [between_append, between_append]
  rfl

theorem exists_matchGroups {unitRegex : Regex} {num unit : List Char} {q : ℚ}
    (hnum : IsNumber num q)
    (hunit : (⟨unit.reverse ++ (num.reverse ++ []), []⟩, []) ∈
      unitRegex.search ⟨num.reverse ++ [], unit⟩) :
    ∃ groups, (fieldRegex unitRegex).matchGroups (num ++ unit) = some groups := by
  exact Option.isSome_iff_exists.mp (matchGroups_isSome_iff.mpr ⟨_, _, mem_search_both.mpr
    ⟨_, _, _, mem_search_start.mpr ⟨rfl, rfl⟩, mem_search_both.mpr
    ⟨_, _, _, mem_search_notBehind.mpr ⟨rfl, rfl⟩, mem_search_both.mpr ⟨_, _, _,
    mem_search_group.mpr ⟨[], search_number hnum [] unit, rfl⟩, mem_search_both.mpr ⟨_, _, _,
    mem_search_group.mpr ⟨[], hunit, rfl⟩, mem_search_both.mpr ⟨_, _, _,
    mem_search_finish.mpr ⟨.inl rfl, rfl, rfl⟩, mem_search_empty.mpr ⟨rfl, rfl⟩, rfl⟩, rfl⟩, rfl⟩,
    rfl⟩, rfl⟩⟩)

theorem mem_search_cpuUnit (past cs : List Char) (next : Cursor) (groups : Groups)
    (h : (next, groups) ∈ cpuUnit.search ⟨past, cs⟩) : ∃ unit rest,
      (unit = [] ∨ unit = ['m']) ∧ cs = unit ++ rest ∧ Passes past unit rest next groups := by
  rcases mem_search_either.mp h with h | h
  · obtain ⟨c, rest, hc, rfl, hpasses⟩ := mem_search_char.mp h
    obtain rfl : c = 'm' := of_decide_eq_true hc
    exact ⟨['m'], rest, .inr rfl, rfl, hpasses⟩
  · exact ⟨[], cs, .inl rfl, rfl, mem_search_empty.mp h⟩

theorem cpuUnit_chars (unit : List Char) (h : unit = [] ∨ unit = ['m']) :
    ∀ c ∈ unit, isUnitChar c = true := by
  rcases h with rfl | rfl
  · exact List.forall_mem_nil _
  · exact List.forall_mem_singleton.mpr (by decide)

theorem mem_search_byteSizeUnit (past cs : List Char) (next : Cursor) (groups : Groups)
    (h : (next, groups) ∈ byteSizeUnit.search ⟨past, cs⟩) : ∃ unit rest,
      (∀ c ∈ unit, isUnitChar c = true) ∧ cs = unit ++ rest ∧
        Passes past unit rest next groups := by
  obtain ⟨_, _, _, hbehind, hlater, rfl⟩ := mem_search_both.mp h
  obtain ⟨-, rfl, rfl⟩ := mem_search_behind.mp hbehind
  obtain ⟨_, _, _, hstar, hempty, rfl⟩ := mem_search_both.mp hlater
  obtain ⟨rfl, rfl⟩ := mem_search_empty.mp hempty
  obtain ⟨unit, rest, hunit, rfl, hnext, rfl⟩ := mem_search_star.mp hstar
  exact ⟨unit, rest, hunit, rfl, hnext, rfl⟩

/-! ### Quantities that a field takes -/

theorem unitChar_not_number {c : Char} (hc : isUnitChar c = true) : isNumberChar c = false := by
  have hall : ∀ c ∈ "EPTGMKeptgmkbBi".toList, isNumberChar c = false :=
    PyText.forall_of_all (by decide)
  exact hall c (of_decide_eq_true hc)

theorem IsNumber.numberChars {num : List Char} {q : ℚ} (h : IsNumber num q) :
    ∀ c ∈ num, isNumberChar c = true := by
  intro c hc
  cases h with
  | whole _ hdigits => rw [isNumberChar, hdigits c hc, Bool.true_or]
  | point _ hdigits hfraction =>
    rcases List.mem_append.mp hc with hc | hc
    · rw [isNumberChar, hdigits c hc, Bool.true_or]
    rcases List.mem_cons.mp hc with rfl | hc
    · rfl
    · rw [isNumberChar, hfraction c hc, Bool.true_or]

theorem IsNumber.nonneg {num : List Char} {q : ℚ} (h : IsNumber num q) : 0 ≤ q := by
  cases h with
  | whole _ _ => positivity
  | point _ _ _ => positivity

theorem decimal_of_number {num : List Char} {q : ℚ} (h : IsNumber num q) :
    decimal num = some q := by
  cases h with
  | whole hne hdigits =>
    obtain ⟨htake, hdrop⟩ := takeWhile_all hdigits
    simp [decimal, htake, hdrop, hne]
  | @point digits fraction hne hdigits hfraction =>
    obtain ⟨htake, hdrop⟩ := takeWhile_point hdigits fraction
    have hsome : ¬ (digits = [] ∧ fraction = []) := fun h => hne (List.append_eq_nil_iff.mpr h)
    simp [decimal, htake, hdrop, hsome]

theorem Suffix.head_text (x : Suffix) : ∀ c ∈ x.text.head?, isNumberChar c = false := by
  cases x with
  | exponent capital sign digits hne hdigits =>
    cases capital
    · exact fun c hc => by cases hc; decide
    · exact fun c hc => by cases hc; decide
  | one => exact fun c hc => by cases hc
  | _ => exact fun c hc => by cases hc; decide

theorem Suffix.newline_notMem (x : Suffix) : '\n' ∉ x.text := by
  cases x with
  | exponent capital sign digits hne hdigits =>
    rw [Suffix.text, List.mem_cons, List.mem_append]
    rintro (h | h | h)
    · cases capital <;> exact absurd h (by decide)
    · cases sign <;> exact absurd h (by decide)
    · exact absurd (hdigits _ h) (by decide)
  | _ => decide

theorem Suffix.eq_one_of_text {x : Suffix} (h : x.text = []) : x = .one := by
  cases x with
  | one => rfl
  | _ => cases h

theorem Suffix.eq_milli_of_text {x : Suffix} (h : x.text = ['m']) : x = .milli := by
  cases x with
  | milli => rfl
  | exponent capital sign digits hne hdigits =>
    have hhead := (List.cons.inj h).1
    cases capital <;> exact absurd hhead (by decide)
  | _ => exact absurd h (by decide)

/-- A text is taken apart in one way into a number and what follows it. -/
theorem number_unique {p : Char → Bool} {a b a' b' : List Char} (ha : ∀ c ∈ a, p c = true)
    (ha' : ∀ c ∈ a', p c = true) (hb : ∀ c ∈ b.head?, p c = false)
    (hb' : ∀ c ∈ b'.head?, p c = false) (h : a ++ b = a' ++ b') : a = a' ∧ b = b' := by
  have hnil : ∀ {b : List Char}, (∀ c ∈ b.head?, p c = false) → b.takeWhile p = [] := by
    intro b hb
    cases b with
    | nil => rfl
    | cons c b => exact List.takeWhile_cons_of_neg (by simp [hb c rfl])
  have htake := congrArg (List.takeWhile p) h
  rw [List.takeWhile_append_of_pos ha, List.takeWhile_append_of_pos ha', hnil hb, hnil hb',
    List.append_nil, List.append_nil] at htake
  subst htake
  exact ⟨rfl, List.append_cancel_left h⟩

section

variable {unitRegex : Regex} {IsUnit : List Char → Prop} {x : Quantity} {groups : Groups}

/-- A quantity that a field takes has no sign, and its suffix is a unit of the field. -/
theorem groups_of_quantity
    (hfind : ∀ past cs next groups, (next, groups) ∈ unitRegex.search ⟨past, cs⟩ →
      ∃ unit rest, IsUnit unit ∧ cs = unit ++ rest ∧ Passes past unit rest next groups)
    (hchars : ∀ unit, IsUnit unit → ∀ c ∈ unit, isUnitChar c = true)
    (h : (fieldRegex unitRegex).matchGroups x.text.toList = some groups) :
    (x.sign = .none ∧ IsUnit x.suffix.text ∧
      groups = [("1", String.ofList x.number), ("2", String.ofList x.suffix.text)]) ∨
      (x.sign ≠ .none ∧ groupText "1" groups = "") := by
  obtain ⟨num, unit, rest, hnum, hunit, hend, heq, rfl⟩ := matchGroups_fieldRegex hfind h
  rw [Quantity.text, String.toList_ofList] at heq
  have hnone : ∀ c ∈ x.sign.text.head?, num = [] := by
    intro c hc
    have hsign : isNumberChar c = false := by
      cases hx : x.sign <;> rw [hx] at hc <;> cases hc <;> rfl
    cases num with
    | nil => rfl
    | cons d num =>
      have hhead : c = d := by
        cases hx : x.sign <;> rw [hx] at hc heq <;> cases hc <;> exact (List.cons.inj heq).1
      rw [hhead, hnum d List.mem_cons_self] at hsign
      cases hsign
  cases hsign : x.sign with
  | plus =>
    have hnum : num = [] := hnone '+' (by rw [hsign]; rfl)
    exact .inr ⟨nofun, by rw [hnum]; rfl⟩
  | minus =>
    have hnum : num = [] := hnone '-' (by rw [hsign]; rfl)
    exact .inr ⟨nofun, by rw [hnum]; rfl⟩
  | none =>
    left
    rw [hsign] at heq
    have hrest : ∀ c ∈ (unit ++ rest).head?, isNumberChar c = false := by
      intro c hc
      cases unit with
      | nil =>
        rcases hend with rfl | rfl
        · cases hc
        · cases hc
          rfl
      | cons d unit =>
        obtain rfl : d = c := by simpa using hc
        exact unitChar_not_number (hchars _ hunit d List.mem_cons_self)
    obtain ⟨hnumber, hsuffix⟩ :=
      number_unique x.isNumber.numberChars hnum x.suffix.head_text hrest heq
    have hnil : rest = [] := by
      rcases hend with rfl | rfl
      · rfl
      · refine absurd ?_ x.suffix.newline_notMem
        rw [hsuffix]
        exact List.mem_append_right _ (List.mem_singleton_self _)
    rw [hnil, List.append_nil] at hsuffix
    rw [hnumber, hsuffix]
    exact ⟨rfl, hunit, rfl⟩

end

/-! ### What the fields make of quantities -/

theorem readNumber_empty (float : ℚ → Option ℚ) : readNumber float "" = none := rfl

theorem Quantity.readNumber_eq (x : Quantity) :
    readNumber some (String.ofList x.number) = some (some x.magnitude) := by
  rw [readNumber, String.toList_ofList, decimal_of_number x.isNumber]
  rfl

section

variable {pyRepr : Json → String}

theorem cpuFieldWith_ok {float : ℚ → Option ℚ} {s : String} {q : Option ℚ}
    (h : cpuFieldWith float pyRepr (.str s) = .ok q) :
    ∃ groups num, cpuRegex.matchGroups s.toList = some groups ∧
      readNumber float (groupText "1" groups) = some num ∧
      q = if groupText "2" groups = "m" then num.bind fun q => float (q / 1000) else num := by
  have hvalue : notNull (.str s) = .ok (.str s) := rfl
  simp only [cpuFieldWith, hvalue, bind, Except.bind, CustomFields.pyStr] at h
  cases hgroups : cpuRegex.matchGroups s.toList with
  | none =>
    rw [hgroups] at h
    cases h
  | some groups =>
    rw [hgroups] at h
    dsimp only at h
    cases hnum : readNumber float (groupText "1" groups) with
    | none =>
      rw [hnum] at h
      cases h
    | some num =>
      rw [hnum] at h
      dsimp only at h
      refine ⟨groups, num, rfl, hnum, ?_⟩
      split at h
      next hunit => rw [if_pos hunit, Except.ok.inj h]
      next hunit => rw [if_neg hunit, Except.ok.inj h]

variable {s : String} {groups : Groups}

/-- The field in exact arithmetic, once the text is taken apart. -/
theorem byteSizeFieldWith_some (hgroups : byteSizeRegex.matchGroups s.toList = some groups) {q : ℚ}
    (hnum : readNumber some (groupText "1" groups) = some (some q))
    (hunit : groupText "2" groups = "" ∨
      (toBytesConversion.lookup (PyText.lower (groupText "2" groups))).isSome = true) :
    byteSizeFieldWith some pyRepr (.str s) = .ok (Double.roundHalfEven
      (q * ((toBytesConversion.lookup (PyText.lower (groupText "2" groups))).getD 1 : ℕ))) := by
  have hvalue : notNull (.str s) = .ok (.str s) := rfl
  have hgood : ¬ (groupText "2" groups ≠ "" ∧
      (toBytesConversion.lookup (PyText.lower (groupText "2" groups))).isNone = true) := by
    rintro ⟨hne, hnone⟩
    rcases hunit with hempty | hsome
    · exact hne hempty
    · rw [Option.isNone_iff_eq_none] at hnone
      rw [hnone] at hsome
      cases hsome
  simp only [byteSizeFieldWith, hvalue, bind, Except.bind, CustomFields.pyStr, hgroups]
  rw [if_neg hgood, hnum]
  rfl

theorem byteSizeFieldWith_ok {n : ℤ} (h : byteSizeFieldWith some pyRepr (.str s) = .ok n) :
    ∃ groups num, byteSizeRegex.matchGroups s.toList = some groups ∧
      (groupText "2" groups = "" ∨
        (toBytesConversion.lookup (PyText.lower (groupText "2" groups))).isSome = true) ∧
      readNumber some (groupText "1" groups) = some num := by
  have hvalue : notNull (.str s) = .ok (.str s) := rfl
  simp only [byteSizeFieldWith, hvalue, bind, Except.bind, CustomFields.pyStr] at h
  cases hgroups : byteSizeRegex.matchGroups s.toList with
  | none =>
    rw [hgroups] at h
    cases h
  | some groups =>
    rw [hgroups] at h
    dsimp only at h
    split at h
    · cases h
    next hgood =>
      cases hnum : readNumber some (groupText "1" groups) with
      | none =>
        rw [hnum] at h
        cases h
      | some num =>
        refine ⟨groups, num, rfl, ?_, hnum⟩
        by_cases hempty : groupText "2" groups = ""
        · exact .inl hempty
        · refine .inr ?_
          rw [← Option.not_isNone, Bool.not_eq_true', ← Bool.not_eq_true]
          exact fun hnone => hgood ⟨hempty, hnone⟩

variable {x : Quantity}

/-- In the cpu field every quantity has the value that Kubernetes gives it. -/
theorem cpuFieldWith_quantity {q : Option ℚ}
    (h : cpuFieldWith some pyRepr (.str x.text) = .ok q) : q = some x.value := by
  obtain ⟨groups, num, hgroups, hnum, rfl⟩ := cpuFieldWith_ok h
  rcases groups_of_quantity mem_search_cpuUnit cpuUnit_chars hgroups with
    ⟨hsign, hunit, rfl⟩ | ⟨-, hempty⟩
  · rw [groupText_number, x.readNumber_eq] at hnum
    cases hnum
    rw [Quantity.value, hsign, groupText_unit]
    rcases hunit with hunit | hunit
    · rw [Suffix.eq_one_of_text hunit, if_neg (by decide)]
      simp [Sign.factor, Suffix.factor]
    · rw [Suffix.eq_milli_of_text hunit, if_pos (by rfl)]
      simp [Sign.factor, Suffix.factor, div_eq_mul_inv]
  · rw [hempty, readNumber_empty] at hnum
    cases hnum

/-- The factor that the field for bytes has for a suffix: the one of Kubernetes, but `m` is read as
`M`. -/
def Suffix.tableFactor : Suffix → ℚ
  | .milli => 1000 ^ 2
  | y => y.factor

theorem Suffix.tableFactor_eq {y : Suffix} (hunit : ∀ c ∈ y.text, isUnitChar c = true) :
    (((toBytesConversion.lookup (PyText.lower (String.ofList y.text))).getD 1 : ℕ) : ℚ) =
      y.tableFactor := by
  cases y with
  | nano => exact absurd (hunit 'n' List.mem_cons_self) (by decide)
  | micro => exact absurd (hunit 'u' List.mem_cons_self) (by decide)
  | exponent capital sign digits hne hdigits =>
    obtain ⟨d, hd⟩ := List.exists_mem_of_ne_nil _ hne
    have hmem : d ∈ (Suffix.exponent capital sign digits hne hdigits).text :=
      List.mem_cons_of_mem _ (List.mem_append_right _ hd)
    have hnot := unitChar_not_number (hunit d hmem)
    rw [isNumberChar, hdigits d hd] at hnot
    cases hnot
  | _ => decide +kernel

theorem Suffix.tableFactor_of_ne {y : Suffix} (h : y ≠ .milli) : y.tableFactor = y.factor := by
  cases y with
  | milli => exact absurd rfl h
  | _ => rfl

/-- What the field for bytes makes of a quantity that it takes. -/
theorem byteSizeFieldWith_quantity {n : ℤ}
    (h : byteSizeFieldWith some pyRepr (.str x.text) = .ok n) :
    x.sign = .none ∧ n = Double.roundHalfEven (x.magnitude * x.suffix.tableFactor) := by
  obtain ⟨groups, num, hgroups, hgood, hnum⟩ := byteSizeFieldWith_ok h
  rcases groups_of_quantity mem_search_byteSizeUnit (fun _ hunit => hunit) hgroups with
    ⟨hsign, hunit, rfl⟩ | ⟨-, hempty⟩
  · have hread := @byteSizeFieldWith_some pyRepr x.text _ hgroups _ x.readNumber_eq hgood
    rw [groupText_unit, Suffix.tableFactor_eq hunit] at hread
    exact ⟨hsign, Except.ok.inj (h.symm.trans hread)⟩
  · rw [hempty, readNumber_empty] at hnum
    cases hnum

theorem IsNumber.ne_nil {num : List Char} {q : ℚ} (h : IsNumber num q) : num ≠ [] := by
  cases h with
  | whole hne _ => exact hne
  | point _ _ _ => simp

theorem search_milli {num : List Char} {q : ℚ} (h : IsNumber num q) :
    (⟨['m'].reverse ++ (num.reverse ++ []), []⟩, []) ∈
      byteSizeUnit.search ⟨num.reverse ++ [], ['m']⟩ := by
  have hlast : (num.reverse ++ []).head?.any isNumberChar = true := by
    obtain ⟨c, past, hreverse⟩ :=
      List.exists_cons_of_ne_nil (mt List.reverse_eq_nil_iff.mp h.ne_nil)
    rw [List.append_nil, hreverse]
    exact h.numberChars c (List.mem_reverse.mp (hreverse ▸ List.mem_cons_self))
  exact mem_search_both.mpr ⟨_, [], [], mem_search_behind.mpr ⟨hlast, rfl, rfl⟩,
    mem_search_both.mpr ⟨_, [], [], mem_search_star.mpr
    ⟨['m'], [], List.forall_mem_singleton.mpr (by decide), rfl, rfl, rfl⟩,
    mem_search_empty.mpr ⟨rfl, rfl⟩, rfl⟩, rfl⟩

theorem byteSizeFieldWith_milli (hsign : x.sign = .none) (hsuffix : x.suffix = .milli) :
    byteSizeFieldWith some pyRepr (.str x.text) =
      .ok (Double.roundHalfEven (x.magnitude * x.suffix.tableFactor)) := by
  have htext : x.text.toList = x.number ++ ['m'] := by
    rw [Quantity.text, String.toList_ofList, hsign, hsuffix]
    rfl
  obtain ⟨groups, hgroups⟩ := exists_matchGroups x.isNumber (search_milli x.isNumber)
  rw [← htext] at hgroups
  rcases groups_of_quantity mem_search_byteSizeUnit (fun _ hunit => hunit) hgroups with
    ⟨-, hunit, rfl⟩ | ⟨hne, -⟩
  · have hlookup :
        (toBytesConversion.lookup (PyText.lower (String.ofList x.suffix.text))).isSome = true := by
      rw [hsuffix]
      decide +kernel
    rw [byteSizeFieldWith_some hgroups x.readNumber_eq (.inr hlookup), groupText_unit,
      Suffix.tableFactor_eq hunit]
  · exact absurd hsign hne

/-- A million times a number and a thousandth of it round to one number only if the former is at
most a half. -/
theorem roundHalfEven_milli_iff {q : ℚ} (hq : 0 ≤ q) :
    Double.roundHalfEven (q * 1000 ^ 2) = Double.roundHalfEven (q * (1 / 1000)) ↔
      ¬ 1 / 2000000 < q := by
  constructor
  · intro h hlarge
    have hpos : 0 < Double.roundHalfEven (q * 1000 ^ 2) :=
      Double.roundHalfEven_pos (by linarith)
    have hone : (1 : ℚ) ≤ Double.roundHalfEven (q * 1000 ^ 2) := by exact_mod_cast hpos
    have hnear := (Double.roundHalfEven_near (q * 1000 ^ 2)).2
    have hnear' := (Double.roundHalfEven_near (q * (1 / 1000))).1
    rw [← h] at hnear'
    generalize (Double.roundHalfEven (q * 1000 ^ 2) : ℚ) = rounded at hone hnear hnear'
    linarith
  · intro hsmall
    have hle := not_lt.mp hsmall
    rw [Double.roundHalfEven_eq_zero (by positivity) (by linarith),
      Double.roundHalfEven_eq_zero (by positivity) (by linarith)]

variable (pyRepr) (x)

/-- Kubernetes and the fields agree about a quantity in exact arithmetic, unless it is a number of
thousandths that the field for bytes reads as millions. -/
theorem fields_agree_iff :
    ((∀ q, cpuFieldWith some pyRepr (.str x.text) = .ok q → q = some x.value) ∧
      ∀ n, byteSizeFieldWith some pyRepr (.str x.text) = .ok n →
        n = Double.roundHalfEven x.value) ↔
      ¬ (x.sign = .none ∧ x.suffix = .milli ∧ 1 / 2000000 < x.magnitude) := by
  have hvalue : x.sign = .none → x.value = x.magnitude * x.suffix.factor := fun hsign => by
    rw [Quantity.value, hsign, Sign.factor, Int.cast_one, one_mul]
  rw [and_iff_right fun q => cpuFieldWith_quantity]
  constructor
  · rintro h ⟨hsign, hsuffix, hlarge⟩
    have hsame := h _ (byteSizeFieldWith_milli hsign hsuffix)
    rw [hvalue hsign, hsuffix] at hsame
    exact (roundHalfEven_milli_iff x.isNumber.nonneg).mp hsame hlarge
  · intro hsafe n hn
    obtain ⟨hsign, rfl⟩ := byteSizeFieldWith_quantity hn
    rw [hvalue hsign]
    by_cases hsuffix : x.suffix = .milli
    · rw [hsuffix]
      exact (roundHalfEven_milli_iff x.isNumber.nonneg).mpr fun hlarge =>
        hsafe ⟨hsign, hsuffix, hlarge⟩
    · rw [Suffix.tableFactor_of_ne hsuffix]

/-- A hundred thousandths of a byte. -/
def hundredMilli : Quantity where
  sign := .none
  number := ['1', '0', '0']
  magnitude := _
  isNumber := .whole (List.cons_ne_nil _ _) (List.all_eq_true.mp rfl)
  suffix := .milli

/-- They are read as a hundred million bytes. -/
theorem hundredMilli_disagrees :
    ∃ n, byteSizeFieldWith some (fun _ => "") (.str hundredMilli.text) = .ok n ∧
      n ≠ Double.roundHalfEven hundredMilli.value := by
  refine ⟨_, byteSizeFieldWith_milli rfl rfl, ?_⟩
  decide +kernel

end

end RenkuNotebooks.Notebooks.Quantities
