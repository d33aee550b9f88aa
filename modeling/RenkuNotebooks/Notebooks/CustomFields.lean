import Mathlib.Data.List.TakeWhile
import RenkuNotebooks.Foundation.Double
import RenkuNotebooks.Foundation.PyText
import RenkuNotebooks.Foundation.Regex
import RenkuNotebooks.Notebooks.Errors

/-!
# Fields for resources

Amounts of cpu, memory, disk space and GPUs as Kubernetes writes them. A float that is too large is
`none`, as in `Double.nearest`.
-/

namespace RenkuNotebooks.Notebooks.CustomFields

open Regex

inductive ReadError where
  | raised (e : PyError)
  | overflowError
  deriving DecidableEq, Repr

/-- `str(value)`, where `pyRepr` is left what is no text and no integer. -/
def pyStr (pyRepr : Json → String) : Json → String
  | .str s => s
  | .int n => toString n
  | value => pyRepr value

/-! ### Numbers -/

/-- `[0-9]*\.?[0-9]*` -/
def number : Regex := seq [star Char.isDigit, optional (.char (· = '.')), star Char.isDigit]

/-- The number that the digits stand for, if there are any. -/
def decimal (cs : List Char) : Option ℚ :=
  let whole := cs.takeWhile Char.isDigit
  let fraction := (cs.dropWhile Char.isDigit).drop 1
  if whole = [] ∧ fraction = [] then none
  else some ((Nat.ofDigitChars 10 (whole ++ fraction) 0 : ℕ) / 10 ^ fraction.length)

/-- `float(num)` for a text that `number` matches, `none` where it raises `ValueError`. -/
def readFloat (num : String) : Option (Option ℚ) := (decimal num.toList).map Double.nearest

def groupText (name : String) (groups : Groups) : String := (groups.lookup name).getD ""

def validationError {α : Type} (message : String) : Except ReadError α :=
  .error (.raised (.validationError message))

/-- `Field.deserialize` before the value is looked at. -/
def notNull (value : Json) : Except ReadError Json :=
  if value = .null then validationError "Field may not be null." else .ok value

/-! ### The fields -/

section

variable (pyRepr : Json → String)

def cpuText : String := "^(?<!-)([0-9]*\\.?[0-9]*)(m?)$"

def cpuRegex : Regex :=
  seq [.start, .notBehind (· = '-'), .group "1" number, .group "2" (optional (.char (· = 'm'))),
    .finish]

/-- `CpuField`, always to fractional cores. -/
def cpuField (value : Json) : Except ReadError (Option ℚ) := do
  let value ← notNull value
  match cpuRegex.matchGroups (pyStr pyRepr value).toList with
  | none => validationError ("Unexpected format for cpu, must match regex " ++ cpuText ++ ".")
  | some groups =>
    match readFloat (groupText "1" groups) with
    | none =>
      validationError
        ("Cannot convert " ++ groupText "1" groups ++ " to float as fractional cores.")
    | some num =>
      if groupText "2" groups = "m" then .ok (num.bind fun q => Double.nearest (q / 1000))
      else .ok num

def byteSizeText : String := "^(?<!-)([0-9]*\\.?[0-9]*)((?<=[0-9.])[EPTGMKeptgmkbBi]*)$"

def isUnitChar (c : Char) : Bool := c ∈ "EPTGMKeptgmkbBi".toList

def byteSizeRegex : Regex :=
  seq [.start, .notBehind (· = '-'), .group "1" number,
    .group "2" (seq [.behind (fun c => c.isDigit || c = '.'), star isUnitChar]), .finish]

/-- `_to_bytes_conversion` -/
def toBytesConversion : List (String × ℕ) := [
  ("b", 1), ("kb", 1000), ("mb", 1000 ^ 2), ("gb", 1000 ^ 3), ("tb", 1000 ^ 4), ("pb", 1000 ^ 5),
  ("eb", 1000 ^ 6), ("k", 1000), ("m", 1000 ^ 2), ("g", 1000 ^ 3), ("t", 1000 ^ 4),
  ("p", 1000 ^ 5), ("e", 1000 ^ 6), ("ki", 1024), ("mi", 1024 ^ 2), ("gi", 1024 ^ 3),
  ("ti", 1024 ^ 4), ("pi", 1024 ^ 5), ("ei", 1024 ^ 6)]

/-- `ByteSizeField`, always to bytes. -/
def byteSizeField (value : Json) : Except ReadError ℤ := do
  let value ← notNull value
  match byteSizeRegex.matchGroups (pyStr pyRepr value).toList with
  | none =>
    validationError ("Unexpected format for memory, must match regex " ++ byteSizeText ++ ".")
  | some groups =>
    let unit := groupText "2" groups
    let factor := toBytesConversion.lookup (PyText.lower unit)
    if unit ≠ "" ∧ factor.isNone then
      validationError ("Cannot recognize unit " ++ unit ++ " for memory or disk space.")
    else
      match readFloat (groupText "1" groups) with
      | none => validationError ("Cannot convert " ++ groupText "1" groups ++ " to float.")
      | some num =>
        match num.bind fun q => Double.nearest (q * (factor.getD 1 : ℕ)) with
        | none => .error .overflowError
        | some bytes => .ok (Double.roundHalfEven bytes)

def gpuText : String := "^(?<!-)([0-9]*\\.?[0-9]*)$"

def gpuRegex : Regex := seq [.start, .notBehind (· = '-'), .group "1" number, .finish]

/-- `GpuField`, always to whole GPUs. -/
def gpuField (value : Json) : Except ReadError ℤ := do
  let value ← notNull value
  match gpuRegex.matchGroups (pyStr pyRepr value).toList with
  | none => validationError ("Unexpected format for GPUs, must match regex " ++ gpuText ++ ".")
  | some groups =>
    match readFloat (groupText "1" groups) with
    | none =>
      validationError ("Cannot convert " ++ groupText "1" groups ++ " of GPUs to integer.")
    | some num =>
      -- the remainder of an infinite number is no number
      match num.filter fun q => q.den = 1 with
      | none =>
        validationError
          ("Invalid value during GPU amount deserialization, must not be decimal number, got " ++
            pyStr pyRepr value ++ ".")
      | some q => .ok q.num

end

/-! ### Plain decimals -/

/-- Digits, or digits with a point and more digits after it. -/
inductive IsPlain : List Char → ℚ → Prop
  | whole {digits : List Char} (hne : digits ≠ []) (hdigits : ∀ c ∈ digits, c.isDigit = true) :
    IsPlain digits (Nat.ofDigitChars 10 digits 0 : ℕ)
  | fraction {digits fraction : List Char} (hne : digits ≠ [])
    (hdigits : ∀ c ∈ digits, c.isDigit = true) (hfraction : ∀ c ∈ fraction, c.isDigit = true) :
    IsPlain (digits ++ '.' :: fraction)
      ((Nat.ofDigitChars 10 (digits ++ fraction) 0 : ℕ) / 10 ^ fraction.length)

theorem takeWhile_all {p : Char → Bool} {cs : List Char} (h : ∀ c ∈ cs, p c = true) :
    cs.takeWhile p = cs ∧ cs.dropWhile p = [] :=
  ⟨List.takeWhile_eq_self_iff.mpr h, List.dropWhile_eq_nil_iff.mpr h⟩

theorem takeWhile_point {digits : List Char} (h : ∀ c ∈ digits, c.isDigit = true)
    (rest : List Char) :
    (digits ++ '.' :: rest).takeWhile Char.isDigit = digits ∧
      (digits ++ '.' :: rest).dropWhile Char.isDigit = '.' :: rest := by
  have hpoint : ¬ Char.isDigit '.' = true := by decide
  rw [List.takeWhile_append_of_pos h, List.dropWhile_append_of_pos h,
    List.takeWhile_cons_of_neg hpoint, List.dropWhile_cons_of_neg hpoint, List.append_nil]
  exact ⟨rfl, rfl⟩

theorem decimal_of_plain {cs : List Char} {q : ℚ} (h : IsPlain cs q) : decimal cs = some q := by
  cases h with
  | whole hne hdigits =>
    obtain ⟨htake, hdrop⟩ := takeWhile_all hdigits
    simp [decimal, htake, hdrop, hne]
  | @fraction digits fraction hne hdigits hfraction =>
    obtain ⟨htake, hdrop⟩ := takeWhile_point hdigits fraction
    simp [decimal, htake, hdrop, hne]

/-- The whole of a plain decimal is taken as the number. -/
theorem first_number {cs : List Char} {q : ℚ} (h : IsPlain cs q) :
    First number ⟨[], cs⟩ ⟨cs.reverse ++ [], []⟩ [] := by
  have hend : ∀ past, First (seq [star Char.isDigit]) ⟨past, []⟩ ⟨past, []⟩ [] := fun past =>
    (First.star Char.isDigit past []).both (.empty _)
  cases h with
  | whole hne hdigits =>
    obtain ⟨htake, hdrop⟩ := takeWhile_all hdigits
    have hstar := First.star Char.isDigit [] cs
    rw [htake, hdrop] at hstar
    exact hstar.both ((First.optional_none rfl).both (hend _))
  | @fraction digits fraction hne hdigits hfraction =>
    obtain ⟨htake, hdrop⟩ := takeWhile_point hdigits fraction
    obtain ⟨htake', hdrop'⟩ := takeWhile_all hfraction
    have hstar := First.star Char.isDigit [] (digits ++ '.' :: fraction)
    have hstar' := First.star Char.isDigit ('.' :: (digits.reverse ++ [])) fraction
    rw [htake, hdrop] at hstar
    rw [htake', hdrop'] at hstar'
    have hpoint : First (optional (.char (· = '.'))) ⟨digits.reverse ++ [], '.' :: fraction⟩
        ⟨'.' :: (digits.reverse ++ []), fraction⟩ [] :=
      First.optional_char (by decide) _ _
    have hall := hstar.both (hpoint.both (hstar'.both (.empty _)))
    have hreverse : fraction.reverse ++ '.' :: (digits.reverse ++ []) =
        (digits ++ '.' :: fraction).reverse ++ [] := by simp
    rw [hreverse] at hall
    exact hall

/-- The groups of a number with nothing but a unit after it. -/
theorem first_groups {r : Regex} {cs : List Char} {q : ℚ} (h : IsPlain cs q) {last : Cursor}
    {groups : Groups} (hr : First r ⟨cs.reverse ++ [], []⟩ last groups) :
    (Regex.both .start (.both (.notBehind (· = '-')) (.both (.group "1" number) r))).matchGroups
        cs =
      some (("1", String.ofList cs) :: groups) := by
  have hnumber : First (.group "1" number) ⟨[], cs⟩ ⟨cs.reverse ++ [], []⟩
      [("1", between ⟨[], cs⟩ ⟨cs.reverse ++ [], []⟩)] := (first_number h).group
  rw [between_append] at hnumber
  exact ((First.start cs).both ((First.notBehind _ cs).both (hnumber.both hr))).matchGroups

/-- A unit that is left out. -/
theorem first_noUnit {r : Regex} {past : List Char} (h : First r ⟨past, []⟩ ⟨past, []⟩ []) :
    First (seq [.group "2" r, .finish]) ⟨past, []⟩ ⟨past, []⟩ [("2", "")] := by
  have hgroup : First (.group "2" r) ⟨past, []⟩ ⟨past, []⟩
      [("2", between ⟨past, []⟩ ⟨past, []⟩)] := h.group
  have hempty : between ⟨past, []⟩ ⟨past, []⟩ = "" := by simp [between]
  rw [hempty] at hgroup
  exact hgroup.both ((First.finish past).both (.empty _))

theorem cpuRegex_plain {cs : List Char} {q : ℚ} (h : IsPlain cs q) :
    cpuRegex.matchGroups cs = some [("1", String.ofList cs), ("2", "")] :=
  first_groups h (first_noUnit (First.optional_none rfl))

/-- A plain decimal ends with a digit or with the point. -/
theorem IsPlain.reverse_eq {cs : List Char} {q : ℚ} (h : IsPlain cs q) :
    ∃ c past, cs.reverse ++ [] = c :: past ∧ (c.isDigit || c = '.') = true := by
  have hne : cs ≠ [] := by
    cases h with
    | whole hne _ => exact hne
    | fraction hne _ _ => simp
  obtain ⟨c, past, hreverse⟩ := List.exists_cons_of_ne_nil (mt List.reverse_eq_nil_iff.mp hne)
  refine ⟨c, past, by rw [List.append_nil, hreverse], ?_⟩
  have hc : c ∈ cs := List.mem_reverse.mp (hreverse ▸ List.mem_cons_self)
  cases h with
  | whole _ hdigits => simp [hdigits c hc]
  | fraction _ hdigits hfraction =>
    rcases List.mem_append.mp hc with hc | hc
    · simp [hdigits c hc]
    · rcases List.mem_cons.mp hc with rfl | hc
      · rfl
      · simp [hfraction c hc]

theorem byteSizeRegex_plain {cs : List Char} {q : ℚ} (h : IsPlain cs q) :
    byteSizeRegex.matchGroups cs = some [("1", String.ofList cs), ("2", "")] := by
  obtain ⟨c, past, hreverse, hc⟩ := h.reverse_eq
  apply first_groups h
  rw [hreverse]
  exact first_noUnit ((First.behind hc past []).both ((First.star isUnitChar _ []).both (.empty _)))

theorem gpuRegex_plain {cs : List Char} {q : ℚ} (h : IsPlain cs q) :
    gpuRegex.matchGroups cs = some [("1", String.ofList cs)] :=
  first_groups h ((First.finish _).both (.empty _))

/-! ### What the fields read -/

@[simp] theorem groupText_number (s : String) (groups : Groups) :
    groupText "1" (("1", s) :: groups) = s := rfl

@[simp] theorem groupText_unit (s t : String) : groupText "2" [("1", s), ("2", t)] = t := rfl

section

variable {pyRepr : Json → String} {value : Json} {q : ℚ}

theorem readFloat_plain {s : String} (h : IsPlain s.toList q) :
    readFloat s = some (Double.nearest q) := by
  rw [readFloat, decimal_of_plain h]
  rfl

theorem cpuField_plain (hvalue : value ≠ .null) (h : IsPlain (pyStr pyRepr value).toList q) :
    cpuField pyRepr value = .ok (Double.nearest q) := by
  have hread : readFloat (pyStr pyRepr value) = some (Double.nearest q) := readFloat_plain h
  simp [cpuField, notNull, hvalue, bind, Except.bind, cpuRegex_plain h, hread]

theorem byteSizeField_plain {d : ℚ} (hvalue : value ≠ .null)
    (h : IsPlain (pyStr pyRepr value).toList d) (hd : Double.nearest d = some q)
    (hq : Double.nearest q = some q) :
    byteSizeField pyRepr value = .ok (Double.roundHalfEven q) := by
  have hread : readFloat (pyStr pyRepr value) = some (some q) := by rw [readFloat_plain h, hd]
  have hfactor : toBytesConversion.lookup (PyText.lower "") = none := by decide +kernel
  simp [byteSizeField, notNull, hvalue, bind, Except.bind, byteSizeRegex_plain h, hread,
    hfactor, hq]

theorem gpuField_plain {d : ℚ} (hvalue : value ≠ .null)
    (h : IsPlain (pyStr pyRepr value).toList d) (hd : Double.nearest d = some q)
    (hwhole : q.den = 1) : gpuField pyRepr value = .ok q.num := by
  have hread : readFloat (pyStr pyRepr value) = some (some q) := by rw [readFloat_plain h, hd]
  have hfilter : (some q).filter (fun q => q.den = 1) = some q :=
    Option.filter_eq_some_iff.mpr ⟨rfl, decide_eq_true hwhole⟩
  simp [gpuField, notNull, hvalue, bind, Except.bind, gpuRegex_plain h, hread, hfilter]

end

end RenkuNotebooks.Notebooks.CustomFields
