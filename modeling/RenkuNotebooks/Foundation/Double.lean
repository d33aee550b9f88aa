import Mathlib.Data.Int.Log
import Mathlib.Data.Rat.Floor
import Mathlib.Tactic.Linarith
import Mathlib.Tactic.NormNum
import Mathlib.Tactic.Ring

/-!
# Doubles

The numbers that are not negative and that a float can hold, as exact rationals.
-/

namespace RenkuNotebooks.Double

/-- To the nearest integer, and to the even one from the middle. -/
def roundHalfEven (q : ℚ) : ℤ :=
  let k := ⌊q⌋
  if q - k < 1 / 2 then k else if 1 / 2 < q - k then k + 1 else k + k % 2

def exponent (q : ℚ) : ℤ := max (Int.log 2 q - 52) (-1074)

/-- The distance between the doubles near a number. -/
def unit (q : ℚ) : ℚ := (2 : ℚ) ^ exponent q

/-- The double nearest to a number, `none` where it is infinite. -/
def nearest (q : ℚ) : Option ℚ :=
  if q = 0 then some 0
  else
    let rounded := (roundHalfEven (q / unit q) : ℚ) * unit q
    if rounded < 2 ^ 1024 then some rounded else none

def IsDouble (q : ℚ) : Prop := nearest q = some q

theorem roundHalfEven_intCast (n : ℤ) : roundHalfEven n = n := by
  simp [roundHalfEven]

/-- The nearest integer is half a unit away at most. -/
theorem roundHalfEven_near (q : ℚ) :
    (roundHalfEven q : ℚ) ≤ q + 1 / 2 ∧ q ≤ roundHalfEven q + 1 / 2 := by
  have hlow := Int.floor_le q
  have hhigh := Int.lt_floor_add_one q
  rw [roundHalfEven]
  split
  · constructor <;> linarith
  split
  · push_cast
    constructor <;> linarith
  · have heven : (⌊q⌋ : ℤ) % 2 = 0 ∨ (⌊q⌋ : ℤ) % 2 = 1 := Int.emod_two_eq_zero_or_one _
    rcases heven with h | h
    · rw [h]
      push_cast
      constructor <;> linarith
    · rw [h]
      push_cast
      constructor <;> linarith

theorem roundHalfEven_eq_zero {q : ℚ} (hnonneg : 0 ≤ q) (hhalf : q ≤ 1 / 2) :
    roundHalfEven q = 0 := by
  have hfloor : ⌊q⌋ = 0 := Int.floor_eq_zero_iff.mpr ⟨hnonneg, by linarith⟩
  rw [roundHalfEven]
  simp only [hfloor]
  split
  · rfl
  split
  next hgt =>
    push_cast at hgt
    linarith
  · rfl

theorem roundHalfEven_pos {q : ℚ} (h : 1 / 2 < q) : 0 < roundHalfEven q := by
  have hnear := (roundHalfEven_near q).2
  have hpos : (0 : ℚ) < roundHalfEven q := by linarith
  exact_mod_cast hpos

/-! ### Arithmetic -/

/-- The nearest number with 53 significant bits. -/
def significant (q : ℚ) : ℚ :=
  let step := (2 : ℚ) ^ (Int.log 2 q - 52)
  roundHalfEven (q / step) * step

/-- Sums and whole multiples of doubles are whole multiples of the smallest one, so that the exponent
of the result needs no lower bound; the infinities are at both ends. -/
def round (q : ℚ) : ℚ :=
  if q = 0 then 0
  else if 0 < q then min (significant q) (2 ^ 1024)
  else -min (significant (-q)) (2 ^ 1024)

/-- `x - y` on floats. -/
def sub (x y : ℚ) : ℚ := round (x - y)

theorem significant_pos {q : ℚ} (h : 0 < q) : 0 < significant q := by
  have hstep : (0 : ℚ) < 2 ^ (Int.log 2 q - 52) := zpow_pos (by norm_num) _
  have hlog : (2 : ℚ) ^ Int.log 2 q ≤ q := Int.zpow_log_le_self (by norm_num) h
  have hlarge : 1 / 2 < q / 2 ^ (Int.log 2 q - 52) := by
    rw [lt_div_iff₀ hstep, zpow_sub₀ (by norm_num)]
    have hpos : (0 : ℚ) < 2 ^ Int.log 2 q := zpow_pos (by norm_num) _
    norm_num
    linarith
  have hround : (0 : ℚ) < roundHalfEven (q / 2 ^ (Int.log 2 q - 52)) := by
    exact_mod_cast roundHalfEven_pos hlarge
  exact mul_pos hround hstep

/-- The sign survives the rounding. -/
theorem round_nonneg_iff {q : ℚ} : 0 ≤ round q ↔ 0 ≤ q := by
  have hbound : (0 : ℚ) < 2 ^ 1024 := by positivity
  rw [round]
  split
  next heq => simp [heq]
  split
  next hpos => exact ⟨fun _ => hpos.le, fun _ => le_min (significant_pos hpos).le hbound.le⟩
  next hne hle =>
    have hneg : q < 0 := lt_of_le_of_ne (not_lt.mp hle) hne
    have hmin := lt_min (significant_pos (neg_pos.mpr hneg)) hbound
    exact ⟨fun h => absurd h (not_le.mpr (neg_neg_of_pos hmin)), fun h => absurd h (not_le.mpr hneg)⟩

theorem sub_nonneg_iff {x y : ℚ} : 0 ≤ sub x y ↔ y ≤ x := by
  rw [sub, round_nonneg_iff, sub_nonneg]

theorem isDouble_zero : IsDouble 0 := rfl

/-- A number that is a whole multiple of the distance. -/
theorem isDouble_of_multiple {q : ℚ} {n : ℤ} (hn : q / unit q = n) (hq : q < 2 ^ 1024) :
    IsDouble q := by
  by_cases hzero : q = 0
  · rw [hzero]
    exact isDouble_zero
  · have hunit : unit q ≠ 0 := zpow_ne_zero _ (by norm_num)
    have hback : (n : ℚ) * unit q = q := by rw [← hn, div_mul_cancel₀ _ hunit]
    rw [IsDouble, nearest, if_neg hzero]
    simp only [hn, roundHalfEven_intCast, hback]
    exact if_pos hq

theorem isDouble_natCast {n : ℕ} (h : n < 2 ^ 53) : IsDouble n := by
  have hlog : Int.log 2 (n : ℚ) ≤ 52 := by
    rw [Int.log_natCast]
    have hlt : Nat.log 2 n < 53 := Nat.log_lt_of_lt_pow' (by norm_num) h
    omega
  have hexponent : exponent (n : ℚ) ≤ 0 := by
    rw [exponent]
    omega
  obtain ⟨k, hk⟩ := Int.eq_ofNat_of_zero_le (neg_nonneg.mpr hexponent)
  have hunit : exponent (n : ℚ) = -(k : ℤ) := by omega
  apply isDouble_of_multiple (n := (n : ℤ) * 2 ^ k)
  · rw [unit, hunit, zpow_neg, zpow_natCast, div_inv_eq_mul]
    push_cast
    ring
  · have hbound : (n : ℚ) < 2 ^ 53 := by exact_mod_cast h
    have hpow : (2 : ℚ) ^ 53 ≤ 2 ^ 1024 := pow_le_pow_right₀ (by norm_num) (by norm_num)
    exact hbound.trans_le hpow

/-- The first whole number that is no double is rounded to its even neighbour. -/
theorem nearest_first : nearest (2 ^ 53 + 1) = some (2 ^ 53) := by
  have hlog : Int.log 2 ((2 : ℚ) ^ 53 + 1) = 53 := by
    have hcast : ((2 ^ 53 + 1 : ℕ) : ℚ) = 2 ^ 53 + 1 := by norm_num
    have hnat : Nat.log 2 (2 ^ 53 + 1) = 53 := by
      rw [Nat.log_eq_iff (Or.inl (by norm_num))]
      norm_num
    rw [← hcast, Int.log_natCast, hnat]
    rfl
  have hunit : unit (2 ^ 53 + 1) = 2 := by
    rw [unit, exponent, hlog]
    norm_num
  have hround : roundHalfEven ((2 ^ 53 + 1) / 2) = 2 ^ 52 := by
    have hfloor : ⌊((2 : ℚ) ^ 53 + 1) / 2⌋ = 2 ^ 52 := by
      rw [Int.floor_eq_iff]
      norm_num
    rw [roundHalfEven]
    simp only [hfloor]
    norm_num
  have hsmall : (2 : ℚ) ^ 53 < 2 ^ 1024 := pow_lt_pow_right₀ (by norm_num) (by norm_num)
  have hdouble : ((2 ^ 52 : ℤ) : ℚ) * 2 = 2 ^ 53 := by norm_num
  rw [nearest, if_neg (by norm_num)]
  simp only [hunit, hround, hdouble]
  exact if_pos hsmall

end RenkuNotebooks.Double
