import Mathlib.Data.Int.Log
import Mathlib.Data.Rat.Floor
import Mathlib.Tactic.Linarith
import Mathlib.Tactic.Positivity

/-! Double-precision numbers. Both zeros count as one. -/
namespace Binary64

/-- The nearest integer, of two the even one. -/
def nearest (q : ℚ) : ℤ :=
  let below := ⌊q⌋
  if q - below < 1 / 2 then below
  else if 1 / 2 < q - below then below + 1
  else if below % 2 = 0 then below else below + 1

/-- The distance of the numbers next to one of a given size. -/
def spacing (q : ℚ) : ℚ := 2 ^ (max (Int.log 2 |q|) (-1022) - 52)

inductive Number where
  | nan
  | infinity (negative : Bool)
  | finite (q : ℚ)
  deriving DecidableEq

/-- The number nearest to an exact value. -/
def ofRat (q : ℚ) : Number :=
  if q = 0 then .finite 0
  else
    let rounded := nearest (q / spacing q) * spacing q
    if 2 ^ 1024 ≤ |rounded| then .infinity (q < 0) else .finite rounded

namespace Number

def add : Number → Number → Number
  | nan, _ => nan
  | _, nan => nan
  | infinity s, infinity t => if s = t then infinity s else nan
  | infinity s, finite _ => infinity s
  | finite _, infinity t => infinity t
  | finite a, finite b => ofRat (a + b)

def mul : Number → Number → Number
  | nan, _ => nan
  | _, nan => nan
  | infinity s, infinity t => infinity (s != t)
  | infinity s, finite q => if q = 0 then nan else infinity (s != decide (q < 0))
  | finite q, infinity t => if q = 0 then nan else infinity (decide (q < 0) != t)
  | finite a, finite b => ofRat (a * b)

/-- `a > b`. -/
def gt : Number → Number → Bool
  | nan, _ => false
  | _, nan => false
  | infinity s, infinity t => !s && t
  | infinity s, finite _ => !s
  | finite _, infinity t => t
  | finite a, finite b => b < a

/-- The integer a number is. -/
def integer? : Number → Option ℤ
  | finite q => if q.den = 1 then some q.num else none
  | _ => none

end Number

theorem nearest_intCast (n : ℤ) : nearest (n : ℚ) = n := by
  simp [nearest, Int.floor_intCast]

theorem le_nearest {n : ℤ} {q : ℚ} (h : (n : ℚ) ≤ q) : n ≤ nearest q := by
  have hfloor : n ≤ ⌊q⌋ := Int.le_floor.mpr h
  rw [nearest]
  split_ifs <;> omega

/-- The largest integer up to which every integer is a number. -/
def maxSafeInteger : ℤ := 2 ^ 53 - 1

theorem spacing_natCast {n : ℕ} (h : n ≠ 0) : spacing n = 2 ^ ((Nat.log 2 n : ℤ) - 52) := by
  have hone : (1 : ℚ) ≤ n := by exact_mod_cast Nat.one_le_iff_ne_zero.mpr h
  rw [spacing, Nat.abs_cast, Int.log_natCast, max_eq_left (by omega)]

/-- Integers up to the largest safe one are numbers. -/
theorem ofRat_of_safe {n : ℕ} (h : (n : ℤ) ≤ maxSafeInteger) : ofRat n = .finite n := by
  by_cases hzero : n = 0
  · rw [hzero]
    rfl
  · have hlt : n < 2 ^ 53 := by
      rw [maxSafeInteger] at h
      omega
    have hlog : Nat.log 2 n ≤ 52 := Nat.lt_succ_iff.mp (Nat.log_lt_of_lt_pow hzero hlt)
    obtain ⟨k, hk⟩ := Nat.exists_eq_add_of_le hlog
    have hspacing : spacing n = (2 ^ k)⁻¹ := by
      rw [spacing_natCast hzero, ← zpow_natCast, ← zpow_neg]
      congr 1
      omega
    have hscaled : (n : ℚ) / spacing n = ((n * 2 ^ k : ℕ) : ℤ) := by
      rw [hspacing, div_inv_eq_mul]
      push_cast
      rfl
    have hback : ((n * 2 ^ k : ℕ) : ℤ) * spacing (n : ℚ) = (n : ℚ) := by
      rw [hspacing]
      push_cast
      field_simp
    have hsmall : ¬ (2 : ℚ) ^ 1024 ≤ |(n : ℚ)| := by
      have hcast : (n : ℚ) < 2 ^ 53 := by exact_mod_cast hlt
      rw [Nat.abs_cast, not_le]
      exact hcast.trans (pow_lt_pow_right₀ one_lt_two (by omega))
    rw [ofRat, if_neg (by exact_mod_cast hzero), hscaled, nearest_intCast, hback, if_neg hsmall]

/-- Integers above it round to no smaller numbers. -/
theorem ofRat_of_unsafe {n : ℕ} (h : maxSafeInteger < n) :
    ofRat n = .infinity false ∨ ∃ q : ℚ, ofRat n = .finite q ∧ (maxSafeInteger : ℚ) < q := by
  have hle : 2 ^ 53 ≤ n := by
    rw [maxSafeInteger] at h
    omega
  have hzero : n ≠ 0 := by omega
  have hpow : (2 : ℚ) ^ Nat.log 2 n ≤ n := by exact_mod_cast Nat.pow_log_le_self 2 hzero
  have hlog : 53 ≤ Nat.log 2 n := Nat.le_log_of_pow_le Nat.one_lt_two hle
  have hpos : 0 < spacing (n : ℚ) := by
    rw [spacing_natCast hzero]
    exact zpow_pos two_pos _
  have hsplit : (2 : ℚ) ^ Nat.log 2 n = 2 ^ 52 * spacing n := by
    rw [spacing_natCast hzero, ← zpow_natCast, ← zpow_natCast, ← zpow_add₀ two_ne_zero]
    congr 1
    omega
  have hcast : ((2 ^ 52 : ℤ) : ℚ) = 2 ^ 52 := by norm_num
  have hscaled : ((2 ^ 52 : ℤ) : ℚ) ≤ (n : ℚ) / spacing n := by
    rw [le_div_iff₀ hpos, hcast, ← hsplit]
    exact hpow
  have hrounded : (maxSafeInteger : ℚ) < nearest ((n : ℚ) / spacing n) * spacing n := by
    have hnearest : (2 : ℚ) ^ 52 ≤ nearest ((n : ℚ) / spacing n) :=
      hcast ▸ Int.cast_le.mpr (le_nearest hscaled)
    calc (maxSafeInteger : ℚ) < 2 ^ 53 := by norm_num [maxSafeInteger]
      _ ≤ 2 ^ Nat.log 2 n := pow_le_pow_right₀ one_le_two hlog
      _ = 2 ^ 52 * spacing n := hsplit
      _ ≤ nearest ((n : ℚ) / spacing n) * spacing n :=
        mul_le_mul_of_nonneg_right hnearest hpos.le
  rw [ofRat, if_neg (by exact_mod_cast hzero)]
  dsimp only
  split_ifs
  · left
    rw [decide_eq_false (not_lt.mpr n.cast_nonneg)]
  · exact .inr ⟨_, rfl, hrounded⟩

end Binary64
