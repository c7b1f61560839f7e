import Mathlib.Tactic.Common
import Mathlib.Algebra.Order.Monoid.Unbundled.Basic

/-! Numerals in a base of at most sixteen. -/
namespace Numerals

/-- The value of a digit; what is no digit in any base has sixteen. -/
def digitValue (c : Char) : ℕ :=
  if '0' ≤ c ∧ c ≤ '9' then c.toNat - '0'.toNat
  else if 'a' ≤ c ∧ c ≤ 'f' then c.toNat - 'a'.toNat + 10
  else if 'A' ≤ c ∧ c ≤ 'F' then c.toNat - 'A'.toNat + 10
  else 16

def isDigit (c : Char) : Bool := decide (digitValue c < 10)

def isNumeral (base : ℕ) (digits : List Char) : Bool :=
  !digits.isEmpty && digits.all fun c => decide (digitValue c < base)

def value (base : ℕ) (digits : List Char) : ℕ :=
  digits.foldl (fun n c => base * n + digitValue c) 0

/-- The number a text is written for. -/
def read (base : ℕ) (digits : List Char) : Option ℕ :=
  if isNumeral base digits then some (value base digits) else none

theorem foldl_le_foldl {base base' : ℕ} (h : base ≤ base') (digits : List Char) {n n' : ℕ}
    (hn : n ≤ n') :
    digits.foldl (fun n c => base * n + digitValue c) n ≤
      digits.foldl (fun n c => base' * n + digitValue c) n' := by
  induction digits generalizing n n' with
  | nil => exact hn
  | cons c digits ih => exact ih (Nat.add_le_add_right (Nat.mul_le_mul h hn) _)

/-- In a larger base the same digits are worth no less. -/
theorem value_le_value {base base' : ℕ} (h : base ≤ base') (digits : List Char) :
    value base digits ≤ value base' digits := foldl_le_foldl h digits le_rfl

theorem read_eq_some_iff {base n : ℕ} {digits : List Char} :
    read base digits = some n ↔ isNumeral base digits = true ∧ value base digits = n := by
  rw [read]
  split_ifs with h <;> simp [h]

theorem isNumeral_zero_cons {base : ℕ} (h : 0 < base) (digits : List Char) :
    isNumeral base ('0' :: digits) = digits.all fun c => decide (digitValue c < base) := by
  have hzero : digitValue '0' = 0 := rfl
  simp [isNumeral, hzero, h]

theorem value_zero_cons (base : ℕ) (digits : List Char) :
    value base ('0' :: digits) = value base digits := by
  have hzero : digitValue '0' = 0 := rfl
  simp [value, hzero]

end Numerals
