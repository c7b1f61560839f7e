import Boxui.Library.Machine
import Mathlib.Data.List.DropRight
import Mathlib.Data.List.Rotate

/-! A history that keeps its last entries. Stored in a ring, it is read by rotating the slots to
the next one that is overwritten. -/
namespace KeepLast
open Machine

variable {α : Type*}

/-- A history of at most `n` entries with one entry more. -/
def push (n : Nat) (kept : List α) (x : α) : List α := (kept ++ [x]).rtake n

theorem rtake_of_length_le {n : Nat} {l : List α} (h : l.length ≤ n) : l.rtake n = l := by
  rw [List.rtake, Nat.sub_eq_zero_of_le h, List.drop_zero]

theorem rtake_rtake_succ (n : Nat) (l : List α) : (l.rtake (n + 1)).rtake n = l.rtake n := by
  unfold List.rtake
  rw [List.drop_drop, List.length_drop]
  congr 1
  omega

theorem push_rtake (n : Nat) (l : List α) (x : α) :
    push n (l.rtake n) x = (l ++ [x]).rtake n := by
  unfold push
  cases n with
  | zero => rw [List.rtake_zero, List.rtake_zero]
  | succ n => rw [List.rtake_concat_succ, List.rtake_concat_succ, rtake_rtake_succ]

/-- After any entries the last of them are kept. -/
theorem run_push (n : Nat) (l : List α) : run (push n) [] l = l.rtake n := by
  induction l using List.reverseRecOn with
  | nil => rw [run_nil, List.rtake_nil]
  | append_singleton l x ih => rw [run_append, run_cons, run_nil, ih, push_rtake]

theorem push_of_lt {n : Nat} {kept : List α} (h : kept.length < n) (x : α) :
    push n kept x = kept ++ [x] :=
  rtake_of_length_le (by rw [List.length_append]; exact h)

/-- One entry too many drops the first. -/
theorem push_of_length_eq {n : Nat} {kept : List α} (h : kept.length = n) (x : α) :
    push n kept x = (kept ++ [x]).drop 1 := by
  rw [push, List.rtake, List.length_append, h, List.length_singleton, Nat.add_sub_cancel_left]

theorem take_set_succ {slots : List α} {next : Nat} (h : next < slots.length) (x : α) :
    (slots.set next x).take (next + 1) = slots.take next ++ [x] := by
  have hlength : (slots.take next).length = next := List.length_take_of_le (Nat.le_of_lt h)
  rw [List.set_eq_take_cons_drop x h, List.take_append, hlength, Nat.add_sub_cancel_left,
    List.take_of_length_le (Nat.le_succ_of_le (Nat.le_of_eq hlength))]
  rfl

/-- Overwriting the oldest slot and moving on is dropping the first entry and adding one. -/
theorem rotate_set_succ {slots : List α} {next : Nat} (h : next < slots.length) (x : α) :
    (slots.set next x).rotate (next + 1) = (slots.rotate next ++ [x]).drop 1 := by
  have hlength : next + 1 ≤ (slots.set next x).length := by
    rw [List.length_set]
    exact h
  calc
    (slots.set next x).rotate (next + 1)
      = slots.drop (next + 1) ++ (slots.take next ++ [x]) := by
        rw [List.rotate_eq_drop_append_take hlength, take_set_succ h,
          List.drop_set_of_lt (Nat.lt_succ_self next)]
    _ = (slots.rotate next ++ [x]).drop 1 := by
        rw [List.rotate_eq_drop_append_take (Nat.le_of_lt h), List.drop_eq_getElem_cons h,
          List.append_assoc, List.cons_append, List.drop_succ_cons, List.drop_zero]

end KeepLast
