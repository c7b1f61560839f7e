import Mathlib.Data.List.Basic

/-! Go's slices. A slice is a window on an array that other slices may see as well; `append`
writes into the array as far as the capacity goes, and moves to a new array when it does not. -/
namespace GoSlices

variable {α : Type*}

/-- The arrays, in the order of their allocation. -/
abbrev Heap (α : Type*) := List (List α)

structure Slice where
  array : ℕ
  start : ℕ
  len : ℕ
  cap : ℕ
  deriving DecidableEq

/-- The array of a slice; `nil` has none. -/
def arrayOf (heap : Heap α) (s : Slice) : List α := heap.getD s.array []

def elems (heap : Heap α) (s : Slice) : List α := ((arrayOf heap s).drop s.start).take s.len

structure Slice.Valid (heap : Heap α) (s : Slice) : Prop where
  len : s.len ≤ s.cap
  cap : s.start + s.cap ≤ (arrayOf heap s).length

namespace Slice

def nil : Slice := ⟨0, 0, 0, 0⟩

/-- `s[:len(s):len(s)]`. -/
def clip (s : Slice) : Slice := { s with cap := s.len }

end Slice

def write (array : List α) (pos : ℕ) (xs : List α) : List α :=
  array.take pos ++ xs ++ array.drop (pos + xs.length)

/-- A new array has room for as many elements more as the allocation leaves over. -/
def append (zero : α) (spare : ℕ) (s : Slice) (xs : List α) (heap : Heap α) : Slice × Heap α :=
  if s.len + xs.length ≤ s.cap then
    ({ s with len := s.len + xs.length },
      heap.set s.array (write (arrayOf heap s) (s.start + s.len) xs))
  else
    (⟨heap.length, 0, s.len + xs.length, s.len + xs.length + spare⟩,
      heap ++ [elems heap s ++ xs ++ List.replicate spare zero])

/-- Two slices share the room behind a third: the second append overwrites the first. -/
example :
    let first := append 0 1 .nil [1] ([] : Heap ℕ)
    let second := append 0 0 first.1 [2] first.2
    let third := append 0 0 first.1 [3] second.2
    elems second.2 second.1 = [1, 2] ∧ elems third.2 second.1 = [1, 3] := by decide

theorem valid_nil (heap : Heap α) : Slice.nil.Valid heap := ⟨Nat.le_refl 0, Nat.zero_le _⟩

theorem elems_nil (heap : Heap α) : elems heap .nil = [] := List.take_zero

@[simp] theorem elems_clip (heap : Heap α) (s : Slice) : elems heap s.clip = elems heap s := rfl

theorem length_elems {heap : Heap α} {s : Slice} (h : s.Valid heap) :
    (elems heap s).length = s.len := by
  have hlen := h.len
  have hcap := h.cap
  rw [elems, List.length_take, List.length_drop]
  omega

theorem Slice.Valid.clip {heap : Heap α} {s : Slice} (h : s.Valid heap) : s.clip.Valid heap := by
  have hlen := h.len
  have hcap := h.cap
  refine ⟨Nat.le_refl _, ?_⟩
  show s.start + s.len ≤ (arrayOf heap s).length
  omega

/-- A slice without elements may have no array; any other has one that a longer heap keeps. -/
theorem arrayOf_grow {heap heap' : Heap α} (hheap : heap <+: heap') {s : Slice}
    (h : s.array < heap.length) : arrayOf heap' s = arrayOf heap s := by
  obtain ⟨more, rfl⟩ := hheap
  rw [arrayOf, arrayOf, List.getD_eq_getElem?_getD, List.getD_eq_getElem?_getD,
    List.getElem?_append_left h]

theorem arrayOf_none {heap : Heap α} {s : Slice} (h : heap.length ≤ s.array) :
    arrayOf heap s = [] := by
  rw [arrayOf, List.getD_eq_getElem?_getD, List.getElem?_eq_none h, Option.getD_none]

/-- New arrays leave every slice as it was. -/
theorem Slice.Valid.grow {heap heap' : Heap α} (hheap : heap <+: heap') {s : Slice}
    (h : s.Valid heap) : s.Valid heap' ∧ elems heap' s = elems heap s := by
  have hlen := h.len
  have hcap := h.cap
  by_cases harray : s.array < heap.length
  · have hsame := arrayOf_grow hheap harray
    refine ⟨⟨hlen, ?_⟩, ?_⟩
    · rw [hsame]
      exact hcap
    · rw [elems, elems, hsame]
  · have hnone : arrayOf heap s = [] := arrayOf_none (by omega)
    rw [hnone, List.length_nil] at hcap
    have hzero : s.len = 0 := by omega
    refine ⟨⟨hlen, by omega⟩, ?_⟩
    rw [elems, elems, hzero, List.take_zero, List.take_zero]

theorem length_write {array : List α} {pos : ℕ} {xs : List α}
    (h : pos + xs.length ≤ array.length) : (write array pos xs).length = array.length := by
  rw [write, List.length_append, List.length_append, List.length_take, List.length_drop]
  omega

/-- What was written stands behind the elements before it. -/
theorem window_write {array : List α} {start len : ℕ} {xs : List α}
    (h : start + len + xs.length ≤ array.length) :
    ((write array (start + len) xs).drop start).take (len + xs.length) =
      (array.drop start).take len ++ xs := by
  have hlength : ((array.drop start).take len).length = len := by
    rw [List.length_take, List.length_drop]
    omega
  have hdrop : (write array (start + len) xs).drop start =
      (array.drop start).take len ++ (xs ++ array.drop (start + len + xs.length)) := by
    rw [write, List.append_assoc, List.drop_append_of_le_length, List.drop_take,
      Nat.add_sub_cancel_left]
    rw [List.length_take]
    omega
  have hall : ((array.drop start).take len ++ xs).length = len + xs.length := by
    rw [List.length_append, hlength]
  rw [hdrop, ← List.append_assoc, List.take_append_of_le_length (Nat.le_of_eq hall.symm),
    List.take_of_length_le (Nat.le_of_eq hall)]

theorem elems_append (zero : α) (spare : ℕ) {heap : Heap α} {s : Slice} (h : s.Valid heap)
    (xs : List α) :
    (append zero spare s xs heap).1.Valid (append zero spare s xs heap).2 ∧
      elems (append zero spare s xs heap).2 (append zero spare s xs heap).1 =
        elems heap s ++ xs := by
  have hlen := h.len
  have hcap := h.cap
  unfold append
  split
  · next hroom =>
    by_cases harray : s.array < heap.length
    · have hself : arrayOf (heap.set s.array (write (arrayOf heap s) (s.start + s.len) xs))
          { s with len := s.len + xs.length } =
            write (arrayOf heap s) (s.start + s.len) xs := by
        rw [arrayOf, List.getD_eq_getElem?_getD, List.getElem?_set_self harray, Option.getD_some]
      refine ⟨⟨hroom, ?_⟩, ?_⟩
      · rw [hself, length_write (by omega)]
        exact hcap
      · rw [elems, hself]
        have hfits : s.start + s.len + xs.length ≤ (arrayOf heap s).length := by omega
        exact window_write hfits
    · have hnone : arrayOf heap s = [] := arrayOf_none (by omega)
      rw [hnone, List.length_nil] at hcap
      obtain rfl : xs = [] := List.eq_nil_of_length_eq_zero (by omega)
      rw [List.set_eq_of_length_le (by omega), List.append_nil]
      exact ⟨h, rfl⟩
  · next hroom =>
    have hself : arrayOf (heap ++ [elems heap s ++ xs ++ List.replicate spare zero])
        ⟨heap.length, 0, s.len + xs.length, s.len + xs.length + spare⟩ =
          elems heap s ++ xs ++ List.replicate spare zero := by
      rw [arrayOf, List.getD_eq_getElem?_getD, List.getElem?_concat_length, Option.getD_some]
    have hlength : (elems heap s ++ xs).length = s.len + xs.length := by
      rw [List.length_append, length_elems h]
    refine ⟨⟨Nat.le_add_right _ _, ?_⟩, ?_⟩
    · rw [hself, List.length_append, hlength, List.length_replicate]
      exact Nat.le_of_eq (Nat.zero_add _)
    · rw [elems, hself, List.drop_zero, List.take_append_of_le_length (Nat.le_of_eq hlength.symm),
        List.take_of_length_le (Nat.le_of_eq hlength)]

theorem set_arrayOf (heap : Heap α) (s : Slice) :
    heap.set s.array (arrayOf heap s) = heap := by
  by_cases harray : s.array < heap.length
  · rw [arrayOf, List.getD_eq_getElem?_getD, List.getElem?_eq_getElem harray, Option.getD_some,
      List.set_getElem_self]
  · exact List.set_eq_of_length_le (by omega)

/-- An append to a clipped slice writes into no array that was there before. -/
theorem append_clip (zero : α) (spare : ℕ) (heap : Heap α) (s : Slice) (xs : List α) :
    heap <+: (append zero spare s.clip xs heap).2 := by
  unfold append
  split
  · next hroom =>
    -- only an append of nothing fits
    have hroom' : s.len + xs.length ≤ s.len := hroom
    obtain rfl : xs = [] := List.eq_nil_of_length_eq_zero (by omega)
    have hsame : write (arrayOf heap s.clip) (s.clip.start + s.clip.len) [] =
        arrayOf heap s.clip := by
      rw [write, List.append_nil]
      exact List.take_append_drop _ _
    rw [hsame]
    exact ⟨[], (List.append_nil heap).trans (set_arrayOf heap s.clip).symm⟩
  · exact List.prefix_append _ _

end GoSlices
