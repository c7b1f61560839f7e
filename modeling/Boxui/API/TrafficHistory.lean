import Boxui.Core.LogWriter
import Boxui.Library.KeepLast

/-! The ring of the traffic history: a history that keeps its last points, as the buffer of the
log keeps its last entries. -/
namespace Boxui.API
open Boxui.Core Machine KeepLast

def defaultTrafficHistoryLimit : Nat := 600

/-- `timestamp` counts from the zero time. -/
structure TrafficHistoryPoint where
  timestamp : Nat
  uploadBytes : Int
  downloadBytes : Int
  deriving DecidableEq

structure TrafficHistoryBuffer where
  points : List TrafficHistoryPoint
  next : Nat
  full : Bool
  limit : Nat

def newTrafficHistoryBuffer (limit : Int) : TrafficHistoryBuffer :=
  let limit := if limit ≤ 0 then defaultTrafficHistoryLimit else limit.toNat
  ⟨List.replicate limit ⟨0, 0, 0⟩, 0, false, limit⟩

namespace TrafficHistoryBuffer

def add (b : TrafficHistoryBuffer) (point : TrafficHistoryPoint) : TrafficHistoryBuffer :=
  let next := (b.next + 1) % b.limit
  { b with points := b.points.set b.next point, next := next, full := b.full || next == 0 }

def snapshot (b : TrafficHistoryBuffer) : List TrafficHistoryPoint :=
  if !b.full && b.next == 0 then []
  else if !b.full then b.points.take b.next
  else b.points.drop b.next ++ b.points.take b.next

/-- The ring stores a history of at most `limit` points. -/
structure Stores (b : TrafficHistoryBuffer) (kept : List TrafficHistoryPoint) : Prop where
  length : b.points.length = b.limit
  next_lt : b.next < b.limit
  kept_eq : kept = if b.full then b.points.rotate b.next else b.points.take b.next

variable {b : TrafficHistoryBuffer} {kept : List TrafficHistoryPoint}

theorem Stores.snapshot (h : b.Stores kept) : b.snapshot = kept := by
  obtain ⟨hlength, hnext, rfl⟩ := h
  unfold TrafficHistoryBuffer.snapshot
  cases b.full with
  | true =>
    rw [if_pos rfl, List.rotate_eq_drop_append_take (by omega)]
    rfl
  | false =>
    by_cases hzero : b.next = 0
    · simp [hzero]
    · simp [hzero]

theorem Stores.add_full (hlength : b.points.length = b.limit) (hnext : b.next < b.limit)
    (point : TrafficHistoryPoint) :
    push b.limit (b.points.rotate b.next) point =
      (b.points.set b.next point).rotate ((b.next + 1) % b.limit) := by
  have hset : (b.points.set b.next point).length = b.limit := List.length_set.trans hlength
  have hmod : (b.points.set b.next point).rotate ((b.next + 1) % b.limit) =
      (b.points.set b.next point).rotate (b.next + 1) := by
    rw [← hset, List.rotate_mod]
  rw [hmod, rotate_set_succ (by omega)]
  exact push_of_length_eq ((List.length_rotate ..).trans hlength) point

/-- Adding a point is adding it to the history. -/
theorem Stores.add (h : b.Stores kept) (point : TrafficHistoryPoint) :
    (b.add point).Stores (push b.limit kept point) := by
  obtain ⟨hlength, hnext, rfl⟩ := h
  have hset : (b.points.set b.next point).length = b.limit := List.length_set.trans hlength
  refine ⟨hset, Nat.mod_lt _ (by omega), ?_⟩
  unfold TrafficHistoryBuffer.add
  cases b.full with
  | true => exact add_full hlength hnext point
  | false =>
    have hkept : push b.limit (b.points.take b.next) point =
        (b.points.set b.next point).take (b.next + 1) := by
      rw [take_set_succ (by omega), push_of_lt (by rw [List.length_take]; omega)]
    dsimp only
    rw [if_neg Bool.false_ne_true, hkept]
    -- the ring becomes full when the index comes round to 0
    by_cases hround : b.next + 1 = b.limit
    · rw [if_pos (by simp [hround]), hround, Nat.mod_self, List.rotate_zero,
        List.take_of_length_le (Nat.le_of_eq hset)]
    · have hmod : (b.next + 1) % b.limit = b.next + 1 := Nat.mod_eq_of_lt (by omega)
      rw [hmod, if_neg (by simp)]

theorem stores_new {limit : Int} (h : 0 < limit) :
    (newTrafficHistoryBuffer limit).Stores [] ∧
      (newTrafficHistoryBuffer limit).limit = limit.toNat := by
  have hlimit : (newTrafficHistoryBuffer limit).limit = limit.toNat :=
    if_neg (Int.not_le.mpr h)
  refine ⟨⟨List.length_replicate, ?_, rfl⟩, hlimit⟩
  rw [hlimit]
  exact Int.lt_toNat.mpr h

/-- A run of the ring is a run of the history it stores. -/
theorem Stores.run (h : b.Stores kept) (points : List TrafficHistoryPoint) :
    (run TrafficHistoryBuffer.add b points).Stores (run (push b.limit) kept points) := by
  induction points generalizing b kept with
  | nil => exact h
  | cons point points ih => exact ih (h.add point)

end TrafficHistoryBuffer

/-- A snapshot of the traffic history has exactly the last points, as many as there are up to the
limit, and the log exactly the last entries of the writes, whatever comes between them. -/
theorem histories_keepLast :
    (∀ (limit : Int) (points : List TrafficHistoryPoint), 0 < limit →
      (run TrafficHistoryBuffer.add (newTrafficHistoryBuffer limit) points).snapshot =
        points.rtake limit.toNat) ∧
    (∀ (maxBuf : Nat) (writes : List LogWrite),
      (run LogWriter.step (newLogWriter maxBuf) (writes.map .write)).recent =
        (writes.map LogWrite.entry).rtake maxBuf) ∧
    ∀ (maxBuf : Nat) (labels : List LogStep),
      (run LogWriter.step (newLogWriter maxBuf) labels).recent =
        (logged (run LogWriter.step (newLogWriter maxBuf) labels)).rtake maxBuf := by
  refine ⟨fun limit points hlimit => ?_, fun maxBuf writes => ?_, fun maxBuf labels => ?_⟩
  · obtain ⟨hstores, heq⟩ := TrafficHistoryBuffer.stores_new hlimit
    rw [(hstores.run points).snapshot, run_push, heq]
  · have hlogged := logged_writes (newLogWriter maxBuf) rfl writes
    exact (keepsLog_run maxBuf _).buffer_eq.trans (congrArg (List.rtake · maxBuf) hlogged)
  · exact (keepsLog_run maxBuf labels).buffer_eq

/-- The ring at the moment it first becomes full, and one point later. -/
theorem twoPoints_kept :
    (0 : Int) < 2 ∧
    (run TrafficHistoryBuffer.add (newTrafficHistoryBuffer 2)
      [⟨1, 0, 0⟩, ⟨2, 0, 0⟩]).snapshot = [⟨1, 0, 0⟩, ⟨2, 0, 0⟩] ∧
    (run TrafficHistoryBuffer.add (newTrafficHistoryBuffer 2)
      [⟨1, 0, 0⟩, ⟨2, 0, 0⟩, ⟨3, 0, 0⟩]).snapshot = [⟨2, 0, 0⟩, ⟨3, 0, 0⟩] :=
  ⟨by decide, histories_keepLast.1 2 _ (by decide), histories_keepLast.1 2 _ (by decide)⟩

end Boxui.API
