import Boxui.Core.SBInstance
import Boxui.Library.Machine
import Mathlib.Data.List.Perm.Subperm

/-! Any number of callers use one kernel instance. A start and a stop are atomic under the
instance's mutex; a restart is a stop followed by a start, with the other callers free to
run between the two. -/
namespace Boxui.Core

variable {Bytes : Type*}

/-- The instance, and the callers that have stopped it for a restart and not yet gone on. -/
structure SharedKernel (Bytes : Type*) where
  inst : SBInstance Bytes
  restarting : List Nat

inductive KernelCall (Bytes : Type*) where
  | start (caller : Nat) (file : Option Bytes) (outcome : StartOutcome)
  | stop (caller : Nat) (closeFails : Bool)
  | restart (caller : Nat) (closeFails : Bool)
  | restartStart (caller : Nat) (file : Option Bytes) (outcome : StartOutcome)

theorem SBInstance.Valid.running_iff {s : SBInstance Bytes} (hs : s.Valid) :
    s.running = true ↔ s.box ≠ none ∧ s.boxCtx ≠ none ∧ s.cancel ≠ none := by
  rw [hs.running_eq, hs.boxCtx_eq, hs.cancel_eq, currentAttempt]
  cases s.box <;> simp

theorem SBInstance.Valid.stopped {s : SBInstance Bytes} (hs : s.Valid)
    (hstopped : s.running = false) : s.box = none ∧ s.boxCtx = none ∧ s.cancel = none := by
  have hcur := hs.currentAttempt_eq_none hstopped
  refine ⟨?_, hs.boxCtx_eq.trans hcur, hs.cancel_eq.trans hcur⟩
  simpa [currentAttempt] using hcur

/-- The open boxes are distinct and all of the current attempt. -/
theorem SBInstance.Valid.open_le_one {s : SBInstance Bytes} (hs : s.Valid) :
    (s.ledger.created.filter (· ∉ s.ledger.closed)).length ≤ 1 := by
  have hopen : s.ledger.created.filter (· ∉ s.ledger.closed) ⊆ s.currentAttempt.toList := by
    intro a ha
    rw [List.mem_filter, decide_eq_true_eq] at ha
    have hcount := hs.closed_count a
    rw [List.count_eq_zero_of_not_mem ha.2] at hcount
    by_contra hne
    rw [if_pos ⟨ha.1, by simpa using hne⟩] at hcount
    omega
  have hlen := (List.subperm_of_subset (hs.created_nodup.filter _) hopen).length_le
  have hone : s.currentAttempt.toList.length ≤ 1 := by cases s.currentAttempt <;> simp
  omega

namespace SharedKernel

def initial : SharedKernel Bytes := ⟨SBInstance.newSBInstance, []⟩

/-- A caller in the middle of a restart can only go on with it. -/
def step (k : SharedKernel Bytes) : KernelCall Bytes → SharedKernel Bytes
  | .start caller file outcome =>
    if caller ∈ k.restarting then k else { k with inst := (k.inst.start file outcome).1 }
  | .stop caller closeFails =>
    if caller ∈ k.restarting then k else { k with inst := (k.inst.stop closeFails).1 }
  | .restart caller closeFails =>
    if caller ∈ k.restarting then k
    else
      match k.inst.stop closeFails with
      | (inst, .error ()) => { k with inst := inst }
      | (inst, .ok ()) => ⟨inst, caller :: k.restarting⟩
  | .restartStart caller file outcome =>
    if caller ∈ k.restarting then
      ⟨(k.inst.start file outcome).1, k.restarting.erase caller⟩
    else k

theorem step_valid (k : SharedKernel Bytes) (call : KernelCall Bytes) (hk : k.inst.Valid) :
    (k.step call).inst.Valid := by
  cases call with
  | start caller file outcome =>
    simp only [step]
    split_ifs
    · exact hk
    · exact hk.start file outcome
  | stop caller closeFails =>
    simp only [step]
    split_ifs
    · exact hk
    · exact hk.stop closeFails
  | restart caller closeFails =>
    have hstop := hk.stop closeFails
    simp only [step]
    rcases hS : k.inst.stop closeFails with ⟨inst, r⟩
    rw [hS] at hstop
    cases r <;> split_ifs <;> first | exact hk | exact hstop
  | restartStart caller file outcome =>
    simp only [step]
    split_ifs
    · exact hk.start file outcome
    · exact hk

theorem run_valid (calls : List (KernelCall Bytes)) :
    (Machine.run step (initial : SharedKernel Bytes) calls).inst.Valid :=
  Machine.run_invariant (P := fun k : SharedKernel Bytes => k.inst.Valid) step_valid
    SBInstance.valid_newSBInstance calls

/-- In every state that any interleaving of calls reaches, the instance runs exactly when it
holds a box, a context and a cancel function, at most one box is open, every other box has
been closed once, and the context of every other attempt has been cancelled. -/
theorem kernel_life_cycle (calls : List (KernelCall Bytes)) :
    let s := (Machine.run step (initial : SharedKernel Bytes) calls).inst
    (s.running = true ↔ s.box ≠ none ∧ s.boxCtx ≠ none ∧ s.cancel ≠ none) ∧
    (s.running = false → s.box = none ∧ s.boxCtx = none ∧ s.cancel = none) ∧
    (s.ledger.created.filter (· ∉ s.ledger.closed)).length ≤ 1 ∧
    (∀ a ∈ s.ledger.created, s.currentAttempt ≠ some a → s.ledger.closed.count a = 1) ∧
    ∀ a < s.ledger.attempts, s.currentAttempt ≠ some a → a ∈ s.ledger.cancelled := by
  intro s
  have hs : s.Valid := run_valid calls
  refine ⟨hs.running_iff, hs.stopped, hs.open_le_one, ?_, ?_⟩
  · intro a ha hne
    rw [hs.closed_count, if_pos ⟨ha, hne⟩]
  · intro a ha hne
    exact (hs.cancelled_iff a).mpr ⟨ha, hne⟩

end SharedKernel

end Boxui.Core
