import Mathlib.Data.List.Perm.Basic

/-! Entries handed over through a queue. A writer first records an entry as pending, then puts
it into the queue; the reader takes the entries of the queue in turn. -/
namespace Handover

variable {α : Type*}

/-- `later` is the record of all entries written, in order. -/
structure Flow (α : Type*) where
  delivered : List α
  queue : List α
  pending : List α
  later : List α

namespace Flow

inductive Step : Flow α → Flow α → Prop where
  | stay (f : Flow α) : Step f f
  | write (f : Flow α) (a : α) :
      Step f { f with pending := f.pending ++ [a], later := f.later ++ [a] }
  | send (f : Flow α) (a : α) (rest : List α) (h : f.pending.Perm (a :: rest)) :
      Step f { f with queue := f.queue ++ [a], pending := rest }
  | deliver (f : Flow α) (a : α) (rest : List α) (h : f.queue = a :: rest) :
      Step f { f with delivered := f.delivered ++ [a], queue := rest }

/-- Everything written was delivered after `first`, is queued or is pending, once each. -/
def Conserved (first : List α) (f : Flow α) : Prop :=
  first <+: f.delivered ∧ (f.delivered ++ f.queue ++ f.pending).Perm (first ++ f.later)

def InOrder (first : List α) (f : Flow α) : Prop :=
  f.delivered ++ f.queue ++ f.pending = first ++ f.later

theorem Step.conserved {first : List α} {f g : Flow α} (h : Step f g) (hf : f.Conserved first) :
    g.Conserved first := by
  obtain ⟨hinitial, hperm⟩ := hf
  cases h with
  | stay => exact ⟨hinitial, hperm⟩
  | write a =>
    refine ⟨hinitial, ?_⟩
    rw [← List.append_assoc, ← List.append_assoc]
    exact hperm.append_right [a]
  | send a rest h =>
    refine ⟨hinitial, List.Perm.trans ?_ hperm⟩
    simp only [List.append_assoc, List.singleton_append]
    exact (h.symm.append_left _).append_left _
  | deliver a rest h =>
    refine ⟨hinitial.trans (List.prefix_append _ _), ?_⟩
    rw [h] at hperm
    simpa only [List.append_assoc, List.singleton_append] using hperm

/-- The order is kept when a write starts with nothing pending. -/
theorem Step.inOrder {first : List α} {f g : Flow α} (h : Step f g) (hf : f.InOrder first)
    (hone : f.pending.length ≤ 1) (hwrite : g.later ≠ f.later → f.pending = []) :
    g.InOrder first ∧ g.pending.length ≤ 1 := by
  unfold InOrder at hf ⊢
  cases h with
  | stay => exact ⟨hf, hone⟩
  | write a =>
    have hnil : f.pending = [] := hwrite (by simp)
    simp only [hnil, List.append_nil, List.nil_append] at hf ⊢
    refine ⟨?_, Nat.le_refl _⟩
    rw [← List.append_assoc, ← hf]
  | send a rest h =>
    have hrest : rest = [] := by
      have hlen := h.length_eq
      rw [List.length_cons] at hlen
      exact List.length_eq_zero_iff.mp (by omega)
    subst hrest
    rw [List.perm_singleton.mp h] at hf
    refine ⟨?_, Nat.zero_le _⟩
    simpa only [List.append_assoc, List.append_nil] using hf
  | deliver a rest h =>
    rw [h] at hf
    refine ⟨?_, hone⟩
    simpa only [List.append_assoc, List.singleton_append] using hf

end Flow

end Handover
