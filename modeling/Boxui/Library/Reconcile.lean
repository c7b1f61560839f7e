import Mathlib.Data.List.Induction
import Mathlib.Data.List.Nodup

/-! Reconciliation of a tagged list. A pass keeps some entries of the list, drops the
rest, and appends one entry for every writer, rebuilt from the last entry the list held
under the writer's key. The main result says when a second pass changes nothing. -/
namespace Reconcile

variable {α κ : Type*} [DecidableEq κ]

/-- The last entry of the list with a given tag. -/
def latest (tag : α → κ) (l : List α) (k : κ) : Option α := l.reverse.find? (tag · = k)

theorem latest_append (tag : α → κ) (l l' : List α) (k : κ) :
    latest tag (l ++ l') k = (latest tag l' k).or (latest tag l k) := by
  simp [latest, List.find?_append]

theorem tag_latest {tag : α → κ} {l : List α} {k : κ} {x : α} (h : latest tag l k = some x) :
    tag x = k := by
  simpa using List.find?_some h

theorem mem_of_latest {tag : α → κ} {l : List α} {k : κ} {x : α} (h : latest tag l k = some x) :
    x ∈ l := by
  simpa using List.mem_of_find?_eq_some h

theorem latest_eq_of_nodup {tag : α → κ} {l : List α} (hnodup : (l.map tag).Nodup) {x : α}
    (hx : x ∈ l) : latest tag l (tag x) = some x := by
  cases h : latest tag l (tag x) with
  | none =>
    have hne := List.find?_eq_none.mp h x (List.mem_reverse.mpr hx)
    simp at hne
  | some y =>
    rw [List.inj_on_of_nodup_map hnodup (mem_of_latest h) hx (tag_latest h)]

/-- Distinct tags single an element out. -/
theorem filter_eq_singleton {f : α → κ} {l : List α}
    (hnodup : (l.map f).Nodup) {x : α} (hx : x ∈ l) : l.filter (f · = f x) = [x] := by
  induction l with
  | nil => cases hx
  | cons y l ih =>
    rw [List.map_cons, List.nodup_cons] at hnodup
    rcases List.mem_cons.mp hx with rfl | hmem
    · have hrest : l.filter (f · = f x) = [] := by
        rw [List.filter_eq_nil_iff]
        intro z hz
        rw [decide_eq_true_eq]
        intro heq
        exact hnodup.1 (heq ▸ List.mem_map_of_mem hz)
      rw [List.filter_cons_of_pos (by simp), hrest]
    · have hne : f y ≠ f x := fun heq => hnodup.1 (heq ▸ List.mem_map_of_mem hmem)
      rw [List.filter_cons_of_neg (by simpa using hne), ih hnodup.2 hmem]

theorem latest_map {β : Type*} (tag : α → κ) (f : β → α) (l : List β) (k : κ) :
    latest tag (l.map f) k = (latest (tag ∘ f) l k).map f := by
  simp only [latest, ← List.map_reverse, List.find?_map]
  rfl

/-- A writer appends one entry. `key` names the entry it is rebuilt from, if any. -/
structure Writer (α κ : Type*) where
  key : Option κ
  write : Option α → α

namespace Writer

/-- What the writer finds in the list. -/
def found (tag : α → κ) (l : List α) (w : Writer α κ) : Option α := w.key.bind (latest tag l)

def entry (tag : α → κ) (l : List α) (w : Writer α κ) : α := w.write (w.found tag l)

end Writer

def reconcile (tag : α → κ) (fixed : List α) (keep : α → Bool) (ws : List (Writer α κ))
    (l : List α) : List α :=
  fixed ++ l.filter keep ++ ws.map (Writer.entry tag l)

/-- What the next pass keeps: the entries kept before, and the written ones it does not
recognise as its own. -/
theorem filter_reconcile {tag : α → κ} {fixed : List α} {keep keep' : α → Bool}
    {ws : List (Writer α κ)} {l : List α} (hfixed : ∀ x ∈ fixed, keep' x = false)
    (hkeep : ∀ x ∈ l, keep x → keep' x) :
    (reconcile tag fixed keep ws l).filter keep' =
      l.filter keep ++ (ws.map (Writer.entry tag l)).filter keep' := by
  have hf : fixed.filter keep' = [] := by
    rw [List.filter_eq_nil_iff]
    intro x hx
    simp [hfixed x hx]
  have hl : (l.filter keep).filter keep' = l.filter keep := by
    rw [List.filter_eq_self]
    intro x hx
    rw [List.mem_filter] at hx
    exact hkeep x hx.1 hx.2
  simp [reconcile, List.filter_append, hf, hl]

/-- A second pass reproduces the list exactly when it keeps none of the entries the first
one wrote and rebuilds each of them as it was. The second pass may run with other writers,
as long as it has at least as many, and the same ones once nothing is kept by mistake. -/
theorem reconcile_again_eq_iff {tag : α → κ} {fixed : List α} {keep keep' : α → Bool}
    {ws ws' : List (Writer α κ)} {l : List α} (hfixed : ∀ x ∈ fixed, keep' x = false)
    (hkeep : ∀ x ∈ l, keep x → keep' x) (hlen : ws.length ≤ ws'.length)
    (hsame : (∀ w ∈ ws, keep' (w.entry tag l) = false) → ws' = ws) :
    reconcile tag fixed keep' ws' (reconcile tag fixed keep ws l) =
        reconcile tag fixed keep ws l ↔
      (∀ w ∈ ws, keep' (w.entry tag l) = false) ∧
        ∀ w ∈ ws, w.entry tag (reconcile tag fixed keep ws l) = w.entry tag l := by
  have hunfold : reconcile tag fixed keep' ws' (reconcile tag fixed keep ws l) =
      fixed ++ (l.filter keep ++ (ws.map (Writer.entry tag l)).filter keep') ++
        ws'.map (Writer.entry tag (reconcile tag fixed keep ws l)) := by
    rw [← filter_reconcile hfixed hkeep]
    rfl
  have hnone : (ws.map (Writer.entry tag l)).filter keep' = [] ↔
      ∀ w ∈ ws, keep' (w.entry tag l) = false := by
    simp [List.filter_eq_nil_iff]
  constructor
  · intro h
    have hstray : ∀ w ∈ ws, keep' (w.entry tag l) = false := by
      rw [← hnone, ← List.length_eq_zero_iff]
      have hcount := congrArg List.length (hunfold.symm.trans h)
      simp only [reconcile, List.length_append, List.length_map] at hcount
      omega
    refine ⟨hstray, ?_⟩
    rw [hunfold, hnone.mpr hstray, hsame hstray, List.append_nil] at h
    have hmap := List.append_cancel_left h
    exact fun w hw => List.map_inj_left.mp hmap w hw
  · rintro ⟨hstray, hrebuilt⟩
    rw [hunfold, hnone.mpr hstray, hsame hstray, List.append_nil, List.map_congr_left hrebuilt]
    rfl

end Reconcile
