import Mathlib.Data.List.Basic

/-! Runs of a machine that takes one labelled step at a time. A label that is not enabled
leaves the state as it is, so every list of labels is a run. -/
namespace Machine

variable {σ ι : Type*}

def run (step : σ → ι → σ) (s : σ) (labels : List ι) : σ := labels.foldl step s

variable {step : σ → ι → σ}

@[simp] theorem run_nil (s : σ) : run step s [] = s := rfl

@[simp] theorem run_cons (s : σ) (i : ι) (labels : List ι) :
    run step s (i :: labels) = run step (step s i) labels := rfl

theorem run_append (s : σ) (labels labels' : List ι) :
    run step s (labels ++ labels') = run step (run step s labels) labels' := by
  simp [run, List.foldl_append]

/-- Every step of the run satisfies a condition on its label and on the state before it. -/
def Along (step : σ → ι → σ) (cond : σ → ι → Prop) : σ → List ι → Prop
  | _, [] => True
  | s, i :: labels => cond s i ∧ Along step cond (step s i) labels

theorem along_of_forall {cond : σ → ι → Prop} {labels : List ι}
    (h : ∀ i ∈ labels, ∀ s, cond s i) (s : σ) : Along step cond s labels := by
  induction labels generalizing s with
  | nil => trivial
  | cons i labels ih =>
    exact ⟨h i List.mem_cons_self s, ih (fun j hj => h j (List.mem_cons_of_mem i hj)) _⟩

theorem Along.of_append {cond : σ → ι → Prop} {s : σ} {labels labels' : List ι}
    (h : Along step cond s (labels ++ labels')) : Along step cond s labels := by
  induction labels generalizing s with
  | nil => trivial
  | cons i labels ih => exact ⟨h.1, ih h.2⟩

theorem Along.and {cond cond' : σ → ι → Prop} {s : σ} {labels : List ι}
    (h : Along step cond s labels) (h' : Along step cond' s labels) :
    Along step (fun s i => cond s i ∧ cond' s i) s labels := by
  induction labels generalizing s with
  | nil => trivial
  | cons i labels ih => exact ⟨⟨h.1, h'.1⟩, ih h.2 h'.2⟩

theorem Along.congr {cond cond' : σ → ι → Prop} (h : ∀ s i, cond s i ↔ cond' s i) (s : σ)
    (labels : List ι) : Along step cond s labels ↔ Along step cond' s labels := by
  induction labels generalizing s with
  | nil => exact Iff.rfl
  | cons i labels ih => exact and_congr (h s i) (ih _)

/-- A condition that an invariant of the run implies is met along the run. -/
theorem Along.of_invariant {cond cond' : σ → ι → Prop} {P : σ → Prop} {s : σ} {labels : List ι}
    (h : Along step cond s labels) (hstep : ∀ s i, cond s i → P s → P (step s i))
    (himp : ∀ s i, cond s i → P s → cond' s i) (hs : P s) : Along step cond' s labels := by
  induction labels generalizing s with
  | nil => trivial
  | cons i labels ih => exact ⟨himp s i h.1 hs, ih h.2 (hstep s i h.1 hs)⟩

/-- A property that every step under the condition preserves holds at the end of every run
whose steps all meet the condition. -/
theorem run_along {cond : σ → ι → Prop} {P : σ → Prop}
    (hstep : ∀ s i, cond s i → P s → P (step s i)) {s : σ} {labels : List ι}
    (hcond : Along step cond s labels) (hs : P s) : P (run step s labels) := by
  induction labels generalizing s with
  | nil => exact hs
  | cons i labels ih =>
    obtain ⟨hi, hrest⟩ := hcond
    exact ih hrest (hstep s i hi hs)

theorem run_invariant {P : σ → Prop} (hstep : ∀ s i, P s → P (step s i)) {s : σ} (hs : P s)
    (labels : List ι) : P (run step s labels) := by
  induction labels generalizing s with
  | nil => exact hs
  | cons i labels ih => exact ih (hstep s i hs)

/-- A machine simulates another along `abs` when each label does what the label it is observed
as does, or nothing; its runs are then runs of the other. -/
theorem run_simulation_along {τ κ : Type*} {step' : τ → κ → τ} {cond : σ → ι → Prop} (abs : σ → τ)
    (obs : ι → Option κ)
    (hstep : ∀ s i, cond s i → abs (step s i) = (obs i).elim (abs s) (step' (abs s))) {s : σ}
    {labels : List ι} (h : Along step cond s labels) :
    abs (run step s labels) = run step' (abs s) (labels.filterMap obs) := by
  induction labels generalizing s with
  | nil => rfl
  | cons i labels ih =>
    obtain ⟨hi, hrest⟩ := h
    rw [run_cons, ih hrest, hstep s i hi]
    cases hobs : obs i with
    | none => rw [List.filterMap_cons_none hobs, Option.elim_none]
    | some k => rw [List.filterMap_cons_some hobs, Option.elim_some, run_cons]

theorem run_simulation {τ κ : Type*} {step' : τ → κ → τ} (abs : σ → τ) (obs : ι → Option κ)
    (hstep : ∀ s i, abs (step s i) = (obs i).elim (abs s) (step' (abs s))) (s : σ)
    (labels : List ι) :
    abs (run step s labels) = run step' (abs s) (labels.filterMap obs) := by
  have halong : Along step (fun _ _ => True) s labels := along_of_forall (fun _ _ _ => trivial) s
  exact run_simulation_along abs obs (fun s i _ => hstep s i) halong

end Machine
