import Mathlib.Data.List.Basic

/-! Removals guarded by a test of the state. What is hidden and still present may be removed,
one field at a time and in any order, until nothing of the kind is left. -/
namespace GuardedRemoval

variable {σ φ : Type*}

def dropAll (drop : φ → σ → σ) (fs : List φ) (s : σ) : σ := fs.foldl (fun s f => drop f s) s

/-- Removals that commute, make a field absent, bring none back, and find nothing more to
remove where a field disappeared with another. -/
structure Laws (listed : φ → Prop) (drop : φ → σ → σ) (present : φ → σ → Bool) : Prop where
  drop_comm : ∀ f g s, drop f (drop g s) = drop g (drop f s)
  absent_drop : ∀ f s, listed f → present f (drop f s) = false
  present_of_drop : ∀ f g s, listed f → present f (drop g s) = true → present f s = true
  drop_of_vanished : ∀ f g s, listed f → present f s = true → present f (drop g s) = false →
    drop f (drop g s) = drop g s

/-- The removals of a run, in their order. -/
inductive Run (listed : φ → Prop) (drop : φ → σ → σ) (present hidden : φ → σ → Bool) :
    σ → List φ → σ → Prop
  | done (s : σ) : Run listed drop present hidden s [] s
  | step (f : φ) (fs : List φ) (s t : σ) : listed f → hidden f s = true → present f s = true →
      Run listed drop present hidden (drop f s) fs t → Run listed drop present hidden s (f :: fs) t

def Settled (listed : φ → Prop) (present hidden : φ → σ → Bool) (s : σ) : Prop :=
  ∀ f, listed f → hidden f s = true → present f s = false

variable {listed : φ → Prop} {drop : φ → σ → σ} {present hidden : φ → σ → Bool}

theorem Run.single {f : φ} {s : σ} (hf : listed f) (hh : hidden f s = true)
    (hp : present f s = true) : Run listed drop present hidden s [f] (drop f s) :=
  .step f [] s (drop f s) hf hh hp (.done _)

theorem Run.trans {s t u : σ} {fs gs : List φ} (h₁ : Run listed drop present hidden s fs t)
    (h₂ : Run listed drop present hidden t gs u) :
    Run listed drop present hidden s (fs ++ gs) u := by
  induction h₁ with
  | done s => exact h₂
  | step f fs s t hf hh hp _ ih => exact .step f (fs ++ gs) s u hf hh hp (ih h₂)

theorem Run.eq_dropAll {s t : σ} {fs : List φ} (h : Run listed drop present hidden s fs t) :
    t = dropAll drop fs s := by
  induction h with
  | done s => rfl
  | step f fs s t _ _ _ _ ih => exact ih

theorem Run.listed_of_mem {s t : σ} {fs : List φ} (h : Run listed drop present hidden s fs t) :
    ∀ f ∈ fs, listed f := by
  induction h with
  | done s => exact fun f hf => absurd hf List.not_mem_nil
  | step f fs s t hf _ _ _ ih => exact List.forall_mem_cons.mpr ⟨hf, ih⟩

theorem countP_lt_countP {p q : φ → Bool} {fs : List φ} (h : ∀ f ∈ fs, p f = true → q f = true)
    {g : φ} (hg : g ∈ fs) (hp : p g = false) (hq : q g = true) : fs.countP p < fs.countP q := by
  induction fs with
  | nil => cases hg
  | cons f fs ih =>
    obtain ⟨hf, hfs⟩ := List.forall_mem_cons.mp h
    rw [List.countP_cons, List.countP_cons]
    cases hg with
    | head =>
      have hle := List.countP_mono_left hfs
      rw [if_neg (by simp [hp]), if_pos hq]
      omega
    | tail _ hg =>
      have hlt := ih hfs hg
      cases hpf : p f with
      | true => rw [if_pos rfl, if_pos (hf hpf)]; omega
      | false => simp only [Bool.false_eq_true, if_false]; omega

namespace Laws

theorem dropAll_drop (laws : Laws listed drop present) (f : φ) (fs : List φ) (s : σ) :
    dropAll drop fs (drop f s) = drop f (dropAll drop fs s) := by
  induction fs generalizing s with
  | nil => rfl
  | cons g fs ih =>
    change dropAll drop fs (drop g (drop f s)) = drop f (dropAll drop fs (drop g s))
    rw [laws.drop_comm, ih]

theorem dropAll_comm (laws : Laws listed drop present) (fs gs : List φ) (s : σ) :
    dropAll drop fs (dropAll drop gs s) = dropAll drop gs (dropAll drop fs s) := by
  induction fs generalizing s with
  | nil => rfl
  | cons f fs ih =>
    change dropAll drop fs (drop f (dropAll drop gs s)) =
      dropAll drop gs (dropAll drop fs (drop f s))
    rw [← laws.dropAll_drop, ih]

theorem present_of_dropAll (laws : Laws listed drop present) {f : φ} (hf : listed f)
    (fs : List φ) {s : σ} (h : present f (dropAll drop fs s) = true) : present f s = true := by
  induction fs generalizing s with
  | nil => exact h
  | cons g fs ih => exact laws.present_of_drop f g s hf (ih h)

theorem drop_of_vanished_dropAll (laws : Laws listed drop present) {f : φ} (hf : listed f)
    (fs : List φ) {s : σ} (h : present f s = true)
    (hgone : present f (dropAll drop fs s) = false) :
    drop f (dropAll drop fs s) = dropAll drop fs s := by
  induction fs generalizing s with
  | nil =>
    have hpresent : present f s = false := hgone
    rw [h] at hpresent
    cases hpresent
  | cons g fs ih =>
    cases hg : present f (drop g s) with
    | true => exact ih hg hgone
    | false =>
      change drop f (dropAll drop fs (drop g s)) = dropAll drop fs (drop g s)
      rw [← laws.dropAll_drop, laws.drop_of_vanished f g s hf h hg]

/-- Every field removed was present at the start. -/
theorem present_of_mem_run (laws : Laws listed drop present) {s t : σ} {fs : List φ}
    (h : Run listed drop present hidden s fs t) : ∀ f ∈ fs, present f s = true := by
  induction h with
  | done s => exact fun f hf => absurd hf List.not_mem_nil
  | step f fs s t hf _ hp hrun ih =>
    refine List.forall_mem_cons.mpr ⟨hp, fun g hg => ?_⟩
    exact laws.present_of_drop g f s (hrun.listed_of_mem g hg) (ih g hg)

/-- A run removes each field of a list at most once, so that it is no longer than the list. -/
theorem length_run_le {fields : List φ} (laws : Laws (· ∈ fields) drop present) {s t : σ}
    {fs : List φ} (h : Run (· ∈ fields) drop present hidden s fs t) :
    fields.countP (present · t) + fs.length ≤ fields.countP (present · s) := by
  induction h with
  | done s => exact Nat.le_refl _
  | step f fs s t hf _ hp _ ih =>
    have hlt := countP_lt_countP (fun g hg => laws.present_of_drop g f s hg) hf
      (laws.absent_drop f s hf) hp
    rw [List.length_cons]
    omega

end Laws

/-- Removing fields for good leaves what is hidden hidden. -/
structure Antitone (listed removable : φ → Prop) (drop : φ → σ → σ) (hidden : φ → σ → Bool) :
    Prop where
  removable_of_hidden : ∀ f s, listed f → hidden f s = true → removable f
  hidden_drop : ∀ f g s, listed f → listed g → removable g → hidden f s = true →
    hidden f (drop g s) = true

variable {removable : φ → Prop}

theorem Run.removable_of_mem (anti : Antitone listed removable drop hidden) {s t : σ}
    {fs : List φ} (h : Run listed drop present hidden s fs t) :
    ∀ f ∈ fs, listed f ∧ removable f := by
  induction h with
  | done s => exact fun f hf => absurd hf List.not_mem_nil
  | step f fs s t hf hh _ _ ih =>
    exact List.forall_mem_cons.mpr ⟨⟨hf, anti.removable_of_hidden f s hf hh⟩, ih⟩

theorem Antitone.hidden_dropAll (anti : Antitone listed removable drop hidden) {f : φ}
    (hf : listed f) {fs : List φ} (hfs : ∀ g ∈ fs, listed g ∧ removable g) {s : σ}
    (h : hidden f s = true) : hidden f (dropAll drop fs s) = true := by
  induction fs generalizing s with
  | nil => exact h
  | cons g fs ih =>
    obtain ⟨hg, hfs⟩ := List.forall_mem_cons.mp hfs
    exact ih hfs (anti.hidden_drop f g s hf hg.1 hg.2 h)

/-- What a run removes is hidden where the run ends. -/
theorem Run.hidden_end (anti : Antitone listed removable drop hidden) {s t : σ} {fs : List φ}
    (h : Run listed drop present hidden s fs t) : ∀ f ∈ fs, hidden f t = true := by
  induction h with
  | done s => exact fun f hf => absurd hf List.not_mem_nil
  | step f fs s t hf hh hp hrun ih =>
    refine List.forall_mem_cons.mpr ⟨?_, ih⟩
    have hall := (Run.step f fs s t hf hh hp hrun).removable_of_mem anti
    rw [(Run.step f fs s t hf hh hp hrun).eq_dropAll]
    exact anti.hidden_dropAll hf hall hh

/-- A settled end of one run has nothing left of what another run from the same state
removes. -/
theorem Run.dropAll_settled (laws : Laws listed drop present)
    (anti : Antitone listed removable drop hidden) {s t : σ} {fs gs : List φ}
    (h : Run listed drop present hidden s fs t) (hgs : ∀ g ∈ gs, listed g ∧ removable g)
    (hsettled : Settled listed present hidden (dropAll drop gs s)) :
    dropAll drop fs (dropAll drop gs s) = dropAll drop gs s := by
  induction h with
  | done s => rfl
  | step f fs s t hf hh hp _ ih =>
    have hhidden := anti.hidden_dropAll hf hgs hh
    have hgone := hsettled f hf hhidden
    have hdrop := laws.drop_of_vanished_dropAll hf gs hp hgone
    have hmoved : dropAll drop gs (drop f s) = dropAll drop gs s := by
      rw [laws.dropAll_drop, hdrop]
    change dropAll drop fs (drop f (dropAll drop gs s)) = dropAll drop gs s
    rw [hdrop, ← hmoved]
    exact ih (hmoved ▸ hsettled)

/-- Runs that end settled end in the same state. -/
theorem Run.unique (laws : Laws listed drop present)
    (anti : Antitone listed removable drop hidden) {s t u : σ} {fs gs : List φ}
    (ht : Run listed drop present hidden s fs t) (hu : Run listed drop present hidden s gs u)
    (hst : Settled listed present hidden t) (hsu : Settled listed present hidden u) : t = u := by
  have hteq := ht.eq_dropAll
  have hueq := hu.eq_dropAll
  have h₁ : dropAll drop fs u = u := by
    rw [hueq]
    exact ht.dropAll_settled laws anti (hu.removable_of_mem anti) (hueq ▸ hsu)
  have h₂ : dropAll drop gs t = t := by
    rw [hteq]
    exact hu.dropAll_settled laws anti (ht.removable_of_mem anti) (hteq ▸ hst)
  calc t = dropAll drop gs (dropAll drop fs s) := by rw [← hteq, h₂]
    _ = dropAll drop fs (dropAll drop gs s) := laws.dropAll_comm gs fs s
    _ = u := by rw [← hueq, h₁]

end GuardedRemoval
