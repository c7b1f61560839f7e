import Boxui.Library.Machine
import Mathlib.Algebra.GroupWithZero.Nat
import Mathlib.Data.List.Basic
import Mathlib.Data.List.Perm.Basic

/-! Tasks that run at the same time behind a semaphore. Each task takes a slot, does its work,
puts the result at its own place, stores it, gives the slot back and counts itself off; whoever
started the tasks waits until all have counted themselves off. The store is a machine that others
may move as well. -/
namespace FanOut
open Machine

inductive Phase (μ : Type*) where
  | waiting
  | running
  | worked (outcome : μ)
  | stored (outcome : μ)
  | released (outcome : μ)
  | finished (outcome : μ)

namespace Phase

variable {μ : Type*}

/-- The task holds a slot. -/
def holding : Phase μ → Bool
  | .running | .worked _ | .stored _ => true
  | _ => false

def unfinished : Phase μ → Bool
  | .finished _ => false
  | _ => true

def outcome : Phase μ → Option μ
  | .waiting | .running => none
  | .worked m | .stored m | .released m | .finished m => some m

/-- The task is through with the store. -/
def storing : Phase μ → Bool
  | .waiting | .running | .worked _ => false
  | _ => true

/-- The steps that the task has left. -/
def rank : Phase μ → ℕ
  | .waiting => 5
  | .running => 4
  | .worked _ => 3
  | .stored _ => 2
  | .released _ => 1
  | .finished _ => 0

end Phase

/-- `history` lists what happened to the store, with the task that did it, if one did. -/
structure Pool (μ ρ σ ι : Type*) where
  tasks : List (Phase μ)
  results : List ρ
  slots : ℕ
  pending : ℕ
  store : σ
  history : List (Option ℕ × ι)

inductive Event (μ ε ι : Type*) where
  | acquire (i : ℕ)
  | work (i : ℕ) (outcome : μ)
  | store (i : ℕ) (e : ε)
  | release (i : ℕ)
  | finish (i : ℕ)
  | outside (label : ι)

def Event.own {μ ε ι : Type*} : Event μ ε ι → Bool
  | .outside _ => false
  | _ => true

/-- What the tasks do: how many run at once, the result of a task, and the step of the store that
saves it. -/
structure Job (μ ρ ε σ ι : Type*) where
  limit : ℕ
  result : ℕ → μ → ρ
  save : ℕ → μ → ε → ι
  act : σ → ι → σ

variable {μ ρ ε σ ι : Type*}

namespace Pool

/-- `count` tasks, with nothing in the array of the results. -/
def start (count : ℕ) (zero : ρ) (store : σ) : Pool μ ρ σ ι where
  tasks := List.replicate count .waiting
  results := List.replicate count zero
  slots := 0
  pending := count
  store := store
  history := []

def move (i : ℕ) (phase : Phase μ) (p : Pool μ ρ σ ι) : Pool μ ρ σ ι :=
  { p with tasks := p.tasks.set i phase }

variable (job : Job μ ρ ε σ ι)

def step (p : Pool μ ρ σ ι) : Event μ ε ι → Pool μ ρ σ ι
  | .acquire i =>
    match p.tasks[i]? with
    | some .waiting =>
      if p.slots < job.limit then { p.move i .running with slots := p.slots + 1 } else p
    | _ => p
  | .work i outcome =>
    match p.tasks[i]? with
    | some .running =>
      { p.move i (.worked outcome) with results := p.results.set i (job.result i outcome) }
    | _ => p
  | .store i e =>
    match p.tasks[i]? with
    | some (.worked outcome) =>
      { p.move i (.stored outcome) with
        store := job.act p.store (job.save i outcome e)
        history := p.history ++ [(some i, job.save i outcome e)] }
    | _ => p
  | .release i =>
    match p.tasks[i]? with
    | some (.stored outcome) => { p.move i (.released outcome) with slots := p.slots - 1 }
    | _ => p
  | .finish i =>
    match p.tasks[i]? with
    | some (.released outcome) => { p.move i (.finished outcome) with pending := p.pending - 1 }
    | _ => p
  | .outside label =>
    { p with store := job.act p.store label, history := p.history ++ [(none, label)] }

/-- The semaphore and the wait group count the tasks in their phases. -/
structure Counted (count : ℕ) (p : Pool μ ρ σ ι) : Prop where
  tasks : p.tasks.length = count
  results : p.results.length = count
  slots : p.slots = p.tasks.countP Phase.holding
  limit : p.slots ≤ job.limit
  pending : p.pending = p.tasks.countP Phase.unfinished

/-- The result of a task that has worked is at its place. -/
def Recorded (p : Pool μ ρ σ ι) : Prop :=
  ∀ i m, p.tasks[i]?.bind Phase.outcome = some m → p.results[i]? = some (job.result i m)

/-- The store has gone through its history, in which a task that is through with the store stands
once, with its own outcome. -/
structure Stored (s : σ) (p : Pool μ ρ σ ι) : Prop where
  store : p.store = run job.act s (p.history.map Prod.snd)
  once : ∀ i, (p.history.filterMap Prod.fst).count i =
    if p.tasks[i]?.any Phase.storing then 1 else 0
  own : ∀ i label, (some i, label) ∈ p.history →
    ∃ m e, p.tasks[i]?.bind Phase.outcome = some m ∧ label = job.save i m e

variable {job}

theorem countP_set {tasks : List (Phase μ)} {i : ℕ} {old : Phase μ} (h : tasks[i]? = some old)
    (q : Phase μ → Bool) (new : Phase μ) :
    (tasks.set i new).countP q + (q old).toNat = tasks.countP q + (q new).toNat := by
  obtain ⟨hi, rfl⟩ := List.getElem?_eq_some_iff.mp h
  have hpos : (q tasks[i]).toNat ≤ tasks.countP q := by
    cases hq : q tasks[i] with
    | false => exact Nat.zero_le _
    | true => exact List.countP_pos_iff.mpr ⟨_, List.getElem_mem hi, hq⟩
  rw [List.countP_set hi]
  generalize q tasks[i] = before at hpos ⊢
  generalize tasks.countP q = counted at hpos ⊢
  cases before with
  | false => cases q new <;> rfl
  | true =>
    have hone : 1 ≤ counted := hpos
    cases q new with
    | false => exact Nat.sub_add_cancel hone
    | true => exact congrArg (· + 1) (Nat.sub_add_cancel hone)

theorem getElem?_set {tasks : List (Phase μ)} {i : ℕ} {old : Phase μ} (h : tasks[i]? = some old)
    (new : Phase μ) (j : ℕ) :
    (tasks.set i new)[j]? = if i = j then some new else tasks[j]? := by
  obtain ⟨hi, -⟩ := List.getElem?_eq_some_iff.mp h
  by_cases hij : i = j
  · subst hij
    rw [List.getElem?_set_self hi, if_pos rfl]
  · rw [List.getElem?_set_ne hij, if_neg hij]

theorem counted_start (count : ℕ) (zero : ρ) (s : σ) :
    (start count zero s : Pool μ ρ σ ι).Counted job count := by
  have hnone : (List.replicate count (Phase.waiting : Phase μ)).countP Phase.holding = 0 := by
    rw [List.countP_replicate]
    rfl
  have hall : (List.replicate count (Phase.waiting : Phase μ)).countP Phase.unfinished =
      count := by
    rw [List.countP_replicate]
    rfl
  exact ⟨List.length_replicate, List.length_replicate, hnone.symm, Nat.zero_le _, hall.symm⟩

/-- A task that enters its next phase, with the slots and the pending tasks counted along. -/
theorem Counted.move {count : ℕ} {p p' : Pool μ ρ σ ι} (h : p.Counted job count) {i : ℕ}
    {old new : Phase μ} (hi : p.tasks[i]? = some old) (htasks : p'.tasks = p.tasks.set i new)
    (hresults : p'.results.length = p.results.length)
    (hslots : p'.slots + old.holding.toNat = p.slots + new.holding.toNat)
    (hlimit : p'.slots ≤ job.limit)
    (hpending : p'.pending + old.unfinished.toNat = p.pending + new.unfinished.toNat) :
    p'.Counted job count := by
  have hholding := countP_set hi Phase.holding new
  have hunfinished := countP_set hi Phase.unfinished new
  have hslots' := h.slots
  have hpending' := h.pending
  refine ⟨?_, hresults.trans h.results, ?_, hlimit, ?_⟩
  · rw [htasks, List.length_set, h.tasks]
  · rw [htasks]
    omega
  · rw [htasks]
    omega

theorem Counted.pos {count : ℕ} {p : Pool μ ρ σ ι} (h : p.Counted job count) {i : ℕ}
    {phase : Phase μ} (hi : p.tasks[i]? = some phase) :
    phase.holding.toNat ≤ p.slots ∧ phase.unfinished.toNat ≤ p.pending := by
  have hmem := List.mem_of_getElem? hi
  rw [h.slots, h.pending]
  constructor
  · cases hphase : phase.holding with
    | false => exact Nat.zero_le _
    | true => exact List.countP_pos_iff.mpr ⟨phase, hmem, hphase⟩
  · cases hphase : phase.unfinished with
    | false => exact Nat.zero_le _
    | true => exact List.countP_pos_iff.mpr ⟨phase, hmem, hphase⟩

theorem Counted.step {count : ℕ} {p : Pool μ ρ σ ι} (h : p.Counted job count)
    (event : Event μ ε ι) : (p.step job event).Counted job count := by
  cases event with
  | acquire i =>
    simp only [Pool.step]
    split
    · next hi =>
      split
      · next hfree => exact h.move hi rfl rfl rfl hfree rfl
      · exact h
    · exact h
  | work i outcome =>
    simp only [Pool.step]
    split
    · next hi => exact h.move hi rfl List.length_set rfl h.limit rfl
    · exact h
  | store i e =>
    simp only [Pool.step]
    split
    · next outcome hi => exact h.move hi rfl rfl rfl h.limit rfl
    · exact h
  | release i =>
    simp only [Pool.step]
    split
    · next outcome hi =>
      have hlimit := h.limit
      have hpos : 1 ≤ p.slots := (h.pos hi).1
      exact h.move hi rfl rfl (Nat.sub_add_cancel hpos) (show p.slots - 1 ≤ _ by omega) rfl
    · exact h
  | finish i =>
    simp only [Pool.step]
    split
    · next outcome hi =>
      have hpos : 1 ≤ p.pending := (h.pos hi).2
      exact h.move hi rfl rfl rfl h.limit (Nat.sub_add_cancel hpos)
    · exact h
  | outside label => exact ⟨h.tasks, h.results, h.slots, h.limit, h.pending⟩

/-- A task that keeps its outcome leaves the results as they were recorded. -/
theorem Recorded.move {p p' : Pool μ ρ σ ι} (h : p.Recorded job) {i : ℕ} {old new : Phase μ}
    (hi : p.tasks[i]? = some old) (htasks : p'.tasks = p.tasks.set i new)
    (hresults : p'.results = p.results) (houtcome : new.outcome = old.outcome) :
    p'.Recorded job := by
  intro j m hj
  rw [htasks, getElem?_set hi] at hj
  rw [hresults]
  by_cases hij : i = j
  · subst hij
    rw [if_pos rfl, Option.bind_some, houtcome] at hj
    exact h i m (by rw [hi]; exact hj)
  · rw [if_neg hij] at hj
    exact h j m hj

theorem Recorded.step {count : ℕ} {p : Pool μ ρ σ ι} (hcounted : p.Counted job count)
    (h : p.Recorded job) (event : Event μ ε ι) : (p.step job event).Recorded job := by
  cases event with
  | acquire i =>
    simp only [Pool.step]
    split
    · next hi =>
      split
      · exact h.move hi rfl rfl rfl
      · exact h
    · exact h
  | work i outcome =>
    simp only [Pool.step]
    split
    · next hi =>
      intro j m hj
      change (p.tasks.set i (.worked outcome))[j]?.bind Phase.outcome = some m at hj
      show (p.results.set i (job.result i outcome))[j]? = _
      rw [getElem?_set hi] at hj
      by_cases hij : i = j
      · subst hij
        rw [if_pos rfl] at hj
        obtain rfl : outcome = m := Option.some.inj hj
        have hbound := (List.getElem?_eq_some_iff.mp hi).1
        rw [List.getElem?_set_self (by rw [hcounted.results, ← hcounted.tasks]; exact hbound)]
      · rw [if_neg hij] at hj
        rw [List.getElem?_set_ne hij]
        exact h j m hj
    · exact h
  | store i e =>
    simp only [Pool.step]
    split
    · next outcome hi => exact h.move hi rfl rfl rfl
    · exact h
  | release i =>
    simp only [Pool.step]
    split
    · next outcome hi => exact h.move hi rfl rfl rfl
    · exact h
  | finish i =>
    simp only [Pool.step]
    split
    · next outcome hi => exact h.move hi rfl rfl rfl
    · exact h
  | outside label => exact h

/-- A task that neither stores nor changes an outcome leaves the history as it was told. -/
theorem Stored.move {s : σ} {p p' : Pool μ ρ σ ι} (h : p.Stored job s) {i : ℕ}
    {old new : Phase μ} (hi : p.tasks[i]? = some old) (htasks : p'.tasks = p.tasks.set i new)
    (hstore : p'.store = p.store) (hhistory : p'.history = p.history)
    (hstoring : new.storing = old.storing)
    (houtcome : old.outcome = none ∨ new.outcome = old.outcome) : p'.Stored job s := by
  refine ⟨?_, fun j => ?_, fun j label hj => ?_⟩
  · rw [hstore, hhistory]
    exact h.store
  · rw [hhistory, h.once, htasks, getElem?_set hi]
    by_cases hij : i = j
    · subst hij
      rw [if_pos rfl, hi, Option.any_some, Option.any_some, hstoring]
    · rw [if_neg hij]
  · rw [hhistory] at hj
    obtain ⟨m, e, hm, hlabel⟩ := h.own j label hj
    refine ⟨m, e, ?_, hlabel⟩
    rw [htasks, getElem?_set hi]
    by_cases hij : i = j
    · subst hij
      rw [hi, Option.bind_some] at hm
      rw [if_pos rfl, Option.bind_some]
      rcases houtcome with hnone | hsame
      · rw [hnone] at hm
        cases hm
      · rw [hsame, hm]
    · rw [if_neg hij]
      exact hm

theorem Stored.step {s : σ} {p : Pool μ ρ σ ι} (h : p.Stored job s) (event : Event μ ε ι) :
    (p.step job event).Stored job s := by
  cases event with
  | acquire i =>
    simp only [Pool.step]
    split
    · next hi =>
      split
      · exact h.move hi rfl rfl rfl rfl (.inl rfl)
      · exact h
    · exact h
  | work i outcome =>
    simp only [Pool.step]
    split
    · next hi => exact h.move hi rfl rfl rfl rfl (.inl rfl)
    · exact h
  | store i e =>
    simp only [Pool.step]
    split
    · next outcome hi =>
      refine ⟨?_, fun j => ?_, fun j label hj => ?_⟩
      · show job.act p.store _ = run job.act s ((p.history ++ [_]).map Prod.snd)
        rw [List.map_append, run_append, ← h.store]
        rfl
      · show ((p.history ++ [_]).filterMap Prod.fst).count j =
          if (p.tasks.set i (.stored outcome))[j]?.any Phase.storing then 1 else 0
        rw [List.filterMap_append, List.count_append, h.once, getElem?_set hi]
        by_cases hij : i = j
        · subst hij
          rw [hi, if_pos rfl]
          simp [Phase.storing]
        · rw [if_neg hij]
          simp [hij]
      · show ∃ m e, (p.tasks.set i (.stored outcome))[j]?.bind Phase.outcome = some m ∧ _
        change (some j, label) ∈ p.history ++ [_] at hj
        rw [getElem?_set hi]
        rcases List.mem_append.mp hj with hold | hnew
        · obtain ⟨m, e', hm, hlabel⟩ := h.own j label hold
          refine ⟨m, e', ?_, hlabel⟩
          by_cases hij : i = j
          · subst hij
            rw [hi] at hm
            rw [if_pos rfl]
            exact hm
          · rw [if_neg hij]
            exact hm
        · obtain ⟨hij, rfl⟩ := Prod.mk.inj (List.mem_singleton.mp hnew)
          obtain rfl := Option.some.inj hij
          exact ⟨outcome, e, by rw [if_pos rfl]; rfl, rfl⟩
    · exact h
  | release i =>
    simp only [Pool.step]
    split
    · next outcome hi => exact h.move hi rfl rfl rfl rfl (.inr rfl)
    · exact h
  | finish i =>
    simp only [Pool.step]
    split
    · next outcome hi => exact h.move hi rfl rfl rfl rfl (.inr rfl)
    · exact h
  | outside label =>
    refine ⟨?_, fun j => ?_, fun j label' hj => ?_⟩
    · show job.act p.store label = run job.act s ((p.history ++ [(none, label)]).map Prod.snd)
      rw [List.map_append, run_append, ← h.store]
      rfl
    · show ((p.history ++ [(none, label)]).filterMap Prod.fst).count j = _
      rw [List.filterMap_append, List.count_append, h.once]
      rfl
    · change (some j, label') ∈ p.history ++ [(none, label)] at hj
      rcases List.mem_append.mp hj with hold | hnew
      · exact h.own j label' hold
      · cases (Prod.mk.inj (List.mem_singleton.mp hnew)).1

variable (job) in
/-- The event moves a task. -/
def Enabled (p : Pool μ ρ σ ι) : Event μ ε ι → Prop
  | .acquire i => (∃ _ : p.tasks[i]? = some .waiting, p.slots < job.limit)
  | .work i _ => p.tasks[i]? = some .running
  | .store i _ => ∃ m, p.tasks[i]? = some (.worked m)
  | .release i => ∃ m, p.tasks[i]? = some (.stored m)
  | .finish i => ∃ m, p.tasks[i]? = some (.released m)
  | .outside _ => False

/-- The steps that all tasks have left. -/
def remaining (p : Pool μ ρ σ ι) : ℕ := (p.tasks.map Phase.rank).sum

theorem sum_rank_set {tasks : List (Phase μ)} {i : ℕ} {old : Phase μ}
    (h : tasks[i]? = some old) {new : Phase μ} (hrank : new.rank + 1 = old.rank) :
    ((tasks.set i new).map Phase.rank).sum + 1 = (tasks.map Phase.rank).sum := by
  induction tasks generalizing i with
  | nil => cases h
  | cons task tasks ih =>
    cases i with
    | zero =>
      obtain rfl : task = old := Option.some.inj h
      show new.rank + (tasks.map Phase.rank).sum + 1 = task.rank + (tasks.map Phase.rank).sum
      omega
    | succ i =>
      have hrest := ih h
      show task.rank + ((tasks.set i new).map Phase.rank).sum + 1 =
        task.rank + (tasks.map Phase.rank).sum
      omega

theorem remaining_step {p : Pool μ ρ σ ι} {event : Event μ ε ι} (h : p.Enabled job event) :
    (p.step job event).remaining + 1 = p.remaining := by
  cases event with
  | acquire i =>
    obtain ⟨hi, hfree⟩ := h
    simp only [Pool.step, hi, if_pos hfree]
    exact sum_rank_set hi rfl
  | work i outcome =>
    have hi : p.tasks[i]? = some .running := h
    simp only [Pool.step, hi]
    exact sum_rank_set hi rfl
  | store i e =>
    obtain ⟨m, hi⟩ := h
    simp only [Pool.step, hi]
    exact sum_rank_set hi rfl
  | release i =>
    obtain ⟨m, hi⟩ := h
    simp only [Pool.step, hi]
    exact sum_rank_set hi rfl
  | finish i =>
    obtain ⟨m, hi⟩ := h
    simp only [Pool.step, hi]
    exact sum_rank_set hi rfl
  | outside label => exact h.elim

/-- While a task is pending, some task can move. -/
theorem Counted.exists_enabled [Nonempty μ] [Nonempty ε] {count : ℕ} {p : Pool μ ρ σ ι}
    (h : p.Counted job count) (hlimit : 0 < job.limit) (hpending : p.pending ≠ 0) :
    ∃ event : Event μ ε ι, p.Enabled job event := by
  obtain ⟨outcome⟩ := ‹Nonempty μ›
  obtain ⟨e⟩ := ‹Nonempty ε›
  have hunfinished : 0 < p.tasks.countP Phase.unfinished := by
    rw [← h.pending]
    omega
  by_cases hholding : ∃ phase ∈ p.tasks, phase.holding = true
  · obtain ⟨phase, hmem, hphase⟩ := hholding
    obtain ⟨i, hi⟩ := List.getElem?_of_mem hmem
    cases phase with
    | waiting => cases hphase
    | running => exact ⟨.work i outcome, hi⟩
    | worked m => exact ⟨.store i e, m, hi⟩
    | stored m => exact ⟨.release i, m, hi⟩
    | released m => cases hphase
    | finished m => cases hphase
  · -- nobody holds a slot, so whoever waits can take one
    obtain ⟨phase, hmem, hphase⟩ := List.countP_pos_iff.mp hunfinished
    obtain ⟨i, hi⟩ := List.getElem?_of_mem hmem
    have hslots : p.slots = 0 := by
      rw [h.slots, List.countP_eq_zero]
      intro phase hphase htrue
      exact hholding ⟨phase, hphase, htrue⟩
    cases phase with
    | waiting => exact ⟨.acquire i, hi, by omega⟩
    | running => exact absurd ⟨_, hmem, rfl⟩ hholding
    | worked m => exact absurd ⟨_, hmem, rfl⟩ hholding
    | stored m => exact absurd ⟨_, hmem, rfl⟩ hholding
    | released m => exact ⟨.finish i, m, hi⟩
    | finished m => cases hphase

/-- The batch is done when no task has a step left. -/
theorem Counted.pending_iff {count : ℕ} {p : Pool μ ρ σ ι} (h : p.Counted job count) :
    p.pending = 0 ↔ p.remaining = 0 := by
  have hrank : ∀ phase : Phase μ, phase.rank = 0 ↔ ¬phase.unfinished = true := by
    intro phase
    cases phase <;> simp [Phase.rank, Phase.unfinished]
  rw [h.pending, List.countP_eq_zero, remaining, List.sum_eq_zero_iff_forall_eq_nat]
  simp only [List.forall_mem_map, hrank]

/-- The invariant of every run from the start. -/
structure Sound (job : Job μ ρ ε σ ι) (count : ℕ) (s : σ) (p : Pool μ ρ σ ι) : Prop where
  counted : p.Counted job count
  recorded : p.Recorded job
  stored : p.Stored job s

theorem sound_start (count : ℕ) (zero : ρ) (s : σ) :
    (start count zero s : Pool μ ρ σ ι).Sound job count s := by
  have htask : ∀ i : ℕ, ∀ phase : Phase μ,
      (List.replicate count Phase.waiting)[i]? = some phase → phase = .waiting := by
    intro i phase hi
    exact List.eq_of_mem_replicate (List.mem_of_getElem? hi)
  refine ⟨counted_start count zero s, fun i m hm => ?_, rfl, fun i => ?_, fun i label hi => ?_⟩
  · obtain ⟨phase, hphase, hm⟩ := Option.bind_eq_some_iff.mp hm
    rw [htask i phase hphase] at hm
    cases hm
  · show 0 = if (List.replicate count Phase.waiting)[i]?.any Phase.storing then 1 else 0
    cases hi : (List.replicate count (Phase.waiting : Phase μ))[i]? with
    | none => rfl
    | some phase =>
      rw [htask i phase hi]
      rfl
  · cases hi

theorem Sound.step {count : ℕ} {s : σ} {p : Pool μ ρ σ ι} (h : p.Sound job count s)
    (event : Event μ ε ι) : (p.step job event).Sound job count s :=
  ⟨h.counted.step event, h.recorded.step h.counted event, h.stored.step event⟩

theorem sound_run (count : ℕ) (zero : ρ) (s : σ) (events : List (Event μ ε ι)) :
    (run (step job) (start count zero s) events).Sound job count s :=
  run_invariant (P := Sound job count s) (fun _ event h => h.step event)
    (sound_start count zero s) events

theorem eq_map_finished {tasks : List (Phase μ)} (h : ∀ phase ∈ tasks, ¬phase.unfinished = true) :
    ∃ outcomes : List μ, tasks = outcomes.map Phase.finished := by
  induction tasks with
  | nil => exact ⟨[], rfl⟩
  | cons phase tasks ih =>
    obtain ⟨outcomes, rfl⟩ := ih fun other hother => h other (List.mem_cons_of_mem _ hother)
    have hphase := h phase List.mem_cons_self
    cases phase with
    | finished m => exact ⟨m :: outcomes, rfl⟩
    | waiting => exact absurd rfl hphase
    | running => exact absurd rfl hphase
    | worked m => exact absurd rfl hphase
    | stored m => exact absurd rfl hphase
    | released m => exact absurd rfl hphase

/-- When every task has counted itself off, each has one outcome, its result stands at its place,
and the history holds one save of each. -/
theorem Sound.done {count : ℕ} {s : σ} {p : Pool μ ρ σ ι} (h : p.Sound job count s)
    (hpending : p.pending = 0) :
    ∃ outcomes : List μ, outcomes.length = count ∧ p.results = outcomes.mapIdx job.result ∧
      (p.history.filterMap Prod.fst).Perm (List.range count) ∧
      ∀ i label, (some i, label) ∈ p.history →
        ∃ m e, outcomes[i]? = some m ∧ label = job.save i m e := by
  have hfinished := h.counted.pending.symm.trans hpending
  obtain ⟨outcomes, htasks⟩ := eq_map_finished (List.countP_eq_zero.mp hfinished)
  have hlength : outcomes.length = count := by
    rw [← h.counted.tasks, htasks, List.length_map]
  have houtcome : ∀ i : ℕ, p.tasks[i]?.bind Phase.outcome = outcomes[i]? := by
    intro i
    rw [htasks, List.getElem?_map]
    cases outcomes[i]? <;> rfl
  refine ⟨outcomes, hlength, List.ext_getElem? fun i => ?_, ?_, fun i label hi => ?_⟩
  · rw [List.getElem?_mapIdx]
    cases hi : outcomes[i]? with
    | none =>
      have hover := List.getElem?_eq_none_iff.mp hi
      exact List.getElem?_eq_none (by rw [h.counted.results]; omega)
    | some m => exact h.recorded i m ((houtcome i).trans hi)
  · rw [List.perm_iff_count]
    intro i
    rw [h.stored.once i, htasks, List.getElem?_map, List.count_range]
    cases hi : outcomes[i]? with
    | none =>
      have hover := List.getElem?_eq_none_iff.mp hi
      rw [if_neg (by omega : ¬i < count)]
      rfl
    | some m =>
      have hbound := (List.getElem?_eq_some_iff.mp hi).1
      rw [if_pos (by omega : i < count)]
      rfl
  · obtain ⟨m, e, hm, hlabel⟩ := h.stored.own i label hi
    exact ⟨m, e, (houtcome i).symm.trans hm, hlabel⟩

variable (job) in
/-- The event moves a task, or is none of the tasks'. -/
def Runs (p : Pool μ ρ σ ι) (event : Event μ ε ι) : Prop :=
  event.own = true → p.Enabled job event

/-- The events of the tasks use up the steps that the tasks have left. -/
theorem remaining_run {p : Pool μ ρ σ ι} {events : List (Event μ ε ι)}
    (h : Along (step job) (Runs job) p events) :
    (run (step job) p events).remaining + events.countP Event.own = p.remaining := by
  induction events generalizing p with
  | nil => rfl
  | cons event events ih =>
    have hrest := ih h.2
    rw [run_cons, List.countP_cons]
    cases hown : event.own with
    | true =>
      have hstep := remaining_step (h.1 hown)
      simp only [if_true]
      omega
    | false =>
      have hsame : (p.step job event).remaining = p.remaining := by
        cases event with
        | outside label => rfl
        | acquire i => cases hown
        | work i outcome => cases hown
        | store i e => cases hown
        | release i => cases hown
        | finish i => cases hown
      simp only [Bool.false_eq_true, if_false]
      omega

theorem remaining_start (count : ℕ) (zero : ρ) (s : σ) :
    (start count zero s : Pool μ ρ σ ι).remaining = 5 * count := by
  show ((List.replicate count Phase.waiting).map Phase.rank).sum = 5 * count
  rw [List.map_replicate, List.sum_replicate_nat]
  show count * 5 = 5 * count
  omega

end Pool

end FanOut
