import Mathlib.Data.List.Basic

/-! The kernel instance. A start attempt is numbered by the context it creates, and a box
carries the number of its attempt. The ledger records what became of boxes and contexts:
the calls of `newBox`, `Close` and `cancel` are the instance's only effects. -/
namespace Boxui.Core

structure Box (Bytes : Type*) where
  attempt : Nat
  config : Bytes

structure Ledger where
  attempts : Nat
  created : List Nat
  closed : List Nat
  cancelled : List Nat

structure SBInstance (Bytes : Type*) where
  running : Bool
  box : Option (Box Bytes)
  boxCtx : Option Nat
  cancel : Option Nat
  startTime : Nat
  traffic : Option Nat
  ledger : Ledger

inductive StartError where
  | readFile
  | decode
  | newBox
  | start
  deriving DecidableEq, Repr

/-- How the calls that a start makes turn out. -/
structure StartOutcome where
  decodeFails : Bool
  newBoxFails : Bool
  startFails : Bool
  now : Nat

namespace SBInstance

variable {Bytes : Type*}

def newSBInstance : SBInstance Bytes where
  running := false
  box := none
  boxCtx := none
  cancel := none
  startTime := 0
  traffic := none
  ledger := ⟨0, [], [], []⟩

/-- `context.WithCancel`: the new context is the next attempt. -/
def withCancel (s : SBInstance Bytes) : SBInstance Bytes :=
  { s with ledger := { s.ledger with attempts := s.ledger.attempts + 1 } }

def cancelContext (s : SBInstance Bytes) (ctx : Nat) : SBInstance Bytes :=
  { s with ledger := { s.ledger with cancelled := ctx :: s.ledger.cancelled } }

/-- `newBox` succeeds, and the traffic tracker of the new box replaces the old one. -/
def createBox (s : SBInstance Bytes) (ctx : Nat) : SBInstance Bytes :=
  { s with traffic := some ctx, ledger := { s.ledger with created := ctx :: s.ledger.created } }

def closeBox (s : SBInstance Bytes) (ctx : Nat) : SBInstance Bytes :=
  { s with ledger := { s.ledger with closed := ctx :: s.ledger.closed } }

def start (file : Option Bytes) (outcome : StartOutcome) (s : SBInstance Bytes) :
    SBInstance Bytes × Except StartError Unit :=
  if s.running then (s, .ok ())
  else
    match file with
    | none => (s, .error .readFile)
    | some configData =>
      let ctx := s.ledger.attempts
      let s := s.withCancel
      if outcome.decodeFails then (s.cancelContext ctx, .error .decode)
      else if outcome.newBoxFails then (s.cancelContext ctx, .error .newBox)
      else
        let s := s.createBox ctx
        if outcome.startFails then ((s.closeBox ctx).cancelContext ctx, .error .start)
        else
          ({ s with
              box := some ⟨ctx, configData⟩
              boxCtx := some ctx
              cancel := some ctx
              running := true
              startTime := outcome.now }, .ok ())

/-- The error, if any, is the one `Close` reported; the instance is torn down either way. -/
def stop (closeFails : Bool) (s : SBInstance Bytes) : SBInstance Bytes × Except Unit Unit :=
  match s.running, s.box with
  | false, _ => (s, .ok ())
  | true, none => (s, .ok ())
  | true, some box =>
    let s := s.closeBox box.attempt
    let s := { s with box := none, boxCtx := none }
    let s :=
      match s.cancel with
      | none => s
      | some ctx => { s.cancelContext ctx with cancel := none }
    ({ s with running := false }, if closeFails then .error () else .ok ())

inductive RestartError where
  | stop
  | start (e : StartError)
  deriving DecidableEq, Repr

structure RestartOutcome where
  closeFails : Bool
  start : StartOutcome

def restart (file : Option Bytes) (outcome : RestartOutcome) (s : SBInstance Bytes) :
    SBInstance Bytes × Except RestartError Unit :=
  match s.stop outcome.closeFails with
  | (s, .error ()) => (s, .error .stop)
  | (s, .ok ()) =>
    match s.start file outcome.start with
    | (s, .error e) => (s, .error (.start e))
    | (s, .ok ()) => (s, .ok ())

def currentAttempt (s : SBInstance Bytes) : Option Nat := s.box.map Box.attempt

/-- A running instance holds the box, the context and the cancel function of one attempt.
Every other attempt has been cancelled, and every other box closed once. -/
structure Valid (s : SBInstance Bytes) : Prop where
  running_eq : s.running = s.box.isSome
  boxCtx_eq : s.boxCtx = s.currentAttempt
  cancel_eq : s.cancel = s.currentAttempt
  created_nodup : s.ledger.created.Nodup
  created_lt : ∀ a ∈ s.ledger.created, a < s.ledger.attempts
  current_created : ∀ a, s.currentAttempt = some a → a ∈ s.ledger.created
  closed_count : ∀ a, s.ledger.closed.count a =
    if a ∈ s.ledger.created ∧ s.currentAttempt ≠ some a then 1 else 0
  cancelled_iff : ∀ a, a ∈ s.ledger.cancelled ↔
    a < s.ledger.attempts ∧ s.currentAttempt ≠ some a

theorem valid_newSBInstance : (newSBInstance : SBInstance Bytes).Valid := by
  constructor <;> simp [newSBInstance, currentAttempt]

theorem Valid.currentAttempt_eq_none {s : SBInstance Bytes} (hs : s.Valid)
    (hstopped : s.running = false) : s.currentAttempt = none := by
  have h := hs.running_eq
  rw [hstopped] at h
  cases hbox : s.box with
  | none => simp [currentAttempt, hbox]
  | some box => simp [hbox] at h

/-- An attempt that fails before it has a box. -/
theorem Valid.failedContext {s : SBInstance Bytes} (hs : s.Valid) (hstopped : s.running = false) :
    (s.withCancel.cancelContext s.ledger.attempts).Valid := by
  have hcur := hs.currentAttempt_eq_none hstopped
  obtain ⟨hrun, hctx, hcancel, hnodup, hlt, hcreated, hclosed, hcancelled⟩ := hs
  refine ⟨hrun, hctx, hcancel, hnodup, ?_, hcreated, hclosed, ?_⟩
  · intro a ha
    exact Nat.lt_succ_of_lt (hlt a ha)
  · intro a
    simp only [cancelContext, withCancel, List.mem_cons, hcancelled]
    change _ ↔ a < s.ledger.attempts + 1 ∧ s.currentAttempt ≠ some a
    simp only [hcur, ne_eq, reduceCtorEq, not_false_eq_true, and_true]
    omega

/-- An attempt whose box was created, did not start and was closed again. -/
theorem Valid.failedBox {s : SBInstance Bytes} (hs : s.Valid) (hstopped : s.running = false) :
    (((s.withCancel.createBox s.ledger.attempts).closeBox s.ledger.attempts).cancelContext
      s.ledger.attempts).Valid := by
  have hcur := hs.currentAttempt_eq_none hstopped
  obtain ⟨hrun, hctx, hcancel, hnodup, hlt, hcreated, hclosed, hcancelled⟩ := hs
  have hfresh : s.ledger.attempts ∉ s.ledger.created := fun h => Nat.lt_irrefl _ (hlt _ h)
  refine ⟨hrun, hctx, hcancel, List.nodup_cons.mpr ⟨hfresh, hnodup⟩, ?_, ?_, ?_, ?_⟩
  · intro a ha
    change a < s.ledger.attempts + 1
    rcases List.mem_cons.mp ha with rfl | ha
    · omega
    · exact Nat.lt_succ_of_lt (hlt a ha)
  · intro a ha
    exact List.mem_cons_of_mem _ (hcreated a ha)
  · intro a
    change (s.ledger.attempts :: s.ledger.closed).count a =
      if a ∈ s.ledger.attempts :: s.ledger.created ∧ s.currentAttempt ≠ some a then 1 else 0
    have ha := hclosed a
    simp only [hcur, ne_eq, reduceCtorEq, not_false_eq_true, and_true] at ha ⊢
    by_cases heq : s.ledger.attempts = a
    · subst heq
      simp [ha, hfresh]
    · simp [heq, Ne.symm heq, ha]
  · intro a
    change a ∈ s.ledger.attempts :: s.ledger.cancelled ↔
      a < s.ledger.attempts + 1 ∧ s.currentAttempt ≠ some a
    simp only [hcur, List.mem_cons, hcancelled, ne_eq, reduceCtorEq, not_false_eq_true, and_true]
    omega

/-- The instance a successful start leaves behind. -/
def startedOn (s : SBInstance Bytes) (configData : Bytes) (now : Nat) : SBInstance Bytes :=
  { s.withCancel.createBox s.ledger.attempts with
    box := some ⟨s.ledger.attempts, configData⟩
    boxCtx := some s.ledger.attempts
    cancel := some s.ledger.attempts
    running := true
    startTime := now }

theorem Valid.started {s : SBInstance Bytes} (hs : s.Valid) (hstopped : s.running = false)
    (configData : Bytes) (now : Nat) :
    (s.startedOn configData now).Valid := by
  have hcur := hs.currentAttempt_eq_none hstopped
  obtain ⟨hrun, hctx, hcancel, hnodup, hlt, hcreated, hclosed, hcancelled⟩ := hs
  have hfresh : s.ledger.attempts ∉ s.ledger.created := fun h => Nat.lt_irrefl _ (hlt _ h)
  refine ⟨rfl, rfl, rfl, List.nodup_cons.mpr ⟨hfresh, hnodup⟩, ?_, ?_, ?_, ?_⟩
  · intro a ha
    change a < s.ledger.attempts + 1
    rcases List.mem_cons.mp ha with rfl | ha
    · omega
    · exact Nat.lt_succ_of_lt (hlt a ha)
  · intro a ha
    obtain rfl := Option.some.inj ha
    exact List.mem_cons_self
  · intro a
    change s.ledger.closed.count a =
      if a ∈ s.ledger.attempts :: s.ledger.created ∧ some s.ledger.attempts ≠ some a then 1 else 0
    have ha := hclosed a
    simp only [hcur, ne_eq, reduceCtorEq, not_false_eq_true, and_true] at ha
    by_cases heq : s.ledger.attempts = a
    · subst heq
      simp [ha, hfresh]
    · simp [heq, Ne.symm heq, ha]
  · intro a
    change a ∈ s.ledger.cancelled ↔
      a < s.ledger.attempts + 1 ∧ some s.ledger.attempts ≠ some a
    simp only [hcur, hcancelled, ne_eq, reduceCtorEq, not_false_eq_true, and_true,
      Option.some.injEq]
    omega

/-- The exits of a start, each with the boxes and contexts it releases. -/
theorem start_cases (file : Option Bytes) (outcome : StartOutcome) (s : SBInstance Bytes) :
    (s.running = true ∧ s.start file outcome = (s, .ok ())) ∨
    (s.running = false ∧ file = none ∧ s.start file outcome = (s, .error .readFile)) ∨
    (s.running = false ∧ ∃ e, s.start file outcome =
      (s.withCancel.cancelContext s.ledger.attempts, .error e)) ∨
    (s.running = false ∧ s.start file outcome =
      (((s.withCancel.createBox s.ledger.attempts).closeBox s.ledger.attempts).cancelContext
        s.ledger.attempts, .error .start)) ∨
    (s.running = false ∧ ∃ configData, file = some configData ∧
      s.start file outcome = (s.startedOn configData outcome.now, .ok ())) := by
  unfold SBInstance.start
  cases hrun : s.running with
  | true => exact .inl ⟨rfl, rfl⟩
  | false =>
    cases file with
    | none => exact .inr (.inl ⟨rfl, rfl, rfl⟩)
    | some configData =>
      cases hdecode : outcome.decodeFails with
      | true => exact .inr (.inr (.inl ⟨rfl, _, rfl⟩))
      | false =>
        cases hbox : outcome.newBoxFails with
        | true => exact .inr (.inr (.inl ⟨rfl, _, rfl⟩))
        | false =>
          cases hstart : outcome.startFails with
          | true => exact .inr (.inr (.inr (.inl ⟨rfl, rfl⟩)))
          | false => exact .inr (.inr (.inr (.inr ⟨rfl, configData, rfl, rfl⟩)))

theorem Valid.start {s : SBInstance Bytes} (hs : s.Valid) (file : Option Bytes)
    (outcome : StartOutcome) : (s.start file outcome).1.Valid := by
  rcases start_cases file outcome s with ⟨-, h⟩ | ⟨-, -, h⟩ | ⟨hstopped, e, h⟩ | ⟨hstopped, h⟩ |
    ⟨hstopped, configData, -, h⟩
  · rw [h]
    exact hs
  · rw [h]
    exact hs
  · rw [h]
    exact hs.failedContext hstopped
  · rw [h]
    exact hs.failedBox hstopped
  · rw [h]
    exact hs.started hstopped configData outcome.now

/-- What a stop leaves behind, whether or not `Close` reported an error. -/
theorem stop_fst {s : SBInstance Bytes} (hs : s.Valid) (closeFails : Bool) :
    (s.stop closeFails).1 =
      match s.box with
      | none => s
      | some box =>
        { (s.closeBox box.attempt).cancelContext box.attempt with
          box := none, boxCtx := none, cancel := none, running := false } := by
  have hrun := hs.running_eq
  have hcancel := hs.cancel_eq
  cases hbox : s.box with
  | none =>
    rw [hbox] at hrun
    simp [stop, hrun]
  | some box =>
    rw [hbox] at hrun
    rw [currentAttempt, hbox] at hcancel
    simp only [Option.isSome_some] at hrun
    simp [stop, hrun, hbox, closeBox, hcancel, cancelContext]

theorem Valid.stop {s : SBInstance Bytes} (hs : s.Valid) (closeFails : Bool) :
    (s.stop closeFails).1.Valid := by
  rw [stop_fst hs]
  cases hbox : s.box with
  | none => exact hs
  | some box =>
    have hcur : s.currentAttempt = some box.attempt := by simp [currentAttempt, hbox]
    obtain ⟨hrun, hctx, hcancel, hnodup, hlt, hcreated, hclosed, hcancelled⟩ := hs
    refine ⟨rfl, rfl, rfl, hnodup, hlt, ?_, ?_, ?_⟩
    · intro a ha
      simp [currentAttempt] at ha
    · intro a
      change (box.attempt :: s.ledger.closed).count a =
        if a ∈ s.ledger.created ∧ (none : Option Nat) ≠ some a then 1 else 0
      have ha := hclosed a
      simp only [hcur, ne_eq, Option.some.injEq] at ha
      by_cases heq : box.attempt = a
      · subst heq
        simp [ha, hcreated _ hcur]
      · simp [heq, ha]
    · intro a
      change a ∈ box.attempt :: s.ledger.cancelled ↔
        a < s.ledger.attempts ∧ (none : Option Nat) ≠ some a
      have hbound := hlt _ (hcreated _ hcur)
      simp only [List.mem_cons, hcancelled, hcur, ne_eq, Option.some.injEq, reduceCtorEq,
        not_false_eq_true, and_true]
      omega

theorem stop_running {s : SBInstance Bytes} (hs : s.Valid) (closeFails : Bool) :
    (s.stop closeFails).1.running = false := by
  rw [stop_fst hs]
  cases hbox : s.box with
  | none => simpa [hbox] using hs.running_eq
  | some box => rfl

/-- A stop reports an error exactly when it closes a box that does not close cleanly. -/
theorem stop_error_iff {s : SBInstance Bytes} (hs : s.Valid) (closeFails : Bool) :
    (s.stop closeFails).2 = .error () ↔ s.running = true ∧ closeFails = true := by
  have hrun := hs.running_eq
  unfold stop
  cases hbox : s.box with
  | none =>
    rw [hbox] at hrun
    simp [hrun]
  | some box =>
    rw [hbox] at hrun
    cases closeFails <;> simp [hrun]

theorem start_running {s : SBInstance Bytes} {file : Option Bytes} {outcome : StartOutcome}
    (h : (s.start file outcome).2 = .ok ()) : (s.start file outcome).1.running = true := by
  rcases start_cases file outcome s with
    ⟨hrun, heq⟩ | ⟨-, -, heq⟩ | ⟨-, e, heq⟩ | ⟨-, heq⟩ | ⟨-, configData, -, heq⟩
  · simpa [heq] using hrun
  · simp [heq] at h
  · simp [heq] at h
  · simp [heq] at h
  · simp [heq, startedOn]

theorem stop_attempts {s : SBInstance Bytes} (hs : s.Valid) (closeFails : Bool) :
    (s.stop closeFails).1.ledger.attempts = s.ledger.attempts := by
  rw [stop_fst hs]
  cases s.box <;> rfl

theorem start_attempts_le (file : Option Bytes) (outcome : StartOutcome) (s : SBInstance Bytes) :
    s.ledger.attempts ≤ (s.start file outcome).1.ledger.attempts := by
  rcases start_cases file outcome s with ⟨-, h⟩ | ⟨-, -, h⟩ | ⟨-, e, h⟩ | ⟨-, h⟩ |
    ⟨-, configData, -, h⟩ <;>
    refine Nat.le_trans ?_ (Nat.le_of_eq (congrArg (fun r => r.1.ledger.attempts) h.symm))
  · exact Nat.le_refl _
  · exact Nat.le_refl _
  · exact Nat.le_succ _
  · exact Nat.le_succ _
  · exact Nat.le_succ _

theorem Valid.restart {s : SBInstance Bytes} (hs : s.Valid) (file : Option Bytes)
    (outcome : RestartOutcome) : (s.restart file outcome).1.Valid := by
  have hstop := hs.stop outcome.closeFails
  unfold SBInstance.restart
  rcases hS : s.stop outcome.closeFails with ⟨stopped, r⟩
  rw [hS] at hstop
  cases r with
  | error e => exact hstop
  | ok u =>
    have hstart := hstop.start file outcome.start
    dsimp only
    rcases hT : stopped.start file outcome.start with ⟨started, r⟩
    rw [hT] at hstart
    cases r <;> exact hstart

theorem restart_attempts_le {s : SBInstance Bytes} (hs : s.Valid) (file : Option Bytes)
    (outcome : RestartOutcome) :
    s.ledger.attempts ≤ (s.restart file outcome).1.ledger.attempts := by
  have hstop := stop_attempts hs outcome.closeFails
  unfold SBInstance.restart
  rcases hS : s.stop outcome.closeFails with ⟨stopped, r⟩
  rw [hS] at hstop
  cases r with
  | error e => exact Nat.le_of_eq hstop.symm
  | ok u =>
    have hstart := start_attempts_le file outcome.start stopped
    dsimp only at hstop ⊢
    rcases hT : stopped.start file outcome.start with ⟨started, r⟩
    rw [hT, hstop] at hstart
    cases r <;> exact hstart

/-- A restart that reports success has loaded the file as it stood. -/
theorem restart_ok {s : SBInstance Bytes} (hs : s.Valid) {file : Option Bytes}
    {outcome : RestartOutcome} (h : (s.restart file outcome).2 = .ok ()) :
    ∃ configData, file = some configData ∧ (s.restart file outcome).1.running = true ∧
      ∃ box, (s.restart file outcome).1.box = some box ∧ box.config = configData ∧
        s.ledger.attempts ≤ box.attempt := by
  have hrun := stop_running hs outcome.closeFails
  have hattempts := stop_attempts hs outcome.closeFails
  unfold SBInstance.restart at h ⊢
  rcases hS : s.stop outcome.closeFails with ⟨stopped, r⟩
  rw [hS] at h hrun hattempts
  cases r with
  | error e => simp at h
  | ok u =>
    dsimp only at h hrun hattempts ⊢
    rcases start_cases file outcome.start stopped with ⟨h1, -⟩ | ⟨-, -, h1⟩ | ⟨-, e, h1⟩ |
      ⟨-, h1⟩ | ⟨-, configData, hfile, h1⟩
    · rw [hrun] at h1
      cases h1
    · simp [h1] at h
    · simp [h1] at h
    · simp [h1] at h
    · refine ⟨configData, hfile, ?_⟩
      rw [h1]
      exact ⟨rfl, _, rfl, rfl, Nat.le_of_eq hattempts.symm⟩

end SBInstance

/-- An instance in a state its callers can bring it to. -/
abbrev Kernel (Bytes : Type*) := { s : SBInstance Bytes // s.Valid }

namespace Kernel

variable {Bytes : Type*}

def newKernel : Kernel Bytes := ⟨SBInstance.newSBInstance, SBInstance.valid_newSBInstance⟩

def restart (file : Option Bytes) (outcome : SBInstance.RestartOutcome) (k : Kernel Bytes) :
    Kernel Bytes × Except SBInstance.RestartError Unit :=
  (⟨(k.1.restart file outcome).1, k.2.restart file outcome⟩, (k.1.restart file outcome).2)

def start (file : Option Bytes) (outcome : StartOutcome) (k : Kernel Bytes) :
    Kernel Bytes × Except StartError Unit :=
  (⟨(k.1.start file outcome).1, k.2.start file outcome⟩, (k.1.start file outcome).2)

def stop (closeFails : Bool) (k : Kernel Bytes) : Kernel Bytes × Except Unit Unit :=
  (⟨(k.1.stop closeFails).1, k.2.stop closeFails⟩, (k.1.stop closeFails).2)

theorem stop_running (k : Kernel Bytes) (closeFails : Bool) :
    (k.stop closeFails).1.1.running = false := SBInstance.stop_running k.2 closeFails

theorem stop_error_iff (k : Kernel Bytes) (closeFails : Bool) :
    (k.stop closeFails).2 = .error () ↔ k.1.running = true ∧ closeFails = true :=
  SBInstance.stop_error_iff k.2 closeFails

theorem start_running {k : Kernel Bytes} {file : Option Bytes} {outcome : StartOutcome}
    (h : (k.start file outcome).2 = .ok ()) : (k.start file outcome).1.1.running = true :=
  SBInstance.start_running h

/-- The kernel runs a box created after `k`, with the given configuration. -/
def RestartedOn (k : Kernel Bytes) (configData : Bytes) (k' : Kernel Bytes) : Prop :=
  k'.1.running = true ∧ ∃ box, k'.1.box = some box ∧ box.config = configData ∧
    k.1.ledger.attempts ≤ box.attempt

theorem RestartedOn.mono {k₀ k k' : Kernel Bytes} {configData : Bytes}
    (h : k.RestartedOn configData k') (hle : k₀.1.ledger.attempts ≤ k.1.ledger.attempts) :
    k₀.RestartedOn configData k' := by
  obtain ⟨hrun, box, hbox, hconfig, hnew⟩ := h
  exact ⟨hrun, box, hbox, hconfig, Nat.le_trans hle hnew⟩

/-- A restart that reports success has loaded the file as it stood. -/
theorem restart_ok {k : Kernel Bytes} {file : Option Bytes}
    {outcome : SBInstance.RestartOutcome} (h : (k.restart file outcome).2 = .ok ()) :
    ∃ configData, file = some configData ∧
      k.RestartedOn configData (k.restart file outcome).1 :=
  SBInstance.restart_ok k.2 h

theorem restart_attempts_le (k : Kernel Bytes) (file : Option Bytes)
    (outcome : SBInstance.RestartOutcome) :
    k.1.ledger.attempts ≤ (k.restart file outcome).1.1.ledger.attempts :=
  SBInstance.restart_attempts_le k.2 file outcome

end Kernel

end Boxui.Core
