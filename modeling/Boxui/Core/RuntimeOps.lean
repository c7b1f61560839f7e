import Boxui.Core.KernelCalls
import Mathlib.Logic.Function.Basic

/-! The operations on a running kernel. Each copies handles out of the instance under its mutex
and works on the copies afterwards, except for the dialling of an outbound, which reads the box
a second time. -/
namespace Boxui.Core

variable {Bytes : Type*}

/-- The fields that a critical section reads; box, context and traffic tracker by the attempt
that created them. -/
structure Handles where
  running : Bool
  box : Option Nat
  boxCtx : Option Nat
  traffic : Option Nat
  deriving DecidableEq

def SBInstance.handles (s : SBInstance Bytes) : Handles where
  running := s.running
  box := s.currentAttempt
  boxCtx := s.boxCtx
  traffic := s.traffic

/-- A group that the kernel lets select an outbound. -/
structure SelectableOutbound where
  now : String
  all : List String
  selectOutbound : String → Bool

/-- What an outbound of the kernel answers. -/
structure KernelOutbound where
  type : String
  tag : String
  selectable : Option SelectableOutbound
  urlTest : Option (Except String (List (String × UInt16)))
  dialContext : String → String → Except String Unit
  delay : String → Int → Except String UInt16

structure OutboundManager where
  outbound : String → Option KernelOutbound
  outbounds : List KernelOutbound

/-- The service of a box context whose absence shows in a result. -/
structure BoxServices where
  cacheFile : Option (Except String Unit)

structure TrafficView where
  closeConn : Int → Bool
  closeAllConns : Nat

/-- What the boxes, contexts and trackers of all attempts answer at some moment. -/
structure RuntimeView where
  outbound : Nat → OutboundManager
  services : Nat → BoxServices
  traffic : Nat → TrafficView

structure OutboundGroupInfo where
  type : String
  tag : String
  now : String
  all : List String
  deriving DecidableEq

inductive RuntimeError where
  | notRunning
  | groupNotFound (groupTag : String)
  | notSelectable (groupTag : String)
  | notURLTestGroup (groupTag : String)
  | tagNotInGroup (outTag groupTag : String)
  | selectFailed (outTag groupTag : String)
  | outboundNotFound (tag : String)
  | notInRunningInstance (tag : String)
  | featureNotEnabled
  | kernel (message : String)
  deriving DecidableEq

inductive RuntimeResult where
  | groups (groups : List OutboundGroupInfo)
  | delays (delays : List (String × UInt16))
  | delay (ms : UInt16)
  | closed (found : Bool)
  | closedCount (count : Nat)
  | done
  | failed (e : RuntimeError)
  | nilDereference
  deriving DecidableEq

/-- `OutboundGroups` on the box it saw. -/
def outboundGroups (box : OutboundManager) : RuntimeResult :=
  .groups (box.outbounds.filterMap fun ob =>
    ob.selectable.map fun g => ⟨ob.type, ob.tag, g.now, g.all⟩)

def selectOutbound (groupTag outTag : String) (box : OutboundManager) : RuntimeResult :=
  match box.outbound groupTag with
  | none => .failed (.groupNotFound groupTag)
  | some ob =>
    match ob.selectable with
    | none => .failed (.notSelectable groupTag)
    | some sel =>
      if !sel.all.contains outTag then .failed (.tagNotInGroup outTag groupTag)
      else if !sel.selectOutbound outTag then .failed (.selectFailed outTag groupTag)
      else .done

def urlTestDelays (groupTag : String) (box : OutboundManager) : RuntimeResult :=
  match box.outbound groupTag with
  | none => .failed (.groupNotFound groupTag)
  | some ob =>
    match ob.urlTest with
    | none => .failed (.notURLTestGroup groupTag)
    | some (.error message) => .failed (.kernel message)
    | some (.ok delays) => .delays delays

def dialOutbound (tag network addr : String) (box : OutboundManager) : RuntimeResult :=
  match box.outbound tag with
  | none => .failed (.notInRunningInstance tag)
  | some ob =>
    match ob.dialContext network addr with
    | .error message => .failed (.kernel message)
    | .ok () => .done

/-- Ten seconds, in nanoseconds. -/
def defaultDelayTimeout : Int := 10000000000

def outboundDelay (tag link : String) (timeout : Int) (box : OutboundManager) : RuntimeResult :=
  match box.outbound tag with
  | none => .failed (.outboundNotFound tag)
  | some ob =>
    match ob.delay link (if timeout ≤ 0 then defaultDelayTimeout else timeout) with
    | .error message => .failed (.kernel message)
    | .ok ms => .delay ms

/-- Clearing the cache, or doing nothing without a DNS router, succeeds. -/
def flushDNS (_ctx : BoxServices) : RuntimeResult := .done

def flushFakeIP (ctx : BoxServices) : RuntimeResult :=
  match ctx.cacheFile with
  | none => .failed .featureNotEnabled
  | some (.error message) => .failed (.kernel message)
  | some (.ok ()) => .done

inductive RuntimeOp where
  | outboundGroups
  | selectOutbound (groupTag outTag : String)
  | urlTestDelays (groupTag : String)
  | closeConnection (id : Int)
  | closeAllConnections
  | dialOutbound (tag network addr : String)
  | outboundDelay (tag link : String) (timeout : Int)
  | flushDNS
  | flushFakeIP
  deriving DecidableEq

namespace RuntimeOp

/-- What the operation returns right after its critical section, when it goes no further. -/
def refused (h : Handles) : RuntimeOp → Option RuntimeResult
  | .outboundGroups => if h.box.isNone then some (.groups []) else none
  | .selectOutbound _ _ | .urlTestDelays _ | .dialOutbound _ _ _ =>
    if !h.running || h.box.isNone then some (.failed .notRunning) else none
  | .closeConnection _ => if h.traffic.isNone then some (.closed false) else none
  | .closeAllConnections => if h.traffic.isNone then some (.closedCount 0) else none
  | .outboundDelay _ _ _ =>
    if !h.running || h.box.isNone || h.boxCtx.isNone then some (.failed .notRunning) else none
  | .flushDNS | .flushFakeIP =>
    if !h.running || h.boxCtx.isNone then some (.failed .notRunning) else none

/-- The handles that the operation works on: its copies, but `DialOutbound` reads `s.box` again
without the mutex. -/
def lateRead (now seen : Handles) : RuntimeOp → Handles
  | .dialOutbound _ _ _ => { seen with box := now.box }
  | _ => seen

/-- A call through a handle that is nil. -/
def onHandle {α : Type*} (handle : Option Nat) (answer : Nat → α) (work : α → RuntimeResult) :
    RuntimeResult :=
  match handle with
  | none => .nilDereference
  | some attempt => work (answer attempt)

def work (h : Handles) (view : RuntimeView) : RuntimeOp → RuntimeResult
  | .outboundGroups => onHandle h.box view.outbound Core.outboundGroups
  | .selectOutbound groupTag outTag =>
    onHandle h.box view.outbound (Core.selectOutbound groupTag outTag)
  | .urlTestDelays groupTag => onHandle h.box view.outbound (Core.urlTestDelays groupTag)
  | .closeConnection id => onHandle h.traffic view.traffic fun t => .closed (t.closeConn id)
  | .closeAllConnections =>
    onHandle h.traffic view.traffic fun t => .closedCount t.closeAllConns
  | .dialOutbound tag network addr =>
    onHandle h.box view.outbound (Core.dialOutbound tag network addr)
  | .outboundDelay tag link timeout =>
    onHandle h.boxCtx (fun _ => ()) fun _ =>
      onHandle h.box view.outbound (Core.outboundDelay tag link timeout)
  | .flushDNS => onHandle h.boxCtx view.services Core.flushDNS
  | .flushFakeIP => onHandle h.boxCtx view.services Core.flushFakeIP

/-- The handles that the operation calls through are there. -/
def Complete (h : Handles) : RuntimeOp → Prop
  | .closeConnection _ | .closeAllConnections => h.traffic ≠ none
  | .outboundDelay _ _ _ => h.box ≠ none ∧ h.boxCtx ≠ none
  | .flushDNS | .flushFakeIP => h.boxCtx ≠ none
  | _ => h.box ≠ none

/-- The answers of an operation that finds nothing to work on. -/
def NotRunning : RuntimeResult → Prop
  | .groups [] | .failed .notRunning | .closed false | .closedCount 0 => True
  | _ => False

theorem refused_notRunning {h : Handles} {op : RuntimeOp} {r : RuntimeResult}
    (hr : op.refused h = some r) : NotRunning r := by
  cases op <;> simp only [refused] at hr <;> split at hr <;>
    first
    | exact absurd hr (Option.some_ne_none _).symm
    | (obtain rfl := Option.some.inj hr; trivial)

/-- An operation that goes on has seen every handle it calls through. -/
theorem complete_of_not_refused {h : Handles} {op : RuntimeOp} (hr : op.refused h = none) :
    op.Complete h := by
  cases op <;> simp_all [refused, Complete]

theorem onHandle_ne_nil {α : Type*} {handle : Option Nat} (hhandle : handle ≠ none)
    (answer : Nat → α) {f : α → RuntimeResult} (hf : ∀ a, f a ≠ .nilDereference) :
    onHandle handle answer f ≠ .nilDereference := by
  obtain ⟨attempt, rfl⟩ := Option.ne_none_iff_exists'.mp hhandle
  exact hf _

theorem outboundGroups_ne_nil (box : OutboundManager) :
    Core.outboundGroups box ≠ .nilDereference := RuntimeResult.noConfusion

theorem selectOutbound_ne_nil (groupTag outTag : String) (box : OutboundManager) :
    Core.selectOutbound groupTag outTag box ≠ .nilDereference := by
  unfold Core.selectOutbound
  split
  · simp
  · split
    · simp
    · split_ifs <;> simp

theorem urlTestDelays_ne_nil (groupTag : String) (box : OutboundManager) :
    Core.urlTestDelays groupTag box ≠ .nilDereference := by
  unfold Core.urlTestDelays
  split
  · simp
  · split <;> simp

theorem dialOutbound_ne_nil (tag network addr : String) (box : OutboundManager) :
    Core.dialOutbound tag network addr box ≠ .nilDereference := by
  unfold Core.dialOutbound
  split
  · simp
  · split <;> simp

theorem outboundDelay_ne_nil (tag link : String) (timeout : Int) (box : OutboundManager) :
    Core.outboundDelay tag link timeout box ≠ .nilDereference := by
  unfold Core.outboundDelay
  split
  · simp
  · split <;> simp

theorem flushFakeIP_ne_nil (ctx : BoxServices) : Core.flushFakeIP ctx ≠ .nilDereference := by
  unfold Core.flushFakeIP
  split <;> simp

/-- With the handles it needs, no operation calls through nil. -/
theorem work_ne_nil {h : Handles} {op : RuntimeOp} (hop : op.Complete h) (view : RuntimeView) :
    op.work h view ≠ .nilDereference := by
  cases op with
  | outboundGroups => exact onHandle_ne_nil hop _ outboundGroups_ne_nil
  | selectOutbound groupTag outTag =>
    exact onHandle_ne_nil hop _ (selectOutbound_ne_nil groupTag outTag)
  | urlTestDelays groupTag => exact onHandle_ne_nil hop _ (urlTestDelays_ne_nil groupTag)
  | closeConnection id => exact onHandle_ne_nil hop _ fun _ => RuntimeResult.noConfusion
  | closeAllConnections => exact onHandle_ne_nil hop _ fun _ => RuntimeResult.noConfusion
  | dialOutbound tag network addr =>
    exact onHandle_ne_nil hop _ (dialOutbound_ne_nil tag network addr)
  | outboundDelay tag link timeout =>
    have hdelay := onHandle_ne_nil hop.1 view.outbound (outboundDelay_ne_nil tag link timeout)
    exact onHandle_ne_nil hop.2 (fun _ => ()) fun _ => hdelay
  | flushDNS => exact onHandle_ne_nil hop _ fun _ => RuntimeResult.noConfusion
  | flushFakeIP => exact onHandle_ne_nil hop _ flushFakeIP_ne_nil

end RuntimeOp

/-- A call that has returned: what it saw in its critical section, what it worked on if it went
further, and its result. -/
structure RuntimeCall where
  op : RuntimeOp
  seen : Handles
  used : Option Handles
  result : RuntimeResult

/-- The call found nothing to work on, or worked on the handles it saw under the mutex, and
these were there. -/
def RuntimeCall.Sound (call : RuntimeCall) : Prop :=
  call.result ≠ .nilDereference ∧
    ((call.used = none ∧ RuntimeOp.NotRunning call.result) ∨
      (call.used = some call.seen ∧ call.op.Complete call.seen))

/-- The callers of the instance; `pending` are the operations between their critical section
and their work. -/
structure RuntimeState (Bytes : Type*) where
  kernel : SharedKernel Bytes
  pending : Nat → Option (RuntimeOp × Handles)
  calls : List RuntimeCall

inductive RuntimeStep (Bytes : Type*) where
  | kernel (call : KernelCall Bytes)
  | enter (caller : Nat) (op : RuntimeOp)
  | finish (caller : Nat) (view : RuntimeView)

def KernelCall.caller : KernelCall Bytes → Nat
  | .start caller _ _ => caller
  | .stop caller _ => caller
  | .restart caller _ => caller
  | .restartStart caller _ _ => caller

namespace RuntimeState

def initial : RuntimeState Bytes := ⟨.initial, fun _ => none, []⟩

/-- A caller does one thing at a time. -/
def step (s : RuntimeState Bytes) : RuntimeStep Bytes → RuntimeState Bytes
  | .kernel call =>
    if s.pending call.caller = none then { s with kernel := s.kernel.step call } else s
  | .enter caller op =>
    if s.pending caller = none ∧ caller ∉ s.kernel.restarting then
      let seen := s.kernel.inst.handles
      match op.refused seen with
      | some result => { s with calls := ⟨op, seen, none, result⟩ :: s.calls }
      | none => { s with pending := Function.update s.pending caller (some (op, seen)) }
    else s
  | .finish caller view =>
    match s.pending caller with
    | none => s
    | some (op, seen) =>
      let used := op.lateRead s.kernel.inst.handles seen
      { s with
        pending := Function.update s.pending caller none
        calls := ⟨op, seen, some used, op.work used view⟩ :: s.calls }

/-- When `DialOutbound` goes on, the box it saw in its critical section has not been closed. -/
def BoxKept (s : RuntimeState Bytes) : RuntimeStep Bytes → Prop
  | .finish caller _ => ∀ tag network addr seen,
      s.pending caller = some (.dialOutbound tag network addr, seen) →
        ∀ attempt, seen.box = some attempt → attempt ∉ s.kernel.inst.ledger.closed
  | _ => True

/-- What the pending operations saw: all they need, and a box that was created. -/
structure Valid (s : RuntimeState Bytes) : Prop where
  kernel : s.kernel.inst.Valid
  complete : ∀ caller op seen, s.pending caller = some (op, seen) → op.Complete seen
  created : ∀ caller op seen attempt, s.pending caller = some (op, seen) →
    seen.box = some attempt → attempt ∈ s.kernel.inst.ledger.created
  sound : ∀ call ∈ s.calls, call.Sound

end RuntimeState

namespace SBInstance

theorem start_created_subset (file : Option Bytes) (outcome : StartOutcome) (s : SBInstance Bytes) :
    s.ledger.created ⊆ (s.start file outcome).1.ledger.created := by
  rcases start_cases file outcome s with ⟨-, h⟩ | ⟨-, -, h⟩ | ⟨-, e, h⟩ | ⟨-, h⟩ |
    ⟨-, configData, -, h⟩ <;> rw [h]
  · exact List.Subset.refl _
  · exact List.Subset.refl _
  · exact List.Subset.refl _
  · exact List.subset_cons_self _ _
  · exact List.subset_cons_self _ _

theorem stop_created {s : SBInstance Bytes} (hs : s.Valid) (closeFails : Bool) :
    (s.stop closeFails).1.ledger.created = s.ledger.created := by
  rw [stop_fst hs]
  cases s.box <;> rfl

/-- A box that was created and has not been closed is the current one. -/
theorem Valid.current_of_not_closed {s : SBInstance Bytes} (hs : s.Valid) {attempt : Nat}
    (hcreated : attempt ∈ s.ledger.created) (hclosed : attempt ∉ s.ledger.closed) :
    s.currentAttempt = some attempt := by
  by_contra hne
  have hcount := hs.closed_count attempt
  rw [if_pos ⟨hcreated, hne⟩, List.count_eq_zero_of_not_mem hclosed] at hcount
  omega

end SBInstance

theorem SharedKernel.step_created_subset {k : SharedKernel Bytes} (hk : k.inst.Valid)
    (call : KernelCall Bytes) :
    k.inst.ledger.created ⊆ (k.step call).inst.ledger.created := by
  cases call with
  | start caller file outcome =>
    simp only [step]
    split_ifs
    · exact List.Subset.refl _
    · exact SBInstance.start_created_subset file outcome k.inst
  | stop caller closeFails =>
    simp only [step]
    split_ifs
    · exact List.Subset.refl _
    · rw [SBInstance.stop_created hk]
      exact List.Subset.refl _
  | restart caller closeFails =>
    have hstop := SBInstance.stop_created hk closeFails
    simp only [step]
    rcases hS : k.inst.stop closeFails with ⟨inst, r⟩
    rw [hS] at hstop
    dsimp only at hstop
    cases r <;> split_ifs
    all_goals first
      | exact List.Subset.refl _
      | exact hstop ▸ List.Subset.refl _
  | restartStart caller file outcome =>
    simp only [step]
    split_ifs
    · exact SBInstance.start_created_subset file outcome k.inst
    · exact List.Subset.refl _

namespace RuntimeState

/-- Under the condition the second read finds what the first one saw. -/
theorem lateRead_eq {s : RuntimeState Bytes} (hs : s.Valid) {caller : Nat} {view : RuntimeView}
    (hkept : s.BoxKept (.finish caller view)) {op : RuntimeOp} {seen : Handles}
    (hpending : s.pending caller = some (op, seen)) :
    op.lateRead s.kernel.inst.handles seen = seen := by
  cases op with
  | dialOutbound tag network addr =>
    have hcomplete := hs.complete caller _ seen hpending
    obtain ⟨attempt, hattempt⟩ := Option.ne_none_iff_exists'.mp hcomplete
    have hclosed := hkept tag network addr seen hpending attempt hattempt
    have hcreated := hs.created caller _ seen attempt hpending hattempt
    have hcurrent := hs.kernel.current_of_not_closed hcreated hclosed
    simp only [RuntimeOp.lateRead, SBInstance.handles, hcurrent, ← hattempt]
  | _ => rfl

theorem Valid.kernel_step {s : RuntimeState Bytes} (hs : s.Valid) (call : KernelCall Bytes) :
    (s.step (.kernel call)).Valid := by
  simp only [RuntimeState.step]
  split_ifs
  · refine ⟨SharedKernel.step_valid s.kernel call hs.kernel, hs.complete, ?_, hs.sound⟩
    intro caller op seen attempt hpending hbox
    exact SharedKernel.step_created_subset hs.kernel call
      (hs.created caller op seen attempt hpending hbox)
  · exact hs

theorem Valid.enter {s : RuntimeState Bytes} (hs : s.Valid) (caller : Nat) (op : RuntimeOp) :
    (s.step (.enter caller op)).Valid := by
  simp only [RuntimeState.step]
  split_ifs
  · cases hrefused : op.refused s.kernel.inst.handles with
    | some result =>
      have hresult := RuntimeOp.refused_notRunning hrefused
      refine ⟨hs.kernel, hs.complete, hs.created, ?_⟩
      intro call hcall
      rcases List.mem_cons.mp hcall with rfl | hcall
      · refine ⟨?_, .inl ⟨rfl, hresult⟩⟩
        intro hnil
        rw [show result = .nilDereference from hnil] at hresult
        exact hresult
      · exact hs.sound call hcall
    | none =>
      have hcomplete := RuntimeOp.complete_of_not_refused hrefused
      have hnew {caller' : Nat} {op' : RuntimeOp} {seen : Handles}
          (h : Function.update s.pending caller (some (op, s.kernel.inst.handles)) caller' =
            some (op', seen)) :
          (op' = op ∧ seen = s.kernel.inst.handles) ∨ s.pending caller' = some (op', seen) := by
        rw [Function.update_apply] at h
        split_ifs at h
        · obtain ⟨rfl, rfl⟩ := Prod.mk.inj (Option.some.inj h)
          exact .inl ⟨rfl, rfl⟩
        · exact .inr h
      refine ⟨hs.kernel, ?_, ?_, hs.sound⟩
      · intro caller' op' seen hpending
        rcases hnew hpending with ⟨rfl, rfl⟩ | hold
        · exact hcomplete
        · exact hs.complete caller' op' seen hold
      · intro caller' op' seen attempt hpending hbox
        rcases hnew hpending with ⟨rfl, rfl⟩ | hold
        · exact hs.kernel.current_created attempt hbox
        · exact hs.created caller' op' seen attempt hold hbox
  · exact hs

theorem Valid.finish {s : RuntimeState Bytes} (hs : s.Valid) {caller : Nat} {view : RuntimeView}
    (hkept : s.BoxKept (.finish caller view)) : (s.step (.finish caller view)).Valid := by
  simp only [RuntimeState.step]
  cases hpending : s.pending caller with
  | none => exact hs
  | some p =>
    obtain ⟨op, seen⟩ := p
    have hcomplete := hs.complete caller op seen hpending
    have hlate := lateRead_eq hs hkept hpending
    have hold {caller' : Nat} {p : RuntimeOp × Handles}
        (h : Function.update s.pending caller none caller' = some p) :
        s.pending caller' = some p := by
      rw [Function.update_apply] at h
      split_ifs at h
      exact h
    refine ⟨hs.kernel, fun _ _ _ h => hs.complete _ _ _ (hold h),
      fun _ _ _ _ h => hs.created _ _ _ _ (hold h), ?_⟩
    intro call hcall
    rcases List.mem_cons.mp hcall with rfl | hcall
    · dsimp only [RuntimeCall.Sound]
      rw [hlate]
      exact ⟨RuntimeOp.work_ne_nil hcomplete view, .inr ⟨rfl, hcomplete⟩⟩
    · exact hs.sound call hcall

theorem Valid.step {s : RuntimeState Bytes} (hs : s.Valid) {label : RuntimeStep Bytes}
    (hkept : s.BoxKept label) : (s.step label).Valid := by
  cases label with
  | kernel call => exact hs.kernel_step call
  | enter caller op => exact hs.enter caller op
  | finish caller view => exact hs.finish hkept

/-- In every interleaving in which no stop closes a box between the two reads of a
`DialOutbound`, every operation reports that nothing runs or works on the handles it saw under
the mutex, and none calls through nil. -/
theorem runtimeOps_sound {labels : List (RuntimeStep Bytes)}
    (hkept : Machine.Along step BoxKept (initial : RuntimeState Bytes) labels) :
    ∀ call ∈ (Machine.run step (initial : RuntimeState Bytes) labels).calls, call.Sound := by
  have hvalid := Machine.run_along (P := fun s : RuntimeState Bytes => s.Valid)
    (fun s label hlabel hs => hs.step hlabel) hkept
    ⟨SBInstance.valid_newSBInstance, fun _ _ _ h => (nomatch h),
      fun _ _ _ _ h => (nomatch h), fun _ h => absurd h List.not_mem_nil⟩
  exact hvalid.sound

/-- A kernel without outbounds, services or connections. -/
def bareView : RuntimeView where
  outbound _ := ⟨fun _ => none, []⟩
  services _ := ⟨none⟩
  traffic _ := ⟨fun _ => false, 0⟩

def startNow : KernelCall Unit := .start 0 (some ()) ⟨false, false, false, 0⟩

/-- A dial and a flush of the DNS cache; the kernel stops when the dial is over. -/
def dialThenStop : List (RuntimeStep Unit) :=
  [.kernel startNow, .enter 1 (.dialOutbound "proxy" "tcp" "example.com:443"), .enter 2 .flushDNS,
    .finish 1 bareView, .kernel (.stop 0 false), .finish 2 bareView]

theorem dialThenStop_sound :
    ∃ flush dial, (Machine.run step initial dialThenStop).calls = [flush, dial] ∧
      flush.Sound ∧ dial.Sound := by
  have hsound : ∀ call ∈ (Machine.run step initial dialThenStop).calls, call.Sound := by
    refine runtimeOps_sound ⟨trivial, trivial, trivial, ?_, trivial, ?_, trivial⟩
    · intro tag network addr seen hpending attempt hattempt
      exact List.not_mem_nil
    · intro tag network addr seen hpending
      cases hpending
  exact ⟨_, _, rfl, hsound _ List.mem_cons_self,
    hsound _ (List.mem_cons_of_mem _ List.mem_cons_self)⟩

/-- The kernel stops between the two reads of a dial. -/
def stopDuringDial : List (RuntimeStep Unit) :=
  [.kernel startNow, .enter 1 (.dialOutbound "proxy" "tcp" "example.com:443"),
    .kernel (.stop 0 false), .finish 1 bareView]

theorem stopDuringDial_calls_nil :
    ¬∀ call ∈ (Machine.run step initial stopDuringDial).calls, call.Sound := by
  intro h
  exact (h _ List.mem_cons_self).1 rfl

end RuntimeState

end Boxui.Core
