import Boxui.Core.LogWriter
import Boxui.Library.Handover

/-! A log stream to one client: it sends the recent entries, subscribes, and forwards what its
channel receives, while entries are written and other clients come and go. -/
namespace Boxui.API
open Boxui.Core Machine Handover

/-- Where `streamLogs` is: before `Recent`, with entries of the snapshot still to send, in its
loop on a channel, or gone. -/
inductive StreamPhase where
  | connecting
  | replaying (rest : List LogEntry)
  | live (id : Nat)
  | gone
  deriving DecidableEq

/-- `snapshot` and `since` remember what `Recent` returned and how many writes came before. -/
structure LogStream where
  writer : LogWriter
  phase : StreamPhase
  delivered : List LogEntry
  snapshot : List LogEntry
  since : Nat

inductive StreamStep where
  | log (label : LogStep)
  | recent
  | replay
  | subscribe
  | deliver
  | leave
  deriving DecidableEq

/-- The channel only its own client receives from and unsubscribes. -/
def StreamStep.uses : StreamStep → Option Nat
  | .log (.unsubscribe id) => some id
  | .log (.receive ch) => some ch
  | _ => none

namespace LogStream

def connect (writer : LogWriter) : LogStream := ⟨writer, .connecting, [], [], 0⟩

/-- What `streamLogs` does next; the steps of other clients are those that leave its channel
alone. -/
def advance (s : LogStream) (label : StreamStep) : LogStream :=
  match s.phase, label with
  | .live id, .log label =>
    if StreamStep.uses (.log label) = some id then s else { s with writer := s.writer.step label }
  | _, .log label => { s with writer := s.writer.step label }
  | .connecting, .recent =>
    { s with
      phase := .replaying s.writer.recent
      snapshot := s.writer.recent
      since := s.writer.calls.length }
  | .replaying (entry :: rest), .replay =>
    { s with phase := .replaying rest, delivered := s.delivered ++ [entry] }
  | .replaying [], .subscribe =>
    { s with phase := .live (s.writer.nextID + 1), writer := s.writer.subscribe }
  | .live id, .deliver =>
    match (s.writer.channels id).queue with
    | entry :: _ =>
      { s with writer := s.writer.receive id, delivered := s.delivered ++ [entry] }
    | [] => s
  | .live id, .leave => { s with phase := .gone, writer := s.writer.unsubscribe id }
  | _, _ => s

/-- A panic ends the process. -/
def step (s : LogStream) (label : StreamStep) : LogStream :=
  if s.writer.panicked.isSome then s else s.advance label

/-- The calls that have still to send to a channel. -/
def pendingTo (id : Nat) (calls : List (LogEntry × List Nat)) : List LogEntry :=
  calls.filterMap fun call => if id ∈ call.2 then some call.1 else none

/-- The writes since `Recent`. -/
def calls (s : LogStream) : List (LogEntry × List Nat) := s.writer.calls.drop s.since

/-- What was sent to the client, what its channel holds, what is still being sent to it, and
all entries written since `Recent`. -/
def flow (s : LogStream) (id : Nat) : Flow LogEntry where
  delivered := s.delivered
  queue := (s.writer.channels id).queue
  pending := pendingTo id s.calls
  later := s.calls.map Prod.fst

/-- Nothing is written between `Recent` and `Subscribe`. -/
def NothingBetween (s : LogStream) (label : StreamStep) : Prop :=
  ∀ rest w, s.phase = .replaying rest → label ≠ .log (.write w)

/-- A send to the client's channel finds room. -/
def Room (s : LogStream) (label : StreamStep) : Prop :=
  ∀ id call, s.phase = .live id → label = .log (.send call id) →
    (s.writer.channels id).queue.length < channelCapacity

/-- A write starts when the one before it has returned. -/
def OneWriter (s : LogStream) (label : StreamStep) : Prop :=
  ∀ w, label = .log (.write w) → ∀ call ∈ s.writer.calls, call.2 = []

theorem pendingTo_append (id : Nat) (calls calls' : List (LogEntry × List Nat)) :
    pendingTo id (calls ++ calls') = pendingTo id calls ++ pendingTo id calls' :=
  List.filterMap_append

theorem pendingTo_eq_nil {id : Nat} {calls : List (LogEntry × List Nat)}
    (h : ∀ call ∈ calls, id ∉ call.2) : pendingTo id calls = [] := by
  rw [pendingTo, List.filterMap_eq_nil_iff]
  intro call hcall
  rw [if_neg (h call hcall)]

/-- A send to another channel leaves what is pending for this one. -/
theorem pendingTo_set_of_iff {id i : Nat} {calls : List (LogEntry × List Nat)} {entry : LogEntry}
    {chs chs' : List Nat} (hi : calls[i]? = some (entry, chs)) (h : id ∈ chs' ↔ id ∈ chs) :
    pendingTo id (calls.set i (entry, chs')) = pendingTo id calls := by
  induction calls generalizing i with
  | nil => cases hi
  | cons call calls ih =>
    cases i with
    | zero =>
      obtain rfl := Option.some.inj hi
      simp only [List.set_cons_zero, pendingTo, List.filterMap_cons, h]
    | succ i =>
      have htail := ih (i := i) hi
      simp only [pendingTo] at htail
      simp only [List.set_cons_succ, pendingTo, List.filterMap_cons, htail]

/-- A send to this channel takes the entry out of what is pending. -/
theorem pendingTo_set_perm {id i : Nat} {calls : List (LogEntry × List Nat)} {entry : LogEntry}
    {chs chs' : List Nat} (hi : calls[i]? = some (entry, chs)) (hmem : id ∈ chs)
    (hnot : id ∉ chs') :
    (pendingTo id calls).Perm (entry :: pendingTo id (calls.set i (entry, chs'))) := by
  induction calls generalizing i with
  | nil => cases hi
  | cons call calls ih =>
    cases i with
    | zero =>
      obtain rfl := Option.some.inj hi
      simp only [List.set_cons_zero, pendingTo, List.filterMap_cons, if_pos hmem, if_neg hnot]
      exact List.Perm.refl _
    | succ i =>
      have htail := ih (i := i) hi
      by_cases hcall : id ∈ call.2
      · simp only [List.set_cons_succ, pendingTo, List.filterMap_cons, if_pos hcall] at htail ⊢
        exact (htail.cons _).trans (List.Perm.swap _ _ _)
      · simp only [List.set_cons_succ, pendingTo, List.filterMap_cons, if_neg hcall] at htail ⊢
        exact htail

theorem map_fst_set {i : Nat} {calls : List (LogEntry × List Nat)} {entry : LogEntry}
    {chs chs' : List Nat} (hi : calls[i]? = some (entry, chs)) :
    (calls.set i (entry, chs')).map Prod.fst = calls.map Prod.fst := by
  induction calls generalizing i with
  | nil => cases hi
  | cons call calls ih =>
    cases i with
    | zero =>
      obtain rfl := Option.some.inj hi
      rfl
    | succ i => simp only [List.set_cons_succ, List.map_cons, ih (i := i) hi]

/-- The client's channel is subscribed and no call from before `Recent` sends to it. -/
structure Attached (s : LogStream) (id : Nat) : Prop where
  mem_subs : id ∈ s.writer.subs
  since_le : s.since ≤ s.writer.calls.length
  early : ∀ i entry chs, i < s.since → s.writer.calls[i]? = some (entry, chs) → id ∉ chs

/-- A call that has still to send to the client's channel came after `Recent`. -/
theorem Attached.since_le_of_mem {s : LogStream} {id : Nat} (h : s.Attached id) {i : Nat}
    {entry : LogEntry} {chs : List Nat} (hi : s.writer.calls[i]? = some (entry, chs))
    (hid : id ∈ chs) : s.since ≤ i := by
  by_contra hlt
  exact h.early i entry chs (by omega) hi hid

theorem calls_getElem? {s : LogStream} {i : Nat} (h : s.since ≤ i) :
    s.calls[i - s.since]? = s.writer.calls[i]? := by
  rw [calls, List.getElem?_drop, Nat.add_sub_cancel' h]

theorem Attached.flow_write {s : LogStream} {id : Nat} (h : s.Attached id) (entry : LogEntry) :
    Flow.Step (s.flow id) (flow { s with writer := s.writer.write entry } id) := by
  have hcalls : calls { s with writer := s.writer.write entry } =
      s.calls ++ [(entry, s.writer.subs)] :=
    List.drop_append_of_le_length h.since_le
  have hpending : pendingTo id [(entry, s.writer.subs)] = [entry] := by
    simp only [pendingTo, List.filterMap_cons, if_pos h.mem_subs, List.filterMap_nil]
  have hflow : flow { s with writer := s.writer.write entry } id =
      { s.flow id with
        pending := (s.flow id).pending ++ [entry], later := (s.flow id).later ++ [entry] } := by
    simp only [flow, hcalls, pendingTo_append, hpending, List.map_append, List.map_cons,
      List.map_nil]
    rfl
  rw [hflow]
  exact .write _ _

theorem Attached.flow_send {s : LogStream} {id : Nat} (h : s.Attached id)
    (hs : s.writer.Valid) (hcopied : s.writer.Copied) (call ch : Nat)
    (hroom : ch = id → (s.writer.channels id).queue.length < channelCapacity) :
    Flow.Step (s.flow id) (flow { s with writer := s.writer.send call ch } id) := by
  obtain heq | ⟨entry, chs, hget, hch, heq⟩ := LogWriter.send_cases call ch s.writer
  · rw [heq]
    exact .stay _
  rw [heq]
  -- the calls since `Recent` after the send
  have hcalls : (s.writer.calls.set call (entry, chs.erase ch)).drop s.since =
      if s.since ≤ call then s.calls.set (call - s.since) (entry, chs.erase ch) else s.calls := by
    rw [List.drop_set]
    split_ifs with h₁ h₂ h₂
    · omega
    · rfl
    · rfl
    · omega
  have hlater : ((s.writer.calls.set call (entry, chs.erase ch)).drop s.since).map Prod.fst =
      s.calls.map Prod.fst := by
    rw [hcalls]
    split_ifs with hle
    · exact map_fst_set (show s.calls[call - s.since]? = some (entry, chs) by
        rw [calls_getElem? hle, hget])
    · rfl
  by_cases hid : ch = id
  · subst hid
    have hle := h.since_le_of_mem hget hch
    have hi : s.calls[call - s.since]? = some (entry, chs) := by rw [calls_getElem? hle, hget]
    have hnot : ch ∉ chs.erase ch := (hcopied _ (List.mem_of_getElem? hget)).1.not_mem_erase
    have hstep := Flow.Step.send (s.flow ch) entry _ (pendingTo_set_perm hi hch hnot)
    rw [if_pos hle] at hcalls
    convert hstep using 1
    simp only [flow, LogStream.calls, hlater,
      LogWriter.trySend_queue (hs.subs_open ch h.mem_subs) (hroom rfl)]
    rw [hcalls]
    rfl
  · have hiff : id ∈ chs.erase ch ↔ id ∈ chs := List.mem_erase_of_ne (Ne.symm hid)
    have hpending : pendingTo id ((s.writer.calls.set call (entry, chs.erase ch)).drop s.since) =
        pendingTo id s.calls := by
      rw [hcalls]
      split_ifs with hle
      · exact pendingTo_set_of_iff (by rw [calls_getElem? hle, hget]) hiff
      · rfl
    convert Flow.Step.stay (s.flow id) using 1
    simp only [flow, LogStream.calls, hlater, hpending,
      LogWriter.trySend_channels_of_ne (Ne.symm hid)]

/-- What any step of the log writer does to the flow to an attached client. -/
theorem Attached.flow_log {s : LogStream} {id : Nat} (h : s.Attached id) (hs : s.writer.Valid)
    (hcopied : s.writer.Copied) {label : LogStep} (huses : StreamStep.uses (.log label) ≠ some id)
    (hroom : ∀ call, label = .send call id →
      (s.writer.channels id).queue.length < channelCapacity) :
    Flow.Step (s.flow id) (flow { s with writer := s.writer.step label } id) := by
  have hstay : ∀ channels : Nat → LogChannel, channels id = s.writer.channels id →
      ∀ subs nextID panicked, Flow.Step (s.flow id) (flow { s with
        writer := { s.writer with
          channels := channels, subs := subs, nextID := nextID, panicked := panicked } } id) := by
    intro channels hchannels subs nextID panicked
    convert Flow.Step.stay (s.flow id) using 1
    simp only [flow, LogStream.calls, hchannels]
  unfold LogWriter.step
  split
  · exact .stay _
  cases label with
  | write w => exact h.flow_write w.entry
  | send call ch => exact h.flow_send hs hcopied call ch fun heq => hroom call (heq ▸ rfl)
  | subscribe =>
    refine hstay _ (Function.update_of_ne ?_ _ _) _ _ _
    have hle := hs.subs_le id h.mem_subs
    omega
  | unsubscribe id' =>
    have hne : id ≠ id' := fun heq => huses (heq ▸ rfl)
    by_cases hid' : id' ∈ s.writer.subs
    · simp only [LogWriter.unsubscribe_of_mem hs hid']
      exact hstay _ (Function.update_of_ne hne _ _) _ _ _
    · simp only [LogWriter.unsubscribe, if_neg hid']
      exact .stay _
  | receive ch =>
    have hne : id ≠ ch := fun heq => huses (heq ▸ rfl)
    exact hstay _ (Function.update_of_ne hne _ _) _ _ _

/-- Only a write adds an entry. -/
theorem map_fst_calls_step_of_ne {s : LogWriter} {label : LogStep} (h : ∀ w, label ≠ .write w) :
    (s.step label).calls.map Prod.fst = s.calls.map Prod.fst := by
  unfold LogWriter.step
  split
  · rfl
  cases label with
  | write w => exact absurd rfl (h w)
  | send call ch =>
    obtain heq | ⟨entry, chs, hget, -, heq⟩ := LogWriter.send_cases call ch s
    · simp only [heq]
    · simp only [heq]
      exact map_fst_set hget
  | subscribe => rfl
  | unsubscribe id =>
    simp only [LogWriter.unsubscribe]
    split
    · split <;> rfl
    · rfl
  | receive ch => rfl

theorem length_calls_step_of_ne {s : LogWriter} {label : LogStep} (h : ∀ w, label ≠ .write w) :
    (s.step label).calls.length = s.calls.length := by
  simpa using congrArg List.length (map_fst_calls_step_of_ne (s := s) h)

theorem length_calls_step (s : LogWriter) (label : LogStep) :
    s.calls.length ≤ (s.step label).calls.length := by
  by_cases h : ∀ w, label ≠ .write w
  · exact Nat.le_of_eq (length_calls_step_of_ne h).symm
  · obtain ⟨w, rfl⟩ := not_forall_not.mp h
    unfold LogWriter.step
    split
    · exact Nat.le_refl _
    · simp [LogWriter.write]

/-- A call never gets a channel back. -/
theorem subset_of_calls_step {s : LogWriter} {label : LogStep} {i : Nat} {entry : LogEntry}
    {chs : List Nat} (hi : i < s.calls.length)
    (hget : (s.step label).calls[i]? = some (entry, chs)) :
    ∃ chs', s.calls[i]? = some (entry, chs') ∧ chs ⊆ chs' := by
  unfold LogWriter.step at hget
  split at hget
  · exact ⟨chs, hget, List.Subset.refl _⟩
  cases label with
  | write w =>
    simp only [LogWriter.write, List.getElem?_append_left hi] at hget
    exact ⟨chs, hget, List.Subset.refl _⟩
  | send call ch =>
    obtain heq | ⟨entry', chs', hcall, -, heq⟩ := LogWriter.send_cases call ch s
    · simp only [heq] at hget
      exact ⟨chs, hget, List.Subset.refl _⟩
    · simp only [heq, List.getElem?_set] at hget
      split at hget
      · next hcallI =>
        subst hcallI
        rw [if_pos hi] at hget
        obtain ⟨rfl, rfl⟩ := Prod.mk.inj (Option.some.inj hget)
        exact ⟨chs', hcall, List.erase_subset⟩
      · exact ⟨chs, hget, List.Subset.refl _⟩
  | subscribe => exact ⟨chs, hget, List.Subset.refl _⟩
  | unsubscribe id =>
    simp only [LogWriter.unsubscribe] at hget
    refine ⟨chs, ?_, List.Subset.refl _⟩
    split at hget
    · split at hget <;> exact hget
    · exact hget
  | receive ch => exact ⟨chs, hget, List.Subset.refl _⟩

theorem Attached.log {s : LogStream} {id : Nat} (h : s.Attached id) (hs : s.writer.Valid)
    {label : LogStep} (huses : StreamStep.uses (.log label) ≠ some id) :
    Attached { s with writer := s.writer.step label } id where
  mem_subs := by
    change id ∈ (s.writer.step label).subs
    unfold LogWriter.step
    split
    · exact h.mem_subs
    cases label with
    | write w => exact h.mem_subs
    | send call ch =>
      obtain heq | ⟨entry, chs, -, -, heq⟩ := LogWriter.send_cases call ch s.writer
      · simp only [heq]
        exact h.mem_subs
      · simp only [heq, LogWriter.trySend_subs]
        exact h.mem_subs
    | subscribe => exact List.mem_append_left _ h.mem_subs
    | unsubscribe id' =>
      have hne : id ≠ id' := fun heq => huses (heq ▸ rfl)
      by_cases hid' : id' ∈ s.writer.subs
      · simp only [LogWriter.unsubscribe_of_mem hs hid']
        exact (List.mem_erase_of_ne hne).mpr h.mem_subs
      · simp only [LogWriter.unsubscribe, if_neg hid']
        exact h.mem_subs
    | receive ch => exact h.mem_subs
  since_le := Nat.le_trans h.since_le (length_calls_step s.writer label)
  early i entry chs hi hget hid := by
    obtain ⟨chs', hget', hsubset⟩ := subset_of_calls_step (Nat.lt_of_lt_of_le hi h.since_le) hget
    exact h.early i entry chs' hi hget' (hsubset hid)

/-- Everything one step of the stream can do. -/
theorem advance_cases (s : LogStream) (label : StreamStep) :
    s.advance label = s ∨
    (∃ l, label = .log l ∧ (∀ id, s.phase = .live id → StreamStep.uses (.log l) ≠ some id) ∧
      s.advance label = { s with writer := s.writer.step l }) ∨
    (s.phase = .connecting ∧ s.advance label =
      { s with
        phase := .replaying s.writer.recent
        snapshot := s.writer.recent
        since := s.writer.calls.length }) ∨
    (∃ entry rest, s.phase = .replaying (entry :: rest) ∧ s.advance label =
      { s with phase := .replaying rest, delivered := s.delivered ++ [entry] }) ∨
    (s.phase = .replaying [] ∧ s.advance label =
      { s with phase := .live (s.writer.nextID + 1), writer := s.writer.subscribe }) ∨
    (∃ id entry rest, s.phase = .live id ∧ (s.writer.channels id).queue = entry :: rest ∧
      s.advance label =
        { s with writer := s.writer.receive id, delivered := s.delivered ++ [entry] }) ∨
    ∃ id, s.phase = .live id ∧
      s.advance label = { s with phase := .gone, writer := s.writer.unsubscribe id } := by
  unfold advance
  split
  · next id l hphase =>
    split
    · exact .inl rfl
    · next huses =>
      refine .inr (.inl ⟨l, rfl, fun id' hid' => ?_, rfl⟩)
      obtain rfl : id = id' := StreamPhase.live.inj (hphase.symm.trans hid')
      exact huses
  · next l hphase =>
    refine .inr (.inl ⟨l, rfl, fun id hid => ?_, rfl⟩)
    exact absurd hid (hphase id)
  · next hphase => exact .inr (.inr (.inl ⟨hphase, rfl⟩))
  · next entry rest hphase => exact .inr (.inr (.inr (.inl ⟨entry, rest, hphase, rfl⟩)))
  · next hphase => exact .inr (.inr (.inr (.inr (.inl ⟨hphase, rfl⟩))))
  · next id hphase =>
    split
    · next entry rest hqueue =>
      exact .inr (.inr (.inr (.inr (.inr (.inl ⟨id, entry, rest, hphase, hqueue, rfl⟩)))))
    · exact .inl rfl
  · next id hphase => exact .inr (.inr (.inr (.inr (.inr (.inr ⟨id, hphase, rfl⟩)))))
  · exact .inl rfl

/-- What holds in every state of a stream between whose two locked sections nothing is written
and whose channel has room. -/
structure Consistent (s : LogStream) : Prop where
  valid : s.writer.Valid
  copied : s.writer.Copied
  connecting : s.phase = .connecting → s.delivered = []
  replaying : ∀ rest, s.phase = .replaying rest →
    s.delivered ++ rest = s.snapshot ∧ s.since = s.writer.calls.length
  live : ∀ id, s.phase = .live id → s.Attached id ∧ (s.flow id).Conserved s.snapshot

theorem attached_subscribe {s : LogStream} (hcopied : s.writer.Copied)
    (hsince : s.since = s.writer.calls.length) :
    Attached { s with phase := .live (s.writer.nextID + 1), writer := s.writer.subscribe }
      (s.writer.nextID + 1) where
  mem_subs := List.mem_append_right _ (List.mem_singleton_self _)
  since_le := Nat.le_of_eq hsince
  early i entry chs _ hget hid := by
    have hle := (hcopied _ (List.mem_of_getElem? hget)).2 _ hid
    omega

/-- At the subscription nothing is queued, pending or written since. -/
theorem flow_subscribe {s : LogStream} (hsince : s.since = s.writer.calls.length) :
    flow { s with phase := .live (s.writer.nextID + 1), writer := s.writer.subscribe }
      (s.writer.nextID + 1) = ⟨s.delivered, [], [], []⟩ := by
  have hcalls : s.writer.calls.drop s.since = [] := by rw [hsince, List.drop_length]
  simp only [flow, LogStream.calls, LogWriter.subscribe, Function.update_self, hcalls]
  rfl

theorem flow_receive {s : LogStream} {id : Nat} {entry : LogEntry} {rest : List LogEntry}
    (hqueue : (s.writer.channels id).queue = entry :: rest) :
    Flow.Step (s.flow id)
      (flow { s with writer := s.writer.receive id, delivered := s.delivered ++ [entry] } id) := by
  convert Flow.Step.deliver (s.flow id) entry rest hqueue using 1
  simp only [flow, LogStream.calls, LogWriter.receive, Function.update_self, hqueue, List.tail_cons]

theorem Consistent.live_step {s : LogStream} (h : s.Consistent) {label : StreamStep}
    (hroom : s.Room label) {id : Nat} (hlive : (s.step label).phase = .live id) :
    (s.step label).Attached id ∧ (s.step label).snapshot = s.snapshot ∧
      ((s.phase = .live id ∧ Flow.Step (s.flow id) ((s.step label).flow id)) ∨
        (s.step label).flow id = ⟨s.snapshot, [], [], []⟩) := by
  unfold step at hlive ⊢
  split_ifs at hlive ⊢
  · exact ⟨(h.live id hlive).1, rfl, .inl ⟨hlive, .stay _⟩⟩
  obtain heq | ⟨l, rfl, huses, heq⟩ | ⟨-, heq⟩ | ⟨entry, rest, -, heq⟩ | ⟨hphase, heq⟩ |
    ⟨id', entry, rest, hphase, hqueue, heq⟩ | ⟨id', -, heq⟩ := advance_cases s label
  · rw [heq] at hlive ⊢
    exact ⟨(h.live id hlive).1, rfl, .inl ⟨hlive, .stay _⟩⟩
  · rw [heq] at hlive ⊢
    have hattached := (h.live id hlive).1
    exact ⟨hattached.log h.valid (huses id hlive), rfl, .inl ⟨hlive, hattached.flow_log h.valid
      h.copied (huses id hlive) fun call hcall => hroom id call hlive (congrArg _ hcall)⟩⟩
  · rw [heq] at hlive
    cases hlive
  · rw [heq] at hlive
    cases hlive
  · rw [heq] at hlive ⊢
    obtain rfl := StreamPhase.live.inj hlive
    obtain ⟨hdelivered, hsince⟩ := h.replaying [] hphase
    rw [List.append_nil] at hdelivered
    refine ⟨attached_subscribe h.copied hsince, rfl, .inr ?_⟩
    rw [flow_subscribe hsince, hdelivered]
  · rw [heq] at hlive ⊢
    obtain rfl : id' = id := StreamPhase.live.inj (hphase.symm.trans hlive)
    have hattached := (h.live id' hphase).1
    exact ⟨⟨hattached.mem_subs, hattached.since_le, hattached.early⟩, rfl,
      .inl ⟨hphase, flow_receive hqueue⟩⟩
  · rw [heq] at hlive
    cases hlive

/-- To the writer the stream is one more client. -/
theorem writer_step (s : LogStream) (label : StreamStep) :
    (s.step label).writer = s.writer ∨ ∃ l, (s.step label).writer = s.writer.step l := by
  unfold step
  split
  · exact .inl rfl
  next hp =>
  obtain heq | ⟨l, -, -, heq⟩ | ⟨-, heq⟩ | ⟨_, _, -, heq⟩ | ⟨-, heq⟩ | ⟨id, _, _, -, -, heq⟩ |
    ⟨id, -, heq⟩ := advance_cases s label <;> rw [heq]
  · exact .inl rfl
  · exact .inr ⟨l, rfl⟩
  · exact .inl rfl
  · exact .inl rfl
  · exact .inr ⟨.subscribe, (if_neg hp).symm⟩
  · exact .inr ⟨.receive id, (if_neg hp).symm⟩
  · exact .inr ⟨.unsubscribe id, (if_neg hp).symm⟩

theorem Consistent.replaying_step {s : LogStream} (h : s.Consistent) {label : StreamStep}
    (hbetween : s.NothingBetween label) {rest : List LogEntry}
    (hrest : (s.step label).phase = .replaying rest) :
    (s.step label).delivered ++ rest = (s.step label).snapshot ∧
      (s.step label).since = (s.step label).writer.calls.length := by
  unfold step at hrest ⊢
  split_ifs at hrest ⊢
  · exact h.replaying rest hrest
  obtain heq | ⟨l, rfl, -, heq⟩ | ⟨hphase, heq⟩ | ⟨entry, rest', hphase, heq⟩ | ⟨-, heq⟩ |
    ⟨_, _, _, hphase, -, heq⟩ | ⟨_, -, heq⟩ := advance_cases s label <;> rw [heq] at hrest ⊢
  · exact h.replaying rest hrest
  · obtain ⟨hdelivered, hsince⟩ := h.replaying rest hrest
    have hne : ∀ w, l ≠ .write w := fun w hw => hbetween rest w hrest (congrArg _ hw)
    exact ⟨hdelivered, hsince.trans (length_calls_step_of_ne hne).symm⟩
  · obtain rfl := StreamPhase.replaying.inj hrest
    exact ⟨by rw [h.connecting hphase, List.nil_append], rfl⟩
  · obtain rfl := StreamPhase.replaying.inj hrest
    obtain ⟨hdelivered, hsince⟩ := h.replaying _ hphase
    exact ⟨by rw [List.append_assoc, List.singleton_append, hdelivered], hsince⟩
  · cases hrest
  · rw [hphase] at hrest
    cases hrest
  · cases hrest

theorem Consistent.connecting_step {s : LogStream} (h : s.Consistent) {label : StreamStep}
    (hphase : (s.step label).phase = .connecting) : (s.step label).delivered = [] := by
  unfold step at hphase ⊢
  split_ifs at hphase ⊢
  · exact h.connecting hphase
  obtain heq | ⟨_, -, -, heq⟩ | ⟨-, heq⟩ | ⟨_, _, -, heq⟩ | ⟨-, heq⟩ | ⟨_, _, _, hlive, -, heq⟩ |
    ⟨_, -, heq⟩ := advance_cases s label <;> rw [heq] at hphase ⊢
  · exact h.connecting hphase
  · exact h.connecting hphase
  · cases hphase
  · cases hphase
  · cases hphase
  · rw [hlive] at hphase
    cases hphase
  · cases hphase

theorem Consistent.step {s : LogStream} (h : s.Consistent) {label : StreamStep}
    (hbetween : s.NothingBetween label) (hroom : s.Room label) : (s.step label).Consistent := by
  have hwriter : (s.step label).writer.Valid ∧ (s.step label).writer.Copied := by
    obtain heq | ⟨l, heq⟩ := writer_step s label <;> rw [heq]
    · exact ⟨h.valid, h.copied⟩
    · exact ⟨h.valid.step l, h.copied.step h.valid l⟩
  exact
    { valid := hwriter.1
      copied := hwriter.2
      connecting := h.connecting_step
      replaying := fun _ => h.replaying_step hbetween
      live := by
        intro id hlive
        obtain ⟨hattached, hsnapshot, ⟨hbefore, hstep⟩ | hflow⟩ := h.live_step hroom hlive
        · exact ⟨hattached, hsnapshot ▸ hstep.conserved (h.live id hbefore).2⟩
        · refine ⟨hattached, ?_⟩
          rw [hflow, hsnapshot]
          exact ⟨List.prefix_refl _, by simp⟩ }

/-- With a single writer nothing overtakes. -/
def Ordered (s : LogStream) : Prop :=
  ∀ id, s.phase = .live id → (s.flow id).InOrder s.snapshot ∧ (s.flow id).pending.length ≤ 1

theorem later_step_of_ne {s : LogStream} {label : StreamStep} {id : Nat}
    (hlive : (s.step label).phase = .live id) (hbefore : s.phase = .live id)
    (h : ∀ w, label ≠ .log (.write w)) : ((s.step label).flow id).later = (s.flow id).later := by
  unfold step at hlive ⊢
  split_ifs at hlive ⊢
  · rfl
  obtain heq | ⟨l, rfl, -, heq⟩ | ⟨hphase, heq⟩ | ⟨_, _, hphase, heq⟩ | ⟨hphase, heq⟩ |
    ⟨_, _, _, -, -, heq⟩ | ⟨_, -, heq⟩ := advance_cases s label <;> rw [heq] at hlive ⊢
  · have hne : ∀ w, l ≠ .write w := fun w hw => h w (congrArg _ hw)
    simp only [flow, LogStream.calls, List.map_drop, map_fst_calls_step_of_ne hne]
  · cases hlive
  · cases hlive
  · rw [hphase] at hbefore
    cases hbefore
  · rfl
  · cases hlive

theorem Ordered.step {s : LogStream} (h : s.Ordered) (hs : s.Consistent) {label : StreamStep}
    (hroom : s.Room label) (hone : s.OneWriter label) : (s.step label).Ordered := by
  intro id hlive
  obtain ⟨-, hsnapshot, ⟨hbefore, hstep⟩ | hflow⟩ := hs.live_step hroom hlive
  · obtain ⟨horder, hpending⟩ := h id hbefore
    rw [hsnapshot]
    refine hstep.inOrder horder hpending fun hlater => ?_
    by_cases hwrite : ∀ w, label ≠ .log (.write w)
    · exact absurd (later_step_of_ne hlive hbefore hwrite) hlater
    · obtain ⟨w, hw⟩ := not_forall_not.mp hwrite
      refine pendingTo_eq_nil fun call hcall => ?_
      rw [hone w hw call (List.mem_of_mem_drop hcall)]
      exact List.not_mem_nil
  · rw [hflow, hsnapshot]
    exact ⟨by simp [Flow.InOrder], Nat.zero_le _⟩

theorem connect_consistent {writer : LogWriter} (hvalid : writer.Valid) (hcopied : writer.Copied) :
    (connect writer).Consistent where
  valid := hvalid
  copied := hcopied
  connecting _ := rfl
  replaying _ h := by cases h
  live _ h := by cases h

end LogStream

/-- In a stream between whose snapshot and subscription nothing is written, and whose channel
never fills, the client gets the snapshot and then every later entry once, the last ones still
queued or being sent; with a single writer they come in the order of the writes. -/
theorem stream_gapless (maxBuf : Nat) (earlier : List LogStep) {labels : List StreamStep}
    (hbetween : Along LogStream.step LogStream.NothingBetween
      (.connect (run LogWriter.step (newLogWriter maxBuf) earlier)) labels)
    (hroom : Along LogStream.step LogStream.Room
      (.connect (run LogWriter.step (newLogWriter maxBuf) earlier)) labels) :
    let last := run LogStream.step (.connect (run LogWriter.step (newLogWriter maxBuf) earlier))
      labels
    ∀ id, last.phase = .live id →
      (last.flow id).Conserved last.snapshot ∧
        (Along LogStream.step LogStream.OneWriter
          (.connect (run LogWriter.step (newLogWriter maxBuf) earlier)) labels →
            (last.flow id).InOrder last.snapshot) := by
  intro last id hlive
  have hwriter := run_invariant
    (P := fun writer : LogWriter => writer.Valid ∧ writer.Copied)
    (fun _ label h => ⟨h.1.step label, h.2.step h.1 label⟩)
    ⟨LogWriter.valid_newLogWriter maxBuf, fun _ h => absurd h List.not_mem_nil⟩ earlier
  have hstart := LogStream.connect_consistent hwriter.1 hwriter.2
  constructor
  · have hlast := run_along (P := LogStream.Consistent)
      (fun _ _ hlabel h => h.step hlabel.1 hlabel.2) (hbetween.and hroom) hstart
    exact (hlast.live id hlive).2
  · intro hone
    have hlast := run_along (P := fun s => LogStream.Consistent s ∧ LogStream.Ordered s)
      (fun _ _ hlabel h =>
        ⟨h.1.step hlabel.1.1 hlabel.1.2, h.2.step h.1 hlabel.1.2 hlabel.2⟩)
      ((hbetween.and hroom).and hone) ⟨hstart, fun _ h => by cases h⟩
    exact (hlast.2 id hlive).1

def startedWrite : LogWrite := .app "info" "started"
def stoppedWrite : LogWrite := .app "warn" "stopped"

/-- A client connects, replays the one entry there is, and receives the next. -/
def replayedThenLive : List StreamStep :=
  [.recent, .replay, .subscribe, .log (.write stoppedWrite), .log (.send 1 1), .deliver]

theorem replayedThenLive_gapless :
    let last := run LogStream.step
      (.connect (run LogWriter.step (newLogWriter 500) [.write startedWrite])) replayedThenLive
    (last.flow 1).Conserved last.snapshot := by
  have hbetween : Along LogStream.step LogStream.NothingBetween
      (.connect (run LogWriter.step (newLogWriter 500) [.write startedWrite]))
      replayedThenLive := by
    refine ⟨?_, ?_, ?_, ?_, ?_, ?_, trivial⟩ <;> intro rest w hphase hlabel <;>
      cases hphase <;> cases hlabel
  have hroom : Along LogStream.step LogStream.Room
      (.connect (run LogWriter.step (newLogWriter 500) [.write startedWrite]))
      replayedThenLive := by
    refine ⟨?_, ?_, ?_, ?_, ?_, ?_, trivial⟩ <;> intro id call hphase hlabel <;> cases hlabel
    decide
  exact (stream_gapless 500 [.write startedWrite] hbetween hroom 1 rfl).1

/-- An entry is written after the snapshot and before the subscription. -/
def writtenBetween : List StreamStep := [.recent, .log (.write stoppedWrite), .subscribe]

/-- Nothing is queued or still being sent, and the entry has not reached the client. -/
theorem writtenBetween_lost :
    let last := run LogStream.step (.connect (newLogWriter 500)) writtenBetween
    last.phase = .live 1 ∧ (last.flow 1).queue = [] ∧ (last.flow 1).pending = [] ∧
      last.delivered = [] ∧ (last.flow 1).later = [stoppedWrite.entry] ∧
      ¬(last.flow 1).Conserved last.snapshot := by
  refine ⟨rfl, rfl, rfl, rfl, rfl, fun h => ?_⟩
  exact absurd h.2.length_eq (by decide)

end Boxui.API
