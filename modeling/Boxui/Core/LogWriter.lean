import Boxui.Library.KeepLast
import Boxui.Library.Machine
import Mathlib.Data.List.Nodup
import Mathlib.Logic.Function.Basic

/-! The log writer. A write appends to the buffer and copies the channels under the lock, and
sends to them one by one after it was released; subscribing and unsubscribing hold the lock. -/
namespace Boxui.Core
open Machine KeepLast

/-- The levels of the kernel's log; any other number is `other`. -/
inductive LogLevel where
  | panic | fatal | error | warn | info | debug | trace | other
  deriving DecidableEq, Repr

def levelToString : LogLevel → String
  | .panic | .fatal | .error => "error"
  | .warn => "warn"
  | .info => "info"
  | .debug | .trace => "debug"
  | .other => "info"

/-- What follows `ESC [ ... m`, when that is how the characters after an escape go on. -/
def afterANSI : List Char → Option (List Char)
  | '[' :: cs =>
    match cs.dropWhile fun c => c.isDigit || c == ';' with
    | 'm' :: rest => some rest
    | _ => none
  | _ => none

/-- `ansiRe.ReplaceAllString(message, "")`, over at most as many characters as there are. -/
def stripANSI : Nat → List Char → List Char
  | 0, cs => cs
  | _, [] => []
  | fuel + 1, c :: cs =>
    if c = Char.ofNat 0x1b then
      match afterANSI cs with
      | some rest => stripANSI fuel rest
      | none => c :: stripANSI fuel cs
    else c :: stripANSI fuel cs

/-- `timestamp` counts from the zero time. -/
structure LogEntry where
  level : String
  message : String
  timestamp : Nat
  deriving DecidableEq, Repr

/-- A call of `WriteMessage` or of `WriteAppEntry`. -/
inductive LogWrite where
  | kernel (now : Nat) (level : LogLevel) (message : String)
  | app (level message : String)
  deriving DecidableEq, Repr

def LogWrite.entry : LogWrite → LogEntry
  | .kernel now level message =>
    ⟨levelToString level, String.ofList (stripANSI message.length message.toList), now⟩
  | .app level message => ⟨level, message, 0⟩

/-- The capacity of a subscriber's channel. -/
def channelCapacity : Nat := 64

structure LogChannel where
  queue : List LogEntry
  closed : Bool
  deriving DecidableEq, Repr

inductive LogPanic where
  | sendOnClosed
  | closeOfClosed
  deriving DecidableEq, Repr

/-- `subs` are the keys of the subscriber map, each the key of its channel. `calls` are all
writes in the order of their locked sections, with the channels each has still to send to. -/
structure LogWriter where
  maxBuf : Nat
  buffer : List LogEntry
  subs : List Nat
  nextID : Nat
  channels : Nat → LogChannel
  calls : List (LogEntry × List Nat)
  panicked : Option LogPanic

def newLogWriter (maxBuf : Nat) : LogWriter where
  maxBuf := maxBuf
  buffer := []
  subs := []
  nextID := 0
  channels := fun _ => ⟨[], false⟩
  calls := []
  panicked := none

inductive LogStep where
  | write (w : LogWrite)
  | send (call : Nat) (ch : Nat)
  | subscribe
  | unsubscribe (id : Nat)
  | receive (ch : Nat)
  deriving DecidableEq, Repr

namespace LogWriter

/-- The section of a write that holds the lock. -/
def write (entry : LogEntry) (s : LogWriter) : LogWriter :=
  let buffer := s.buffer ++ [entry]
  { s with
    buffer := if s.maxBuf < buffer.length then buffer.drop 1 else buffer
    calls := s.calls ++ [(entry, s.subs)] }

/-- `select { case ch <- entry: default: }`. -/
def trySend (ch : Nat) (entry : LogEntry) (s : LogWriter) : LogWriter :=
  if (s.channels ch).closed then { s with panicked := some .sendOnClosed }
  else if (s.channels ch).queue.length < channelCapacity then
    { s with
      channels := Function.update s.channels ch
        { s.channels ch with queue := (s.channels ch).queue ++ [entry] } }
  else s

/-- The next send of a call, to a channel of its copied list. -/
def send (call ch : Nat) (s : LogWriter) : LogWriter :=
  match s.calls[call]? with
  | some (entry, chs) =>
    if ch ∈ chs then { trySend ch entry s with calls := s.calls.set call (entry, chs.erase ch) }
    else s
  | none => s

def subscribe (s : LogWriter) : LogWriter :=
  { s with
    nextID := s.nextID + 1
    channels := Function.update s.channels (s.nextID + 1) ⟨[], false⟩
    subs := s.subs ++ [s.nextID + 1] }

def unsubscribe (id : Nat) (s : LogWriter) : LogWriter :=
  if id ∈ s.subs then
    if (s.channels id).closed then { s with panicked := some .closeOfClosed }
    else
      { s with
        channels := Function.update s.channels id { s.channels id with closed := true }
        subs := s.subs.erase id }
  else s

def receive (ch : Nat) (s : LogWriter) : LogWriter :=
  { s with
    channels := Function.update s.channels ch
      { s.channels ch with queue := (s.channels ch).queue.tail } }

def recent (s : LogWriter) : List LogEntry := s.buffer

/-- A panic ends the process: nothing happens after it. -/
def step (s : LogWriter) (label : LogStep) : LogWriter :=
  if s.panicked.isSome then s
  else
    match label with
    | .write w => s.write w.entry
    | .send call ch => s.send call ch
    | .subscribe => s.subscribe
    | .unsubscribe id => s.unsubscribe id
    | .receive ch => s.receive ch

/-- Each subscriber has a channel of its own that is open, under a key given out before. -/
structure Valid (s : LogWriter) : Prop where
  subs_nodup : s.subs.Nodup
  subs_le : ∀ id ∈ s.subs, id ≤ s.nextID
  subs_open : ∀ id ∈ s.subs, (s.channels id).closed = false
  not_closedTwice : s.panicked ≠ some .closeOfClosed

theorem valid_newLogWriter (maxBuf : Nat) : (newLogWriter maxBuf).Valid where
  subs_nodup := List.nodup_nil
  subs_le _ h := absurd h List.not_mem_nil
  subs_open _ h := absurd h List.not_mem_nil
  not_closedTwice := nofun

theorem closed_trySend (ch : Nat) (entry : LogEntry) (s : LogWriter) (id : Nat) :
    ((s.trySend ch entry).channels id).closed = (s.channels id).closed := by
  unfold trySend
  split
  · rfl
  · split
    · by_cases hid : id = ch
      · subst hid
        simp
      · simp [hid]
    · rfl

/-- A send changes neither the subscribers nor what is closed; it panics on a closed channel
and only there. -/
theorem send_cases (call ch : Nat) (s : LogWriter) :
    s.send call ch = s ∨ ∃ entry chs, s.calls[call]? = some (entry, chs) ∧ ch ∈ chs ∧
      s.send call ch =
        { trySend ch entry s with calls := s.calls.set call (entry, chs.erase ch) } := by
  unfold send
  split
  · next entry chs hcall =>
    split
    · next hch => exact .inr ⟨entry, chs, hcall, hch, rfl⟩
    · exact .inl rfl
  · exact .inl rfl

theorem trySend_subs (ch : Nat) (entry : LogEntry) (s : LogWriter) :
    (s.trySend ch entry).subs = s.subs := by
  unfold trySend
  split
  · rfl
  · split <;> rfl

theorem trySend_nextID (ch : Nat) (entry : LogEntry) (s : LogWriter) :
    (s.trySend ch entry).nextID = s.nextID := by
  unfold trySend
  split
  · rfl
  · split <;> rfl

theorem trySend_panicked (ch : Nat) (entry : LogEntry) (s : LogWriter) :
    (s.trySend ch entry).panicked =
      if (s.channels ch).closed then some .sendOnClosed else s.panicked := by
  unfold trySend
  split
  · rfl
  · split <;> rfl

theorem Valid.send {s : LogWriter} (h : s.Valid) (call ch : Nat) : (s.send call ch).Valid := by
  obtain heq | ⟨entry, chs, -, -, heq⟩ := send_cases call ch s
  · rwa [heq]
  · rw [heq]
    exact
      { subs_nodup := by rw [trySend_subs]; exact h.subs_nodup
        subs_le := by rw [trySend_subs, trySend_nextID]; exact h.subs_le
        subs_open := by
          rw [trySend_subs]
          intro id hid
          rw [closed_trySend]
          exact h.subs_open id hid
        not_closedTwice := by
          rw [trySend_panicked]
          split
          · nofun
          · exact h.not_closedTwice }

theorem Valid.subscribe {s : LogWriter} (h : s.Valid) : s.subscribe.Valid where
  subs_nodup := by
    refine List.nodup_append.mpr ⟨h.subs_nodup, List.nodup_singleton _, ?_⟩
    intro id hid id' hid'
    have hle := h.subs_le id hid
    rw [List.mem_singleton.mp hid']
    omega
  subs_le id hid := by
    obtain hid | hid := List.mem_append.mp hid
    · exact Nat.le_succ_of_le (h.subs_le id hid)
    · exact Nat.le_of_eq (List.mem_singleton.mp hid)
  subs_open id hid := by
    change (Function.update s.channels (s.nextID + 1) ⟨[], false⟩ id).closed = false
    by_cases hnew : id = s.nextID + 1
    · rw [hnew, Function.update_self]
    · rw [Function.update_of_ne hnew]
      exact h.subs_open id ((List.mem_append.mp hid).resolve_right fun hid =>
        hnew (List.mem_singleton.mp hid))
  not_closedTwice := h.not_closedTwice

theorem unsubscribe_of_mem {s : LogWriter} (h : s.Valid) {id : Nat} (hid : id ∈ s.subs) :
    s.unsubscribe id =
      { s with
        channels := Function.update s.channels id { s.channels id with closed := true }
        subs := s.subs.erase id } := by
  rw [unsubscribe, if_pos hid, if_neg]
  rw [h.subs_open id hid]
  exact Bool.false_ne_true

theorem Valid.unsubscribe {s : LogWriter} (h : s.Valid) (id : Nat) :
    (s.unsubscribe id).Valid := by
  by_cases hid : id ∈ s.subs
  · rw [unsubscribe_of_mem h hid]
    exact
      { subs_nodup := h.subs_nodup.erase id
        subs_le := fun id' hid' => h.subs_le id' (List.mem_of_mem_erase hid')
        subs_open := fun id' hid' => by
          have hne := (h.subs_nodup.mem_erase_iff.mp hid').1
          simp only [Function.update_of_ne hne]
          exact h.subs_open id' (List.mem_of_mem_erase hid')
        not_closedTwice := h.not_closedTwice }
  · rwa [LogWriter.unsubscribe, if_neg hid]

theorem Valid.receive {s : LogWriter} (h : s.Valid) (ch : Nat) : (s.receive ch).Valid where
  subs_nodup := h.subs_nodup
  subs_le := h.subs_le
  subs_open id hid := by
    change (Function.update s.channels ch _ id).closed = false
    by_cases hch : id = ch
    · subst hch
      rw [Function.update_self]
      exact h.subs_open id hid
    · rw [Function.update_of_ne hch]
      exact h.subs_open id hid
  not_closedTwice := h.not_closedTwice

theorem Valid.step {s : LogWriter} (h : s.Valid) (label : LogStep) : (s.step label).Valid := by
  unfold LogWriter.step
  split
  · exact h
  · cases label with
    | write w => exact ⟨h.subs_nodup, h.subs_le, h.subs_open, h.not_closedTwice⟩
    | send call ch => exact h.send call ch
    | subscribe => exact h.subscribe
    | unsubscribe id => exact h.unsubscribe id
    | receive ch => exact h.receive ch

theorem trySend_channels_of_ne {id ch : Nat} (hne : id ≠ ch) (entry : LogEntry) (s : LogWriter) :
    (s.trySend ch entry).channels id = s.channels id := by
  unfold trySend
  split
  · rfl
  · split
    · exact Function.update_of_ne hne _ _
    · rfl

/-- A send that finds the channel open and with room. -/
theorem trySend_queue {ch : Nat} {s : LogWriter} (hopen : (s.channels ch).closed = false)
    (hroom : (s.channels ch).queue.length < channelCapacity) (entry : LogEntry) :
    ((s.trySend ch entry).channels ch).queue = (s.channels ch).queue ++ [entry] := by
  rw [trySend, if_neg (by rw [hopen]; exact Bool.false_ne_true), if_pos hroom]
  simp only [Function.update_self]

/-- The copied lists name channels given out before, each once. -/
def Copied (s : LogWriter) : Prop :=
  ∀ call ∈ s.calls, call.2.Nodup ∧ ∀ id ∈ call.2, id ≤ s.nextID

theorem Copied.step {s : LogWriter} (hs : s.Valid) (h : s.Copied) (label : LogStep) :
    (s.step label).Copied := by
  unfold LogWriter.step
  split
  · exact h
  cases label with
  | write w =>
    intro call hcall
    obtain hcall | hcall := List.mem_append.mp hcall
    · exact h call hcall
    · rw [List.mem_singleton.mp hcall]
      exact ⟨hs.subs_nodup, hs.subs_le⟩
  | send call ch =>
    obtain heq | ⟨entry, chs, hget, -, heq⟩ := send_cases call ch s
    · simp only [heq]
      exact h
    · simp only [heq]
      intro c hc
      simp only [trySend_nextID]
      obtain hc | rfl := List.mem_or_eq_of_mem_set hc
      · exact h c hc
      · obtain ⟨hnodup, hle⟩ := h _ (List.mem_of_getElem? hget)
        exact ⟨hnodup.erase ch, fun id hid => hle id (List.mem_of_mem_erase hid)⟩
  | subscribe =>
    intro call hcall
    obtain ⟨hnodup, hle⟩ := h call hcall
    exact ⟨hnodup, fun id hid => Nat.le_succ_of_le (hle id hid)⟩
  | unsubscribe id =>
    simp only [LogWriter.unsubscribe]
    split
    · split <;> exact h
    · exact h
  | receive ch => exact h

/-- A channel is closed only when no call has still to send to it. -/
def Quiet (s : LogWriter) : LogStep → Prop
  | .unsubscribe id => id ∈ s.subs → ∀ call ∈ s.calls, id ∉ call.2
  | _ => True

/-- Every channel that a call has still to send to is subscribed. -/
def Held (s : LogWriter) : Prop := ∀ call ∈ s.calls, call.2 ⊆ s.subs

theorem Held.send {s : LogWriter} (hs : s.Valid) (h : s.Held) (hp : s.panicked = none)
    (call ch : Nat) : (s.send call ch).Held ∧ (s.send call ch).panicked = none := by
  obtain heq | ⟨entry, chs, hcall, hch, heq⟩ := send_cases call ch s
  · rw [heq]
    exact ⟨h, hp⟩
  · have hchs : chs ⊆ s.subs := h _ (List.mem_of_getElem? hcall)
    rw [heq]
    constructor
    · intro c hc
      simp only [trySend_subs]
      obtain hc | rfl := List.mem_or_eq_of_mem_set hc
      · exact h c hc
      · exact fun id hid => hchs (List.mem_of_mem_erase hid)
    · simp only [trySend_panicked, hs.subs_open ch (hchs hch), hp]
      rfl

theorem Held.step {s : LogWriter} (hs : s.Valid) (h : s.Held) (hp : s.panicked = none)
    {label : LogStep} (hquiet : s.Quiet label) :
    (s.step label).Held ∧ (s.step label).panicked = none := by
  simp only [LogWriter.step, hp, Option.isSome_none, Bool.false_eq_true, if_false]
  cases label with
  | write w =>
    refine ⟨fun c hc => ?_, hp⟩
    obtain hc | hc := List.mem_append.mp hc
    · exact h c hc
    · rw [List.mem_singleton.mp hc]
      exact List.Subset.refl _
  | send call ch => exact h.send hs hp call ch
  | subscribe =>
    exact ⟨fun c hc => List.Subset.trans (h c hc) (List.subset_append_left _ _), hp⟩
  | unsubscribe id =>
    by_cases hid : id ∈ s.subs
    · simp only [unsubscribe_of_mem hs hid]
      refine ⟨fun c hc ch hch => ?_, hp⟩
      have hne : ch ≠ id := fun heq => hquiet hid c hc (heq ▸ hch)
      exact (List.mem_erase_of_ne hne).mpr (h c hc hch)
    · simp only [LogWriter.unsubscribe, if_neg hid]
      exact ⟨h, hp⟩
  | receive ch => exact ⟨h, hp⟩

theorem run_valid (maxBuf : Nat) (labels : List LogStep) :
    (run step (newLogWriter maxBuf) labels).Valid :=
  run_invariant (fun _ label h => h.step label) (valid_newLogWriter maxBuf) labels

/-- Closing a channel that a call has still to send to makes that send panic. -/
theorem send_after_unsubscribe {s : LogWriter} (hs : s.Valid) (hp : s.panicked = none)
    {call ch : Nat} {entry : LogEntry} {chs : List Nat} (hcall : s.calls[call]? = some (entry, chs))
    (hch : ch ∈ chs) (hsub : ch ∈ s.subs) :
    (run step s [.unsubscribe ch, .send call ch]).panicked = some .sendOnClosed := by
  have hunsubscribed : s.step (.unsubscribe ch) =
      { s with
        channels := Function.update s.channels ch { s.channels ch with closed := true }
        subs := s.subs.erase ch } := by
    have hstep : s.step (.unsubscribe ch) = s.unsubscribe ch := by
      simp only [step, hp, Option.isSome_none, Bool.false_eq_true, if_false]
    rw [hstep, unsubscribe_of_mem hs hsub]
  simp only [run_cons, run_nil, hunsubscribed]
  simp only [step, hp, Option.isSome_none, Bool.false_eq_true, if_false, send, hcall, if_pos hch,
    trySend_panicked, Function.update_self, if_true]

end LogWriter

/-- No channel is ever closed twice, and no send reaches a closed channel as long as no channel
is closed that a call has still to send to; closing such a channel makes that send panic. -/
theorem logFanOut_safe (maxBuf : Nat) (labels : List LogStep) :
    let last := run LogWriter.step (newLogWriter maxBuf) labels
    last.panicked ≠ some .closeOfClosed ∧
      (Along LogWriter.step LogWriter.Quiet (newLogWriter maxBuf) labels →
        last.panicked = none) ∧
      ∀ id, last.panicked = none → ¬last.Quiet (.unsubscribe id) →
        ∃ call, (run LogWriter.step last [.unsubscribe id, .send call id]).panicked =
          some .sendOnClosed := by
  intro last
  have hlast : last.Valid := LogWriter.run_valid maxBuf labels
  refine ⟨hlast.not_closedTwice, fun hquiet => ?_, fun id hp hnot => ?_⟩
  · have hinv := run_along
      (P := fun s : LogWriter => s.Valid ∧ s.Held ∧ s.panicked = none)
      (fun s label hlabel hs => ⟨hs.1.step label, hs.2.1.step hs.1 hs.2.2 hlabel⟩) hquiet
      ⟨LogWriter.valid_newLogWriter maxBuf, fun _ h => absurd h List.not_mem_nil, rfl⟩
    exact hinv.2.2
  · simp only [LogWriter.Quiet, not_forall, not_not] at hnot
    obtain ⟨hsub, ⟨entry, chs⟩, hcall, hid⟩ := hnot
    obtain ⟨call, hget⟩ := List.mem_iff_getElem?.mp hcall
    exact ⟨call, LogWriter.send_after_unsubscribe hlast hp hget hid hsub⟩

/-- A client leaves after the writes of its time have been sent. -/
theorem leftAfterWrite_safe :
    (run LogWriter.step (newLogWriter 500)
      [.subscribe, .write (.app "info" "started"), .send 0 1, .unsubscribe 1]).panicked = none :=
  (logFanOut_safe 500 _).2.1 ⟨trivial, trivial, trivial, fun _ => by decide, trivial⟩

/-- A client leaves between the copy of the subscribers and the send. -/
def leftDuringWrite : List LogStep :=
  [.subscribe, .write (.app "info" "started"), .unsubscribe 1, .send 0 1]

theorem leftDuringWrite_panics :
    (run LogWriter.step (newLogWriter 500) leftDuringWrite).panicked = some .sendOnClosed := by
  decide

/-! ### The history that the buffer keeps -/

/-- The entries of all writes, in the order of their locked sections. -/
def logged (s : LogWriter) : List LogEntry := s.calls.map Prod.fst

/-- The buffer of the log is a history of the entries as well. -/
structure KeepsLog (maxBuf : Nat) (s : LogWriter) : Prop where
  maxBuf_eq : s.maxBuf = maxBuf
  buffer_eq : s.buffer = (logged s).rtake maxBuf

/-- Dropping the first entry when there are too many is adding one to the history. -/
theorem buffer_write {s : LogWriter} (h : s.buffer.length ≤ s.maxBuf) (entry : LogEntry) :
    (s.write entry).buffer = push s.maxBuf s.buffer entry := by
  unfold LogWriter.write
  dsimp only
  rw [List.length_append, List.length_singleton]
  split_ifs with hover
  · exact (push_of_length_eq (by omega) entry).symm
  · exact (push_of_lt (by omega) entry).symm

/-- A send leaves the history alone. -/
theorem send_history (call ch : Nat) (s : LogWriter) :
    (s.send call ch).maxBuf = s.maxBuf ∧ (s.send call ch).buffer = s.buffer ∧
      logged (s.send call ch) = logged s := by
  obtain heq | ⟨entry, chs, hcall, -, heq⟩ := LogWriter.send_cases call ch s
  · rw [heq]
    exact ⟨rfl, rfl, rfl⟩
  · have hentry : (logged s)[call]? = some entry := by
      rw [logged, List.getElem?_map, hcall]
      rfl
    obtain ⟨hlt, hget⟩ := List.getElem?_eq_some_iff.mp hentry
    have hlogged : (s.calls.set call (entry, chs.erase ch)).map Prod.fst = logged s := by
      rw [List.map_set, ← hget]
      exact List.set_getElem_self hlt
    have htry : (s.trySend ch entry).maxBuf = s.maxBuf ∧
        (s.trySend ch entry).buffer = s.buffer := by
      unfold LogWriter.trySend
      split_ifs <;> exact ⟨rfl, rfl⟩
    rw [heq]
    exact ⟨htry.1, htry.2, hlogged⟩

theorem KeepsLog.write {maxBuf : Nat} {s : LogWriter} (h : KeepsLog maxBuf s) (entry : LogEntry) :
    KeepsLog maxBuf (s.write entry) := by
  obtain ⟨rfl, hbuffer⟩ := h
  have hlength : s.buffer.length ≤ s.maxBuf := by
    rw [hbuffer, List.rtake, List.length_drop]
    omega
  refine ⟨rfl, ?_⟩
  have hlogged : logged (s.write entry) = logged s ++ [entry] := List.map_append
  rw [buffer_write hlength, hlogged, hbuffer, push_rtake]

theorem KeepsLog.step {maxBuf : Nat} {s : LogWriter} (h : KeepsLog maxBuf s) (label : LogStep) :
    KeepsLog maxBuf (s.step label) := by
  unfold LogWriter.step
  split_ifs
  · exact h
  cases label with
  | write w => exact h.write w.entry
  | send call ch =>
    obtain ⟨hmax, hbuffer, hlogged⟩ := send_history call ch s
    exact ⟨hmax.trans h.maxBuf_eq, by rw [hbuffer, hlogged, h.buffer_eq]⟩
  | subscribe => exact ⟨h.maxBuf_eq, h.buffer_eq⟩
  | unsubscribe id =>
    dsimp only
    unfold LogWriter.unsubscribe
    split_ifs
    · exact ⟨h.maxBuf_eq, h.buffer_eq⟩
    · exact ⟨h.maxBuf_eq, h.buffer_eq⟩
    · exact h
  | receive ch => exact ⟨h.maxBuf_eq, h.buffer_eq⟩

theorem keepsLog_run (maxBuf : Nat) (labels : List LogStep) :
    KeepsLog maxBuf (run LogWriter.step (newLogWriter maxBuf) labels) :=
  run_invariant (fun _ label h => h.step label) ⟨rfl, (List.rtake_nil ..).symm⟩ labels

/-- Writes alone are all logged. -/
theorem logged_writes (s : LogWriter) (hpanic : s.panicked = none) (writes : List LogWrite) :
    logged (run LogWriter.step s (writes.map .write)) =
      logged s ++ writes.map LogWrite.entry := by
  induction writes generalizing s with
  | nil => exact (List.append_nil _).symm
  | cons w writes ih =>
    have hstep : s.step (.write w) = s.write w.entry := by
      rw [LogWriter.step, hpanic]
      rfl
    have hlogged : logged (s.write w.entry) = logged s ++ [w.entry] := List.map_append
    rw [List.map_cons, run_cons, hstep, ih (s.write w.entry) hpanic, hlogged, List.append_assoc]
    rfl

end Boxui.Core
