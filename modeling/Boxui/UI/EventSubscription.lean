import Mathlib.Algebra.Group.Nat.Defs
import Boxui.Library.Machine
import Boxui.UI.EventStream

/-! The life of an `openSSE` subscription. Fetches, reads and timers settle when they like, and the
continuation of a settled one runs later; callbacks can stop the subscription or throw. -/
namespace Boxui.UI

/-- A thrown reason: an `Error` with its message, or something else. -/
inductive Thrown where
  | error (message : String)
  | other
  deriving DecidableEq

/-- `body` tells whether the response has one. -/
inductive FetchResult where
  | response (status : Nat) (body : Bool)
  | rejected (reason : Thrown)
  deriving DecidableEq

inductive ReadResult where
  | chunk (value : List UInt8)
  | done
  | failed (reason : Thrown)
  deriving DecidableEq

/-- What a call of `connect` waits for; `some` once it has settled and the call has yet to go on.
In `consumed` its `consumeSSEStream` has returned or thrown. -/
inductive Awaiting where
  | fetch (settled : Option FetchResult)
  | read (decoder : TextDecoder) (buffer : List Char) (settled : Option ReadResult)
  | consumed (thrown : Option Thrown)

/-- A call of `connect` with the abort controller it has created. -/
structure Connect where
  controller : Nat
  awaiting : Awaiting

/-- A call of the returned function, or an abort of the caller's signal. -/
inductive StopRequest where
  | cleanup
  | abort
  deriving DecidableEq

/-- What a callback does before it returns or throws. -/
structure Reaction where
  stops : List StopRequest
  throws : Option Thrown

inductive Effect (Value : Type*) where
  | fetch
  | onEvent (event : Value)
  | onError (message : String)
  | notifyUnauthorized
  deriving DecidableEq

/-- The variables of `openSSE` and what its environment has of it: pending timers with their
delays, suspended calls of `connect`, attempts and streams that are open. `refused` are the
controllers whose response has a body that is neither read nor cancelled. Every effect is logged
with whether cleanup or abort had happened. -/
structure Subscription (Value : Type*) where
  stopped : Bool
  attempt : Nat
  timer : Option Nat
  active : Option Nat
  timers : List (Nat × Nat)
  connects : List Connect
  connections : List Nat
  refused : List Nat
  abortedControllers : List Nat
  listening : Bool
  signalAborted : Bool
  cleanedUp : Bool
  next : Nat
  log : List (Bool × Effect Value)

inductive SubscriptionStep where
  | settleFetch (controller : Nat) (result : FetchResult)
  | settleRead (controller : Nat) (result : ReadResult)
  | resume (controller : Nat) (reactions : List Reaction)
  | timer (id : Nat)
  | endStream (controller : Nat)
  | cleanup
  | abort

def abortError : Thrown := .error "The operation was aborted"

/-- `response.ok` and a body. -/
def FetchResult.Opens : FetchResult → Prop
  | .response status body => 200 ≤ status ∧ status ≤ 299 ∧ body = true
  | .rejected _ => False

instance : DecidablePred FetchResult.Opens
  | .response status body => inferInstanceAs (Decidable (200 ≤ status ∧ status ≤ 299 ∧ body = true))
  | .rejected _ => inferInstanceAs (Decidable False)

/-- A body, but not `response.ok`. -/
def FetchResult.Refused : FetchResult → Prop
  | .response status body => ¬(200 ≤ status ∧ status ≤ 299) ∧ body = true
  | .rejected _ => False

instance : DecidablePred FetchResult.Refused
  | .response status body =>
    inferInstanceAs (Decidable (¬(200 ≤ status ∧ status ≤ 299) ∧ body = true))
  | .rejected _ => inferInstanceAs (Decidable False)

/-- An aborted controller rejects the fetch or fails the read that is pending. -/
def Awaiting.abort : Awaiting → Awaiting
  | .fetch none => .fetch (some (.rejected abortError))
  | .read decoder buffer none => .read decoder buffer (some (.failed abortError))
  | awaiting => awaiting

def Connect.abort (controller : Nat) (k : Connect) : Connect :=
  if k.controller = controller then { k with awaiting := k.awaiting.abort } else k

namespace Subscription

variable {Value : Type*}

/-- Cleanup or abort has happened. -/
def ended (s : Subscription Value) : Bool := s.signalAborted || s.cleanedUp

def emit (e : Effect Value) (s : Subscription Value) : Subscription Value :=
  { s with log := (s.ended, e) :: s.log }

def closeConnection (controller : Nat) (s : Subscription Value) : Subscription Value :=
  { s with connections := s.connections.filter fun c => c ≠ controller }

def abortController (controller : Nat) (s : Subscription Value) : Subscription Value :=
  { s.closeConnection controller with
    connects := s.connects.map (Connect.abort controller)
    abortedControllers := controller :: s.abortedControllers }

def clearTimeout (timer : Option Nat) (s : Subscription Value) : Subscription Value :=
  { s with timers := s.timers.filter fun t => timer ≠ some t.1 }

def stop (s : Subscription Value) : Subscription Value :=
  let s := clearTimeout s.timer { s with stopped := true }
  match s.active with
  | none => s
  | some controller => s.abortController controller

/-- The returned function. -/
def cleanup (s : Subscription Value) : Subscription Value :=
  stop { s with listening := false, cleanedUp := true }

/-- The listener is called once. -/
def abort (s : Subscription Value) : Subscription Value :=
  if s.signalAborted then s
  else if s.listening then
    stop { s with signalAborted := true, listening := false }
  else { s with signalAborted := true }

def request (s : Subscription Value) : StopRequest → Subscription Value
  | .cleanup => s.cleanup
  | .abort => s.abort

def retry (s : Subscription Value) : Subscription Value :=
  if s.stopped then s
  else
    { s with
      timer := some s.next
      timers := (s.next, min (1000 * 2 ^ s.attempt) 10000) :: s.timers
      attempt := s.attempt + 1
      next := s.next + 1 }

/-- `connect` up to its `await`. -/
def connect (s : Subscription Value) : Subscription Value :=
  emit .fetch
    { s with
      active := some s.next
      connects := ⟨s.next, .fetch none⟩ :: s.connects
      connections := s.next :: s.connections
      next := s.next + 1 }

def openSSE (signalAborted : Bool) : Subscription Value :=
  connect
    { stopped := false
      attempt := 0
      timer := none
      active := none
      timers := []
      connects := []
      connections := []
      refused := []
      abortedControllers := []
      listening := true
      signalAborted := signalAborted
      cleanedUp := false
      next := 0
      log := [] }

/-- A call of a callback, which reacts as the next of `reactions` says. -/
def callback (e : Effect Value) (s : Subscription Value) (reactions : List Reaction) :
    Subscription Value × List Reaction × Option Thrown :=
  let reaction := reactions.head?.getD ⟨[], none⟩
  (reaction.stops.foldl request (s.emit e), reactions.tail, reaction.throws)

/-- `reason instanceof Error ? reason : new Error(..)`. -/
def errorMessage : Thrown → String
  | .error message => message
  | .other => "SSE connection failed"

def ActiveAborted (s : Subscription Value) : Prop :=
  ∃ controller ∈ s.active, controller ∈ s.abortedControllers

instance (s : Subscription Value) : Decidable s.ActiveAborted :=
  inferInstanceAs (Decidable (∃ controller ∈ s.active, controller ∈ s.abortedControllers))

/-- The `catch` of `connect`; `onError` tells whether the option is there. -/
def catchError (onError : Bool) (reason : Thrown) (s : Subscription Value)
    (reactions : List Reaction) : Subscription Value :=
  if s.stopped = true ∨ s.ActiveAborted then s
  else if onError then
    let (s, _, thrown) := callback (.onError (errorMessage reason)) s reactions
    if thrown.isSome then s else s.retry
  else s.retry

def suspend (controller : Nat) (awaiting : Awaiting) (s : Subscription Value) :
    Subscription Value :=
  { s with connects := ⟨controller, awaiting⟩ :: s.connects }

/-- The next `reader.read()`, which fails at once when the controller has been aborted. -/
def awaitRead (controller : Nat) (decoder : TextDecoder) (buffer : List Char)
    (s : Subscription Value) : Subscription Value :=
  s.suspend controller (.read decoder buffer
    (if controller ∈ s.abortedControllers then some (.failed abortError) else none))

/-- `options.onError?.(..)` within the `try`. -/
def reportUnauthorized (onError : Bool) (s : Subscription Value) (reactions : List Reaction) :
    Subscription Value :=
  if onError then
    let (s, reactions, thrown) :=
      callback (.onError "SSE request failed with status 401") s reactions
    match thrown with
    | some reason => s.catchError onError reason reactions
    | none => s
  else s

def unauthorized (onError : Bool) (s : Subscription Value) (reactions : List Reaction) :
    Subscription Value :=
  let (s, reactions, thrown) := callback .notifyUnauthorized { s with stopped := true } reactions
  match thrown with
  | some reason => s.catchError onError reason reactions
  | none => s.reportUnauthorized onError reactions

def resumeFetch (onError : Bool) (controller : Nat) (s : Subscription Value)
    (reactions : List Reaction) : FetchResult → Subscription Value
  | .rejected reason => s.catchError onError reason reactions
  | .response status body =>
    if status = 401 then s.unauthorized onError reactions
    else if (FetchResult.response status body).Opens then
      { s with attempt := 0 }.awaitRead controller .new []
    else
      s.catchError onError (.error ("SSE request failed with status " ++ toString status)) reactions

/-- `deliver`, with the callbacks. -/
def deliverTo (json : JsonCodec Value) : List (List Char) → Subscription Value → List Reaction →
    Subscription Value × List Reaction × Option Thrown
  | [], s, reactions => (s, reactions, none)
  | block :: blocks, s, reactions =>
    match parseEvent json block with
    | .error .invalidEventData => (s, reactions, some (.error "Invalid SSE event data"))
    | .ok none => deliverTo json blocks s reactions
    | .ok (some event) =>
      let (s, reactions, thrown) := callback (.onEvent event) s reactions
      match thrown with
      | some reason => (s, reactions, some reason)
      | none => deliverTo json blocks s reactions

/-- The blocks that are delivered when a read has settled. -/
def settledBlocks (decoder : TextDecoder) (buffer : List Char) : ReadResult → List (List Char)
  | .chunk value => (IncrementalSplit.feed blankLine buffer (decoder.decode value true).2).1
  | .done => IncrementalSplit.split blankLine (buffer ++ (decoder.decode [] false).2)
  | .failed _ => []

def resumeRead (json : JsonCodec Value) (controller : Nat) (decoder : TextDecoder)
    (buffer : List Char) (s : Subscription Value) (reactions : List Reaction) (r : ReadResult) :
    Subscription Value :=
  let (s, _, thrown) := deliverTo json (settledBlocks decoder buffer r) s reactions
  match r, thrown with
  | .failed reason, _ => s.suspend controller (.consumed (some reason))
  | _, some reason => s.suspend controller (.consumed (some reason))
  | .done, none => s.suspend controller (.consumed none)
  | .chunk value, none =>
    s.awaitRead controller (decoder.decode value true).1
      (IncrementalSplit.feed blankLine buffer (decoder.decode value true).2).2

/-- The call of `connect` goes on after its `await`. -/
def resume (json : JsonCodec Value) (onError : Bool) (s : Subscription Value)
    (reactions : List Reaction) (k : Connect) : Subscription Value :=
  let running := { s with connects := s.connects.filter fun k' => k'.controller ≠ k.controller }
  match k.awaiting with
  | .fetch (some result) => running.resumeFetch onError k.controller reactions result
  | .read decoder buffer (some result) =>
    running.resumeRead json k.controller decoder buffer reactions result
  | .consumed (some reason) => running.catchError onError reason reactions
  | .consumed none => running.retry
  | .fetch none | .read _ _ none => s

end Subscription

def Awaiting.settleFetch (result : FetchResult) : Awaiting → Awaiting
  | .fetch none => .fetch (some result)
  | awaiting => awaiting

def Awaiting.settleRead (result : ReadResult) : Awaiting → Awaiting
  | .read decoder buffer none => .read decoder buffer (some result)
  | awaiting => awaiting

def Awaiting.isFetching : Awaiting → Bool
  | .fetch none => true
  | _ => false

def Awaiting.isReading : Awaiting → Bool
  | .read _ _ none => true
  | _ => false

/-- The attempt or stream ends for the call of `connect`, not behind its back. -/
def Awaiting.attached : Awaiting → Bool
  | .fetch none | .read _ _ _ => true
  | .fetch (some result) => result.Opens
  | .consumed _ => false

namespace Subscription

variable {Value : Type*}

/-- The promise that a call of `connect` waits for settles. -/
def settle (controller : Nat) (f : Awaiting → Awaiting) (s : Subscription Value) :
    Subscription Value :=
  { s with connects := s.connects.map fun k =>
      if k.controller = controller then { k with awaiting := f k.awaiting } else k }

def settleFetch (controller : Nat) (result : FetchResult) (s : Subscription Value) :
    Subscription Value :=
  if ∃ k ∈ s.connects, k.controller = controller ∧ k.awaiting.isFetching = true then
    let s := s.settle controller (Awaiting.settleFetch result)
    if result.Opens then s
    -- no body is cancelled, so one that is not read stays open
    else if result.Refused then { s with refused := controller :: s.refused }
    else s.closeConnection controller
  else s

def settleRead (controller : Nat) (result : ReadResult) (s : Subscription Value) :
    Subscription Value :=
  if ∃ k ∈ s.connects, k.controller = controller ∧ k.awaiting.isReading = true then
    let s := s.settle controller (Awaiting.settleRead result)
    match result with
    | .chunk _ => s
    | .done | .failed _ => s.closeConnection controller
  else s

def fire (id : Nat) (s : Subscription Value) : Subscription Value :=
  if ∃ t ∈ s.timers, t.1 = id then
    connect { s with timers := s.timers.filter fun t => t.1 ≠ id }
  else s

/-- A stream that nothing reads ends by itself. -/
def endStream (controller : Nat) (s : Subscription Value) : Subscription Value :=
  if ∀ k ∈ s.connects, k.controller = controller → k.awaiting.attached = false then
    s.closeConnection controller
  else s

def step (json : JsonCodec Value) (onError : Bool) (s : Subscription Value) :
    SubscriptionStep → Subscription Value
  | .settleFetch controller result => s.settleFetch controller result
  | .settleRead controller result => s.settleRead controller result
  | .resume controller reactions =>
    match s.connects.find? fun k => k.controller = controller with
    | none => s
    | some k => s.resume json onError reactions k
  | .timer id => s.fire id
  | .endStream controller => s.endStream controller
  | .cleanup => s.cleanup
  | .abort => s.abort

/-- A call of `connect` runs, and nothing else of the subscription is pending. -/
structure Running (s : Subscription Value) (controller : Nat) : Prop where
  connects : s.connects = []
  timers : s.timers = []
  active : s.active = some controller

/-- At most one call of `connect` is suspended or one timer pending; a stop finds both. -/
structure Single (s : Subscription Value) : Prop where
  one : s.connects.length + s.timers.length ≤ 1
  timer : ∀ t ∈ s.timers, s.timer = some t.1
  active : ∀ k ∈ s.connects, s.active = some k.controller

variable {s : Subscription Value} {c : Nat} {json : JsonCodec Value} {onError : Bool}

theorem stop_of_active (h : s.active = some c) :
    s.stop = abortController c (clearTimeout s.timer { s with stopped := true }) := by
  simp [stop, clearTimeout, h]

theorem Running.stop (h : s.Running c) : s.stop.Running c := by
  obtain ⟨hconnects, htimers, hactive⟩ := h
  rw [stop_of_active hactive]
  refine ⟨?_, ?_, hactive⟩
  · simp [abortController, closeConnection, clearTimeout, hconnects]
  · simp [abortController, closeConnection, clearTimeout, htimers]

theorem Running.request (h : s.Running c) (r : StopRequest) : (s.request r).Running c := by
  obtain ⟨hconnects, htimers, hactive⟩ := h
  cases r with
  | cleanup => exact Running.stop ⟨hconnects, htimers, hactive⟩
  | abort =>
    simp only [Subscription.request, Subscription.abort]
    split_ifs
    · exact ⟨hconnects, htimers, hactive⟩
    · exact Running.stop ⟨hconnects, htimers, hactive⟩
    · exact ⟨hconnects, htimers, hactive⟩

theorem Running.callback (h : s.Running c) (e : Effect Value) (reactions : List Reaction) :
    (Subscription.callback e s reactions).1.Running c := by
  have hfold (stops : List StopRequest) {s : Subscription Value} (h : s.Running c) :
      (stops.foldl Subscription.request s).Running c := by
    induction stops generalizing s with
    | nil => exact h
    | cons r stops ih => exact ih (h.request r)
  exact hfold _ ⟨h.connects, h.timers, h.active⟩

theorem Running.deliverTo (h : s.Running c) (json : JsonCodec Value) (blocks : List (List Char))
    (reactions : List Reaction) :
    (Subscription.deliverTo json blocks s reactions).1.Running c := by
  induction blocks generalizing s reactions with
  | nil => exact h
  | cons block blocks ih =>
    rw [Subscription.deliverTo]
    split
    · exact h
    · exact ih h reactions
    · rename_i event _
      have hcall := h.callback (.onEvent event) reactions
      dsimp only
      split
      · exact hcall
      · exact ih hcall _

theorem Running.single (h : s.Running c) : s.Single := by
  obtain ⟨hconnects, htimers, -⟩ := h
  refine ⟨?_, ?_, ?_⟩
  · simp [hconnects, htimers]
  · simp [htimers]
  · simp [hconnects]

theorem Running.suspend (h : s.Running c) (awaiting : Awaiting) :
    (s.suspend c awaiting).Single := by
  obtain ⟨hconnects, htimers, hactive⟩ := h
  refine ⟨?_, ?_, ?_⟩
  · simp [Subscription.suspend, hconnects, htimers]
  · simp [Subscription.suspend, htimers]
  · simp [Subscription.suspend, hconnects, hactive]

theorem Running.retry (h : s.Running c) : s.retry.Single := by
  unfold Subscription.retry
  split_ifs
  · exact h.single
  · obtain ⟨hconnects, htimers, -⟩ := h
    refine ⟨?_, ?_, ?_⟩
    · simp [hconnects, htimers]
    · simp [htimers]
    · simp [hconnects]

theorem Running.catchError (h : s.Running c) (reason : Thrown) (reactions : List Reaction) :
    (Subscription.catchError onError reason s reactions).Single := by
  unfold Subscription.catchError
  split_ifs
  · exact h.single
  · have hcall := h.callback (.onError (errorMessage reason)) reactions
    dsimp only
    split_ifs
    · exact hcall.single
    · exact hcall.retry
  · exact h.retry

theorem Running.reportUnauthorized (h : s.Running c) (reactions : List Reaction) :
    (s.reportUnauthorized onError reactions).Single := by
  unfold Subscription.reportUnauthorized
  split_ifs
  · have hcall := h.callback (.onError "SSE request failed with status 401") reactions
    dsimp only
    split
    · exact hcall.catchError _ _
    · exact hcall.single
  · exact h.single

theorem Running.unauthorized (h : s.Running c) (reactions : List Reaction) :
    (s.unauthorized onError reactions).Single := by
  have hstopped : Running { s with stopped := true } c := ⟨h.connects, h.timers, h.active⟩
  have hcall := hstopped.callback .notifyUnauthorized reactions
  unfold Subscription.unauthorized
  dsimp only
  split
  · exact hcall.catchError _ _
  · exact hcall.reportUnauthorized _

theorem Running.resumeFetch (h : s.Running c) (reactions : List Reaction) (result : FetchResult) :
    (s.resumeFetch onError c reactions result).Single := by
  cases result with
  | rejected reason => exact h.catchError reason reactions
  | response status body =>
    simp only [Subscription.resumeFetch]
    split_ifs
    · exact h.unauthorized reactions
    · have hreset : Running { s with attempt := 0 } c := ⟨h.connects, h.timers, h.active⟩
      exact hreset.suspend _
    · exact h.catchError _ _

theorem Running.resumeRead (h : s.Running c) (decoder : TextDecoder) (buffer : List Char)
    (reactions : List Reaction) (r : ReadResult) :
    (s.resumeRead json c decoder buffer reactions r).Single := by
  have hdelivered := h.deliverTo json (settledBlocks decoder buffer r) reactions
  unfold Subscription.resumeRead
  dsimp only
  split <;> exact hdelivered.suspend _

/-- When a call of `connect` goes on, it is the only one and no timer is pending. -/
theorem Single.running (h : s.Single) {k : Connect} (hk : k ∈ s.connects) :
    Running { s with connects := s.connects.filter fun k' => k'.controller ≠ k.controller }
      k.controller := by
  have hone := h.one
  have hpos := List.length_pos_of_mem hk
  obtain ⟨k', hconnects⟩ := List.length_eq_one_iff.mp (show s.connects.length = 1 by omega)
  have htimers : s.timers = [] := List.eq_nil_of_length_eq_zero (by omega)
  obtain rfl : k = k' := List.mem_singleton.mp (hconnects ▸ hk)
  exact ⟨by simp [hconnects], htimers, h.active k hk⟩

theorem Single.resume (h : s.Single) {k : Connect} (hk : k ∈ s.connects)
    (reactions : List Reaction) : (s.resume json onError reactions k).Single := by
  have hrunning := h.running hk
  unfold Subscription.resume
  dsimp only
  split
  · exact hrunning.resumeFetch _ _
  · exact hrunning.resumeRead _ _ _ _
  · exact hrunning.catchError _ _
  · exact hrunning.retry
  · exact h
  · exact h

/-- Nothing is added to what is suspended and pending. -/
theorem Single.of_le {s' : Subscription Value} (h : s.Single)
    (hconnects : s'.connects.map Connect.controller = s.connects.map Connect.controller)
    (htimers : s'.timers.Sublist s.timers) (htimer : s'.timer = s.timer)
    (hactive : s'.active = s.active) : s'.Single := by
  have hone := h.one
  have hlength : s'.connects.length = s.connects.length := by
    simpa only [List.length_map] using congrArg List.length hconnects
  have hle := htimers.length_le
  refine ⟨by omega, ?_, ?_⟩
  · intro t ht
    rw [htimer]
    exact h.timer t (htimers.subset ht)
  · intro k hk
    have hmem : k.controller ∈ s.connects.map Connect.controller :=
      hconnects ▸ List.mem_map_of_mem hk
    obtain ⟨k', hk', heq⟩ := List.mem_map.mp hmem
    rw [hactive, ← heq]
    exact h.active k' hk'

theorem controllers_settle (f : Awaiting → Awaiting) :
    (s.settle c f).connects.map Connect.controller = s.connects.map Connect.controller := by
  simp only [settle, List.map_map]
  apply List.map_congr_left
  intro k _
  simp only [Function.comp_apply]
  split_ifs <;> rfl

theorem controllers_abort (connects : List Connect) :
    (connects.map (Connect.abort c)).map Connect.controller =
      connects.map Connect.controller := by
  rw [List.map_map]
  apply List.map_congr_left
  intro k _
  simp only [Function.comp_apply, Connect.abort]
  split_ifs <;> rfl

theorem Single.stop (h : s.Single) : s.stop.Single := by
  cases hactive : s.active with
  | none =>
    refine h.of_le ?_ ?_ ?_ ?_ <;> simp only [Subscription.stop, clearTimeout, hactive]
    exact List.filter_sublist
  | some c =>
    rw [stop_of_active hactive]
    exact h.of_le (controllers_abort s.connects) List.filter_sublist rfl rfl

theorem Single.cleanup (h : s.Single) : s.cleanup.Single :=
  Single.stop (h.of_le rfl (List.Sublist.refl _) rfl rfl)

theorem Single.abort (h : s.Single) : s.abort.Single := by
  unfold Subscription.abort
  split_ifs
  · exact h
  · exact Single.stop (h.of_le rfl (List.Sublist.refl _) rfl rfl)
  · exact h.of_le rfl (List.Sublist.refl _) rfl rfl

theorem Single.fire (h : s.Single) (id : Nat) : (s.fire id).Single := by
  unfold Subscription.fire
  split_ifs with hid
  · obtain ⟨t, ht, rfl⟩ := hid
    have hone := h.one
    have hpos := List.length_pos_iff.mpr (List.ne_nil_of_mem ht)
    have hconnects : s.connects = [] := List.eq_nil_of_length_eq_zero (by omega)
    have htimers : s.timers = [t] := by
      obtain ⟨t', ht'⟩ := List.length_eq_one_iff.mp (by omega : s.timers.length = 1)
      rw [ht'] at ht ⊢
      rw [List.mem_singleton.mp ht]
    refine ⟨?_, ?_, ?_⟩
    · simp [connect, emit, hconnects, htimers]
    · simp [connect, emit, htimers]
    · simp [connect, emit, hconnects]
  · exact h

theorem Single.settleFetch (h : s.Single) (result : FetchResult) :
    (s.settleFetch c result).Single := by
  have hsettle : (s.settle c (Awaiting.settleFetch result)).Single :=
    h.of_le (controllers_settle _) (List.Sublist.refl _) rfl rfl
  simp only [Subscription.settleFetch]
  split_ifs
  · exact hsettle
  · exact hsettle.of_le rfl (List.Sublist.refl _) rfl rfl
  · exact hsettle.of_le rfl (List.Sublist.refl _) rfl rfl
  · exact h

theorem Single.settleRead (h : s.Single) (result : ReadResult) :
    (s.settleRead c result).Single := by
  have hsettle : (s.settle c (Awaiting.settleRead result)).Single :=
    h.of_le (controllers_settle _) (List.Sublist.refl _) rfl rfl
  simp only [Subscription.settleRead]
  split_ifs
  · split
    · exact hsettle
    · exact hsettle.of_le rfl (List.Sublist.refl _) rfl rfl
    · exact hsettle.of_le rfl (List.Sublist.refl _) rfl rfl
  · exact h

theorem Single.endStream (h : s.Single) : (s.endStream c).Single := by
  unfold Subscription.endStream
  split_ifs
  · exact h.of_le rfl (List.Sublist.refl _) rfl rfl
  · exact h

/-- The continuation that runs is one of a suspended call of `connect`. -/
theorem step_resume (json : JsonCodec Value) (onError : Bool) (s : Subscription Value)
    (controller : Nat) (reactions : List Reaction) :
    s.step json onError (.resume controller reactions) = s ∨
      ∃ k ∈ s.connects, k.controller = controller ∧
        s.step json onError (.resume controller reactions) =
          s.resume json onError reactions k := by
  simp only [Subscription.step]
  cases hk : s.connects.find? fun k => k.controller = controller with
  | none => exact .inl rfl
  | some k =>
    have hc : k.controller = controller := by simpa using List.find?_some hk
    exact .inr ⟨k, List.mem_of_find?_eq_some hk, hc, rfl⟩

theorem Single.step (h : s.Single) (i : SubscriptionStep) : (s.step json onError i).Single := by
  cases i with
  | settleFetch controller result => exact h.settleFetch result
  | settleRead controller result => exact h.settleRead result
  | resume controller reactions =>
    rcases step_resume json onError s controller reactions with hidle | ⟨k, hk, -, hresume⟩
    · rwa [hidle]
    · rw [hresume]
      exact h.resume hk reactions
  | timer id => exact h.fire id
  | endStream controller => exact h.endStream
  | cleanup => exact h.cleanup
  | abort => exact h.abort

theorem single_openSSE (signalAborted : Bool) :
    (openSSE signalAborted : Subscription Value).Single := by
  refine ⟨Nat.le_refl 1, ?_, ?_⟩
  · intro t ht
    exact absurd ht List.not_mem_nil
  · intro k hk
    obtain rfl := List.mem_singleton.mp hk
    rfl

/-- Whatever happens, at most one call of `connect` is suspended or one timer is pending. -/
theorem openSSE_single (json : JsonCodec Value) (onError signalAborted : Bool)
    (labels : List SubscriptionStep) :
    (Machine.run (step json onError) (openSSE signalAborted) labels).Single :=
  Machine.run_invariant (P := Single) (fun _ i h => h.step i) (single_openSSE signalAborted) labels

end Subscription

end Boxui.UI
