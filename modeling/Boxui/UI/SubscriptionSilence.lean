import Boxui.UI.EventSubscription

/-! What a subscription does after cleanup or abort: nothing, where no callback is outstanding. -/
namespace Boxui.UI.Subscription

variable {Value : Type*}

/-- How many callbacks a call of `connect` has to make when it goes on, other than for an error
that is not reported any more after a stop. -/
def planned (json : JsonCodec Value) (onError : Bool) : Awaiting → Nat
  | .fetch (some (.response status _)) =>
    if status = 401 then (if onError then 2 else 1) else 0
  | .read decoder buffer (some r) => (deliver json (settledBlocks decoder buffer r)).events.length
  | _ => 0

/-- A callback that stops the subscription is the last of `n`, unless one has thrown. -/
def StopsLast (n : Nat) (reactions : List Reaction) : Prop :=
  ∀ i r, reactions[i]? = some r → r.stops ≠ [] →
    n ≤ i + 1 ∨ ∃ j r', j ≤ i ∧ reactions[j]? = some r' ∧ r'.throws ≠ none

/-- No callback is outstanding when the subscription is stopped. -/
def StopsBetween (json : JsonCodec Value) (onError : Bool) (s : Subscription Value) :
    SubscriptionStep → Prop
  | .resume controller reactions => ∀ k ∈ s.connects, k.controller = controller →
      StopsLast (planned json onError k.awaiting) reactions
  | .cleanup | .abort => ∀ k ∈ s.connects, planned json onError k.awaiting = 0
  | _ => True

variable {s : Subscription Value} {c : Nat} {json : JsonCodec Value} {onError : Bool}

/-- A call of `connect` runs, nothing has been called back after a stop, and after one the rest of
the call finds the subscription stopped and its controller aborted. -/
structure Calm (s : Subscription Value) (controller : Nat) : Prop extends
    Running s controller where
  log : ∀ p ∈ s.log, p.1 = false
  ended : s.ended = true → s.stopped = true ∧ controller ∈ s.abortedControllers
  listening : s.listening = false → s.ended = true

/-- Between the calls: after a stop no timer is pending, and a suspended call of `connect` has
been aborted and has nothing to call back. -/
structure Silent (json : JsonCodec Value) (onError : Bool) (s : Subscription Value) : Prop where
  single : s.Single
  log : ∀ p ∈ s.log, p.1 = false
  ended : s.ended = true → s.stopped = true ∧ s.timers = [] ∧ ∀ k ∈ s.connects,
    planned json onError k.awaiting = 0 ∧ k.controller ∈ s.abortedControllers ∧
      k.awaiting.isFetching = false ∧ k.awaiting.isReading = false
  listening : s.listening = false → s.ended = true

theorem ended_stop : s.stop.ended = s.ended := by
  unfold Subscription.stop
  dsimp only
  split <;> rfl

theorem Running.calm_stop (h : s.Running c) (hlog : ∀ p ∈ s.log, p.1 = false)
    (hended : s.ended = true) : s.stop.Calm c := by
  refine ⟨h.stop, ?_, ?_, ?_⟩ <;> rw [stop_of_active h.active]
  · exact hlog
  · exact fun _ => ⟨rfl, List.mem_cons_self⟩
  · exact fun _ => hended

theorem Calm.request (h : s.Calm c) (r : StopRequest) : (s.request r).Calm c := by
  cases r with
  | cleanup =>
    exact Running.calm_stop ⟨h.connects, h.timers, h.active⟩ h.log (Bool.or_true _)
  | abort =>
    simp only [Subscription.request, Subscription.abort]
    split_ifs with haborted hlistening
    · exact h
    · exact Running.calm_stop ⟨h.connects, h.timers, h.active⟩ h.log rfl
    · refine ⟨⟨h.connects, h.timers, h.active⟩, h.log, fun _ => ?_, fun _ => rfl⟩
      exact h.ended (h.listening (by simpa using hlistening))

theorem Calm.requests (h : s.Calm c) (stops : List StopRequest) :
    (stops.foldl Subscription.request s).Calm c := by
  induction stops generalizing s with
  | nil => exact h
  | cons r stops ih => exact ih (h.request r)

theorem Calm.emit (h : s.Calm c) (hended : s.ended = false) (e : Effect Value) :
    (s.emit e).Calm c := by
  refine ⟨⟨h.connects, h.timers, h.active⟩, ?_, h.ended, h.listening⟩
  intro p hp
  rcases List.mem_cons.mp hp with rfl | hp
  · exact hended
  · exact h.log p hp

/-- A callback before a stop. -/
theorem Calm.callback (h : s.Calm c) (hended : s.ended = false) (e : Effect Value)
    (reactions : List Reaction) :
    (Subscription.callback e s reactions).1.Calm c :=
  (h.emit hended e).requests _

/-- A callback that stops nothing. -/
theorem ended_callback {e : Effect Value} {reactions : List Reaction}
    (hstops : ∀ r, reactions.head? = some r → r.stops = []) :
    (Subscription.callback e s reactions).1.ended = s.ended := by
  unfold Subscription.callback
  cases reactions with
  | nil => rfl
  | cons r reactions =>
    have hr : r.stops = [] := hstops r rfl
    simp [hr, Subscription.emit, Subscription.ended]

theorem Calm.silent (h : s.Calm c) : s.Silent json onError := by
  refine ⟨h.toRunning.single, h.log, ?_, h.listening⟩
  intro hended
  refine ⟨(h.ended hended).1, h.timers, ?_⟩
  rw [h.connects]
  exact fun _ hk => absurd hk List.not_mem_nil

/-- A `connect` that is suspended after a stop has nothing to call back. -/
theorem Calm.suspend (h : s.Calm c) {awaiting : Awaiting}
    (hawaiting : s.ended = true → planned json onError awaiting = 0 ∧
      awaiting.isFetching = false ∧ awaiting.isReading = false) :
    (s.suspend c awaiting).Silent json onError := by
  refine ⟨h.toRunning.suspend awaiting, h.log, ?_, h.listening⟩
  intro hended
  obtain ⟨hstopped, haborted⟩ := h.ended hended
  refine ⟨hstopped, h.timers, ?_⟩
  intro k hk
  simp only [Subscription.suspend, h.connects] at hk
  obtain rfl := List.mem_singleton.mp hk
  exact ⟨(hawaiting hended).1, haborted, (hawaiting hended).2⟩

theorem Calm.awaitRead (h : s.Calm c) (decoder : TextDecoder) (buffer : List Char) :
    (s.awaitRead c decoder buffer).Silent json onError := by
  apply h.suspend
  intro hended
  rw [if_pos (h.ended hended).2]
  exact ⟨rfl, rfl, rfl⟩

theorem Calm.retry (h : s.Calm c) : s.retry.Silent json onError := by
  have hsingle := h.toRunning.retry
  unfold Subscription.retry at hsingle ⊢
  split_ifs at hsingle ⊢ with hstopped
  · exact h.silent
  · refine ⟨hsingle, h.log, ?_, h.listening⟩
    intro hended
    exact absurd (h.ended hended).1 hstopped

theorem Calm.catchError (h : s.Calm c) (reason : Thrown) (reactions : List Reaction) :
    (Subscription.catchError onError reason s reactions).Silent json onError := by
  unfold Subscription.catchError
  split_ifs with hstopped
  · exact h.silent
  · -- not stopped, hence before any stop
    have hended : s.ended = false := by
      by_contra hended
      exact hstopped (.inl (h.ended (by simpa using hended)).1)
    have hcall := h.callback hended (.onError (errorMessage reason)) reactions
    dsimp only
    split_ifs
    · exact hcall.silent
    · exact hcall.retry
  · exact h.retry

theorem StopsLast.tail {n : Nat} {r : Reaction} {reactions : List Reaction}
    (h : StopsLast (n + 1) (r :: reactions)) (hr : r.throws = none) : StopsLast n reactions := by
  intro i r' hr' hstops
  rcases h (i + 1) r' hr' hstops with hle | ⟨j, r'', hj, hr'', hthrows⟩
  · exact .inl (by omega)
  · cases j with
    | zero =>
      obtain rfl := Option.some.inj hr''
      exact absurd hr hthrows
    | succ j => exact .inr ⟨j, r'', by omega, hr'', hthrows⟩

/-- After a callback that is not the last and does not throw, the subscription goes on. -/
theorem StopsLast.not_stopped {n : Nat} {reactions : List Reaction}
    (h : StopsLast (n + 2) reactions) (hthrows : (reactions.head?.getD ⟨[], none⟩).throws = none) :
    ∀ r, reactions.head? = some r → r.stops = [] := by
  intro r hr
  rw [hr] at hthrows
  by_contra hstops
  have hr0 : reactions[0]? = some r := by rw [← List.head?_eq_getElem?, hr]
  rcases h 0 r hr0 hstops with hle | ⟨j, r', hj, hr', hne⟩
  · omega
  · obtain rfl := Nat.le_zero.mp hj
    obtain rfl := Option.some.inj (hr0.symm.trans hr')
    exact hne hthrows

theorem StopsLast.next {n : Nat} {reactions : List Reaction} (h : StopsLast (n + 1) reactions)
    (hthrows : (reactions.head?.getD ⟨[], none⟩).throws = none) :
    StopsLast n reactions.tail := by
  cases reactions with
  | nil =>
    intro i r hr
    simp at hr
  | cons r reactions => exact h.tail hthrows

/-- Blocks that are delivered while the subscription has not been stopped, or that have no
events. -/
theorem Calm.deliverTo (blocks : List (List Char)) {s : Subscription Value} (h : s.Calm c)
    {reactions : List Reaction}
    (hended : s.ended = false ∨ (deliver json blocks).events = [])
    (hlast : StopsLast (deliver json blocks).events.length reactions) :
    (Subscription.deliverTo json blocks s reactions).1.Calm c := by
  induction blocks generalizing s reactions with
  | nil => exact h
  | cons block blocks ih =>
    rw [Subscription.deliverTo]
    rw [deliver] at hended hlast
    cases hparse : parseEvent json block with
    | error e => exact h
    | ok event =>
      cases event with
      | none =>
        rw [hparse] at hended hlast
        exact ih h hended hlast
      | some event =>
        rw [hparse] at hended hlast
        simp only [Consumed.none_andThen, List.singleton_append, List.length_cons,
          List.cons_ne_nil, or_false] at hended hlast
        have hcall := h.callback hended (.onEvent event) reactions
        dsimp only
        cases hthrown : (Subscription.callback (.onEvent event) s reactions).2.2 with
        | some reason => exact hcall
        | none =>
          refine ih hcall ?_ (hlast.next hthrown)
          -- more events only if this callback has stopped nothing
          cases hrest : (deliver json blocks).events with
          | nil => exact .inr rfl
          | cons event' events =>
            rw [hrest, List.length_cons] at hlast
            exact .inl ((ended_callback (hlast.not_stopped hthrown)).trans hended)

theorem Calm.reportUnauthorized (h : s.Calm c) (hended : onError = true → s.ended = false)
    (reactions : List Reaction) :
    (s.reportUnauthorized onError reactions).Silent json onError := by
  unfold Subscription.reportUnauthorized
  split_ifs with hon
  · have hcall := h.callback (hended hon) (.onError "SSE request failed with status 401") reactions
    dsimp only
    split
    · exact hcall.catchError _ _
    · exact hcall.silent
  · exact h.silent

theorem Calm.unauthorized (h : s.Calm c) (hended : s.ended = false) {reactions : List Reaction}
    (hlast : StopsLast (if onError then 2 else 1) reactions) :
    (s.unauthorized onError reactions).Silent json onError := by
  have hstopped : Calm { s with stopped := true } c :=
    ⟨⟨h.connects, h.timers, h.active⟩, h.log, fun hov => ⟨rfl, (h.ended hov).2⟩, h.listening⟩
  have hcall := hstopped.callback hended .notifyUnauthorized reactions
  unfold Subscription.unauthorized
  dsimp only
  cases hthrown :
      (Subscription.callback .notifyUnauthorized { s with stopped := true } reactions).2.2 with
  | some reason => exact hcall.catchError _ _
  | none =>
    refine hcall.reportUnauthorized ?_ _
    rintro rfl
    exact (ended_callback (StopsLast.not_stopped hlast hthrown)).trans hended

theorem Calm.resumeFetch (h : s.Calm c) {reactions : List Reaction} {result : FetchResult}
    (hended : s.ended = true → planned json onError (.fetch (some result)) = 0)
    (hlast : StopsLast (planned json onError (.fetch (some result))) reactions) :
    (s.resumeFetch onError c reactions result).Silent json onError := by
  cases result with
  | rejected reason => exact h.catchError reason reactions
  | response status body =>
    simp only [Subscription.resumeFetch, planned] at hended hlast ⊢
    split_ifs at hended hlast ⊢ with hstatus hon
    · have hnot : s.ended = false := by
        by_contra hov
        exact hended (by simpa using hov)
      exact h.unauthorized hnot (by rw [if_pos hon]; exact hlast)
    · have hnot : s.ended = false := by
        by_contra hov
        exact hended (by simpa using hov)
      exact h.unauthorized hnot (by rw [if_neg hon]; exact hlast)
    · have hreset : Calm { s with attempt := 0 } c :=
        ⟨⟨h.connects, h.timers, h.active⟩, h.log, h.ended, h.listening⟩
      exact hreset.awaitRead .new []
    · exact h.catchError _ reactions

theorem Calm.resumeRead (h : s.Calm c) {decoder : TextDecoder} {buffer : List Char}
    {reactions : List Reaction} {r : ReadResult}
    (hended : s.ended = true → planned json onError (.read decoder buffer (some r)) = 0)
    (hlast : StopsLast (planned json onError (.read decoder buffer (some r))) reactions) :
    (s.resumeRead json c decoder buffer reactions r).Silent json onError := by
  have hbefore : s.ended = false ∨ (deliver json (settledBlocks decoder buffer r)).events = [] := by
    cases hov : s.ended with
    | false => exact .inl rfl
    | true => exact .inr (List.eq_nil_of_length_eq_zero (hended hov))
  have hdelivered := h.deliverTo (settledBlocks decoder buffer r) hbefore hlast
  unfold Subscription.resumeRead
  dsimp only
  split
  · exact hdelivered.suspend fun _ => ⟨rfl, rfl, rfl⟩
  · exact hdelivered.suspend fun _ => ⟨rfl, rfl, rfl⟩
  · exact hdelivered.suspend fun _ => ⟨rfl, rfl, rfl⟩
  · exact hdelivered.awaitRead _ _

theorem Silent.resume (h : s.Silent json onError) {k : Connect} (hk : k ∈ s.connects)
    {reactions : List Reaction} (hlast : StopsLast (planned json onError k.awaiting) reactions) :
    (s.resume json onError reactions k).Silent json onError := by
  have hrunning := h.single.running hk
  have hcalm : Calm { s with
      connects := s.connects.filter fun k' => k'.controller ≠ k.controller } k.controller :=
    ⟨hrunning, h.log, fun hended => ⟨(h.ended hended).1, ((h.ended hended).2.2 k hk).2.1⟩,
      h.listening⟩
  have hended (hov : s.ended = true) : planned json onError k.awaiting = 0 :=
    ((h.ended hov).2.2 k hk).1
  unfold Subscription.resume
  dsimp only
  split
  · rename_i hawaiting
    rw [hawaiting] at hended hlast
    exact hcalm.resumeFetch hended hlast
  · rename_i hawaiting
    rw [hawaiting] at hended hlast
    exact hcalm.resumeRead hended hlast
  · exact hcalm.catchError _ reactions
  · exact hcalm.retry
  · exact h
  · exact h

theorem planned_abort {awaiting : Awaiting} (h : planned json onError awaiting = 0) :
    planned json onError awaiting.abort = 0 ∧ awaiting.abort.isFetching = false ∧
      awaiting.abort.isReading = false := by
  cases awaiting with
  | fetch settled => cases settled <;> exact ⟨h, rfl, rfl⟩
  | read decoder buffer settled => cases settled <;> exact ⟨h, rfl, rfl⟩
  | consumed thrown => exact ⟨h, rfl, rfl⟩

/-- A stop between the calls. -/
theorem Single.silent_stop (h : s.Single) (hlog : ∀ p ∈ s.log, p.1 = false)
    (hended : s.ended = true) (hplanned : ∀ k ∈ s.connects, planned json onError k.awaiting = 0) :
    s.stop.Silent json onError := by
  have htimers : (s.timers.filter fun t => s.timer ≠ some t.1) = [] := by
    apply List.filter_eq_nil_iff.mpr
    intro t ht
    simpa using h.timer t ht
  refine ⟨h.stop, ?_, ?_, fun _ => ended_stop.trans hended⟩
  · cases hactive : s.active <;> simp only [Subscription.stop, clearTimeout, hactive] <;> exact hlog
  · intro _
    cases hactive : s.active with
    | none =>
      have hconnects : s.connects = [] := by
        apply List.eq_nil_iff_forall_not_mem.mpr
        intro k hk
        exact Option.some_ne_none _ ((h.active k hk).symm.trans hactive)
      simp only [Subscription.stop, clearTimeout, hactive]
      refine ⟨trivial, htimers, ?_⟩
      intro k hk
      rw [hconnects] at hk
      exact absurd hk List.not_mem_nil
    | some c =>
      rw [stop_of_active hactive]
      refine ⟨rfl, htimers, ?_⟩
      intro k hk
      obtain ⟨k', hk', rfl⟩ := List.mem_map.mp hk
      have hc : k'.controller = c := Option.some.inj ((h.active k' hk').symm.trans hactive)
      have haborted := planned_abort (hplanned k' hk')
      rw [Connect.abort, if_pos hc]
      exact ⟨haborted.1, hc ▸ List.mem_cons_self, haborted.2⟩

theorem Silent.cleanup (h : s.Silent json onError)
    (hplanned : ∀ k ∈ s.connects, planned json onError k.awaiting = 0) :
    s.cleanup.Silent json onError := by
  have hsingle : Single ({ s with listening := false, cleanedUp := true } : Subscription Value) :=
    h.single.of_le rfl (List.Sublist.refl _) rfl rfl
  exact hsingle.silent_stop h.log (Bool.or_true _) hplanned

theorem Silent.abort (h : s.Silent json onError)
    (hplanned : ∀ k ∈ s.connects, planned json onError k.awaiting = 0) :
    s.abort.Silent json onError := by
  unfold Subscription.abort
  split_ifs with haborted hlistening
  · exact h
  · have hsingle : Single ({ s with signalAborted := true, listening := false } :
        Subscription Value) := h.single.of_le rfl (List.Sublist.refl _) rfl rfl
    exact hsingle.silent_stop h.log rfl hplanned
  · have hended := h.ended (h.listening (by simpa using hlistening))
    refine ⟨h.single.of_le rfl (List.Sublist.refl _) rfl rfl, h.log, fun _ => hended, ?_⟩
    exact fun _ => rfl

/-- A step that is taken only before a stop. -/
theorem Silent.before (h : s.Silent json onError) {s' : Subscription Value} (hsingle : s'.Single)
    (hlog : ∀ p ∈ s'.log, p.1 = false) (hended : s'.ended = s.ended)
    (hlistening : s'.listening = s.listening) (hopen : s.ended = false) :
    s'.Silent json onError := by
  refine ⟨hsingle, hlog, ?_, ?_⟩
  · intro hov
    rw [hended, hopen] at hov
    exact absurd hov Bool.false_ne_true
  · intro hl
    rw [hlistening] at hl
    rw [hended]
    exact h.listening hl

/-- After a stop nothing is pending that could settle: every call of `connect` has been aborted. -/
theorem Silent.not_ended (h : s.Silent json onError) {k : Connect} (hk : k ∈ s.connects)
    (hpending : k.awaiting.isFetching = true ∨ k.awaiting.isReading = true) : s.ended = false := by
  by_contra hov
  obtain ⟨-, -, hconnects⟩ := h.ended (by simpa using hov)
  obtain ⟨-, -, hfetching, hreading⟩ := hconnects k hk
  rcases hpending with hpending | hpending
  · exact Bool.false_ne_true (hfetching.symm.trans hpending)
  · exact Bool.false_ne_true (hreading.symm.trans hpending)

theorem Silent.settleFetch (h : s.Silent json onError) (result : FetchResult) :
    (s.settleFetch c result).Silent json onError := by
  have hsingle : (s.settleFetch c result).Single := h.single.settleFetch result
  simp only [Subscription.settleFetch] at hsingle ⊢
  split_ifs at hsingle ⊢ with hk hopens hrefused
  · obtain ⟨k, hk, -, hfetching⟩ := hk
    exact h.before hsingle h.log rfl rfl (h.not_ended hk (.inl hfetching))
  · obtain ⟨k, hk, -, hfetching⟩ := hk
    exact h.before hsingle h.log rfl rfl (h.not_ended hk (.inl hfetching))
  · obtain ⟨k, hk, -, hfetching⟩ := hk
    exact h.before hsingle h.log rfl rfl (h.not_ended hk (.inl hfetching))
  · exact h

theorem Silent.settleRead (h : s.Silent json onError) (result : ReadResult) :
    (s.settleRead c result).Silent json onError := by
  have hsingle : (s.settleRead c result).Single := h.single.settleRead result
  simp only [Subscription.settleRead] at hsingle ⊢
  split_ifs at hsingle ⊢ with hk
  · obtain ⟨k, hk, -, hreading⟩ := hk
    have hopen := h.not_ended hk (.inr hreading)
    cases result <;> exact h.before hsingle h.log rfl rfl hopen
  · exact h

theorem Silent.fire (h : s.Silent json onError) (id : Nat) : (s.fire id).Silent json onError := by
  have hsingle := h.single.fire id
  simp only [Subscription.fire] at hsingle ⊢
  split_ifs at hsingle ⊢ with hid
  · obtain ⟨t, ht, -⟩ := hid
    have hopen : s.ended = false := by
      by_contra hov
      rw [(h.ended (by simpa using hov)).2.1] at ht
      exact absurd ht List.not_mem_nil
    refine h.before hsingle ?_ rfl rfl hopen
    intro p hp
    rcases List.mem_cons.mp hp with rfl | hp
    · exact hopen
    · exact h.log p hp
  · exact h

theorem Silent.step (h : s.Silent json onError) {i : SubscriptionStep}
    (hi : s.StopsBetween json onError i) : (s.step json onError i).Silent json onError := by
  cases i with
  | settleFetch controller result => exact h.settleFetch result
  | settleRead controller result => exact h.settleRead result
  | resume controller reactions =>
    rcases step_resume json onError s controller reactions with hidle | ⟨k, hk, hc, hresume⟩
    · rwa [hidle]
    · rw [hresume]
      exact h.resume hk (hi k hk hc)
  | timer id => exact h.fire id
  | endStream controller =>
    simp only [Subscription.step, Subscription.endStream]
    split_ifs
    · exact ⟨h.single.of_le rfl (List.Sublist.refl _) rfl rfl, h.log, h.ended, h.listening⟩
    · exact h
  | cleanup => exact h.cleanup hi
  | abort => exact h.abort hi

theorem silent_openSSE : (openSSE false : Subscription Value).Silent json onError := by
  refine ⟨single_openSSE false, ?_, ?_, ?_⟩
  · intro p hp
    obtain rfl := List.mem_singleton.mp hp
    rfl
  · intro hended
    exact absurd hended Bool.false_ne_true
  · intro hlistening
    exact absurd hlistening.symm Bool.false_ne_true

end Boxui.UI.Subscription
