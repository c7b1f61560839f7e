import Boxui.UI.SubscriptionSilence
import Mathlib.Data.List.Nodup

/-! The attempts and streams that a subscription has open. A chunk whose consumption throws leaves
its stream open, with no reader, and so does a response that is refused for its status. -/
namespace Boxui.UI.Subscription

variable {Value : Type*} {s : Subscription Value} {c : Nat} {json : JsonCodec Value}
  {onError : Bool}

/-- No event of a chunk throws, unless a callback has stopped the subscription before. -/
def ReadsThrough (consumed : Consumed Value) (reactions : List Reaction) : Prop :=
  (consumed.error = none ∧ ∀ r ∈ reactions.take consumed.events.length, r.throws = none) ∨
    ∃ i r, i < consumed.events.length ∧ reactions[i]? = some r ∧ r.stops ≠ [] ∧
      ∀ j r', j < i → reactions[j]? = some r' → r'.throws = none

/-- No stream is left open without a reader: a chunk is read through, and a body that was refused
has come to its end when the retry timer fires. -/
def ReadsOn (json : JsonCodec Value) (s : Subscription Value) : SubscriptionStep → Prop
  | .resume controller reactions => ∀ k ∈ s.connects, k.controller = controller →
      ∀ decoder buffer value, k.awaiting = .read decoder buffer (some (.chunk value)) →
        ReadsThrough (deliver json (settledBlocks decoder buffer (.chunk value))) reactions
  | .timer id => (∃ t ∈ s.timers, t.1 = id) → ∀ c ∈ s.refused, c ∉ s.connections
  | _ => True

/-- The attempt or stream that a call of `connect` waits for is over. -/
def isOver : Awaiting → Prop
  | .fetch (some result) => ¬result.Opens
  | .read _ _ (some (.chunk _)) => False
  | .read _ _ (some _) => True
  | .consumed _ => True
  | _ => False

/-- An open attempt or stream is the active one, and a suspended call of `connect` waits for it or
its response has been refused; a stop closes it. -/
structure Tracked (s : Subscription Value) : Prop where
  only : ∀ c ∈ s.connections, s.active = some c
  nodup : s.connections.Nodup
  known : ∀ c ∈ s.connections, c ∈ s.refused ∨
    ∃ k ∈ s.connects, k.controller = c ∧ ¬isOver k.awaiting
  ended : s.ended = true → s.connections = []
  unaborted : s.ended = false → s.abortedControllers = []

/-- The same while a call of `connect` runs. -/
structure TrackedRun (s : Subscription Value) (controller : Nat) : Prop extends
    Running s controller where
  listening : s.listening = false → s.ended = true
  only : ∀ c ∈ s.connections, c = controller
  nodup : s.connections.Nodup
  ended : s.ended = true → s.connections = []
  unaborted : s.ended = false → s.abortedControllers = []

/-- Only refused responses are open. -/
def Left (s : Subscription Value) : Prop := ∀ c ∈ s.connections, c ∈ s.refused

theorem left_of_nil (h : s.connections = []) : s.Left := by
  intro c hc
  rw [h] at hc
  exact absurd hc List.not_mem_nil

theorem ended_request (r : StopRequest) : (s.request r).ended = true := by
  cases r with
  | cleanup => exact ended_stop.trans (Bool.or_true _)
  | abort =>
    simp only [Subscription.request, Subscription.abort]
    split_ifs with haborted
    · rw [Subscription.ended, haborted, Bool.true_or]
    · exact ended_stop
    · rfl

theorem ended_requests {stops : List StopRequest} (h : stops ≠ [] ∨ s.ended = true) :
    (stops.foldl Subscription.request s).ended = true := by
  induction stops generalizing s with
  | nil => exact h.resolve_left fun hne => hne rfl
  | cons r stops ih => exact ih (.inr (ended_request r))

theorem ended_deliverTo (blocks : List (List Char)) {s : Subscription Value} (h : s.ended = true)
    (reactions : List Reaction) :
    (Subscription.deliverTo json blocks s reactions).1.ended = true := by
  induction blocks generalizing s reactions with
  | nil => exact h
  | cons block blocks ih =>
    rw [Subscription.deliverTo]
    split
    · exact h
    · exact ih h reactions
    · rename_i event _
      have hcall : (Subscription.callback (.onEvent event) s reactions).1.ended = true :=
        ended_requests (.inr h)
      dsimp only
      split
      · exact hcall
      · exact ih hcall _

theorem ReadsThrough.tail {event : Value} {consumed : Consumed Value} {reactions : List Reaction}
    (h : ReadsThrough ((⟨[event], none⟩ : Consumed Value).andThen consumed) reactions)
    (hstops : ∀ r, reactions.head? = some r → r.stops = []) :
    ReadsThrough consumed reactions.tail := by
  rcases h with ⟨herror, hthrows⟩ | ⟨i, r, hi, hr, hne, hbefore⟩
  · refine .inl ⟨herror, ?_⟩
    intro r hr
    refine hthrows r ?_
    cases reactions with
    | nil => simp at hr
    | cons r' reactions => exact List.mem_cons_of_mem _ hr
  · cases i with
    | zero => exact absurd (hstops r (by rw [List.head?_eq_getElem?, hr])) hne
    | succ i =>
      refine .inr ⟨i, r, ?_, ?_, hne, ?_⟩
      · simp only [Consumed.none_andThen, List.singleton_append, List.length_cons] at hi
        omega
      · rw [List.getElem?_tail, hr]
      · intro j r' hj hr'
        rw [List.getElem?_tail] at hr'
        exact hbefore (j + 1) r' (by omega) hr'

theorem ReadsThrough.head {event : Value} {consumed : Consumed Value} {reactions : List Reaction}
    (h : ReadsThrough ((⟨[event], none⟩ : Consumed Value).andThen consumed) reactions) :
    (reactions.head?.getD ⟨[], none⟩).throws = none ∨
      (reactions.head?.getD ⟨[], none⟩).stops ≠ [] := by
  cases reactions with
  | nil => exact .inl rfl
  | cons r reactions =>
    rcases h with ⟨-, hthrows⟩ | ⟨i, r', -, hr', hne, hbefore⟩
    · exact .inl (hthrows r List.mem_cons_self)
    · cases i with
      | zero =>
        obtain rfl := Option.some.inj hr'
        exact .inr hne
      | succ i => exact .inl (hbefore 0 r (by omega) rfl)

/-- A chunk that is read through throws only after a stop. -/
theorem deliverTo_readsThrough (blocks : List (List Char)) {s : Subscription Value}
    {reactions : List Reaction} (h : ReadsThrough (deliver json blocks) reactions) :
    (Subscription.deliverTo json blocks s reactions).2.2 = none ∨
      (Subscription.deliverTo json blocks s reactions).1.ended = true := by
  induction blocks generalizing s reactions with
  | nil => exact .inl rfl
  | cons block blocks ih =>
    rw [Subscription.deliverTo]
    rw [deliver] at h
    cases hparse : parseEvent json block with
    | error e =>
      rw [hparse] at h
      rcases h with ⟨herror, -⟩ | ⟨i, -, hi, -⟩
      · exact absurd herror (Option.some_ne_none e)
      · exact absurd hi (Nat.not_lt_zero i)
    | ok event =>
      cases event with
      | none =>
        rw [hparse] at h
        exact ih h
      | some event =>
        rw [hparse] at h
        dsimp only at h ⊢
        by_cases hstops : (reactions.head?.getD ⟨[], none⟩).stops = []
        · have hthrown : (Subscription.callback (.onEvent event) s reactions).2.2 = none :=
            h.head.resolve_right fun hne => hne hstops
          rw [hthrown]
          refine ih (h.tail ?_)
          intro r hr
          rw [hr] at hstops
          exact hstops
        · have hcall : (Subscription.callback (.onEvent event) s reactions).1.ended = true :=
            ended_requests (.inl hstops)
          split
          · exact .inr hcall
          · exact .inr (ended_deliverTo blocks hcall _)

/-- A stop closes the active attempt or stream. -/
theorem connections_stop (h : ∀ c ∈ s.connections, s.active = some c) :
    s.stop.connections = [] := by
  cases hactive : s.active with
  | none =>
    have hnil : s.connections = [] := by
      apply List.eq_nil_iff_forall_not_mem.mpr
      intro c hc
      exact Option.some_ne_none _ ((h c hc).symm.trans hactive)
    simpa only [Subscription.stop, clearTimeout, hactive] using hnil
  | some c =>
    rw [stop_of_active hactive]
    apply List.filter_eq_nil_iff.mpr
    intro c' hc'
    have heq : c' = c := Option.some.inj ((h c' hc').symm.trans hactive)
    simpa using heq

theorem TrackedRun.active_eq (h : s.TrackedRun c) : ∀ c' ∈ s.connections, s.active = some c' := by
  intro c' hc'
  rw [h.only c' hc']
  exact h.active

theorem TrackedRun.request (h : s.TrackedRun c) (r : StopRequest) :
    (s.request r).TrackedRun c := by
  have hended := ended_request (s := s) r
  have hnil : (s.request r).connections = [] := by
    cases r with
    | cleanup => exact connections_stop h.active_eq
    | abort =>
      simp only [Subscription.request, Subscription.abort]
      split_ifs with haborted hlistening
      · exact h.ended (by rw [Subscription.ended, haborted, Bool.true_or])
      · exact connections_stop h.active_eq
      · exact h.ended (h.listening (by simpa using hlistening))
  refine ⟨h.toRunning.request r, fun _ => hended, ?_, ?_, fun _ => hnil, ?_⟩
  · simp [hnil]
  · simp [hnil]
  · intro hopen
    exact absurd (hopen.symm.trans hended) Bool.false_ne_true

theorem TrackedRun.callback (h : s.TrackedRun c) (e : Effect Value) (reactions : List Reaction) :
    (Subscription.callback e s reactions).1.TrackedRun c ∧
      (s.Left → (Subscription.callback e s reactions).1.Left) := by
  have hfold (stops : List StopRequest) {s : Subscription Value} (h : s.TrackedRun c) :
      (stops.foldl Subscription.request s).TrackedRun c ∧
        (s.Left → (stops.foldl Subscription.request s).Left) := by
    induction stops generalizing s with
    | nil => exact ⟨h, fun hleft => hleft⟩
    | cons r stops ih =>
      obtain ⟨hrun, hkeep⟩ := ih (h.request r)
      exact ⟨hrun, fun _ => hkeep (left_of_nil ((h.request r).ended (ended_request r)))⟩
  exact hfold _ ⟨⟨h.connects, h.timers, h.active⟩, h.listening, h.only, h.nodup, h.ended,
    h.unaborted⟩

theorem TrackedRun.deliverTo (json : JsonCodec Value) (blocks : List (List Char))
    {s : Subscription Value} (h : s.TrackedRun c) (reactions : List Reaction) :
    (Subscription.deliverTo json blocks s reactions).1.TrackedRun c ∧
      (s.Left → (Subscription.deliverTo json blocks s reactions).1.Left) := by
  induction blocks generalizing s reactions with
  | nil => exact ⟨h, fun hleft => hleft⟩
  | cons block blocks ih =>
    rw [Subscription.deliverTo]
    split
    · exact ⟨h, fun hleft => hleft⟩
    · exact ih h reactions
    · rename_i event _
      obtain ⟨hcall, hkeep⟩ := h.callback (.onEvent event) reactions
      dsimp only
      split
      · exact ⟨hcall, hkeep⟩
      · obtain ⟨hrest, hkeep'⟩ := ih hcall
          (Subscription.callback (.onEvent event) s reactions).2.1
        exact ⟨hrest, fun hleft => hkeep' (hkeep hleft)⟩

theorem TrackedRun.tracked (h : s.TrackedRun c) (hleft : s.Left) : s.Tracked :=
  ⟨h.active_eq, h.nodup, fun c' hc' => .inl (hleft c' hc'), h.ended, h.unaborted⟩

theorem TrackedRun.suspend (h : s.TrackedRun c) {awaiting : Awaiting}
    (hover : isOver awaiting → s.Left) : (s.suspend c awaiting).Tracked := by
  refine ⟨h.active_eq, h.nodup, fun c' hc' => ?_, h.ended, h.unaborted⟩
  by_cases hawaiting : isOver awaiting
  · exact .inl (hover hawaiting c' hc')
  · exact .inr ⟨⟨c, awaiting⟩, List.mem_cons_self, (h.only c' hc').symm, hawaiting⟩

theorem TrackedRun.awaitRead (h : s.TrackedRun c) (decoder : TextDecoder) (buffer : List Char) :
    (s.awaitRead c decoder buffer).Tracked := by
  apply h.suspend
  intro hover
  cases hov : s.ended with
  | true => exact left_of_nil (h.ended hov)
  | false =>
    rw [h.unaborted hov, if_neg List.not_mem_nil] at hover
    exact hover.elim

theorem TrackedRun.retry (h : s.TrackedRun c) (hleft : s.Left) : s.retry.Tracked := by
  unfold Subscription.retry
  split_ifs
  · exact h.tracked hleft
  · exact ⟨h.active_eq, h.nodup, fun c' hc' => .inl (hleft c' hc'), h.ended, h.unaborted⟩

theorem TrackedRun.catchError (h : s.TrackedRun c) (hleft : s.Left) (reason : Thrown)
    (reactions : List Reaction) :
    (Subscription.catchError onError reason s reactions).Tracked := by
  unfold Subscription.catchError
  split_ifs
  · exact h.tracked hleft
  · obtain ⟨hcall, hkeep⟩ := h.callback (.onError (errorMessage reason)) reactions
    dsimp only
    split_ifs
    · exact hcall.tracked (hkeep hleft)
    · exact hcall.retry (hkeep hleft)
  · exact h.retry hleft

theorem TrackedRun.unauthorized (h : s.TrackedRun c) (hleft : s.Left)
    (reactions : List Reaction) : (s.unauthorized onError reactions).Tracked := by
  have hstopped : TrackedRun { s with stopped := true } c :=
    ⟨⟨h.connects, h.timers, h.active⟩, h.listening, h.only, h.nodup, h.ended, h.unaborted⟩
  obtain ⟨hcall, hkeep⟩ := hstopped.callback .notifyUnauthorized reactions
  unfold Subscription.unauthorized
  dsimp only
  split
  · exact hcall.catchError (hkeep hleft) _ _
  · unfold Subscription.reportUnauthorized
    split_ifs
    · obtain ⟨hcall', hkeep'⟩ := hcall.callback (.onError "SSE request failed with status 401")
        (Subscription.callback .notifyUnauthorized { s with stopped := true } reactions).2.1
      dsimp only
      split
      · exact hcall'.catchError (hkeep' (hkeep hleft)) _ _
      · exact hcall'.tracked (hkeep' (hkeep hleft))
    · exact hcall.tracked (hkeep hleft)

theorem TrackedRun.resumeFetch (h : s.TrackedRun c) {result : FetchResult}
    (hleft : ¬result.Opens → s.Left) (reactions : List Reaction) :
    (s.resumeFetch onError c reactions result).Tracked := by
  cases result with
  | rejected reason => exact h.catchError (hleft fun hopens => hopens.elim) reason reactions
  | response status body =>
    simp only [Subscription.resumeFetch]
    split_ifs with hstatus hopens
    · refine h.unauthorized (hleft ?_) reactions
      rintro ⟨-, hle, -⟩
      omega
    · have hreset : TrackedRun { s with attempt := 0 } c :=
        ⟨⟨h.connects, h.timers, h.active⟩, h.listening, h.only, h.nodup, h.ended, h.unaborted⟩
      exact hreset.awaitRead .new []
    · exact h.catchError (hleft hopens) _ reactions

theorem TrackedRun.resumeRead (h : s.TrackedRun c) {decoder : TextDecoder} {buffer : List Char}
    {reactions : List Reaction} {r : ReadResult}
    (hleft : isOver (.read decoder buffer (some r)) → s.Left)
    (hreads : ∀ value, r = .chunk value →
      ReadsThrough (deliver json (settledBlocks decoder buffer r)) reactions) :
    (s.resumeRead json c decoder buffer reactions r).Tracked := by
  obtain ⟨hdelivered, hkeep⟩ :=
    h.deliverTo json (settledBlocks decoder buffer r) reactions
  unfold Subscription.resumeRead
  dsimp only
  cases r with
  | failed reason => exact hdelivered.suspend fun _ => hkeep (hleft trivial)
  | done =>
    cases hthrown : (Subscription.deliverTo json (settledBlocks decoder buffer .done) s
        reactions).2.2 with
    | none => exact hdelivered.suspend fun _ => hkeep (hleft trivial)
    | some reason => exact hdelivered.suspend fun _ => hkeep (hleft trivial)
  | chunk value =>
    have hended := deliverTo_readsThrough (s := s) _ (hreads value rfl)
    cases hthrown : (Subscription.deliverTo json (settledBlocks decoder buffer (.chunk value)) s
        reactions).2.2 with
    | none => exact hdelivered.awaitRead _ _
    | some reason =>
      refine hdelivered.suspend fun _ =>
        left_of_nil (hdelivered.ended (hended.resolve_left ?_))
      rw [hthrown]
      exact Option.some_ne_none reason

theorem Tracked.running (h : s.Tracked) (hsingle : s.Single)
    (hlistening : s.listening = false → s.ended = true) {k : Connect} (hk : k ∈ s.connects) :
    TrackedRun { s with connects := s.connects.filter fun k' => k'.controller ≠ k.controller }
      k.controller := by
  refine ⟨hsingle.running hk, hlistening, ?_, h.nodup, h.ended, h.unaborted⟩
  intro c hc
  exact Option.some.inj ((h.only c hc).symm.trans (hsingle.active k hk))

/-- When what a call waits for is over, only a refused response can still be open. -/
theorem Tracked.left (h : s.Tracked) (hsingle : s.Single) {k : Connect}
    (hk : k ∈ s.connects) (hover : isOver k.awaiting) : s.Left := by
  intro c hc
  rcases h.known c hc with hrefused | ⟨k', hk', -, hnot⟩
  · exact hrefused
  · have hone := hsingle.one
    have hpos := List.length_pos_of_mem hk
    obtain ⟨k'', hconnects⟩ := List.length_eq_one_iff.mp (show s.connects.length = 1 by omega)
    rw [hconnects, List.mem_singleton] at hk hk'
    rw [hk'] at hnot
    rw [hk] at hover
    exact absurd hover hnot

theorem Tracked.resume (h : s.Tracked) (hsilent : s.Silent json onError) {k : Connect}
    (hk : k ∈ s.connects) {reactions : List Reaction}
    (hreads : ∀ decoder buffer value, k.awaiting = .read decoder buffer (some (.chunk value)) →
      ReadsThrough (deliver json (settledBlocks decoder buffer (.chunk value))) reactions) :
    (s.resume json onError reactions k).Tracked := by
  have hrunning := h.running hsilent.single hsilent.listening hk
  have hleft := h.left hsilent.single hk
  unfold Subscription.resume
  dsimp only
  split
  · rename_i hawaiting
    rw [hawaiting] at hleft
    exact hrunning.resumeFetch hleft reactions
  · rename_i r hawaiting
    rw [hawaiting] at hleft hreads
    refine hrunning.resumeRead hleft ?_
    rintro value rfl
    exact hreads _ _ value rfl
  · rename_i hawaiting
    rw [hawaiting] at hleft
    exact hrunning.catchError (hleft trivial) _ reactions
  · rename_i hawaiting
    rw [hawaiting] at hleft
    exact hrunning.retry (hleft trivial)
  · exact h
  · exact h

theorem Tracked.closeConnection (h : s.Tracked) (c : Nat) : (s.closeConnection c).Tracked := by
  refine ⟨fun c' hc' => h.only c' (List.mem_of_mem_filter hc'), h.nodup.filter _,
    fun c' hc' => h.known c' (List.mem_of_mem_filter hc'), fun hended => ?_, h.unaborted⟩
  show s.connections.filter _ = []
  rw [h.ended hended, List.filter_nil]

theorem mem_settle {k : Connect} (hk : k ∈ s.connects) (f : Awaiting → Awaiting) :
    ∃ k' ∈ (s.settle c f).connects, k'.controller = k.controller ∧
      k'.awaiting = if k.controller = c then f k.awaiting else k.awaiting := by
  refine ⟨_, List.mem_map_of_mem hk, ?_⟩
  split_ifs <;> exact ⟨rfl, rfl⟩

/-- A promise settles. What the call waits for is over then only if it was before, or its
connection is closed, or the response has been refused. -/
theorem Tracked.settle (h : s.Tracked) {f : Awaiting → Awaiting} {connections refused : List Nat}
    (hsub : connections.Sublist s.connections) (hrefused : s.refused ⊆ refused)
    (hf : c ∈ connections → c ∈ refused ∨ ∀ awaiting, isOver (f awaiting) → isOver awaiting) :
    Tracked { s.settle c f with connections := connections, refused := refused } := by
  refine ⟨fun c' hc' => h.only c' (hsub.subset hc'), h.nodup.sublist hsub, fun c' hc' => ?_,
    fun hended => ?_, h.unaborted⟩
  · rcases h.known c' (hsub.subset hc') with hold | ⟨k, hk, rfl, hnot⟩
    · exact .inl (hrefused hold)
    · obtain ⟨k', hk', hcontroller, hawaiting⟩ := mem_settle (c := c) hk f
      by_cases hkc : k.controller = c
      · rw [if_pos hkc] at hawaiting
        rcases hf (hkc ▸ hc') with hnew | hover
        · exact .inl (hkc ▸ hnew)
        · refine .inr ⟨k', hk', hcontroller, fun hover' => hnot (hover _ ?_)⟩
          rwa [hawaiting] at hover'
      · rw [if_neg hkc] at hawaiting
        exact .inr ⟨k', hk', hcontroller, hawaiting ▸ hnot⟩
  · have hnil : s.connections = [] := h.ended hended
    rw [hnil] at hsub
    exact List.sublist_nil.mp hsub

theorem Tracked.settle_closed (h : s.Tracked) (f : Awaiting → Awaiting) :
    ((s.settle c f).closeConnection c).Tracked := by
  apply h.settle List.filter_sublist (List.Subset.refl s.refused)
  intro hc
  obtain ⟨-, hne⟩ := List.mem_filter.mp hc
  exact absurd rfl (of_decide_eq_true hne)

theorem Tracked.settleFetch (h : s.Tracked) (result : FetchResult) :
    (s.settleFetch c result).Tracked := by
  simp only [Subscription.settleFetch]
  split_ifs with hk hopens hrefused
  · apply h.settle (List.Sublist.refl _) (List.Subset.refl _)
    refine fun _ => .inr fun awaiting hover => ?_
    cases awaiting with
    | fetch settled =>
      cases settled with
      | none => exact absurd hopens hover
      | some result' => exact hover
    | read decoder buffer settled => exact hover
    | consumed thrown => exact hover
  · exact h.settle (List.Sublist.refl _) (List.subset_cons_self c s.refused)
      fun _ => .inl List.mem_cons_self
  · exact h.settle_closed _
  · exact h

theorem Tracked.settleRead (h : s.Tracked) (result : ReadResult) :
    (s.settleRead c result).Tracked := by
  simp only [Subscription.settleRead]
  split_ifs
  · cases result with
    | chunk value =>
      apply h.settle (List.Sublist.refl _) (List.Subset.refl _)
      refine fun _ => .inr fun awaiting hover => ?_
      cases awaiting with
      | fetch settled => exact hover
      | read decoder buffer settled =>
        cases settled with
        | none => exact hover
        | some result' => exact hover
      | consumed thrown => exact hover
    | done => exact h.settle_closed _
    | failed reason => exact h.settle_closed _
  · exact h

theorem tracked_of_ended (hended : s.ended = true) (hnil : s.connections = []) : s.Tracked := by
  refine ⟨?_, ?_, ?_, fun _ => hnil, ?_⟩
  · simp [hnil]
  · simp [hnil]
  · simp [hnil]
  · intro hopen
    exact absurd (hopen.symm.trans hended) Bool.false_ne_true

theorem Tracked.cleanup (h : s.Tracked) : s.cleanup.Tracked :=
  tracked_of_ended (ended_request .cleanup)
    (connections_stop (s := { s with listening := false, cleanedUp := true }) h.only)

theorem Tracked.abort (h : s.Tracked) (hsilent : s.Silent json onError) : s.abort.Tracked := by
  refine tracked_of_ended (ended_request .abort) ?_
  unfold Subscription.abort
  split_ifs with haborted hlistening
  · exact h.ended (by rw [Subscription.ended, haborted, Bool.true_or])
  · exact connections_stop (s := { s with signalAborted := true, listening := false }) h.only
  · exact h.ended (hsilent.listening (by simpa using hlistening))

/-- When a timer fires, no call waits, and what was refused has come to its end. -/
theorem Tracked.fire (h : s.Tracked) (hsilent : s.Silent json onError) {id : Nat}
    (hreads : s.ReadsOn json (.timer id)) : (s.fire id).Tracked := by
  simp only [Subscription.fire]
  split_ifs with hid
  · have hclosed := hreads hid
    obtain ⟨t, ht, -⟩ := hid
    have hone := hsilent.single.one
    have hpos := List.length_pos_iff.mpr (List.ne_nil_of_mem ht)
    have hconnects : s.connects = [] := List.eq_nil_of_length_eq_zero (by omega)
    have hnil : s.connections = [] := by
      apply List.eq_nil_iff_forall_not_mem.mpr
      intro c hc
      rcases h.known c hc with hrefused | ⟨k, hk, -⟩
      · exact hclosed c hrefused hc
      · rw [hconnects] at hk
        exact absurd hk List.not_mem_nil
    refine ⟨?_, ?_, ?_, ?_, h.unaborted⟩
    · simp [connect, emit, hnil]
    · simp [connect, emit, hnil]
    · simp [connect, emit, hnil, hconnects, isOver]
    · intro hended
      rw [(hsilent.ended hended).2.1] at ht
      exact absurd ht List.not_mem_nil
  · exact h

theorem Tracked.step (h : s.Tracked) (hsilent : s.Silent json onError) {i : SubscriptionStep}
    (hi : s.ReadsOn json i) : (s.step json onError i).Tracked := by
  cases i with
  | settleFetch controller result => exact h.settleFetch result
  | settleRead controller result => exact h.settleRead result
  | resume controller reactions =>
    rcases step_resume json onError s controller reactions with hidle | ⟨k, hk, hc, hresume⟩
    · rwa [hidle]
    · rw [hresume]
      exact h.resume hsilent hk (hi k hk hc)
  | timer id => exact h.fire hsilent hi
  | endStream controller =>
    simp only [Subscription.step, Subscription.endStream]
    split_ifs
    · exact h.closeConnection controller
    · exact h
  | cleanup => exact h.cleanup
  | abort => exact h.abort hsilent

theorem tracked_openSSE : (openSSE false : Subscription Value).Tracked := by
  refine ⟨?_, List.nodup_singleton 0, ?_, ?_, fun _ => rfl⟩
  · intro c hc
    obtain rfl := List.mem_singleton.mp hc
    rfl
  · intro c hc
    obtain rfl := List.mem_singleton.mp hc
    exact .inr ⟨_, List.mem_cons_self, rfl, fun hover => hover⟩
  · intro hended
    exact absurd hended.symm Bool.false_ne_true.symm

theorem Tracked.length_le (h : s.Tracked) : s.connections.length ≤ 1 := by
  have hnodup := h.nodup
  have honly := h.only
  generalize s.connections = connections at hnodup honly
  match connections with
  | [] => exact Nat.zero_le 1
  | [c] => exact Nat.le_refl 1
  | c :: c' :: rest =>
    have heq : c = c' := Option.some.inj
      ((honly c List.mem_cons_self).symm.trans
        (honly c' (List.mem_cons_of_mem c List.mem_cons_self)))
    rw [List.nodup_cons, heq] at hnodup
    exact absurd List.mem_cons_self hnodup.1

/-- In every run in which the signal has not been aborted before and no callback is outstanding at
a stop, nothing is fetched or called back after cleanup or abort; at most one attempt or stream
is open besides, unless a stream has been left without a reader: by a chunk that throws, or by a
refused response whose body is still open when the retry timer fires. -/
theorem openSSE_lifecycle (json : JsonCodec Value) (onError : Bool)
    {labels : List SubscriptionStep}
    (hstops :
      Machine.Along (step json onError) (StopsBetween json onError) (openSSE false) labels) :
    let s := Machine.run (step json onError) (openSSE false) labels
    s.connects.length + s.timers.length ≤ 1 ∧ (∀ p ∈ s.log, p.1 = false) ∧
      (Machine.Along (step json onError) (ReadsOn json) (openSSE false) labels →
        s.connections.length ≤ 1) := by
  have hsilent : (Machine.run (step json onError) (openSSE false) labels).Silent json onError :=
    Machine.run_along (P := fun s : Subscription Value => s.Silent json onError)
      (fun _ _ hi h => h.step hi) hstops silent_openSSE
  refine ⟨hsilent.single.one, hsilent.log, ?_⟩
  intro hreads
  have htracked := Machine.run_along
    (P := fun s : Subscription Value => s.Silent json onError ∧ s.Tracked)
    (fun _ _ hi h => ⟨Silent.step h.1 hi.1, Tracked.step h.2 h.1 hi.2⟩) (hstops.and hreads)
    ⟨silent_openSSE, tracked_openSSE⟩
  exact htracked.2.length_le

theorem stopsLast_of_le {n : Nat} (hn : n ≤ 1) (reactions : List Reaction) :
    StopsLast n reactions :=
  fun _ _ _ _ => .inl (by omega)

/-- Whether the chunk that a call of `connect` has to deliver breaks off. -/
def chunkError (json : JsonCodec Value) : Awaiting → Option SSEError
  | .read decoder buffer (some (.chunk value)) =>
    (deliver json (settledBlocks decoder buffer (.chunk value))).error
  | _ => none

theorem readsOn_resume {reactions : List Reaction} (hthrows : ∀ r ∈ reactions, r.throws = none)
    (herror : ∀ k ∈ s.connects, chunkError json k.awaiting = none) :
    s.ReadsOn json (.resume c reactions) := by
  intro k hk _ decoder buffer value hawaiting
  have hnone := herror k hk
  rw [hawaiting] at hnone
  exact .inl ⟨hnone, fun r hr => hthrows r (List.mem_of_mem_take hr)⟩

/-- A refused response that ends, then a stream with one event, whose callback cleans up. -/
def cleanupInCallback : List SubscriptionStep :=
  [.settleFetch 0 (.response 500 true), .resume 0 [], .endStream 0, .timer 1,
    .settleFetch 2 (.response 200 true), .resume 2 [],
    .settleRead 2 (.chunk (API.writeSSE sampleJson false)), .resume 2 [⟨[.cleanup], none⟩],
    .resume 2 [], .resume 2 []]

theorem cleanupInCallback_silent :
    let s := Machine.run (step sampleJson true) (openSSE false) cleanupInCallback
    (s.connects.length + s.timers.length ≤ 1 ∧ (∀ p ∈ s.log, p.1 = false) ∧
      s.connections.length ≤ 1) ∧ s.log = [(false, .onEvent false), (false, .fetch),
        (false, .onError "SSE request failed with status 500"), (false, .fetch)] := by
  have hstops : Machine.Along (step sampleJson true) (StopsBetween sampleJson true)
      (openSSE false) cleanupInCallback := by
    refine ⟨trivial, ?_, trivial, trivial, trivial, ?_, trivial, ?_, ?_, ?_, trivial⟩
    · exact fun k hk _ => stopsLast_of_le (by revert k; decide) _
    · exact fun k hk _ => stopsLast_of_le (by revert k; decide) _
    · exact fun k hk _ => stopsLast_of_le (by revert k; decide) _
    · exact fun k hk _ => stopsLast_of_le (by revert k; decide) _
    · exact fun k hk _ => stopsLast_of_le (by revert k; decide) _
  have hreads : Machine.Along (step sampleJson true) (ReadsOn sampleJson)
      (openSSE false) cleanupInCallback :=
    ⟨trivial, readsOn_resume (by decide) (by decide), trivial, fun _ => by decide, trivial,
      readsOn_resume (by decide) (by decide), trivial, readsOn_resume (by decide) (by decide),
      readsOn_resume (by decide) (by decide), readsOn_resume (by decide) (by decide), trivial⟩
  obtain ⟨hone, hlog, hopen⟩ := openSSE_lifecycle sampleJson true hstops
  exact ⟨⟨hone, hlog, hopen hreads⟩, by decide⟩

/-- Two events in one chunk; the callback of the first cleans up. -/
def cleanupBeforeEvent : List SubscriptionStep :=
  [.settleFetch 0 (.response 200 true), .resume 0 [],
    .settleRead 0 (.chunk (API.writeSSE sampleJson false ++ API.writeSSE sampleJson false)),
    .resume 0 [⟨[.cleanup], none⟩]]

/-- An event that is not JSON; the subscription connects again. -/
def invalidEvent : List SubscriptionStep :=
  [.settleFetch 0 (.response 200 true), .resume 0 [],
    .settleRead 0 (.chunk (Utf8Stream.encode "data: x\n\n".toList)), .resume 0 [],
    .resume 0 [], .timer 1]

/-- A response that is refused while its body goes on; the subscription connects again. -/
def refusedBody : List SubscriptionStep :=
  [.settleFetch 0 (.response 500 true), .resume 0 [], .timer 1,
    .settleFetch 2 (.response 200 true), .resume 2 []]

theorem callback_after_stop_or_two_streams :
    (openSSE true : Subscription Bool).log = [(true, .fetch)] ∧
      (Machine.run (step sampleJson true) (openSSE false) cleanupBeforeEvent).log =
        [(true, .onEvent false), (false, .onEvent false), (false, .fetch)] ∧
      (Machine.run (step sampleJson true) (openSSE false) invalidEvent).connections = [2, 0] ∧
      (Machine.run (step sampleJson true) (openSSE false) refusedBody).connections = [2, 0] := by
  decide

end Boxui.UI.Subscription
