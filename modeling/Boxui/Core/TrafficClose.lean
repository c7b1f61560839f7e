import Boxui.Core.TrafficTable

/-! What `CloseConn` and `CloseAllConns` report as closed, against what has been closed. -/
namespace Boxui.Core

namespace TrafficCall

/-- The connections that a call in flight has deleted from the table and will report. -/
def held : TrafficCall → List Nat
  | .closeConn c _ => [c]
  | .closeAllConns call =>
    match call.stage with
    | .range => call.counted
    | .check c | .close c => c :: call.counted
  | _ => []

/-- Those among them that the call is through with. -/
def finished : TrafficCall → List Nat
  | .closeConn c .done => [c]
  | .closeAllConns call => call.counted
  | _ => []

end TrafficCall

namespace TrafficTracker

def Closed (t : TrafficTracker) (c : Nat) : Prop :=
  ∃ tc, t.conns[c]? = some tc ∧ tc.underlyingClosed = true

instance (t : TrafficTracker) (c : Nat) : Decidable (t.Closed c) :=
  decidable_of_iff (∃ tc ∈ t.conns[c]?, tc.underlyingClosed = true) (by simp [Closed])

/-- A connection taken out of the table is reported once for every time it was taken, now or when
the call that took it returns. -/
def Ledgered (t : TrafficTracker) : Prop :=
  ∀ c, t.taken.count c = t.reported.count c + (t.calls.map fun call => call.held.count c).sum

/-- The check of `tc.conn` comes after `tc.wrap`, and between the load and the delete of an entry
by `CloseAllConns` no other call takes its connection. -/
def Undisturbed (t : TrafficTracker) : TrafficStep → Prop
  | .go (.closeConn c .check) => t.Attached c
  | .go (.closeAllConns call) =>
    match call.stage with
    | .range => ∀ e ∈ call.loaded.head?, e.2 ∉ t.taken
    | .check c => t.Attached c
    | .close _ => True
  | _ => True

variable {t t' : TrafficTracker}

theorem Ledgered.replace (h : t.Ledgered) (added reported : List Nat) {call : TrafficCall}
    {next : List TrafficCall} (hcall : call ∈ t.calls)
    (hcalls : t'.calls = (t.replace call next).calls) (htaken : t'.taken = added ++ t.taken)
    (hreported : t'.reported = reported ++ t.reported)
    (hheld : ∀ c, (next.map fun call => call.held.count c).sum + reported.count c =
      call.held.count c + added.count c) : t'.Ledgered := by
  intro c
  have hsum := sum_replace (fun call => call.held.count c) hcall next
  have hcount := h c
  have hheld := hheld c
  rw [hcalls, htaken, hreported, List.count_append, List.count_append]
  omega

theorem Ledgered.cons (h : t.Ledgered) (added : List Nat) {call : TrafficCall}
    (hcalls : t'.calls = call :: t.calls) (htaken : t'.taken = added ++ t.taken)
    (hreported : t'.reported = t.reported)
    (hheld : ∀ c, call.held.count c = added.count c) : t'.Ledgered := by
  intro c
  have hcount := h c
  have hheld := hheld c
  rw [hcalls, htaken, hreported, List.count_append, List.map_cons, List.sum_cons]
  omega

theorem Ledgered.change {i : TrafficStep} (h : t.Ledgered) (hi : t.Change i t') :
    t'.Ledgered := by
  cases hi with
  | idle => exact h
  | routedConnection => exact h
  | store => exact h
  | attach => exact h
  | transfer => exact h.cons [] rfl rfl rfl fun _ => rfl
  | close => exact h.cons [] rfl rfl rfl fun _ => rfl
  | @closeConn id c hlook => exact h.cons [c] rfl rfl rfl fun _ => rfl
  | closeAllConns => exact h.cons [] rfl rfl rfl fun _ => rfl
  | load hcall =>
    refine h.replace [] [] hcall rfl rfl rfl fun c => ?_
    simp [TrafficCall.held]
  | count hcall | total hcall | closeUnderlying hcall | connCheck hcall | connClose hcall =>
    exact h.replace [] [] hcall rfl rfl rfl fun _ => rfl
  | @connDone c hcall =>
    refine h.replace [] [c] hcall rfl rfl rfl fun c' => ?_
    simp [TrafficCall.held]
  | @allDelete call key c loaded hcall hstage hloaded =>
    refine h.replace [c] [] hcall rfl rfl rfl fun c' => ?_
    simp [TrafficCall.held, hstage, List.count_cons]
  | @allDone call hcall hstage =>
    refine h.replace [] call.counted hcall rfl rfl rfl fun c' => ?_
    simp [TrafficCall.held, hstage]
  | allCheck hcall hstage =>
    refine h.replace [] [] hcall rfl rfl rfl fun c' => ?_
    split_ifs <;> simp [TrafficCall.held, hstage]
  | allClose hcall hstage =>
    refine h.replace [] [] hcall rfl rfl rfl fun c' => ?_
    simp [TrafficCall.held, hstage]

theorem ledgered_newTrafficTracker : newTrafficTracker.Ledgered := by
  intro c
  rfl

theorem Closed.modify {c : Nat} (h : t.Closed c) (c' : Nat)
    {f : TrafficConnInternal → TrafficConnInternal}
    (hf : ∀ tc, tc.underlyingClosed = true → (f tc).underlyingClosed = true) :
    (t.modify c' f).Closed c := by
  obtain ⟨tc, htc, hclosed⟩ := h
  refine ⟨if c' = c then f tc else tc, ?_, ?_⟩
  · simp [TrafficTracker.modify, List.getElem?_modify, htc]
  · split_ifs
    · exact hf tc hclosed
    · exact hclosed

theorem closed_closeUnderlying {c : Nat} {g : ConnTag} (hg : t.tag c = some g) :
    (t.closeUnderlying c).Closed c := by
  obtain ⟨tc, htc, -⟩ := Option.map_eq_some_iff.mp hg
  refine ⟨{ tc with underlyingClosed := true }, ?_, rfl⟩
  simp [closeUnderlying, modify, htc]

theorem Closed.closeUnderlying {c : Nat} (h : t.Closed c) (c' : Nat) :
    (t.closeUnderlying c').Closed c :=
  h.modify c' fun _ _ => rfl

/-- What is closed stays closed. -/
theorem Closed.change {c : Nat} {i : TrafficStep} (h : t.Closed c) (hi : t.Change i t') :
    t'.Closed c := by
  cases hi with
  | routedConnection metadata =>
    obtain ⟨tc, htc, hclosed⟩ := h
    refine ⟨tc, ?_, hclosed⟩
    rw [routedConnection, List.getElem?_append_left (List.getElem?_eq_some_iff.mp htc).1]
    exact htc
  | store | attach | transfer | close | count => exact h.modify _ fun _ hclosed => hclosed
  | closeUnderlying | connClose | allClose => exact h.closeUnderlying _
  | _ => exact h

/-- Nothing is taken twice, and what a call reports or is through with has been closed. -/
structure CloseSound (t : TrafficTracker) : Prop where
  tabled : t.Tabled
  ledgered : t.Ledgered
  taken : t.taken.Nodup
  reported : ∀ c ∈ t.reported, t.Closed c
  finished : ∀ call ∈ t.calls, ∀ c ∈ call.finished, t.Closed c

/-- A connection that a call in flight will report has been opened. -/
theorem CloseSound.tag_of_held (h : t.CloseSound) {call : TrafficCall} (hcall : call ∈ t.calls)
    {c : Nat} (hc : c ∈ call.held) : ∃ g, t.tag c = some g := by
  have hpos : 0 < call.held.count c := List.count_pos_iff.mpr hc
  have hsum := sum_replace (fun call => call.held.count c) hcall []
  have hcount := h.ledgered c
  rw [List.map_nil, List.sum_nil, zero_add] at hsum
  have htaken : c ∈ t.taken := List.count_pos_iff.mp (by omega)
  obtain ⟨id, g, hg, -⟩ := h.tabled.taken c htaken
  exact ⟨g, hg⟩

theorem CloseSound.not_mem_taken (h : t.CloseSound) {id : Int} {c : Nat}
    (hlook : t.table.lookup id = some c) : c ∉ t.taken := by
  obtain ⟨g, hg, -⟩ := h.tabled.entries id c hlook
  exact (h.tabled.live id c hlook g hg).2

theorem CloseSound.taken_change {i : TrafficStep} (h : t.CloseSound) (hdisturb : t.Undisturbed i)
    (hi : t.Change i t') : t'.taken.Nodup := by
  cases hi with
  | closeConn hlook => exact List.nodup_cons.mpr ⟨h.not_mem_taken hlook, h.taken⟩
  | @allDelete call key c loaded hcall hstage hloaded =>
    simp only [Undisturbed, hstage, hloaded] at hdisturb
    exact List.nodup_cons.mpr ⟨hdisturb (key, c) rfl, h.taken⟩
  | _ => exact h.taken

/-- What is finished or reported has been closed. -/
def Kept (t : TrafficTracker) : Prop :=
  (∀ c ∈ t.reported, t.Closed c) ∧ ∀ call ∈ t.calls, ∀ c ∈ call.finished, t.Closed c

theorem CloseSound.kept_replace (h : t.CloseSound) {call : TrafficCall} (next : List TrafficCall)
    (reported : List Nat) (hclosed : ∀ c, t.Closed c → t'.Closed c)
    (hcalls : t'.calls = (t.replace call next).calls)
    (hreported : t'.reported = reported ++ t.reported)
    (hnext : ∀ call' ∈ next, ∀ c ∈ call'.finished, t'.Closed c)
    (hnew : ∀ c ∈ reported, t'.Closed c) : t'.Kept := by
  constructor
  · intro c hc
    rw [hreported] at hc
    rcases List.mem_append.mp hc with hc | hc
    · exact hnew c hc
    · exact hclosed c (h.reported c hc)
  · intro call' hcall' c hc
    rw [hcalls] at hcall'
    rcases mem_replace hcall' with hcall' | hcall'
    · exact hnext call' hcall' c hc
    · exact hclosed c (h.finished call' hcall' c hc)

/-- A call begins; it is through with no connection yet. -/
theorem CloseSound.kept_cons (h : t.CloseSound) {call : TrafficCall}
    (hclosed : ∀ c, t.Closed c → t'.Closed c) (hcalls : t'.calls = call :: t.calls)
    (hreported : t'.reported = t.reported) (hcall : call.finished = []) : t'.Kept := by
  constructor
  · intro c hc
    rw [hreported] at hc
    exact hclosed c (h.reported c hc)
  · intro call' hcall' c hc
    rw [hcalls] at hcall'
    rcases List.mem_cons.mp hcall' with rfl | hcall'
    · rw [hcall] at hc
      exact absurd hc List.not_mem_nil
    · exact hclosed c (h.finished call' hcall' c hc)

/-- One connection more is through. -/
theorem CloseSound.kept_counted (h : t.CloseSound) {call : CloseAllConns} {c : Nat}
    (hcall : .closeAllConns call ∈ t.calls) (hclosed : ∀ c, t.Closed c → t'.Closed c)
    (hc : t'.Closed c) {stage : RangeStage}
    (hcalls : t'.calls = (t.replace (.closeAllConns call)
      [.closeAllConns { call with stage := stage, counted := c :: call.counted }]).calls)
    (hreported : t'.reported = t.reported) : t'.Kept := by
  refine h.kept_replace _ [] hclosed hcalls hreported ?_ (fun _ hc => absurd hc List.not_mem_nil)
  intro call' hcall' c' hc'
  obtain rfl := List.mem_singleton.mp hcall'
  rcases List.mem_cons.mp hc' with rfl | hc'
  · exact hc
  · exact hclosed c' (h.finished _ hcall c' hc')

/-- Every connection that a step finishes or reports has been closed. -/
theorem CloseSound.kept_change {i : TrafficStep} (h : t.CloseSound) (hdisturb : t.Undisturbed i)
    (hi : t.Change i t') : t'.Kept := by
  have hclosed : ∀ c, t.Closed c → t'.Closed c := fun _ hc => hc.change hi
  have hnone : ∀ c ∈ ([] : List Nat), t'.Closed c := fun _ hc => absurd hc List.not_mem_nil
  have hlast : ∀ call ∈ ([] : List TrafficCall), ∀ c ∈ call.finished, t'.Closed c :=
    fun _ hcall => absurd hcall List.not_mem_nil
  -- the call goes on and is through with what it was through with
  have hkeep {call next : TrafficCall} (hcall : call ∈ t.calls)
      (hsub : ∀ c ∈ next.finished, c ∈ call.finished) :
      ∀ call' ∈ [next], ∀ c ∈ call'.finished, t'.Closed c := by
    intro call' hcall' c hc
    obtain rfl := List.mem_singleton.mp hcall'
    exact hclosed c (h.finished call hcall c (hsub c hc))
  cases hi with
  | idle => exact ⟨h.reported, h.finished⟩
  | routedConnection | store | attach =>
    exact ⟨fun c hc => hclosed c (h.reported c hc),
      fun call hcall c hc => hclosed c (h.finished call hcall c hc)⟩
  | transfer | close | closeConn | closeAllConns => exact h.kept_cons hclosed rfl rfl rfl
  | load hcall =>
    exact h.kept_replace _ [] hclosed rfl rfl (hkeep hcall fun _ hc => hc) hnone
  | count hcall =>
    exact h.kept_replace _ [] hclosed rfl rfl (hkeep hcall fun _ hc => hc) hnone
  | total | closeUnderlying => exact h.kept_replace [] [] hclosed rfl rfl hlast hnone
  | @connCheck c hcall =>
    have hattached : t.Attached c := hdisturb
    refine h.kept_replace _ [] hclosed rfl rfl ?_ hnone
    simp [TrafficCall.finished, hattached]
  | @connClose c hcall =>
    obtain ⟨g, hg⟩ := h.tag_of_held hcall List.mem_cons_self
    refine h.kept_replace _ [] hclosed rfl rfl ?_ hnone
    intro call' hcall' c' hc'
    obtain rfl := List.mem_singleton.mp hcall'
    obtain rfl := List.mem_singleton.mp hc'
    exact closed_closeUnderlying hg
  | @connDone c hcall =>
    exact h.kept_replace [] [c] hclosed rfl rfl hlast fun c' hc' =>
      hclosed c' (h.finished _ hcall c' hc')
  | allDelete hcall =>
    exact h.kept_replace _ [] hclosed rfl rfl (hkeep hcall fun _ hc => hc) hnone
  | @allDone call hcall =>
    exact h.kept_replace [] call.counted hclosed rfl rfl hlast (h.finished _ hcall)
  | @allCheck call c hcall hstage =>
    have hattached : t.Attached c := by simpa only [Undisturbed, hstage] using hdisturb
    simp only [if_pos hattached] at hclosed hnone hkeep ⊢
    exact h.kept_replace _ [] hclosed rfl rfl (hkeep hcall fun _ hc => hc) hnone
  | @allClose call c hcall hstage =>
    have hheld : c ∈ (TrafficCall.closeAllConns call).held := by
      simp [TrafficCall.held, hstage]
    obtain ⟨g, hg⟩ := h.tag_of_held hcall hheld
    exact h.kept_counted hcall hclosed (closed_closeUnderlying hg) rfl rfl

theorem CloseSound.change {i : TrafficStep} (h : t.CloseSound) (hdisturb : t.Undisturbed i)
    (hi : t.Change i t') : t'.CloseSound :=
  have hkept := h.kept_change hdisturb hi
  ⟨h.tabled.change hi, h.ledgered.change hi, h.taken_change hdisturb hi, hkept.1, hkept.2⟩

theorem closeSound_newTrafficTracker : newTrafficTracker.CloseSound :=
  ⟨tabled_newTrafficTracker, ledgered_newTrafficTracker, List.nodup_nil,
    fun _ hc => absurd hc List.not_mem_nil, fun _ hcall => absurd hcall List.not_mem_nil⟩

/-- In every interleaving in which connections are attached before they are checked and no other
call takes a connection between its load and its delete, whatever `CloseConn` or `CloseAllConns`
have reported has been closed and has been reported once. -/
theorem reported_closed_once {labels : List TrafficStep}
    (hundisturbed : Machine.Along step Undisturbed newTrafficTracker labels) :
    (∀ c ∈ (Machine.run step newTrafficTracker labels).reported,
        (Machine.run step newTrafficTracker labels).Closed c) ∧
      (Machine.run step newTrafficTracker labels).reported.Nodup := by
  have h : (Machine.run step newTrafficTracker labels).CloseSound :=
    Machine.run_along (fun t i hi h => h.change hi (t.change_step i)) hundisturbed
      closeSound_newTrafficTracker
  refine ⟨h.reported, ?_⟩
  rw [List.nodup_iff_count_le_one]
  intro c
  have hcount := h.ledgered c
  have htaken := List.nodup_iff_count_le_one.mp h.taken c
  omega

/-- A `CloseAllConns` on a table with one connection of id 1, by what it does next. -/
def closeAllOf (loaded counted : List Nat) (visited : List Int) (stage : RangeStage) :
    CloseAllConns :=
  ⟨[(1, 0)], visited, loaded.map fun c => (1, c), counted, stage⟩

/-- `CloseConn` closes one connection, `CloseAllConns` the other. -/
def closeOneThenAll : List TrafficStep :=
  [.routedConnection sampleInbound, .routed 0, .routedConnection sampleInbound, .routed 1,
    .routed 0, .routed 1, .closeConn 2, .go (.closeConn 1 .check), .closeAllConns,
    .go (.closeConn 1 .close), .load (closeAllOf [] [] [] .range) 1, .go (.closeConn 1 .done),
    .go (.closeAllConns (closeAllOf [0] [] [1] .range)),
    .go (.closeAllConns (closeAllOf [] [] [1] (.check 0))),
    .go (.closeAllConns (closeAllOf [] [] [1] (.close 0))),
    .go (.closeAllConns (closeAllOf [] [0] [1] .range))]

theorem closeOneThenAll_closed_once :
    ((∀ c ∈ (Machine.run step newTrafficTracker closeOneThenAll).reported,
        (Machine.run step newTrafficTracker closeOneThenAll).Closed c) ∧
      (Machine.run step newTrafficTracker closeOneThenAll).reported.Nodup) ∧
      (Machine.run step newTrafficTracker closeOneThenAll).reported = [0, 1] := by
  have hundisturbed : Machine.Along step Undisturbed newTrafficTracker closeOneThenAll := by
    refine ⟨trivial, trivial, trivial, trivial, trivial, trivial, trivial, ?_, trivial, trivial,
      trivial, trivial, ?_, ?_, trivial, ?_, trivial⟩
    · show Attached _ 1
      decide
    · show ∀ e ∈ [((1 : Int), 0)].head?, e.2 ∉ _
      decide
    · show Attached _ 0
      decide
    · show ∀ e ∈ ([] : List (Int × Nat)).head?, e.2 ∉ _
      simp
  exact ⟨reported_closed_once hundisturbed, by decide⟩

/-- `CloseConn` finds the entry before `tc.wrap` has attached the connection. -/
def closeBeforeAttach : List TrafficStep :=
  [.routedConnection sampleInbound, .routed 0, .closeConn 1, .go (.closeConn 0 .check),
    .go (.closeConn 0 .done), .routed 0]

/-- `CloseConn` takes the connection between the load and the delete of `CloseAllConns`. -/
def closeWhileRanging : List TrafficStep :=
  [.routedConnection sampleInbound, .routed 0, .routed 0, .closeAllConns,
    .load (closeAllOf [] [] [] .range) 1, .closeConn 1, .go (.closeConn 0 .check),
    .go (.closeConn 0 .close), .go (.closeConn 0 .done),
    .go (.closeAllConns (closeAllOf [0] [] [1] .range)),
    .go (.closeAllConns (closeAllOf [] [] [1] (.check 0))),
    .go (.closeAllConns (closeAllOf [] [] [1] (.close 0))),
    .go (.closeAllConns (closeAllOf [] [0] [1] .range))]

theorem closeConn_reports_open_or_twice :
    ((Machine.run step newTrafficTracker closeBeforeAttach).reported = [0] ∧
      ¬(Machine.run step newTrafficTracker closeBeforeAttach).Closed 0) ∧
      (Machine.run step newTrafficTracker closeWhileRanging).reported = [0, 0] := by
  decide

end TrafficTracker

end Boxui.Core
