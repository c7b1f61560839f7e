import Boxui.Core.TrafficBytes

/-! The table of the traffic tracker under opening, closing and removing, and what `Total` and
`Connections` tell of a run. -/
namespace Boxui.Core

/-- What of a connection decides whether it is listed. -/
structure ConnTag where
  id : Int
  phase : RoutedPhase
  closeCalled : Bool

def TrafficConnInternal.tag (tc : TrafficConnInternal) : ConnTag :=
  ⟨tc.id, tc.phase, tc.closeCalled⟩

namespace TrafficTracker

def tag (t : TrafficTracker) (c : Nat) : Option ConnTag :=
  t.conns[c]?.map TrafficConnInternal.tag

/-- A connection has been in the table under this id. -/
def Stored (t : TrafficTracker) (id : Int) (c : Nat) : Prop :=
  ∃ g, t.tag c = some g ∧ g.id = id ∧ g.phase ≠ .allocated

/-- A `CloseAllConns` in flight has read this entry and not handed it over yet. -/
def Loaded (t : TrafficTracker) (id : Int) (c : Nat) : Prop :=
  ∃ call, .closeAllConns call ∈ t.calls ∧ (id, c) ∈ call.loaded

/-- The table against what the connections have been through. That a connection which is neither
closed nor taken is still in the table needs its id to be its own. -/
structure Tabled (t : TrafficTracker) : Prop where
  nextID : t.nextID = int64 t.conns.length
  ids : ∀ c g, t.tag c = some g → g.id = int64 (c + 1)
  entries : ∀ id c, t.table.lookup id = some c → t.Stored id c
  live : ∀ id c, t.table.lookup id = some c → ∀ g, t.tag c = some g →
    g.closeCalled = false ∧ c ∉ t.taken
  loaded : ∀ id c, t.Loaded id c → t.Stored id c
  taken : ∀ c ∈ t.taken, ∃ id, t.Stored id c
  closed : ∀ c g, t.tag c = some g → g.closeCalled = true → g.phase = .attached
  listed : t.conns.length ≤ 2 ^ 64 → ∀ c g, t.tag c = some g → g.phase ≠ .allocated →
    g.closeCalled = false → c ∉ t.taken → t.table.lookup g.id = some c

variable {t t' : TrafficTracker}

theorem lt_of_tag {c : Nat} {g : ConnTag} (h : t.tag c = some g) : c < t.conns.length := by
  obtain ⟨tc, htc, -⟩ := Option.map_eq_some_iff.mp h
  exact (List.getElem?_eq_some_iff.mp htc).1

theorem tag_modify_self {f : TrafficConnInternal → TrafficConnInternal}
    (hf : ∀ tc, (f tc).tag = tc.tag) (c : Nat) : (t.modify c f).tag = t.tag := by
  funext c'
  have hmap := congrArg (fun l => l[c']?) (map_modify (t := t) hf c)
  rw [tag, tag]
  simpa only [List.getElem?_map] using hmap

theorem lookup_of_erase {table : AList fun _ : Int => Nat} {id id' : Int} {c : Nat}
    (h : (table.erase id).lookup id' = some c) : id' ≠ id ∧ table.lookup id' = some c := by
  by_cases hid : id' = id
  · rw [hid, AList.lookup_erase] at h
    exact absurd h.symm (Option.some_ne_none c)
  · rw [AList.lookup_erase_ne hid] at h
    exact ⟨hid, h⟩

theorem Stored.unique {id id' : Int} {c : Nat} (h : t.Stored id c) (h' : t.Stored id' c) :
    id = id' := by
  obtain ⟨g, hg, rfl, -⟩ := h
  obtain ⟨g', hg', rfl, -⟩ := h'
  rw [Option.some.inj (hg.symm.trans hg')]

/-- No two connections have the same id, up to the size of the id space. -/
theorem Tabled.ids_injective (h : t.Tabled) (hlength : t.conns.length ≤ 2 ^ 64) {c c' : Nat}
    {g g' : ConnTag} (hg : t.tag c = some g) (hg' : t.tag c' = some g') (hid : g.id = g'.id) :
    c = c' := by
  rw [h.ids c g hg, h.ids c' g' hg'] at hid
  exact int64_inj ((lt_of_tag hg).trans_le hlength) ((lt_of_tag hg').trans_le hlength) hid

theorem Tabled.congr (h : t.Tabled) (htag : t'.tag = t.tag) (hnext : t'.nextID = t.nextID)
    (hlength : t'.conns.length = t.conns.length) (htable : t'.table = t.table)
    (htaken : t'.taken = t.taken) (hloaded : ∀ id c, t'.Loaded id c → t.Stored id c) :
    t'.Tabled := by
  have hstored (id : Int) (c : Nat) : t'.Stored id c ↔ t.Stored id c := by
    rw [Stored, Stored, htag]
  refine ⟨?_, ?_, ?_, ?_, ?_, ?_, ?_, ?_⟩
  · rw [hnext, hlength]
    exact h.nextID
  · rw [htag]
    exact h.ids
  · simp only [hstored, htable]
    exact h.entries
  · rw [htag, htable, htaken]
    exact h.live
  · simp only [hstored]
    exact hloaded
  · simp only [hstored, htaken]
    exact h.taken
  · rw [htag]
    exact h.closed
  · rw [htag, htable, htaken, hlength]
    exact h.listed

/-- Deleting the entry of a connection by its id, for `CloseConn` or `CloseAllConns`. -/
theorem Tabled.take (h : t.Tabled) {id : Int} {c : Nat} (hc : t.Stored id c)
    (htag : t'.tag = t.tag) (hnext : t'.nextID = t.nextID)
    (hlength : t'.conns.length = t.conns.length) (htable : t'.table = t.table.erase id)
    (htaken : t'.taken = c :: t.taken) (hloaded : ∀ id c, t'.Loaded id c → t.Loaded id c) :
    t'.Tabled := by
  have hstored (id : Int) (c : Nat) : t'.Stored id c ↔ t.Stored id c := by
    rw [Stored, Stored, htag]
  have hlookup {id' : Int} {c' : Nat} (hlook : t'.table.lookup id' = some c') :
      id' ≠ id ∧ t.table.lookup id' = some c' := by
    rw [htable] at hlook
    exact lookup_of_erase hlook
  refine ⟨?_, ?_, ?_, ?_, ?_, ?_, ?_, ?_⟩
  · rw [hnext, hlength]
    exact h.nextID
  · rw [htag]
    exact h.ids
  · intro id' c' hlook
    rw [hstored]
    exact h.entries id' c' (hlookup hlook).2
  · intro id' c' hlook g hg
    rw [htag] at hg
    obtain ⟨hid, hlook⟩ := hlookup hlook
    obtain ⟨hclose, hfresh⟩ := h.live id' c' hlook g hg
    refine ⟨hclose, ?_⟩
    rw [htaken, List.mem_cons, not_or]
    refine ⟨?_, hfresh⟩
    rintro rfl
    exact hid ((h.entries id' c' hlook).unique hc)
  · intro id' c' hl
    rw [hstored]
    exact h.loaded id' c' (hloaded id' c' hl)
  · intro c' hc'
    simp only [hstored]
    rw [htaken] at hc'
    rcases List.mem_cons.mp hc' with rfl | hc'
    · exact ⟨id, hc⟩
    · exact h.taken c' hc'
  · rw [htag]
    exact h.closed
  · intro hsmall c' g hg hphase hclose hfresh
    rw [htag] at hg
    rw [hlength] at hsmall
    rw [htaken, List.mem_cons, not_or] at hfresh
    obtain ⟨g₀, hg₀, rfl, -⟩ := hc
    have hid : g.id ≠ g₀.id := fun hid => hfresh.1 (h.ids_injective hsmall hg hg₀ hid)
    rw [htable, AList.lookup_erase_ne hid]
    exact h.listed hsmall c' g hg hphase hclose hfresh.2

theorem tag_routedConnection (metadata : InboundMetadata) (c : Nat) :
    (t.routedConnection metadata).tag c =
      if c = t.conns.length then some ⟨int64 (t.nextID + 1), .allocated, false⟩ else t.tag c := by
  simp only [tag, routedConnection, List.getElem?_append, List.getElem?_singleton]
  split_ifs with hlt heq hsub heq
  · omega
  · rfl
  · rfl
  · omega
  · omega
  · rw [List.getElem?_eq_none (Nat.le_of_not_lt hlt), Option.map_none]

theorem Tabled.routedConnection (h : t.Tabled) (metadata : InboundMetadata) :
    (t.routedConnection metadata).Tabled := by
  have hlength : (t.routedConnection metadata).conns.length = t.conns.length + 1 := by
    simp [TrafficTracker.routedConnection]
  -- connections of before keep their tag
  have htag {c : Nat} (hlt : c < t.conns.length) :
      (t.routedConnection metadata).tag c = t.tag c := by
    rw [tag_routedConnection, if_neg hlt.ne]
  have hnew {c : Nat} {g : ConnTag} (hg : (t.routedConnection metadata).tag c = some g)
      (hphase : g.phase ≠ .allocated) : t.tag c = some g := by
    rw [tag_routedConnection] at hg
    split_ifs at hg
    · obtain rfl := Option.some.inj hg
      exact absurd rfl hphase
    · exact hg
  have hstored {id : Int} {c : Nat} (hc : t.Stored id c) :
      (t.routedConnection metadata).Stored id c := by
    obtain ⟨g, hg, hid, hphase⟩ := hc
    exact ⟨g, (htag (lt_of_tag hg)).trans hg, hid, hphase⟩
  refine ⟨?_, ?_, ?_, ?_, ?_, ?_, ?_, ?_⟩
  · rw [hlength, Nat.cast_add_one, ← int64_int64_add, ← h.nextID]
    rfl
  · intro c g hg
    rw [tag_routedConnection] at hg
    split_ifs at hg with hc
    · obtain rfl := Option.some.inj hg
      rw [hc, ← int64_int64_add t.conns.length, ← h.nextID]
    · exact h.ids c g hg
  · intro id c hlook
    exact hstored (h.entries id c hlook)
  · intro id c hlook g hg
    obtain ⟨g', hg', -⟩ := h.entries id c hlook
    exact h.live id c hlook g ((htag (lt_of_tag hg')).symm.trans hg)
  · intro id c hl
    exact hstored (h.loaded id c hl)
  · intro c hc
    obtain ⟨id, hid⟩ := h.taken c hc
    exact ⟨id, hstored hid⟩
  · intro c g hg hclose
    rw [tag_routedConnection] at hg
    split_ifs at hg
    · obtain rfl := Option.some.inj hg
      exact absurd hclose Bool.false_ne_true
    · exact h.closed c g hg hclose
  · intro hsmall c g hg hphase hclose hfresh
    rw [hlength] at hsmall
    exact h.listed (by omega) c g (hnew hg hphase) hphase hclose hfresh

theorem tag_eq_some {c : Nat} {tc : TrafficConnInternal} (htc : t.conns[c]? = some tc) :
    t.tag c = some tc.tag := by
  rw [tag, htc, Option.map_some]

/-- A connection goes on to another tag under its id: nothing changes for the others, and it is
in the table afterwards exactly when its new tag says so. -/
theorem Tabled.retag (h : t.Tabled) {c : Nat} {g g' : ConnTag} (hg : t.tag c = some g)
    (htag : ∀ c', t'.tag c' = if c = c' then some g' else t.tag c') (hid : g'.id = g.id)
    (hphase : g.phase ≠ .allocated → g'.phase ≠ .allocated)
    (hclosed : g'.closeCalled = true → g'.phase = .attached)
    (hnext : t'.nextID = t.nextID) (hlength : t'.conns.length = t.conns.length)
    (htaken : t'.taken = t.taken) (hloaded : ∀ id c, t'.Loaded id c → t.Loaded id c)
    (hsub : ∀ id c', t'.table.lookup id = some c' → c ≠ c' → t.table.lookup id = some c')
    (hkept : ∀ id c', id ≠ g.id → t.table.lookup id = some c' → t'.table.lookup id = some c')
    (hself : ∀ id, t'.table.lookup id = some c →
      id = g.id ∧ g'.phase ≠ .allocated ∧ g'.closeCalled = false ∧ c ∉ t.taken)
    (hin : t.conns.length ≤ 2 ^ 64 → g'.phase ≠ .allocated → g'.closeCalled = false →
      c ∉ t.taken → t'.table.lookup g.id = some c) : t'.Tabled := by
  have hnow : t'.tag c = some g' := by
    rw [htag, if_pos rfl]
  have hother {c' : Nat} (hne : c ≠ c') : t'.tag c' = t.tag c' := by
    rw [htag, if_neg hne]
  have hstored {id : Int} {c' : Nat} (hc' : t.Stored id c') : t'.Stored id c' := by
    obtain ⟨g₀, hg₀, rfl, hphase₀⟩ := hc'
    by_cases hcc : c = c'
    · subst hcc
      obtain rfl := Option.some.inj (hg.symm.trans hg₀)
      exact ⟨g', hnow, hid, hphase hphase₀⟩
    · exact ⟨g₀, (hother hcc).trans hg₀, rfl, hphase₀⟩
  refine ⟨?_, ?_, ?_, ?_, ?_, ?_, ?_, ?_⟩
  · rw [hnext, hlength]
    exact h.nextID
  · intro c' g₀ hg₀
    by_cases hcc : c = c'
    · subst hcc
      obtain rfl := Option.some.inj (hnow.symm.trans hg₀)
      exact hid.trans (h.ids c g hg)
    · exact h.ids c' g₀ ((hother hcc).symm.trans hg₀)
  · intro id c' hlook
    by_cases hcc : c = c'
    · subst hcc
      obtain ⟨rfl, hphase', -⟩ := hself id hlook
      exact ⟨g', hnow, hid, hphase'⟩
    · exact hstored (h.entries id c' (hsub id c' hlook hcc))
  · intro id c' hlook g₀ hg₀
    rw [htaken]
    by_cases hcc : c = c'
    · subst hcc
      obtain rfl := Option.some.inj (hnow.symm.trans hg₀)
      exact (hself id hlook).2.2
    · exact h.live id c' (hsub id c' hlook hcc) g₀ ((hother hcc).symm.trans hg₀)
  · intro id c' hl
    exact hstored (h.loaded id c' (hloaded id c' hl))
  · intro c' hc'
    rw [htaken] at hc'
    obtain ⟨id, hc'⟩ := h.taken c' hc'
    exact ⟨id, hstored hc'⟩
  · intro c' g₀ hg₀ hclose
    by_cases hcc : c = c'
    · subst hcc
      obtain rfl := Option.some.inj (hnow.symm.trans hg₀)
      exact hclosed hclose
    · exact h.closed c' g₀ ((hother hcc).symm.trans hg₀) hclose
  · intro hsmall c' g₀ hg₀ hphase₀ hclose hfresh
    rw [hlength] at hsmall
    rw [htaken] at hfresh
    by_cases hcc : c = c'
    · subst hcc
      obtain rfl := Option.some.inj (hnow.symm.trans hg₀)
      rw [hid]
      exact hin hsmall hphase₀ hclose hfresh
    · rw [hother hcc] at hg₀
      have hne : g₀.id ≠ g.id := fun heq => hcc (h.ids_injective hsmall hg hg₀ heq.symm)
      exact hkept g₀.id c' hne (h.listed hsmall c' g₀ hg₀ hphase₀ hclose hfresh)

theorem tag_modify_eq {f : TrafficConnInternal → TrafficConnInternal} {c : Nat}
    {tc : TrafficConnInternal} (htc : t.conns[c]? = some tc) (c' : Nat) :
    (t.modify c f).tag c' = if c = c' then some (f tc).tag else t.tag c' := by
  simp only [tag, modify, List.getElem?_modify, Option.map_eq_map, Option.map_map]
  split_ifs with hcc
  · subst hcc
    rw [htc, Option.map_some]
    rfl
  · congr 1

/-- `Store`: the connection has not been in the table before. -/
theorem Tabled.store (h : t.Tabled) {c : Nat} {g g' : ConnTag} (hg : t.tag c = some g)
    (hphase : g.phase = .allocated) (hg' : g' = { g with phase := .stored })
    (htag : ∀ c', t'.tag c' = if c = c' then some g' else t.tag c')
    (hnext : t'.nextID = t.nextID) (hlength : t'.conns.length = t.conns.length)
    (htable : t'.table = t.table.insert g.id c) (htaken : t'.taken = t.taken)
    (hcalls : t'.calls = t.calls) : t'.Tabled := by
  have hnew {id : Int} : ¬t.Stored id c := by
    rintro ⟨g₀, hg₀, -, hphase₀⟩
    obtain rfl := Option.some.inj (hg.symm.trans hg₀)
    exact hphase₀ hphase
  have hfresh : c ∉ t.taken := by
    intro hc
    obtain ⟨id, hid⟩ := h.taken c hc
    exact hnew hid
  have hopen : g.closeCalled = false := by
    by_contra hclose
    have hattached := h.closed c g hg (by simpa using hclose)
    rw [hphase] at hattached
    exact RoutedPhase.noConfusion hattached
  have hlookup {id : Int} {c' : Nat} (hlook : t'.table.lookup id = some c') :
      (id = g.id ∧ c = c') ∨ t.table.lookup id = some c' := by
    rw [htable] at hlook
    by_cases hid : id = g.id
    · rw [hid, AList.lookup_insert] at hlook
      exact .inl ⟨hid, Option.some.inj hlook⟩
    · rw [AList.lookup_insert_ne hid] at hlook
      exact .inr hlook
  subst hg'
  refine h.retag hg htag rfl (fun _ => RoutedPhase.noConfusion) ?_ hnext hlength htaken ?_ ?_ ?_
    ?_ ?_
  · intro hclose
    exact absurd (hopen.symm.trans hclose) Bool.false_ne_true
  · intro id c' hl
    rwa [Loaded, hcalls] at hl
  · intro id c' hlook hcc
    exact (hlookup hlook).resolve_left fun hself => hcc hself.2
  · intro id c' hid hlook
    rw [htable, AList.lookup_insert_ne hid]
    exact hlook
  · intro id hlook
    rcases hlookup hlook with ⟨hid, -⟩ | hlook
    · exact ⟨hid, RoutedPhase.noConfusion, hopen, hfresh⟩
    · exact absurd (h.entries id c hlook) hnew
  · intro _ _ _ _
    rw [htable, AList.lookup_insert]

/-- `tc.wrap` gives an entry of the table its connection. -/
theorem Tabled.attach (h : t.Tabled) {c : Nat} {g g' : ConnTag} (hg : t.tag c = some g)
    (hphase : g.phase = .stored) (hg' : g' = { g with phase := .attached })
    (htag : ∀ c', t'.tag c' = if c = c' then some g' else t.tag c')
    (hnext : t'.nextID = t.nextID) (hlength : t'.conns.length = t.conns.length)
    (htable : t'.table = t.table) (htaken : t'.taken = t.taken)
    (hcalls : t'.calls = t.calls) : t'.Tabled := by
  subst hg'
  refine h.retag hg htag rfl (fun _ => RoutedPhase.noConfusion) (fun _ => rfl) hnext hlength
    htaken ?_ ?_ ?_ ?_ ?_
  · intro id c' hl
    rwa [Loaded, hcalls] at hl
  · intro id c' hlook _
    rwa [htable] at hlook
  · intro id c' _ hlook
    rwa [htable]
  · intro id hlook
    rw [htable] at hlook
    obtain ⟨g₀, hg₀, rfl, -⟩ := h.entries id c hlook
    obtain rfl := Option.some.inj (hg.symm.trans hg₀)
    exact ⟨rfl, RoutedPhase.noConfusion, h.live _ c hlook g hg⟩
  · intro hsmall _ hclose hfresh
    rw [htable]
    exact h.listed hsmall c g hg (by rw [hphase]; exact RoutedPhase.noConfusion) hclose hfresh

/-- `onClose` of a wrapped connection deletes its id. -/
theorem Tabled.delete (h : t.Tabled) {c : Nat} {g g' : ConnTag} (hg : t.tag c = some g)
    (hphase : g.phase = .attached) (hg' : g' = { g with closeCalled := true })
    (htag : ∀ c', t'.tag c' = if c = c' then some g' else t.tag c')
    (hnext : t'.nextID = t.nextID) (hlength : t'.conns.length = t.conns.length)
    (htable : t'.table = t.table.erase g.id) (htaken : t'.taken = t.taken)
    (hloaded : ∀ id c, t'.Loaded id c → t.Loaded id c) : t'.Tabled := by
  have hlookup {id : Int} {c' : Nat} (hlook : t'.table.lookup id = some c') :
      id ≠ g.id ∧ t.table.lookup id = some c' := by
    rw [htable] at hlook
    exact lookup_of_erase hlook
  subst hg'
  refine h.retag hg htag rfl (fun hg => hg) (fun _ => hphase) hnext hlength htaken hloaded ?_ ?_
    ?_ ?_
  · intro id c' hlook _
    exact (hlookup hlook).2
  · intro id c' hid hlook
    rw [htable, AList.lookup_erase_ne hid]
    exact hlook
  · intro id hlook
    obtain ⟨hid, hlook⟩ := hlookup hlook
    obtain ⟨g₀, hg₀, rfl, -⟩ := h.entries id c hlook
    obtain rfl := Option.some.inj (hg.symm.trans hg₀)
    exact absurd rfl hid
  · intro _ _ hclose
    exact absurd hclose.symm Bool.false_ne_true

theorem Loaded.of_replace {call : TrafficCall} {next : List TrafficCall} {id : Int} {c : Nat}
    (h : (t.replace call next).Loaded id c)
    (hnext : ∀ call', .closeAllConns call' ∈ next → (id, c) ∈ call'.loaded → t.Loaded id c) :
    t.Loaded id c := by
  obtain ⟨call', hcall', hmem⟩ := h
  rcases mem_replace hcall' with hcall' | hcall'
  · exact hnext call' hcall' hmem
  · exact ⟨call', hcall', hmem⟩

theorem Loaded.of_cons {call : TrafficCall} {id : Int} {c : Nat}
    (h : t'.Loaded id c) (hcalls : t'.calls = call :: t.calls)
    (hcall : ∀ call', call = .closeAllConns call' → call'.loaded = []) : t.Loaded id c := by
  obtain ⟨call', hcall', hmem⟩ := h
  rw [hcalls] at hcall'
  rcases List.mem_cons.mp hcall' with heq | hcall'
  · rw [hcall call' heq.symm] at hmem
    exact absurd hmem List.not_mem_nil
  · exact ⟨call', hcall', hmem⟩

/-- A step of a call in flight that leaves the table alone. -/
theorem Tabled.of_replace (h : t.Tabled) {call : TrafficCall} {next : List TrafficCall}
    (htag : t'.tag = t.tag) (hnext : t'.nextID = t.nextID)
    (hlength : t'.conns.length = t.conns.length) (htable : t'.table = t.table)
    (htaken : t'.taken = t.taken) (hcalls : t'.calls = (t.replace call next).calls)
    (hloaded : ∀ call', .closeAllConns call' ∈ next → ∀ id c, (id, c) ∈ call'.loaded →
      t.Loaded id c) : t'.Tabled := by
  refine h.congr htag hnext hlength htable htaken ?_
  rintro id c ⟨call', hcall', hmem⟩
  rw [hcalls] at hcall'
  exact h.loaded id c (Loaded.of_replace ⟨call', hcall', hmem⟩
    fun call' hnext hmem => hloaded call' hnext id c hmem)

theorem Tabled.change {i : TrafficStep} (h : t.Tabled) (hi : t.Change i t') : t'.Tabled := by
  cases hi with
  | idle => exact h
  | routedConnection metadata => exact h.routedConnection metadata
  | store htc hphase =>
    exact h.store (tag_eq_some htc) hphase rfl (tag_modify_eq htc) rfl (length_modify _ _) rfl rfl
      rfl
  | attach htc hphase =>
    exact h.attach (tag_eq_some htc) hphase rfl (tag_modify_eq htc) rfl (length_modify _ _) rfl rfl
      rfl
  | transfer htc dir n =>
    refine h.congr (tag_modify_self (by intro; rfl) _) rfl (length_modify _ _) rfl rfl ?_
    intro id c hl
    exact h.loaded id c (hl.of_cons rfl (by simp))
  | close htc hphase =>
    exact h.delete (tag_eq_some htc) hphase rfl (tag_modify_eq htc) rfl (length_modify _ _) rfl rfl
      fun id c hl => hl.of_cons rfl (by simp)
  | closeConn hlook =>
    exact h.take (h.entries _ _ hlook) rfl rfl rfl rfl rfl fun id c hl => hl.of_cons rfl (by simp)
  | closeAllConns =>
    refine h.congr rfl rfl rfl rfl rfl fun id c hl => h.loaded id c (hl.of_cons rfl ?_)
    rintro call heq
    rw [← TrafficCall.closeAllConns.inj heq]
  | @load call key c hcall hlook =>
    refine h.congr rfl rfl rfl rfl rfl ?_
    rintro id c' ⟨call', hcall', hmem⟩
    rcases mem_replace hcall' with hnext | hold
    · obtain rfl := TrafficCall.closeAllConns.inj (List.mem_singleton.mp hnext)
      rcases List.mem_cons.mp hmem with heq | hmem
      · obtain ⟨rfl, rfl⟩ := Prod.mk.inj heq
        exact h.entries _ _ hlook
      · exact h.loaded id c' ⟨call, hcall, hmem⟩
    · exact h.loaded id c' ⟨call', hold, hmem⟩
  | count | closeUnderlying | connClose =>
    exact h.of_replace (tag_modify_self (by intro; rfl) _) rfl (length_modify _ _) rfl rfl rfl
      (by simp)
  | total | connCheck | connDone | allDone => exact h.of_replace rfl rfl rfl rfl rfl rfl (by simp)
  | @allDelete call key c loaded hcall hstage hloaded =>
    have hstored : t.Stored key c :=
      h.loaded key c ⟨call, hcall, hloaded ▸ List.mem_cons_self⟩
    refine h.take hstored rfl rfl rfl rfl rfl fun id c' hl => Loaded.of_replace hl ?_
    intro call' hnext hmem
    obtain rfl := TrafficCall.closeAllConns.inj (List.mem_singleton.mp hnext)
    exact ⟨call, hcall, hloaded ▸ List.mem_cons_of_mem _ hmem⟩
  | @allCheck call c hcall =>
    refine h.of_replace rfl rfl rfl rfl rfl rfl ?_
    intro call' hnext id c' hmem
    obtain rfl := TrafficCall.closeAllConns.inj (List.mem_singleton.mp hnext)
    refine ⟨call, hcall, ?_⟩
    split_ifs at hmem <;> exact hmem
  | @allClose call c hcall =>
    refine h.of_replace (tag_modify_self (by intro; rfl) _) rfl (length_modify _ _) rfl rfl rfl ?_
    intro call' hnext id c' hmem
    obtain rfl := TrafficCall.closeAllConns.inj (List.mem_singleton.mp hnext)
    exact ⟨call, hcall, hmem⟩

theorem tabled_newTrafficTracker : newTrafficTracker.Tabled := by
  refine ⟨by decide, ?_, ?_, ?_, ?_, ?_, ?_, ?_⟩
  · intro c g hg
    simp [newTrafficTracker, tag] at hg
  · intro id c hlook
    simp [newTrafficTracker] at hlook
  · intro id c hlook
    simp [newTrafficTracker] at hlook
  · rintro id c ⟨call, hcall, -⟩
    exact absurd hcall List.not_mem_nil
  · intro c hc
    exact absurd hc List.not_mem_nil
  · intro c g hg
    simp [newTrafficTracker, tag] at hg
  · intro _ c g hg
    simp [newTrafficTracker, tag] at hg

/-- What `Total` and `Connections` tell when no call is in flight: `order` are the connections
listed, in the order of the table. Counters and totals are exact up to the wrap-around of an
`int64`. -/
structure Conserved (t : TrafficTracker) (order : List Nat) : Prop where
  total : ∀ dir, t.total dir = int64 (t.moved dir)
  exact_total : ∀ dir, t.moved dir < 2 ^ 63 → t.total dir = t.moved dir
  listed : ∀ c ∈ order, ∃ tc, t.conns[c]? = some tc ∧ ∀ dir,
    tc.counter dir = int64 (tc.bytes dir) ∧
      (tc.bytes dir < 2 ^ 63 → tc.counter dir = tc.bytes dir)
  connections : t.connections.map some = order.map fun c =>
    t.conns[c]?.map TrafficConnInternal.listed
  order_nodup : order.Nodup
  ids_nodup : (t.connections.map TrafficConn.id).Nodup
  unclosed : t.conns.length ≤ 2 ^ 64 → ∀ c tc, t.conns[c]? = some tc →
    (c ∈ order ↔ tc.closeCalled = false ∧ c ∉ t.taken)
  all_ids : t.conns.length ≤ 2 ^ 64 → (t.conns.map TrafficConnInternal.id).Nodup

/-- The connections that the table holds, in its order. -/
def order (t : TrafficTracker) : List Nat := t.table.entries.map fun e => e.2

theorem mem_order {c : Nat} : c ∈ t.order ↔ ∃ id, t.table.lookup id = some c := by
  simp only [order, List.mem_map, ← Option.mem_def, AList.mem_lookup_iff]
  constructor
  · rintro ⟨⟨id, c⟩, he, rfl⟩
    exact ⟨id, he⟩
  · rintro ⟨id, he⟩
    exact ⟨_, he, rfl⟩

theorem connections_eq (t : TrafficTracker) :
    t.connections = t.order.filterMap fun c => t.conns[c]?.map TrafficConnInternal.listed := by
  rw [connections, order, List.filterMap_map]
  rfl

/-- An entry of the table is listed. -/
theorem Tabled.listed_of_mem (h : t.Tabled) {c : Nat} (hc : c ∈ t.order) :
    ∃ tc, t.conns[c]? = some tc ∧ t.table.lookup tc.id = some c := by
  obtain ⟨id, hlook⟩ := mem_order.mp hc
  obtain ⟨g, hg, rfl, -⟩ := h.entries id c hlook
  obtain ⟨tc, htc, rfl⟩ := Option.map_eq_some_iff.mp hg
  exact ⟨tc, htc, hlook⟩

theorem Tabled.order_nodup (h : t.Tabled) : t.order.Nodup := by
  have hkeys : (t.table.entries.map Sigma.fst).Nodup := t.table.keys_nodup
  have hentries : t.table.entries.Nodup := hkeys.of_map
  refine hentries.map_on ?_
  rintro ⟨id, c⟩ he ⟨id', c'⟩ he' heq
  obtain rfl : c = c' := heq
  have hid := (h.entries id c (AList.mem_lookup_iff.mpr he)).unique
    (h.entries id' c (AList.mem_lookup_iff.mpr he'))
  rw [hid]

theorem Tabled.connections_map (h : t.Tabled) :
    t.connections.map some =
      t.order.map fun c => t.conns[c]?.map TrafficConnInternal.listed := by
  have hall (order : List Nat) (horder : ∀ c ∈ order, ∃ tc, t.conns[c]? = some tc) :
      (order.filterMap fun c => t.conns[c]?.map TrafficConnInternal.listed).map some =
        order.map fun c => t.conns[c]?.map TrafficConnInternal.listed := by
    induction order with
    | nil => rfl
    | cons c order ih =>
      obtain ⟨tc, htc⟩ := horder c List.mem_cons_self
      have ih := ih fun c hc => horder c (List.mem_cons_of_mem _ hc)
      rw [List.filterMap_cons_some (by rw [htc]; rfl), List.map_cons, List.map_cons, ih, htc]
      rfl
  rw [connections_eq]
  apply hall
  intro c hc
  obtain ⟨tc, htc, -⟩ := h.listed_of_mem hc
  exact ⟨tc, htc⟩

theorem Tabled.ids_nodup (h : t.Tabled) : (t.connections.map TrafficConn.id).Nodup := by
  have hmap := congrArg (List.map (Option.map TrafficConn.id)) h.connections_map
  rw [List.map_map, List.map_map] at hmap
  have hsome : ((t.connections.map TrafficConn.id).map some).Nodup := by
    rw [List.map_map]
    refine hmap ▸ h.order_nodup.map_on ?_
    intro c hc c' hc' heq
    obtain ⟨tc, htc, hlook⟩ := h.listed_of_mem hc
    obtain ⟨tc', htc', hlook'⟩ := h.listed_of_mem hc'
    simp only [Function.comp_apply, htc, htc', Option.map_some] at heq
    have hid : tc.id = tc'.id := Option.some.inj heq
    rw [hid] at hlook
    exact Option.some.inj (hlook.symm.trans hlook')
  exact hsome.of_map

theorem Tabled.all_ids (h : t.Tabled) (hlength : t.conns.length ≤ 2 ^ 64) :
    (t.conns.map TrafficConnInternal.id).Nodup := by
  rw [List.nodup_iff_getElem?_ne_getElem?]
  intro i j hij hj heq
  rw [List.length_map] at hj
  have hi := hij.trans hj
  simp only [List.getElem?_map, List.getElem?_eq_getElem hi, List.getElem?_eq_getElem hj,
    Option.map_some] at heq
  exact hij.ne (h.ids_injective hlength (tag_eq_some (List.getElem?_eq_getElem hi))
    (tag_eq_some (List.getElem?_eq_getElem hj)) (Option.some.inj heq))

/-- At every moment of every interleaving at which no call is in flight, totals and counters are
the bytes moved, ids are unique and the connections listed are those opened and neither closed
nor removed. -/
theorem traffic_conserved (labels : List TrafficStep)
    (hquiet : (Machine.run step newTrafficTracker labels).Quiet) :
    ∃ order, (Machine.run step newTrafficTracker labels).Conserved order := by
  have haccounted := Machine.run_invariant (P := Accounted)
    (fun t i h => h.change (t.change_step i)) accounted_newTrafficTracker labels
  have htabled := Machine.run_invariant (P := Tabled)
    (fun t i h => h.change (t.change_step i)) tabled_newTrafficTracker labels
  generalize Machine.run step newTrafficTracker labels = t at *
  obtain ⟨hcalls, hattached⟩ := hquiet
  have htotal (dir : Direction) : t.total dir = int64 (t.moved dir) := by
    rw [haccounted.total dir, owedTotal, hcalls]
    simp
  have hown {c : Nat} {tc : TrafficConnInternal} (htc : t.conns[c]? = some tc)
      (dir : Direction) : tc.counter dir = int64 (tc.bytes dir) := by
    rw [haccounted.own c tc htc dir, owed, hcalls]
    simp
  have hexact {n : Nat} (hn : n < 2 ^ 63) : int64 n = n :=
    int64_of_lt (by omega) (by exact_mod_cast hn)
  refine ⟨t.order, ⟨htotal, ?_, ?_, htabled.connections_map, htabled.order_nodup,
    htabled.ids_nodup, ?_, htabled.all_ids⟩⟩
  · intro dir hlt
    rw [htotal dir, hexact hlt]
  · intro c hc
    obtain ⟨tc, htc, -⟩ := htabled.listed_of_mem hc
    refine ⟨tc, htc, fun dir => ⟨hown htc dir, ?_⟩⟩
    intro hlt
    rw [hown htc dir, hexact hlt]
  · intro hlength c tc htc
    have hg := tag_eq_some htc
    constructor
    · intro hc
      obtain ⟨id, hlook⟩ := mem_order.mp hc
      exact htabled.live id c hlook _ hg
    · rintro ⟨hclose, hfresh⟩
      have hphase : tc.tag.phase ≠ .allocated := by
        rw [show tc.tag.phase = .attached from hattached tc (List.mem_of_getElem? htc)]
        exact RoutedPhase.noConfusion
      exact mem_order.mpr ⟨_, htabled.listed hlength c _ hg hphase hclose hfresh⟩

instance (t : TrafficTracker) : Decidable t.Quiet :=
  inferInstanceAs (Decidable (_ ∧ _))

def sampleInbound : InboundMetadata := ⟨"example.com", "192.0.2.1", "proxy", 0⟩

/-- One connection is opened, moves bytes both ways and stays; another is removed by its id. -/
def keepOneRemoveOne : List TrafficStep :=
  [.routedConnection sampleInbound, .routedConnection sampleInbound, .routed 1, .routed 0,
    .routed 0, .transfer 0 .upload 5, .routed 1, .transfer 1 .upload 7,
    .go (.count 1 .upload 7), .closeConn 2, .transfer 0 .download 3, .go (.count 0 .upload 5),
    .go (.total .upload 5), .go (.count 0 .download 3), .go (.closeConn 1 .check),
    .go (.total .download 3), .go (.total .upload 7), .go (.closeConn 1 .close),
    .go (.closeConn 1 .done)]

theorem keepOneRemoveOne_conserved :
    (∃ order, (Machine.run step newTrafficTracker keepOneRemoveOne).Conserved order) ∧
      (Machine.run step newTrafficTracker keepOneRemoveOne).total .upload = 12 ∧
      (Machine.run step newTrafficTracker keepOneRemoveOne).connections =
        [⟨1, "example.com", "proxy", 5, 3, 0⟩] :=
  ⟨traffic_conserved keepOneRemoveOne (by decide), by decide, by decide⟩

/-- Two writes of `2 ^ 62` bytes on one connection. -/
def wrappingWrites : List TrafficStep :=
  [.routedConnection sampleInbound, .routed 0, .routed 0, .transfer 0 .upload (2 ^ 62),
    .go (.count 0 .upload (2 ^ 62)), .go (.total .upload (2 ^ 62)),
    .transfer 0 .upload (2 ^ 62), .go (.count 0 .upload (2 ^ 62)),
    .go (.total .upload (2 ^ 62))]

theorem wrappingWrites_total :
    (Machine.run step newTrafficTracker wrappingWrites).Quiet ∧
      (Machine.run step newTrafficTracker wrappingWrites).moved .upload = 2 ^ 63 ∧
      (Machine.run step newTrafficTracker wrappingWrites).total .upload = -2 ^ 63 := by
  decide

end TrafficTracker

end Boxui.Core
