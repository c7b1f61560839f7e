import Boxui.Core.TrafficTracker

/-! What the counters of the traffic tracker hold in the middle of reads and writes: the bytes that
the connections have moved, less what the calls in flight have yet to add. -/
namespace Boxui.Core

namespace TrafficCall

/-- The bytes that a call in flight has yet to add to the counter of a connection. -/
def owes (c : Nat) (dir : Direction) : TrafficCall → Int
  | .count c' dir' n => if c' = c ∧ dir' = dir then n else 0
  | _ => 0

/-- The bytes that a call in flight has yet to add to a total. -/
def owesTotal (dir : Direction) : TrafficCall → Int
  | .count _ dir' n | .total dir' n => if dir' = dir then n else 0
  | _ => 0

/-- The call moves no bytes. -/
def Closes : TrafficCall → Prop
  | .count _ _ _ | .total _ _ => False
  | _ => True

theorem Closes.owes_eq {call : TrafficCall} (h : call.Closes) (c : Nat) (dir : Direction) :
    call.owes c dir = 0 := by
  cases call with
  | count => exact h.elim
  | _ => rfl

theorem Closes.owesTotal_eq {call : TrafficCall} (h : call.Closes) (dir : Direction) :
    call.owesTotal dir = 0 := by
  cases call with
  | count => exact h.elim
  | total => exact h.elim
  | _ => rfl

end TrafficCall

namespace TrafficTracker

def owed (t : TrafficTracker) (c : Nat) (dir : Direction) : Int :=
  (t.calls.map (TrafficCall.owes c dir)).sum

def owedTotal (t : TrafficTracker) (dir : Direction) : Int :=
  (t.calls.map (TrafficCall.owesTotal dir)).sum

/-- The bytes that all connections have moved. -/
def moved (t : TrafficTracker) (dir : Direction) : Nat :=
  (t.conns.map fun tc => tc.bytes dir).sum

/-- Every counter and total lags behind the bytes moved by what the calls in flight owe it. -/
structure Accounted (t : TrafficTracker) : Prop where
  own : ∀ c tc, t.conns[c]? = some tc → ∀ dir,
    tc.counter dir = int64 (tc.bytes dir - t.owed c dir)
  total : ∀ dir, t.total dir = int64 (t.moved dir - t.owedTotal dir)
  known : ∀ c dir n, .count c dir n ∈ t.calls → c < t.conns.length

variable {t : TrafficTracker}

/-- The step moves no bytes and counts none. -/
structure SameBytes (t t' : TrafficTracker) : Prop where
  numbers : t'.conns.map (fun tc => (tc.counter, tc.bytes)) =
    t.conns.map (fun tc => (tc.counter, tc.bytes))
  total : t'.total = t.total
  owed : t'.owed = t.owed
  owedTotal : t'.owedTotal = t.owedTotal
  known : ∀ c dir n, .count c dir n ∈ t'.calls → .count c dir n ∈ t.calls

theorem Accounted.congr {t' : TrafficTracker} (h : t.Accounted) (hsame : t.SameBytes t') :
    t'.Accounted := by
  obtain ⟨hnumbers, htotal, howed, howedTotal, hknown⟩ := hsame
  have hmoved (dir : Direction) : t'.moved dir = t.moved dir := by
    have hbytes := congrArg (List.map fun e => e.2 dir) hnumbers
    rw [List.map_map, List.map_map] at hbytes
    exact congrArg List.sum hbytes
  have hlength : t'.conns.length = t.conns.length := by
    simpa only [List.length_map] using congrArg List.length hnumbers
  refine ⟨?_, ?_, ?_⟩
  · intro c tc' htc' dir
    have hc := congrArg (fun l => l[c]?) hnumbers
    simp only [List.getElem?_map, htc', Option.map_some] at hc
    obtain ⟨tc, htc, heq⟩ := Option.map_eq_some_iff.mp hc.symm
    obtain ⟨hcounter, hbytes⟩ := Prod.mk.inj heq
    rw [← hcounter, ← hbytes, howed]
    exact h.own c tc htc dir
  · intro dir
    rw [htotal, hmoved, howedTotal]
    exact h.total dir
  · intro c dir n hcall
    rw [hlength]
    exact h.known c dir n (hknown c dir n hcall)

theorem sum_eq_zero_of_closes {next : List TrafficCall} (hnext : ∀ call ∈ next, call.Closes) :
    (∀ c dir, (next.map (TrafficCall.owes c dir)).sum = 0) ∧
      ∀ dir, (next.map (TrafficCall.owesTotal dir)).sum = 0 := by
  constructor
  · intro c dir
    apply List.sum_eq_zero
    intro n hn
    obtain ⟨call, hcall, rfl⟩ := List.mem_map.mp hn
    exact (hnext call hcall).owes_eq c dir
  · intro dir
    apply List.sum_eq_zero
    intro n hn
    obtain ⟨call, hcall, rfl⟩ := List.mem_map.mp hn
    exact (hnext call hcall).owesTotal_eq dir

/-- A call that moves no bytes goes on, and nothing happens to counters and totals. -/
theorem sameBytes_replace {t' : TrafficTracker} {call : TrafficCall} {next : List TrafficCall}
    (hcall : call ∈ t.calls) (hcloses : call.Closes) (hnext : ∀ call' ∈ next, call'.Closes)
    (hcalls : t'.calls = (t.replace call next).calls) (htotal : t'.total = t.total)
    (hnumbers : t'.conns.map (fun tc => (tc.counter, tc.bytes)) =
      t.conns.map (fun tc => (tc.counter, tc.bytes))) : t.SameBytes t' := by
  obtain ⟨howes, howesTotal⟩ := sum_eq_zero_of_closes hnext
  refine ⟨hnumbers, htotal, ?_, ?_, ?_⟩
  · funext c dir
    have hsum := sum_replace (TrafficCall.owes c dir) hcall next
    rw [hcloses.owes_eq, howes, zero_add, zero_add] at hsum
    rw [owed, hcalls, hsum, owed]
  · funext dir
    have hsum := sum_replace (TrafficCall.owesTotal dir) hcall next
    rw [hcloses.owesTotal_eq, howesTotal, zero_add, zero_add] at hsum
    rw [owedTotal, hcalls, hsum, owedTotal]
  · intro c dir n hmem
    rw [hcalls] at hmem
    exact (mem_replace hmem).resolve_left fun h => hnext _ h

/-- A call that moves no bytes begins. -/
theorem sameBytes_cons {t' : TrafficTracker} {call : TrafficCall} (hcloses : call.Closes)
    (hcalls : t'.calls = call :: t.calls) (htotal : t'.total = t.total)
    (hnumbers : t'.conns.map (fun tc => (tc.counter, tc.bytes)) =
      t.conns.map (fun tc => (tc.counter, tc.bytes))) : t.SameBytes t' := by
  refine ⟨hnumbers, htotal, ?_, ?_, ?_⟩
  · funext c dir
    rw [owed, hcalls, List.map_cons, List.sum_cons, hcloses.owes_eq, zero_add, owed]
  · funext dir
    rw [owedTotal, hcalls, List.map_cons, List.sum_cons, hcloses.owesTotal_eq, zero_add,
      owedTotal]
  · intro c dir n hmem
    rw [hcalls] at hmem
    rcases List.mem_cons.mp hmem with rfl | hmem
    · exact hcloses.elim
    · exact hmem

theorem sameBytes_of_calls {t' : TrafficTracker} (hcalls : t'.calls = t.calls)
    (htotal : t'.total = t.total)
    (hnumbers : t'.conns.map (fun tc => (tc.counter, tc.bytes)) =
      t.conns.map (fun tc => (tc.counter, tc.bytes))) : t.SameBytes t' := by
  refine ⟨hnumbers, htotal, ?_, ?_, ?_⟩
  · funext c dir
    rw [owed, hcalls, owed]
  · funext dir
    rw [owedTotal, hcalls, owedTotal]
  · intro c dir n hmem
    rwa [hcalls] at hmem

theorem Accounted.routedConnection (h : t.Accounted) (metadata : InboundMetadata) :
    (t.routedConnection metadata).Accounted := by
  refine ⟨?_, ?_, ?_⟩
  · intro c tc htc dir
    rw [TrafficTracker.routedConnection, List.getElem?_append] at htc
    split_ifs at htc with hc
    · exact h.own c tc htc dir
    -- the new connection has moved nothing, and no call in flight is about it
    · rw [List.getElem?_singleton] at htc
      split_ifs at htc
      obtain rfl := Option.some.inj htc
      have howed : t.owed c dir = 0 := by
        apply List.sum_eq_zero
        intro n hn
        obtain ⟨call, hcall, rfl⟩ := List.mem_map.mp hn
        cases call with
        | count c' dir' n' =>
          have hne : c' ≠ c := by
            have := h.known c' dir' n' hcall
            omega
          simp [TrafficCall.owes, hne]
        | _ => rfl
      show (0 : Int) = int64 (0 - t.owed c dir)
      rw [howed]
      rfl
  · intro dir
    have hmoved : (t.routedConnection metadata).moved dir = t.moved dir := by
      simp [moved, TrafficTracker.routedConnection, TrafficConnInternal.new]
    rw [hmoved]
    exact h.total dir
  · intro c dir n hcall
    have := h.known c dir n hcall
    simp only [TrafficTracker.routedConnection, List.length_append, List.length_singleton]
    omega

/-- Bytes moved are owed to both counters until they are added. -/
theorem Accounted.transfer (h : t.Accounted) {c : Nat} {tc : TrafficConnInternal}
    (htc : t.conns[c]? = some tc) (dir : Direction) (n : Nat) :
    Accounted { t.modify c (.move dir n) with calls := .count c dir n :: t.calls } := by
  have hlt : c < t.conns.length := (List.getElem?_eq_some_iff.mp htc).1
  refine ⟨?_, ?_, ?_⟩
  · intro c' tc' htc' dir'
    obtain ⟨tc₀, htc₀, rfl⟩ := of_getElem?_modify htc'
    have hown := h.own c' tc₀ htc₀ dir'
    rw [owed, List.map_cons, List.sum_cons]
    show _ = int64 (_ - (_ + t.owed c' dir'))
    by_cases hcc : c = c'
    · subst hcc
      simp only [if_true, TrafficConnInternal.counter_move, TrafficConnInternal.bytes_move,
        TrafficCall.owes, true_and, hown]
      congr 1
      split_ifs <;> omega
    · simp [hcc, TrafficCall.owes, hown]
  · intro dir'
    have hmoved := sum_modify (fun tc => tc.bytes dir') htc (.move dir n)
    rw [TrafficConnInternal.bytes_move] at hmoved
    rw [owedTotal, List.map_cons, List.sum_cons]
    show t.total dir' = int64 (((t.modify c (.move dir n)).moved dir' : Nat) -
      (_ + t.owedTotal dir'))
    rw [h.total dir']
    have : (t.modify c (.move dir n)).moved dir' =
      t.moved dir' + if dir = dir' then n else 0 := by
      simp only [moved]
      omega
    rw [this, TrafficCall.owesTotal]
    congr 1
    split_ifs <;> omega
  · intro c' dir' n' hcall
    rw [show ∀ calls, ({ t.modify c (.move dir n) with calls := calls } :
      TrafficTracker).conns.length = t.conns.length from fun _ => length_modify c _]
    rcases List.mem_cons.mp hcall with heq | hcall
    · obtain ⟨rfl, -, -⟩ := TrafficCall.count.inj heq
      exact hlt
    · exact h.known c' dir' n' hcall

theorem Accounted.count (h : t.Accounted) {c : Nat} {dir : Direction} {n : Nat}
    (hcall : .count c dir n ∈ t.calls) : (t.go (.count c dir n)).Accounted := by
  have howed (c' : Nat) (dir' : Direction) :=
    sum_replace (TrafficCall.owes c' dir') hcall [.total dir n]
  have howedTotal (dir' : Direction) :=
    sum_replace (TrafficCall.owesTotal dir') hcall [.total dir n]
  simp only [List.map_cons, List.map_nil, List.sum_cons, List.sum_nil,
    add_zero] at howed howedTotal
  refine ⟨?_, ?_, ?_⟩
  · intro c' tc' htc' dir'
    obtain ⟨tc, htc, rfl⟩ := of_getElem?_modify htc'
    have hown := h.own c' tc htc dir'
    have howed := howed c' dir'
    change _ + (t.go (.count c dir n)).owed c' dir' = _ + t.owed c' dir' at howed
    by_cases hcc : c = c'
    · subst hcc
      simp only [TrafficCall.owes, true_and, zero_add] at howed
      simp only [if_true, TrafficConnInternal.counter_add, TrafficConnInternal.bytes_add]
      split_ifs at howed ⊢
      · rw [hown, int64_int64_add]
        congr 1
        omega
      · rw [hown]
        congr 1
        omega
    · simp only [TrafficCall.owes, hcc, false_and, if_false, zero_add] at howed
      rw [if_neg hcc, hown, howed]
  · intro dir'
    have howedTotal := howedTotal dir'
    change _ + (t.go (.count c dir n)).owedTotal dir' = _ + t.owedTotal dir' at howedTotal
    have hmoved : (t.go (.count c dir n)).moved dir' = t.moved dir' :=
      congrArg List.sum (map_modify (by intro; rfl) c)
    rw [hmoved, add_left_cancel howedTotal]
    exact h.total dir'
  · intro c' dir' n' hcall'
    rw [show (t.go (.count c dir n)).conns.length = t.conns.length from length_modify c _]
    rcases mem_replace hcall' with hnext | hmem
    · simp at hnext
    · exact h.known c' dir' n' hmem

theorem Accounted.total_go (h : t.Accounted) {dir : Direction} {n : Nat}
    (hcall : .total dir n ∈ t.calls) : (t.go (.total dir n)).Accounted := by
  have howed (c' : Nat) (dir' : Direction) :=
    sum_replace (TrafficCall.owes c' dir') hcall []
  have howedTotal (dir' : Direction) := sum_replace (TrafficCall.owesTotal dir') hcall []
  refine ⟨?_, ?_, ?_⟩
  · intro c' tc' htc' dir'
    have howed := howed c' dir'
    change 0 + (t.go (.total dir n)).owed c' dir' = 0 + t.owed c' dir' at howed
    rw [add_left_cancel howed]
    exact h.own c' tc' htc' dir'
  · intro dir'
    have howedTotal := howedTotal dir'
    change _ + (t.go (.total dir n)).owedTotal dir' = 0 + t.owedTotal dir' at howedTotal
    change Function.update t.total dir (int64 (t.total dir + n)) dir' =
      int64 (t.moved dir' - (t.go (.total dir n)).owedTotal dir')
    rw [Function.update_apply]
    simp only [TrafficCall.owesTotal] at howedTotal
    split_ifs with heq
    · subst heq
      rw [if_pos rfl] at howedTotal
      rw [h.total, int64_int64_add]
      congr 1
      omega
    · rw [if_neg (Ne.symm heq)] at howedTotal
      rw [h.total]
      congr 1
      omega
  · intro c' dir' n' hcall'
    exact h.known c' dir' n' ((mem_replace hcall').resolve_left List.not_mem_nil)

theorem Accounted.change {t' : TrafficTracker} {i : TrafficStep} (h : t.Accounted)
    (hi : t.Change i t') : t'.Accounted := by
  cases hi with
  | idle => exact h
  | routedConnection metadata => exact h.routedConnection metadata
  | store => exact h.congr (sameBytes_of_calls rfl rfl (map_modify (by intro; rfl) _))
  | attach => exact h.congr (sameBytes_of_calls rfl rfl (map_modify (by intro; rfl) _))
  | transfer htc dir n => exact h.transfer htc dir n
  | close => exact h.congr (sameBytes_cons (by trivial) rfl rfl (map_modify (by intro; rfl) _))
  | closeConn => exact h.congr (sameBytes_cons (by trivial) rfl rfl rfl)
  | closeAllConns => exact h.congr (sameBytes_cons (by trivial) rfl rfl rfl)
  | count hcall => exact h.count hcall
  | total hcall => exact h.total_go hcall
  | closeUnderlying hcall =>
    exact h.congr (sameBytes_replace hcall trivial (by simp) rfl rfl
      (map_modify (by intro; rfl) _))
  | connClose hcall =>
    exact h.congr (sameBytes_replace hcall trivial (by simp [TrafficCall.Closes]) rfl rfl
      (map_modify (by intro; rfl) _))
  | connDone hcall => exact h.congr (sameBytes_replace hcall trivial (by simp) rfl rfl rfl)
  | allDone hcall => exact h.congr (sameBytes_replace hcall trivial (by simp) rfl rfl rfl)
  | allClose hcall =>
    exact h.congr (sameBytes_replace hcall trivial (by simp [TrafficCall.Closes]) rfl rfl
      (map_modify (by intro; rfl) _))
  | load hcall | connCheck hcall | allDelete hcall | allCheck hcall =>
    exact h.congr (sameBytes_replace hcall trivial (by simp [TrafficCall.Closes]) rfl rfl rfl)

theorem accounted_newTrafficTracker : newTrafficTracker.Accounted := by
  refine ⟨?_, ?_, ?_⟩
  · intro c tc htc
    simp [newTrafficTracker] at htc
  · intro dir
    simp [newTrafficTracker, moved, owedTotal, int64]
  · intro c dir n hcall
    exact absurd hcall List.not_mem_nil

end TrafficTracker

end Boxui.Core
