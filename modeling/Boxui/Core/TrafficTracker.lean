import Boxui.Library.Machine
import Mathlib.Algebra.BigOperators.Group.List.Basic
import Mathlib.Algebra.Order.Ring.Int
import Mathlib.Data.List.AList

/-! The traffic tracker under its callers. Every atomic operation on a counter, the id allocator
or the table is a step of its own, and the calls in flight take their steps in any order. -/
namespace Boxui.Core

/-- The value of an `int64` that the exact result `x` wraps around to. -/
def int64 (x : Int) : Int := x.bmod (2 ^ 64)

theorem int64_int64_add (x y : Int) : int64 (int64 x + y) = int64 (x + y) :=
  Int.bmod_add_bmod

theorem int64_of_lt {x : Int} (h0 : 0 ≤ x) (hx : x < 2 ^ 63) : int64 x = x := by
  apply Int.bmod_eq_of_le <;> omega

/-- Ids repeat only after all the values of an `int64` have been used. -/
theorem int64_inj {i j : Nat} (hi : i < 2 ^ 64) (hj : j < 2 ^ 64)
    (h : int64 (i + 1) = int64 (j + 1)) : i = j := by
  simp only [int64] at h
  rw [Int.bmod_add_cancel_right] at h
  have hmod : (i : Int) % (2 ^ 64 : Nat) = j % (2 ^ 64 : Nat) := by
    rw [← Int.bmod_emod, h, Int.bmod_emod]
  omega

inductive Direction where
  | upload
  | download
  deriving DecidableEq

structure InboundMetadata where
  fqdn : String
  addr : String
  outbound : String
  start : Int
  deriving DecidableEq

/-- How far the `RoutedConnection` of a connection is. From `attached` on `tc.conn` is set and
the caller has the wrapped connection. -/
inductive RoutedPhase where
  | allocated
  | stored
  | attached
  deriving DecidableEq

/-- A `trafficConnInternal` and the connection under it: `bytes` counts what that connection has
moved, `closeCalled` tells whether a `Close` of the wrapped connection has deleted its id. -/
structure TrafficConnInternal where
  id : Int
  target : String
  outbound : String
  start : Int
  counter : Direction → Int
  phase : RoutedPhase
  bytes : Direction → Nat
  closeCalled : Bool
  underlyingClosed : Bool

structure TrafficConn where
  id : Int
  target : String
  outbound : String
  upload : Int
  download : Int
  start : Int
  deriving DecidableEq

inductive CloseStage where
  | check
  | close
  | done
  deriving DecidableEq

/-- What `CloseAllConns` does next: its `Range` goes on, or its function is at work on an entry
that it has deleted. -/
inductive RangeStage where
  | range
  | check (c : Nat)
  | close (c : Nat)
  deriving DecidableEq

/-- A `CloseAllConns` in flight. `present` are the entries of the table when it began, `loaded`
those that `Range` has read and not handed over yet. -/
structure CloseAllConns where
  present : List (Int × Nat)
  visited : List Int
  loaded : List (Int × Nat)
  counted : List Nat
  stage : RangeStage
  deriving DecidableEq

/-- A call in flight, by what it does next. Connections are named by the order of their
allocation. -/
inductive TrafficCall where
  | count (c : Nat) (dir : Direction) (n : Nat)
  | total (dir : Direction) (n : Nat)
  | closeUnderlying (c : Nat)
  | closeConn (c : Nat) (stage : CloseStage)
  | closeAllConns (call : CloseAllConns)
  deriving DecidableEq

/-- The tracker, every connection that it has seen and the calls in flight. `taken` are the
connections that `CloseConn` and `CloseAllConns` have deleted from the table, `reported` those
for which they have returned true or a count. -/
structure TrafficTracker where
  nextID : Int
  total : Direction → Int
  table : AList fun _ : Int => Nat
  conns : List TrafficConnInternal
  calls : List TrafficCall
  taken : List Nat
  reported : List Nat

/-- The beginning of a call, the next step of a call in flight, or an entry that a `Range`
reads. -/
inductive TrafficStep where
  | routedConnection (metadata : InboundMetadata)
  | routed (c : Nat)
  | transfer (c : Nat) (dir : Direction) (n : Nat)
  | close (c : Nat)
  | closeConn (id : Int)
  | closeAllConns
  | load (call : CloseAllConns) (key : Int)
  | go (call : TrafficCall)

namespace TrafficConnInternal

def new (id : Int) (metadata : InboundMetadata) : TrafficConnInternal where
  id := id
  target := if metadata.fqdn = "" then metadata.addr else metadata.fqdn
  outbound := metadata.outbound
  start := metadata.start
  counter _ := 0
  phase := .allocated
  bytes _ := 0
  closeCalled := false
  underlyingClosed := false

def listed (tc : TrafficConnInternal) : TrafficConn where
  id := tc.id
  target := tc.target
  outbound := tc.outbound
  upload := tc.counter .upload
  download := tc.counter .download
  start := tc.start

def add (dir : Direction) (n : Nat) (tc : TrafficConnInternal) : TrafficConnInternal :=
  { tc with counter := Function.update tc.counter dir (int64 (tc.counter dir + n)) }

def move (dir : Direction) (n : Nat) (tc : TrafficConnInternal) : TrafficConnInternal :=
  { tc with bytes := Function.update tc.bytes dir (tc.bytes dir + n) }

@[simp] theorem counter_add (dir dir' : Direction) (n : Nat) (tc : TrafficConnInternal) :
    (tc.add dir n).counter dir' =
      if dir = dir' then int64 (tc.counter dir' + n) else tc.counter dir' := by
  by_cases h : dir = dir'
  · subst h
    simp [add]
  · simp [add, h, Function.update_of_ne (Ne.symm h)]

@[simp] theorem bytes_add (dir : Direction) (n : Nat) (tc : TrafficConnInternal) :
    (tc.add dir n).bytes = tc.bytes := rfl

@[simp] theorem counter_move (dir : Direction) (n : Nat) (tc : TrafficConnInternal) :
    (tc.move dir n).counter = tc.counter := rfl

@[simp] theorem bytes_move (dir dir' : Direction) (n : Nat) (tc : TrafficConnInternal) :
    (tc.move dir n).bytes dir' = tc.bytes dir' + if dir = dir' then n else 0 := by
  by_cases h : dir = dir'
  · subst h
    simp [move]
  · simp [move, h, Function.update_of_ne (Ne.symm h)]

end TrafficConnInternal

namespace TrafficTracker

def newTrafficTracker : TrafficTracker where
  nextID := 0
  total _ := 0
  table := ∅
  conns := []
  calls := []
  taken := []
  reported := []

def connections (t : TrafficTracker) : List TrafficConn :=
  t.table.entries.filterMap fun e => t.conns[e.2]?.map TrafficConnInternal.listed

def modify (t : TrafficTracker) (c : Nat) (f : TrafficConnInternal → TrafficConnInternal) :
    TrafficTracker :=
  { t with conns := t.conns.modify c f }

/-- The call takes its step and goes on as `next`. -/
def replace (t : TrafficTracker) (call : TrafficCall) (next : List TrafficCall) : TrafficTracker :=
  { t with calls := next ++ t.calls.erase call }

/-- The connection is attached and can be called. -/
def Attached (t : TrafficTracker) (c : Nat) : Prop :=
  ∃ tc, t.conns[c]? = some tc ∧ tc.phase = .attached

instance (t : TrafficTracker) (c : Nat) : Decidable (t.Attached c) :=
  decidable_of_iff (∃ tc ∈ t.conns[c]?, tc.phase = .attached) (by simp [Attached])

def routedConnection (t : TrafficTracker) (metadata : InboundMetadata) : TrafficTracker :=
  let id := int64 (t.nextID + 1)
  { t with nextID := id, conns := t.conns ++ [.new id metadata] }

/-- `Store` of the entry, then `tc.wrap`. -/
def routed (t : TrafficTracker) (c : Nat) : TrafficTracker :=
  match t.conns[c]? with
  | none => t
  | some tc =>
    match tc.phase with
    | .allocated =>
      { t.modify c fun tc => { tc with phase := .stored } with table := t.table.insert tc.id c }
    | .stored => t.modify c fun tc => { tc with phase := .attached }
    | .attached => t

/-- The read or write of the wrapped connection that has moved `n` bytes calls back when there
were any. -/
def transfer (t : TrafficTracker) (c : Nat) (dir : Direction) (n : Nat) : TrafficTracker :=
  if t.Attached c ∧ n > 0 then
    { t.modify c (.move dir n) with calls := .count c dir n :: t.calls }
  else t

/-- `onClose` of the wrapped connection. -/
def close (t : TrafficTracker) (c : Nat) : TrafficTracker :=
  match t.conns[c]? with
  | none => t
  | some tc =>
    if tc.phase = .attached then
      { t.modify c fun tc => { tc with closeCalled := true } with
        table := t.table.erase tc.id
        calls := .closeUnderlying c :: t.calls }
    else t

/-- `LoadAndDelete`; without an entry the call returns false. -/
def closeConn (t : TrafficTracker) (id : Int) : TrafficTracker :=
  match t.table.lookup id with
  | none => t
  | some c =>
    { t with
      table := t.table.erase id
      calls := .closeConn c .check :: t.calls
      taken := c :: t.taken }

def closeAllConns (t : TrafficTracker) : TrafficTracker :=
  { t with
    calls :=
      .closeAllConns ⟨t.table.entries.map fun e => (e.1, e.2), [], [], [], .range⟩ :: t.calls }

/-- `Range` reads an entry; it visits no key twice. -/
def load (t : TrafficTracker) (call : CloseAllConns) (key : Int) : TrafficTracker :=
  if .closeAllConns call ∈ t.calls ∧ key ∉ call.visited then
    match t.table.lookup key with
    | none => t
    | some c =>
      t.replace (.closeAllConns call) [.closeAllConns
        { call with visited := key :: call.visited, loaded := (key, c) :: call.loaded }]
  else t

def closeUnderlying (t : TrafficTracker) (c : Nat) : TrafficTracker :=
  t.modify c fun tc => { tc with underlyingClosed := true }

/-- The function of `CloseAllConns` deletes the next entry. Without one the call returns, once
`Range` has visited every entry that was there all the time. -/
def goRange (t : TrafficTracker) (call : CloseAllConns) : TrafficTracker :=
  match call.loaded with
  | (key, c) :: loaded =>
    { t.replace (.closeAllConns call)
        [.closeAllConns { call with loaded := loaded, stage := .check c }] with
      table := t.table.erase key
      taken := c :: t.taken }
  | [] =>
    if ∀ e ∈ call.present, t.table.lookup e.1 = some e.2 → e.1 ∈ call.visited then
      { t.replace (.closeAllConns call) [] with reported := call.counted ++ t.reported }
    else t

/-- The next step of a call in flight. -/
def go (t : TrafficTracker) : TrafficCall → TrafficTracker
  | .count c dir n => (t.modify c (.add dir n)).replace (.count c dir n) [.total dir n]
  | .total dir n =>
    { t.replace (.total dir n) [] with
      total := Function.update t.total dir (int64 (t.total dir + n)) }
  | .closeUnderlying c => (t.closeUnderlying c).replace (.closeUnderlying c) []
  | .closeConn c .check =>
    t.replace (.closeConn c .check) [.closeConn c (if t.Attached c then .close else .done)]
  | .closeConn c .close => (t.closeUnderlying c).replace (.closeConn c .close) [.closeConn c .done]
  | .closeConn c .done =>
    { t.replace (.closeConn c .done) [] with reported := c :: t.reported }
  | .closeAllConns call =>
    match call.stage with
    | .range => t.goRange call
    | .check c =>
      t.replace (.closeAllConns call) [.closeAllConns (if t.Attached c
        then { call with stage := .close c }
        else { call with stage := .range, counted := c :: call.counted })]
    | .close c =>
      (t.closeUnderlying c).replace (.closeAllConns call)
        [.closeAllConns { call with stage := .range, counted := c :: call.counted }]

def step (t : TrafficTracker) : TrafficStep → TrafficTracker
  | .routedConnection metadata => t.routedConnection metadata
  | .routed c => t.routed c
  | .transfer c dir n => t.transfer c dir n
  | .close c => t.close c
  | .closeConn id => t.closeConn id
  | .closeAllConns => t.closeAllConns
  | .load call key => t.load call key
  | .go call => if call ∈ t.calls then t.go call else t

/-- What a step does, where it is enabled. -/
inductive Change (t : TrafficTracker) : TrafficStep → TrafficTracker → Prop where
  | idle (i : TrafficStep) : t.Change i t
  | routedConnection (metadata : InboundMetadata) :
    t.Change (.routedConnection metadata) (t.routedConnection metadata)
  | store {c : Nat} {tc : TrafficConnInternal} (htc : t.conns[c]? = some tc)
    (hphase : tc.phase = .allocated) :
    t.Change (.routed c)
      { t.modify c fun tc => { tc with phase := .stored } with table := t.table.insert tc.id c }
  | attach {c : Nat} {tc : TrafficConnInternal} (htc : t.conns[c]? = some tc)
    (hphase : tc.phase = .stored) :
    t.Change (.routed c) (t.modify c fun tc => { tc with phase := .attached })
  | transfer {c : Nat} {tc : TrafficConnInternal} (htc : t.conns[c]? = some tc) (dir : Direction)
    (n : Nat) :
    t.Change (.transfer c dir n)
      { t.modify c (.move dir n) with calls := .count c dir n :: t.calls }
  | close {c : Nat} {tc : TrafficConnInternal} (htc : t.conns[c]? = some tc)
    (hphase : tc.phase = .attached) :
    t.Change (.close c)
      { t.modify c fun tc => { tc with closeCalled := true } with
        table := t.table.erase tc.id
        calls := .closeUnderlying c :: t.calls }
  | closeConn {id : Int} {c : Nat} (hlook : t.table.lookup id = some c) :
    t.Change (.closeConn id)
      { t with
        table := t.table.erase id
        calls := .closeConn c .check :: t.calls
        taken := c :: t.taken }
  | closeAllConns : t.Change .closeAllConns t.closeAllConns
  | load {call : CloseAllConns} {key : Int} {c : Nat} (hcall : .closeAllConns call ∈ t.calls)
    (hlook : t.table.lookup key = some c) :
    t.Change (.load call key)
      (t.replace (.closeAllConns call) [.closeAllConns
        { call with visited := key :: call.visited, loaded := (key, c) :: call.loaded }])
  | count {c : Nat} {dir : Direction} {n : Nat} (hcall : .count c dir n ∈ t.calls) :
    t.Change (.go (.count c dir n)) (t.go (.count c dir n))
  | total {dir : Direction} {n : Nat} (hcall : .total dir n ∈ t.calls) :
    t.Change (.go (.total dir n)) (t.go (.total dir n))
  | closeUnderlying {c : Nat} (hcall : .closeUnderlying c ∈ t.calls) :
    t.Change (.go (.closeUnderlying c)) (t.go (.closeUnderlying c))
  | connCheck {c : Nat} (hcall : .closeConn c .check ∈ t.calls) :
    t.Change (.go (.closeConn c .check)) (t.go (.closeConn c .check))
  | connClose {c : Nat} (hcall : .closeConn c .close ∈ t.calls) :
    t.Change (.go (.closeConn c .close)) (t.go (.closeConn c .close))
  | connDone {c : Nat} (hcall : .closeConn c .done ∈ t.calls) :
    t.Change (.go (.closeConn c .done)) (t.go (.closeConn c .done))
  | allDelete {call : CloseAllConns} {key : Int} {c : Nat} {loaded : List (Int × Nat)}
    (hcall : .closeAllConns call ∈ t.calls) (hstage : call.stage = .range)
    (hloaded : call.loaded = (key, c) :: loaded) :
    t.Change (.go (.closeAllConns call))
      { t.replace (.closeAllConns call)
          [.closeAllConns { call with loaded := loaded, stage := .check c }] with
        table := t.table.erase key
        taken := c :: t.taken }
  | allDone {call : CloseAllConns} (hcall : .closeAllConns call ∈ t.calls)
    (hstage : call.stage = .range) :
    t.Change (.go (.closeAllConns call))
      { t.replace (.closeAllConns call) [] with reported := call.counted ++ t.reported }
  | allCheck {call : CloseAllConns} {c : Nat} (hcall : .closeAllConns call ∈ t.calls)
    (hstage : call.stage = .check c) :
    t.Change (.go (.closeAllConns call))
      (t.replace (.closeAllConns call) [.closeAllConns (if t.Attached c
        then { call with stage := .close c }
        else { call with stage := .range, counted := c :: call.counted })])
  | allClose {call : CloseAllConns} {c : Nat} (hcall : .closeAllConns call ∈ t.calls)
    (hstage : call.stage = .close c) :
    t.Change (.go (.closeAllConns call))
      ((t.closeUnderlying c).replace (.closeAllConns call)
        [.closeAllConns { call with stage := .range, counted := c :: call.counted }])

/-- No call is in flight. -/
def Quiet (t : TrafficTracker) : Prop :=
  t.calls = [] ∧ ∀ tc ∈ t.conns, tc.phase = .attached

variable {t : TrafficTracker}

theorem change_go {call : TrafficCall} (hcall : call ∈ t.calls) :
    t.Change (.go call) (t.go call) := by
  cases call with
  | count c dir n => exact .count hcall
  | total dir n => exact .total hcall
  | closeUnderlying c => exact .closeUnderlying hcall
  | closeConn c stage =>
    cases stage with
    | check => exact .connCheck hcall
    | close => exact .connClose hcall
    | done => exact .connDone hcall
  | closeAllConns call =>
    dsimp only [go]
    split
    · rename_i hstage
      unfold goRange
      split
      · rename_i key c loaded hloaded
        exact .allDelete hcall hstage hloaded
      · split_ifs
        · exact .allDone hcall hstage
        · exact .idle _
    · rename_i c hstage
      exact .allCheck hcall hstage
    · rename_i c hstage
      exact .allClose hcall hstage

theorem change_step (t : TrafficTracker) (i : TrafficStep) : t.Change i (t.step i) := by
  cases i with
  | routedConnection metadata => exact .routedConnection metadata
  | routed c =>
    simp only [step, routed]
    split
    · exact .idle _
    · rename_i tc htc
      split
      · rename_i hphase
        exact .store htc hphase
      · rename_i hphase
        exact .attach htc hphase
      · exact .idle _
  | transfer c dir n =>
    simp only [step, transfer]
    split_ifs with h
    · obtain ⟨⟨tc, htc, -⟩, -⟩ := h
      exact .transfer htc dir n
    · exact .idle _
  | close c =>
    simp only [step, close]
    split
    · exact .idle _
    · rename_i tc htc
      split_ifs with hphase
      · exact .close htc hphase
      · exact .idle _
  | closeConn id =>
    simp only [step, closeConn]
    split
    · exact .idle _
    · rename_i c hlook
      exact .closeConn hlook
  | closeAllConns => exact .closeAllConns
  | load call key =>
    simp only [step, load]
    split_ifs with h
    · split
      · exact .idle _
      · rename_i c hlook
        exact .load h.1 hlook
    · exact .idle _
  | go call =>
    simp only [step]
    split_ifs with hcall
    · exact change_go hcall
    · exact .idle _

@[simp] theorem length_modify (c : Nat) (f : TrafficConnInternal → TrafficConnInternal) :
    (t.modify c f).conns.length = t.conns.length :=
  List.length_modify f t.conns c

/-- What a modified connection was before. -/
theorem of_getElem?_modify {c c' : Nat} {f : TrafficConnInternal → TrafficConnInternal}
    {tc' : TrafficConnInternal} (h : (t.modify c f).conns[c']? = some tc') :
    ∃ tc, t.conns[c']? = some tc ∧ tc' = if c = c' then f tc else tc := by
  simp only [modify, List.getElem?_modify, Option.map_eq_map, Option.map_eq_some_iff] at h
  obtain ⟨tc, htc, rfl⟩ := h
  exact ⟨tc, htc, rfl⟩

theorem map_modify {β : Type*} {g : TrafficConnInternal → β}
    {f : TrafficConnInternal → TrafficConnInternal} (hf : ∀ tc, g (f tc) = g tc) (c : Nat) :
    (t.modify c f).conns.map g = t.conns.map g := by
  apply List.ext_getElem?
  intro c'
  simp only [modify, List.getElem?_map, List.getElem?_modify, Option.map_eq_map, Option.map_map]
  congr 1
  funext tc
  by_cases hc : c = c' <;> simp [hc, hf]

theorem sum_modify (g : TrafficConnInternal → Nat) {c : Nat} {tc : TrafficConnInternal}
    (htc : t.conns[c]? = some tc) (f : TrafficConnInternal → TrafficConnInternal) :
    ((t.modify c f).conns.map g).sum + g tc = (t.conns.map g).sum + g (f tc) := by
  obtain ⟨hlt, hget⟩ := List.getElem?_eq_some_iff.mp htc
  obtain ⟨l₁, tc', l₂, hconns, rfl, hmodify⟩ := List.exists_of_modify f hlt
  obtain rfl : tc' = tc := by
    rw [← hget]
    simp [hconns]
  rw [modify, hmodify, hconns]
  simp only [List.map_append, List.map_cons, List.sum_append, List.sum_cons]
  omega

theorem mem_replace {call call' : TrafficCall} {next : List TrafficCall}
    (h : call' ∈ (t.replace call next).calls) : call' ∈ next ∨ call' ∈ t.calls :=
  (List.mem_append.mp h).imp_right List.mem_of_mem_erase

/-- What the calls in flight weigh together when one of them goes on. -/
theorem sum_replace {M : Type*} [AddCommMonoid M] (f : TrafficCall → M) {call : TrafficCall}
    (hcall : call ∈ t.calls) (next : List TrafficCall) :
    f call + ((t.replace call next).calls.map f).sum =
      (next.map f).sum + (t.calls.map f).sum := by
  rw [replace, List.map_append, List.sum_append, add_left_comm, List.sum_map_erase f hcall]

end TrafficTracker

end Boxui.Core
