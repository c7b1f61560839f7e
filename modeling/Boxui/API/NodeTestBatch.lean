import Boxui.API.NodeTests
import Boxui.Library.FanOut

/-! A batch of node tests: one goroutine an item, behind a semaphore of as many slots as the
request asks for, over a store that other requests use at the same time. -/
namespace Boxui.API
open Boxui.Core FanOut Machine

structure BatchRequest where
  items : List TestRequest
  concurrency : ℤ

def defaultBatchConcurrency : ℕ := 8

/-- The slots of the semaphore. -/
def BatchRequest.limit (req : BatchRequest) : ℕ :=
  if req.concurrency ≤ 0 then defaultBatchConcurrency else req.concurrency.toNat

namespace TestHandler

def emptyResult : TestResult := ⟨"", "", false, 0, ""⟩

def emptyRequest : TestRequest := ⟨"", "", "", 0⟩

/-- The goroutines of `RunBatch`; that a result is not saved does not matter to the batch. -/
def batchJob (req : BatchRequest) : Job Measurement TestResult Bool NodeStore NodeTestStep where
  limit := req.limit
  result i m := batchResult m (req.items.getD i emptyRequest)
  save i m saveFails := .batchItem m saveFails (req.items.getD i emptyRequest)
  act := NodeStore.step

/-- `RunBatch` up to its loop. A request that does not decode is missing. -/
def startBatch (req : Option BatchRequest) (s : NodeStore) :
    Except Response (BatchRequest × Pool Measurement TestResult NodeStore NodeTestStep) :=
  match req with
  | none => .error (writeJSONErrorCode 400 "invalid_request" (.text "invalid request"))
  | some req =>
    if req.items.isEmpty then
      .error (writeJSONErrorCode 400 "invalid_request" (.text "items is empty"))
    else .ok (req, Pool.start req.items.length emptyResult s)

/-- The answer, which waits for all goroutines. -/
def answerBatch (p : Pool Measurement TestResult NodeStore NodeTestStep) :
    Option (List TestResult) :=
  if p.pending = 0 then some p.results else none

theorem limit_pos (req : BatchRequest) : 0 < req.limit := by
  unfold BatchRequest.limit
  split
  · exact Nat.succ_pos 7
  · omega

theorem startBatch_ok {decoded : Option BatchRequest} {s : NodeStore} {req : BatchRequest}
    {first : Pool Measurement TestResult NodeStore NodeTestStep}
    (h : startBatch decoded s = .ok (req, first)) :
    first = Pool.start req.items.length emptyResult s := by
  cases decoded with
  | none => cases h
  | some req' =>
    cases hitems : req'.items.isEmpty with
    | true =>
      simp only [startBatch, hitems, if_true] at h
      cases h
    | false =>
      simp only [startBatch, hitems, Bool.false_eq_true, if_false] at h
      obtain ⟨rfl, rfl⟩ := Prod.mk.inj (Except.ok.inj h)
      rfl

/-- The results of the goroutines stand in the order of the items. -/
theorem mapIdx_batchResult (req : BatchRequest) {outcomes : List Measurement}
    (hlength : outcomes.length = req.items.length) :
    outcomes.mapIdx (batchJob req).result =
      List.zipWith (fun it m => batchResult m it) req.items outcomes := by
  apply List.ext_getElem
  · rw [List.length_mapIdx, List.length_zipWith, hlength, Nat.min_self]
  · intro i hi hi'
    rw [List.length_mapIdx] at hi
    rw [List.getElem_mapIdx, List.getElem_zipWith]
    show batchResult outcomes[i] (req.items.getD i emptyRequest) = _
    rw [List.getD_eq_getElem?_getD, List.getElem?_eq_getElem (by omega), Option.getD_some]

/-- Whatever else happens to the store and however the goroutines of a batch interleave, no more
tests run at once than the request asks for, a batch that is not done can go on, and it is done
after five steps of each goroutine and not before. Its answer then has one result an item, in the
order of the items, each of one measurement; and the store is where it would be if each item had
been tested and saved in one step, once each, at some moment of the batch. -/
theorem runBatch_interleaved {decoded : Option BatchRequest} {s : NodeStore} {req : BatchRequest}
    {first : Pool Measurement TestResult NodeStore NodeTestStep}
    (hstart : startBatch decoded s = .ok (req, first))
    (events : List (Event Measurement Bool NodeTestStep)) :
    let job := batchJob req
    let p := Machine.run (Pool.step job) first events
    p.tasks.countP Phase.holding ≤ req.limit ∧
      (p.pending ≠ 0 → ∃ event, p.Enabled job event) ∧
      (Along (Pool.step job) (Pool.Runs job) first events →
        events.countP Event.own ≤ 5 * req.items.length ∧
          (p.pending = 0 ↔ events.countP Event.own = 5 * req.items.length)) ∧
      p.store = Machine.run NodeStore.step s (p.history.map Prod.snd) ∧
      ∀ results, answerBatch p = some results →
        ∃ outcomes : List Measurement, outcomes.length = req.items.length ∧
          results = List.zipWith (fun it m => batchResult m it) req.items outcomes ∧
          (p.history.filterMap Prod.fst).Perm (List.range req.items.length) ∧
          ∀ i label, (some i, label) ∈ p.history → ∃ m it saveFails,
            outcomes[i]? = some m ∧ req.items[i]? = some it ∧
              label = .batchItem m saveFails it := by
  intro job p
  obtain rfl := startBatch_ok hstart
  have hp : p.Sound job req.items.length s := Pool.sound_run req.items.length emptyResult s events
  have hnonempty : Nonempty Measurement := ⟨⟨false, 0, ""⟩⟩
  have hprogress : p.pending ≠ 0 → ∃ event, p.Enabled job event :=
    hp.counted.exists_enabled (limit_pos req)
  refine ⟨hp.counted.slots ▸ hp.counted.limit, hprogress, fun halong => ?_, hp.stored.store,
    fun results hanswer => ?_⟩
  · have hsteps : p.remaining + events.countP Event.own = 5 * req.items.length :=
      (Pool.remaining_run halong).trans (Pool.remaining_start _ _ _)
    refine ⟨by omega, ?_⟩
    have hdone : p.pending = 0 ↔ p.remaining = 0 := hp.counted.pending_iff
    rw [hdone]
    omega
  · unfold answerBatch at hanswer
    split at hanswer
    · next hpending =>
      obtain rfl := Option.some.inj hanswer
      obtain ⟨outcomes, hlength, hresults, hperm, howner⟩ := hp.done hpending
      refine ⟨outcomes, hlength, ?_, hperm, fun i label hi => ?_⟩
      · rw [hresults]
        exact mapIdx_batchResult req hlength
      · obtain ⟨m, e, hm, hlabel⟩ := howner i label hi
        have hbound := (List.getElem?_eq_some_iff.mp hm).1
        rw [hlength] at hbound
        refine ⟨m, req.items[i], e, hm, List.getElem?_eq_getElem hbound, ?_⟩
        rw [hlabel]
        show NodeTestStep.batchItem m e (req.items.getD i emptyRequest) = _
        rw [List.getD_eq_getElem?_getD, List.getElem?_eq_getElem hbound, Option.getD_some]
    · cases hanswer

/-- Two items, of which one names no test that there is, tested and saved one after the other. -/
def twoItems : BatchRequest := ⟨[⟨"a", "tcp", "", 0⟩, ⟨"", "dns", "b.example", 53⟩], 0⟩

def twoItemsEvents : List (Event Measurement Bool NodeTestStep) :=
  [.acquire 1, .acquire 0, .work 1 ⟨true, 3, ""⟩, .store 1 false, .work 0 ⟨true, 5, ""⟩,
    .outside (.delete false "a"), .release 1, .finish 1, .store 0 true, .release 0, .finish 0]

theorem runBatch_twoItems :
    ∃ results, answerBatch (Machine.run (Pool.step (batchJob twoItems))
        (Pool.start 2 emptyResult ⟨emptyDatabase, ∅⟩) twoItemsEvents) = some results ∧
      ∃ outcomes : List Measurement, outcomes.length = 2 ∧
        results = List.zipWith (fun it m => batchResult m it) twoItems.items outcomes := by
  have hstart : startBatch (some twoItems) ⟨emptyDatabase, ∅⟩ =
      .ok (twoItems, Pool.start 2 emptyResult ⟨emptyDatabase, ∅⟩) := rfl
  have hpending : (Machine.run (Pool.step (batchJob twoItems))
      (Pool.start 2 emptyResult ⟨emptyDatabase, ∅⟩) twoItemsEvents).pending = 0 := by
    simp [twoItemsEvents, Pool.step, Pool.start, Pool.move, batchJob, BatchRequest.limit, twoItems,
      defaultBatchConcurrency]
  have hanswer : answerBatch (Machine.run (Pool.step (batchJob twoItems))
      (Pool.start 2 emptyResult ⟨emptyDatabase, ∅⟩) twoItemsEvents) = some _ := if_pos hpending
  obtain ⟨outcomes, hlength, hresults, -, -⟩ :=
    (runBatch_interleaved hstart twoItemsEvents).2.2.2.2 _ hanswer
  exact ⟨_, hanswer, outcomes, hlength, hresults⟩

end TestHandler

end Boxui.API
