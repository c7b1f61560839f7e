import Boxui.API.Requests

/-! The tests of nodes. A result is stored under a key made of its tag and its type; the record
under a key maps types to results, and the deletion of a node deletes the record under its bare
tag. -/
namespace Boxui.API
open GoValue Boxui.Core

structure TestResult where
  tag : String
  testType : String
  success : Bool
  latencyMs : Float
  error : String

/-- The buckets of the node manager: the nodes are those of the database. -/
structure NodeStore where
  db : Database
  results : GoMap (GoMap TestResult)

namespace NodeStore

/-- `SaveTestResult`; it fails on a key the bucket rejects or when its transaction fails. -/
def saveTestResult (fails : Bool) (key : String) (result : TestResult) (s : NodeStore) :
    Option NodeStore :=
  if key = "" ∨ maxKeySize < key.utf8ByteSize ∨ fails = true then none
  else
    let stored := (s.results[key]?).getD ∅
    some { s with results := s.results.insert key (stored.insert result.testType result) }

def getAllTestResults (s : NodeStore) : GoMap (GoMap TestResult) := s.results

def add (fails : Bool) (outbound : Outbound) (s : NodeStore) : Option NodeStore :=
  if fails then none
  else
    match NodeManager.add outbound s.db with
    | .error _ => none
    | .ok db => some { s with db := db }

/-- `NodeManager.Delete`. -/
def delete (fails : Bool) (tag : String) (s : NodeStore) : Option NodeStore :=
  if fails then none else some ⟨NodeManager.delete tag s.db, s.results.erase tag⟩

end NodeStore

structure TestRequest where
  tag : String
  testType : String
  server : String
  port : Int

/-- How a test turned out. -/
structure Measurement where
  success : Bool
  latencyMs : Float
  error : String

namespace TestHandler

def dispatchTest (m : Measurement) (req : TestRequest) : Except String TestResult :=
  if ["tcp", "http", "icmp"].contains req.testType then
    .ok ⟨req.tag, req.testType, m.success, m.latencyMs, m.error⟩
  else .error ("unsupported test_type: " ++ req.testType)

/-- A request that does not decode is missing. -/
def run (m : Measurement) (saveFails : Bool) (req : Option TestRequest) (s : NodeStore) :
    NodeStore × Except Response TestResult :=
  match req with
  | none => (s, .error (writeJSONErrorCode 400 "invalid_request" (.text "invalid request")))
  | some req =>
    if req.tag = "" ∨ req.testType = "" then
      (s, .error (writeJSONErrorCode 400 "invalid_request"
        (.text "tag and test_type are required")))
    else
      match dispatchTest m req with
      | .error e => (s, .error (writeJSONErrorCode 400 "invalid_request" (.text e)))
      | .ok result =>
        let key := req.tag ++ "_" ++ req.testType
        match s.saveTestResult saveFails key result with
        | none => (s, .error (writeJSONErrorCode 500 "internal_error"
            (.text "failed to save test result")))
        | some s => (s, .ok result)

def firstNonEmpty (a b : String) : String := if a ≠ "" then a else b

def nonEmpty (a fallback : String) : String := if a ≠ "" then a else fallback

/-- The result of one item of a batch: a test that cannot be made has a result as well. -/
def batchResult (m : Measurement) (it : TestRequest) : TestResult :=
  let it := { it with tag := firstNonEmpty it.tag it.server }
  match dispatchTest m it with
  | .ok r => r
  | .error e => ⟨it.tag, it.testType, false, 0, e⟩

/-- The key of a result of a batch. -/
def batchKey (r : TestResult) : String := r.tag ++ "_" ++ nonEmpty r.testType "test"

/-- One goroutine of `RunBatch`; that a result is not saved does not matter to the batch. -/
def runBatchItem (m : Measurement) (saveFails : Bool) (it : TestRequest) (s : NodeStore) :
    NodeStore × TestResult :=
  let r := batchResult m it
  ((s.saveTestResult saveFails (batchKey r) r).getD s, r)

end TestHandler

inductive NodeTestStep where
  | run (m : Measurement) (saveFails : Bool) (req : Option TestRequest)
  | batchItem (m : Measurement) (saveFails : Bool) (it : TestRequest)
  | add (fails : Bool) (outbound : Outbound)
  | delete (fails : Bool) (tag : String)

namespace NodeStore

def step (s : NodeStore) : NodeTestStep → NodeStore
  | .run m saveFails req => (TestHandler.run m saveFails req s).1
  | .batchItem m saveFails it => (TestHandler.runBatchItem m saveFails it s).1
  | .add fails outbound => (s.add fails outbound).getD s
  | .delete fails tag => (s.delete fails tag).getD s

/-- The result that a step saves, if it saves one. -/
def saved (s : NodeStore) : NodeTestStep → Option TestResult
  | .run m saveFails req => (TestHandler.run m saveFails req s).2.toOption
  | .batchItem m saveFails it =>
    let r := TestHandler.batchResult m it
    (s.saveTestResult saveFails (TestHandler.batchKey r) r).map fun _ => r
  | _ => none

end NodeStore

/-- What the results are for: the last result saved for each tag and type since the node of that
tag was last deleted. -/
abbrev LastResults := String → String → Option TestResult

namespace LastResults

def save (r : TestResult) (last : LastResults) : LastResults := fun tag testType =>
  if r.tag = tag ∧ r.testType = testType then some r else last tag testType

def deleteTag (tag : String) (last : LastResults) : LastResults := fun tag' testType =>
  if tag' = tag then none else last tag' testType

/-- The effect of a step on what should be there. -/
def step (s : NodeStore) (last : LastResults) (label : NodeTestStep) : LastResults :=
  match s.saved label with
  | some r => last.save r
  | none =>
    match label with
    | .delete false tag => last.deleteTag tag
    | _ => last

end LastResults

/-- The record a result belongs to. -/
def resultKey (tag testType : String) : String :=
  tag ++ "_" ++ TestHandler.nonEmpty testType "test"

/-- With the type, the key gives the tag. -/
theorem resultKey_injective {tag tag' testType : String}
    (h : resultKey tag testType = resultKey tag' testType) : tag = tag' := by
  unfold resultKey at h
  have hlist := congrArg String.toList h
  simp only [String.toList_append, List.append_assoc] at hlist
  exact String.toList_inj.mp (List.append_cancel_right hlist)

theorem NodeStore.saveTestResult_some {fails : Bool} {key : String} {r : TestResult}
    {s s' : NodeStore} (h : s.saveTestResult fails key r = some s') :
    s'.results = s.results.insert key (((s.results[key]?).getD ∅).insert r.testType r) := by
  unfold saveTestResult at h
  split_ifs at h
  obtain rfl := Option.some.inj h
  rfl

theorem dispatchTest_ok {m : Measurement} {req : TestRequest} {r : TestResult}
    (h : TestHandler.dispatchTest m req = .ok r) : r.tag = req.tag ∧ r.testType = req.testType := by
  unfold TestHandler.dispatchTest at h
  split_ifs at h
  obtain rfl := Except.ok.inj h
  exact ⟨rfl, rfl⟩

/-- The exits of `Run`: nothing saved, or the result of the request saved under its key. -/
theorem run_cases (m : Measurement) (saveFails : Bool) (req : Option TestRequest)
    (s : NodeStore) :
    ((∃ response, (TestHandler.run m saveFails req s).2 = .error response) ∧
      (TestHandler.run m saveFails req s).1 = s) ∨
    ∃ r, (TestHandler.run m saveFails req s).2 = .ok r ∧
      s.saveTestResult saveFails (resultKey r.tag r.testType) r =
        some (TestHandler.run m saveFails req s).1 := by
  unfold TestHandler.run
  cases req with
  | none => exact .inl ⟨⟨_, rfl⟩, rfl⟩
  | some req =>
    dsimp only
    by_cases hempty : req.tag = "" ∨ req.testType = ""
    · rw [if_pos hempty]
      exact .inl ⟨⟨_, rfl⟩, rfl⟩
    · rw [if_neg hempty]
      cases hdispatch : TestHandler.dispatchTest m req with
      | error e => exact .inl ⟨⟨_, rfl⟩, rfl⟩
      | ok r =>
        obtain ⟨htag, htype⟩ := dispatchTest_ok hdispatch
        have hkey : req.tag ++ "_" ++ req.testType = resultKey r.tag r.testType := by
          rw [resultKey, htag, htype, TestHandler.nonEmpty, if_pos (not_or.mp hempty).2]
        dsimp only
        rw [hkey]
        cases hsave : s.saveTestResult saveFails (resultKey r.tag r.testType) r with
        | none => exact .inl ⟨⟨_, rfl⟩, rfl⟩
        | some s' => exact .inr ⟨r, rfl, hsave⟩

/-- A step that saves a result saves it under the key of its tag and type. -/
theorem NodeStore.step_saved {s : NodeStore} {label : NodeTestStep} {r : TestResult}
    (h : s.saved label = some r) :
    (s.step label).results = s.results.insert (resultKey r.tag r.testType)
      (((s.results[resultKey r.tag r.testType]?).getD ∅).insert r.testType r) := by
  cases label with
  | run m saveFails req =>
    simp only [saved] at h
    rcases run_cases m saveFails req s with ⟨⟨response, he⟩, -⟩ | ⟨r', hok, hsave⟩
    · rw [he] at h
      cases h
    · rw [hok] at h
      obtain rfl := Option.some.inj h
      exact saveTestResult_some hsave
  | batchItem m saveFails it =>
    simp only [saved, step, TestHandler.runBatchItem] at h ⊢
    cases hsave : s.saveTestResult saveFails (TestHandler.batchKey (TestHandler.batchResult m it))
      (TestHandler.batchResult m it) with
    | none =>
      rw [hsave] at h
      cases h
    | some s' =>
      rw [hsave] at h
      obtain rfl := Option.some.inj h
      exact saveTestResult_some hsave
  | add fails outbound => cases h
  | delete fails tag => cases h

/-- A step that saves nothing leaves the results alone, unless it deletes a node. -/
theorem NodeStore.step_unsaved {s : NodeStore} {label : NodeTestStep} (h : s.saved label = none) :
    (s.step label).results =
      match label with
      | .delete false tag => s.results.erase tag
      | _ => s.results := by
  cases label with
  | run m saveFails req =>
    simp only [saved] at h
    rcases run_cases m saveFails req s with ⟨-, hsame⟩ | ⟨r', hok, -⟩
    · simp only [step, hsame]
    · rw [hok] at h
      cases h
  | batchItem m saveFails it =>
    simp only [saved, Option.map_eq_none_iff] at h
    simp only [step, TestHandler.runBatchItem, h, Option.getD_none]
  | add fails outbound =>
    simp only [step, add]
    cases fails with
    | true => rfl
    | false => cases NodeManager.add outbound s.db <;> rfl
  | delete fails tag => cases fails <;> rfl

/-- The records hold what should be there and nothing else. -/
structure KeepsLast (s : NodeStore) (last : LastResults) : Prop where
  stored : ∀ (key testType : String) (byType : GoMap TestResult) (r : TestResult),
    s.results[key]? = some byType → byType[testType]? = some r →
      testType = r.testType ∧ key = resultKey r.tag r.testType ∧ last r.tag r.testType = some r
  found : ∀ (tag testType : String) (r : TestResult), last tag testType = some r →
    r.tag = tag ∧ r.testType = testType ∧ ∃ byType,
      s.results[resultKey tag testType]? = some byType ∧ byType[testType]? = some r

theorem keepsLast_empty (db : Database) : KeepsLast ⟨db, ∅⟩ fun _ _ => none :=
  ⟨fun _ _ _ _ h => (by simp at h), fun _ _ _ h => (nomatch h)⟩

theorem KeepsLast.save {s : NodeStore} {last : LastResults} (h : KeepsLast s last)
    {label : NodeTestStep} {r : TestResult} (hsaved : s.saved label = some r) :
    KeepsLast (s.step label) (last.save r) := by
  have hresults := NodeStore.step_saved hsaved
  constructor
  · intro key testType byType r' hkey htype
    rw [hresults, GoMap.getElem?_insert] at hkey
    split_ifs at hkey with heq
    · obtain rfl := Option.some.inj hkey
      rw [GoMap.getElem?_insert] at htype
      split_ifs at htype with hsame
      · obtain rfl := Option.some.inj htype
        exact ⟨hsame.symm, heq.symm, if_pos ⟨rfl, rfl⟩⟩
      · -- another type in the same record
        cases hold : s.results[resultKey r.tag r.testType]? with
        | none => simp [hold] at htype
        | some old =>
          rw [hold] at htype
          obtain ⟨h1, h2, h3⟩ := h.stored _ _ old r' hold htype
          refine ⟨h1, heq ▸ h2, ?_⟩
          rw [LastResults.save, if_neg fun hr => hsame (hr.2.trans h1.symm)]
          exact h3
    · obtain ⟨h1, h2, h3⟩ := h.stored key testType byType r' hkey htype
      refine ⟨h1, h2, ?_⟩
      rw [LastResults.save, if_neg fun hr => heq (by rw [hr.1, hr.2, h2])]
      exact h3
  · intro tag testType r' hr'
    rw [LastResults.save] at hr'
    split_ifs at hr' with hsame
    · obtain rfl := Option.some.inj hr'
      obtain ⟨rfl, rfl⟩ := hsame
      refine ⟨rfl, rfl, _, by rw [hresults, GoMap.getElem?_insert, if_pos rfl], ?_⟩
      rw [GoMap.getElem?_insert, if_pos rfl]
    · obtain ⟨h1, h2, byType, hkey, htype⟩ := h.found tag testType r' hr'
      refine ⟨h1, h2, ?_⟩
      rw [hresults, GoMap.getElem?_insert]
      split_ifs with heq
      · refine ⟨_, rfl, ?_⟩
        have hne : r.testType ≠ testType := by
          rintro rfl
          exact hsame ⟨resultKey_injective heq, rfl⟩
        rw [GoMap.getElem?_insert, if_neg hne, heq, hkey]
        exact htype
      · exact ⟨byType, hkey, htype⟩

/-- Deleting a node does what it should only when there is nothing to delete: no result of its
tag, and no record under its tag. -/
def NothingStored (s : NodeStore) (tag : String) : Prop :=
  s.results[tag]? = none ∧ ∀ (key testType : String) (byType : GoMap TestResult) (r : TestResult),
    s.results[key]? = some byType → byType[testType]? = some r → r.tag ≠ tag

/-- Nothing is stored for a tag without results that is not the key of a record. -/
theorem KeepsLast.nothingStored {s : NodeStore} {last : LastResults} (h : KeepsLast s last)
    {tag : String} (hkey : s.results[tag]? = none) (hlast : ∀ testType, last tag testType = none) :
    NothingStored s tag := by
  refine ⟨hkey, fun key testType byType r hbyType hr htag => ?_⟩
  have hstored := (h.stored key testType byType r hbyType hr).2.2
  rw [htag, hlast] at hstored
  cases hstored

theorem KeepsLast.delete {s : NodeStore} {last : LastResults} (h : KeepsLast s last)
    {tag : String} (hnothing : NothingStored s tag) :
    KeepsLast (s.step (.delete false tag)) (last.deleteTag tag) := by
  obtain ⟨habsent, hother⟩ := hnothing
  have hresults (key : String) : (s.step (.delete false tag)).results[key]? = s.results[key]? := by
    change (s.results.erase tag)[key]? = _
    rw [GoMap.getElem?_erase]
    split_ifs with heq
    · rw [← heq, habsent]
    · rfl
  constructor
  · intro key testType byType r hkey htype
    rw [hresults] at hkey
    obtain ⟨h1, h2, h3⟩ := h.stored key testType byType r hkey htype
    refine ⟨h1, h2, ?_⟩
    rw [LastResults.deleteTag, if_neg (hother key testType byType r hkey htype)]
    exact h3
  · intro tag' testType r hr
    rw [LastResults.deleteTag] at hr
    split_ifs at hr
    obtain ⟨h1, h2, byType, hkey, htype⟩ := h.found tag' testType r hr
    exact ⟨h1, h2, byType, by rw [hresults]; exact hkey, htype⟩

end Boxui.API
