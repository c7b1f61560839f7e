import Boxui.API.NodeTests
import Boxui.Library.Machine
import Boxui.Library.Reconcile

/-! The results of the node tests as the page shows them: regrouped by the tag and the type that
each result carries. -/
namespace Boxui.UI
open GoValue Boxui.Core Boxui.API

/-- The members of `Object.prototype`. A key of this list that an object does not own is found on
its prototype. -/
def objectPrototypeNames : List String :=
  ["constructor", "__defineGetter__", "__defineSetter__", "hasOwnProperty", "__lookupGetter__",
    "__lookupSetter__", "isPrototypeOf", "propertyIsEnumerable", "toString", "valueOf",
    "__proto__", "toLocaleString"]

abbrev GroupedResults := GoMap (GoMap TestResult)

/-- The body of the loops, on the properties that `grouped` and its objects own. A tag that finds
a member of the prototype is not given an object, and the result is set on that member; setting
`__proto__` makes no property. -/
def groupResult (grouped : GroupedResults) (result : TestResult) : GroupedResults :=
  if result.tag = "" ∨ result.testType = "" then grouped
  else if objectPrototypeNames.contains result.tag then grouped
  else
    let byType := (grouped[result.tag]?).getD ∅
    if result.testType = "__proto__" then grouped.insert result.tag byType
    else grouped.insert result.tag (byType.insert result.testType result)

/-- `results` are the values of the response, each as its values, in the order in which they are
enumerated. -/
def groupNodeTestResults (results : List (List TestResult)) : GroupedResults :=
  results.foldl (fun grouped byType => byType.foldl groupResult grouped) ∅

def GroupedResults.lookup (grouped : GroupedResults) (tag testType : String) : Option TestResult :=
  grouped[tag]?.bind fun byType => byType[testType]?

/-- A result whose tag and type are there and mean nothing to the objects they become keys of. -/
def Ordinary (r : TestResult) : Prop :=
  r.tag ≠ "" ∧ r.testType ≠ "" ∧ r.tag ∉ objectPrototypeNames ∧ r.testType ≠ "__proto__"

instance (r : TestResult) : Decidable (Ordinary r) :=
  inferInstanceAs (Decidable (_ ∧ _ ∧ _ ∧ _))

def resultName (r : TestResult) : String × String := (r.tag, r.testType)

theorem lookup_groupResult (grouped : GroupedResults) {r : TestResult} (hr : Ordinary r)
    (tag testType : String) :
    (groupResult grouped r).lookup tag testType =
      if resultName r = (tag, testType) then some r else grouped.lookup tag testType := by
  obtain ⟨htag, htype, hproto, hset⟩ := hr
  unfold groupResult GroupedResults.lookup
  rw [if_neg (not_or.mpr ⟨htag, htype⟩), if_neg (by simpa using hproto)]
  dsimp only
  rw [if_neg hset, GoMap.getElem?_insert]
  by_cases hsame : r.tag = tag
  · subst hsame
    rw [if_pos rfl, Option.bind_some, GoMap.getElem?_insert]
    by_cases hsame : r.testType = testType
    · rw [if_pos hsame, if_pos (by rw [resultName, hsame])]
    · have hne : resultName r ≠ (r.tag, testType) := fun h => hsame (congrArg Prod.snd h)
      rw [if_neg hsame, if_neg hne]
      cases grouped[r.tag]? <;> simp
  · have hne : resultName r ≠ (tag, testType) := fun h => hsame (congrArg Prod.fst h)
    rw [if_neg hsame, if_neg hne]

/-- The page shows the last result of each name. -/
theorem lookup_groupResults (results : List TestResult) (hresults : ∀ r ∈ results, Ordinary r)
    (tag testType : String) :
    (results.foldl groupResult ∅).lookup tag testType =
      Reconcile.latest resultName results (tag, testType) := by
  induction results using List.reverseRecOn with
  | nil => simp [GroupedResults.lookup, Reconcile.latest]
  | append_singleton results r ih =>
    have hr := hresults r (by simp)
    have hrest := ih fun r' hr' => hresults r' (List.mem_append_left _ hr')
    rw [List.foldl_append, List.foldl_cons, List.foldl_nil, lookup_groupResult _ hr, hrest,
      Reconcile.latest_append]
    by_cases hsame : resultName r = (tag, testType)
    · rw [if_pos hsame]
      simp [Reconcile.latest, hsame]
    · rw [if_neg hsame]
      simp [Reconcile.latest, hsame]

theorem groupNodeTestResults_eq (results : List (List TestResult)) :
    groupNodeTestResults results = results.flatten.foldl groupResult ∅ := by
  rw [groupNodeTestResults, List.foldl_flatten]

/-- All results of the response, record by record. -/
def allResults (all : GoMap (GoMap TestResult)) : List TestResult :=
  all.toList.flatMap fun record => record.2.toList.map Prod.snd

theorem mem_allResults {all : GoMap (GoMap TestResult)} {r : TestResult} :
    r ∈ allResults all ↔ ∃ (key testType : String) (byType : GoMap TestResult),
      all[key]? = some byType ∧ byType[testType]? = some r := by
  simp only [allResults, List.mem_flatMap, List.mem_map, Prod.exists, exists_eq_right,
    Std.ExtTreeMap.mem_toList_iff_getElem?_eq_some]
  constructor
  · rintro ⟨key, byType, hkey, testType, htype⟩
    exact ⟨key, testType, byType, hkey, htype⟩
  · rintro ⟨key, testType, byType, hkey, htype⟩
    exact ⟨key, byType, hkey, testType, htype⟩

/-- The results of a store that keeps the last ones are shown as they should be, in whatever order
the response is enumerated. -/
theorem shown_of_keepsLast {s : NodeStore} {last : LastResults} (h : KeepsLast s last)
    (hordinary : ∀ tag testType r, last tag testType = some r → Ordinary r)
    {results : List (List TestResult)}
    (hperm : results.flatten.Perm (allResults s.getAllTestResults)) (tag testType : String) :
    (groupNodeTestResults results).lookup tag testType = last tag testType := by
  have hlast {r : TestResult} (hr : r ∈ results.flatten) : last r.tag r.testType = some r := by
    obtain ⟨key, testType, byType, hkey, htype⟩ := mem_allResults.mp (hperm.mem_iff.mp hr)
    exact (h.stored key testType byType r hkey htype).2.2
  rw [groupNodeTestResults_eq,
    lookup_groupResults _ (fun r hr => hordinary r.tag r.testType r (hlast hr))]
  cases hlatest : Reconcile.latest resultName results.flatten (tag, testType) with
  | some r =>
    have hname := Reconcile.tag_latest hlatest
    obtain ⟨rfl, rfl⟩ := Prod.mk.inj (show (r.tag, r.testType) = (tag, testType) from hname)
    exact (hlast (Reconcile.mem_of_latest hlatest)).symm
  | none =>
    cases hnone : last tag testType with
    | none => rfl
    | some r =>
      obtain ⟨rfl, rfl, byType, hkey, htype⟩ := h.found tag testType r hnone
      have hmem : r ∈ results.flatten :=
        hperm.mem_iff.mpr (mem_allResults.mpr ⟨_, _, byType, hkey, htype⟩)
      have habsent := List.find?_eq_none.mp hlatest r (List.mem_reverse.mpr hmem)
      simp [resultName] at habsent

/-- The store, and what should be shown of it. -/
structure TestHistory where
  store : NodeStore
  last : LastResults

namespace TestHistory

def start (db : Database) : TestHistory := ⟨⟨db, ∅⟩, fun _ _ => none⟩

def step (h : TestHistory) (label : NodeTestStep) : TestHistory :=
  ⟨h.store.step label, LastResults.step h.store h.last label⟩

/-- A result that is saved is ordinary, and a node is deleted when nothing is stored for it. -/
def FollowsNode (h : TestHistory) (label : NodeTestStep) : Prop :=
  (∀ r, h.store.saved label = some r → Ordinary r) ∧
    ∀ tag, label = .delete false tag → NothingStored h.store tag

theorem step_keepsLast {h : TestHistory} {label : NodeTestStep} (hlabel : h.FollowsNode label)
    (hlast : KeepsLast h.store h.last) : KeepsLast (h.step label).store (h.step label).last := by
  simp only [step, LastResults.step]
  cases hsaved : h.store.saved label with
  | some r => exact hlast.save hsaved
  | none =>
    have hresults := NodeStore.step_unsaved hsaved
    have hsame : (h.store.step label).results = h.store.results →
        KeepsLast (h.store.step label) h.last := fun heq =>
      ⟨by rw [heq]; exact hlast.stored, by rw [heq]; exact hlast.found⟩
    cases label with
    | delete fails tag =>
      cases fails with
      | true => exact hsame hresults
      | false => exact hlast.delete (hlabel.2 tag rfl)
    | _ => exact hsame hresults

theorem step_ordinary {h : TestHistory} {label : NodeTestStep} (hlabel : h.FollowsNode label)
    (hordinary : ∀ tag testType r, h.last tag testType = some r → Ordinary r)
    (tag testType : String) (r : TestResult) (hr : (h.step label).last tag testType = some r) :
    Ordinary r := by
  simp only [step, LastResults.step] at hr
  cases hsaved : h.store.saved label with
  | some r' =>
    rw [hsaved] at hr
    simp only [LastResults.save] at hr
    split_ifs at hr
    · obtain rfl := Option.some.inj hr
      exact hlabel.1 _ hsaved
    · exact hordinary tag testType r hr
  | none =>
    rw [hsaved] at hr
    cases label with
    | delete fails tag' =>
      cases fails with
      | true => exact hordinary tag testType r hr
      | false =>
        simp only [LastResults.deleteTag] at hr
        split_ifs at hr
        exact hordinary tag testType r hr
    | _ => exact hordinary tag testType r hr

/-- In a run in which nodes are deleted only when nothing is stored for them, and in which the
saved results are ordinary, the page shows for each tag and type the last result saved for it. -/
theorem testResults_run (db : Database) {labels : List NodeTestStep}
    (hfollows : Machine.Along step FollowsNode (start db) labels) :
    let h := Machine.run step (start db) labels
    ∀ results : List (List TestResult),
      results.flatten.Perm (allResults h.store.getAllTestResults) → ∀ tag testType,
        (groupNodeTestResults results).lookup tag testType = h.last tag testType := by
  intro h results hperm
  have hh := Machine.run_along
    (P := fun h : TestHistory => KeepsLast h.store h.last ∧
      ∀ tag testType r, h.last tag testType = some r → Ordinary r)
    (fun h label hlabel hh => ⟨step_keepsLast hlabel hh.1, step_ordinary hlabel hh.2⟩)
    hfollows ⟨keepsLast_empty db, fun _ _ _ h => (nomatch h)⟩
  exact shown_of_keepsLast hh.1 hh.2 hperm

def reachable : Measurement := ⟨true, 12, ""⟩

def tcpTest : NodeTestStep := .run reachable false (some ⟨"hk", "tcp", "a.example", 443⟩)

def httpTest : NodeTestStep := .batchItem reachable false ⟨"hk", "http", "a.example", 443⟩

/-- A node is tested twice and another one is deleted. -/
theorem testThenDelete_shown :
    let h := Machine.run step (start emptyDatabase) [tcpTest, httpTest, .delete false "jp"]
    (groupNodeTestResults [allResults h.store.getAllTestResults]).lookup "hk" "tcp" =
      h.last "hk" "tcp" := by
  have h1 : (start emptyDatabase).FollowsNode tcpTest := by
    refine ⟨fun r hr => ?_, fun tag h => (nomatch h)⟩
    obtain rfl : ⟨"hk", "tcp", true, 12, ""⟩ = r := Option.some.inj hr
    decide
  have hk1 := step_keepsLast h1 (keepsLast_empty _)
  have h2 : ((start emptyDatabase).step tcpTest).FollowsNode httpTest := by
    refine ⟨fun r hr => ?_, fun tag h => (nomatch h)⟩
    obtain rfl : ⟨"hk", "http", true, 12, ""⟩ = r := Option.some.inj hr
    decide
  have hk2 := step_keepsLast h2 hk1
  have h3 : (((start emptyDatabase).step tcpTest).step httpTest).FollowsNode
      (.delete false "jp") := by
    refine ⟨fun r hr => (nomatch hr), fun tag h => ?_⟩
    obtain ⟨-, rfl⟩ := NodeTestStep.delete.inj h
    exact hk2.nothingStored rfl fun testType => rfl
  have hfollows : Machine.Along step FollowsNode (start emptyDatabase)
      [tcpTest, httpTest, .delete false "jp"] := ⟨h1, h2, h3, trivial⟩
  exact testResults_run emptyDatabase hfollows _ (by simp) "hk" "tcp"

/-- A node is tested and deleted. -/
def deletedNode : List NodeTestStep :=
  [.run reachable false (some ⟨"a", "tcp", "a.example", 443⟩), .delete false "a"]

/-- A node is tested, and one whose tag is the key of that result is deleted. -/
def deletedKey : List NodeTestStep :=
  [.run reachable false (some ⟨"a", "tcp", "a.example", 443⟩), .delete false "a_tcp"]

/-- What the page shows of a history for a tag and a type. -/
def shown (h : TestHistory) (tag testType : String) : Option TestResult :=
  (groupNodeTestResults [allResults h.store.getAllTestResults]).lookup tag testType

/-- The result of a deleted node is still shown, and the deletion of another node removes the
result of one that is still there. -/
theorem deleted_not_followed :
    ((Machine.run step (start emptyDatabase) deletedNode).shown "a" "tcp").isSome = true ∧
    ((Machine.run step (start emptyDatabase) deletedNode).last "a" "tcp").isSome = false ∧
    ((Machine.run step (start emptyDatabase) deletedKey).shown "a" "tcp").isSome = false ∧
    ((Machine.run step (start emptyDatabase) deletedKey).last "a" "tcp").isSome = true := by
  refine ⟨?_, ?_, ?_, ?_⟩ <;> decide +kernel

end TestHistory

end Boxui.UI
