import Boxui.Core.RouteRuleMetadata
import Mathlib.Data.List.InsertIdx

/-! The visual editor of the route section. The rules and their names are two lists, which each
operation changes side by side. -/
namespace Boxui.UI
open GoValue Boxui.Core RouteRuleMetadataManager

variable {α β : Type*}

inductive Direction where
  | up
  | down
  deriving DecidableEq, Repr

/-- The index next to `index`. -/
def Direction.target (index : Nat) : Direction → Option Nat
  | .up => if index = 0 then none else some (index - 1)
  | .down => some (index + 1)

/-- Without an index the item is a new one. -/
def replaceOrAppend (items : List α) (index : Option Nat) (item : α) : List α :=
  match index with
  | none => items ++ [item]
  | some index => items.set index item

/-- `insertCopy` of the rules and `insertMetadataCopy` of their names. The index is that of a
card the page shows. -/
def insertCopy (items : List α) (index : Nat) : List α :=
  items.take (index + 1) ++ items[index]?.toList ++ items.drop (index + 1)

def moveItem (items : List α) (index : Nat) (direction : Direction) : List α :=
  match direction.target index with
  | none => items
  | some target =>
    match items[index]?, items[target]? with
    | some item, some other => (items.set index other).set target item
    | _, _ => items

@[simp] theorem map_replaceOrAppend (f : α → β) (items : List α) (index : Option Nat) (item : α) :
    (replaceOrAppend items index item).map f = replaceOrAppend (items.map f) index (f item) := by
  cases index with
  | none => simp [replaceOrAppend]
  | some index => exact List.map_set

@[simp] theorem map_insertCopy (f : α → β) (items : List α) (index : Nat) :
    (insertCopy items index).map f = insertCopy (items.map f) index := by
  simp only [insertCopy, List.map_append, List.map_take, List.map_drop, List.getElem?_map]
  cases items[index]? <;> rfl

@[simp] theorem map_moveItem (f : α → β) (items : List α) (index : Nat) (direction : Direction) :
    (moveItem items index direction).map f = moveItem (items.map f) index direction := by
  unfold moveItem
  cases direction.target index with
  | none => rfl
  | some target =>
    dsimp only
    rw [List.getElem?_map, List.getElem?_map]
    cases items[index]? with
    | none => rfl
    | some item =>
      cases items[target]? with
      | none => rfl
      | some other => simp only [Option.map_some, List.map_set]

def isJsonObject : Value → Bool
  | .obj _ => true
  | _ => false

/-- The objects in the list under a key. -/
def objectsAt (path : String) (object : Object) : List Value :=
  ((object[path]?.bind Value.asList?).getD []).filter isJsonObject

def routeRules (object : Object) : List Value := objectsAt "rules" object

def routeRuleSets (object : Object) : List Value := objectsAt "rule_set" object

def setRouteRules (object : Object) (rules : List Value) : Object :=
  object.insert "rules" (.list rules)

def setRouteRuleSets (object : Object) (ruleSets : List Value) : Object :=
  object.insert "rule_set" (.list ruleSets)

def isPolicySectionStructureValid (object : Object) : Bool :=
  ["rules", "rule_set"].all fun path =>
    match object[path]? with
    | none => true
    | some (.list items) => items.all isJsonObject
    | some _ => false

def emptyMetadata : RouteRuleMetadata := ⟨"", ""⟩

def alignedMetadata (rules : List Value) (metadata : List RouteRuleMetadata) :
    List RouteRuleMetadata :=
  rules.mapIdx fun index _ => metadata[index]?.getD emptyMetadata

/-- The operations of the editor. A dialog saves an item under the index it was opened for, or
a new one. -/
inductive EditorOp where
  | saveRule (index : Option Nat) (item : Object) (metadata : RouteRuleMetadata)
  | copyRule (index : Nat)
  | moveRule (index : Nat) (direction : Direction)
  | deleteRule (index : Nat)
  | saveRuleSet (index : Option Nat) (item : Object)
  | copyRuleSet (index : Nat)
  | deleteRuleSet (index : Nat)

/-- What an operation passes on: the section and the names to be saved, and for the rules what
the page is to show. -/
structure EditorChange where
  object : Object
  draft : Option (List RouteRuleMetadata)
  metadata : List RouteRuleMetadata

namespace EditorOp

/-- `updateBoth`. -/
def changeRules (object : Object) (rules : List Value) (metadata : List RouteRuleMetadata) :
    EditorChange :=
  ⟨setRouteRules object rules, some metadata, metadata⟩

def change (object : Object) (shown : List RouteRuleMetadata) : EditorOp → EditorChange :=
  let rules := routeRules object
  let ruleSets := routeRuleSets object
  let metadata := alignedMetadata rules shown
  fun
  | .saveRule index item entered =>
    changeRules object (replaceOrAppend rules index (Object.toValue item))
      (replaceOrAppend metadata index entered)
  | .copyRule index => changeRules object (insertCopy rules index) (insertCopy metadata index)
  | .moveRule index direction =>
    changeRules object (moveItem rules index direction) (moveItem metadata index direction)
  | .deleteRule index => changeRules object (rules.eraseIdx index) (metadata.eraseIdx index)
  | .saveRuleSet index item =>
    ⟨setRouteRuleSets object (replaceOrAppend ruleSets index (Object.toValue item)), none,
      metadata⟩
  | .copyRuleSet index => ⟨setRouteRuleSets object (insertCopy ruleSets index), none, []⟩
  | .deleteRuleSet index => ⟨setRouteRuleSets object (ruleSets.eraseIdx index), none, []⟩

/-- Whether names go with the operation. -/
def SendsNames : EditorOp → Prop
  | .copyRuleSet _ | .deleteRuleSet _ => False
  | _ => True

/-- What is to become of the rules and their names: each rule keeps its own. -/
def edit : EditorOp → List (Value × RouteRuleMetadata) → List (Value × RouteRuleMetadata)
  | .saveRule index item entered, rules =>
    replaceOrAppend rules index ((Object.toValue item).json, trimmed entered)
  | .copyRule index, rules => insertCopy rules index
  | .moveRule index direction, rules => moveItem rules index direction
  | .deleteRule index, rules => rules.eraseIdx index
  | .saveRuleSet _ _, rules | .copyRuleSet _, rules | .deleteRuleSet _, rules => rules

/-- The names that are sent are those of the edited rules. -/
theorem metadata_change {op : EditorOp} (hsends : op.SendsNames) {object : Object}
    {shown : List RouteRuleMetadata} {rules : List (Value × RouteRuleMetadata)}
    (hshown : (alignedMetadata (routeRules object) shown).map trimmed = rules.map Prod.snd) :
    (op.change object shown).metadata.map trimmed = (op.edit rules).map Prod.snd := by
  cases op with
  | copyRuleSet index => exact hsends.elim
  | deleteRuleSet index => exact hsends.elim
  | saveRuleSet index item => exact hshown
  | saveRule index item entered => simp [change, changeRules, edit, hshown]
  | copyRule index => simp [change, changeRules, edit, hshown]
  | moveRule index direction => simp [change, changeRules, edit, hshown]
  | deleteRule index =>
    simp only [change, changeRules, edit, ← List.eraseIdx_map, hshown]

theorem edit_of_not_sendsNames {op : EditorOp} (h : ¬op.SendsNames)
    (rules : List (Value × RouteRuleMetadata)) : op.edit rules = rules := by
  cases op with
  | copyRuleSet index => rfl
  | deleteRuleSet index => rfl
  | _ => exact absurd trivial h

theorem metadata_of_not_sendsNames {op : EditorOp} (h : ¬op.SendsNames) (object : Object)
    (shown : List RouteRuleMetadata) : (op.change object shown).metadata = [] := by
  cases op with
  | copyRuleSet index => rfl
  | deleteRuleSet index => rfl
  | _ => exact absurd trivial h

/-- The page goes on showing the names that were sent, or the rules are the ones it shows the
names of. -/
theorem draft_change (op : EditorOp) (object : Object) (shown : List RouteRuleMetadata) :
    (op.change object shown).draft = some (op.change object shown).metadata ∧ op.SendsNames ∨
      (op.change object shown).draft = none ∧ ∀ rules, op.edit rules = rules := by
  cases op with
  | saveRuleSet index item => exact .inr ⟨rfl, fun _ => rfl⟩
  | copyRuleSet index => exact .inr ⟨rfl, fun _ => rfl⟩
  | deleteRuleSet index => exact .inr ⟨rfl, fun _ => rfl⟩
  | _ => exact .inl ⟨rfl, trivial⟩

end EditorOp

theorem alignedMetadata_of_length {rules : List Value} {metadata : List RouteRuleMetadata}
    (h : metadata.length = rules.length) : alignedMetadata rules metadata = metadata := by
  apply List.ext_getElem
  · simp [alignedMetadata, h]
  · intro i hi hi'
    simp [alignedMetadata, hi']

end Boxui.UI
