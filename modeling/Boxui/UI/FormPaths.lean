import Boxui.Library.JSValue
import Boxui.Library.PathLens

/-! Dotted paths into the JSON object behind a form. A path is the list of its keys, of which
`split` yields one at least. -/
namespace Boxui.UI.Forms
open GoValue JSValue ObjectPath

/-- The test the proxy forms make before they go into a value. -/
def isPlainObject (value : Read) : Bool :=
  value.truthy && value.typeOf == .object && !value.isArray

def getPath (object : Object) (path : List String) : Read :=
  path.foldl (fun value key => if isPlainObject value then value.property key else .undefined)
    (.value object.toValue)

/-- A key `__proto__` that is given a value would set the prototype instead of a field, which an
object here does not have. -/
def setPath (source : Object) : List String → Option Value → Object
  | [], _ => source
  | [key], value => match value with
    | none => source.erase key
    | some value => source.insert key value
  | key :: key' :: keys, value =>
    let child := Read.field source key
    let updated := setPath (if isPlainObject child then child.ownFields else ∅) (key' :: keys) value
    if updated.size ≠ 0 then source.insert key updated.toValue else source.erase key

def isJsonObject (value : Read) : Bool :=
  !value.isNull && value.typeOf == .object && !value.isArray

def getPolicyPath (object : Object) (path : List String) : Read :=
  path.foldl (fun value key => if isJsonObject value then value.property key else .undefined)
    (.value object.toValue)

def setPolicyPath (source : Object) : List String → Option Value → Object
  | [], _ => source
  | [key], value => match value with
    | none => source.erase key
    | some value => source.insert key value
  | key :: key' :: keys, value =>
    let next := Read.field source key
    let child := if isJsonObject next then next.ownFields else ∅
    let updated := setPolicyPath child (key' :: keys) value
    if updated.size > 0 then source.insert key updated.toValue else source.erase key

/-- A path none of whose keys is the name of an inherited property. -/
def PlainPath (path : List String) : Prop := path ≠ [] ∧ ∀ key ∈ path, key ∉ inheritedNames

instance (path : List String) : Decidable (PlainPath path) :=
  inferInstanceAs (Decidable (_ ∧ _))

/-- Both tests let through the same values. -/
theorem isPlainObject_eq_isJsonObject (value : Read) :
    isPlainObject value = isJsonObject value := by
  by_cases htype : value.typeOf = .object
  · have hnull : value.truthy = !value.isNull := by
      cases value with
      | value v => cases v <;> first | rfl | cases htype
      | _ => first | rfl | cases htype
    rw [isPlainObject, isJsonObject, hnull]
  · have hother : (value.typeOf == .object) = false := beq_eq_false_iff_ne.mpr htype
    simp only [isPlainObject, isJsonObject, hother, Bool.and_false, Bool.false_and]

theorem getPath_eq_getPolicyPath (object : Object) (path : List String) :
    getPath object path = getPolicyPath object path := by
  rw [getPath, getPolicyPath]
  simp only [isPlainObject_eq_isJsonObject]

theorem setPath_eq_setPolicyPath (source : Object) (path : List String) (value : Option Value) :
    setPath source path value = setPolicyPath source path value := by
  induction path generalizing source with
  | nil => rfl
  | cons key keys ih =>
    cases keys with
    | nil => cases value <;> rfl
    | cons key' keys =>
      simp only [setPath, setPolicyPath, isPlainObject_eq_isJsonObject, ih, Nat.pos_iff_ne_zero,
        gt_iff_lt]

theorem isPlainObject_value (v : Value) : isPlainObject (.value v) = v.asMap?.isSome := by
  rw [isPlainObject_eq_isJsonObject]
  cases v <;> rfl

theorem isJsonObject_value (v : Value) : isJsonObject (.value v) = v.asMap?.isSome := by
  rw [← isPlainObject_eq_isJsonObject, isPlainObject_value]

/-- The object a form goes into is the one in the field; anything else counts as empty. -/
theorem child_of_isPlainObject (m : Object) (key : String) :
    (if isPlainObject (Read.field m key) then (Read.field m key).ownFields else ∅) =
      child m key := by
  rw [Read.ownFields_field, child]
  split_ifs with h
  · rfl
  · cases hk : m[key]? with
    | none => rfl
    | some v =>
      simp only [Read.field, hk, isPlainObject_value, Option.not_isSome_iff_eq_none] at h
      rw [Option.bind_some, h, Option.getD_none]

theorem insert_or_erase_eq_put (m updated : Object) (key : String) :
    (if updated.size ≠ 0 then m.insert key updated.toValue else m.erase key) =
      put m key (nonempty updated) := by
  rw [nonempty, Std.ExtTreeMap.isEmpty_eq_size_beq_zero]
  by_cases h : updated.size = 0 <;> simp [h, put]

/-- Writing at a path is writing in the objects themselves: what is inherited plays no part. -/
theorem setPath_eq_set (source : Object) (path : List String) (value : Option Value) :
    setPath source path value = set source path value := by
  induction path generalizing source with
  | nil => rfl
  | cons key keys ih =>
    cases keys with
    | nil => cases value <;> rfl
    | cons key' keys =>
      rw [set_cons_cons, ← ih, ← insert_or_erase_eq_put, ← child_of_isPlainObject, setPath]

theorem foldl_undefined (path : List String) :
    path.foldl (fun value key => if isPlainObject value then value.property key else .undefined)
      Read.undefined = .undefined := by
  induction path with
  | nil => rfl
  | cons key path ih => exact ih

/-- Reading along a plain path finds nothing but the own fields of the objects on the way. -/
theorem getPath_eq (object : Object) {path : List String}
    (h : ∀ key ∈ path, key ∉ inheritedNames) :
    getPath object path = Read.ofOption (ObjectPath.getPath object.toValue path) := by
  rw [getPath]
  generalize object.toValue = v
  induction path generalizing v with
  | nil => rfl
  | cons key path ih =>
    obtain ⟨hkey, hpath⟩ := List.forall_mem_cons.mp h
    rw [List.foldl_cons, ObjectPath.getPath, isPlainObject_value]
    cases hv : v.asMap? with
    | none =>
      simp only [Option.isSome_none, Bool.false_eq_true, if_false, Option.bind_none]
      exact foldl_undefined path
    | some m =>
      simp only [Option.isSome_some, if_true, Option.bind_some, Read.property, hv,
        Read.field_of_notMem m hkey]
      cases m[key]? with
      | none => exact foldl_undefined path
      | some v => exact ih hpath v

/-- What is written at one key leaves a path that does not begin with it. -/
theorem getPolicyPath_written (object : Object) {written : String} (value : Option Value)
    {path : List String} (hplain : PlainPath path) (hapart : Apart [written] path) :
    getPolicyPath (setPolicyPath object [written] value) path =
      Read.ofOption (ObjectPath.getPath object.toValue path) := by
  rw [← getPath_eq_getPolicyPath, ← setPath_eq_setPolicyPath, setPath_eq_set,
    getPath_eq _ hplain.2, getPath_set_of_apart _ hapart]

end Boxui.UI.Forms
