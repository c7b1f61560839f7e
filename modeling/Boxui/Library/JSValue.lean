import Boxui.Library.ObjectPath

/-! Reading JSON values the way JavaScript does. An object of the document inherits the
properties of `Object.prototype`, which a plain property access also finds. -/
namespace JSValue
open GoValue

/-- The names of the properties every plain object inherits. -/
def inheritedNames : List String :=
  ["__defineGetter__", "__defineSetter__", "hasOwnProperty", "__lookupGetter__",
    "__lookupSetter__", "propertyIsEnumerable", "toString", "valueOf", "__proto__",
    "toLocaleString", "constructor", "isPrototypeOf"]

/-- What an access yields. All that is inherited are functions, but for the prototype itself. -/
inductive Read where
  | undefined
  | value (v : Value)
  | function
  | prototype

inductive TypeName where
  | undefined
  | object
  | boolean
  | number
  | string
  | function
  deriving DecidableEq

namespace Read

def ofOption : Option Value → Read
  | none => .undefined
  | some v => .value v

def isUndefined : Read → Bool
  | .undefined => true
  | _ => false

/-- The `typeof` operator. -/
def typeOf : Read → TypeName
  | .undefined => .undefined
  | .value (.bool _) => .boolean
  | .value (.int _) => .number
  | .value (.float _) => .number
  | .value (.str _) => .string
  | .value _ => .object
  | .function => .function
  | .prototype => .object

def truthy : Read → Bool
  | .undefined => false
  | .value .null => false
  | .value (.bool b) => b
  | .value (.int n) => n != 0
  | .value (.float q) => q != 0
  | .value (.str s) => s != ""
  | .value _ => true
  | .function => true
  | .prototype => true

def isNull : Read → Bool
  | .value .null => true
  | _ => false

/-- `Array.isArray`. -/
def isArray : Read → Bool
  | .value (.list _) => true
  | .value (.strs _) => true
  | _ => false

/-- An inherited property. -/
def inherited (key : String) : Read :=
  if key = "__proto__" then .prototype
  else if key ∈ inheritedNames then .function
  else .undefined

/-- A field of an object, its own or else inherited. -/
def field (m : Object) (key : String) : Read :=
  match m[key]? with
  | some v => .value v
  | none => inherited key

/-- `value[key]`, for an object that is no array. -/
def property : Read → String → Read
  | .value v, key => match v.asMap? with
    | some m => field m key
    | none => .undefined
  | .prototype, key => if key = "__proto__" then .value .null else inherited key
  | _, _ => .undefined

/-- `{ ...value }`: the own fields. -/
def ownFields : Read → Object
  | .value v => v.asMap?.getD ∅
  | _ => ∅

theorem inherited_of_notMem {key : String} (h : key ∉ inheritedNames) :
    inherited key = .undefined := by
  have hproto : key ≠ "__proto__" := by
    rintro rfl
    exact h (by decide)
  rw [inherited, if_neg hproto, if_neg h]

@[simp] theorem property_toValue (m : Object) (key : String) :
    property (.value m.toValue) key = field m key := by
  simp only [property, Value.asMap?_toValue]

theorem field_of_notMem (m : Object) {key : String} (h : key ∉ inheritedNames) :
    field m key = ofOption m[key]? := by
  cases hk : m[key]? with
  | none => simp only [field, hk, ofOption, inherited_of_notMem h]
  | some v => simp only [field, hk, ofOption]

theorem ownFields_inherited (key : String) : ownFields (inherited key) = ∅ := by
  rw [inherited]
  split_ifs <;> rfl

/-- The own fields of a field are those of the own field of that name. -/
theorem ownFields_field (m : Object) (key : String) :
    ownFields (field m key) = (m[key]?.bind Value.asMap?).getD ∅ := by
  cases hk : m[key]? with
  | none =>
    simp only [field, hk, ownFields_inherited]
    rfl
  | some v =>
    simp only [field, hk]
    rfl

@[simp] theorem isUndefined_ofOption (v : Option Value) :
    (ofOption v).isUndefined = v.isNone := by
  cases v <;> rfl

theorem ofOption_injective : Function.Injective ofOption := by
  intro v w h
  cases v with
  | none => cases w with
    | none => rfl
    | some w => cases h
  | some v => cases w with
    | none => cases h
    | some w => exact congrArg some (Read.value.inj h)

end Read

section

variable (formatNumber : Rat → String)

mutual

/-- `String(value)`. An object with a field `toString` has no text: the call of what is no function
throws. -/
def textOf : Value → Option String
  | .null => some "null"
  | .bool b => some (if b then "true" else "false")
  | .int n => some (formatNumber n)
  | .float q => some (formatNumber q)
  | .str s => some s
  | .strs ss => some (",".intercalate ss)
  | .list vs => (itemTexts vs).map (",".intercalate ·)
  | .obj fields => if fields.any fun field => field.1 == "toString" then none
      else some "[object Object]"

/-- The texts that `join` puts together, an empty one for `null`. -/
def itemTexts : List Value → Option (List String)
  | [] => some []
  | v :: vs =>
    (match v with
      | .null => some ""
      | v => textOf v).bind fun text => (itemTexts vs).map (text :: ·)

end

/-- `String(value ?? default)`. -/
def textOr (value : Option Value) (default : String) : Option String :=
  match value with
  | none => some default
  | some .null => some default
  | some v => textOf formatNumber v

end

/-- `registry[name] ?? []`. An inherited property is no list, so that using it as one throws. -/
def entry {α : Type*} (registry : List (String × List α)) (name : String) : Option (List α) :=
  match registry.lookup name with
  | some entry => some entry
  | none => if name ∈ inheritedNames then none else some []

theorem mem_of_lookup {α : Type*} {registry : List (String × α)} {name : String} {found : α}
    (h : registry.lookup name = some found) : (name, found) ∈ registry := by
  obtain ⟨before, after, heq, -⟩ := List.lookup_eq_some_iff.mp h
  rw [heq]
  exact List.mem_append_right _ List.mem_cons_self

theorem mem_flatMap_of_lookup {α : Type*} {registry : List (String × List α)} {name : String}
    {fields : List α} (h : registry.lookup name = some fields) {field : α}
    (hfield : field ∈ fields) : field ∈ registry.flatMap Prod.snd :=
  List.mem_flatMap.mpr ⟨_, mem_of_lookup h, hfield⟩

theorem mem_flatMap_of_entry {α : Type*} {registry : List (String × List α)} {name : String}
    {fields : List α} (h : entry registry name = some fields) {field : α}
    (hfield : field ∈ fields) : field ∈ registry.flatMap Prod.snd := by
  rw [entry] at h
  split at h
  · obtain rfl := Option.some.inj h
    exact mem_flatMap_of_lookup ‹_› hfield
  · split_ifs at h
    obtain rfl := Option.some.inj h
    cases hfield

/-- An entry with something in it is one of the registry's own. -/
theorem mem_of_entry {α : Type*} {registry : List (String × List α)} {name : String}
    {fields : List α} (h : entry registry name = some fields) {field : α}
    (hfield : field ∈ fields) : (name, fields) ∈ registry := by
  rw [entry] at h
  split at h
  · rename_i hlookup
    obtain rfl := Option.some.inj h
    exact mem_of_lookup hlookup
  · split_ifs at h
    obtain rfl := Option.some.inj h
    cases hfield

theorem entry_eq_none_iff {α : Type*} {registry : List (String × List α)}
    (h : ∀ entry ∈ registry, entry.1 ∉ inheritedNames) (name : String) :
    entry registry name = none ↔ name ∈ inheritedNames := by
  rw [entry]
  split
  · rename_i hlookup
    have hname := h (name, _) (mem_of_lookup hlookup)
    exact ⟨fun hnone => absurd hnone (Option.some_ne_none _), fun hmem => absurd hmem hname⟩
  · split_ifs with hmem
    · exact ⟨fun _ => hmem, fun _ => rfl⟩
    · exact ⟨False.elim, fun hmem' => absurd hmem' hmem⟩

theorem entry_ne_none {α : Type*} (registry : List (String × List α)) {name : String}
    (h : name ∉ inheritedNames) : ∃ fields, entry registry name = some fields := by
  rw [entry]
  split
  · exact ⟨_, rfl⟩
  · exact ⟨[], if_neg h⟩

end JSValue
