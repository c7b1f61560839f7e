import Mathlib.Data.List.Induction
import Mathlib.Data.String.Basic
import Mathlib.Order.Defs.LinearOrder
import Std.Data.ExtTreeMap
import Boxui.Library.Binary64

/-! Go maps, dynamic values and `encoding/json`. A `map[string]T` is the standard
extensional tree map, whose enumeration order is also the key order of a marshalled
object and of a bucket scan. An integer is exact in memory, and the nearest `float64` once
it was written as JSON and decoded. -/
namespace GoValue

abbrev GoMap (α : Type*) := Std.ExtTreeMap String α compare

namespace GoMap

variable {α β : Type*}

@[simp] theorem getElem?_insert (m : GoMap α) (k k' : String) (v : α) :
    (m.insert k v)[k']? = if k = k' then some v else m[k']? := by
  simp [Std.ExtTreeMap.getElem?_insert]

@[simp] theorem getElem?_erase (m : GoMap α) (k k' : String) :
    (m.erase k)[k']? = if k = k' then none else m[k']? := by
  simp [Std.ExtTreeMap.getElem?_erase]

/-- Rebuilding a map from its own enumeration loses nothing. -/
theorem ofList_toList (m : GoMap α) : Std.ExtTreeMap.ofList m.toList compare = m := by
  apply Std.ExtTreeMap.ext_getElem?
  intro k
  cases h : m[k]? with
  | none =>
    rw [Std.ExtTreeMap.getElem?_ofList_of_contains_eq_false]
    simp only [List.contains_eq_mem, decide_eq_false_iff_not, List.mem_map, not_exists, not_and]
    rintro ⟨k', v⟩ hm rfl
    rw [Std.ExtTreeMap.mem_toList_iff_getElem?_eq_some] at hm
    simp_all
  | some v =>
    have hm := Std.ExtTreeMap.mem_toList_iff_getElem?_eq_some.mpr h
    exact Std.ExtTreeMap.getElem?_ofList_of_mem (by simp)
      Std.ExtTreeMap.distinct_keys_toList hm

theorem foldl_insert_map (f : α → β) (fields : List (String × α)) (m : GoMap α) :
    (fields.map fun p => (p.1, f p.2)).foldl (fun acc p => acc.insert p.1 p.2)
        (m.map fun _ => f) =
      (fields.foldl (fun acc p => acc.insert p.1 p.2) m).map fun _ => f := by
  induction fields generalizing m with
  | nil => rfl
  | cons p fields ih =>
    have hins : (m.map fun _ => f).insert p.1 (f p.2) = (m.insert p.1 p.2).map fun _ => f := by
      apply Std.ExtTreeMap.ext_getElem?
      intro k
      simp only [getElem?_insert, Std.ExtTreeMap.getElem?_map]
      split <;> rfl
    simp only [List.map_cons, List.foldl_cons, hins, ih]

/-- Reading a field list as a map commutes with rewriting its values. -/
theorem ofList_map (f : α → β) (fields : List (String × α)) :
    Std.ExtTreeMap.ofList (fields.map fun p => (p.1, f p.2)) compare =
      (Std.ExtTreeMap.ofList fields compare).map fun _ => f := by
  have hempty : ((∅ : GoMap α).map fun _ => f) = ∅ := by
    apply Std.ExtTreeMap.ext_getElem?
    simp
  have h := foldl_insert_map f fields ∅
  rw [hempty] at h
  rw [Std.ExtTreeMap.ofList_eq_foldl, Std.ExtTreeMap.ofList_eq_foldl]
  exact h

/-- What a field list read as a map holds is in the list. -/
theorem mem_of_getElem?_ofList {fields : List (String × α)} {k : String} {v : α}
    (h : (Std.ExtTreeMap.ofList fields compare)[k]? = some v) : (k, v) ∈ fields := by
  rw [Std.ExtTreeMap.ofList_eq_foldl] at h
  induction fields using List.reverseRecOn with
  | nil => simp at h
  | append_singleton fields p ih =>
    rw [List.foldl_append, List.foldl_cons, List.foldl_nil, getElem?_insert] at h
    split_ifs at h with hk
    · obtain ⟨k', v'⟩ := p
      obtain rfl : k' = k := hk
      obtain rfl := Option.some.inj h
      exact List.mem_append_right _ (List.mem_singleton_self _)
    · exact List.mem_append_left _ (ih h)

end GoMap

/-- The dynamic values a Go `any` holds in this program. `int` and `strs` are the typed
values that Go code builds in memory; decoding JSON yields only the other constructors. -/
inductive Value where
  | null
  | bool (b : Bool)
  | int (n : Int)
  | float (q : Rat)
  | str (s : String)
  | strs (ss : List String)
  | list (vs : List Value)
  | obj (fields : List (String × Value))

abbrev Object := GoMap Value

/-- The `float64` nearest to an integer: the integer itself up to 2^53. -/
def float64 (n : Int) : Rat :=
  if n.natAbs ≤ 2 ^ 53 then n
  else
    match Binary64.ofRat n with
    | .finite q => q
    | _ => n

theorem float64_of_le {n : Int} (h : n.natAbs ≤ 2 ^ 53) : float64 n = n := if_pos h

theorem float64_natCast_eq_zero {n : Nat} (h : float64 n = 0) : n = 0 := by
  by_cases hle : (n : Int).natAbs ≤ 2 ^ 53
  · rw [float64_of_le hle] at h
    exact_mod_cast h
  · have hunsafe : Binary64.maxSafeInteger < n := by
      rw [Binary64.maxSafeInteger]
      omega
    rw [float64, if_neg hle] at h
    obtain hinfinity | ⟨q, hfinite, hq⟩ := Binary64.ofRat_of_unsafe hunsafe
    · rw [Int.cast_natCast, hinfinity] at h
      dsimp only at h
      exact_mod_cast h
    · rw [Int.cast_natCast, hfinite] at h
      obtain rfl : q = 0 := h
      exact absurd hq (by decide)

namespace Value

/-- The type assertion `v.(map[string]any)`. -/
def asMap? : Value → Option Object
  | .obj fields => some (Std.ExtTreeMap.ofList fields compare)
  | _ => none

/-- The type assertion `v.(string)`. -/
def asStr? : Value → Option String
  | .str s => some s
  | _ => none

/-- The type assertion `v.([]any)`. -/
def asList? : Value → Option (List Value)
  | .list vs => some vs
  | _ => none

/-- The strings of a list, typed in memory or generic after decoding. -/
def strings : Value → List String
  | .strs ss => ss
  | .list vs => vs.filterMap asStr?
  | _ => []

mutual

/-- The JSON document `json.Marshal` writes for a value, as the value that
`json.Unmarshal` reads back: keys in order, every number a `float64`, every slice generic. -/
def json : Value → Value
  | .null => .null
  | .bool b => .bool b
  | .int n => .float (float64 n)
  | .float q => .float q
  | .str s => .str s
  | .strs ss => .list (ss.map .str)
  | .list vs => .list (jsonList vs)
  | .obj fields => .obj (Std.ExtTreeMap.ofList (jsonFields fields) compare).toList

def jsonList : List Value → List Value
  | [] => []
  | v :: vs => v.json :: jsonList vs

def jsonFields : List (String × Value) → List (String × Value)
  | [] => []
  | (k, v) :: fields => (k, v.json) :: jsonFields fields

end

theorem jsonList_eq_map (vs : List Value) : jsonList vs = vs.map json := by
  induction vs with
  | nil => rfl
  | cons v vs ih => simp [jsonList, ih]

theorem jsonFields_eq_map (fields : List (String × Value)) :
    jsonFields fields = fields.map fun p => (p.1, p.2.json) := by
  induction fields with
  | nil => rfl
  | cons p fields ih => simp [jsonFields, ih]

end Value

namespace Object

def toValue (m : Object) : Value := .obj m.toList

/-- Every field as JSON carries it. -/
def json (m : Object) : Object := m.map fun _ => Value.json

/-- `s, _ := m[k].(string)`: the empty string unless the field is a string. -/
def stringAt (m : Object) (k : String) : String := (m[k]?.bind Value.asStr?).getD ""

@[simp] theorem getElem?_json (m : Object) (k : String) : (json m)[k]? = m[k]?.map Value.json := by
  simp [json]

end Object

namespace Value

@[simp] theorem asMap?_toValue (m : Object) : (Object.toValue m).asMap? = some m := by
  simp [Object.toValue, asMap?, GoMap.ofList_toList]

@[simp] theorem asStr?_json (v : Value) : v.json.asStr? = v.asStr? := by
  cases v <;> rfl

@[simp] theorem strings_json (v : Value) : v.json.strings = v.strings := by
  cases v with
  | strs ss => simp [json, strings, List.filterMap_map, Function.comp_def, asStr?]
  | list vs =>
    simp only [json, strings, jsonList_eq_map, List.filterMap_map]
    congr 1
    funext v
    exact asStr?_json v
  | _ => rfl

theorem asMap?_json (v : Value) : v.json.asMap? = v.asMap?.map Object.json := by
  cases v with
  | obj fields =>
    simp only [json, asMap?, Option.map_some, GoMap.ofList_toList, jsonFields_eq_map]
    rw [GoMap.ofList_map]
    rfl
  | _ => rfl

@[simp] theorem json_toValue (m : Object) :
    (Object.toValue m).json = Object.toValue (Object.json m) := by
  simp only [Object.toValue, json, jsonFields_eq_map]
  rw [GoMap.ofList_map, GoMap.ofList_toList]
  rfl

mutual

/-- Marshalling what was just decoded changes nothing. -/
theorem json_json : (v : Value) → v.json.json = v.json
  | .null | .bool _ | .int _ | .float _ | .str _ => rfl
  | .strs ss => by
    simp only [json, jsonList_eq_map, List.map_map]
    rfl
  | .list vs => by
    have h := jsonList_json vs
    simp only [json, h]
  | .obj fields => by
    have h := jsonFields_json fields
    change (Object.toValue _).json = Object.toValue _
    rw [json_toValue]
    rw [Object.json, ← GoMap.ofList_map, ← jsonFields_eq_map, h]

theorem jsonList_json : (vs : List Value) → jsonList (jsonList vs) = jsonList vs
  | [] => rfl
  | v :: vs => by simp only [jsonList, json_json v, jsonList_json vs]

theorem jsonFields_json : (fields : List (String × Value)) →
    jsonFields (jsonFields fields) = jsonFields fields
  | [] => rfl
  | (k, v) :: fields => by simp only [jsonFields, json_json v, jsonFields_json fields]

end

end Value

namespace Object

@[simp] theorem stringAt_json (m : Object) (k : String) : stringAt (json m) k = stringAt m k := by
  simp only [stringAt, getElem?_json, Option.bind_map]
  congr 2
  funext v
  exact Value.asStr?_json v

@[simp] theorem json_json (m : Object) : json (json m) = json m := by
  apply Std.ExtTreeMap.ext_getElem?
  intro k
  simp [Function.comp_def, Value.json_json]

theorem json_insert (m : Object) (k : String) (v : Value) :
    json (m.insert k v) = (json m).insert k v.json := by
  apply Std.ExtTreeMap.ext_getElem?
  intro k'
  simp only [getElem?_json, GoMap.getElem?_insert]
  split <;> rfl

theorem stringAt_insert (m : Object) (k k' : String) (v : Value) :
    stringAt (m.insert k v) k' = if k = k' then v.asStr?.getD "" else stringAt m k' := by
  simp only [stringAt, GoMap.getElem?_insert]
  split <;> rfl

theorem stringAt_erase (m : Object) (k k' : String) :
    stringAt (m.erase k) k' = if k = k' then "" else stringAt m k' := by
  simp only [stringAt, GoMap.getElem?_erase]
  split <;> rfl

theorem toValue_injective : Function.Injective toValue := by
  intro m m' h
  have h' := congrArg Value.asMap? h
  simpa using h'

end Object

/-- `encoding/json` over the bytes of a file: decoding what was encoded yields the
document, and nothing but documents is ever decoded. -/
structure JSONCodec (Bytes : Type*) where
  marshal : Value → Bytes
  unmarshal : Bytes → Option Value
  unmarshal_marshal : ∀ v, unmarshal (marshal v) = some v.json
  unmarshal_json : ∀ b v, unmarshal b = some v → v.json = v

/-- The codec whose bytes are the documents themselves. -/
def documentCodec : JSONCodec { v : Value // v.json = v } where
  marshal v := ⟨v.json, v.json_json⟩
  unmarshal b := some b.1
  unmarshal_marshal _ := rfl
  unmarshal_json b v h := by
    obtain rfl := Option.some.inj h
    exact b.2

@[simp] theorem isOk_ok {ε α : Type*} (a : α) : (Except.ok a : Except ε α).isOk = true := rfl

@[simp] theorem isOk_error {ε α : Type*} (e : ε) : (Except.error e : Except ε α).isOk = false :=
  rfl

theorem ok_bind {ε : Type*} {α β : Type _} (a : α) (f : α → Except ε β) :
    (Except.ok a : Except ε α) >>= f = f a := rfl

theorem error_bind {ε : Type*} {α β : Type _} (e : ε) (f : α → Except ε β) :
    (Except.error e : Except ε α) >>= f = .error e := rfl

/-- The bind rule of a fallible computation. -/
theorem bind_eq_ok_iff {ε : Type*} {α β : Type _} (x : Except ε α) (f : α → Except ε β) (b : β) :
    x >>= f = .ok b ↔ ∃ a, x = .ok a ∧ f a = .ok b := by
  cases x with
  | error e => simp [bind, Except.bind]
  | ok a => simp [bind, Except.bind]

end GoValue
