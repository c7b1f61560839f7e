import Boxui.Library.GoValue

/-! Paths into dynamic values. A path is the list of its keys, from the outside in. -/
namespace ObjectPath
open GoValue

def getPath : Value → List String → Option Value
  | v, [] => some v
  | v, k :: path => (v.asMap?.bind fun m => m[k]?).bind fun v => getPath v path

@[simp] theorem getPath_toValue_cons (m : Object) (k : String) (path : List String) :
    getPath m.toValue (k :: path) = m[k]?.bind fun v => getPath v path := by
  rw [getPath, Value.asMap?_toValue, Option.bind_some]

theorem getPath_append (v : Value) (p q : List String) :
    getPath v (p ++ q) = (getPath v p).bind fun v => getPath v q := by
  induction p generalizing v with
  | nil => rfl
  | cons k p ih =>
    rw [List.cons_append, getPath, getPath]
    cases v.asMap?.bind fun m => m[k]? with
    | none => rfl
    | some v => exact ih v

/-- Every field of an object. -/
def EveryField (Q : String → Value → Prop) (m : Object) : Prop := ∀ k v, m[k]? = some v → Q k v

/-- Every value at a path that is no object. -/
def EveryLeaf (P : List String → Value → Prop) (v : Value) : Prop :=
  ∀ path leaf, getPath v path = some leaf → leaf.asMap? = none → P path leaf

theorem everyField_empty (Q : String → Value → Prop) : EveryField Q ∅ := by
  intro k v h
  rw [Std.ExtTreeMap.getElem?_empty] at h
  cases h

theorem EveryField.insert {Q : String → Value → Prop} {m : Object} {k : String} {v : Value}
    (hk : Q k v) (h : EveryField Q m) : EveryField Q (m.insert k v) := by
  intro k' v' hv'
  rw [GoMap.getElem?_insert] at hv'
  split_ifs at hv' with heq
  · obtain rfl := heq
    obtain rfl := Option.some.inj hv'
    exact hk
  · exact h k' v' hv'

theorem everyField_insert {Q : String → Value → Prop} {m : Object} {k : String} (v : Value)
    (h : m[k]? = none) : EveryField Q (m.insert k v) ↔ Q k v ∧ EveryField Q m := by
  refine ⟨fun hall => ⟨hall k v ?_, fun k' v' hv' => hall k' v' ?_⟩, fun h => h.2.insert h.1⟩
  · rw [GoMap.getElem?_insert, if_pos rfl]
  · have hne : k ≠ k' := by
      rintro rfl
      rw [h] at hv'
      cases hv'
    rw [GoMap.getElem?_insert, if_neg hne]
    exact hv'

theorem everyLeaf_of_asMap?_eq_none {P : List String → Value → Prop} {v : Value}
    (h : v.asMap? = none) : EveryLeaf P v ↔ P [] v := by
  constructor
  · exact fun hall => hall [] v rfl h
  · intro hv path leaf hpath hleaf
    cases path with
    | nil =>
      obtain rfl := Option.some.inj hpath
      exact hv
    | cons k path =>
      rw [getPath, h] at hpath
      cases hpath

/-- The leaves of an object are those of its fields. -/
theorem everyLeaf_toValue (P : List String → Value → Prop) (m : Object) :
    EveryLeaf P m.toValue ↔ EveryField (fun k v => EveryLeaf (fun path => P (k :: path)) v) m := by
  constructor
  · intro hall k v hv path leaf hpath hleaf
    apply hall (k :: path) leaf ?_ hleaf
    rw [getPath_toValue_cons, hv]
    exact hpath
  · intro hall path leaf hpath hleaf
    cases path with
    | nil =>
      obtain rfl := Option.some.inj hpath
      rw [Value.asMap?_toValue] at hleaf
      cases hleaf
    | cons k path =>
      rw [getPath_toValue_cons, Option.bind_eq_some_iff] at hpath
      obtain ⟨v, hv, hpath⟩ := hpath
      exact hall k v hv path leaf hpath hleaf

end ObjectPath
