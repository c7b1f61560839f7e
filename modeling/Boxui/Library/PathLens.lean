import Boxui.Library.ObjectPath
import Mathlib.Data.List.Pairwise

/-! Writing at a path of an object. An object that a removal leaves empty is removed with it. -/
namespace ObjectPath
open GoValue

/-- One field, written or erased. -/
def put (m : Object) (k : String) : Option Value → Object
  | none => m.erase k
  | some v => m.insert k v

@[simp] theorem getElem?_put (m : Object) (k k' : String) (v : Option Value) :
    (put m k v)[k']? = if k = k' then v else m[k']? := by
  cases v with
  | none => exact GoMap.getElem?_erase m k k'
  | some v => exact GoMap.getElem?_insert m k k' v

/-- The object in a field; whatever else the field holds counts as an empty one. -/
def child (m : Object) (k : String) : Object := (m[k]?.bind Value.asMap?).getD ∅

/-- An object as the value of a field, unless it is empty. -/
def nonempty (m : Object) : Option Value := if m.isEmpty then none else some m.toValue

def set (m : Object) : List String → Option Value → Object
  | [], _ => m
  | [k], v => put m k v
  | k :: path, v => put m k (nonempty (set (child m k) path v))

def remove (path : List String) (m : Object) : Object := set m path none

/-- Neither path begins with the other. -/
def Apart (p q : List String) : Prop := ¬ p <+: q ∧ ¬ q <+: p

instance (p q : List String) : Decidable (Apart p q) := inferInstanceAs (Decidable (_ ∧ _))

theorem Apart.symm {p q : List String} (h : Apart p q) : Apart q p := ⟨h.2, h.1⟩

instance : Std.Symm Apart := ⟨fun _ _ h => h.symm⟩

theorem apart_cons {k k' : String} {p q : List String} :
    Apart (k :: p) (k' :: q) ↔ k = k' → Apart p q := by
  simp only [Apart, List.cons_prefix_cons]
  grind

theorem put_put (m : Object) (k : String) (v w : Option Value) :
    put (put m k v) k w = put m k w := by
  apply Std.ExtTreeMap.ext_getElem?
  intro k'
  simp only [getElem?_put]
  split_ifs <;> rfl

theorem put_comm (m : Object) {k k' : String} (h : k ≠ k') (v w : Option Value) :
    put (put m k v) k' w = put (put m k' w) k v := by
  apply Std.ExtTreeMap.ext_getElem?
  intro k''
  simp only [getElem?_put]
  split_ifs with h₁ h₂
  · exact absurd (h₂.trans h₁.symm) h
  · rfl
  · rfl
  · rfl

theorem isEmpty_eq_false_of_getElem? {m : Object} {k : String} {v : Value}
    (h : m[k]? = some v) : m.isEmpty = false := by
  apply Bool.eq_false_iff.mpr
  intro hempty
  rw [Std.ExtTreeMap.isEmpty_iff] at hempty
  rw [hempty, Std.ExtTreeMap.getElem?_empty] at h
  cases h

@[simp] theorem nonempty_bind_asMap? (m : Object) :
    ((nonempty m).bind Value.asMap?).getD ∅ = m := by
  unfold nonempty
  split_ifs with h
  · exact (Std.ExtTreeMap.isEmpty_iff.mp h).symm
  · rw [Option.bind_some, Value.asMap?_toValue, Option.getD_some]

theorem child_put_self (m : Object) (k : String) (v : Option Value) :
    child (put m k v) k = (v.bind Value.asMap?).getD ∅ := by
  rw [child, getElem?_put, if_pos rfl]

theorem child_put_of_ne (m : Object) {k k' : String} (h : k ≠ k') (v : Option Value) :
    child (put m k v) k' = child m k' := by
  rw [child, getElem?_put, if_neg h, child]

/-- What lies below a field is read in the object it holds. -/
theorem getPath_child (m : Object) (k k' : String) (path : List String) :
    getPath m.toValue (k :: k' :: path) = getPath (child m k).toValue (k' :: path) := by
  rw [getPath_toValue_cons, getPath_toValue_cons, child]
  cases hk : m[k]? with
  | none =>
    rw [Option.bind_none, Option.bind_none, Option.getD_none, Std.ExtTreeMap.getElem?_empty]
    rfl
  | some v =>
    rw [Option.bind_some, Option.bind_some, getPath]
    cases v.asMap? with
    | none => rw [Option.getD_none, Std.ExtTreeMap.getElem?_empty]; rfl
    | some m' => rfl

theorem getPath_nonempty (m : Object) (k : String) (path : List String) :
    ((nonempty m).bind fun v => getPath v (k :: path)) = getPath m.toValue (k :: path) := by
  unfold nonempty
  split_ifs with h
  · rw [Std.ExtTreeMap.isEmpty_iff.mp h, getPath_toValue_cons, Std.ExtTreeMap.getElem?_empty]
    rfl
  · rfl

theorem set_cons_cons (m : Object) (k k' : String) (path : List String) (v : Option Value) :
    set m (k :: k' :: path) v = put m k (nonempty (set (child m k) (k' :: path) v)) := rfl

theorem remove_cons_cons (m : Object) (k k' : String) (path : List String) :
    remove (k :: k' :: path) m = put m k (nonempty (remove (k' :: path) (child m k))) := rfl

theorem getPath_singleton (m : Object) (k : String) : getPath m.toValue [k] = m[k]? := by
  rw [getPath_toValue_cons]
  cases m[k]? <;> rfl

theorem apart_of_head_ne {k k' : String} (h : k ≠ k') (p q : List String) :
    Apart (k :: p) (k' :: q) :=
  apart_cons.mpr fun heq => absurd heq h

/-- What is written at a path is what is read from it on. -/
theorem getPath_set_append (m : Object) (p : List String) (hp : p ≠ []) (r : List String)
    (v : Option Value) :
    getPath (set m p v).toValue (p ++ r) = v.bind fun v => getPath v r := by
  induction p generalizing m with
  | nil => exact absurd rfl hp
  | cons k p ih =>
    cases p with
    | nil =>
      rw [List.singleton_append, getPath_toValue_cons, set, getElem?_put, if_pos rfl]
    | cons k' p =>
      rw [set_cons_cons, List.cons_append, getPath_toValue_cons, getElem?_put, if_pos rfl,
        List.cons_append, getPath_nonempty]
      exact ih (child m k) (List.cons_ne_nil k' p)

theorem getPath_set (m : Object) {p : List String} (hp : p ≠ []) (v : Option Value) :
    getPath (set m p v).toValue p = v := by
  have h := getPath_set_append m p hp [] v
  rw [List.append_nil] at h
  rw [h]
  cases v <;> rfl

/-- A path apart from the one written to keeps its value. -/
theorem getPath_set_of_apart (m : Object) {p q : List String} (h : Apart p q)
    (v : Option Value) : getPath (set m p v).toValue q = getPath m.toValue q := by
  induction p generalizing m q with
  | nil => exact absurd List.nil_prefix h.1
  | cons k p ih =>
    cases q with
    | nil => exact absurd List.nil_prefix h.2
    | cons k' q =>
      by_cases hk : k = k'
      · obtain rfl := hk
        have hpq := apart_cons.mp h rfl
        cases p with
        | nil => exact absurd List.nil_prefix hpq.1
        | cons l p =>
          cases q with
          | nil => exact absurd List.nil_prefix hpq.2
          | cons l' q =>
            rw [set_cons_cons, getPath_child, child_put_self, nonempty_bind_asMap?, ih _ hpq,
              ← getPath_child]
      · have hfield : (set m (k :: p) v)[k']? = m[k']? := by
          cases p with
          | nil => rw [set, getElem?_put, if_neg hk]
          | cons l p => rw [set_cons_cons, getElem?_put, if_neg hk]
        rw [getPath_toValue_cons, hfield, getPath_toValue_cons]

theorem set_set (m : Object) (p : List String) (a b : Option Value) :
    set (set m p a) p b = set m p b := by
  induction p generalizing m with
  | nil => rfl
  | cons k p ih =>
    cases p with
    | nil => exact put_put m k a b
    | cons k' p =>
      rw [set_cons_cons, set_cons_cons, child_put_self, nonempty_bind_asMap?, put_put, ih,
        ← set_cons_cons]

/-- The object at a path; whatever else lies there counts as an empty one. -/
def objectAt (m : Object) (path : List String) : Object :=
  ((getPath m.toValue path).bind Value.asMap?).getD ∅

theorem objectAt_cons (m : Object) (k : String) (path : List String) :
    objectAt m (k :: path) = objectAt (child m k) path := by
  cases path with
  | nil =>
    rw [objectAt, getPath_toValue_cons, objectAt, getPath, Option.bind_some,
      Value.asMap?_toValue, Option.getD_some, child]
    cases m[k]? <;> rfl
  | cons k' path => rw [objectAt, getPath_child, objectAt]

/-- On the way to the path written to stands the written object, unless it is empty. -/
theorem getPath_set_prefix (m : Object) {p r : List String} (hp : p ≠ []) (hr : r ≠ [])
    (v : Option Value) :
    getPath (set m (p ++ r) v).toValue p = nonempty (set (objectAt m p) r v) := by
  induction p generalizing m with
  | nil => exact absurd rfl hp
  | cons k p ih =>
    cases p with
    | nil =>
      obtain ⟨l, r, rfl⟩ := List.exists_cons_of_ne_nil hr
      rw [List.singleton_append, set_cons_cons, getPath_toValue_cons, getElem?_put, if_pos rfl,
        objectAt_cons]
      have hroot : objectAt (child m k) [] = child m k := by
        rw [objectAt, getPath, Option.bind_some, Value.asMap?_toValue, Option.getD_some]
      rw [hroot]
      cases nonempty (set (child m k) (l :: r) v) <;> rfl
    | cons k' p =>
      rw [List.cons_append, List.cons_append, set_cons_cons, getPath_child, child_put_self,
        nonempty_bind_asMap?, objectAt_cons]
      exact ih (child m k) (List.cons_ne_nil k' p)

/-! ### Removals -/

theorem remove_remove (p : List String) (m : Object) : remove p (remove p m) = remove p m :=
  set_set m p none none

theorem child_remove_cons_cons (m : Object) (k k' : String) (p : List String) :
    child (remove (k :: k' :: p) m) k = remove (k' :: p) (child m k) := by
  rw [remove_cons_cons, child_put_self, nonempty_bind_asMap?]

theorem remove_cons_remove_cons (m : Object) (k l l' : String) (p q : List String) :
    remove (k :: l :: p) (remove (k :: l' :: q) m) =
      put m k (nonempty (remove (l :: p) (remove (l' :: q) (child m k)))) := by
  rw [remove_cons_cons, child_remove_cons_cons, remove_cons_cons, put_put]

theorem remove_empty (p : List String) : remove p ∅ = ∅ := by
  have herase : ∀ k, put ∅ k none = (∅ : Object) := by
    intro k
    apply Std.ExtTreeMap.ext_getElem?
    intro k'
    rw [getElem?_put, Std.ExtTreeMap.getElem?_empty, ite_self]
  induction p with
  | nil => rfl
  | cons k p ih =>
    cases p with
    | nil => exact herase k
    | cons k' p =>
      have hchild : child ∅ k = ∅ := by
        rw [child, Std.ExtTreeMap.getElem?_empty, Option.bind_none, Option.getD_none]
      rw [remove_cons_cons, hchild, ih]
      exact herase k

theorem nonempty_empty : nonempty ∅ = none := by
  rw [nonempty, if_pos Std.ExtTreeMap.isEmpty_empty]

/-- Removing below a path that is removed removes nothing more. -/
theorem remove_cons_put_none (m : Object) (k : String) (p : List String) :
    remove (k :: p) (put m k none) = put m k none := by
  cases p with
  | nil => exact put_put m k none none
  | cons k' p =>
    rw [remove_cons_cons, child_put_self, Option.bind_none, Option.getD_none, remove_empty,
      nonempty_empty, put_put]

theorem remove_put_of_ne (m : Object) {k k' : String} (h : k ≠ k') (p : List String)
    (v : Option Value) : remove (k :: p) (put m k' v) = put (remove (k :: p) m) k' v := by
  cases p with
  | nil => exact put_comm m h.symm v none
  | cons l p =>
    rw [remove_cons_cons, child_put_of_ne m h.symm, put_comm m h.symm, ← remove_cons_cons]

/-- Removals commute, whether or not their paths are apart. -/
theorem remove_comm (p q : List String) (m : Object) :
    remove p (remove q m) = remove q (remove p m) := by
  induction p generalizing q m with
  | nil => rfl
  | cons k p ih =>
    cases q with
    | nil => rfl
    | cons k' q =>
      by_cases hk : k = k'
      · obtain rfl := hk
        cases p with
        | nil =>
          change put _ k none = remove (k :: q) (put m k none)
          rw [remove_cons_put_none]
          cases q with
          | nil => exact put_put m k none none
          | cons l q => rw [remove_cons_cons, put_put]
        | cons l p =>
          cases q with
          | nil =>
            change remove (k :: l :: p) (put m k none) = put _ k none
            rw [remove_cons_put_none, remove_cons_cons, put_put]
          | cons l' q =>
            rw [remove_cons_remove_cons, remove_cons_remove_cons, ih]
      · cases q with
        | nil => exact remove_put_of_ne m hk p none
        | cons l q =>
          rw [remove_cons_cons _ k' l, remove_cons_cons _ k' l, remove_put_of_ne m hk]
          congr 2
          cases p with
          | nil => rw [show remove [k] m = put m k none from rfl, child_put_of_ne m hk]
          | cons l' p => rw [remove_cons_cons _ k l', child_put_of_ne m hk]

/-- What a removal leaves at a path: nothing, the value that stood there, or what is left of
an object. -/
theorem getPath_remove (p q : List String) (m : Object) :
    getPath (remove p m).toValue q = none ∨
      getPath (remove p m).toValue q = getPath m.toValue q ∨
      ∃ m₀ m₁ : Object, ∃ v, getPath m.toValue q = some v ∧ v.asMap? = some m₀ ∧
        getPath (remove p m).toValue q = some m₁.toValue := by
  induction p generalizing m q with
  | nil => exact .inr (.inl rfl)
  | cons k p ih =>
    cases q with
    | nil =>
      exact .inr (.inr ⟨m, remove (k :: p) m, m.toValue, rfl, Value.asMap?_toValue m, rfl⟩)
    | cons k' q =>
      by_cases hk : k = k'
      · obtain rfl := hk
        cases p with
        | nil =>
          left
          change getPath (put m k none).toValue (k :: q) = none
          rw [getPath_toValue_cons, getElem?_put, if_pos rfl, Option.bind_none]
        | cons l p =>
          cases q with
          | nil =>
            rw [remove_cons_cons, getPath_toValue_cons, getElem?_put, if_pos rfl,
              getPath_toValue_cons, child]
            cases hv : m[k]? with
            | none =>
              left
              rw [Option.bind_none, Option.getD_none, remove_empty, nonempty_empty,
                Option.bind_none]
            | some v =>
              cases hm : v.asMap? with
              | none =>
                left
                rw [Option.bind_some, hm, Option.getD_none, remove_empty, nonempty_empty,
                  Option.bind_none]
              | some m₀ =>
                rw [Option.bind_some, hm, Option.getD_some, nonempty]
                split_ifs
                · exact .inl rfl
                · exact .inr (.inr ⟨m₀, remove (l :: p) m₀, v, rfl, hm, rfl⟩)
          | cons l' q =>
            rw [getPath_child, child_remove_cons_cons, getPath_child m]
            exact ih (l' :: q) (child m k)
      · right
        left
        exact getPath_set_of_apart m (apart_cons.mpr fun h => absurd h hk) none

theorem getPath_remove_self {p : List String} (hp : p ≠ []) (m : Object) :
    getPath (remove p m).toValue p = none :=
  getPath_set m hp none

theorem getPath_remove_of_eq_none (p : List String) {q : List String} {m : Object}
    (h : getPath m.toValue q = none) : getPath (remove p m).toValue q = none := by
  obtain hnone | hsame | ⟨m₀, m₁, v, hv, -, -⟩ := getPath_remove p q m
  · exact hnone
  · exact hsame.trans h
  · rw [h] at hv
    cases hv

/-- A value that disappears with another removal leaves nothing to remove. -/
theorem remove_of_vanished {p q : List String} {m : Object} (h : getPath m.toValue p ≠ none)
    (hgone : getPath (remove q m).toValue p = none) : remove p (remove q m) = remove q m := by
  induction q generalizing p m with
  | nil => exact absurd hgone h
  | cons k q ih =>
    cases p with
    | nil => rfl
    | cons k' p =>
      by_cases hk : k = k'
      · obtain rfl := hk
        cases q with
        | nil => exact remove_cons_put_none m k p
        | cons l q =>
          cases p with
          | nil =>
            rw [remove_cons_cons, getPath_toValue_cons, getElem?_put, if_pos rfl] at hgone
            have hempty : nonempty (remove (l :: q) (child m k)) = none := by
              rw [← hgone]
              cases nonempty (remove (l :: q) (child m k)) <;> rfl
            rw [remove_cons_cons, hempty]
            exact remove_cons_put_none m k []
          | cons l' p =>
            rw [getPath_child] at h
            rw [getPath_child, child_remove_cons_cons] at hgone
            rw [remove_cons_remove_cons, ih h hgone, ← remove_cons_cons]
      · have hap : Apart (k :: q) (k' :: p) := apart_cons.mpr fun heq => absurd heq hk
        exact absurd ((getPath_set_of_apart m hap none).symm.trans hgone) h

/-! ### Removing at several paths -/

def removeAll (paths : List (List String)) (m : Object) : Object :=
  paths.foldl (fun m path => remove path m) m

@[simp] theorem removeAll_nil (m : Object) : removeAll [] m = m := rfl

@[simp] theorem removeAll_cons (p : List String) (paths : List (List String)) (m : Object) :
    removeAll (p :: paths) m = removeAll paths (remove p m) := rfl

theorem removeAll_append (ps qs : List (List String)) (m : Object) :
    removeAll (ps ++ qs) m = removeAll qs (removeAll ps m) :=
  List.foldl_append

theorem removeAll_ite (c : Prop) [Decidable c] (paths : List (List String)) (m : Object) :
    removeAll (if c then paths else []) m = if c then removeAll paths m else m := by
  split_ifs <;> rfl

theorem removeAll_remove (p : List String) (paths : List (List String)) (m : Object) :
    removeAll paths (remove p m) = remove p (removeAll paths m) := by
  induction paths generalizing m with
  | nil => rfl
  | cons q paths ih => rw [removeAll_cons, removeAll_cons, remove_comm, ih]

theorem getPath_removeAll_of_apart {q : List String} {paths : List (List String)}
    (h : ∀ p ∈ paths, Apart p q) (m : Object) :
    getPath (removeAll paths m).toValue q = getPath m.toValue q := by
  induction paths generalizing m with
  | nil => rfl
  | cons p paths ih =>
    rw [removeAll_cons, ih fun p' hp' => h p' (List.mem_cons_of_mem p hp')]
    exact getPath_set_of_apart m (h p List.mem_cons_self) none

theorem getPath_removeAll_of_mem {p : List String} {paths : List (List String)} (hp : p ≠ [])
    (hmem : p ∈ paths) (m : Object) : getPath (removeAll paths m).toValue p = none := by
  induction paths generalizing m with
  | nil => cases hmem
  | cons q paths ih =>
    cases hmem with
    | head =>
      rw [removeAll_cons, removeAll_remove]
      exact getPath_remove_self hp _
    | tail _ hmem => exact ih hmem _

/-- Nothing is left below a path that is removed. -/
theorem getPath_removeAll_of_prefix {p q : List String} {paths : List (List String)} (hp : p ≠ [])
    (hmem : p ∈ paths) (hpq : p <+: q) (m : Object) :
    getPath (removeAll paths m).toValue q = none := by
  obtain ⟨r, rfl⟩ := hpq
  rw [getPath_append, getPath_removeAll_of_mem hp hmem]
  rfl

theorem getPath_removeAll_of_eq_none {q : List String} (paths : List (List String)) {m : Object}
    (h : getPath m.toValue q = none) : getPath (removeAll paths m).toValue q = none := by
  induction paths generalizing m with
  | nil => exact h
  | cons p paths ih => exact ih (getPath_remove_of_eq_none p h)

/-- What removals leave at a path: nothing, the value that stood there, or what is left of an
object. -/
theorem getPath_removeAll (paths : List (List String)) (q : List String) (m : Object) :
    getPath (removeAll paths m).toValue q = none ∨
      getPath (removeAll paths m).toValue q = getPath m.toValue q ∨
      ∃ m₀ m₁ : Object, ∃ v, getPath m.toValue q = some v ∧ v.asMap? = some m₀ ∧
        getPath (removeAll paths m).toValue q = some m₁.toValue := by
  induction paths generalizing m with
  | nil => exact .inr (.inl rfl)
  | cons p paths ih =>
    rw [removeAll_cons]
    obtain hnone | hsame | ⟨m₀, m₁, v, hv, hm₀, hm₁⟩ := ih (remove p m)
    · exact .inl hnone
    · rw [hsame]
      exact getPath_remove p q m
    · obtain hnone' | hsame' | ⟨m₂, -, w, hw, hm₂, -⟩ := getPath_remove p q m
      · rw [hnone'] at hv
        cases hv
      · exact .inr (.inr ⟨m₀, m₁, v, hsame'.symm.trans hv, hm₀, hm₁⟩)
      · exact .inr (.inr ⟨m₂, m₁, w, hw, hm₂, hm₁⟩)

/-- The order of removals does not matter. -/
theorem removeAll_perm {ps qs : List (List String)} (h : ps.Perm qs) (m : Object) :
    removeAll ps m = removeAll qs m := by
  induction h generalizing m with
  | nil => rfl
  | cons p _ ih => exact ih _
  | swap p q l => rw [removeAll_cons, removeAll_cons, remove_comm]; rfl
  | trans _ _ ih₁ ih₂ => exact (ih₁ m).trans (ih₂ m)

/-! ### Sifting: one pass that removes what fails a test -/

def sift (keep : List String → Option Value → Bool) (paths : List (List String)) (m : Object) :
    Object :=
  paths.foldl (fun m path => if keep path (getPath m.toValue path) then m else remove path m) m

@[simp] theorem sift_nil (keep : List String → Option Value → Bool) (m : Object) :
    sift keep [] m = m := rfl

theorem sift_cons (keep : List String → Option Value → Bool) (p : List String)
    (paths : List (List String)) (m : Object) :
    sift keep (p :: paths) m =
      sift keep paths (if keep p (getPath m.toValue p) then m else remove p m) := rfl

/-- Sifting only removes, and only at the paths it goes through. -/
theorem sift_eq_removeAll (keep : List String → Option Value → Bool)
    (paths : List (List String)) (m : Object) :
    ∃ removed, (∀ p ∈ removed, p ∈ paths) ∧ sift keep paths m = removeAll removed m := by
  induction paths generalizing m with
  | nil => exact ⟨[], fun _ h => h, rfl⟩
  | cons p paths ih =>
    rw [sift_cons]
    split_ifs
    · obtain ⟨removed, hmem, heq⟩ := ih m
      exact ⟨removed, fun q hq => List.mem_cons_of_mem p (hmem q hq), heq⟩
    · obtain ⟨removed, hmem, heq⟩ := ih (remove p m)
      refine ⟨p :: removed, List.forall_mem_cons.mpr ⟨List.mem_cons_self, fun q hq => ?_⟩, heq⟩
      exact List.mem_cons_of_mem p (hmem q hq)

theorem getPath_sift_of_apart {q : List String} {paths : List (List String)}
    (h : ∀ p ∈ paths, Apart p q) (keep : List String → Option Value → Bool) (m : Object) :
    getPath (sift keep paths m).toValue q = getPath m.toValue q := by
  obtain ⟨removed, hmem, heq⟩ := sift_eq_removeAll keep paths m
  rw [heq]
  exact getPath_removeAll_of_apart (fun p hp => h p (hmem p hp)) m

/-- A test that passes what is left of an object it passes, and passes an absent value. -/
def Lenient (keep : Option Value → Bool) : Prop :=
  keep none = true ∧ ∀ (v : Value) (m₀ m₁ : Object), v.asMap? = some m₀ → keep (some v) = true →
    keep (some m₁.toValue) = true

/-- What passes a lenient test passes it after any removals. -/
theorem Lenient.removeAll {keep : Option Value → Bool} (h : Lenient keep) {q : List String}
    {m : Object} (hq : keep (getPath m.toValue q) = true) (paths : List (List String)) :
    keep (getPath (removeAll paths m).toValue q) = true := by
  obtain hnone | hsame | ⟨m₀, m₁, v, hv, hm₀, hm₁⟩ := getPath_removeAll paths q m
  · rw [hnone]
    exact h.1
  · rw [hsame]
    exact hq
  · rw [hv] at hq
    rw [hm₁]
    exact h.2 v m₀ m₁ hm₀ hq

/-- After sifting, what is left at a path passes its test. -/
theorem keep_getPath_sift {keep : List String → Option Value → Bool} {p : List String}
    {paths : List (List String)} (hkeep : Lenient (keep p)) (hp : p ≠ []) (hmem : p ∈ paths)
    (m : Object) : keep p (getPath (sift keep paths m).toValue p) = true := by
  induction paths generalizing m with
  | nil => cases hmem
  | cons q paths ih =>
    rw [sift_cons]
    cases hmem with
    | head =>
      obtain ⟨removed, -, heq⟩ := sift_eq_removeAll keep paths
        (if keep p (getPath m.toValue p) then m else remove p m)
      rw [heq]
      apply hkeep.removeAll
      split_ifs with h
      · exact h
      · rw [getPath_remove_self hp]
        exact hkeep.1
    | tail _ hmem => exact ih hmem _

/-- A path whose test fails for every value is empty after sifting. -/
theorem getPath_sift_of_fails {keep : List String → Option Value → Bool} {p : List String}
    {paths : List (List String)} (hkeep : ∀ v, keep p v = false) (hp : p ≠ [])
    (hmem : p ∈ paths) (m : Object) : getPath (sift keep paths m).toValue p = none := by
  induction paths generalizing m with
  | nil => cases hmem
  | cons q paths ih =>
    rw [sift_cons]
    cases hmem with
    | head =>
      obtain ⟨removed, -, heq⟩ := sift_eq_removeAll keep paths
        (if keep p (getPath m.toValue p) then m else remove p m)
      rw [heq, hkeep]
      exact getPath_removeAll_of_eq_none removed (getPath_remove_self hp m)
    | tail _ hmem => exact ih hmem _

/-- Over paths apart from each other, sifting removes what fails its test at the start. -/
theorem sift_eq_removeAll_filter {paths : List (List String)} (h : paths.Pairwise Apart)
    (keep : List String → Option Value → Bool) (m : Object) :
    sift keep paths m =
      removeAll (paths.filter fun p => !keep p (getPath m.toValue p)) m := by
  induction paths generalizing m with
  | nil => rfl
  | cons p paths ih =>
    obtain ⟨hp, hpaths⟩ := List.pairwise_cons.mp h
    rw [sift_cons, ih hpaths, List.filter_cons]
    cases hkeep : keep p (getPath m.toValue p) with
    | true => rfl
    | false =>
      have hsame : ∀ q ∈ paths, getPath (remove p m).toValue q = getPath m.toValue q :=
        fun q hq => getPath_set_of_apart m (hp q hq) none
      rw [if_neg Bool.false_ne_true, Bool.not_false, if_pos rfl, removeAll_cons]
      congr 1
      apply List.filter_congr
      intro q hq
      rw [hsame q hq]

/-- At a path apart from the others of the list, what passes the test stays. -/
theorem getPath_sift_of_keep {keep : List String → Option Value → Bool} {p : List String}
    {paths : List (List String)} (h : ∀ q ∈ paths, q ≠ p → Apart q p) {m : Object}
    (hkeep : keep p (getPath m.toValue p) = true) :
    getPath (sift keep paths m).toValue p = getPath m.toValue p := by
  induction paths generalizing m with
  | nil => rfl
  | cons q paths ih =>
    obtain ⟨hq, hpaths⟩ := List.forall_mem_cons.mp h
    rw [sift_cons]
    by_cases hqp : q = p
    · rw [hqp, if_pos hkeep]
      exact ih hpaths hkeep
    · split_ifs
      · exact ih hpaths hkeep
      · have hsame := getPath_set_of_apart m (hq hqp) none
        rw [remove, ih hpaths (by rw [hsame]; exact hkeep), hsame]

/-- At a path apart from the others of the list, what fails the test goes. -/
theorem getPath_sift_of_drop {keep : List String → Option Value → Bool} {p : List String}
    {paths : List (List String)} (h : ∀ q ∈ paths, q ≠ p → Apart q p) (hp : p ≠ [])
    (hmem : p ∈ paths) {m : Object} (hkeep : keep p (getPath m.toValue p) = false) :
    getPath (sift keep paths m).toValue p = none := by
  induction paths generalizing m with
  | nil => cases hmem
  | cons q paths ih =>
    obtain ⟨hq, hpaths⟩ := List.forall_mem_cons.mp h
    rw [sift_cons]
    by_cases hqp : q = p
    · obtain ⟨removed, -, heq⟩ := sift_eq_removeAll keep paths (remove p m)
      rw [hqp, hkeep, if_neg Bool.false_ne_true, heq]
      exact getPath_removeAll_of_eq_none removed (getPath_remove_self hp m)
    · have hmem' : p ∈ paths := (List.mem_cons.mp hmem).resolve_left (Ne.symm hqp)
      split_ifs
      · exact ih hpaths hmem' hkeep
      · have hsame := getPath_set_of_apart m (hq hqp) none
        exact ih hpaths hmem' (by rw [remove, hsame]; exact hkeep)

theorem sift_eq_self {keep : List String → Option Value → Bool} {paths : List (List String)}
    {m : Object} (h : ∀ p ∈ paths, keep p (getPath m.toValue p) = true) :
    sift keep paths m = m := by
  induction paths with
  | nil => rfl
  | cons p paths ih =>
    obtain ⟨hp, hpaths⟩ := List.forall_mem_cons.mp h
    rw [sift_cons, if_pos hp]
    exact ih hpaths

/-- Over paths apart from each other the order of sifting does not matter. -/
theorem sift_perm {ps qs : List (List String)} (hperm : ps.Perm qs) (h : ps.Pairwise Apart)
    (keep : List String → Option Value → Bool) (m : Object) :
    sift keep ps m = sift keep qs m := by
  have hqs : qs.Pairwise Apart := hperm.pairwise h fun hpq => hpq.symm
  rw [sift_eq_removeAll_filter h, sift_eq_removeAll_filter hqs]
  exact removeAll_perm (hperm.filter _) m

/-- What is sifted stays as it is when it is sifted again. -/
theorem sift_sift {paths : List (List String)} (h : paths.Pairwise Apart)
    {keep : List String → Option Value → Bool} (hne : ∀ p ∈ paths, p ≠ [])
    (hnone : ∀ p ∈ paths, keep p none = true) (m : Object) :
    sift keep paths (sift keep paths m) = sift keep paths m := by
  apply sift_eq_self
  intro p hp
  have hlone : ∀ q ∈ paths, q ≠ p → Apart q p := fun q hq hqp => h.forall hq hp hqp
  cases hkeep : keep p (getPath m.toValue p) with
  | true => rw [getPath_sift_of_keep hlone hkeep, hkeep]
  | false =>
    rw [getPath_sift_of_drop hlone (hne p hp) hp hkeep]
    exact hnone p hp

/-- Neither at nor below a path that is sifted, a value stays, unless it is an object around a
path whose test fails: what is left of that is an object or nothing. -/
theorem getPath_sift_outside {paths : List (List String)} (h : paths.Pairwise Apart)
    {keep : List String → Option Value → Bool} (hnone : ∀ p ∈ paths, keep p none = true)
    {q : List String} (hq : ∀ p ∈ paths, ¬ p <+: q) (m : Object) :
    getPath (sift keep paths m).toValue q = getPath m.toValue q ∨
      (∃ p ∈ paths, q <+: p ∧ keep p (getPath m.toValue p) = false) ∧
        ∃ v m₀, getPath m.toValue q = some v ∧ v.asMap? = some m₀ ∧
        (getPath (sift keep paths m).toValue q = none ∨
          ∃ m₁ : Object, getPath (sift keep paths m).toValue q = some m₁.toValue) := by
  rw [sift_eq_removeAll_filter h]
  by_cases haround : ∃ p ∈ paths.filter fun p => !keep p (getPath m.toValue p), q <+: p
  · obtain ⟨p, hp, hqp⟩ := haround
    obtain ⟨hmem, hfilter⟩ := List.mem_filter.mp hp
    have hfails : keep p (getPath m.toValue p) = false := by
      simpa only [Bool.not_eq_true'] using hfilter
    have hcleared : ∃ p ∈ paths, q <+: p ∧ keep p (getPath m.toValue p) = false :=
      ⟨p, hmem, hqp, hfails⟩
    obtain hgone | hsame | ⟨m₀, m₁, v, hv, hm₀, hm₁⟩ := getPath_removeAll
      (paths.filter fun p => !keep p (getPath m.toValue p)) q m
    · right
      obtain ⟨r, rfl⟩ := hqp
      have hr : r ≠ [] := by
        rintro rfl
        exact hq _ hmem (by simp only [List.append_nil, List.prefix_rfl])
      obtain ⟨k, r, rfl⟩ := List.exists_cons_of_ne_nil hr
      cases hv : getPath m.toValue (q ++ k :: r) with
      | none =>
        rw [hv, hnone _ hmem] at hfails
        cases hfails
      | some w =>
        rw [getPath_append, Option.bind_eq_some_iff] at hv
        obtain ⟨v, hv, hbelow⟩ := hv
        cases hm₀ : v.asMap? with
        | none =>
          rw [getPath, hm₀] at hbelow
          cases hbelow
        | some m₀ => exact ⟨hcleared, v, m₀, hv, hm₀, .inl hgone⟩
    · exact .inl hsame
    · exact .inr ⟨hcleared, v, m₀, hv, hm₀, .inr ⟨m₁, hm₁⟩⟩
  · left
    apply getPath_removeAll_of_apart
    intro p hp
    exact ⟨hq p (List.mem_filter.mp hp).1, fun hqp => haround ⟨p, hp, hqp⟩⟩

end ObjectPath
