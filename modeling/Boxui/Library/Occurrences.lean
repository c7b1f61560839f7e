import Mathlib.Data.List.Nodup

/-! Carrying entries of one list over to another by key. The `n`-th occurrence of a key in the
new list takes the entry of its `n`-th occurrence in the old one; a position left over takes
the old entry at the same position, if nothing else has. -/
namespace Occurrences

variable {κ : Type*} [DecidableEq κ]

/-- The `n`-th occurrence of some key is at `i` in the new list and at `j` in the old one. -/
def Matched (old new : List κ) (i j : Nat) : Prop :=
  ∃ x n, n < new.count x ∧ n < old.count x ∧ new.idxOfNth x n = i ∧ old.idxOfNth x n = j

/-- The old entry each new position takes, if any. -/
structure Carries (old new : List κ) (carried : List (Option Nat)) : Prop where
  length_eq : carried.length = new.length
  matched : ∀ i j, Matched old new i j → carried[i]? = some (some j)
  in_place : ∀ i < new.length, i < old.length → (∀ j, ¬Matched old new i j) →
    (∀ i', ¬Matched old new i' i) → carried[i]? = some (some i)
  empty : ∀ i < new.length, (∀ j, ¬Matched old new i j) →
    (i < old.length → ∃ i', Matched old new i' i) → carried[i]? = some none
  injective : ∀ i i' j : Nat, carried[i]? = some (some j) → carried[i']? = some (some j) → i = i'

theorem matched_iff (old new : List κ) (i j : Nat) :
    Matched old new i j ↔ ∃ (hi : i < new.length) (hj : j < old.length), new[i] = old[j] ∧
      new.countBefore new[i] i = old.countBefore old[j] j := by
  constructor
  · rintro ⟨x, n, hnew, hold, rfl, rfl⟩
    have hi := List.idxOfNth_lt_length_of_lt_count hnew
    have hj := List.idxOfNth_lt_length_of_lt_count hold
    have hxi : new[new.idxOfNth x n] = x := List.getElem_idxOfNth_eq
    have hxj : old[old.idxOfNth x n] = x := List.getElem_idxOfNth_eq
    refine ⟨hi, hj, hxi.trans hxj.symm, ?_⟩
    rw [hxi, hxj, List.countBefore_idxOfNth_of_lt_count hnew,
      List.countBefore_idxOfNth_of_lt_count hold]
  · rintro ⟨hi, hj, hkey, hbefore⟩
    refine ⟨new[i], new.countBefore new[i] i, List.countBefore_lt_count_getElem, ?_,
      List.idxOfNth_countBefore_getElem, ?_⟩
    · rw [hbefore, hkey]
      exact List.countBefore_lt_count_getElem
    · rw [hbefore, hkey]
      exact List.idxOfNth_countBefore_getElem

theorem Matched.left_unique {old new : List κ} {i i' j : Nat} (h : Matched old new i j)
    (h' : Matched old new i' j) : i = i' := by
  obtain ⟨hi, hj, hkey, hbefore⟩ := (matched_iff old new i j).mp h
  obtain ⟨hi', hj', hkey', hbefore'⟩ := (matched_iff old new i' j).mp h'
  have hself : new.idxOfNth new[i] (new.countBefore new[i] i) = i :=
    List.idxOfNth_countBefore_getElem
  have hself' : new.idxOfNth new[i'] (new.countBefore new[i'] i') = i' :=
    List.idxOfNth_countBefore_getElem
  rw [hbefore, hkey] at hself
  rw [hbefore', hkey'] at hself'
  exact hself.symm.trans hself'

theorem Matched.symm {old new : List κ} {i j : Nat} (h : Matched old new i j) :
    Matched new old j i := by
  obtain ⟨x, n, hnew, hold, hi, hj⟩ := h
  exact ⟨x, n, hold, hnew, hj, hi⟩

/-- Only which entries are equal matters, not what their keys are. -/
theorem matched_map_iff {α κ' : Type*} [DecidableEq κ'] {old new : List α} {f : α → κ} {g : α → κ'}
    (hfg : ∀ x ∈ old ++ new, ∀ y ∈ old ++ new, f x = f y ↔ g x = g y) (i j : Nat) :
    Matched (old.map f) (new.map f) i j ↔ Matched (old.map g) (new.map g) i j := by
  have hbefore {l : List α} (hl : l ⊆ old ++ new) {i : Nat} (hi : i < l.length) :
      (l.map f).countBefore (f l[i]) i = (l.map g).countBefore (g l[i]) i := by
    rw [List.countBefore_eq_count_take, List.countBefore_eq_count_take, ← List.map_take,
      ← List.map_take, List.count_eq_countP, List.count_eq_countP, List.countP_map,
      List.countP_map]
    apply List.countP_congr
    intro x hx
    simpa using hfg x (hl (List.mem_of_mem_take hx)) l[i] (hl (List.getElem_mem hi))
  rw [matched_iff, matched_iff]
  simp only [List.length_map, List.getElem_map]
  refine exists_congr fun hi => exists_congr fun hj => ?_
  rw [hbefore (List.subset_append_right old new) hi, hbefore (List.subset_append_left old new) hj,
    hfg _ (List.mem_append_right _ (List.getElem_mem hi)) _
      (List.mem_append_left _ (List.getElem_mem hj))]

theorem Carries.map_congr {α κ' : Type*} [DecidableEq κ'] {old new : List α} {f : α → κ}
    {g : α → κ'} (hfg : ∀ x ∈ old ++ new, ∀ y ∈ old ++ new, f x = f y ↔ g x = g y)
    {carried : List (Option Nat)} (h : Carries (old.map f) (new.map f) carried) :
    Carries (old.map g) (new.map g) carried := by
  obtain ⟨hlength, hmatched, hinPlace, hempty, hinjective⟩ := h
  simp only [matched_map_iff hfg, List.length_map] at hlength hmatched hinPlace hempty
  refine ⟨?_, hmatched, ?_, ?_, hinjective⟩ <;> simpa only [List.length_map]

/-- A list carries all its entries over to itself. -/
theorem Carries.self {keys : List κ} {carried : List (Option Nat)}
    (h : Carries keys keys carried) : carried = (List.range keys.length).map some := by
  apply List.ext_getElem?
  intro i
  by_cases hi : i < keys.length
  · rw [h.matched i i ((matched_iff keys keys i i).mpr ⟨hi, hi, rfl, rfl⟩)]
    simp [hi]
  · rw [List.getElem?_eq_none (by rw [h.length_eq]; omega),
      List.getElem?_eq_none (by simpa using Nat.le_of_not_lt hi)]

/-- With distinct keys every new entry takes the old one with its key. -/
theorem Carries.of_nodup {old new : List κ} {carried : List (Option Nat)}
    (h : Carries old new carried) (hold : old.Nodup) (hnew : new.Nodup) {i j : Nat}
    (hi : i < new.length) (hj : j < old.length) (hkey : new[i] = old[j]) :
    carried[i]? = some (some j) := by
  have hfirst {l : List κ} (hl : l.Nodup) {i : Nat} (hi : i < l.length) :
      l.countBefore l[i] i = 0 := by
    have hlt : l.countBefore l[i] i < l.count l[i] := List.countBefore_lt_count_getElem
    have hle := List.nodup_iff_count_le_one.mp hl l[i]
    omega
  apply h.matched
  rw [matched_iff]
  exact ⟨hi, hj, hkey, (hfirst hnew hi).trans (hfirst hold hj).symm⟩

/-- Which positions hold one of the first occurrences of their key, as many as `served` has. -/
def marks (keys served : List κ) : List Bool :=
  keys.mapIdx fun j x => decide (keys.countBefore x j < served.count x)

@[simp] theorem length_marks (keys served : List κ) :
    (marks keys served).length = keys.length := by
  simp [marks]

theorem getElem_marks (keys served : List κ) {j : Nat} (hj : j < keys.length)
    (hmarks : j < (marks keys served).length) :
    (marks keys served)[j] =
      decide (keys.countBefore keys[j] j < served.count keys[j]) := by
  simp [marks]

theorem marks_nil (keys : List κ) : marks keys [] = keys.map fun _ => false := by
  apply List.ext_getElem
  · simp
  · intro j hj hj'
    simp [marks]

theorem countBefore_lt_iff (keys : List κ) {j : Nat} (n : Nat) (hj : j < keys.length) :
    keys.countBefore keys[j] j < n ↔ j < keys.idxOfNth keys[j] n := by
  have hself : keys.idxOfNth keys[j] (keys.countBefore keys[j] j) = j :=
    List.idxOfNth_countBefore_getElem
  have hbefore : keys.countBefore keys[j] j < keys.count keys[j] :=
    List.countBefore_lt_count_getElem
  have hlt := List.idxOfNth_lt_idxOfNth_iff_of_lt_count (m := n) hbefore
  rw [hself] at hlt
  exact hlt.symm

/-- The first unmarked position of a key is its next occurrence. -/
theorem findIdx?_marks (keys served : List κ) (x : κ) :
    (keys.zip (marks keys served)).findIdx? (fun p => !p.2 && p.1 == x) =
      if served.count x < keys.count x then some (keys.idxOfNth x (served.count x)) else none := by
  split_ifs with hcount
  · have hlen := List.idxOfNth_lt_length_of_lt_count hcount
    have hkey : keys[keys.idxOfNth x (served.count x)] = x := List.getElem_idxOfNth_eq
    rw [List.findIdx?_eq_some_iff_getElem]
    refine ⟨by simpa using hlen, ?_, ?_⟩
    · simp only [List.getElem_zip, getElem_marks keys served hlen, hkey,
        List.countBefore_idxOfNth_of_lt_count hcount]
      simp
    · intro j hj
      have hjlen : j < keys.length := Nat.lt_trans hj hlen
      simp only [List.getElem_zip, getElem_marks keys served hjlen]
      by_cases hx : keys[j] = x
      · have hbefore : keys.countBefore keys[j] j < served.count keys[j] := by
          rw [countBefore_lt_iff keys _ hjlen, hx]
          exact hj
        simp [hbefore]
      · simp [hx]
  · rw [List.findIdx?_eq_none_iff]
    intro p hp
    obtain ⟨j, hj, rfl⟩ := List.getElem_of_mem hp
    have hjlen : j < keys.length := by simpa using hj
    simp only [List.getElem_zip, getElem_marks keys served hjlen]
    by_cases hx : keys[j] = x
    · have hbefore : keys.countBefore keys[j] j < keys.count keys[j] :=
        List.countBefore_lt_count_getElem
      rw [hx] at hbefore
      have hserved : keys.countBefore keys[j] j < served.count keys[j] := by
        rw [hx]
        omega
      simp [hserved]
    · simp [hx]

theorem marks_set (keys served : List κ) {x : κ} (hcount : served.count x < keys.count x) :
    (marks keys served).set (keys.idxOfNth x (served.count x)) true =
      marks keys (served ++ [x]) := by
  apply List.ext_getElem
  · simp
  · intro j hj hj'
    have hjlen : j < keys.length := by simpa using hj'
    rw [List.getElem_set, getElem_marks keys _ hjlen, getElem_marks keys _ hjlen]
    have hself : keys.idxOfNth keys[j] (keys.countBefore keys[j] j) = j :=
      List.idxOfNth_countBefore_getElem
    by_cases hx : keys[j] = x
    · rw [hx] at hself ⊢
      rw [List.count_append, List.count_singleton_self]
      split_ifs with heq
      · rw [← heq, List.countBefore_idxOfNth_of_lt_count hcount]
        simp
      · have hne : keys.countBefore x j ≠ served.count x := by
          intro h
          rw [h] at hself
          exact heq hself
        rw [decide_eq_decide]
        omega
    · have hne : keys.idxOfNth x (served.count x) ≠ j := by
        rintro rfl
        exact hx List.getElem_idxOfNth_eq
      rw [if_neg hne, List.count_append, List.count_singleton, if_neg (by simpa using Ne.symm hx)]
      rfl

theorem marks_append_of_exhausted (keys served : List κ) {x : κ}
    (hcount : keys.count x ≤ served.count x) :
    marks keys (served ++ [x]) = marks keys served := by
  apply List.ext_getElem
  · simp
  · intro j hj hj'
    have hjlen : j < keys.length := by simpa using hj'
    rw [getElem_marks keys _ hjlen, getElem_marks keys _ hjlen, decide_eq_decide,
      List.count_append]
    have hbefore : keys.countBefore keys[j] j < keys.count keys[j] :=
      List.countBefore_lt_count_getElem
    by_cases hx : keys[j] = x
    · rw [hx] at hbefore ⊢
      omega
    · rw [List.count_singleton, if_neg (by simpa using Ne.symm hx)]
      rfl

theorem marks_append (keys : List κ) {served extra : List κ}
    (hextra : ∀ x ∈ extra, keys.count x ≤ served.count x) :
    marks keys (served ++ extra) = marks keys served := by
  induction extra generalizing served with
  | nil => rw [List.append_nil]
  | cons x extra ih =>
    have hrest : ∀ y ∈ extra, keys.count y ≤ (served ++ [x]).count y := by
      intro y hy
      rw [List.count_append]
      exact Nat.le_add_right_of_le (hextra y (List.mem_cons_of_mem x hy))
    rw [← marks_append_of_exhausted keys served (hextra x List.mem_cons_self), ← ih hrest,
      List.append_assoc, List.singleton_append]

/-- The entries that a pass over the new list finds for its own keys. -/
def firstPass (old new : List κ) : List (Option Nat) :=
  new.mapIdx fun i x =>
    if new.countBefore x i < old.count x then some (old.idxOfNth x (new.countBefore x i))
    else none

/-- What both passes together carry over. -/
def carried (old new : List κ) : List (Option Nat) :=
  (firstPass old new).mapIdx fun i source =>
    if source = none ∧ (marks old new)[i]? = some false then some i else source

theorem firstPass_eq_some_iff (old new : List κ) (i j : Nat) :
    (firstPass old new)[i]? = some (some j) ↔ Matched old new i j := by
  rw [matched_iff]
  simp only [firstPass, List.getElem?_mapIdx, Option.map_eq_some_iff,
    List.getElem?_eq_some_iff, Option.ite_none_right_eq_some, Option.some.injEq]
  constructor
  · rintro ⟨x, ⟨hi, rfl⟩, hcount, rfl⟩
    have hj := List.idxOfNth_lt_length_of_lt_count hcount
    have hkey : old[old.idxOfNth new[i] (new.countBefore new[i] i)] = new[i] :=
      List.getElem_idxOfNth_eq
    refine ⟨hi, hj, hkey.symm, ?_⟩
    rw [hkey, List.countBefore_idxOfNth_of_lt_count hcount]
  · rintro ⟨hi, hj, hkey, hbefore⟩
    refine ⟨new[i], ⟨hi, rfl⟩, ?_, ?_⟩
    · rw [hbefore, hkey]
      exact List.countBefore_lt_count_getElem
    · rw [hbefore, hkey]
      exact List.idxOfNth_countBefore_getElem

theorem firstPass_eq_none_iff (old new : List κ) {i : Nat} (hi : i < new.length) :
    (firstPass old new)[i]? = some none ↔ ∀ j, ¬Matched old new i j := by
  simp only [← firstPass_eq_some_iff]
  have hlen : i < (firstPass old new).length := by simpa [firstPass] using hi
  rw [List.getElem?_eq_getElem hlen]
  cases (firstPass old new)[i] with
  | none => simp
  | some j =>
    simp only [Option.some.injEq, reduceCtorEq, false_iff, not_forall, not_not]
    exact ⟨j, rfl⟩

/-- A position of the old list is left unmarked exactly when no match has consumed it. -/
theorem marks_eq_false_iff (old new : List κ) {j : Nat} (hj : j < old.length) :
    (marks old new)[j]? = some false ↔ ∀ i, ¬Matched old new i j := by
  rw [List.getElem?_eq_getElem (by simpa using hj), getElem_marks old new hj]
  simp only [Option.some.injEq, decide_eq_false_iff_not]
  constructor
  · rintro h i hmatched
    obtain ⟨hi, hj', hkey, hbefore⟩ := (matched_iff old new i j).mp hmatched
    apply h
    rw [← hbefore, ← hkey]
    exact List.countBefore_lt_count_getElem
  · intro h hlt
    exact h _ ⟨old[j], old.countBefore old[j] j, hlt, List.countBefore_lt_count_getElem, rfl,
      List.idxOfNth_countBefore_getElem⟩

theorem carries_carried (old new : List κ) : Carries old new (carried old new) := by
  have hget (i : Nat) : (carried old new)[i]? = (firstPass old new)[i]?.map fun source =>
      if source = none ∧ (marks old new)[i]? = some false then some i else source := by
    rw [carried, List.getElem?_mapIdx]
  have hlen : (firstPass old new).length = new.length := by simp [firstPass]
  have hbound : ∀ i source, (firstPass old new)[i]? = some source → i < new.length := by
    intro i source h
    rw [← hlen]
    exact (List.getElem?_eq_some_iff.mp h).1
  have hmarks : ∀ i, (marks old new)[i]? = some false → i < old.length := by
    intro i h
    simpa using (List.getElem?_eq_some_iff.mp h).1
  have hsource : ∀ i j, (carried old new)[i]? = some (some j) →
      Matched old new i j ∨ i = j ∧ ∀ i', ¬Matched old new i' j := by
    intro i j h
    rw [hget, Option.map_eq_some_iff] at h
    obtain ⟨source, hfirst, hsource⟩ := h
    split_ifs at hsource with hin
    · obtain rfl := Option.some.inj hsource
      exact .inr ⟨rfl, (marks_eq_false_iff old new (hmarks i hin.2)).mp hin.2⟩
    · rw [hsource] at hfirst
      exact .inl ((firstPass_eq_some_iff old new i j).mp hfirst)
  refine ⟨by simp [carried, hlen], ?_, ?_, ?_, ?_⟩
  · intro i j hmatched
    rw [hget, (firstPass_eq_some_iff old new i j).mpr hmatched]
    simp
  · intro i hi hold hnone hfree
    rw [hget, (firstPass_eq_none_iff old new hi).mpr hnone,
      (marks_eq_false_iff old new hold).mpr hfree]
    simp
  · intro i hi hnone hconsumed
    rw [hget, (firstPass_eq_none_iff old new hi).mpr hnone, Option.map_some,
      if_neg]
    rintro ⟨-, hmark⟩
    have hold := hmarks i hmark
    obtain ⟨i', hmatched⟩ := hconsumed hold
    exact (marks_eq_false_iff old new hold).mp hmark i' hmatched
  · intro i i' j h h'
    rcases hsource i j h with hmatched | ⟨rfl, hfree⟩
    · rcases hsource i' j h' with hmatched' | ⟨rfl, hfree'⟩
      · exact hmatched.left_unique hmatched'
      · exact absurd hmatched (hfree' i)
    · rcases hsource i' i h' with hmatched' | ⟨heq, -⟩
      · exact absurd hmatched' (hfree i')
      · exact heq.symm

/-- New positions at the end of the list take nothing over when neither their keys nor their
places have an entry left, and nothing changes for the positions before them. -/
theorem carried_append {old new extra : List κ} (hlen : old.length ≤ new.length)
    (hextra : ∀ x ∈ extra, old.count x ≤ new.count x) :
    carried old (new ++ extra) = carried old new ++ extra.map fun _ => none := by
  have hbefore (x : κ) {i : Nat} (hi : i < new.length) :
      (new ++ extra).countBefore x i = new.countBefore x i := by
    rw [List.countBefore_eq_count_take, List.countBefore_eq_count_take,
      List.take_append_of_le_length (Nat.le_of_lt hi)]
  have hfirst : firstPass old (new ++ extra) = firstPass old new ++ extra.map fun _ => none := by
    rw [firstPass, List.mapIdx_append]
    congr 1
    · refine List.mapIdx_eq_mapIdx_iff.mpr fun i hi => ?_
      rw [hbefore _ hi]
    · rw [List.mapIdx_eq_iff]
      intro i
      rw [List.getElem?_map]
      cases hx : extra[i]? with
      | none => rfl
      | some x =>
        have hmem : x ∈ extra := List.mem_of_getElem? hx
        have hcount : new.count x ≤ (new ++ extra).countBefore x (i + new.length) := by
          rw [List.countBefore_eq_count_take, List.take_append, List.count_append,
            List.take_of_length_le (by omega)]
          exact Nat.le_add_right _ _
        rw [Option.map_some, Option.map_some, if_neg]
        exact Nat.not_lt.mpr (Nat.le_trans (hextra x hmem) hcount)
  have hfirstlen : (firstPass old new).length = new.length := by simp [firstPass]
  rw [carried, hfirst, marks_append old hextra, List.mapIdx_append]
  congr 1
  rw [List.mapIdx_eq_iff]
  intro i
  have hplace : (marks old new)[i + (firstPass old new).length]? = none := by
    rw [List.getElem?_eq_none_iff, length_marks, hfirstlen]
    omega
  rw [hplace, List.getElem?_map]
  cases extra[i]? <;> simp

end Occurrences
