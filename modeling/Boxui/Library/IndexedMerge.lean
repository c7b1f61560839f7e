import Mathlib.Data.List.Nodup
import Mathlib.Data.List.Infix

/-! Merging items into a list under their tags: an item takes the place of the last element with
its tag, or comes behind all others. -/
namespace IndexedMerge

variable {α β κ : Type*} [DecidableEq κ] {tag : α → κ} {l items merged : List α}

/-- The last position of a tag. -/
def LastAt (tags : List κ) (t : κ) (i : Nat) : Prop :=
  tags[i]? = some t ∧ ∀ j, i < j → tags[j]? ≠ some t

omit [DecidableEq κ] in
theorem LastAt.unique {tags : List κ} {t : κ} {i j : Nat} (hi : LastAt tags t i)
    (hj : LastAt tags t j) : i = j := by
  rcases Nat.lt_trichotomy i j with hlt | heq | hgt
  · exact absurd hj.1 (hi.2 j hlt)
  · exact heq
  · exact absurd hi.1 (hj.2 i hgt)

omit [DecidableEq κ] in
theorem LastAt.lt {tags : List κ} {t : κ} {i : Nat} (h : LastAt tags t i) : i < tags.length :=
  (List.getElem?_eq_some_iff.mp h.1).1

omit [DecidableEq κ] in
theorem LastAt.mem {tags : List κ} {t : κ} {i : Nat} (h : LastAt tags t i) : t ∈ tags :=
  List.mem_of_getElem? h.1

omit [DecidableEq κ] in
theorem LastAt.append_left {tags tags' : List κ} {t : κ} {i : Nat} (h : LastAt tags t i)
    (hnew : t ∉ tags') : LastAt (tags ++ tags') t i := by
  have hlt := h.lt
  refine ⟨by rw [List.getElem?_append_left hlt, h.1], ?_⟩
  intro j hij hj
  rcases Nat.lt_or_ge j tags.length with hold | hbehind
  · rw [List.getElem?_append_left hold] at hj
    exact h.2 j hij hj
  · rw [List.getElem?_append_right hbehind] at hj
    exact hnew (List.mem_of_getElem? hj)

omit [DecidableEq κ] in
theorem LastAt.append_right {tags' : List κ} {t : κ} {i : Nat} (h : LastAt tags' t i)
    (tags : List κ) : LastAt (tags ++ tags') t (tags.length + i) := by
  refine ⟨by rw [List.getElem?_append_right (Nat.le_add_right _ _), Nat.add_sub_cancel_left, h.1],
    ?_⟩
  intro j hij
  rw [List.getElem?_append_right (by omega)]
  exact h.2 _ (by omega)

omit [DecidableEq κ] in
/-- A tag that is there has a last position. -/
theorem exists_lastAt {tags : List κ} {t : κ} (h : t ∈ tags) : ∃ i, LastAt tags t i := by
  classical
  induction tags using List.reverseRecOn with
  | nil => cases h
  | append_singleton tags t' ih =>
    by_cases heq : t' = t
    · subst heq
      refine ⟨tags.length, by simp, ?_⟩
      intro j hj
      rw [List.getElem?_eq_none (by simp; omega)]
      simp
    · have hmem : t ∈ tags := by
        rcases List.mem_append.mp h with hmem | hmem
        · exact hmem
        · exact absurd (List.mem_singleton.mp hmem).symm heq
      obtain ⟨i, hi⟩ := ih hmem
      exact ⟨i, hi.append_left (by simpa using Ne.symm heq)⟩

/-- What a merge makes of a list. -/
structure Merged (tag : α → κ) (l items merged : List α) : Prop where
  replaced : ∀ x ∈ items, ∀ i, LastAt (l.map tag) (tag x) i → merged[i]? = some x
  kept : ∀ i < l.length, (∀ x ∈ items, ¬LastAt (l.map tag) (tag x) i) → merged[i]? = l[i]?
  appended : merged.drop l.length = items.filter fun x => tag x ∉ l.map tag

/-- The loop of a merge, over an index that is made before. -/
def merge (tag : α → κ) (index : κ → Option Nat) (l items : List α) : List α :=
  items.foldl (fun merged x =>
    match index (tag x) with
    | some i => merged.set i x
    | none => merged ++ [x]) l

/-- The replacements alone. -/
def replace (tag : α → κ) (index : κ → Option Nat) (l items : List α) : List α :=
  items.foldl (fun merged x =>
    match index (tag x) with
    | some i => merged.set i x
    | none => merged) l

variable {index : κ → Option Nat}

omit [DecidableEq κ] in
theorem length_replace (l items : List α) : (replace tag index l items).length = l.length := by
  induction items generalizing l with
  | nil => rfl
  | cons x items ih =>
    rw [replace, List.foldl_cons]
    cases index (tag x) with
    | none => exact ih l
    | some i => exact (ih (l.set i x)).trans List.length_set

omit [DecidableEq κ] in
theorem getElem?_replace_of_ne {i : Nat} (h : ∀ x ∈ items, index (tag x) ≠ some i) (l : List α) :
    (replace tag index l items)[i]? = l[i]? := by
  induction items generalizing l with
  | nil => rfl
  | cons x items ih =>
    have hrest := ih fun y hy => h y (List.mem_cons_of_mem x hy)
    have hx := h x List.mem_cons_self
    rw [replace, List.foldl_cons]
    cases hindex : index (tag x) with
    | none => exact hrest l
    | some j =>
      have hne : j ≠ i := fun heq => hx (heq ▸ hindex)
      exact (hrest (l.set j x)).trans (List.getElem?_set_ne hne)

omit [DecidableEq κ] in
theorem getElem?_replace {x : α} {i : Nat} (hnodup : (items.map tag).Nodup)
    (hinj : ∀ y ∈ items, ∀ z ∈ items, ∀ i, index (tag y) = some i → index (tag z) = some i →
      tag y = tag z)
    (hx : x ∈ items) (hindex : index (tag x) = some i) (hlt : i < l.length) :
    (replace tag index l items)[i]? = some x := by
  induction items generalizing l with
  | nil => cases hx
  | cons y items ih =>
    rw [List.map_cons, List.nodup_cons] at hnodup
    rcases List.mem_cons.mp hx with rfl | hmem
    · have hother : ∀ z ∈ items, index (tag z) ≠ some i := by
        intro z hz hzi
        have heq := hinj x List.mem_cons_self z (List.mem_cons_of_mem x hz) i hindex hzi
        exact hnodup.1 (heq ▸ List.mem_map_of_mem hz)
      rw [replace, List.foldl_cons, hindex]
      exact (getElem?_replace_of_ne hother (l.set i x)).trans (List.getElem?_set_self hlt)
    · have hrest := fun (l : List α) => ih (l := l) hnodup.2
        (fun z hz w hw => hinj z (List.mem_cons_of_mem y hz) w (List.mem_cons_of_mem y hw)) hmem
      rw [replace, List.foldl_cons]
      cases index (tag y) with
      | none => exact hrest l hlt
      | some j => exact hrest (l.set j y) (by rwa [List.length_set])

omit [DecidableEq κ] in
/-- The replacements happen in the list, and the items without a place come behind it. -/
theorem merge_append (hlt : ∀ x ∈ items, ∀ i, index (tag x) = some i → i < l.length)
    (extra : List α) : merge tag index (l ++ extra) items =
      replace tag index l items ++ extra ++ items.filter fun x => (index (tag x)).isNone := by
  induction items generalizing l extra with
  | nil => simp [merge, replace]
  | cons x items ih =>
    have hrest : ∀ y ∈ items, ∀ i, index (tag y) = some i → i < l.length :=
      fun y hy => hlt y (List.mem_cons_of_mem x hy)
    rw [merge, List.foldl_cons, replace, List.foldl_cons]
    cases hindex : index (tag x) with
    | none =>
      rw [List.filter_cons_of_pos (by simp [hindex])]
      have h := ih hrest (extra ++ [x])
      rw [← List.append_assoc] at h
      refine h.trans ?_
      simp [replace]
    | some i =>
      rw [List.filter_cons_of_neg (by simp [hindex])]
      dsimp only
      rw [List.set_append_left i x (hlt x List.mem_cons_self i hindex)]
      exact ih (fun y hy j hj => by rw [List.length_set]; exact hrest y hy j hj) extra

theorem merged_merge
    (hindex : ∀ x ∈ items, ∀ i, index (tag x) = some i ↔ LastAt (l.map tag) (tag x) i)
    (hnodup : (items.map tag).Nodup) : Merged tag l items (merge tag index l items) := by
  have hlt : ∀ x ∈ items, ∀ i, index (tag x) = some i → i < l.length := by
    intro x hx i hi
    simpa using ((hindex x hx i).mp hi).lt
  have hinj : ∀ y ∈ items, ∀ z ∈ items, ∀ i, index (tag y) = some i → index (tag z) = some i →
      tag y = tag z := by
    intro y hy z hz i hyi hzi
    have hy' := ((hindex y hy i).mp hyi).1
    rw [((hindex z hz i).mp hzi).1] at hy'
    exact (Option.some.inj hy').symm
  have hmerge : merge tag index l items =
      replace tag index l items ++ items.filter fun x => (index (tag x)).isNone := by
    have h := merge_append hlt []
    rwa [List.append_nil, List.append_nil] at h
  have hlength : (replace tag index l items).length = l.length := length_replace l items
  constructor
  · intro x hx i hi
    have hi' : i < l.length := by simpa using hi.lt
    rw [hmerge, List.getElem?_append_left (hlength ▸ hi')]
    exact getElem?_replace hnodup hinj hx ((hindex x hx i).mpr hi) hi'
  · intro i hi hnot
    rw [hmerge, List.getElem?_append_left (hlength ▸ hi)]
    exact getElem?_replace_of_ne (fun x hx h => hnot x hx ((hindex x hx i).mp h)) l
  · rw [hmerge, ← hlength, List.drop_left]
    apply List.filter_congr
    intro x hx
    rw [Bool.eq_iff_iff, Option.isNone_iff_eq_none, decide_eq_true_eq]
    constructor
    · intro hnone hmem
      obtain ⟨i, hi⟩ := exists_lastAt hmem
      rw [(hindex x hx i).mpr hi] at hnone
      cases hnone
    · intro hnew
      cases hi : index (tag x) with
      | none => rfl
      | some i => exact absurd ((hindex x hx i).mp hi).mem hnew

namespace Merged

variable (h : Merged tag l items merged)
include h

theorem map_tag : merged.map tag =
    l.map tag ++ (items.filter fun x => tag x ∉ l.map tag).map tag := by
  have hold : (merged.take l.length).map tag = l.map tag := by
    apply List.ext_getElem?
    intro i
    rw [List.getElem?_map, List.getElem?_map, List.getElem?_take]
    split_ifs with hi
    · by_cases hx : ∃ x ∈ items, LastAt (l.map tag) (tag x) i
      · obtain ⟨x, hx, hlast⟩ := hx
        rw [h.replaced x hx i hlast, ← List.getElem?_map, hlast.1]
        rfl
      · rw [h.kept i hi fun x hx' hlast => hx ⟨x, hx', hlast⟩]
    · rw [List.getElem?_eq_none (Nat.le_of_not_lt hi)]
  rw [← h.appended, ← hold, ← List.map_append, List.take_append_drop]

/-- Distinct tags of a kind stay distinct. -/
theorem nodup (p : κ → Bool) (hold : ((l.map tag).filter p).Nodup)
    (hnodup : (items.map tag).Nodup) : ((merged.map tag).filter p).Nodup := by
  rw [h.map_tag, List.filter_append, List.nodup_append']
  refine ⟨hold, ?_, ?_⟩
  · have hsub : ((items.filter fun x => tag x ∉ l.map tag).map tag).Sublist (items.map tag) :=
      List.filter_sublist.map tag
    exact (hsub.nodup hnodup).filter p
  · intro t ht hnew
    obtain ⟨x, hx, rfl⟩ := List.mem_map.mp (List.mem_of_mem_filter hnew)
    exact of_decide_eq_true (List.mem_filter.mp hx).2 (List.mem_of_mem_filter ht)

/-- Every item is at the last position of its tag. -/
theorem lastAt (hnodup : (items.map tag).Nodup) {x : α} (hx : x ∈ items) :
    ∃ i, LastAt (merged.map tag) (tag x) i ∧ merged[i]? = some x := by
  rw [h.map_tag]
  by_cases hold : tag x ∈ l.map tag
  · obtain ⟨i, hi⟩ := exists_lastAt hold
    refine ⟨i, hi.append_left ?_, h.replaced x hx i hi⟩
    intro hnew
    obtain ⟨y, hy, heq⟩ := List.mem_map.mp hnew
    have hyold := of_decide_eq_true (List.mem_filter.mp hy).2
    exact hyold (heq ▸ hold)
  · have hnew : x ∈ items.filter fun x => tag x ∉ l.map tag :=
      List.mem_filter.mpr ⟨hx, decide_eq_true hold⟩
    obtain ⟨k, hk⟩ := exists_lastAt (List.mem_map_of_mem (f := tag) hnew)
    refine ⟨l.length + k, by simpa using hk.append_right (l.map tag), ?_⟩
    rw [← List.getElem?_drop, h.appended]
    have hget := hk.1
    rw [List.getElem?_map, Option.map_eq_some_iff] at hget
    obtain ⟨y, hy, heq⟩ := hget
    have hmem := List.mem_of_mem_filter (List.mem_of_getElem? hy)
    rw [hy, List.inj_on_of_nodup_map hnodup hmem hx heq]

end Merged

omit [DecidableEq κ] in
/-- A merge of items that are in their places changes nothing. -/
theorem map_merge_of_present {f : α → β} {acc : List α}
    (h : ∀ x ∈ items, ∃ i, index (tag x) = some i ∧ (acc.map f)[i]? = some (f x)) :
    (merge tag index acc items).map f = acc.map f := by
  induction items generalizing acc with
  | nil => rfl
  | cons x items ih =>
    obtain ⟨i, hi, hget⟩ := h x List.mem_cons_self
    have hset : (acc.set i x).map f = acc.map f := by
      obtain ⟨hlt, heq⟩ := List.getElem?_eq_some_iff.mp hget
      rw [List.map_set, ← heq, List.set_getElem_self]
    rw [merge, List.foldl_cons, hi]
    have hrest : ∀ y ∈ items, ∃ j, index (tag y) = some j ∧
        ((acc.set i x).map f)[j]? = some (f y) := by
      intro y hy
      rw [hset]
      exact h y (List.mem_cons_of_mem x hy)
    exact (ih hrest).trans hset

end IndexedMerge
