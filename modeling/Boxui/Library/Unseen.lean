import Mathlib.Data.List.Nodup

/-! Dropping what has been seen. A list is gone through once, and an element stays if nothing
seen before it has its key. -/
namespace Unseen

variable {α κ : Type*} [DecidableEq κ]

def unseen (key : α → κ) (seen : List κ) : List α → List α
  | [] => []
  | x :: xs =>
    if key x ∈ seen then unseen key seen xs else x :: unseen key (key x :: seen) xs

theorem unseen_sublist (key : α → κ) (seen : List κ) (xs : List α) :
    List.Sublist (unseen key seen xs) xs := by
  induction xs generalizing seen with
  | nil => exact List.Sublist.refl _
  | cons x xs ih =>
    rw [unseen]
    split_ifs
    · exact (ih seen).cons x
    · exact (ih _).cons_cons x

theorem key_notMem_of_mem_unseen {key : α → κ} {seen : List κ} {xs : List α} {x : α}
    (h : x ∈ unseen key seen xs) : key x ∉ seen := by
  induction xs generalizing seen with
  | nil => cases h
  | cons y xs ih =>
    rw [unseen] at h
    split_ifs at h with hseen
    · exact ih h
    · rcases List.mem_cons.mp h with rfl | hmem
      · exact hseen
      · exact fun hx => ih hmem (List.mem_cons_of_mem _ hx)

/-- What stays has keys of its own. -/
theorem nodup_map_unseen (key : α → κ) (seen : List κ) (xs : List α) :
    ((unseen key seen xs).map key).Nodup := by
  induction xs generalizing seen with
  | nil => exact List.nodup_nil
  | cons x xs ih =>
    rw [unseen]
    split_ifs
    · exact ih seen
    · rw [List.map_cons, List.nodup_cons]
      refine ⟨?_, ih _⟩
      intro hmem
      obtain ⟨y, hy, hkey⟩ := List.mem_map.mp hmem
      exact key_notMem_of_mem_unseen hy (hkey ▸ List.mem_cons_self)

/-- Every key was seen at the start or stays. -/
theorem key_mem_unseen (key : α → κ) (seen : List κ) {xs : List α} {x : α} (h : x ∈ xs) :
    key x ∈ seen ∨ key x ∈ (unseen key seen xs).map key := by
  induction xs generalizing seen with
  | nil => cases h
  | cons y xs ih =>
    rw [unseen]
    split_ifs with hseen
    · rcases List.mem_cons.mp h with rfl | hmem
      · exact .inl hseen
      · exact ih seen hmem
    · rw [List.map_cons, List.mem_cons]
      rcases List.mem_cons.mp h with rfl | hmem
      · exact .inr (.inl rfl)
      · rcases ih (key y :: seen) hmem with hx | hx
        · rcases List.mem_cons.mp hx with hx | hx
          · exact .inr (.inl hx)
          · exact .inl hx
        · exact .inr (.inr hx)

theorem unseen_eq_nil_iff {key : α → κ} {seen : List κ} {xs : List α} :
    unseen key seen xs = [] ↔ ∀ x ∈ xs, key x ∈ seen := by
  constructor
  · intro hnil x hx
    have hkey := key_mem_unseen key seen hx
    rw [hnil] at hkey
    exact hkey.resolve_right List.not_mem_nil
  · intro h
    rw [List.eq_nil_iff_forall_not_mem]
    intro x hx
    exact key_notMem_of_mem_unseen hx (h x ((unseen_sublist key seen xs).subset hx))

/-- Where the keys are distinct, an element is dropped for what was seen at the start only. -/
theorem mem_unseen_iff {key : α → κ} {seen : List κ} {xs : List α}
    (hnodup : (xs.map key).Nodup) {x : α} (hx : x ∈ xs) :
    x ∈ unseen key seen xs ↔ key x ∉ seen := by
  refine ⟨key_notMem_of_mem_unseen, fun hseen => ?_⟩
  obtain ⟨y, hy, hkey⟩ := List.mem_map.mp ((key_mem_unseen key seen hx).resolve_left hseen)
  rwa [← List.inj_on_of_nodup_map hnodup ((unseen_sublist key seen xs).subset hy) hx hkey]

end Unseen
