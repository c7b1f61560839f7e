import Mathlib.Data.List.Basic

/-! Splitting a text at every separator while it is still arriving: the parts before the last are
final, and the last one is carried over and split again with what comes next. -/
namespace IncrementalSplit

/-- What separates the parts of a text: how many elements of a separator a text starts with, none
for zero. More text does not change a separator that is there, and one that needs more text has
no other within what there is of it. -/
structure Separator (α : Type*) where
  width : List α → Nat
  width_le : ∀ s, width s ≤ s.length
  stable : ∀ s t, width s ≠ 0 → width (s ++ t) = width s
  settled : ∀ s t, width s = 0 → width (s ++ t) ≠ 0 → ∀ s', s' <:+ s → width s' = 0

variable {α : Type*}

def consHead (a : α) : List (List α) → List (List α)
  | [] => [[a]]
  | part :: parts => (a :: part) :: parts

/-- The parts of a text after the rest of a separator. -/
def splitAfter (sep : Separator α) : Nat → List α → List (List α)
  | _, [] => [[]]
  | k + 1, _ :: s => splitAfter sep k s
  | 0, a :: s =>
    match sep.width (a :: s) with
    | 0 => consHead a (splitAfter sep 0 s)
    | k + 1 => [] :: splitAfter sep k s

def split (sep : Separator α) (s : List α) : List (List α) := splitAfter sep 0 s

/-- The parts that are final once a chunk has arrived, and the one that is carried over. -/
def feed (sep : Separator α) (buffer chunk : List α) : List (List α) × List α :=
  ((split sep (buffer ++ chunk)).dropLast, (split sep (buffer ++ chunk)).getLastD [])

variable {sep : Separator α}

theorem splitAfter_eq (k : Nat) (s : List α) : splitAfter sep k s = split sep (s.drop k) := by
  induction s generalizing k with
  | nil => cases k <;> rfl
  | cons a s ih =>
    cases k with
    | zero => rfl
    | succ k => exact ih k

theorem split_cons_of_none {a : α} {s : List α} (h : sep.width (a :: s) = 0) :
    split sep (a :: s) = consHead a (split sep s) := by
  rw [split, splitAfter, h]
  rfl

theorem split_of_separator {s : List α} (h : sep.width s ≠ 0) :
    split sep s = [] :: split sep (s.drop (sep.width s)) := by
  cases s with
  | nil => exact absurd (Nat.le_zero.mp (sep.width_le [])) h
  | cons a s =>
    obtain ⟨k, hk⟩ := Nat.exists_eq_succ_of_ne_zero h
    rw [hk, List.drop_succ_cons, split, splitAfter, hk]
    exact congrArg ([] :: ·) (splitAfter_eq k s)

theorem split_ne_nil (sep : Separator α) (s : List α) : split sep s ≠ [] := by
  cases s with
  | nil => exact List.cons_ne_nil _ _
  | cons a s =>
    by_cases h : sep.width (a :: s) = 0
    · rw [split_cons_of_none h]
      cases split sep s <;> exact List.cons_ne_nil _ _
    · rw [split_of_separator h]
      exact List.cons_ne_nil _ _

theorem split_eq_concat (sep : Separator α) (s : List α) :
    split sep s = (split sep s).dropLast ++ [(split sep s).getLastD []] := by
  have h := List.dropLast_append_getLast (split_ne_nil sep s)
  rw [List.getLastD_eq_getLast?, List.getLast?_eq_some_getLast (split_ne_nil sep s),
    Option.getD_some]
  exact h.symm

/-- A text without a separator is one part. -/
theorem split_of_no_separator {s : List α} (h : ∀ s', s' <:+ s → sep.width s' = 0) :
    split sep s = [s] := by
  induction s with
  | nil => rfl
  | cons a s ih =>
    rw [split_cons_of_none (h _ List.suffix_rfl),
      ih fun s' hs' => h s' (hs'.trans (List.suffix_cons a s))]
    rfl

/-- The first separator of a text ends its first part. -/
theorem split_first {part s : List α}
    (hpart : ∀ a t, a :: t <:+ part → sep.width (a :: (t ++ s)) = 0)
    (hs : sep.width s ≠ 0) : split sep (part ++ s) = part :: split sep (s.drop (sep.width s)) := by
  induction part with
  | nil => exact split_of_separator hs
  | cons a part ih =>
    rw [List.cons_append, split_cons_of_none (hpart a part List.suffix_rfl),
      ih fun b t ht => hpart b t (ht.trans (List.suffix_cons a part))]
    rfl

theorem consHead_append {a : α} {parts : List (List α)} (hparts : parts ≠ [])
    (rest : List (List α)) :
    consHead a (parts ++ rest) = consHead a parts ++ rest := by
  cases parts with
  | nil => exact absurd rfl hparts
  | cons part parts => rfl

theorem length_consHead {a : α} {parts : List (List α)} (hparts : parts ≠ []) :
    (consHead a parts).length = parts.length := by
  cases parts with
  | nil => exact absurd rfl hparts
  | cons part parts => rfl

theorem two_le_length_split {s s' : List α} (hs' : s' <:+ s) (h : sep.width s' ≠ 0) :
    2 ≤ (split sep s).length := by
  induction s with
  | nil =>
    obtain rfl := List.suffix_nil.mp hs'
    exact absurd (Nat.le_zero.mp (sep.width_le [])) h
  | cons a s ih =>
    by_cases hnone : sep.width (a :: s) = 0
    · rw [split_cons_of_none hnone, length_consHead (split_ne_nil sep s)]
      rcases List.suffix_cons_iff.mp hs' with rfl | hs'
      · exact absurd hnone h
      · exact ih hs'
    · rw [split_of_separator hnone, List.length_cons]
      have := List.length_pos_iff.mpr (split_ne_nil sep ((a :: s).drop (sep.width (a :: s))))
      omega

/-- Splitting a text that goes on: its last part is split again, the others are final. -/
theorem split_append (s t : List α) :
    split sep (s ++ t) =
      (split sep s).dropLast ++ split sep ((split sep s).getLastD [] ++ t) := by
  induction hlength : s.length using Nat.strongRecOn generalizing s with
  | ind n ih =>
    subst hlength
    by_cases hwidth : sep.width s = 0
    · cases s with
      | nil => rfl
      | cons a s =>
        by_cases hno : ∀ s', s' <:+ a :: s → sep.width s' = 0
        · rw [split_of_no_separator hno]
          rfl
        · obtain ⟨s', hs', hne⟩ : ∃ s', s' <:+ a :: s ∧ sep.width s' ≠ 0 := by
            by_contra hall
            exact hno fun s' hs' => by_contra fun hne => hall ⟨s', hs', hne⟩
          -- the text is not a separator that has yet to be completed
          have hmore : sep.width (a :: (s ++ t)) = 0 := by
            by_contra hmore
            exact hne (sep.settled (a :: s) t hwidth hmore s' hs')
          have hs : s' <:+ s := by
            rcases List.suffix_cons_iff.mp hs' with rfl | hs
            · exact absurd hwidth hne
            · exact hs
          have hparts : (split sep s).dropLast ≠ [] := by
            intro hnil
            have hlength := two_le_length_split hs hne
            rw [split_eq_concat, hnil] at hlength
            simp at hlength
          have hsplit : split sep (a :: s) =
              consHead a (split sep s).dropLast ++ [(split sep s).getLastD []] := by
            rw [split_cons_of_none hwidth, ← consHead_append hparts, ← split_eq_concat]
          rw [hsplit, List.dropLast_concat, List.getLastD_concat, List.cons_append,
            split_cons_of_none hmore, ih s.length (Nat.lt_succ_self _) s rfl,
            consHead_append hparts]
    · have hle := sep.width_le s
      have hpos := Nat.pos_of_ne_zero hwidth
      have hstable := sep.stable s t hwidth
      have hlast := split_eq_concat sep (s.drop (sep.width s))
      have hsplit : split sep s =
          [] :: (split sep (s.drop (sep.width s))).dropLast ++
            [(split sep (s.drop (sep.width s))).getLastD []] := by
        rw [split_of_separator hwidth, List.cons_append, ← hlast]
      have hrest := ih (s.drop (sep.width s)).length
        (by rw [List.length_drop]; omega) (s.drop (sep.width s)) rfl
      rw [hsplit, List.dropLast_concat, List.getLastD_concat,
        split_of_separator (hstable ▸ hwidth), hstable, List.drop_append_of_le_length hle, hrest,
        List.cons_append]

theorem split_feed (buffer chunk rest : List α) :
    split sep (buffer ++ chunk ++ rest) =
      (feed sep buffer chunk).1 ++ split sep ((feed sep buffer chunk).2 ++ rest) :=
  split_append (buffer ++ chunk) rest

end IncrementalSplit
