import Mathlib.Data.List.Basic
import Mathlib.Data.String.Basic

/-! Texts joined by a separator of two different letters. The parts can be read back where
they do not contain the separator, even from a text of as many parts that may. -/
namespace SeparatedText

variable {α : Type*} [DecidableEq α]

/-- How often the letter `a` is directly followed by `b`. -/
def occurrences (a b : α) : List α → Nat
  | [] => 0
  | [_] => 0
  | x :: y :: rest => (if x = a ∧ y = b then 1 else 0) + occurrences a b (y :: rest)

theorem occurrences_cons_cons (a b x y : α) (rest : List α) :
    occurrences a b (x :: y :: rest) =
      (if x = a ∧ y = b then 1 else 0) + occurrences a b (y :: rest) := rfl

def Free (a b : α) (text : List α) : Prop := occurrences a b text = 0

instance (a b : α) (text : List α) : Decidable (Free a b text) :=
  inferInstanceAs (Decidable (_ = _))

variable {a b : α}

/-- How often the separator occurs within the parts. -/
def total (a b : α) : List (List α) → Nat
  | [] => 0
  | part :: parts => occurrences a b part + total a b parts

theorem total_eq_zero_iff {parts : List (List α)} :
    total a b parts = 0 ↔ ∀ part ∈ parts, Free a b part := by
  induction parts with
  | nil => simp [total]
  | cons part parts ih => simp [total, ih, Free]

section separator

variable (hne : a ≠ b)
include hne

theorem occurrences_cons_right (rest : List α) :
    occurrences a b (b :: rest) = occurrences a b rest := by
  cases rest with
  | nil => rfl
  | cons y rest => rw [occurrences_cons_cons, if_neg fun h => hne h.1.symm, Nat.zero_add]

/-- No occurrence reaches across the end of a part. -/
theorem occurrences_append_separator (text rest : List α) :
    occurrences a b (text ++ a :: b :: rest) =
      occurrences a b text + 1 + occurrences a b rest := by
  induction text with
  | nil =>
    rw [List.nil_append, occurrences_cons_cons, if_pos ⟨rfl, rfl⟩, occurrences_cons_right hne,
      occurrences, Nat.zero_add]
  | cons x text ih =>
    cases text with
    | nil =>
      rw [List.singleton_append, occurrences_cons_cons, if_neg fun h => hne h.2, Nat.zero_add]
      exact ih
    | cons y text =>
      rw [List.cons_append, List.cons_append, occurrences_cons_cons, ← List.cons_append, ih,
        occurrences_cons_cons]
      omega

theorem eq_nil_of_free {text extra rest rest' : List α} (hfree : Free a b (text ++ extra))
    (h : a :: b :: rest = extra ++ a :: b :: rest') : extra = [] := by
  match extra with
  | [] => rfl
  | [x] =>
    have hab := (List.cons_eq_cons.mp (List.cons_eq_cons.mp h).2).1
    exact absurd hab.symm hne
  | x :: y :: extra =>
    simp only [List.cons_append, List.cons.injEq] at h
    obtain ⟨rfl, rfl, -⟩ := h
    rw [Free, occurrences_append_separator hne] at hfree
    omega

/-- What stands before the first separator is determined. -/
theorem append_separator_inj {text text' rest rest' : List α} (hfree : Free a b text)
    (hfree' : Free a b text') (h : text ++ a :: b :: rest = text' ++ a :: b :: rest') :
    text = text' ∧ rest = rest' := by
  rcases List.append_eq_append_iff.mp h with ⟨extra, rfl, hrest⟩ | ⟨extra, rfl, hrest⟩
  · obtain rfl := eq_nil_of_free hne hfree' hrest
    simpa using hrest
  · obtain rfl := eq_nil_of_free hne hfree hrest
    simpa using hrest.symm

theorem occurrences_intercalate (part : List α) (parts : List (List α)) :
    occurrences a b ([a, b].intercalate (part :: parts)) =
      total a b (part :: parts) + parts.length := by
  induction parts generalizing part with
  | nil => simp [total]
  | cons next parts ih =>
    rw [List.intercalate_cons_cons, List.append_assoc, List.cons_append, List.singleton_append,
      occurrences_append_separator hne, ih]
    simp only [total, List.length_cons]
    omega

theorem intercalate_inj_of_free {parts parts' : List (List α)}
    (hlength : parts.length = parts'.length) (hfree : ∀ part ∈ parts, Free a b part)
    (hfree' : ∀ part ∈ parts', Free a b part)
    (h : [a, b].intercalate parts = [a, b].intercalate parts') : parts = parts' := by
  induction parts generalizing parts' with
  | nil => exact (List.length_eq_zero_iff.mp hlength.symm).symm
  | cons part parts ih =>
    cases parts' with
    | nil => cases hlength
    | cons part' parts' =>
      have hlength' : parts.length = parts'.length := Nat.succ.inj hlength
      match parts, parts', hlength' with
      | [], [], _ => simpa using h
      | next :: parts, next' :: parts', hlength' =>
        simp only [List.intercalate_cons_cons, List.append_assoc, List.cons_append,
          List.nil_append] at h
        obtain ⟨rfl, hrest⟩ := append_separator_inj hne (hfree part List.mem_cons_self)
          (hfree' part' List.mem_cons_self) h
        rw [ih hlength' (fun p hp => hfree p (List.mem_cons_of_mem _ hp))
          (fun p hp => hfree' p (List.mem_cons_of_mem _ hp)) hrest]

section reading

variable {part part' : List α} {parts parts' : List (List α)}
  (hfree : ∀ text ∈ part' :: parts', Free a b text)
  (h : [a, b].intercalate (part :: parts) = [a, b].intercalate (part' :: parts'))
include hfree h

theorem total_add_length :
    total a b (part :: parts) + parts.length = parts'.length := by
  have hcount := congrArg (occurrences a b) h
  rwa [occurrences_intercalate hne, occurrences_intercalate hne,
    total_eq_zero_iff.mpr hfree, Nat.zero_add] at hcount

/-- A text has no more parts than when it is read with parts free of the separator. -/
theorem length_le_of_intercalate_eq : parts.length ≤ parts'.length := by
  have hcount := total_add_length hne hfree h
  omega

/-- Of two readings with as many parts, one of them free of the separator, so is the other. -/
theorem intercalate_inj (hlength : parts.length = parts'.length) :
    part :: parts = part' :: parts' := by
  have hcount := total_add_length hne hfree h
  have hnone : total a b (part :: parts) = 0 := by omega
  exact intercalate_inj_of_free hne (congrArg Nat.succ hlength)
    (total_eq_zero_iff.mp hnone) hfree h

end reading

end separator

end SeparatedText
