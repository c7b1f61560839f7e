import Mathlib.Data.List.DropRight

/-! Trimming and splitting text the way JavaScript does. -/
namespace JSText

/-- White space and line terminators. -/
def isSpace (c : Char) : Bool :=
  c.toNat ∈ [0x9, 0xA, 0xB, 0xC, 0xD, 0x20, 0xA0, 0x1680, 0x2028, 0x2029, 0x202F, 0x205F, 0x3000,
    0xFEFF] || 0x2000 ≤ c.toNat && c.toNat ≤ 0x200A

def trim (text : List Char) : List Char := (text.dropWhile isSpace).rdropWhile isSpace

/-- The trimmed parts between separators, less the empty ones. -/
def tokens (isSeparator : Char → Bool) (text : List Char) : List (List Char) :=
  ((text.splitOnP isSeparator).map trim).filter fun token => !token.isEmpty

theorem trim_eq_nil_iff {text : List Char} :
    trim text = [] ↔ ∀ c ∈ text, isSpace c = true := by
  rw [trim, List.rdropWhile_eq_nil_iff]
  constructor
  · intro h c hc
    rw [← List.takeWhile_append_dropWhile (p := isSpace) (l := text), List.mem_append] at hc
    exact hc.elim (fun hstart => List.mem_takeWhile_imp hstart) (h c)
  · intro h c hc
    exact h c ((List.dropWhile_sublist isSpace).mem hc)

theorem mem_of_mem_splitOnP {isSeparator : Char → Bool} {text part : List Char}
    (hpart : part ∈ text.splitOnP isSeparator) {c : Char} (hc : c ∈ part) : c ∈ text := by
  induction text generalizing part with
  | nil =>
    rw [List.splitOnP_nil, List.mem_singleton] at hpart
    rw [hpart] at hc
    cases hc
  | cons a text ih =>
    rw [List.splitOnP_cons_eq_if_modifyHead] at hpart
    split_ifs at hpart
    · obtain rfl | hpart := List.mem_cons.mp hpart
      · cases hc
      · exact List.mem_cons_of_mem a (ih hpart hc)
    · cases hsplit : text.splitOnP isSeparator with
      | nil => exact absurd hsplit (List.splitOnP_ne_nil isSeparator text)
      | cons first parts =>
        rw [hsplit, List.modifyHead_cons] at hpart
        obtain rfl | hpart := List.mem_cons.mp hpart
        · obtain rfl | hc := List.mem_cons.mp hc
          · exact List.mem_cons_self
          · exact List.mem_cons_of_mem a (ih (hsplit ▸ List.mem_cons_self) hc)
        · exact List.mem_cons_of_mem a (ih (hsplit ▸ List.mem_cons_of_mem first hpart) hc)

/-- A blank text has no tokens. -/
theorem tokens_of_blank (isSeparator : Char → Bool) {text : List Char} (h : trim text = []) :
    tokens isSeparator text = [] := by
  rw [tokens, List.filter_eq_nil_iff]
  intro token htoken
  obtain ⟨part, hpart, rfl⟩ := List.mem_map.mp htoken
  have hblank : trim part = [] :=
    trim_eq_nil_iff.mpr fun c hc => trim_eq_nil_iff.mp h c (mem_of_mem_splitOnP hpart hc)
  simp [hblank]

end JSText
