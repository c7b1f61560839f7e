import Mathlib.Data.List.DropRight
import Mathlib.Data.List.Infix

/-! The functions of Go's `strings` and `unicode` packages that the program uses. -/
namespace GoStrings

/-- `unicode.IsSpace`. -/
def isSpace (c : Char) : Bool :=
  [0x09, 0x0a, 0x0b, 0x0c, 0x0d, 0x20, 0x85, 0xa0, 0x1680, 0x2028, 0x2029, 0x202f, 0x205f,
    0x3000].contains c.toNat || 0x2000 ≤ c.toNat && c.toNat ≤ 0x200a

/-- `strings.TrimSpace`. -/
def trimSpace (s : String) : String :=
  String.ofList ((s.toList.dropWhile isSpace).rdropWhile isSpace)

/-- `[]byte(s)`. -/
def bytes (s : String) : List UInt8 := s.toUTF8.data.toList

/-- The runes `unicode.IsSpace` accepts, as UTF-8. -/
def spaceEncodings : List (List UInt8) :=
  ([0x09, 0x0a, 0x0b, 0x0c, 0x0d, 0x20, 0x85, 0xa0, 0x1680, 0x2028, 0x2029, 0x202f, 0x205f,
    0x3000] ++ (List.range 11).map (0x2000 + ·)).map fun n => String.utf8EncodeChar (Char.ofNat n)

/-- Drops words of `words` from the front, at most as many as `s` has bytes. -/
def dropWords (words : List (List UInt8)) : Nat → List UInt8 → List UInt8
  | 0, s => s
  | fuel + 1, s =>
    match words.find? (·.isPrefixOf s) with
    | some word => dropWords words fuel (s.drop word.length)
    | none => s

/-- `strings.TrimSpace` over the bytes of a string that need not be UTF-8. -/
def trimSpaceBytes (s : List UInt8) : List UInt8 :=
  let s := dropWords spaceEncodings s.length s
  (dropWords (spaceEncodings.map List.reverse) s.length s.reverse).reverse

/-- The folding of `strings.EqualFold`, on the runes that fold to an ASCII letter. -/
def foldRune (c : Char) : Char :=
  if c.toNat = 0x17f then 's' else if c.toNat = 0x212a then 'k' else c.toLower

/-- `strings.EqualFold`, when `t` is lower-case ASCII. -/
def equalFold (s t : String) : Bool := s.toList.map foldRune == t.toList

/-- `strings.Contains`. -/
def contains (s substr : String) : Bool := decide (substr.toList <:+: s.toList)

theorem dropWhile_rdropWhile {α : Type*} (p : α → Bool) (l : List α) :
    ((l.dropWhile p).rdropWhile p).dropWhile p = (l.dropWhile p).rdropWhile p := by
  rw [List.dropWhile_eq_self_iff]
  intro hpos
  obtain ⟨tail, htail⟩ := List.rdropWhile_prefix p (l := l.dropWhile p)
  have hlen : 0 < (l.dropWhile p).length := by
    rw [← htail, List.length_append]
    omega
  have hhead : ((l.dropWhile p).rdropWhile p).get ⟨0, hpos⟩ = (l.dropWhile p).get ⟨0, hlen⟩ := by
    simp only [List.get_eq_getElem]
    rw [List.getElem_of_eq htail.symm, List.getElem_append_left hpos]
  have hfirst := List.dropWhile_get_zero_not p l hlen
  rwa [← hhead] at hfirst

/-- What was trimmed once stays as it is. -/
@[simp] theorem trimSpace_trimSpace (s : String) : trimSpace (trimSpace s) = trimSpace s := by
  simp only [trimSpace, String.toList_ofList, dropWhile_rdropWhile, List.rdropWhile_idempotent]

/-- The words of a code: not empty, and none the start of another. -/
def IsCode (words : List (List UInt8)) : Prop :=
  ∀ w ∈ words, w ≠ [] ∧ ∀ w' ∈ words, w <+: w' → w = w'

instance (words : List (List UInt8)) : Decidable (IsCode words) :=
  inferInstanceAs (Decidable (∀ w ∈ words, w ≠ [] ∧ ∀ w' ∈ words, w <+: w' → w = w'))

theorem isCode_spaceEncodings : IsCode spaceEncodings := by decide

theorem isCode_reverse_spaceEncodings : IsCode (spaceEncodings.map List.reverse) := by decide

/-- A sequence of words. -/
def Spells (words : List (List UInt8)) (s : List UInt8) : Prop :=
  ∃ ws : List (List UInt8), (∀ w ∈ ws, w ∈ words) ∧ ws.flatten = s

/-- None of the words comes first. -/
def Unstarted (words : List (List UInt8)) (s : List UInt8) : Prop := ∀ w ∈ words, ¬w <+: s

variable {words : List (List UInt8)}

theorem find?_isPrefixOf (hcode : IsCode words) {w : List UInt8} (hw : w ∈ words)
    (s : List UInt8) : words.find? (·.isPrefixOf (w ++ s)) = some w := by
  cases hfind : words.find? (·.isPrefixOf (w ++ s)) with
  | none =>
    have h := List.find?_eq_none.mp hfind w hw
    simp at h
  | some w' =>
    have hmem := List.mem_of_find?_eq_some hfind
    have hpre : w' <+: w ++ s := by simpa using List.find?_some hfind
    rcases List.prefix_or_prefix_of_prefix hpre (List.prefix_append w s) with h | h
    · rw [(hcode w' hmem).2 w hw h]
    · rw [← (hcode w hw).2 w' hmem h]

theorem dropWords_append (hcode : IsCode words) {w : List UInt8} (hw : w ∈ words) (fuel : Nat)
    (s : List UInt8) : dropWords words (fuel + 1) (w ++ s) = dropWords words fuel s := by
  rw [dropWords, find?_isPrefixOf hcode hw]
  simp

theorem dropWords_of_unstarted {s : List UInt8} (h : Unstarted words s) (fuel : Nat) :
    dropWords words fuel s = s := by
  cases fuel with
  | zero => rfl
  | succ fuel =>
    have hfind : words.find? (·.isPrefixOf s) = none :=
      List.find?_eq_none.mpr fun w hw => by simpa using h w hw
    rw [dropWords, hfind]

/-- Dropping leaves off a sequence of words, and what is left starts with none. -/
theorem dropWords_spec (hcode : IsCode words) {fuel : Nat} {s : List UInt8}
    (hfuel : s.length ≤ fuel) :
    ∃ space, Spells words space ∧ s = space ++ dropWords words fuel s ∧
      Unstarted words (dropWords words fuel s) := by
  induction fuel generalizing s with
  | zero =>
    obtain rfl : s = [] := List.eq_nil_of_length_eq_zero (Nat.le_zero.mp hfuel)
    refine ⟨[], ⟨[], by simp, rfl⟩, rfl, ?_⟩
    intro w hw hpre
    exact (hcode w hw).1 (List.prefix_nil.mp hpre)
  | succ fuel ih =>
    by_cases hstart : Unstarted words s
    · rw [dropWords_of_unstarted hstart]
      exact ⟨[], ⟨[], by simp, rfl⟩, rfl, hstart⟩
    · simp only [Unstarted, not_forall, not_not] at hstart
      obtain ⟨w, hw, rest, rfl⟩ := hstart
      have hne := List.length_pos_of_ne_nil (hcode w hw).1
      rw [List.length_append] at hfuel
      obtain ⟨space, ⟨ws, hws, rfl⟩, hrest, hunstarted⟩ := ih (by omega : rest.length ≤ fuel)
      rw [dropWords_append hcode hw]
      refine ⟨w ++ ws.flatten, ⟨w :: ws, ?_, rfl⟩, ?_, hunstarted⟩
      · exact List.forall_mem_cons.mpr ⟨hw, hws⟩
      · rw [List.append_assoc, ← hrest]

/-- A sequence of words before what starts with none is what is dropped. -/
theorem dropWords_eq (hcode : IsCode words) {fuel : Nat} {space s : List UInt8}
    (hspace : Spells words space) (hs : Unstarted words s)
    (hfuel : (space ++ s).length ≤ fuel) : dropWords words fuel (space ++ s) = s := by
  obtain ⟨ws, hws, rfl⟩ := hspace
  induction ws generalizing fuel with
  | nil => exact dropWords_of_unstarted hs fuel
  | cons w ws ih =>
    obtain ⟨hw, hrest⟩ := List.forall_mem_cons.mp hws
    have hne := List.length_pos_of_ne_nil (hcode w hw).1
    rw [List.flatten_cons, List.append_assoc, List.length_append] at hfuel
    obtain ⟨fuel, rfl⟩ : ∃ n, fuel = n + 1 := ⟨fuel - 1, by omega⟩
    rw [List.flatten_cons, List.append_assoc, dropWords_append hcode hw]
    exact ih hrest (by omega)


/-- Neither the first nor the last rune is a space. -/
structure Trimmed (s : List UInt8) : Prop where
  left : Unstarted spaceEncodings s
  right : Unstarted (spaceEncodings.map List.reverse) s.reverse

theorem Trimmed.suffix_right {pre s : List UInt8} (h : Trimmed (pre ++ s)) :
    Unstarted (spaceEncodings.map List.reverse) s.reverse := by
  intro w hw hpre
  apply h.right w hw
  rw [List.reverse_append]
  exact hpre.trans (List.prefix_append _ _)

theorem trimmed_trimSpaceBytes (s : List UInt8) : Trimmed (trimSpaceBytes s) := by
  obtain ⟨-, -, -, hleft⟩ := dropWords_spec isCode_spaceEncodings (Nat.le_refl s.length)
  unfold trimSpaceBytes
  dsimp only
  have hfuel : (dropWords spaceEncodings s.length s).reverse.length ≤
      (dropWords spaceEncodings s.length s).length := by rw [List.length_reverse]
  obtain ⟨space, -, hsplit, hright⟩ := dropWords_spec isCode_reverse_spaceEncodings hfuel
  constructor
  · intro w hw hpre
    apply hleft w hw
    have hstart := congrArg List.reverse hsplit
    rw [List.reverse_reverse, List.reverse_append] at hstart
    rw [hstart]
    exact hpre.trans (List.prefix_append _ _)
  · rwa [List.reverse_reverse]

theorem dropWords_spaceEncodings (s : List UInt8) :
    ∃ space, Spells spaceEncodings space ∧ s = space ++ dropWords spaceEncodings s.length s := by
  obtain ⟨space, hspace, hsplit, -⟩ :=
    dropWords_spec isCode_spaceEncodings (Nat.le_refl s.length)
  exact ⟨space, hspace, hsplit⟩

/-- Space before a trimmed string is what trimming takes away. -/
theorem trimSpaceBytes_append {space s : List UInt8} (hspace : Spells spaceEncodings space)
    (hs : Trimmed s) : trimSpaceBytes (space ++ s) = s := by
  unfold trimSpaceBytes
  dsimp only
  rw [dropWords_eq isCode_spaceEncodings hspace hs.left (Nat.le_refl _),
    dropWords_of_unstarted hs.right, List.reverse_reverse]

/-- What is trimmed off the end of a trimmed string is space before what is left of it. -/
theorem trimSpaceBytes_eq_iff {pre rest s : List UInt8} (h : Trimmed (pre ++ rest)) :
    trimSpaceBytes rest = s ↔ ∃ space, Spells spaceEncodings space ∧ rest = space ++ s ∧
      Unstarted spaceEncodings s := by
  constructor
  · rintro rfl
    obtain ⟨space, hspace, hsplit⟩ := dropWords_spaceEncodings rest
    have hright : Unstarted (spaceEncodings.map List.reverse)
        (dropWords spaceEncodings rest.length rest).reverse := by
      rw [hsplit, ← List.append_assoc] at h
      exact h.suffix_right
    have htrim : trimSpaceBytes rest = dropWords spaceEncodings rest.length rest := by
      unfold trimSpaceBytes
      dsimp only
      rw [dropWords_of_unstarted hright, List.reverse_reverse]
    exact ⟨space, hspace, by rw [htrim, ← hsplit], (trimmed_trimSpaceBytes rest).left⟩
  · rintro ⟨space, hspace, rfl, hs⟩
    rw [← List.append_assoc] at h
    exact trimSpaceBytes_append hspace ⟨hs, h.suffix_right⟩

/-- Indentation does not matter. -/
theorem trimSpaceBytes_indent {indent : List UInt8} (hindent : Spells spaceEncodings indent)
    (s : List UInt8) : trimSpaceBytes (indent ++ s) = trimSpaceBytes s := by
  obtain ⟨space, hspace, hsplit, hs⟩ :=
    dropWords_spec isCode_spaceEncodings (Nat.le_refl s.length)
  have hboth : Spells spaceEncodings (indent ++ space) := by
    obtain ⟨ws, hws, rfl⟩ := hindent
    obtain ⟨ws', hws', rfl⟩ := hspace
    refine ⟨ws ++ ws', ?_, List.flatten_append⟩
    exact List.forall_mem_append.mpr ⟨hws, hws'⟩
  have hdrop : dropWords spaceEncodings (indent ++ s).length (indent ++ s) =
      dropWords spaceEncodings s.length s := by
    generalize hrest : dropWords spaceEncodings s.length s = rest at hsplit hs ⊢
    have heq : indent ++ s = (indent ++ space) ++ rest := by rw [hsplit, List.append_assoc]
    rw [heq]
    exact dropWords_eq isCode_spaceEncodings hboth hs (Nat.le_refl _)
  unfold trimSpaceBytes
  rw [hdrop]

end GoStrings
