import Mathlib.Data.List.Chain

/-! Host names with dots, and their labels. -/
namespace HostNames

def isLetterOrDigit (c : Char) : Bool :=
  'a' ≤ c && c ≤ 'z' || 'A' ≤ c && c ≤ 'Z' || '0' ≤ c && c ≤ '9'

structure IsLabel (label : List Char) : Prop where
  ne_nil : label ≠ []
  chars : ∀ c ∈ label, isLetterOrDigit c = true ∨ c = '-'
  head : label.head? ≠ some '-'
  last : label.getLast? ≠ some '-'

/-- A name of two labels at least. -/
structure IsDottedName (name : List Char) : Prop where
  dotted : '.' ∈ name
  labels : ∀ label ∈ name.splitOn '.', IsLabel label

/-- Two characters that may stand next to each other, with a dot before and after the name. -/
def Follows (c d : Char) : Prop := ¬ (c = '.' ∧ (d = '.' ∨ d = '-')) ∧ ¬ (c = '-' ∧ d = '.')

theorem flatMap_splitOn (name : List Char) :
    ((name.splitOn '.').flatMap fun label => label ++ ['.']) = name ++ ['.'] := by
  induction name with
  | nil => rfl
  | cons c name ih =>
    rw [List.splitOn_cons_eq_if_modifyHead]
    split_ifs with hc
    · rw [List.flatMap_cons, ih, beq_iff_eq.mp hc]
      rfl
    · cases hsplit : name.splitOn '.' with
      | nil => exact absurd hsplit (List.splitOn_ne_nil '.' name)
      | cons label labels =>
        rw [hsplit, List.flatMap_cons] at ih
        rw [List.modifyHead_cons, List.flatMap_cons, List.cons_append, List.cons_append, ih,
          List.cons_append]

theorem notMem_of_mem_splitOn {name label : List Char} (h : label ∈ name.splitOn '.') :
    '.' ∉ label := by
  induction name generalizing label with
  | nil =>
    obtain rfl := List.mem_singleton.mp h
    exact List.not_mem_nil
  | cons c name ih =>
    rw [List.splitOn_cons_eq_if_modifyHead] at h
    split_ifs at h with hc
    · obtain rfl | hmem := List.mem_cons.mp h
      · exact List.not_mem_nil
      · exact ih hmem
    · cases hsplit : name.splitOn '.' with
      | nil => exact absurd hsplit (List.splitOn_ne_nil '.' name)
      | cons first labels =>
        rw [hsplit, List.modifyHead_cons] at h
        obtain rfl | hmem := List.mem_cons.mp h
        · rw [List.mem_cons, not_or]
          exact ⟨fun heq => hc (beq_iff_eq.mpr heq.symm), ih (hsplit ▸ List.mem_cons_self)⟩
        · exact ih (hsplit ▸ List.mem_cons_of_mem first hmem)

theorem exists_mem_splitOn {name : List Char} {c : Char} (hc : c ∈ name) (hdot : c ≠ '.') :
    ∃ label ∈ name.splitOn '.', c ∈ label := by
  have hmem : c ∈ name ++ ['.'] := List.mem_append_left _ hc
  rw [← flatMap_splitOn] at hmem
  obtain ⟨label, hlabel, hc⟩ := List.mem_flatMap.mp hmem
  refine ⟨label, hlabel, (List.mem_append.mp hc).resolve_right ?_⟩
  exact fun h => hdot (List.mem_singleton.mp h)

/-- Labels with a dot after each can be looked at one by one. -/
theorem isChain_flatMap (labels : List (List Char)) :
    ('.' :: labels.flatMap fun label => label ++ ['.']).IsChain Follows ↔
      ∀ label ∈ labels, ('.' :: (label ++ ['.'])).IsChain Follows := by
  induction labels with
  | nil => simp
  | cons label labels ih =>
    rw [List.flatMap_cons, List.append_assoc, List.singleton_append, List.isChain_cons_split, ih,
      List.forall_mem_cons]

theorem isChain_of_notMem {label : List Char} (h : '.' ∉ label) : label.IsChain Follows := by
  apply List.isChain_iff_forall_rel_of_append_cons_cons.mpr
  rintro c d before after rfl
  have hc : c ≠ '.' := by
    rintro rfl
    exact h (by simp)
  have hd : d ≠ '.' := by
    rintro rfl
    exact h (by simp)
  exact ⟨fun hpair => hc hpair.1, fun hpair => hd hpair.2⟩

/-- With a dot at both ends, a text of neighbours that may stand together. -/
theorem isChain_dots_iff (name : List Char) :
    ('.' :: (name ++ ['.'])).IsChain Follows ↔
      name ≠ [] ∧ (∀ c ∈ name.head?, c ≠ '.' ∧ c ≠ '-') ∧
        (∀ c ∈ name.getLast?, c ≠ '.' ∧ c ≠ '-') ∧ name.IsChain Follows := by
  cases name with
  | nil => simp [Follows]
  | cons c rest =>
    rw [List.cons_append, List.isChain_cons_cons, ← List.cons_append, List.isChain_append]
    have hhead : Follows '.' c ↔ c ≠ '.' ∧ c ≠ '-' := by
      simp [Follows]
    have hlast : ∀ d, Follows d '.' ↔ d ≠ '.' ∧ d ≠ '-' := by
      intro d
      simp [Follows]
    simp only [hhead, hlast, ne_eq, List.cons_ne_nil, not_false_eq_true, true_and, List.head?_cons,
      Option.mem_def, Option.some.injEq, forall_eq', List.isChain_singleton]
    exact and_congr_right fun _ => and_comm

/-- Neither a dot nor a hyphen stands at an end or beside a dot. -/
structure Smooth (name : List Char) : Prop where
  head : ∀ c ∈ name.head?, c ≠ '.' ∧ c ≠ '-'
  last : ∀ c ∈ name.getLast?, c ≠ '.' ∧ c ≠ '-'
  dots : ¬ ['.', '.'] <:+: name
  dotHyphen : ¬ ['.', '-'] <:+: name
  hyphenDot : ¬ ['-', '.'] <:+: name

theorem isInfix_pair_iff (c d : Char) (name : List Char) :
    [c, d] <:+: name ↔ ∃ before after, name = before ++ c :: d :: after := by
  constructor
  · rintro ⟨before, after, rfl⟩
    exact ⟨before, after, by simp⟩
  · rintro ⟨before, after, rfl⟩
    exact ⟨before, after, by simp⟩

theorem isChain_iff_isInfix (name : List Char) :
    name.IsChain Follows ↔
      ¬ ['.', '.'] <:+: name ∧ ¬ ['.', '-'] <:+: name ∧ ¬ ['-', '.'] <:+: name := by
  simp only [isInfix_pair_iff, not_exists]
  rw [List.isChain_iff_forall_rel_of_append_cons_cons]
  constructor
  · intro h
    refine ⟨fun before after heq => ?_, fun before after heq => ?_, fun before after heq => ?_⟩
    · exact (h heq).1 ⟨rfl, .inl rfl⟩
    · exact (h heq).1 ⟨rfl, .inr rfl⟩
    · exact (h heq).2 ⟨rfl, rfl⟩
  · rintro ⟨hdots, hdotHyphen, hhyphenDot⟩ c d before after heq
    refine ⟨?_, ?_⟩
    · rintro ⟨rfl, rfl | rfl⟩
      · exact hdots before after heq
      · exact hdotHyphen before after heq
    · rintro ⟨rfl, rfl⟩
      exact hhyphenDot before after heq

theorem smooth_iff {name : List Char} (hne : name ≠ []) :
    Smooth name ↔ ('.' :: (name ++ ['.'])).IsChain Follows := by
  rw [isChain_dots_iff, isChain_iff_isInfix]
  exact ⟨fun h => ⟨hne, h.head, h.last, h.dots, h.dotHyphen, h.hyphenDot⟩,
    fun ⟨_, head, last, dots, dotHyphen, hyphenDot⟩ => ⟨head, last, dots, dotHyphen, hyphenDot⟩⟩

theorem isLabel_iff {label : List Char} (hdot : '.' ∉ label)
    (hchars : ∀ c ∈ label, isLetterOrDigit c = true ∨ c = '-') :
    IsLabel label ↔ ('.' :: (label ++ ['.'])).IsChain Follows := by
  rw [isChain_dots_iff]
  have hnotDot : ∀ c ∈ label, c ≠ '.' := fun c hc heq => hdot (heq ▸ hc)
  constructor
  · rintro ⟨hne, -, hhead, hlast⟩
    refine ⟨hne, fun c hc => ⟨?_, ?_⟩, fun c hc => ⟨?_, ?_⟩, isChain_of_notMem hdot⟩
    · exact hnotDot c (List.mem_of_mem_head? hc)
    · rintro rfl
      exact hhead hc
    · exact hnotDot c (List.mem_of_mem_getLast? hc)
    · rintro rfl
      exact hlast hc
  · rintro ⟨hne, hhead, hlast, -⟩
    exact ⟨hne, hchars, fun hc => (hhead _ hc).2 rfl, fun hc => (hlast _ hc).2 rfl⟩

/-- Over the characters of names, the dotted names are the smooth ones with a dot. -/
theorem isDottedName_iff {name : List Char}
    (h : ∀ c ∈ name, isLetterOrDigit c = true ∨ c = '-' ∨ c = '.') :
    IsDottedName name ↔ '.' ∈ name ∧ Smooth name := by
  have hchars : ∀ label ∈ name.splitOn '.', ∀ c ∈ label, isLetterOrDigit c = true ∨ c = '-' := by
    intro label hlabel c hc
    have hmem : c ∈ name ++ ['.'] := by
      rw [← flatMap_splitOn]
      exact List.mem_flatMap.mpr ⟨label, hlabel, List.mem_append_left _ hc⟩
    have hdot : c ≠ '.' := fun heq => notMem_of_mem_splitOn hlabel (heq ▸ hc)
    have hname : c ∈ name :=
      (List.mem_append.mp hmem).resolve_right fun heq => hdot (List.mem_singleton.mp heq)
    obtain hletter | hhyphen | heq := h c hname
    · exact .inl hletter
    · exact .inr hhyphen
    · exact absurd heq hdot
  have hlabels : (∀ label ∈ name.splitOn '.', IsLabel label) ↔
      ('.' :: (name ++ ['.'])).IsChain Follows := by
    rw [← flatMap_splitOn, isChain_flatMap]
    exact forall₂_congr fun label hlabel =>
      isLabel_iff (notMem_of_mem_splitOn hlabel) (hchars label hlabel)
  constructor
  · rintro ⟨hdot, hall⟩
    exact ⟨hdot, (smooth_iff (List.ne_nil_of_mem hdot)).mpr (hlabels.mp hall)⟩
  · rintro ⟨hdot, hsmooth⟩
    exact ⟨hdot, hlabels.mpr ((smooth_iff (List.ne_nil_of_mem hdot)).mp hsmooth)⟩

end HostNames
