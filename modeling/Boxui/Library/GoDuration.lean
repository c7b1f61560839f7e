import Boxui.Library.Numerals
import Mathlib.Algebra.BigOperators.Group.List.Basic
import Mathlib.Algebra.Group.Nat.Defs
import Mathlib.Data.List.TakeWhile
import Mathlib.Tactic.Linarith

/-! Reading durations the way the `time` package of Go documents it: an `int64` of nanoseconds,
whose overflow is an error, and fractions cut to whole nanoseconds. -/
namespace GoDuration
open Numerals (isDigit)

/-- The nanoseconds of a unit. Microseconds are written with either of two letters, too. -/
def unitMap (unit : List Char) : Option ℕ :=
  [(['n', 's'], 1), (['u', 's'], 1000), (['\u00B5', 's'], 1000), (['\u03BC', 's'], 1000),
    (['m', 's'], 1000000), (['s'], 1000000000), (['m'], 60000000000),
    (['h'], 3600000000000)].lookup unit

/-- The integer in front of a text, which overflows above `2 ^ 63`, and what follows it. -/
def leadingInt (x : ℕ) : List Char → Option (ℕ × List Char)
  | [] => some (x, [])
  | c :: s =>
    if !isDigit c then some (x, c :: s)
    else if 2 ^ 63 / 10 < x then none
    else
      let x := 10 * x + Numerals.digitValue c
      if 2 ^ 63 < x then none else leadingInt x s

/-- The digits of a fraction, as an integer and its scale, and what follows them. -/
def leadingFraction (s : List Char) : ℕ × ℕ × List Char :=
  (Numerals.value 10 (s.takeWhile isDigit), 10 ^ (s.takeWhile isDigit).length,
    s.dropWhile isDigit)

def isUnitChar (c : Char) : Bool := c != '.' && !isDigit c

/-- The unit of a number with a fraction, which makes nanoseconds of it, and what follows. -/
def withUnit (v f scale : ℕ) (s : List Char) : Option (ℕ × List Char) :=
  (unitMap (s.takeWhile isUnitChar)).bind fun unit =>
    if 2 ^ 63 / unit < v then none
    else
      let v := v * unit + f * unit / scale
      if 2 ^ 63 < v then none else some (v, s.dropWhile isUnitChar)

/-- A number with its unit, which has a digit before or after its point. -/
def part (s : List Char) : Option (ℕ × List Char) :=
  (leadingInt 0 s).bind fun (v, afterInt) =>
    match afterInt with
    | '.' :: digits =>
      let (f, scale, rest) := leadingFraction digits
      if afterInt.length = s.length ∧ rest.length = digits.length then none
      else withUnit v f scale rest
    | _ => if afterInt.length = s.length then none else withUnit v 0 1 afterInt

theorem leadingInt_length {x v : ℕ} {s rest : List Char} (h : leadingInt x s = some (v, rest)) :
    rest.length ≤ s.length := by
  induction s generalizing x with
  | nil =>
    obtain ⟨-, rfl⟩ := Prod.mk.inj (Option.some.inj h)
    exact le_rfl
  | cons c s ih =>
    rw [leadingInt] at h
    dsimp only at h
    split_ifs at h
    · obtain ⟨-, rfl⟩ := Prod.mk.inj (Option.some.inj h)
      exact le_rfl
    · exact (ih h).trans (Nat.le_succ _)

theorem ne_nil_of_unitMap {unitText : List Char} {unit : ℕ} (h : unitMap unitText = some unit) :
    unitText ≠ [] := by
  rintro rfl
  cases h

theorem withUnit_length {v f scale n : ℕ} {s rest : List Char}
    (h : withUnit v f scale s = some (n, rest)) : rest.length < s.length := by
  obtain ⟨unit, hlookup, h⟩ := Option.bind_eq_some_iff.mp h
  split_ifs at h
  dsimp only at h
  split_ifs at h
  obtain ⟨-, rfl⟩ := Prod.mk.inj (Option.some.inj h)
  have hsplit := congrArg List.length
    (List.takeWhile_append_dropWhile (p := isUnitChar) (l := s))
  rw [List.length_append] at hsplit
  have hpos := List.length_pos_iff.mpr (ne_nil_of_unitMap hlookup)
  omega

/-- What follows a number with its unit is shorter. -/
theorem part_length {s rest : List Char} {v : ℕ} (h : part s = some (v, rest)) :
    rest.length < s.length := by
  obtain ⟨⟨n, afterInt⟩, hint, h⟩ := Option.bind_eq_some_iff.mp h
  have hle := leadingInt_length hint
  dsimp only at h hle
  split at h
  · rename_i digits
    obtain ⟨-, hunit⟩ := Option.ite_none_left_eq_some.mp h
    have hfraction := (List.dropWhile_sublist isDigit (l := digits)).length_le
    have hrest := withUnit_length hunit
    rw [List.length_cons] at hle
    exact hrest.trans_le (hfraction.trans (by omega))
  · split_ifs at h
    exact (withUnit_length h).trans_le hle

/-- The sum of the numbers of a text. -/
def parts (d : ℕ) (s : List Char) : Option ℕ :=
  if s = [] then some d
  else match h : part s with
    | none => none
    | some (v, rest) => if 2 ^ 63 < d + v then none else parts (d + v) rest
termination_by s.length
decreasing_by exact part_length h

/-- Whether a text has a minus in front, and what follows the sign. -/
def sign : List Char → Bool × List Char
  | '-' :: s => (true, s)
  | '+' :: s => (false, s)
  | s => (false, s)

def parseDuration (s : List Char) : Option ℤ :=
  let (neg, s) := sign s
  if s = ['0'] then some 0
  else if s = [] then none
  else (parts 0 s).bind fun d =>
    if neg then some (-d) else if 2 ^ 63 - 1 < d then none else some d

/-! ### Texts made of numbers with units -/

structure Part where
  digits : List Char
  fraction : List Char
  unit : List Char
  deriving DecidableEq

namespace Part

def text (p : Part) : List Char :=
  p.digits ++ (if p.fraction = [] then [] else '.' :: p.fraction) ++ p.unit

def scale (p : Part) : ℕ := (unitMap p.unit).getD 0

/-- The whole nanoseconds a part stands for. -/
def nanoseconds (p : Part) : ℕ :=
  Numerals.value 10 p.digits * p.scale +
    Numerals.value 10 p.fraction * p.scale / 10 ^ p.fraction.length

structure WellFormed (p : Part) : Prop where
  digits_ne_nil : p.digits ≠ []
  digits : ∀ c ∈ p.digits, isDigit c = true
  fraction : ∀ c ∈ p.fraction, isDigit c = true
  unit : (unitMap p.unit).isSome

end Part

/-- The end of a text, or the beginning of another number. -/
def StartsPart (rest : List Char) : Prop := ∀ c ∈ rest.head?, isDigit c = true

theorem isUnitChar_of_unitMap {unitText : List Char} {unit : ℕ}
    (h : unitMap unitText = some unit) : ∀ c ∈ unitText, isUnitChar c = true := by
  obtain ⟨before, after, heq, -⟩ := List.lookup_eq_some_iff.mp h
  have hall : ∀ entry ∈ before ++ (unitText, unit) :: after,
      entry.1.all isUnitChar = true := by
    rw [← heq]
    decide
  exact List.all_eq_true.mp (hall (unitText, unit) (List.mem_append_right _ List.mem_cons_self))

theorem leadingInt_append {digits rest : List Char} (hdigits : ∀ c ∈ digits, isDigit c = true)
    (hrest : ∀ c ∈ rest.head?, isDigit c = false) {x : ℕ} (hx : x ≤ 2 ^ 63) :
    leadingInt x (digits ++ rest) =
      if 2 ^ 63 < digits.foldl (fun n c => 10 * n + Numerals.digitValue c) x then none
      else some (digits.foldl (fun n c => 10 * n + Numerals.digitValue c) x, rest) := by
  induction digits generalizing x with
  | nil =>
    rw [List.nil_append, List.foldl_nil, if_neg (not_lt.mpr hx)]
    cases rest with
    | nil => rfl
    | cons c rest =>
      have hc : isDigit c = false := hrest c rfl
      rw [leadingInt, hc, Bool.not_false, if_pos rfl]
  | cons c digits ih =>
    obtain ⟨hc, hdigits⟩ := List.forall_mem_cons.mp hdigits
    have hgrows : ∀ (digits : List Char) (y : ℕ),
        y ≤ digits.foldl (fun n c => 10 * n + Numerals.digitValue c) y := by
      intro digits
      induction digits with
      | nil => exact fun y => le_rfl
      | cons c digits ih =>
        intro y
        rw [List.foldl_cons]
        exact le_trans (by omega) (ih _)
    have hlast := hgrows digits (10 * x + Numerals.digitValue c)
    rw [List.cons_append, List.foldl_cons, leadingInt, hc, Bool.not_true,
      if_neg Bool.false_ne_true]
    dsimp only
    split_ifs with hlarge hover hlarge' hover'
    · rfl
    · omega
    · rfl
    · omega
    · rw [ih hdigits (by omega), if_pos ‹_›]
    · rw [ih hdigits (by omega), if_neg ‹_›]

theorem takeWhile_append_of {p : Char → Bool} {front rest : List Char}
    (hfront : ∀ c ∈ front, p c = true) (hrest : ∀ c ∈ rest.head?, p c = false) :
    (front ++ rest).takeWhile p = front ∧ (front ++ rest).dropWhile p = rest := by
  rw [List.takeWhile_append_of_pos hfront, List.dropWhile_append_of_pos hfront]
  cases rest with
  | nil => simp
  | cons c rest =>
    have hc : p c = false := hrest c rfl
    simp [hc]

theorem not_isDigit_of_isUnitChar {c : Char} (h : isUnitChar c = true) : isDigit c = false := by
  rw [isUnitChar, Bool.and_eq_true, Bool.not_eq_true'] at h
  exact h.2

theorem not_isUnitChar_of_isDigit {c : Char} (h : isDigit c = true) : isUnitChar c = false := by
  rw [isUnitChar, h, Bool.not_true, Bool.and_false]

theorem head?_append_of_ne_nil {front rest : List Char} (h : front ≠ []) :
    (front ++ rest).head? = front.head? := by
  cases front with
  | nil => exact absurd rfl h
  | cons c front => rfl

theorem unitMap_pos {unitText : List Char} {unit : ℕ} (h : unitMap unitText = some unit) :
    0 < unit := by
  obtain ⟨before, after, heq, -⟩ := List.lookup_eq_some_iff.mp h
  have hall : ∀ entry ∈ before ++ (unitText, unit) :: after, 0 < entry.2 := by
    rw [← heq]
    decide
  exact hall (unitText, unit) (List.mem_append_right _ List.mem_cons_self)

theorem withUnit_append {unitText rest : List Char} {unit : ℕ}
    (hunit : unitMap unitText = some unit) (hrest : StartsPart rest) (v f scale : ℕ) :
    withUnit v f scale (unitText ++ rest) =
      if 2 ^ 63 < v * unit + f * unit / scale then none
      else some (v * unit + f * unit / scale, rest) := by
  obtain ⟨htake, hdrop⟩ := takeWhile_append_of (isUnitChar_of_unitMap hunit)
    fun c hc => not_isUnitChar_of_isDigit (hrest c hc)
  rw [withUnit, htake, hdrop, hunit, Option.bind_some]
  dsimp only
  generalize f * unit / scale = extra
  split_ifs with hlarge hover
  · rfl
  · have hmul := (Nat.div_lt_iff_lt_mul (unitMap_pos hunit)).mp hlarge
    omega
  · rfl
  · rfl

theorem part_of_unit {s afterInt : List Char} {v : ℕ}
    (hint : leadingInt 0 s = some (v, afterInt)) (hpre : afterInt.length ≠ s.length)
    (hpoint : ∀ digits, afterInt ≠ '.' :: digits) : part s = withUnit v 0 1 afterInt := by
  rw [part, hint, Option.bind_some]
  dsimp only
  split
  · exact absurd rfl (hpoint _)
  · exact if_neg hpre

theorem part_of_fraction {s digits : List Char} {v : ℕ}
    (hint : leadingInt 0 s = some (v, '.' :: digits))
    (hpre : ('.' :: digits).length ≠ s.length) :
    part s = withUnit v (Numerals.value 10 (digits.takeWhile isDigit))
      (10 ^ (digits.takeWhile isDigit).length) (digits.dropWhile isDigit) := by
  rw [part, hint, Option.bind_some]
  exact if_neg fun h => hpre h.1

/-- A number with its unit is read as its nanoseconds. -/
theorem part_text {p : Part} (h : p.WellFormed) {rest : List Char} (hrest : StartsPart rest) :
    part (p.text ++ rest) =
      if 2 ^ 63 < p.nanoseconds then none else some (p.nanoseconds, rest) := by
  obtain ⟨unit, hunit⟩ := Option.isSome_iff_exists.mp h.unit
  have hscale : p.scale = unit := by
    rw [Part.scale, hunit, Option.getD_some]
  obtain ⟨c, tail, hcons⟩ := List.exists_cons_of_ne_nil (ne_nil_of_unitMap hunit)
  have hc : isUnitChar c = true := by
    apply isUnitChar_of_unitMap hunit
    rw [hcons]
    exact List.mem_cons_self
  have hhead : ∀ a ∈ (p.unit ++ rest).head?, isDigit a = false := by
    rw [hcons]
    intro a ha
    obtain rfl := Option.some.inj ha
    exact not_isDigit_of_isUnitChar hc
  have hpos : 0 < p.digits.length := List.length_pos_iff.mpr h.digits_ne_nil
  have hgrows : Numerals.value 10 p.digits ≤ p.nanoseconds := by
    rw [Part.nanoseconds, hscale]
    exact (Nat.le_mul_of_pos_right _ (unitMap_pos hunit)).trans (Nat.le_add_right _ _)
  -- An integer too large for its own check makes too many nanoseconds, too.
  have hint : ∀ afterInt : List Char, (∀ a ∈ afterInt.head?, isDigit a = false) →
      leadingInt 0 (p.digits ++ afterInt) =
        if 2 ^ 63 < Numerals.value 10 p.digits then none
        else some (Numerals.value 10 p.digits, afterInt) :=
    fun afterInt hafter => leadingInt_append h.digits hafter (Nat.zero_le _)
  by_cases hfraction : p.fraction = []
  · have htext : p.text ++ rest = p.digits ++ (p.unit ++ rest) := by
      rw [Part.text, if_pos hfraction, List.append_nil, List.append_assoc]
    have hnanos : Numerals.value 10 p.digits * unit + 0 * unit / 1 = p.nanoseconds := by
      rw [Part.nanoseconds, hfraction, hscale]
      simp [Numerals.value]
    have hread := hint (p.unit ++ rest) hhead
    rw [htext]
    by_cases hlarge : 2 ^ 63 < Numerals.value 10 p.digits
    · rw [if_pos hlarge] at hread
      rw [part, hread, Option.bind_none, if_pos (hlarge.trans_le hgrows)]
    · rw [if_neg hlarge] at hread
      rw [part_of_unit hread, withUnit_append hunit hrest, hnanos]
      · simp only [List.length_append]
        omega
      · rw [hcons]
        rintro digits heq
        rw [(List.cons_eq_cons.mp heq).1] at hc
        cases hc
  · have htext : p.text ++ rest = p.digits ++ '.' :: (p.fraction ++ (p.unit ++ rest)) := by
      rw [Part.text, if_neg hfraction]
      simp only [List.append_assoc, List.cons_append]
    have hread := hint ('.' :: (p.fraction ++ (p.unit ++ rest))) fun a ha => by
      obtain rfl := Option.some.inj ha
      rfl
    obtain ⟨htake, hdrop⟩ := takeWhile_append_of h.fraction hhead
    rw [htext]
    by_cases hlarge : 2 ^ 63 < Numerals.value 10 p.digits
    · rw [if_pos hlarge] at hread
      rw [part, hread, Option.bind_none, if_pos (hlarge.trans_le hgrows)]
    · rw [if_neg hlarge] at hread
      rw [part_of_fraction hread, htake, hdrop, withUnit_append hunit hrest, Part.nanoseconds,
        hscale]
      simp only [List.length_append]
      omega

theorem startsPart_text {p : Part} (h : p.WellFormed) (rest : List Char) :
    StartsPart (p.text ++ rest) := by
  obtain ⟨c, digits, hcons⟩ := List.exists_cons_of_ne_nil h.digits_ne_nil
  intro a ha
  rw [Part.text, hcons] at ha
  obtain rfl := Option.some.inj ha
  exact h.digits c (hcons ▸ List.mem_cons_self)

theorem startsPart_texts {ps : List Part} (h : ∀ p ∈ ps, p.WellFormed) :
    StartsPart (ps.flatMap Part.text) := by
  cases ps with
  | nil => exact fun c hc => by cases hc
  | cons p ps => exact startsPart_text (h p List.mem_cons_self) _

/-- All the nanoseconds of the parts of a text. -/
def total (ps : List Part) : ℕ := (ps.map Part.nanoseconds).sum

theorem text_ne_nil {p : Part} (h : p.WellFormed) : p.text ≠ [] := by
  intro hnil
  rw [Part.text, List.append_assoc, List.append_eq_nil_iff] at hnil
  exact h.digits_ne_nil hnil.1

/-- The parts of a text are added up as long as the sum does not overflow. -/
theorem parts_texts {ps : List Part} (h : ∀ p ∈ ps, p.WellFormed) {d : ℕ} (hd : d ≤ 2 ^ 63) :
    parts d (ps.flatMap Part.text) =
      if 2 ^ 63 < d + total ps then none else some (d + total ps) := by
  induction ps generalizing d with
  | nil =>
    rw [List.flatMap_nil, parts, if_pos rfl, total, List.map_nil, List.sum_nil, Nat.add_zero,
      if_neg (not_lt.mpr hd)]
  | cons p ps ih =>
    obtain ⟨hp, hps⟩ := List.forall_mem_cons.mp h
    have hnonempty : p.text ++ ps.flatMap Part.text ≠ [] :=
      fun hnil => text_ne_nil hp (List.append_eq_nil_iff.mp hnil).1
    have htotal : total (p :: ps) = p.nanoseconds + total ps := by
      rw [total, List.map_cons, List.sum_cons, total]
    have hpart := part_text hp (startsPart_texts hps)
    rw [List.flatMap_cons, parts, if_neg hnonempty, htotal]
    split
    · rename_i hnone
      rw [hpart] at hnone
      split_ifs at hnone with hlarge
      rw [if_pos (by omega)]
    · rename_i v rest hsome
      rw [hpart] at hsome
      split_ifs at hsome
      obtain ⟨rfl, rfl⟩ := Prod.mk.inj (Option.some.inj hsome)
      by_cases hlarge : 2 ^ 63 < d + p.nanoseconds
      · rw [if_pos hlarge, if_pos (by omega)]
      · rw [if_neg hlarge, ih hps (not_lt.mp hlarge), Nat.add_assoc]

theorem parseDuration_texts {ps : List Part} (h : ∀ p ∈ ps, p.WellFormed) (hne : ps ≠ []) :
    parseDuration (ps.flatMap Part.text) =
      if 2 ^ 63 - 1 < total ps then none else some (total ps : ℤ) := by
  obtain ⟨p, rest, rfl⟩ := List.exists_cons_of_ne_nil hne
  obtain ⟨hp, -⟩ := List.forall_mem_cons.mp h
  obtain ⟨c, digits, hcons⟩ := List.exists_cons_of_ne_nil hp.digits_ne_nil
  have hc : isDigit c = true := hp.digits c (hcons ▸ List.mem_cons_self)
  obtain ⟨unit, hunit⟩ := Option.isSome_iff_exists.mp hp.unit
  have hlength : 2 ≤ ((p :: rest).flatMap Part.text).length := by
    have hpos := List.length_pos_iff.mpr (ne_nil_of_unitMap hunit)
    rw [List.flatMap_cons, Part.text, hcons]
    simp only [List.length_append, List.length_cons]
    omega
  have hparts := parts_texts h (Nat.zero_le (2 ^ 63))
  rw [Nat.zero_add] at hparts
  obtain ⟨tail, htail⟩ : ∃ tail, (p :: rest).flatMap Part.text = c :: tail := by
    rw [List.flatMap_cons, Part.text, hcons]
    exact ⟨_, rfl⟩
  rw [htail] at hlength hparts ⊢
  have hsign : sign (c :: tail) = (false, c :: tail) := by
    rw [sign.eq_def]
    split
    · rename_i heq
      rw [(List.cons_eq_cons.mp heq).1] at hc
      cases hc
    · rename_i heq
      rw [(List.cons_eq_cons.mp heq).1] at hc
      cases hc
    · rfl
  have hzero : c :: tail ≠ ['0'] := by
    intro heq
    rw [heq] at hlength
    exact absurd hlength (by decide)
  rw [parseDuration, hsign]
  simp only [hzero, hparts, List.cons_ne_nil, Bool.false_eq_true, if_false]
  by_cases hover : 2 ^ 63 < total (p :: rest)
  · rw [if_pos hover, if_pos (by omega), Option.bind_none]
  · rw [if_neg hover, Option.bind_some]

end GoDuration
