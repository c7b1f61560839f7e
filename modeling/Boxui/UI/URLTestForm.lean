import Boxui.Library.Binary64
import Boxui.Library.GoDuration

/-! The interval of a URL test: what its form accepts and what the server does. -/
namespace Boxui.UI.URLTestForm
open Binary64 GoDuration
open Numerals (isDigit)

/-- The alternatives of the pattern, in their order. -/
def durationUnits : List (List Char) :=
  [['n', 's'], ['u', 's'], ['\u00B5', 's'], ['m', 's'], ['s'], ['m'], ['h']]

def durationScales : List (List Char × Number) :=
  [(['n', 's'], ofRat (1 / 1000000)), (['u', 's'], ofRat (1 / 1000)),
    (['\u00B5', 's'], ofRat (1 / 1000)), (['m', 's'], .finite 1), (['s'], .finite 1000),
    (['m'], .finite 60000), (['h'], .finite 3600000)]

/-- `(?:\.\d+)?`, and what is left. -/
def fractionMatch : List Char → List Char × List Char
  | '.' :: s =>
    if s.takeWhile isDigit = [] then ([], '.' :: s)
    else (s.takeWhile isDigit, s.dropWhile isDigit)
  | s => ([], s)

/-- A match of the pattern at the beginning of a text, and what is left. Backtracking finds no other
match: after fewer digits comes a digit, which begins no unit. -/
def durationMatch (s : List Char) : Option (Part × List Char) :=
  let digits := s.takeWhile isDigit
  if digits = [] then none
  else
    let (fraction, rest) := fractionMatch (s.dropWhile isDigit)
    (durationUnits.find? fun unit => unit.isPrefixOf rest).map fun unit =>
      (⟨digits, fraction, unit⟩, rest.drop unit.length)

/-- `Number(match[1])`. -/
def matchedNumber (p : Part) : Number :=
  ofRat (Numerals.value 10 p.digits + Numerals.value 10 p.fraction / 10 ^ p.fraction.length)

theorem fractionMatch_spec (s : List Char) :
    s = (if (fractionMatch s).1 = [] then [] else '.' :: (fractionMatch s).1) ++
      (fractionMatch s).2 ∧ ∀ c ∈ (fractionMatch s).1, isDigit c = true := by
  rw [fractionMatch.eq_def]
  split
  · rename_i s
    by_cases hnone : s.takeWhile isDigit = []
    · rw [if_pos hnone]
      exact ⟨rfl, fun c hc => by cases hc⟩
    · rw [if_neg hnone]
      dsimp only
      rw [if_neg hnone, List.cons_append, List.takeWhile_append_dropWhile]
      exact ⟨rfl, fun c hc => List.mem_takeWhile_imp hc⟩
  · exact ⟨rfl, fun c hc => by cases hc⟩

/-- A match is a well-formed number with its unit. -/
theorem durationMatch_spec {s rest : List Char} {p : Part}
    (h : durationMatch s = some (p, rest)) : s = p.text ++ rest ∧ p.WellFormed := by
  rw [durationMatch] at h
  dsimp only at h
  split_ifs at h with hdigits
  obtain ⟨hsplit, hfraction⟩ := fractionMatch_spec (s.dropWhile isDigit)
  obtain ⟨unit, hunit, hmatch⟩ := Option.map_eq_some_iff.mp h
  generalize fractionMatch (s.dropWhile isDigit) = pair at hsplit hfraction hunit hmatch
  obtain ⟨rfl, rfl⟩ := Prod.mk.inj hmatch
  obtain ⟨after, hafter⟩ := List.isPrefixOf_iff_prefix.mp (List.find?_some hunit :)
  have hmem := List.mem_of_find?_eq_some hunit
  have hknown : ∀ unit ∈ durationUnits, (unitMap unit).isSome = true := by decide
  refine ⟨?_, hdigits, fun c hc => List.mem_takeWhile_imp hc, hfraction, hknown unit hmem⟩
  rw [← hafter] at hsplit ⊢
  rw [List.drop_left, Part.text, List.append_assoc, List.append_assoc, ← hsplit,
    List.takeWhile_append_dropWhile]

theorem durationMatch_length {s rest : List Char} {p : Part}
    (h : durationMatch s = some (p, rest)) : rest.length < s.length := by
  obtain ⟨hsplit, hp⟩ := durationMatch_spec h
  have hpos := List.length_pos_iff.mpr (text_ne_nil hp)
  rw [hsplit, List.length_append]
  omega

/-- The loop over the matches: the sum in milliseconds, and what is left. -/
def scanDurations (total : Number) (s : List Char) : Number × List Char :=
  match _h : durationMatch s with
  | none => (total, s)
  | some (p, rest) =>
    let scale := (durationScales.lookup p.unit).getD .nan
    scanDurations (total.add ((matchedNumber p).mul scale)) rest
termination_by s.length
decreasing_by exact durationMatch_length _h

def isPositiveDuration (value : String) : Bool :=
  if value = "" then false
  else
    let (total, rest) := scanDurations (.finite 0) value.toList
    rest.isEmpty && total.gt (.finite 0)

inductive IntervalError where
  | parsing
  | notPositive
  deriving DecidableEq

/-- The check the server makes before it saves an interval. -/
def validateURLTestInterval (rawInterval : String) : Except IntervalError Unit :=
  match parseDuration rawInterval.toList with
  | none => .error .parsing
  | some interval => if interval ≤ 0 then .error .notPositive else .ok ()

/-- A text is made of numbers with units. -/
def Spells (ps : List Part) (value : String) : Prop :=
  ps ≠ [] ∧ (∀ p ∈ ps, p.WellFormed) ∧ value.toList = ps.flatMap Part.text

/-- The loop consumes only numbers with units. -/
theorem scanDurations_spec (total : Number) (s : List Char) :
    ∃ ps : List Part, (∀ p ∈ ps, p.WellFormed) ∧
      s = ps.flatMap Part.text ++ (scanDurations total s).2 := by
  fun_induction scanDurations total s with
  | case1 total s hnone => exact ⟨[], fun p hp => absurd hp List.not_mem_nil, rfl⟩
  | case2 total s p rest hmatch scale ih =>
    obtain ⟨ps, hps, heq⟩ := ih
    obtain ⟨hsplit, hp⟩ := durationMatch_spec hmatch
    refine ⟨p :: ps, List.forall_mem_cons.mpr ⟨hp, hps⟩, ?_⟩
    rw [List.flatMap_cons, List.append_assoc, ← heq]
    exact hsplit

theorem spells_of_isPositiveDuration {value : String} (h : isPositiveDuration value = true) :
    ∃ ps, Spells ps value := by
  rw [isPositiveDuration] at h
  split_ifs at h with hempty
  obtain ⟨ps, hps, heq⟩ := scanDurations_spec (.finite 0) value.toList
  obtain ⟨hrest, -⟩ := Bool.and_eq_true_iff.mp h
  rw [List.isEmpty_iff.mp hrest, List.append_nil] at heq
  refine ⟨ps, ?_, hps, heq⟩
  rintro rfl
  rw [List.flatMap_nil, String.toList_eq_nil_iff] at heq
  exact hempty heq

/-- The server takes a text made of numbers with units if and only if their nanoseconds are
positive and fit into an `int64`. -/
theorem validate_of_spells {ps : List Part} {value : String} (h : Spells ps value) :
    validateURLTestInterval value = .ok () ↔ 1 ≤ total ps ∧ total ps ≤ 2 ^ 63 - 1 := by
  obtain ⟨hne, hps, htext⟩ := h
  rw [validateURLTestInterval, htext, parseDuration_texts hps hne]
  by_cases hover : 2 ^ 63 - 1 < total ps
  · rw [if_pos hover]
    exact iff_of_false (fun hok => by cases hok) fun hrange => absurd hrange.2 (not_le.mpr hover)
  · rw [if_neg hover]
    dsimp only
    split_ifs with hpos
    · exact iff_of_false (fun hok => by cases hok) fun hrange => by omega
    · exact iff_of_true rfl ⟨by omega, not_lt.mp hover⟩

/-- Of the intervals the form accepts the server takes those whose parts, cut to whole nanoseconds,
sum up to a positive `int64`. -/
theorem isPositiveDuration_validated_iff (value : String) (h : isPositiveDuration value = true) :
    validateURLTestInterval value = .ok () ↔
      ∃ ps, Spells ps value ∧ 1 ≤ total ps ∧ total ps ≤ 2 ^ 63 - 1 := by
  constructor
  · intro hok
    obtain ⟨ps, hps⟩ := spells_of_isPositiveDuration h
    exact ⟨ps, hps, (validate_of_spells hps).mp hok⟩
  · rintro ⟨ps, hps, hrange⟩
    exact (validate_of_spells hps).mpr hrange

theorem scanDurations_single {s : List Char} {p : Part} (h : durationMatch s = some (p, []))
    (total : Number) :
    scanDurations total s =
      (total.add ((matchedNumber p).mul ((durationScales.lookup p.unit).getD .nan)), []) := by
  have hend : ∀ total, scanDurations total [] = (total, []) := by
    intro total
    rw [scanDurations]
    rfl
  rw [scanDurations]
  split
  · rename_i hnone
    rw [h] at hnone
    cases hnone
  · rename_i hsome
    obtain ⟨rfl, rfl⟩ := Prod.mk.inj (Option.some.inj (h.symm.trans hsome))
    exact hend _

theorem isPositiveDuration_second : isPositiveDuration "1s" = true := by
  have htext : "1s".toList = ['1', 's'] := rfl
  have hmatch : durationMatch ['1', 's'] = some (⟨['1'], [], ['s']⟩, []) := by decide
  rw [isPositiveDuration, if_neg (by decide), htext, scanDurations_single hmatch]
  decide +kernel

theorem isPositiveDuration_validated_second : validateURLTestInterval "1s" = .ok () := by
  apply (isPositiveDuration_validated_iff "1s" isPositiveDuration_second).mpr
  refine ⟨[⟨['1'], [], ['s']⟩], ⟨List.cons_ne_nil _ _, List.forall_mem_singleton.mpr ?_, rfl⟩,
    by decide, by decide⟩
  exact ⟨by decide, List.forall_mem_singleton.mpr (by decide), List.forall_mem_nil _, by decide⟩

/-- A tenth of a nanosecond passes the form, and the server cuts it to nothing. -/
theorem isPositiveDuration_tenth :
    ¬ ∀ value, isPositiveDuration value = true → validateURLTestInterval value = .ok () := by
  intro h
  have htext : "0.1ns".toList = ['0', '.', '1', 'n', 's'] := rfl
  have hmatch : durationMatch ['0', '.', '1', 'n', 's'] =
      some (⟨['0'], ['1'], ['n', 's']⟩, []) := by decide
  have haccepted : isPositiveDuration "0.1ns" = true := by
    rw [isPositiveDuration, if_neg (by decide), htext, scanDurations_single hmatch]
    decide +kernel
  have hspells : Spells [⟨['0'], ['1'], ['n', 's']⟩] "0.1ns" := by
    refine ⟨List.cons_ne_nil _ _, List.forall_mem_singleton.mpr ?_, htext⟩
    exact ⟨by decide, List.forall_mem_singleton.mpr (by decide),
      List.forall_mem_singleton.mpr (by decide), by decide⟩
  obtain ⟨hpos, -⟩ := (validate_of_spells hspells).mp (h _ haccepted)
  exact absurd hpos (by decide)

end Boxui.UI.URLTestForm
