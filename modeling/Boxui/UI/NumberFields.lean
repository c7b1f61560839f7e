import Boxui.Library.Binary64
import Boxui.Library.JSText
import Boxui.Library.Numerals
import Boxui.UI.FormPruning

/-! Numbers typed into the policy forms: the fields with constraints, and what is stored. -/
namespace Boxui.UI.NumberFields
open GoValue JSValue Forms Binary64

inductive ConstraintKind where
  | integer
  | integerList
  | mark
  deriving DecidableEq

structure PolicyNumberConstraint where
  kind : ConstraintKind
  maximum : Number
  allowed : Option (List Number) := none
  fieldKind : Option PolicyFieldKind := none
  deriving DecidableEq

abbrev PolicyNumberConstraints := List (List String × PolicyNumberConstraint)

/-- A value is not above the maximum and among the allowed ones, if these are given. -/
def inBounds (constraint : PolicyNumberConstraint) (value : Number) : Bool :=
  !value.gt constraint.maximum && constraint.allowed.all fun allowed => allowed.contains value

def decimalInteger (raw : List Char) (constraint : PolicyNumberConstraint) : Option ℤ :=
  if !Numerals.isNumeral 10 raw then none
  else
    let value := ofRat (Numerals.value 10 raw)
    match value.integer? with
    | none => none
    | some n => if |n| ≤ maxSafeInteger && inBounds constraint value then some n else none

def isListSeparator (c : Char) : Bool := c == '\n' || c == ','

def integerList (raw : List Char) (constraint : PolicyNumberConstraint) : Option (List ℤ) :=
  (JSText.tokens isListSeparator raw).mapM fun token => decimalInteger token constraint

/-- `BigInt(normalized)`, for a text with a base of its own. -/
def prefixedInteger : List Char → Option ℕ
  | '0' :: c :: digits =>
    if c = 'x' ∨ c = 'X' then Numerals.read 16 digits
    else if c = 'b' ∨ c = 'B' then Numerals.read 2 digits
    else if c = 'o' ∨ c = 'O' then Numerals.read 8 digits
    else none
  | _ => none

/-- A leading zero makes octal digits an octal numeral. -/
def normalized : List Char → List Char
  | '0' :: digits => if Numerals.isNumeral 8 digits then '0' :: 'o' :: digits else '0' :: digits
  | raw => raw

/-- `BigInt` throws for a maximum that is no integer. -/
def stringMark (raw : List Char) (maximum : Number) : Bool :=
  match prefixedInteger (normalized raw) with
  | none => false
  | some n => match maximum.integer? with
    | none => false
    | some m => (n : ℤ) ≤ m

inductive Transformed where
  | unhandled
  | rejected
  | updated (object : Object)

/-- What is inherited from `Object.prototype` has none of the properties of a constraint, and no
number is greater than `undefined`. -/
def inheritedConstraint : PolicyNumberConstraint := { kind := .integer, maximum := .nan }

def constraintAt (constraints : PolicyNumberConstraints) (path : List String) :
    Option PolicyNumberConstraint :=
  match constraints.lookup path with
  | some constraint => some constraint
  | none => match path with
    | [key] => if key ∈ inheritedNames then some inheritedConstraint else none
    | _ => none

/-- `value === null ? null : setPolicyPath(object, field.path, value)`. -/
def storeOrReject (object : Object) (path : List String) : Option Value → Transformed
  | none => .rejected
  | some value => .updated (setPolicyPath object path (some value))

/-- The transform of a field to which a constraint applies. -/
def applyConstraint (constraint : PolicyNumberConstraint) (object : Object) (path : List String)
    (raw : List Char) : Transformed :=
  let token := JSText.trim raw
  if token = [] then .updated (setPolicyPath object path none)
  else if constraint.kind = .mark && stringMark token constraint.maximum then
    .updated (setPolicyPath object path (some (.str (String.ofList token))))
  else if constraint.kind = .integerList then
    storeOrReject object path ((integerList raw constraint).map fun values =>
      .list (values.map .int))
  else storeOrReject object path ((decimalInteger token constraint).map .int)

def createPolicyNumberTransform (constraints : PolicyNumberConstraints) (object : Object)
    (path : List String) (kind : Option PolicyFieldKind) (raw : String) : Transformed :=
  match constraintAt constraints path with
  | none => .unhandled
  | some constraint =>
    if constraint.fieldKind.any fun fieldKind => some fieldKind ≠ kind then .unhandled
    else applyConstraint constraint object path raw.toList

def uint16 : Number := .finite 0xFFFF
def int32 : Number := .finite 0x7FFFFFFF
def uint32 : Number := .finite 0xFFFFFFFF

def routeNumberConstraints : PolicyNumberConstraints :=
  [(["ip_version"],
      { kind := .integer, maximum := .finite 6, allowed := some [.finite 4, .finite 6] }),
    (["source_port"], { kind := .integerList, maximum := uint16 }),
    (["port"], { kind := .integerList, maximum := uint16 }),
    (["user_id"], { kind := .integerList, maximum := int32 }),
    (["override_port"], { kind := .integer, maximum := uint16 }),
    (["fallback_delay"], { kind := .integer, maximum := uint32, fieldKind := some .number }),
    (["rewrite_ttl"], { kind := .integer, maximum := uint32 }),
    (["default_domain_resolver", "rewrite_ttl"], { kind := .integer, maximum := uint32 }),
    (["domain_resolver", "rewrite_ttl"], { kind := .integer, maximum := uint32 }),
    (["default_mark"], { kind := .mark, maximum := uint32 }),
    (["routing_mark"], { kind := .mark, maximum := uint32 })]

def dnsNumberConstraints : PolicyNumberConstraints :=
  [(["ip_version"],
      { kind := .integer, maximum := .finite 6, allowed := some [.finite 4, .finite 6] }),
    (["source_port"], { kind := .integerList, maximum := uint16 }),
    (["port"], { kind := .integerList, maximum := uint16 }),
    (["user_id"], { kind := .integerList, maximum := int32 }),
    (["server_port"], { kind := .integer, maximum := uint16 }),
    (["cache_capacity"], { kind := .integer, maximum := uint32 }),
    (["rewrite_ttl"], { kind := .integer, maximum := uint32 }),
    (["domain_resolver", "rewrite_ttl"], { kind := .integer, maximum := uint32 }),
    (["routing_mark"], { kind := .mark, maximum := uint32 })]

/-! ### What was typed -/

/-- The integer a mark is written for with a base of its own or a leading zero. -/
def markInteger : List Char → Option ℕ
  | '0' :: digits => (prefixedInteger ('0' :: digits)).or (Numerals.read 8 digits)
  | _ => none

def typedInteger (kind : ConstraintKind) (token : List Char) : Option ℕ :=
  if kind = .mark then (markInteger token).or (Numerals.read 10 token)
  else Numerals.read 10 token

def typedTokens (kind : ConstraintKind) (raw : List Char) : List (List Char) :=
  if kind = .integerList then JSText.tokens isListSeparator raw
  else [JSText.trim raw].filter fun token => !token.isEmpty

/-- The integers typed, all of them within the bounds. -/
def Typed (constraint : PolicyNumberConstraint) : List (List Char) → List ℕ → Prop :=
  List.Forall₂ fun token n =>
    typedInteger constraint.kind token = some n ∧ inBounds constraint (.finite n) = true

/-- A stored value denotes integers. -/
inductive Denotes (kind : ConstraintKind) : Value → List ℕ → Prop where
  | number (n : ℕ) (h : kind ≠ .integerList) : Denotes kind (.int n) [n]
  | numbers (ns : List ℕ) (h : kind = .integerList) (hne : ns ≠ []) :
      Denotes kind (.list (ns.map fun n : ℕ => .int n)) ns
  | text (s : String) (n : ℕ) (h : kind = .mark) (hs : typedInteger .mark s.toList = some n) :
      Denotes kind (.str s) [n]

/-- A transform stores what was typed, clears the field where nothing was, and rejects the rest. -/
structure StoresTyped (constraint : PolicyNumberConstraint) (object : Object)
    (path : List String) (raw : List Char) (result : Transformed) : Prop where
  blank : typedTokens constraint.kind raw = [] → result = .updated (setPolicyPath object path none)
  typed : ∀ ns ≠ [], Typed constraint (typedTokens constraint.kind raw) ns →
    ∃ v, result = .updated (setPolicyPath object path (some v)) ∧ Denotes constraint.kind v ns
  refused : (¬ ∃ ns, Typed constraint (typedTokens constraint.kind raw) ns) → result = .rejected

theorem gt_finite_iff (n m : ℚ) : (Number.finite n).gt (.finite m) = true ↔ m < n := by
  simp [Number.gt]

/-- The transform reads the decimal numerals of safe integers within the bounds. -/
theorem decimalInteger_eq_some_iff {raw : List Char} {constraint : PolicyNumberConstraint}
    {v : ℤ} :
    decimalInteger raw constraint = some v ↔
      ∃ n, Numerals.read 10 raw = some n ∧ (n : ℤ) ≤ maxSafeInteger ∧
        inBounds constraint (.finite n) = true ∧ v = n := by
  rw [decimalInteger]
  by_cases hnumeral : Numerals.isNumeral 10 raw = true
  · have hread : Numerals.read 10 raw = some (Numerals.value 10 raw) := if_pos hnumeral
    rw [hnumeral, hread]
    generalize Numerals.value 10 raw = n
    simp only [Bool.not_true, Bool.false_eq_true, if_false, Option.some.injEq, exists_eq_left']
    by_cases hsafe : (n : ℤ) ≤ maxSafeInteger
    · have hinteger : (Number.finite (n : ℚ)).integer? = some (n : ℤ) := by
        simp [Number.integer?]
      rw [ofRat_of_safe hsafe, hinteger]
      have habs : |(n : ℤ)| ≤ maxSafeInteger := by
        rwa [Nat.abs_cast]
      simp only [habs, decide_true, Bool.true_and, hsafe, true_and]
      split_ifs with hbounds
      · simp [hbounds, eq_comm]
      · simp [hbounds]
    · refine iff_of_false ?_ fun h => hsafe h.1
      obtain hinfinite | ⟨q, hq, hlarge⟩ := ofRat_of_unsafe (not_le.mp hsafe)
      · rw [hinfinite]
        simp [Number.integer?]
      · rw [hq, Number.integer?]
        split_ifs with hden
        · have hnum : maxSafeInteger < q.num := by
            rw [← Rat.num_div_den q, hden, Nat.cast_one, div_one] at hlarge
            exact_mod_cast hlarge
          have habs : ¬ |q.num| ≤ maxSafeInteger :=
            not_le.mpr (hnum.trans_le (le_abs_self q.num))
          simp [habs]
        · simp
  · have hread : Numerals.read 10 raw = none := if_neg hnumeral
    rw [Bool.not_eq_true] at hnumeral
    simp [hnumeral, hread]

theorem decimalInteger_eq_none_iff {raw : List Char} {constraint : PolicyNumberConstraint} :
    decimalInteger raw constraint = none ↔
      ∀ n, Numerals.read 10 raw = some n → inBounds constraint (.finite n) = true →
        maxSafeInteger < n := by
  rw [Option.eq_none_iff_forall_ne_some]
  constructor
  · intro h n hread hbounds
    by_contra hsafe
    exact h n (decimalInteger_eq_some_iff.mpr ⟨n, hread, not_lt.mp hsafe, hbounds, rfl⟩)
  · intro h v hv
    obtain ⟨n, hread, hsafe, hbounds, -⟩ := decimalInteger_eq_some_iff.mp hv
    exact absurd (h n hread hbounds) (not_lt.mpr hsafe)

/-! ### Marks -/

theorem prefixedInteger_of_numeral {base : ℕ} (h : base ≤ 10) {digits : List Char}
    (hdigits : Numerals.isNumeral base digits = true) :
    prefixedInteger ('0' :: digits) = none := by
  cases digits with
  | nil => rfl
  | cons c digits =>
    have hdigit : Numerals.digitValue c < base := by
      simp only [Numerals.isNumeral, List.all_cons, Bool.and_eq_true, decide_eq_true_eq] at hdigits
      exact hdigits.2.1
    have hletter : ∀ letter ∈ ['x', 'X', 'b', 'B', 'o', 'O'], c ≠ letter := by
      rintro letter hletter rfl
      have hlarge : (['x', 'X', 'b', 'B', 'o', 'O'].all fun letter =>
          10 ≤ Numerals.digitValue letter) = true := by decide
      have hle := of_decide_eq_true (List.all_eq_true.mp hlarge c hletter)
      exact absurd (hdigit.trans_le h) (not_lt.mpr hle)
    simp only [List.forall_mem_cons] at hletter
    obtain ⟨hx, hX, hb, hB, ho, hO, -⟩ := hletter
    simp [prefixedInteger, hx, hX, hb, hB, ho, hO]

theorem prefixedInteger_normalized (raw : List Char) :
    prefixedInteger (normalized raw) = markInteger raw := by
  cases raw with
  | nil => rfl
  | cons c digits =>
    by_cases hzero : c = '0'
    · rw [hzero, normalized, markInteger]
      split_ifs with hnumeral
      · rw [prefixedInteger_of_numeral (by omega) hnumeral, Option.none_or]
        rfl
      · rw [Numerals.read, if_neg hnumeral, Option.or_none]
    · simp [normalized, prefixedInteger, markInteger, hzero]

theorem stringMark_iff {raw : List Char} {maximum : Number} :
    stringMark raw maximum = true ↔
      ∃ n m, markInteger raw = some n ∧ maximum.integer? = some m ∧ (n : ℤ) ≤ m := by
  rw [stringMark, prefixedInteger_normalized]
  cases markInteger raw with
  | none => simp
  | some n =>
    cases maximum.integer? with
    | none => simp
    | some m => simp

/-- An octal mark is worth no more than its digits in decimal. -/
theorem markInteger_le {token : List Char} {n d : ℕ} (hmark : markInteger token = some n)
    (hdecimal : Numerals.read 10 token = some d) : n ≤ d := by
  cases token with
  | nil => cases hmark
  | cons c digits =>
    by_cases hzero : c = '0'
    · rw [hzero] at hmark hdecimal
      obtain ⟨hnumeral, rfl⟩ := Numerals.read_eq_some_iff.mp hdecimal
      rw [Numerals.isNumeral_zero_cons (by omega)] at hnumeral
      rw [Numerals.value_zero_cons]
      rw [markInteger] at hmark
      cases digits with
      | nil => cases hmark
      | cons c digits =>
        have hdigits : Numerals.isNumeral 10 (c :: digits) = true := hnumeral
        rw [prefixedInteger_of_numeral le_rfl hdigits, Option.none_or] at hmark
        obtain ⟨-, rfl⟩ := Numerals.read_eq_some_iff.mp hmark
        exact Numerals.value_le_value (by omega) _
    · simp [markInteger, hzero] at hmark

theorem inBounds_iff {constraint : PolicyNumberConstraint} {value : Number} :
    inBounds constraint value = true ↔ value.gt constraint.maximum = false ∧
      ∀ allowed, constraint.allowed = some allowed → value ∈ allowed := by
  simp [inBounds, Option.all_eq_true]

/-- Below a maximum that is an integer. -/
theorem gt_eq_false_iff {n : ℕ} {maximum : Number} {m : ℤ} (h : maximum.integer? = some m) :
    (Number.finite n).gt maximum = false ↔ (n : ℤ) ≤ m := by
  cases maximum with
  | finite q =>
    rw [Number.integer?] at h
    split_ifs at h with hden
    obtain rfl := Option.some.inj h
    have hq : q = (q.num : ℚ) := by
      conv_lhs => rw [← Rat.num_div_den q, hden, Nat.cast_one, div_one]
    rw [Number.gt, decide_eq_false_iff_not, not_lt, hq]
    exact_mod_cast Iff.rfl
  | _ => cases h

/-! ### When the transform stores what was typed -/

/-- What a decimal token stands for, if it is within the bounds, is a safe integer. -/
def SafeDecimal (constraint : PolicyNumberConstraint) (token : List Char) : Prop :=
  ∀ n, Numerals.read 10 token = some n → inBounds constraint (.finite n) = true →
    (n : ℤ) ≤ maxSafeInteger

/-- For a mark with a base of its own or a leading zero: not above a maximum that is an integer it
is an allowed one, and for another maximum it reads the same in decimal or is out of bounds. -/
def RegularMark (constraint : PolicyNumberConstraint) (token : List Char) (n : ℕ) : Prop :=
  match constraint.maximum.integer? with
  | some m => (n : ℤ) ≤ m → inBounds constraint (.finite n) = true
  | none =>
    (inBounds constraint (.finite n) = true →
      Numerals.read 10 token = some n ∧ (n : ℤ) ≤ maxSafeInteger) ∧
    ∀ d, Numerals.read 10 token = some d → inBounds constraint (.finite d) = true →
      (d : ℤ) ≤ maxSafeInteger → d = n

/-- A text with which nothing goes wrong. -/
def Regular (constraint : PolicyNumberConstraint) (raw : List Char) : Prop :=
  match constraint.kind with
  | .integer => SafeDecimal constraint (JSText.trim raw)
  | .integerList =>
    (JSText.trim raw ≠ [] → JSText.tokens isListSeparator raw ≠ []) ∧
      ((∃ ns, Typed constraint (JSText.tokens isListSeparator raw) ns) →
        ∀ token ∈ JSText.tokens isListSeparator raw, SafeDecimal constraint token)
  | .mark => match markInteger (JSText.trim raw) with
    | none => SafeDecimal constraint (JSText.trim raw)
    | some n => RegularMark constraint (JSText.trim raw) n

section

variable {constraint : PolicyNumberConstraint} {object : Object} {key : String}
  {keys : List String} {raw : List Char}

theorem setPolicyPath_injective (object : Object) (key : String) (keys : List String) :
    Function.Injective fun v => setPolicyPath object (key :: keys) v := by
  intro v w h
  simp only [setPolicyPath_eq, setPath_eq_set] at h
  have hv := ObjectPath.getPath_set object (List.cons_ne_nil key keys) v
  rw [h, ObjectPath.getPath_set object (List.cons_ne_nil key keys)] at hv
  exact hv.symm

theorem typedTokens_of_blank (h : JSText.trim raw = []) :
    typedTokens constraint.kind raw = [] := by
  rw [typedTokens]
  split_ifs
  · exact JSText.tokens_of_blank isListSeparator h
  · rw [h]
    rfl

/-- A blank text clears the field, as it should. -/
theorem storesTyped_of_blank (path : List String) (h : JSText.trim raw = []) :
    StoresTyped constraint object path raw (applyConstraint constraint object path raw) := by
  have htokens : typedTokens constraint.kind raw = [] := typedTokens_of_blank h
  refine ⟨fun _ => ?_, fun ns hne htyped => ?_, fun hnone => ?_⟩
  · rw [applyConstraint, if_pos h]
  · rw [htokens] at htyped
    exact absurd (List.forall₂_nil_left_iff.mp htyped) hne
  · rw [htokens] at hnone
    exact absurd ⟨[], List.Forall₂.nil⟩ hnone

theorem regular_of_blank (h : JSText.trim raw = []) : Regular constraint raw := by
  have hsafe : SafeDecimal constraint [] := fun n hn => by cases hn
  rw [Regular]
  split
  · rw [h]
    exact hsafe
  · rw [JSText.tokens_of_blank isListSeparator h]
    exact ⟨fun hne => absurd h hne, fun _ token htoken => by cases htoken⟩
  · rw [h]
    exact hsafe

/-- A single token stores what was typed if and only if each of the ways a result can come about
does. -/
theorem storesTyped_single {token : List Char} {result : Transformed} {path : List String}
    (htokens : typedTokens constraint.kind raw = [token]) :
    StoresTyped constraint object path raw result ↔
      (∀ n, typedInteger constraint.kind token = some n →
        inBounds constraint (.finite n) = true →
          ∃ v, result = .updated (setPolicyPath object path (some v)) ∧
            Denotes constraint.kind v [n]) ∧
      ((∀ n, typedInteger constraint.kind token = some n →
        inBounds constraint (.finite n) = false) → result = .rejected) := by
  have hsingle : ∀ ns, Typed constraint [token] ns ↔
      ∃ n, ns = [n] ∧ typedInteger constraint.kind token = some n ∧
        inBounds constraint (.finite n) = true := by
    intro ns
    rw [Typed, List.forall₂_cons_left_iff]
    constructor
    · rintro ⟨n, rest, h, hrest, rfl⟩
      rw [List.forall₂_nil_left_iff.mp hrest]
      exact ⟨n, rfl, h⟩
    · rintro ⟨n, rfl, h⟩
      exact ⟨n, [], h, .nil, rfl⟩
  constructor
  · rintro ⟨-, htyped, hrefused⟩
    rw [htokens] at htyped hrefused
    refine ⟨fun n hn hbounds => ?_, fun hnone => hrefused ?_⟩
    · exact htyped [n] (List.cons_ne_nil _ _) ((hsingle _).mpr ⟨n, rfl, hn, hbounds⟩)
    · rintro ⟨ns, hns⟩
      obtain ⟨n, -, hn, hbounds⟩ := (hsingle ns).mp hns
      rw [hnone n hn] at hbounds
      cases hbounds
  · rintro ⟨htyped, hrefused⟩
    refine ⟨fun hnil => ?_, fun ns _ hns => ?_, fun hnone => hrefused fun n hn => ?_⟩
    · rw [htokens] at hnil
      cases hnil
    · rw [htokens] at hns
      obtain ⟨n, rfl, hn, hbounds⟩ := (hsingle ns).mp hns
      exact htyped n hn hbounds
    · rw [htokens] at hnone
      by_contra hbounds
      rw [Bool.not_eq_false] at hbounds
      exact hnone ⟨[n], (hsingle _).mpr ⟨n, rfl, hn, hbounds⟩⟩

theorem storeOrReject_eq_updated_iff {value : Option Value} {v : Value} :
    storeOrReject object (key :: keys) value =
      .updated (setPolicyPath object (key :: keys) (some v)) ↔ value = some v := by
  cases value with
  | none => exact iff_of_false (fun h => by cases h) fun h => by cases h
  | some w =>
    rw [storeOrReject, Transformed.updated.injEq]
    exact (setPolicyPath_injective object key keys).eq_iff

theorem storeOrReject_eq_rejected_iff {value : Option Value} {path : List String} :
    storeOrReject object path value = .rejected ↔ value = none := by
  cases value <;> simp [storeOrReject]

theorem denotes_int_iff {kind : ConstraintKind} (h : kind ≠ .integerList) {v : ℤ} {n : ℕ} :
    Denotes kind (.int v) [n] ↔ v = n := by
  constructor
  · intro hdenotes
    cases hdenotes with
    | number => rfl
  · rintro rfl
    exact .number n h

/-- A token that is read in decimal is stored rightly where it is a safe integer. -/
theorem storesTyped_decimal {token : List Char}
    (htokens : typedTokens constraint.kind raw = [token])
    (hkind : constraint.kind ≠ .integerList)
    (htyped : typedInteger constraint.kind token = Numerals.read 10 token) :
    StoresTyped constraint object (key :: keys) raw
        (storeOrReject object (key :: keys) ((decimalInteger token constraint).map .int)) ↔
      SafeDecimal constraint token := by
  rw [storesTyped_single htokens, htyped]
  constructor
  · rintro ⟨hstored, -⟩ n hn hbounds
    obtain ⟨v, hresult, -⟩ := hstored n hn hbounds
    obtain ⟨value, hvalue, -⟩ := Option.map_eq_some_iff.mp (storeOrReject_eq_updated_iff.mp hresult)
    obtain ⟨m, hm, hsafe, -⟩ := decimalInteger_eq_some_iff.mp hvalue
    obtain rfl := Option.some.inj (hn.symm.trans hm)
    exact hsafe
  · intro hsafe
    refine ⟨fun n hn hbounds => ⟨.int n, ?_, .number n hkind⟩, fun hnone => ?_⟩
    · have hvalue : decimalInteger token constraint = some (n : ℤ) :=
        decimalInteger_eq_some_iff.mpr ⟨n, hn, hsafe n hn hbounds, hbounds, rfl⟩
      rw [hvalue]
      rfl
    · rw [storeOrReject_eq_rejected_iff, Option.map_eq_none_iff, decimalInteger_eq_none_iff]
      intro n hn hbounds
      rw [hnone n hn] at hbounds
      cases hbounds

theorem typedTokens_single (hkind : constraint.kind ≠ .integerList) (h : JSText.trim raw ≠ []) :
    typedTokens constraint.kind raw = [JSText.trim raw] := by
  rw [typedTokens, if_neg hkind, List.filter_cons, if_pos (by simpa using h), List.filter_nil]

/-- A mark that is read in decimal after all: its value is no smaller. -/
theorem decimalInteger_of_mark {token : List Char} {n : ℕ} {m : ℤ}
    (hmark : markInteger token = some n) (hmax : constraint.maximum.integer? = some m)
    (habove : m < n) : decimalInteger token constraint = none := by
  rw [decimalInteger_eq_none_iff]
  intro d hd hbounds
  have hle : (d : ℤ) ≤ m := (gt_eq_false_iff hmax).mp (inBounds_iff.mp hbounds).1
  have hn : n ≤ d := markInteger_le hmark hd
  omega

/-- A mark with a base of its own or a leading zero is stored rightly where it is regular. -/
theorem storesTyped_mark (hkind : constraint.kind = .mark) (h : JSText.trim raw ≠ []) {n : ℕ}
    (hmark : markInteger (JSText.trim raw) = some n) :
    StoresTyped constraint object (key :: keys) raw
        (applyConstraint constraint object (key :: keys) raw) ↔
      RegularMark constraint (JSText.trim raw) n := by
  have hlist : constraint.kind ≠ .integerList := by
    rw [hkind]
    decide
  have hne : ¬ ConstraintKind.mark = .integerList := by decide
  have htyped : typedInteger constraint.kind (JSText.trim raw) = some n := by
    rw [typedInteger, if_pos hkind, hmark, Option.some_or]
  rw [storesTyped_single (typedTokens_single hlist h), htyped, applyConstraint, if_neg h, hkind,
    decide_eq_true rfl, Bool.true_and, if_neg hne, RegularMark]
  simp only [Option.some.injEq, forall_eq']
  generalize JSText.trim raw = token at hmark htyped
  cases hmax : constraint.maximum.integer? with
  | some m =>
    dsimp only
    by_cases hle : (n : ℤ) ≤ m
    · rw [if_pos (stringMark_iff.mpr ⟨n, m, hmark, hmax, hle⟩)]
      constructor
      · rintro ⟨-, hrefused⟩ -
        by_contra hbounds
        cases hrefused (Bool.not_eq_true _ ▸ hbounds)
      · intro hbounds
        refine ⟨fun _ => ⟨_, rfl, .text _ n rfl ?_⟩, fun hnone => ?_⟩
        · rw [String.toList_ofList, ← hkind]
          exact htyped
        · rw [hbounds hle] at hnone
          cases hnone
    · have hbounds : ¬ inBounds constraint (.finite n) = true :=
        fun hbounds => hle ((gt_eq_false_iff hmax).mp (inBounds_iff.mp hbounds).1)
      rw [if_neg, decimalInteger_of_mark hmark hmax (not_le.mp hle)]
      · exact iff_of_true ⟨fun hin => absurd hin hbounds, fun _ => rfl⟩
          fun hin => absurd hin hle
      · rw [stringMark_iff]
        rintro ⟨n', m', hn', hm', hle'⟩
        obtain rfl := Option.some.inj (hmark.symm.trans hn')
        obtain rfl := Option.some.inj (hmax.symm.trans hm')
        exact hle hle'
  | none =>
    dsimp only
    rw [if_neg]
    · constructor
      · rintro ⟨hstored, hrefused⟩
        refine ⟨fun hbounds => ?_, fun d hd hbounds hsafe => ?_⟩
        · obtain ⟨v, hv, hdenotes⟩ := hstored hbounds
          obtain ⟨value, hvalue, rfl⟩ :=
            Option.map_eq_some_iff.mp (storeOrReject_eq_updated_iff.mp hv)
          obtain ⟨d, hd, hsafe, -, rfl⟩ := decimalInteger_eq_some_iff.mp hvalue
          obtain rfl := Int.ofNat_inj.mp ((denotes_int_iff (by decide)).mp hdenotes)
          exact ⟨hd, hsafe⟩
        · have hvalue : decimalInteger token constraint = some (d : ℤ) :=
            decimalInteger_eq_some_iff.mpr ⟨d, hd, hsafe, hbounds, rfl⟩
          rw [hvalue, Option.map_some] at hstored hrefused
          by_cases hin : inBounds constraint (.finite n) = true
          · obtain ⟨v, hv, hdenotes⟩ := hstored hin
            obtain rfl := Option.some.inj (storeOrReject_eq_updated_iff.mp hv)
            exact Int.ofNat_inj.mp ((denotes_int_iff (by decide)).mp hdenotes)
          · cases hrefused (Bool.not_eq_true _ ▸ hin)
      · rintro ⟨hin, hother⟩
        refine ⟨fun hbounds => ⟨.int n, ?_, .number n (by decide)⟩, fun hnone => ?_⟩
        · obtain ⟨hd, hsafe⟩ := hin hbounds
          have hvalue : decimalInteger token constraint = some (n : ℤ) :=
            decimalInteger_eq_some_iff.mpr ⟨n, hd, hsafe, hbounds, rfl⟩
          rw [hvalue]
          rfl
        · rw [storeOrReject_eq_rejected_iff, Option.map_eq_none_iff, decimalInteger_eq_none_iff]
          intro d hd hbounds
          by_contra hsafe
          obtain rfl := hother d hd hbounds (not_lt.mp hsafe)
          rw [hnone] at hbounds
          cases hbounds
    · rw [stringMark_iff]
      rintro ⟨n', m', -, hm', -⟩
      rw [hmax] at hm'
      cases hm'

theorem mapM_eq_some_iff {α β : Type} {f : α → Option β} {as : List α} {bs : List β} :
    as.mapM f = some bs ↔ List.Forall₂ (fun a b => f a = some b) as bs := by
  induction as generalizing bs with
  | nil => simp [eq_comm]
  | cons a as ih =>
    rw [List.mapM_cons, List.forall₂_cons_left_iff]
    simp only [Option.bind_eq_bind, Option.pure_def, Option.bind_eq_some_iff, Option.some.injEq, ih]
    constructor
    · rintro ⟨b, hb, rest, hrest, rfl⟩
      exact ⟨b, rest, hb, hrest, rfl⟩
    · rintro ⟨b, rest, hb, hrest, rfl⟩
      exact ⟨b, hb, rest, hrest, rfl⟩

/-- A list is read where all its tokens are typed integers that are safe. -/
theorem mapM_decimalInteger_iff (hkind : constraint.kind = .integerList) {tokens : List (List Char)}
    {values : List ℤ} :
    tokens.mapM (fun token => decimalInteger token constraint) = some values ↔
      ∃ ns : List ℕ, values = ns.map Int.ofNat ∧ Typed constraint tokens ns ∧
        ∀ token ∈ tokens, SafeDecimal constraint token := by
  have htyped : ∀ token, typedInteger constraint.kind token = Numerals.read 10 token := by
    intro token
    rw [typedInteger, hkind, if_neg (by decide)]
  rw [mapM_eq_some_iff, Typed]
  simp only [htyped]
  induction tokens generalizing values with
  | nil => simp [List.forall₂_nil_left_iff]
  | cons token tokens ih =>
    simp only [List.forall₂_cons_left_iff, List.forall_mem_cons]
    constructor
    · rintro ⟨value, rest, hvalue, hrest, rfl⟩
      obtain ⟨n, hn, hsafe, hbounds, rfl⟩ := decimalInteger_eq_some_iff.mp hvalue
      obtain ⟨ns, rfl, hns, hall⟩ := ih.mp hrest
      refine ⟨n :: ns, rfl, ⟨n, ns, ⟨hn, hbounds⟩, hns, rfl⟩, fun m hm _ => ?_, hall⟩
      obtain rfl := Option.some.inj (hn.symm.trans hm)
      exact hsafe
    · rintro ⟨_, rfl, ⟨n, ns, ⟨hn, hbounds⟩, hns, rfl⟩, hsafe, hall⟩
      have hvalue : decimalInteger token constraint = some (n : ℤ) :=
        decimalInteger_eq_some_iff.mpr ⟨n, hn, hsafe n hn hbounds, hbounds, rfl⟩
      exact ⟨n, _, hvalue, ih.mpr ⟨ns, rfl, hns, hall⟩, rfl⟩

/-- A list is stored rightly where it has a token and no unsafe integer. -/
theorem storesTyped_list (hkind : constraint.kind = .integerList) (h : JSText.trim raw ≠ []) :
    StoresTyped constraint object (key :: keys) raw
        (applyConstraint constraint object (key :: keys) raw) ↔
      JSText.tokens isListSeparator raw ≠ [] ∧
        ((∃ ns, Typed constraint (JSText.tokens isListSeparator raw) ns) →
          ∀ token ∈ JSText.tokens isListSeparator raw, SafeDecimal constraint token) := by
  have htokens : typedTokens constraint.kind raw = JSText.tokens isListSeparator raw := if_pos hkind
  have hlist : ¬ ConstraintKind.integerList = .mark := by decide
  have hresult : applyConstraint constraint object (key :: keys) raw =
      storeOrReject object (key :: keys) ((integerList raw constraint).map fun values =>
        .list (values.map .int)) := by
    rw [applyConstraint, if_neg h, hkind, decide_eq_false hlist, Bool.false_and,
      if_neg Bool.false_ne_true, if_pos rfl]
  rw [hresult, integerList]
  generalize JSText.tokens isListSeparator raw = tokens at htokens
  constructor
  · rintro ⟨hblank, htyped, -⟩
    rw [htokens] at hblank htyped
    refine ⟨fun hnil => ?_, fun ⟨ns, hns⟩ token htoken => ?_⟩
    · have hstored := hblank hnil
      rw [hnil, List.mapM_nil] at hstored
      have hremoved := setPolicyPath_injective object key keys (Transformed.updated.inj hstored)
      cases hremoved
    · have hne : ns ≠ [] := by
        rintro rfl
        rw [List.forall₂_nil_right_iff.mp hns] at htoken
        cases htoken
      obtain ⟨v, hv, -⟩ := htyped ns hne hns
      obtain ⟨values, hvalues, -⟩ :=
        Option.map_eq_some_iff.mp (storeOrReject_eq_updated_iff.mp hv)
      obtain ⟨-, -, -, hall⟩ := (mapM_decimalInteger_iff hkind).mp hvalues
      exact hall token htoken
  · rintro ⟨hne, hsafe⟩
    refine ⟨fun hnil => absurd (htokens ▸ hnil) hne, fun ns hns htyped => ?_, fun hnone => ?_⟩
    · rw [htokens] at htyped
      have hvalues := (mapM_decimalInteger_iff hkind).mpr ⟨ns, rfl, htyped, hsafe ⟨ns, htyped⟩⟩
      refine ⟨_, storeOrReject_eq_updated_iff.mpr (congrArg _ hvalues), ?_⟩
      dsimp only
      rw [List.map_map]
      exact .numbers ns hkind hns
    · rw [htokens] at hnone
      rw [storeOrReject_eq_rejected_iff, Option.map_eq_none_iff,
        Option.eq_none_iff_forall_ne_some]
      intro values hvalues
      obtain ⟨ns, -, hns, -⟩ := (mapM_decimalInteger_iff hkind).mp hvalues
      exact hnone ⟨ns, hns⟩

theorem applyConstraint_iff (constraint : PolicyNumberConstraint) (object : Object) (key : String)
    (keys : List String) (raw : List Char) :
    StoresTyped constraint object (key :: keys) raw
        (applyConstraint constraint object (key :: keys) raw) ↔ Regular constraint raw := by
  by_cases hblank : JSText.trim raw = []
  · exact iff_of_true (storesTyped_of_blank _ hblank) (regular_of_blank hblank)
  · rw [Regular]
    split
    · rename_i hkind
      have hlist : constraint.kind ≠ .integerList := by
        rw [hkind]
        decide
      rw [applyConstraint, if_neg hblank, if_neg (by simp [hkind]), if_neg hlist]
      apply storesTyped_decimal (typedTokens_single hlist hblank) hlist
      rw [typedInteger, if_neg (by simp [hkind])]
    · rename_i hkind
      rw [storesTyped_list hkind hblank]
      exact and_congr_left fun _ => (imp_iff_right hblank).symm
    · rename_i hkind
      cases hmark : markInteger (JSText.trim raw) with
      | some n => exact storesTyped_mark hkind hblank hmark
      | none =>
        have hlist : constraint.kind ≠ .integerList := by
          rw [hkind]
          decide
        have hother : ¬ (stringMark (JSText.trim raw) constraint.maximum) = true := by
          rw [stringMark_iff, hmark]
          rintro ⟨n, m, hn, -⟩
          cases hn
        rw [applyConstraint, if_neg hblank, if_neg (by simp [hother]), if_neg hlist]
        apply storesTyped_decimal (typedTokens_single hlist hblank) hlist
        rw [typedInteger, if_pos hkind, hmark, Option.none_or]

end

/-- A constraint of a table applies to a field. -/
def Applies (constraints : PolicyNumberConstraints) (path : List String)
    (kind : Option PolicyFieldKind) (constraint : PolicyNumberConstraint) : Prop :=
  constraints.lookup path = some constraint ∧
    ∀ fieldKind, constraint.fieldKind = some fieldKind → some fieldKind = kind

theorem createPolicyNumberTransform_of_applies {constraints : PolicyNumberConstraints}
    {path : List String} {kind : Option PolicyFieldKind} {constraint : PolicyNumberConstraint}
    (h : Applies constraints path kind constraint) (object : Object) (raw : String) :
    createPolicyNumberTransform constraints object path kind raw =
      applyConstraint constraint object path raw.toList := by
  have hkind : ¬ (constraint.fieldKind.any fun fieldKind => some fieldKind ≠ kind) = true := by
    rw [Option.any_eq_true]
    rintro ⟨fieldKind, hfield, hne⟩
    exact of_decide_eq_true hne (h.2 fieldKind hfield)
  have hlookup : constraintAt constraints path = some constraint := by
    simp only [constraintAt, h.1]
  rw [createPolicyNumberTransform, hlookup]
  exact if_neg hkind

/-- A number field stores what was typed exactly where nothing goes wrong with the text. -/
theorem createPolicyNumberTransform_iff (constraints : PolicyNumberConstraints) (object : Object)
    (key : String) (keys : List String) (kind : Option PolicyFieldKind)
    (constraint : PolicyNumberConstraint)
    (h : Applies constraints (key :: keys) kind constraint) (raw : String) :
    StoresTyped constraint object (key :: keys) raw.toList
        (createPolicyNumberTransform constraints object (key :: keys) kind raw) ↔
      Regular constraint raw.toList := by
  rw [createPolicyNumberTransform_of_applies h]
  exact applyConstraint_iff constraint object key keys raw.toList

/-- Two ports are stored as they were typed. -/
theorem createPolicyNumberTransform_port :
    createPolicyNumberTransform dnsNumberConstraints ∅ ["port"] (some .numberList) "53, 443" =
      .updated (setPolicyPath ∅ ["port"] (some (.list [.int 53, .int 443]))) := by
  have htokens : JSText.tokens isListSeparator "53, 443".toList =
      [['5', '3'], ['4', '4', '3']] := by decide
  have hregular : Regular { kind := .integerList, maximum := uint16 } "53, 443".toList := by
    refine ⟨fun _ => by rw [htokens]; decide, fun _ => ?_⟩
    rw [htokens]
    refine List.forall_mem_cons.mpr
      ⟨fun n hn _ => ?_, List.forall_mem_singleton.mpr fun n hn _ => ?_⟩
    · obtain rfl : 53 = n := Option.some.inj hn
      decide
    · obtain rfl : 443 = n := Option.some.inj hn
      decide
  have hstores := (createPolicyNumberTransform_iff dnsNumberConstraints ∅ "port" []
    (some .numberList) _ ⟨by decide, fun fieldKind hfield => by cases hfield⟩ "53, 443").mpr
      hregular
  have htyped : Typed { kind := .integerList, maximum := uint16 }
      (JSText.tokens isListSeparator "53, 443".toList) [53, 443] := by
    rw [htokens]
    exact .cons (by decide) (.cons (by decide) .nil)
  obtain ⟨v, hresult, hdenotes⟩ := hstores.typed [53, 443] (by decide) htyped
  rw [hresult]
  cases hdenotes with
  | numbers ns _ _ => rfl

/-- A text with nothing but a comma stores an empty list. -/
theorem createPolicyNumberTransform_comma :
    ¬ StoresTyped { kind := .integerList, maximum := uint16 } ∅ ["port"] ",".toList
      (createPolicyNumberTransform dnsNumberConstraints ∅ ["port"] (some .numberList) ",") := by
  have hcomma : ",".toList = [','] := rfl
  have happlies : Applies dnsNumberConstraints ["port"] (some .numberList)
      { kind := .integerList, maximum := uint16 } :=
    ⟨by decide, fun fieldKind hfield => by cases hfield⟩
  rw [createPolicyNumberTransform_of_applies happlies, applyConstraint_iff, hcomma]
  rintro ⟨htokens, -⟩
  exact htokens (by decide) (by decide)

/-! ### The tables of the forms -/

/-- The maxima are safe integers, and marks are not restricted further. -/
theorem tables_bounded : ∀ entry ∈ routeNumberConstraints ++ dnsNumberConstraints,
    (entry.2.maximum.integer?.any fun m => decide (m ≤ maxSafeInteger)) = true ∧
      (entry.2.kind = .mark → entry.2.allowed = none) := by decide +kernel

/-- With the tables of the forms, only a list of nothing but separators goes wrong. -/
theorem regular_of_table {path : List String} {constraint : PolicyNumberConstraint}
    (h : (path, constraint) ∈ routeNumberConstraints ++ dnsNumberConstraints) (raw : List Char) :
    Regular constraint raw ↔ (constraint.kind = .integerList → JSText.trim raw ≠ [] →
      JSText.tokens isListSeparator raw ≠ []) := by
  obtain ⟨hmax, hallowed⟩ := tables_bounded _ h
  rw [Option.any_eq_true] at hmax
  obtain ⟨m, hm, hle⟩ := hmax
  have hsafe : ∀ token, SafeDecimal constraint token := by
    intro token n _ hbounds
    exact ((gt_eq_false_iff hm).mp (inBounds_iff.mp hbounds).1).trans (of_decide_eq_true hle)
  rw [Regular]
  split
  · rename_i hkind
    exact iff_of_true (hsafe _) fun hlist => by rw [hkind] at hlist; cases hlist
  · rename_i hkind
    rw [imp_iff_right hkind]
    exact and_iff_left fun _ token _ => hsafe token
  · rename_i hkind
    refine iff_of_true ?_ fun hlist => by rw [hkind] at hlist; cases hlist
    split
    · exact hsafe _
    · dsimp only at hm
      simp only [RegularMark, hm]
      intro hn
      refine inBounds_iff.mpr ⟨(gt_eq_false_iff hm).mpr hn, fun allowed hset => ?_⟩
      rw [hallowed hkind] at hset
      cases hset

end Boxui.UI.NumberFields
