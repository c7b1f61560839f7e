import Boxui.Library.GuardedRemoval
import Boxui.UI.FormPaths
import Boxui.UI.OutboundForm

/-! Pruning the fields of a form that its own values hide. The proxy forms and the policy forms
keep a copy of the loop each. -/
namespace Boxui.UI.Forms
open GoValue JSValue GuardedRemoval

def isFalsy : Read → Bool
  | .undefined => true
  | .value .null => true
  | .value (.bool b) => !b
  | .value (.str s) => s == ""
  | .value (.list vs) => vs.isEmpty
  | .value (.strs ss) => ss.isEmpty
  | _ => false

/-- `Object.is` of two values of separate documents: no two objects or arrays are the same. -/
def sameValue : Value → Value → Bool
  | .null, .null => true
  | .bool a, .bool b => a == b
  | .int a, .int b => a == b
  | .int a, .float b => (a : Rat) == b
  | .float a, .int b => a == (b : Rat)
  | .float a, .float b => a == b
  | .str a, .str b => a == b
  | _, _ => false

def objectIs (item : Value) : Read → Bool
  | .value v => sameValue item v
  | _ => false

/-- `Array.isArray(rule.is) ? rule.is : [rule.is]`. -/
def allowedValues : Value → List Value
  | .list vs => vs
  | .strs ss => ss.map .str
  | v => [v]

section

variable {φ : Type} (get : Object → List String → Read)
  (set : Object → List String → Option Value → Object) (path : φ → List String)
  (when : φ → List FieldWhen)

def ruleMatches (object : Object) (rule : FieldWhen) : Bool :=
  let value := get object rule.path
  if rule.falsy then isFalsy value
  else match rule.is with
    | some is => (allowedValues is).any fun item => objectIs item value
    | none => !isFalsy value

def visibleBy (object : Object) (field : φ) : Bool := (when field).all (ruleMatches get object)

/-- One round of the loop over the fields, with the flag `changed`. -/
def pruneRound (fields : List φ) (next : Object) : Object × Bool :=
  fields.foldl (fun state field =>
    if visibleBy get when state.1 field then state
    else if (get state.1 (path field)).isUndefined then state
    else (set state.1 (path field) none, true)) (next, false)

/-- The rounds, as many as the fuel allows. -/
def pruneRounds : ℕ → Object → List φ → Option Object
  | 0, _, _ => none
  | fuel + 1, next, fields =>
    let round := pruneRound get set path when fields next
    if round.2 then pruneRounds fuel round.1 fields else some round.1

end

def matchesWhen : Object → FieldWhen → Bool := ruleMatches getPath

def isFieldVisible : Object → FieldSpec → Bool := visibleBy getPath FieldSpec.when

def pruneInvisibleFields : ℕ → Object → List FieldSpec → Option Object :=
  pruneRounds getPath setPath FieldSpec.path FieldSpec.when

inductive PolicyFieldKind where
  | text
  | textarea
  | number
  | boolean
  | list
  | numberList
  | select
  | jsonObject
  | jsonArray
  | ref
  | refMulti
  | networkMulti
  | networkInterface
  deriving DecidableEq

/-- A field without a kind is a text. -/
structure PolicyFieldSpec where
  path : List String
  kind : PolicyFieldKind := .text
  when : List FieldWhen := []

/-- The fields of the groups, the first of each path. -/
def uniqueBy {φ : Type} (path : φ → List String) (groups : List (List φ)) : List φ :=
  groups.flatten.foldl
    (fun fields field => if fields.any fun f => path f == path field then fields
      else fields ++ [field]) []

def isPolicyFieldVisible : Object → PolicyFieldSpec → Bool :=
  visibleBy getPolicyPath PolicyFieldSpec.when

def pruneInvisiblePolicyFields : ℕ → Object → List PolicyFieldSpec → Option Object :=
  pruneRounds getPolicyPath setPolicyPath PolicyFieldSpec.path PolicyFieldSpec.when

theorem getPolicyPath_eq : getPolicyPath = getPath := by
  funext object path
  exact (getPath_eq_getPolicyPath object path).symm

theorem setPolicyPath_eq : setPolicyPath = setPath := by
  funext object path value
  exact (setPath_eq_setPolicyPath object path value).symm

variable {φ : Type} {path : φ → List String} {when : φ → List FieldWhen}

/-- Removing one field, and what guards it. -/
def dropField (path : φ → List String) (field : φ) (object : Object) : Object :=
  setPath object (path field) none

def presentField (path : φ → List String) (field : φ) (object : Object) : Bool :=
  !(getPath object (path field)).isUndefined

def hiddenField (when : φ → List FieldWhen) (field : φ) (object : Object) : Bool :=
  !visibleBy getPath when object field

theorem presentField_eq {field : φ} (h : PlainPath (path field)) (object : Object) :
    presentField path field object =
      (ObjectPath.getPath object.toValue (path field)).isSome := by
  rw [presentField, getPath_eq object h.2, Read.isUndefined_ofOption, Option.not_isNone]

/-- Plain fields obey the laws of removal. -/
theorem pruning_laws {fields : List φ} (h : ∀ field ∈ fields, PlainPath (path field)) :
    Laws (· ∈ fields) (dropField path) (presentField path) := by
  refine ⟨fun f g s => ?_, fun f s hf => ?_, fun f g s hf hpresent => ?_,
    fun f g s hf hpresent hgone => ?_⟩
  · simp only [dropField, setPath_eq_set]
    exact ObjectPath.remove_comm (path f) (path g) s
  · rw [presentField_eq (h f hf), dropField, setPath_eq_set]
    exact congrArg Option.isSome (ObjectPath.getPath_remove_self (h f hf).1 s)
  · rw [presentField_eq (h f hf), dropField, setPath_eq_set] at hpresent
    rw [presentField_eq (h f hf), Option.isSome_iff_ne_none]
    intro hnone
    have hnone' := ObjectPath.getPath_remove_of_eq_none (path g) hnone
    rw [ObjectPath.remove] at hnone'
    rw [hnone'] at hpresent
    cases hpresent
  · rw [presentField_eq (h f hf), Option.isSome_iff_ne_none] at hpresent
    simp only [presentField_eq (h f hf), dropField, setPath_eq_set, Option.isSome_eq_false_iff,
      Option.isNone_iff_eq_none] at hgone
    simp only [dropField, setPath_eq_set]
    exact ObjectPath.remove_of_vanished hpresent hgone

variable (path when) in
/-- A round is a run, and its flag tells whether the run removed anything. -/
theorem pruneRound_run (fields part : List φ) (hpart : ∀ field ∈ part, field ∈ fields)
    (next : Object) (changed : Bool) :
    ∃ fs t, part.foldl (fun state field =>
        if visibleBy getPath when state.1 field then state
        else if (getPath state.1 (path field)).isUndefined then state
        else (setPath state.1 (path field) none, true)) (next, changed) =
          (t, changed || !fs.isEmpty) ∧
      Run (· ∈ fields) (dropField path) (presentField path) (hiddenField when) next fs t ∧
      (fs = [] → ∀ field ∈ part, hiddenField when field next = true →
        presentField path field next = false) := by
  induction part generalizing next changed with
  | nil =>
    exact ⟨[], next, by rw [List.foldl_nil, List.isEmpty_nil, Bool.not_true, Bool.or_false],
      .done next, fun _ _ hf => absurd hf List.not_mem_nil⟩
  | cons field part ih =>
    obtain ⟨hfield, hpart⟩ := List.forall_mem_cons.mp hpart
    rw [List.foldl_cons]
    by_cases hvisible : visibleBy getPath when next field = true
    · rw [if_pos hvisible]
      obtain ⟨fs, t, heq, hrun, hnil⟩ := ih hpart next changed
      refine ⟨fs, t, heq, hrun, fun hfs => List.forall_mem_cons.mpr ⟨fun hhidden => ?_, hnil hfs⟩⟩
      rw [hiddenField, hvisible] at hhidden
      cases hhidden
    · rw [if_neg hvisible]
      by_cases habsent : (getPath next (path field)).isUndefined = true
      · rw [if_pos habsent]
        obtain ⟨fs, t, heq, hrun, hnil⟩ := ih hpart next changed
        refine ⟨fs, t, heq, hrun, fun hfs => List.forall_mem_cons.mpr ⟨fun _ => ?_, hnil hfs⟩⟩
        rw [presentField, habsent, Bool.not_true]
      · rw [if_neg habsent]
        obtain ⟨fs, t, heq, hrun, -⟩ := ih hpart (setPath next (path field) none) true
        refine ⟨field :: fs, t, ?_, ?_, fun hfs => absurd hfs (List.cons_ne_nil _ _)⟩
        · rw [heq, List.isEmpty_cons, Bool.not_false, Bool.or_true, Bool.true_or]
        · refine .step field fs next t hfield ?_ ?_ hrun
          · rw [hiddenField, Bool.eq_false_iff.mpr hvisible, Bool.not_false]
          · rw [presentField, Bool.eq_false_iff.mpr habsent, Bool.not_false]

variable (when) in
/-- The loop is a run that ends with nothing hidden left, after no more rounds than there are
fields to remove. -/
theorem pruneRounds_run {fields : List φ} (h : ∀ field ∈ fields, PlainPath (path field))
    (fuel : ℕ) (next : Object) (hfuel : fields.countP (presentField path · next) < fuel) :
    ∃ fs t, pruneRounds getPath setPath path when fuel next fields = some t ∧
      Run (· ∈ fields) (dropField path) (presentField path) (hiddenField when) next fs t ∧
      Settled (· ∈ fields) (presentField path) (hiddenField when) t := by
  induction fuel generalizing next with
  | zero => omega
  | succ fuel ih =>
    obtain ⟨fs, t, heq, hrun, hnil⟩ :=
      pruneRound_run path when fields fields (fun _ hf => hf) next false
    rw [pruneRounds, pruneRound, heq, Bool.false_or]
    cases fs with
    | nil =>
      cases hrun
      exact ⟨[], next, rfl, .done next, fun f hf => hnil rfl f hf⟩
    | cons f fs =>
      have hlen := (pruning_laws h).length_run_le hrun
      rw [List.length_cons] at hlen
      obtain ⟨gs, u, hu, hrun', hsettled⟩ := ih t (by omega)
      exact ⟨f :: fs ++ gs, u, hu, hrun.trans hrun', hsettled⟩

/-- A list in which nothing that can be removed bears on a condition for an absent value. -/
def Stable (path : φ → List String) (when : φ → List FieldWhen) (fields : List φ) : Prop :=
  ∀ f ∈ fields, PlainPath (path f) ∧ ∀ rule ∈ when f, (∀ key ∈ rule.path, key ∉ inheritedNames) ∧
    (rule.falsy = true → ∀ g ∈ fields, (when g).isEmpty = false →
      ObjectPath.Apart (path g) rule.path)

instance (fields : List φ) : Decidable (Stable path when fields) :=
  inferInstanceAs (Decidable (∀ f ∈ fields, _ ∧ _))

theorem Stable.subset {fields fields' : List φ} (h : Stable path when fields')
    (hsub : ∀ f ∈ fields, f ∈ fields') : Stable path when fields := by
  intro f hf
  obtain ⟨hplain, hrules⟩ := h f (hsub f hf)
  refine ⟨hplain, fun rule hrule => ⟨(hrules rule hrule).1, fun hfalsy g hg hwhen => ?_⟩⟩
  exact (hrules rule hrule).2 hfalsy g (hsub g hg) hwhen

theorem objectIs_object (item : Value) (m : Object) :
    objectIs item (.value m.toValue) = false := by
  cases item <;> rfl

theorem isFalsy_of_asMap? {v : Value} {m : Object} (h : v.asMap? = some m) :
    isFalsy (.value v) = false := by
  cases v with
  | obj fields => rfl
  | _ => cases h

/-- A condition that holds after a removal held before it. -/
theorem ruleMatches_of_remove {rule : FieldWhen} (hplain : ∀ key ∈ rule.path, key ∉ inheritedNames)
    {p : List String} (hapart : rule.falsy = true → ObjectPath.Apart p rule.path) {m : Object}
    (h : ruleMatches getPath (setPath m p none) rule = true) :
    ruleMatches getPath m rule = true := by
  rw [setPath_eq_set] at h
  rw [ruleMatches, getPath_eq _ hplain] at h ⊢
  by_cases hfalsy : rule.falsy = true
  · rw [ObjectPath.getPath_set_of_apart m (hapart hfalsy)] at h
    exact h
  · rw [if_neg hfalsy] at h ⊢
    obtain hnone | hsame | ⟨m₀, m₁, v, hv, hm₀, hm₁⟩ := ObjectPath.getPath_remove p rule.path m
    · rw [ObjectPath.remove] at hnone
      rw [hnone] at h
      cases his : rule.is with
      | none =>
        rw [his] at h
        cases h
      | some is =>
        rw [his] at h
        obtain ⟨item, -, hitem⟩ := List.any_eq_true.mp h
        cases hitem
    · rw [ObjectPath.remove] at hsame
      rw [hsame] at h
      exact h
    · rw [ObjectPath.remove] at hm₁
      rw [hm₁] at h
      rw [hv]
      cases his : rule.is with
      | none => rw [Read.ofOption, isFalsy_of_asMap? hm₀]; rfl
      | some is =>
        rw [his] at h
        obtain ⟨item, -, hitem⟩ := List.any_eq_true.mp h
        rw [Read.ofOption, objectIs_object] at hitem
        cases hitem

/-- In a stable list a removal hides more and shows nothing. -/
theorem Stable.antitone {fields : List φ} (h : Stable path when fields) :
    Antitone (· ∈ fields) (fun g => (when g).isEmpty = false) (dropField path)
      (hiddenField when) := by
  refine ⟨fun f s _ hhidden => ?_, fun f g s hf hg hwhen hhidden => ?_⟩
  · cases hnil : (when f).isEmpty with
    | false => rfl
    | true =>
      rw [hiddenField, visibleBy, List.isEmpty_iff.mp hnil] at hhidden
      cases hhidden
  · rw [hiddenField, Bool.not_eq_true', visibleBy, List.all_eq_false] at hhidden ⊢
    obtain ⟨rule, hrule, hfails⟩ := hhidden
    obtain ⟨hplain, hapart⟩ := (h f hf).2 rule hrule
    exact ⟨rule, hrule, mt (ruleMatches_of_remove hplain fun hfalsy => hapart hfalsy g hg hwhen)
      hfails⟩

/-- What pruning does, with the fields it removes. -/
structure Pruned (get : Object → List String → Read)
    (set : Object → List String → Option Value → Object) (path : φ → List String)
    (when : φ → List FieldWhen) (fields : List φ) (object result : Object) (removed : List φ) :
    Prop where
  visible_or_undefined : ∀ field ∈ fields,
    visibleBy get when result field = true ∨ get result (path field) = .undefined
  removed_listed : ∀ field ∈ removed, field ∈ fields ∧ get object (path field) ≠ .undefined
  result_eq : result = removed.foldl (fun next field => set next (path field) none) object
  frame : ∀ other, PlainPath other → (∀ field ∈ removed, ObjectPath.Apart (path field) other) →
    get result other = get object other

theorem isUndefined_iff (read : Read) : read.isUndefined = true ↔ read = .undefined := by
  cases read <;> simp [Read.isUndefined]

theorem getPath_dropAll {removed : List φ} {other : List String} (hother : PlainPath other)
    (h : ∀ field ∈ removed, ObjectPath.Apart (path field) other) (object : Object) :
    getPath (dropAll (dropField path) removed object) other = getPath object other := by
  induction removed generalizing object with
  | nil => rfl
  | cons field removed ih =>
    obtain ⟨hfield, hremoved⟩ := List.forall_mem_cons.mp h
    change getPath (dropAll (dropField path) removed (dropField path field object)) other = _
    rw [ih hremoved, dropField, setPath_eq_set, getPath_eq _ hother.2, getPath_eq _ hother.2,
      ObjectPath.getPath_set_of_apart object hfield]

theorem pruned_of_run {fields : List φ} (h : ∀ field ∈ fields, PlainPath (path field))
    {object result : Object} {removed : List φ}
    (hrun : Run (· ∈ fields) (dropField path) (presentField path) (hiddenField when) object
      removed result)
    (hsettled : Settled (· ∈ fields) (presentField path) (hiddenField when) result) :
    Pruned getPath setPath path when fields object result removed := by
  refine ⟨fun field hfield => ?_, fun field hfield => ⟨hrun.listed_of_mem field hfield, ?_⟩,
    hrun.eq_dropAll, fun other hother hapart => ?_⟩
  · cases hvisible : visibleBy getPath when result field with
    | true => exact .inl rfl
    | false =>
      have habsent := hsettled field hfield (by rw [hiddenField, hvisible, Bool.not_false])
      rw [presentField, Bool.not_eq_false'] at habsent
      exact .inr ((isUndefined_iff _).mp habsent)
  · intro hundefined
    have hpresent := (pruning_laws h).present_of_mem_run hrun field hfield
    rw [presentField, hundefined] at hpresent
    cases hpresent
  · rw [hrun.eq_dropAll, getPath_dropAll hother hapart]

/-- Pruning what is pruned changes nothing. -/
theorem pruneRounds_settled {fields : List φ} {result : Object}
    (h : Settled (· ∈ fields) (presentField path) (hiddenField when) result) (fuel : ℕ) :
    pruneRounds getPath setPath path when (fuel + 1) result fields = some result := by
  obtain ⟨fs, t, heq, hrun, -⟩ :=
    pruneRound_run path when fields fields (fun _ hf => hf) result false
  rw [pruneRounds, pruneRound, heq, Bool.false_or]
  cases hrun with
  | done => rfl
  | step f fs _ _ hf hhidden hpresent _ =>
    rw [h f hf hhidden] at hpresent
    cases hpresent

/-- More fuel changes no result. -/
theorem pruneRounds_mono {get : Object → List String → Read}
    {set : Object → List String → Option Value → Object} {fields : List φ} {fuel more : ℕ}
    (hle : fuel ≤ more) {next result : Object}
    (h : pruneRounds get set path when fuel next fields = some result) :
    pruneRounds get set path when more next fields = some result := by
  induction fuel generalizing more next with
  | zero => cases h
  | succ fuel ih =>
    obtain ⟨more, rfl⟩ := Nat.exists_eq_succ_of_ne_zero (Nat.ne_zero_of_lt hle)
    rw [pruneRounds] at h ⊢
    cases hchanged : (pruneRound get set path when fields next).2 with
    | false =>
      rw [hchanged] at h
      exact h
    | true =>
      rw [hchanged] at h
      exact ih (Nat.le_of_succ_le_succ hle) h

/-- The loop over plain fields ends, and its result is pruned for good. -/
theorem pruneRounds_pruned {fields : List φ} (h : ∀ field ∈ fields, PlainPath (path field))
    (object : Object) :
    ∃ result removed, (∀ fuel, fields.length < fuel →
        pruneRounds getPath setPath path when fuel object fields = some result) ∧
      Pruned getPath setPath path when fields object result removed ∧
      ∀ fuel, 0 < fuel →
        pruneRounds getPath setPath path when fuel result fields = some result := by
  have hcount := List.countP_le_length (p := (presentField path · object)) (l := fields)
  obtain ⟨removed, result, heq, hrun, hsettled⟩ :=
    pruneRounds_run when h (fields.length + 1) object (by omega)
  refine ⟨result, removed, fun fuel hfuel => ?_, pruned_of_run h hrun hsettled,
    fun fuel hfuel => ?_⟩
  · exact pruneRounds_mono hfuel heq
  · obtain ⟨fuel, rfl⟩ := Nat.exists_eq_succ_of_ne_zero hfuel.ne'
    exact pruneRounds_settled hsettled fuel

/-- Over a stable list the result does not depend on the order of the fields, and whatever is
removed is hidden in it. -/
theorem Stable.pruneRounds_perm {fields : List φ} (h : Stable path when fields)
    (object : Object) :
    ∃ result, ∀ order, order.Perm fields → ∃ removed,
      (∀ fuel, fields.length < fuel →
        pruneRounds getPath setPath path when fuel object order = some result) ∧
      Pruned getPath setPath path when order object result removed ∧
      ∀ field ∈ removed, visibleBy getPath when result field = false := by
  have hplain : ∀ field ∈ fields, PlainPath (path field) := fun field hfield => (h field hfield).1
  have hrun : ∀ order, order.Perm fields → ∃ removed result,
      pruneRounds getPath setPath path when (fields.length + 1) object order = some result ∧
      Run (· ∈ fields) (dropField path) (presentField path) (hiddenField when) object removed
        result ∧
      Settled (· ∈ fields) (presentField path) (hiddenField when) result := by
    intro order hperm
    have hmem : ∀ field, (field ∈ order) = (field ∈ fields) := fun field => propext hperm.mem_iff
    have hcount := List.countP_le_length (p := (presentField path · object)) (l := order)
    have hlen := hperm.length_eq
    obtain ⟨removed, result, heq, hrun, hsettled⟩ := pruneRounds_run when
      (fun field hfield => hplain field (hperm.mem_iff.mp hfield)) (fields.length + 1) object
      (by omega)
    simp only [hmem] at hrun hsettled
    exact ⟨removed, result, heq, hrun, hsettled⟩
  obtain ⟨_, result, -, hfirst, hfirstSettled⟩ := hrun fields (List.Perm.refl fields)
  refine ⟨result, fun order hperm => ?_⟩
  obtain ⟨removed, result', heq, hother, hotherSettled⟩ := hrun order hperm
  obtain rfl : result' = result :=
    hother.unique (pruning_laws hplain) h.antitone hfirst hotherSettled hfirstSettled
  refine ⟨removed, fun fuel hfuel => pruneRounds_mono hfuel heq, ?_, fun field hfield => ?_⟩
  · have hpruned := pruned_of_run hplain hother hotherSettled
    refine ⟨fun field hfield => hpruned.visible_or_undefined field (hperm.mem_iff.mp hfield),
      fun field hfield => ?_, hpruned.result_eq, hpruned.frame⟩
    obtain ⟨hlisted, hdefined⟩ := hpruned.removed_listed field hfield
    exact ⟨hperm.mem_iff.mpr hlisted, hdefined⟩
  · have hhidden := hother.hidden_end h.antitone field hfield
    rw [hiddenField, Bool.not_eq_true'] at hhidden
    exact hhidden

end Boxui.UI.Forms
