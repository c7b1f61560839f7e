import Boxui.UI.OutboundTypeChange
import Boxui.UI.RouteForm

/-! Changing the type and the action of a route rule in its form. -/
namespace Boxui.UI.RouteForm
open GoValue JSValue Forms

/-- Whether a value has a kind; numbers of a document are finite. -/
def hasKind (v : Value) : PolicyFieldKind → Bool
  | .boolean => match v with
    | .bool _ => true
    | _ => false
  | .number => isNumber v
  | .list => isStrings v
  | .networkMulti => isStrings v
  | .refMulti => isStrings v
  | .numberList => match v with
    | .list vs => vs.all isNumber
    | .strs ss => ss.isEmpty
    | v => isNumber v
  | .jsonObject => v.asMap?.isSome
  | .jsonArray => (Read.value v).isArray
  | _ => match v with
    | .str _ => true
    | .bool _ => true
    | v => isNumber v

def matchesField (value : Read) (field : PolicyFieldSpec) : Bool :=
  match value with
  | .undefined => true
  | .value v => hasKind v field.kind
  | .function => false
  | .prototype => field.kind = .jsonObject

def uniqueFields : List (List PolicyFieldSpec) → List PolicyFieldSpec :=
  uniqueBy PolicyFieldSpec.path

structure FieldTransition where
  source : List PolicyFieldSpec
  target : List PolicyFieldSpec
  sourceKnown : Bool

/-- The source is looked up among the registry's own entries, the target is not. -/
def fieldTransition (fields : List (String × List PolicyFieldSpec)) (source target : String) :
    Option FieldTransition :=
  (entry fields target).map fun target =>
    { source := (fields.lookup source).getD []
      target := target
      sourceKnown := (fields.lookup source).isSome }

/-- The entries of the map from paths to fields. -/
def compatibleFields (transition : FieldTransition) : List PolicyFieldSpec :=
  if transition.sourceKnown then
    transition.target.filter fun field => transition.source.any fun source =>
      source.path == field.path && source.kind == field.kind
  else transition.target

/-- `compatible.get(path)`: of two entries with one key the later counts. -/
def getField (fields : List PolicyFieldSpec) (path : List String) : Option PolicyFieldSpec :=
  fields.reverse.find? fun field => field.path == path

def transitionFields (object : Object) (known : List PolicyFieldSpec)
    (transition : FieldTransition) : Object :=
  let compatible := compatibleFields transition
  known.foldl (fun next field =>
    match getField compatible field.path with
    | some target => if matchesField (getPolicyPath next field.path) target then next
        else setPolicyPath next field.path none
    | none => setPolicyPath next field.path none) object

def knownRuleFields : List PolicyFieldSpec := uniqueFields (ruleTypeFields.map Prod.snd)

def knownActionFields : List PolicyFieldSpec :=
  (uniqueFields (routeActionFields.map Prod.snd)).filter fun field =>
    !routeMatchFields.any fun candidate => candidate.path == field.path

variable (formatNumber : Rat → String)

def changeRouteRuleType (rule : Object) (type : String) : Option Object :=
  (textOr formatNumber rule["type"]? "default").bind fun current =>
    if current = type then some rule
    else (fieldTransition ruleTypeFields current type).map fun transition =>
      let next := transitionFields rule knownRuleFields transition
      setPolicyPath next ["type"] (if type = "default" then none else some (.str type))

def changeRouteAction (rule : Object) (action : String) : Option Object :=
  (textOr formatNumber rule["action"]? "").bind fun explicit =>
    if explicit = action ∧ explicit ≠ "" then some rule
    else
      let current := if explicit = "" then "route" else explicit
      (fieldTransition routeActionFields current action).map fun transition =>
        let next := transitionFields rule knownActionFields transition
        setPolicyPath next ["action"] (if action = "" then none else some (.str action))

/-! ### A transition as one pass of sifting -/

/-- The test for the value at a known path. -/
def fitsField (fields : List PolicyFieldSpec) (path : List String) (value : Option Value) : Bool :=
  match getField fields path with
  | some target => value.all fun v => hasKind v target.kind
  | none => false

/-- Fields whose paths are plain and apart from each other. -/
def Separate (fields : List PolicyFieldSpec) : Prop :=
  (∀ path ∈ fields.map PolicyFieldSpec.path, PlainPath path) ∧
    (fields.map PolicyFieldSpec.path).Pairwise ObjectPath.Apart

instance (fields : List PolicyFieldSpec) : Decidable (Separate fields) :=
  inferInstanceAs (Decidable (_ ∧ _))

theorem matchesField_ofOption (value : Option Value) (field : PolicyFieldSpec) :
    matchesField (Read.ofOption value) field = value.all fun v => hasKind v field.kind := by
  cases value <;> rfl

theorem transitionFields_eq (object : Object) {known : List PolicyFieldSpec}
    (hplain : ∀ path ∈ known.map PolicyFieldSpec.path, PlainPath path)
    (transition : FieldTransition) :
    transitionFields object known transition =
      ObjectPath.sift (fitsField (compatibleFields transition)) (known.map PolicyFieldSpec.path)
        object := by
  rw [transitionFields, getPolicyPath_eq, setPolicyPath_eq]
  induction known generalizing object with
  | nil => rfl
  | cons field known ih =>
    rw [List.map_cons] at hplain
    obtain ⟨hpath, hpaths⟩ := List.forall_mem_cons.mp hplain
    rw [List.foldl_cons, List.map_cons, ObjectPath.sift_cons, ih _ hpaths]
    congr 1
    rw [fitsField]
    cases getField (compatibleFields transition) field.path with
    | none => exact setPath_eq_set object field.path none
    | some target =>
      simp only [getPath_eq object hpath.2, matchesField_ofOption, setPath_eq_set]
      rfl

/-- At a known path the value stays if and only if it fits. -/
theorem getPath_transitionFields (object : Object) {known : List PolicyFieldSpec}
    (h : Separate known) (transition : FieldTransition) {path : List String}
    (hmem : path ∈ known.map PolicyFieldSpec.path) :
    ObjectPath.getPath (transitionFields object known transition).toValue path =
      if fitsField (compatibleFields transition) path (ObjectPath.getPath object.toValue path) then
        ObjectPath.getPath object.toValue path
      else none := by
  have hlone : ∀ q ∈ known.map PolicyFieldSpec.path, q ≠ path → ObjectPath.Apart q path :=
    fun q hq hne => h.2.forall hq hmem hne
  rw [transitionFields_eq object h.1]
  split_ifs with hfits
  · exact ObjectPath.getPath_sift_of_keep hlone hfits
  · exact ObjectPath.getPath_sift_of_drop hlone (h.1 path hmem).1 hmem (Bool.eq_false_iff.mpr hfits)

/-- A path apart from all known ones keeps its value. -/
theorem getPath_transitionFields_of_apart (object : Object) {known : List PolicyFieldSpec}
    (h : Separate known) (transition : FieldTransition) {path : List String}
    (hapart : ∀ q ∈ known.map PolicyFieldSpec.path, ObjectPath.Apart q path) :
    ObjectPath.getPath (transitionFields object known transition).toValue path =
      ObjectPath.getPath object.toValue path := by
  rw [transitionFields_eq object h.1]
  exact ObjectPath.getPath_sift_of_apart hapart _ object

theorem mem_compatibleFields {transition : FieldTransition} {field : PolicyFieldSpec}
    (h : field ∈ compatibleFields transition) : field ∈ transition.target := by
  rw [compatibleFields] at h
  split_ifs at h
  · exact (List.mem_filter.mp h).1
  · exact h

theorem getField_eq_some {fields : List PolicyFieldSpec} {path : List String}
    {target : PolicyFieldSpec} (h : getField fields path = some target) :
    target ∈ fields ∧ target.path = path := by
  rw [getField] at h
  have hpath := List.find?_some h
  exact ⟨List.mem_reverse.mp (List.mem_of_find?_eq_some h), beq_iff_eq.mp hpath⟩

theorem getField_eq_none {fields : List PolicyFieldSpec} {path : List String}
    (h : path ∉ fields.map PolicyFieldSpec.path) : getField fields path = none := by
  rw [getField, List.find?_eq_none]
  intro field hfield heq
  exact h (List.mem_map.mpr ⟨field, List.mem_reverse.mp hfield, beq_iff_eq.mp heq⟩)

/-- What is left at a known path is a value of the kind of one of the target's fields. -/
theorem transition_belongs (object : Object) {known : List PolicyFieldSpec} (h : Separate known)
    (transition : FieldTransition) {path : List String}
    (hmem : path ∈ known.map PolicyFieldSpec.path) {v : Value}
    (hv : ObjectPath.getPath (transitionFields object known transition).toValue path = some v) :
    ∃ target ∈ transition.target, target.path = path ∧ hasKind v target.kind = true := by
  rw [getPath_transitionFields object h transition hmem] at hv
  split_ifs at hv with hfits
  rw [fitsField, hv] at hfits
  split at hfits
  · rename_i target htarget
    obtain ⟨hcompatible, hpath⟩ := getField_eq_some htarget
    exact ⟨target, mem_compatibleFields hcompatible, hpath, hfits⟩
  · cases hfits

theorem separate_knownRuleFields : Separate knownRuleFields := by decide

theorem separate_knownActionFields : Separate knownActionFields := by decide +kernel

/-! ### The two changes -/

/-- The keys the registries of the rule form know. -/
def registryKeys : List String :=
  ["type", "action"] ++
    (routeMatchFields ++ knownRuleFields ++ knownActionFields).map fun field =>
      field.path.headD ""

/-- The match fields, with the type, the mode and the nested rules. -/
def matchPaths : List (List String) :=
  (routeMatchFields ++ logicalRuleFields).map PolicyFieldSpec.path

/-- The options of the action a rule has. -/
def actionOptions (rule : Object) : List PolicyFieldSpec :=
  match textOr formatNumber rule["action"]? "" with
  | some explicit =>
    (routeActionFields.lookup (if explicit = "" then "route" else explicit)).getD []
  | none => []

/-- What is left of the known fields belongs to the target. -/
def Belongs (known : List PolicyFieldSpec) (registry : List (String × List PolicyFieldSpec))
    (target : String) (next : Object) : Prop :=
  ∀ field ∈ known, ∀ v, getPolicyPath next field.path = .value v →
    ∃ fields, entry registry target = some fields ∧
      ∃ candidate ∈ fields, candidate.path = field.path ∧
        matchesField (getPolicyPath next field.path) candidate = true

structure ActionChanged (rule next : Object) (action : String) : Prop where
  matching : ∀ path ∈ matchPaths, getPolicyPath next path = getPolicyPath rule path
  unknown : ∀ key : String, key ∉ registryKeys → next[key]? = rule[key]?
  belongs : ¬ (textOr formatNumber rule["action"]? "" = some action ∧ action ≠ "") →
    Belongs knownActionFields routeActionFields action next

structure RuleTypeChanged (rule next : Object) (type : String) : Prop where
  options : ∀ field ∈ actionOptions formatNumber rule,
    getPolicyPath next field.path = getPolicyPath rule field.path
  unknown : ∀ key : String, key ∉ registryKeys → next[key]? = rule[key]?
  belongs : textOr formatNumber rule["type"]? "default" ≠ some type →
    Belongs knownRuleFields ruleTypeFields type next

theorem matchPaths_plain : ∀ path ∈ matchPaths, PlainPath path := by decide

theorem matchPaths_apart : ∀ path ∈ matchPaths, ObjectPath.Apart ["action"] path ∧
    ∀ q ∈ knownActionFields.map PolicyFieldSpec.path, ObjectPath.Apart q path := by
  decide +kernel

theorem knownPaths_heads : ∀ path ∈ (knownRuleFields ++ knownActionFields).map
    PolicyFieldSpec.path, path.headD "" ∈ registryKeys ∧ path ≠ [] := by
  decide +kernel

theorem knownPaths_apart :
    (∀ path ∈ knownActionFields.map PolicyFieldSpec.path, ObjectPath.Apart ["action"] path) ∧
    ∀ path ∈ knownRuleFields.map PolicyFieldSpec.path, ObjectPath.Apart ["type"] path := by
  decide +kernel

theorem apart_of_unknown {known : List PolicyFieldSpec}
    (h : ∀ field ∈ known, field ∈ knownRuleFields ++ knownActionFields) {key : String}
    (hkey : key ∉ registryKeys) :
    ∀ q ∈ known.map PolicyFieldSpec.path, ObjectPath.Apart q [key] := by
  intro q hq
  obtain ⟨field, hfield, rfl⟩ := List.mem_map.mp hq
  obtain ⟨hhead, hne⟩ := knownPaths_heads _ (List.mem_map_of_mem (h field hfield))
  obtain ⟨k, rest, heq⟩ := List.exists_cons_of_ne_nil hne
  rw [heq] at hhead ⊢
  apply ObjectPath.apart_of_head_ne
  rintro rfl
  exact hkey hhead

/-- What a whole transition does: the sifting, and the new target written at one key. -/
theorem transition_unknown (rule : Object) {known : List PolicyFieldSpec} (h : Separate known)
    (hknown : ∀ field ∈ known, field ∈ knownRuleFields ++ knownActionFields)
    (transition : FieldTransition) {written : String} (hwritten : written ∈ registryKeys)
    (value : Option Value) {key : String} (hkey : key ∉ registryKeys) :
    (setPolicyPath (transitionFields rule known transition) [written] value)[key]? =
      rule[key]? := by
  have hne : written ≠ key := by
    rintro rfl
    exact hkey hwritten
  rw [← setPath_eq_setPolicyPath, setPath_eq_set, ← ObjectPath.getPath_singleton,
    ← ObjectPath.getPath_singleton,
    ObjectPath.getPath_set_of_apart _ (ObjectPath.apart_of_head_ne hne [] []),
    getPath_transitionFields_of_apart rule h transition (apart_of_unknown hknown hkey)]

theorem transition_belongs_written (rule : Object) {known : List PolicyFieldSpec}
    (h : Separate known) {registry : List (String × List PolicyFieldSpec)}
    {current target written : String} {transition : FieldTransition}
    (htransition : fieldTransition registry current target = some transition)
    (hapart : ∀ path ∈ known.map PolicyFieldSpec.path, ObjectPath.Apart [written] path)
    (value : Option Value) :
    Belongs known registry target
      (setPolicyPath (transitionFields rule known transition) [written] value) := by
  intro field hfield v hv
  have hmem : field.path ∈ known.map PolicyFieldSpec.path := List.mem_map_of_mem hfield
  have hread := getPolicyPath_written (transitionFields rule known transition) value
    (h.1 _ hmem) (hapart _ hmem)
  have hvalue : Read.ofOption _ = Read.ofOption (some v) := hread.symm.trans hv
  obtain ⟨candidate, hcandidate, hpath, hkind⟩ :=
    transition_belongs rule h transition hmem (Read.ofOption_injective hvalue)
  rw [fieldTransition, Option.map_eq_some_iff] at htransition
  obtain ⟨fields, hentry, rfl⟩ := htransition
  exact ⟨fields, hentry, candidate, hcandidate, hpath, by rw [hv]; exact hkind⟩

theorem ruleTypeFields_names : ∀ entry ∈ ruleTypeFields, entry.1 ∉ inheritedNames := by
  decide

theorem routeActionFields_names : ∀ entry ∈ routeActionFields, entry.1 ∉ inheritedNames := by
  decide

theorem fieldTransition_eq_none_iff {registry : List (String × List PolicyFieldSpec)}
    (h : ∀ entry ∈ registry, entry.1 ∉ inheritedNames) (current target : String) :
    fieldTransition registry current target = none ↔ target ∈ inheritedNames := by
  rw [fieldTransition, Option.map_eq_none_iff, entry_eq_none_iff h]

/-- The options of an action stay clear of the match fields, but for the network type of
`direct`. -/
theorem options_apart : ∀ entry ∈ routeActionFields, ∀ field ∈ entry.2,
    PlainPath field.path ∧ ObjectPath.Apart ["type"] field.path ∧
    ((∀ q ∈ knownRuleFields.map PolicyFieldSpec.path, ObjectPath.Apart q field.path) ∨
      field.path = ["network_type"] ∧ entry.1 = "direct") := by
  decide

/-- The network type stays only on the way from a type the registry does not know to `default`. -/
theorem fitsField_networkType {current type : String} (hne : current ≠ type)
    {transition : FieldTransition}
    (h : fieldTransition ruleTypeFields current type = some transition) (value : Option Value) :
    fitsField (compatibleFields transition) ["network_type"] value = true ↔
      type = "default" ∧ current ≠ "logical" ∧ value.all isStrings = true := by
  rw [fieldTransition, Option.map_eq_some_iff] at h
  obtain ⟨target, htarget, rfl⟩ := h
  by_cases htype : type = "default"
  · subst htype
    obtain rfl : defaultRuleFields = target := Option.some.inj htarget
    by_cases hlogical : current = "logical"
    · subst hlogical
      have hnone : getField (compatibleFields
          { source := (ruleTypeFields.lookup "logical").getD [], target := defaultRuleFields,
            sourceKnown := (ruleTypeFields.lookup "logical").isSome }) ["network_type"] = none :=
        Option.isNone_iff_eq_none.mp (by decide)
      rw [fitsField, hnone]
      exact ⟨fun hfalse => absurd hfalse Bool.false_ne_true, fun hfalse => absurd rfl hfalse.2.1⟩
    · have hlookup : ruleTypeFields.lookup current = none := by
        rw [ruleTypeFields, List.lookup_cons, List.lookup_cons, beq_eq_false_iff_ne.mpr hne,
          beq_eq_false_iff_ne.mpr hlogical]
        rfl
      have hfield : getField defaultRuleFields ["network_type"] =
          some { path := ["network_type"], kind := .list } := rfl
      rw [hlookup, compatibleFields, Option.isSome_none, if_neg Bool.false_ne_true, fitsField,
        hfield]
      exact ⟨fun hfits => ⟨rfl, hlogical, hfits⟩, fun hfits => hfits.2.2⟩
  · have hmem : ["network_type"] ∉ target.map PolicyFieldSpec.path := by
      rw [entry, ruleTypeFields, List.lookup_cons, List.lookup_cons,
        beq_eq_false_iff_ne.mpr htype] at htarget
      by_cases hlogical : type = "logical"
      · subst hlogical
        obtain rfl : logicalRuleFields = target := Option.some.inj htarget
        decide
      · rw [beq_eq_false_iff_ne.mpr hlogical] at htarget
        dsimp only [List.lookup_nil] at htarget
        split_ifs at htarget
        obtain rfl := Option.some.inj htarget
        exact List.not_mem_nil
    rw [fitsField, getField_eq_none]
    · exact ⟨fun hfalse => absurd hfalse Bool.false_ne_true, fun hfalse => absurd hfalse.1 htype⟩
    · intro hpath
      obtain ⟨field, hfield, heq⟩ := List.mem_map.mp hpath
      exact hmem (heq ▸ List.mem_map_of_mem (mem_compatibleFields hfield))

theorem changeRouteAction_iff (rule : Object) (action : String) :
    (∃ next, changeRouteAction formatNumber rule action = some next ∧
        ActionChanged formatNumber rule next action) ↔
      ∃ explicit, textOr formatNumber rule["action"]? "" = some explicit ∧
        (explicit = action ∧ explicit ≠ "" ∨ action ∉ inheritedNames) := by
  cases hexplicit : textOr formatNumber rule["action"]? "" with
  | none =>
    constructor
    · rintro ⟨next, hnext, -⟩
      rw [changeRouteAction, hexplicit] at hnext
      cases hnext
    · rintro ⟨explicit, h, -⟩
      cases h
  | some explicit =>
    rw [changeRouteAction, hexplicit, Option.bind_some]
    by_cases hsame : explicit = action ∧ explicit ≠ ""
    · rw [if_pos hsame]
      obtain ⟨rfl, hne⟩ := hsame
      refine ⟨fun _ => ⟨explicit, rfl, .inl ⟨rfl, hne⟩⟩, fun _ => ⟨rule, rfl, ?_⟩⟩
      exact ⟨fun _ _ => rfl, fun _ _ => rfl, fun hchanged => absurd ⟨hexplicit, hne⟩ hchanged⟩
    · rw [if_neg hsame]
      dsimp only
      cases htransition : fieldTransition routeActionFields
          (if explicit = "" then "route" else explicit) action with
      | none =>
        have hinherited := (fieldTransition_eq_none_iff routeActionFields_names _ _).mp htransition
        constructor
        · rintro ⟨next, hnext, -⟩
          cases hnext
        · rintro ⟨explicit', h, hcases⟩
          obtain rfl := Option.some.inj h
          exact absurd hcases (not_or.mpr ⟨hsame, not_not.mpr hinherited⟩)
      | some transition =>
        have hname : action ∉ inheritedNames := by
          rw [← fieldTransition_eq_none_iff routeActionFields_names
            (if explicit = "" then "route" else explicit), htransition]
          exact Option.some_ne_none transition
        refine ⟨fun _ => ⟨explicit, rfl, .inr hname⟩, fun _ => ⟨_, rfl, ?_⟩⟩
        refine ⟨fun path hpath => ?_, fun key hkey => ?_, fun _ => ?_⟩
        · obtain ⟨haction, hknown⟩ := matchPaths_apart path hpath
          have hplain := matchPaths_plain path hpath
          rw [getPolicyPath_written _ _ hplain haction, getPath_transitionFields_of_apart rule
            separate_knownActionFields transition hknown, ← getPath_eq_getPolicyPath,
            getPath_eq rule hplain.2]
        · exact transition_unknown rule separate_knownActionFields
            (fun field hfield => List.mem_append_right _ hfield) transition (by decide) _
            hkey
        · exact transition_belongs_written rule separate_knownActionFields htransition
            knownPaths_apart.1 _

/-- The action a rule has, where it has a text. -/
def currentAction (rule : Object) : Option String :=
  (textOr formatNumber rule["action"]? "").map fun explicit =>
    if explicit = "" then "route" else explicit

/-- The network type of a rule is no option of its action, is absent, or stays: as a list or a
string on the way from an unknown type to `default`. -/
def NetworkTypeSafe (rule : Object) (current type : String) : Prop :=
  currentAction formatNumber rule ≠ some "direct" ∨
    getPolicyPath rule ["network_type"] = .undefined ∨
    type = "default" ∧ current ≠ "logical" ∧
      ∃ v, getPolicyPath rule ["network_type"] = .value v ∧ isStrings v = true

theorem networkType_kept_iff (rule : Object) {current type : String} (hne : current ≠ type)
    {transition : FieldTransition}
    (h : fieldTransition ruleTypeFields current type = some transition) (value : Option Value) :
    getPolicyPath (setPolicyPath (transitionFields rule knownRuleFields transition) ["type"] value)
        ["network_type"] = getPolicyPath rule ["network_type"] ↔
      getPolicyPath rule ["network_type"] = .undefined ∨
      type = "default" ∧ current ≠ "logical" ∧
        ∃ v, getPolicyPath rule ["network_type"] = .value v ∧ isStrings v = true := by
  have hmem : ["network_type"] ∈ knownRuleFields.map PolicyFieldSpec.path := by decide
  have hplain := separate_knownRuleFields.1 _ hmem
  rw [getPolicyPath_written _ value hplain (knownPaths_apart.2 _ hmem),
    getPath_transitionFields rule separate_knownRuleFields transition hmem,
    ← getPath_eq_getPolicyPath, getPath_eq rule hplain.2]
  have hfits := fitsField_networkType hne h (ObjectPath.getPath rule.toValue ["network_type"])
  cases hv : ObjectPath.getPath rule.toValue ["network_type"] with
  | none => simp [Read.ofOption]
  | some v =>
    rw [hv, Option.all_some] at hfits
    have hread : (∃ w, Read.ofOption (some v) = .value w ∧ isStrings w = true) ↔
        isStrings v = true := by
      constructor
      · rintro ⟨w, hw, hstrings⟩
        obtain rfl := Read.value.inj hw
        exact hstrings
      · exact fun hstrings => ⟨v, rfl, hstrings⟩
    have hdefined : Read.ofOption (some v) ≠ .undefined := by
      intro hundefined
      cases hundefined
    rw [hread, ← hfits, or_iff_right hdefined]
    split_ifs with hkeep
    · exact ⟨fun _ => hkeep, fun _ => rfl⟩
    · exact ⟨fun heq => absurd (Read.ofOption_injective heq) (Option.some_ne_none v).symm,
        fun hkept => absurd hkept hkeep⟩

theorem actionOptions_eq {rule : Object} {action : String}
    (h : currentAction formatNumber rule = some action) :
    actionOptions formatNumber rule = (routeActionFields.lookup action).getD [] := by
  rw [currentAction, Option.map_eq_some_iff] at h
  obtain ⟨explicit, hexplicit, rfl⟩ := h
  simp only [actionOptions, hexplicit]

theorem actionOptions_entry {rule : Object} {field : PolicyFieldSpec}
    (h : field ∈ actionOptions formatNumber rule) :
    ∃ entry ∈ routeActionFields, field ∈ entry.2 ∧
      currentAction formatNumber rule = some entry.1 := by
  cases haction : currentAction formatNumber rule with
  | none =>
    rw [currentAction, Option.map_eq_none_iff] at haction
    simp only [actionOptions, haction] at h
    cases h
  | some action =>
    rw [actionOptions_eq formatNumber haction] at h
    cases hlookup : routeActionFields.lookup action with
    | none =>
      rw [hlookup] at h
      cases h
    | some fields =>
      rw [hlookup] at h
      exact ⟨(action, fields), mem_of_lookup hlookup, h, rfl⟩

theorem networkType_mem {rule : Object} (h : currentAction formatNumber rule = some "direct") :
    { path := ["network_type"], kind := .list } ∈ actionOptions formatNumber rule := by
  rw [actionOptions_eq formatNumber h]
  change _ ∈ directFields
  simp [directFields]

theorem changeRouteRuleType_iff (rule : Object) (type : String) :
    (∃ next, changeRouteRuleType formatNumber rule type = some next ∧
        RuleTypeChanged formatNumber rule next type) ↔
      ∃ current, textOr formatNumber rule["type"]? "default" = some current ∧
        (current = type ∨
          type ∉ inheritedNames ∧ NetworkTypeSafe formatNumber rule current type) := by
  cases hcurrent : textOr formatNumber rule["type"]? "default" with
  | none =>
    constructor
    · rintro ⟨next, hnext, -⟩
      rw [changeRouteRuleType, hcurrent] at hnext
      cases hnext
    · rintro ⟨current, h, -⟩
      cases h
  | some current =>
    rw [changeRouteRuleType, hcurrent, Option.bind_some]
    by_cases hsame : current = type
    · rw [if_pos hsame]
      refine ⟨fun _ => ⟨current, rfl, .inl hsame⟩, fun _ => ⟨rule, rfl, ?_⟩⟩
      exact ⟨fun _ _ => rfl, fun _ _ => rfl,
        fun hchanged => absurd (hcurrent.trans (congrArg some hsame)) hchanged⟩
    · rw [if_neg hsame]
      cases htransition : fieldTransition ruleTypeFields current type with
      | none =>
        have hinherited := (fieldTransition_eq_none_iff ruleTypeFields_names _ _).mp htransition
        constructor
        · rintro ⟨next, hnext, -⟩
          cases hnext
        · rintro ⟨current', h, hcases⟩
          obtain rfl := Option.some.inj h
          exact absurd hcases (not_or.mpr ⟨hsame, fun hsafe => hsafe.1 hinherited⟩)
      | some transition =>
        have hname : type ∉ inheritedNames := by
          rw [← fieldTransition_eq_none_iff ruleTypeFields_names current, htransition]
          exact Option.some_ne_none transition
        have hkept := fun value =>
          networkType_kept_iff rule hsame htransition value
        rw [Option.map_some]
        constructor
        · rintro ⟨next, hnext, hchanged⟩
          obtain rfl := Option.some.inj hnext
          refine ⟨current, rfl, .inr ⟨hname, ?_⟩⟩
          by_cases hdirect : currentAction formatNumber rule = some "direct"
          · exact .inr ((hkept _).mp (hchanged.options _ (networkType_mem formatNumber hdirect)))
          · exact .inl hdirect
        · rintro ⟨current', h, hcases⟩
          obtain rfl := Option.some.inj h
          obtain ⟨-, hsafe⟩ := hcases.resolve_left hsame
          refine ⟨_, rfl, fun field hfield => ?_, fun key hkey => ?_, fun _ => ?_⟩
          · obtain ⟨entry, hentry, hmem, haction⟩ := actionOptions_entry formatNumber hfield
            obtain ⟨hplain, htype, hcases⟩ := options_apart entry hentry field hmem
            obtain hknown | ⟨hpath, hdirect⟩ := hcases
            · rw [getPolicyPath_written _ _ hplain htype, getPath_transitionFields_of_apart rule
                separate_knownRuleFields transition hknown, ← getPath_eq_getPolicyPath,
                getPath_eq rule hplain.2]
            · rw [hpath]
              rw [hdirect] at haction
              exact (hkept _).mpr (hsafe.resolve_left (not_not.mpr haction))
          · exact transition_unknown rule separate_knownRuleFields
              (fun field hfield => List.mem_append_left _ hfield) transition (by decide) _
              hkey
          · exact transition_belongs_written rule separate_knownRuleFields htransition
              knownPaths_apart.2 _

/-- Transitions do not interfere but for the network type, and except where the target has the
name of an inherited property. -/
theorem routeTransitions_iff :
    (∀ (rule : Object) (action : String),
      (∃ next, changeRouteAction formatNumber rule action = some next ∧
        ActionChanged formatNumber rule next action) ↔
      ∃ explicit, textOr formatNumber rule["action"]? "" = some explicit ∧
        (explicit = action ∧ explicit ≠ "" ∨ action ∉ inheritedNames)) ∧
    ∀ (rule : Object) (type : String),
      (∃ next, changeRouteRuleType formatNumber rule type = some next ∧
        RuleTypeChanged formatNumber rule next type) ↔
      ∃ current, textOr formatNumber rule["type"]? "default" = some current ∧
        (current = type ∨
          type ∉ inheritedNames ∧ NetworkTypeSafe formatNumber rule current type) :=
  ⟨changeRouteAction_iff formatNumber, changeRouteRuleType_iff formatNumber⟩

/-- The network type of a direct rule is lost on the way to a logical one. -/
theorem changeRouteRuleType_networkType :
    ¬ ∃ next, changeRouteRuleType (fun _ => "") (Std.ExtTreeMap.ofList [("action", .str "direct"),
        ("network_type", .list [.str "wifi"])] compare) "logical" = some next ∧
      RuleTypeChanged (fun _ => "") (Std.ExtTreeMap.ofList [("action", .str "direct"),
        ("network_type", .list [.str "wifi"])] compare) next "logical" := by
  rw [changeRouteRuleType_iff]
  rintro ⟨current, hcurrent, hcases⟩
  obtain rfl : "default" = current := Option.some.inj hcurrent
  obtain hsame | ⟨-, haction | hundefined | hdefault⟩ := hcases
  · exact absurd hsame (by decide)
  · exact haction rfl
  · cases hundefined
  · exact absurd hdefault.1 (by decide)

end Boxui.UI.RouteForm
