import Boxui.UI.FormPruning

/-! Changing the type of an outbound in its form. -/
namespace Boxui.UI.OutboundForm
open GoValue JSValue Forms

def credentialPaths : List (List String) :=
  [["username"], ["password"], ["uuid"], ["flow"], ["security"], ["auth"], ["auth_str"], ["user"],
    ["private_key"], ["private_key_path"], ["private_key_passphrase"], ["obfs", "password"]]

def tlsCredentialPaths : List (List String) :=
  [["tls", "client_certificate"], ["tls", "client_certificate_path"], ["tls", "client_key"],
    ["tls", "client_key_path"]]

def knownProtocolFields : List FieldSpec :=
  protocolMap.flatMap Prod.snd ++ groupMap.flatMap Prod.snd

def removePaths (object : Object) (paths : List (List String)) : Object :=
  paths.foldl (fun next path => setPath next path none) object

def removeFields (object : Object) (fields : List FieldSpec) : Object :=
  fields.foldl (fun next field => setPath next field.path none) object

/-- `matchesField` on what a path yields. -/
def readMatches (value : Read) (field : FieldSpec) : Bool :=
  match value with
  | .undefined => true
  | .value v => matchesField v field
  | .function => false
  | .prototype => field.kind = .jsonObject

def removeIncompatibleFields (object : Object) (known target : List FieldSpec) : Object :=
  let paths := (known.map FieldSpec.path).eraseDups
  paths.foldl (fun next path =>
    match target.find? fun candidate => candidate.path == path with
    | some field => if readMatches (getPath next path) field then next else setPath next path none
    | none => setPath next path none) object

/-- What `type` a config has: `String(object.type ?? "")`. -/
def typeText (formatNumber : Rat → String) (object : Object) : Option String :=
  textOr formatNumber object["type"]? ""

def changeOutboundType (formatNumber : Rat → String) (object : Object) (type : String) :
    Option Object :=
  (typeText formatNumber object).map fun previous =>
    if previous = type then object
    else
      let next := if type ∈ serverTypes then object
        else setPath (setPath object ["server"] none) ["server_port"] none
      let next := if type ∈ dialerTypes then next else removeFields next dialerFields
      let next := removeIncompatibleFields next knownProtocolFields
        (protocolFields type ++ groupFields type)
      let next := removePaths next credentialPaths
      let next := removePaths next tlsCredentialPaths
      let next := if type ∈ outboundTLSTypes then next else setPath next ["tls"] none
      let next := if type ∈ outboundTransportTypes then next else setPath next ["transport"] none
      let next := if type ∈ outboundMultiplexTypes then next else setPath next ["multiplex"] none
      next.insert "type" (.str type)

/-! ### The change as removals and one pass of sifting -/

/-- The fields a type has in the protocol and group registries. -/
def targetFields (type : String) : List FieldSpec := protocolFields type ++ groupFields type

def knownPaths : List (List String) := (knownProtocolFields.map FieldSpec.path).eraseDups

/-- What is removed before the known fields are gone through. -/
def earlyPaths (type : String) : List (List String) :=
  (if type ∈ serverTypes then [] else [["server"], ["server_port"]]) ++
    (if type ∈ dialerTypes then [] else dialerFields.map FieldSpec.path)

/-- What is removed after that. -/
def latePaths (type : String) : List (List String) :=
  credentialPaths ++ tlsCredentialPaths ++ (if type ∈ outboundTLSTypes then [] else [["tls"]]) ++
    (if type ∈ outboundTransportTypes then [] else [["transport"]]) ++
    (if type ∈ outboundMultiplexTypes then [] else [["multiplex"]])

/-- The test for the value at a known path. -/
def fitsTarget (target : List FieldSpec) (path : List String) (value : Option Value) : Bool :=
  match target.find? fun candidate => candidate.path == path with
  | some field => value.all fun v => matchesField v field
  | none => false

theorem removePaths_eq (object : Object) (paths : List (List String)) :
    removePaths object paths = ObjectPath.removeAll paths object := by
  rw [removePaths, ObjectPath.removeAll]
  congr 1
  funext next path
  exact setPath_eq_set next path none

theorem removeFields_eq (object : Object) (fields : List FieldSpec) :
    removeFields object fields = ObjectPath.removeAll (fields.map FieldSpec.path) object := by
  rw [← removePaths_eq, removePaths, List.foldl_map, removeFields]

theorem readMatches_ofOption (value : Option Value) (field : FieldSpec) :
    readMatches (Read.ofOption value) field = value.all fun v => matchesField v field := by
  cases value <;> rfl

theorem removeIncompatibleFields_eq (object : Object) {known : List FieldSpec}
    (hplain : ∀ path ∈ (known.map FieldSpec.path).eraseDups, PlainPath path)
    (target : List FieldSpec) :
    removeIncompatibleFields object known target =
      ObjectPath.sift (fitsTarget target) (known.map FieldSpec.path).eraseDups object := by
  rw [removeIncompatibleFields]
  generalize (known.map FieldSpec.path).eraseDups = paths at hplain
  induction paths generalizing object with
  | nil => rfl
  | cons path paths ih =>
    obtain ⟨hpath, hpaths⟩ := List.forall_mem_cons.mp hplain
    rw [List.foldl_cons, ObjectPath.sift_cons, ← ih _ hpaths]
    congr 1
    rw [fitsTarget]
    cases target.find? fun candidate => candidate.path == path with
    | none => exact setPath_eq_set object path none
    | some field =>
      simp only [getPath_eq object hpath.2, readMatches_ofOption, setPath_eq_set]
      rfl

theorem plainPath_knownPaths : ∀ path ∈ knownPaths, PlainPath path := by decide +kernel

theorem changeOutboundType_eq (formatNumber : Rat → String) {object : Object}
    {type previous : String}
    (hprevious : typeText formatNumber object = some previous) (hne : previous ≠ type) :
    changeOutboundType formatNumber object type =
      some ((ObjectPath.removeAll (latePaths type)
        (ObjectPath.sift (fitsTarget (targetFields type)) knownPaths
          (ObjectPath.removeAll (earlyPaths type) object))).insert "type" (.str type)) := by
  have hone : ∀ (m : Object) (path : List String),
      setPath m path none = ObjectPath.removeAll [path] m := by
    intro m path
    exact setPath_eq_set m path none
  have hearly : ObjectPath.removeAll (earlyPaths type) object =
      if type ∈ dialerTypes then
        (if type ∈ serverTypes then object
          else setPath (setPath object ["server"] none) ["server_port"] none)
      else removeFields (if type ∈ serverTypes then object
          else setPath (setPath object ["server"] none) ["server_port"] none) dialerFields := by
    rw [earlyPaths, ObjectPath.removeAll_append, removeFields_eq]
    split_ifs <;> simp only [hone, ObjectPath.removeAll_cons, ObjectPath.removeAll_nil]
  rw [changeOutboundType, hprevious, Option.map_some, if_neg hne]
  dsimp only
  rw [← hearly, removeIncompatibleFields_eq _ plainPath_knownPaths, removePaths_eq, removePaths_eq,
    ← ObjectPath.removeAll_append]
  congr 2
  rw [latePaths, ObjectPath.removeAll_append, ObjectPath.removeAll_append,
    ObjectPath.removeAll_append]
  split_ifs <;> simp only [hone, ObjectPath.removeAll_cons, ObjectPath.removeAll_nil] <;> rfl

/-! ### What a change of type comes to -/

/-- The keys the registries of the form know. -/
def registryKeys : List String :=
  ["type", "server", "server_port", "tls", "transport", "multiplex"] ++
    (dialerFields.map FieldSpec.path ++ knownPaths ++ credentialPaths).filterMap List.head?

/-- Every path a change to the type may write or remove. -/
def changedPaths (type : String) : List (List String) :=
  ["type"] :: (earlyPaths type ++ knownPaths ++ latePaths type)

/-- An object of the new type with what the type does not support gone, and everything else as it
was, also inside the parts that the type supports. -/
structure TypeChanged (object next : Object) (type : String) : Prop where
  type_eq : next["type"]? = some (.str type)
  unknown : ∀ key : String, key ∉ registryKeys → next[key]? = object[key]?
  unchanged : ∀ path, (∀ changed ∈ changedPaths type, ObjectPath.Apart changed path) →
    ObjectPath.getPath next.toValue path = ObjectPath.getPath object.toValue path
  credentials : ∀ path ∈ credentialPaths ++ tlsCredentialPaths, getPath next path = .undefined
  foreign : ∀ field ∈ knownProtocolFields, field.path ∉ (targetFields type).map FieldSpec.path →
    getPath next field.path = .undefined
  server : type ∉ serverTypes →
    getPath next ["server"] = .undefined ∧ getPath next ["server_port"] = .undefined
  dialer : type ∉ dialerTypes → ∀ field ∈ dialerFields, getPath next field.path = .undefined
  tls : type ∉ outboundTLSTypes → getPath next ["tls"] = .undefined
  transport : type ∉ outboundTransportTypes → getPath next ["transport"] = .undefined
  multiplex : type ∉ outboundMultiplexTypes → getPath next ["multiplex"] = .undefined
  valid : ∀ field ∈ targetFields type, ∀ v, getPath next field.path = .value v →
    matchesField v field = true

/-- Every value of a select field is one of its options. -/
def OptionsListed (next : Object) (type : String) : Prop :=
  ∀ field ∈ targetFields type, field.kind = .select → ∀ v, getPath next field.path = .value v →
    ∃ option ∈ field.options, v = .str option

/-- Every path a change may remove. -/
def removablePaths : List (List String) :=
  [["server"], ["server_port"], ["tls"], ["transport"], ["multiplex"]] ++
    dialerFields.map FieldSpec.path ++ knownPaths ++ credentialPaths ++ tlsCredentialPaths

theorem removablePaths_plain : ∀ path ∈ removablePaths, PlainPath path ∧
    ObjectPath.Apart ["type"] path ∧ path.head?.any (· ∈ registryKeys) = true := by
  decide +kernel

theorem mem_removablePaths_of_early {type : String} {path : List String}
    (h : path ∈ earlyPaths type) : path ∈ removablePaths := by
  simp only [removablePaths, List.mem_append]
  obtain hserver | hdialer := List.mem_append.mp h
  · split_ifs at hserver
    · cases hserver
    · left; left; left; left
      exact List.mem_append_left _ hserver
  · split_ifs at hdialer
    · cases hdialer
    · left; left; left; right
      exact hdialer

theorem mem_removablePaths_of_late {type : String} {path : List String}
    (h : path ∈ latePaths type) : path ∈ removablePaths := by
  simp only [removablePaths, List.mem_append, List.mem_cons]
  simp only [latePaths, List.mem_append] at h
  obtain (((hcredential | htls) | hmem) | hmem) | hmem := h
  · simp only [hcredential, or_true, true_or]
  · simp only [htls, or_true]
  all_goals
    split_ifs at hmem
    · cases hmem
    · simp only [List.mem_singleton] at hmem
      simp only [hmem, true_or, or_true]

theorem mem_removablePaths_of_known {path : List String} (h : path ∈ knownPaths) :
    path ∈ removablePaths := by
  simp only [removablePaths, List.mem_append, h, or_true, true_or]

/-- The object before its new type is written. -/
def stripped (object : Object) (type : String) : Object :=
  ObjectPath.removeAll (latePaths type) (ObjectPath.sift (fitsTarget (targetFields type)) knownPaths
    (ObjectPath.removeAll (earlyPaths type) object))

theorem getPath_retyped {path : List String} (hpath : path ∈ removablePaths) (m : Object)
    (type : String) :
    getPath (m.insert "type" (.str type)) path =
      Read.ofOption (ObjectPath.getPath m.toValue path) := by
  obtain ⟨hplain, hapart, -⟩ := removablePaths_plain path hpath
  rw [getPath_eq _ hplain.2]
  exact congrArg Read.ofOption
    (ObjectPath.getPath_set_of_apart m hapart (some (Value.str type)))

theorem stripped_late {object : Object} {type : String} {path : List String}
    (h : path ∈ latePaths type) :
    getPath ((stripped object type).insert "type" (.str type)) path = .undefined := by
  have hmem := mem_removablePaths_of_late h
  rw [getPath_retyped hmem, stripped,
    ObjectPath.getPath_removeAll_of_mem (removablePaths_plain path hmem).1.1 h]
  rfl

theorem stripped_early {object : Object} {type : String} {path : List String}
    (h : path ∈ earlyPaths type) :
    getPath ((stripped object type).insert "type" (.str type)) path = .undefined := by
  have hmem := mem_removablePaths_of_early h
  obtain ⟨removed, -, heq⟩ := ObjectPath.sift_eq_removeAll (fitsTarget (targetFields type))
    knownPaths (ObjectPath.removeAll (earlyPaths type) object)
  have hearly := ObjectPath.getPath_removeAll_of_mem (removablePaths_plain path hmem).1.1 h object
  rw [getPath_retyped hmem, stripped, heq, ObjectPath.getPath_removeAll_of_eq_none _
    (ObjectPath.getPath_removeAll_of_eq_none _ hearly)]
  rfl

theorem fitsTarget_of_notMem {target : List FieldSpec} {path : List String}
    (h : path ∉ target.map FieldSpec.path) (value : Option Value) :
    fitsTarget target path value = false := by
  have hnone : (target.find? fun candidate => candidate.path == path) = none := by
    rw [List.find?_eq_none]
    intro field hfield heq
    exact h (List.mem_map.mpr ⟨field, hfield, beq_iff_eq.mp heq⟩)
  rw [fitsTarget, hnone]

theorem stripped_foreign (object : Object) {type : String} {path : List String}
    (h : path ∈ knownPaths) (hforeign : path ∉ (targetFields type).map FieldSpec.path) :
    getPath ((stripped object type).insert "type" (.str type)) path = .undefined := by
  have hmem := mem_removablePaths_of_known h
  rw [getPath_retyped hmem, stripped, ObjectPath.getPath_removeAll_of_eq_none _
    (ObjectPath.getPath_sift_of_fails (fitsTarget_of_notMem hforeign)
      (removablePaths_plain path hmem).1.1 h _)]
  rfl

theorem stripped_unchanged {object : Object} {type : String} {path : List String}
    (h : ∀ changed ∈ changedPaths type, ObjectPath.Apart changed path) :
    ObjectPath.getPath (Object.toValue ((stripped object type).insert "type" (.str type))) path =
      ObjectPath.getPath object.toValue path := by
  obtain ⟨htype, hrest⟩ := List.forall_mem_cons.mp h
  obtain ⟨hbefore, hlate⟩ := List.forall_mem_append.mp hrest
  obtain ⟨hearly, hknown⟩ := List.forall_mem_append.mp hbefore
  have hwritten := ObjectPath.getPath_set_of_apart (stripped object type) htype
    (some (Value.str type))
  exact hwritten.trans <| by
    rw [stripped, ObjectPath.getPath_removeAll_of_apart hlate,
      ObjectPath.getPath_sift_of_apart hknown, ObjectPath.getPath_removeAll_of_apart hearly]

/-- No registry knows a key outside its own, so that nothing happens to it. -/
theorem stripped_unknown {object : Object} {type key : String} (h : key ∉ registryKeys) :
    ((stripped object type).insert "type" (.str type))[key]? = object[key]? := by
  have hapart : ∀ path ∈ removablePaths, ObjectPath.Apart path [key] := by
    intro path hpath
    obtain ⟨-, -, hhead⟩ := removablePaths_plain path hpath
    cases path with
    | nil => cases hhead
    | cons k path =>
      apply ObjectPath.apart_of_head_ne
      rintro rfl
      exact h (of_decide_eq_true hhead)
  have htype : "type" ≠ key := by
    rintro rfl
    exact h (by decide)
  rw [← ObjectPath.getPath_singleton, ← ObjectPath.getPath_singleton]
  refine stripped_unchanged (List.forall_mem_cons.mpr
    ⟨ObjectPath.apart_of_head_ne htype [] [], fun path hpath => hapart path ?_⟩)
  obtain hbefore | hlate := List.mem_append.mp hpath
  · exact (List.mem_append.mp hbefore).elim mem_removablePaths_of_early mem_removablePaths_of_known
  · exact mem_removablePaths_of_late hlate

theorem mem_knownProtocolFields {type : String} {field : FieldSpec}
    (h : field ∈ targetFields type) : field ∈ knownProtocolFields := by
  have hlookup : ∀ registry : List (String × List FieldSpec),
      field ∈ (registry.lookup type).getD [] → field ∈ registry.flatMap Prod.snd := by
    intro registry hmem
    cases hname : registry.lookup type with
    | none =>
      rw [hname] at hmem
      cases hmem
    | some fields =>
      rw [hname] at hmem
      exact mem_flatMap_of_lookup hname hmem
  rw [knownProtocolFields, List.mem_append]
  exact (List.mem_append.mp h).imp (hlookup _) (hlookup _)

theorem mem_knownPaths {field : FieldSpec} (h : field ∈ knownProtocolFields) :
    field.path ∈ knownPaths :=
  List.mem_eraseDups.mpr (List.mem_map_of_mem h)

theorem find?_path_eq_some {fields : List FieldSpec} (h : (fields.map FieldSpec.path).Nodup)
    {field : FieldSpec} (hfield : field ∈ fields) :
    (fields.find? fun candidate => candidate.path == field.path) = some field := by
  induction fields with
  | nil => cases hfield
  | cons first fields ih =>
    rw [List.map_cons, List.nodup_cons] at h
    cases hfield with
    | head => rw [List.find?_cons, beq_self_eq_true]
    | tail _ hfield =>
      have hne : (first.path == field.path) = false := by
        rw [beq_eq_false_iff_ne]
        intro heq
        exact h.1 (heq ▸ List.mem_map_of_mem hfield)
      rw [List.find?_cons, hne]
      exact ih h.2 hfield

theorem nodup_targetFields :
    ∀ type ∈ outboundTypes, ((targetFields type).map FieldSpec.path).Nodup := by
  decide +kernel

theorem fitsTarget_eq {type : String} (htype : type ∈ outboundTypes) {field : FieldSpec}
    (hfield : field ∈ targetFields type) (value : Option Value) :
    fitsTarget (targetFields type) field.path value = value.all fun v => matchesField v field := by
  rw [fitsTarget, find?_path_eq_some (nodup_targetFields type htype) hfield]

/-- Whether an object has the kind of a field does not depend on what is in it. -/
theorem matchesField_object {v : Value} {m₀ : Object} (h : v.asMap? = some m₀) (m₁ : Object)
    (field : FieldSpec) : matchesField m₁.toValue field = matchesField v field := by
  cases v with
  | obj fields =>
    obtain ⟨path, kind, options, when⟩ := field
    cases kind <;> rfl
  | _ => cases h

theorem lenient_fitsTarget {type : String} (htype : type ∈ outboundTypes) {field : FieldSpec}
    (hfield : field ∈ targetFields type) :
    ObjectPath.Lenient (fitsTarget (targetFields type) field.path) := by
  refine ⟨by rw [fitsTarget_eq htype hfield]; rfl, fun v m₀ m₁ hm₀ hv => ?_⟩
  rw [fitsTarget_eq htype hfield] at hv ⊢
  exact (matchesField_object hm₀ m₁ field).trans hv

theorem stripped_valid {object : Object} {type : String} (htype : type ∈ outboundTypes)
    {field : FieldSpec} (hfield : field ∈ targetFields type) {v : Value}
    (hv : getPath ((stripped object type).insert "type" (.str type)) field.path = .value v) :
    matchesField v field = true := by
  have hknown := mem_knownPaths (mem_knownProtocolFields hfield)
  have hmem := mem_removablePaths_of_known hknown
  have hlenient := lenient_fitsTarget htype hfield
  have hkept := hlenient.removeAll (ObjectPath.keep_getPath_sift hlenient
    (removablePaths_plain _ hmem).1.1 hknown (ObjectPath.removeAll (earlyPaths type) object))
    (latePaths type)
  rw [getPath_retyped hmem, stripped] at hv
  have hread : Read.ofOption _ = Read.ofOption (some v) := hv
  rw [Read.ofOption_injective hread, fitsTarget_eq htype hfield] at hkept
  exact hkept

/-- The change keeps its word but for the options of the select fields. -/
theorem typeChanged_stripped (object : Object) {type : String} (htype : type ∈ outboundTypes) :
    TypeChanged object ((stripped object type).insert "type" (.str type)) type where
  type_eq := by rw [GoMap.getElem?_insert, if_pos rfl]
  unknown key hkey := stripped_unknown hkey
  unchanged path hpath := stripped_unchanged hpath
  credentials path hpath := by
    apply stripped_late
    simp only [latePaths, List.mem_append]
    exact .inl (.inl (.inl (List.mem_append.mp hpath)))
  foreign field hfield hforeign := stripped_foreign _ (mem_knownPaths hfield) hforeign
  server htype := by
    have hearly : ∀ path ∈ [["server"], ["server_port"]], path ∈ earlyPaths type := by
      intro path hpath
      rw [earlyPaths, if_neg htype]
      exact List.mem_append_left _ hpath
    exact ⟨stripped_early (hearly _ (by decide)), stripped_early (hearly _ (by decide))⟩
  dialer htype field hfield := by
    apply stripped_early
    rw [earlyPaths, if_neg htype]
    exact List.mem_append_right _ (List.mem_map_of_mem hfield)
  tls htype := stripped_late (by simp [latePaths, htype])
  transport htype := stripped_late (by simp [latePaths, htype])
  multiplex htype := stripped_late (by simp [latePaths, htype])
  valid field hfield v hv := stripped_valid htype hfield hv

/-! ### The options of the select fields -/

/-- The select fields a value can survive in: no credential, and not below `obfs`, which goes
first. -/
def SurvivingSelect (field : FieldSpec) : Prop :=
  field.kind = .select ∧ field.path ∉ credentialPaths ∧ field.path ≠ ["obfs", "type"]

instance (field : FieldSpec) : Decidable (SurvivingSelect field) :=
  inferInstanceAs (Decidable (_ ∧ _ ∧ _))

/-- What the select fields of the new type hold before the change: an option, or no scalar. -/
def ListedBefore (object : Object) (type : String) : Prop :=
  ∀ field ∈ targetFields type, SurvivingSelect field → ∀ v,
    getPath object field.path = .value v → matchesField v field = true →
    ∃ option ∈ field.options, v = .str option

theorem survivingSelect_apart : ∀ type ∈ outboundTypes, ∀ field ∈ targetFields type,
    SurvivingSelect field → (∀ q ∈ knownPaths, q ≠ field.path → ObjectPath.Apart q field.path) ∧
      (∀ q ∈ earlyPaths type, ObjectPath.Apart q field.path) ∧
      ∀ q ∈ latePaths type, ObjectPath.Apart q field.path := by
  decide +kernel

/-- In such a field the value before the change is there after it, if it is a scalar. -/
theorem stripped_select {object : Object} {type : String} (htype : type ∈ outboundTypes)
    {field : FieldSpec} (hfield : field ∈ targetFields type) (hselect : SurvivingSelect field)
    (v : Value) :
    getPath ((stripped object type).insert "type" (.str type)) field.path = .value v ↔
      getPath object field.path = .value v ∧ matchesField v field = true := by
  obtain ⟨hknown, hearly, hlate⟩ := survivingSelect_apart type htype field hfield hselect
  have hmem := mem_removablePaths_of_known (mem_knownPaths (mem_knownProtocolFields hfield))
  obtain ⟨hplain, -, -⟩ := removablePaths_plain _ hmem
  have hsame := ObjectPath.getPath_removeAll_of_apart hearly object
  have hvalue : ∀ w : Option Value, Read.ofOption w = .value v ↔ w = some v := by
    intro w
    exact ⟨fun h => Read.ofOption_injective (h.trans (rfl : .value v = Read.ofOption (some v))),
      fun h => h ▸ rfl⟩
  rw [getPath_retyped hmem, stripped, ObjectPath.getPath_removeAll_of_apart hlate, hvalue,
    getPath_eq object hplain.2, hvalue]
  cases hfits : fitsTarget (targetFields type) field.path
      (ObjectPath.getPath (ObjectPath.removeAll (earlyPaths type) object).toValue field.path) with
  | true =>
    rw [ObjectPath.getPath_sift_of_keep hknown hfits, hsame]
    rw [hsame, fitsTarget_eq htype hfield] at hfits
    constructor
    · intro hv
      rw [hv] at hfits
      exact ⟨hv, hfits⟩
    · exact And.left
  | false =>
    rw [ObjectPath.getPath_sift_of_drop hknown hplain.1
      (mem_knownPaths (mem_knownProtocolFields hfield)) hfits]
    rw [hsame, fitsTarget_eq htype hfield] at hfits
    constructor
    · intro hv
      cases hv
    · rintro ⟨hv, hmatches⟩
      rw [hv, Option.all_some, hmatches] at hfits
      cases hfits

theorem obfs_foreign : ∀ type ∈ outboundTypes, ∀ field ∈ targetFields type,
    field.path = ["obfs", "type"] → ["obfs"] ∉ (targetFields type).map FieldSpec.path := by
  decide +kernel

/-- A type with a field below `obfs` has none of that name, so that the whole object goes. -/
theorem stripped_obfs {object : Object} {type : String}
    (h : ["obfs"] ∉ (targetFields type).map FieldSpec.path) :
    getPath ((stripped object type).insert "type" (.str type)) ["obfs", "type"] = .undefined := by
  have hobfs : ["obfs"] ∈ knownPaths := by decide +kernel
  have htype : ["obfs", "type"] ∈ knownPaths := by decide +kernel
  have hgone := stripped_foreign object hobfs h
  rw [getPath_retyped (mem_removablePaths_of_known hobfs)] at hgone
  have hnone : Read.ofOption _ = Read.ofOption none := hgone
  have hfield := Read.ofOption_injective hnone
  rw [ObjectPath.getPath_singleton] at hfield
  rw [getPath_retyped (mem_removablePaths_of_known htype), ObjectPath.getPath_toValue_cons, hfield]
  rfl

theorem optionsListed_iff (object : Object) {type : String} (htype : type ∈ outboundTypes) :
    OptionsListed ((stripped object type).insert "type" (.str type)) type ↔
      ListedBefore object type := by
  constructor
  · intro h field hfield hselect v hv hmatches
    exact h field hfield hselect.1 v ((stripped_select htype hfield hselect v).mpr ⟨hv, hmatches⟩)
  · intro h field hfield hkind v hv
    by_cases hselect : SurvivingSelect field
    · obtain ⟨hbefore, hmatches⟩ := (stripped_select htype hfield hselect v).mp hv
      exact h field hfield hselect v hbefore hmatches
    · have hgone : getPath ((stripped object type).insert "type" (.str type)) field.path =
          .undefined := by
        by_cases hcredential : field.path ∈ credentialPaths
        · apply (typeChanged_stripped object htype).credentials
          exact List.mem_append_left _ hcredential
        · have hobfs : field.path = ["obfs", "type"] :=
            not_not.mp fun hne => hselect ⟨hkind, hcredential, hne⟩
          rw [hobfs]
          exact stripped_obfs (obfs_foreign type htype field hfield hobfs)
      rw [hgone] at hv
      cases hv

theorem changeOutboundType_eq_stripped (formatNumber : Rat → String) {object : Object}
    {type previous : String} (hprevious : typeText formatNumber object = some previous)
    (hne : previous ≠ type) :
    changeOutboundType formatNumber object type =
      some ((stripped object type).insert "type" (.str type)) :=
  changeOutboundType_eq formatNumber hprevious hne

/-- A change of type does all it should if and only if the type of the object has a text and no
scalar that a select field of the new type takes over is missing from its options. -/
theorem changeOutboundType_iff (formatNumber : Rat → String) (object : Object) {type : String}
    (htype : type ∈ outboundTypes) (hne : typeText formatNumber object ≠ some type) :
    (∃ next, changeOutboundType formatNumber object type = some next ∧
        TypeChanged object next type ∧ OptionsListed next type) ↔
      typeText formatNumber object ≠ none ∧ ListedBefore object type := by
  cases hprevious : typeText formatNumber object with
  | none =>
    constructor
    · rintro ⟨next, hnext, -⟩
      rw [changeOutboundType, hprevious] at hnext
      cases hnext
    · exact fun h => absurd rfl h.1
  | some previous =>
    have heq := changeOutboundType_eq_stripped formatNumber hprevious fun h =>
      hne (hprevious.trans (congrArg some h))
    rw [heq]
    constructor
    · rintro ⟨next, hnext, -, hlisted⟩
      obtain rfl := Option.some.inj hnext
      exact ⟨Option.some_ne_none previous, (optionsListed_iff object htype).mp hlisted⟩
    · rintro ⟨-, hlisted⟩
      exact ⟨_, rfl, typeChanged_stripped object htype,
        (optionsListed_iff object htype).mpr hlisted⟩

/-- From VMess to VLESS an encoding that both know stays. -/
theorem changeOutboundType_iff_vless :
    ∃ next, changeOutboundType (fun _ => "") (Std.ExtTreeMap.ofList [("type", .str "vmess"),
        ("packet_encoding", .str "xudp"), ("tag", .str "proxy")] compare) "vless" = some next ∧
      TypeChanged (Std.ExtTreeMap.ofList [("type", .str "vmess"),
        ("packet_encoding", .str "xudp"), ("tag", .str "proxy")] compare) next "vless" ∧
      OptionsListed next "vless" := by
  apply (changeOutboundType_iff (fun _ => "") _ (by decide) (by decide)).mpr
  refine ⟨by decide, fun field hfield hselect v hv _ => ?_⟩
  have hfields : targetFields "vless" = vlessFields := rfl
  rw [hfields, vlessFields] at hfield
  simp only [List.mem_cons, List.not_mem_nil, or_false] at hfield
  obtain rfl | rfl | rfl | rfl := hfield
  · cases hselect.1
  · exact absurd (by decide : ["flow"] ∈ credentialPaths) hselect.2.1
  · cases hselect.1
  · obtain rfl := Read.value.inj hv
    exact ⟨"xudp", by decide, rfl⟩

/-- From ShadowTLS to SOCKS the version 3 stays, which SOCKS does not have. -/
theorem changeOutboundType_unlisted :
    ¬ ∃ next, changeOutboundType (fun _ => "") (Std.ExtTreeMap.ofList [("type", .str "shadowtls"),
        ("version", .float 3)] compare) "socks" = some next ∧
      TypeChanged (Std.ExtTreeMap.ofList [("type", .str "shadowtls"),
        ("version", .float 3)] compare) next "socks" ∧
      OptionsListed next "socks" := by
  rintro ⟨next, hnext, -, hlisted⟩
  rw [changeOutboundType_eq_stripped (fun _ => "") (by rfl : _ = some "shadowtls") (by decide)]
    at hnext
  obtain rfl := Option.some.inj hnext
  have hbefore := (optionsListed_iff _ (by decide)).mp hlisted
  have hversion :
      ({ path := ["version"], kind := .select, options := ["4", "4a", "5"] } : FieldSpec) ∈
        targetFields "socks" := List.mem_cons_self
  obtain ⟨option, -, hoption⟩ := hbefore _ hversion (by decide) (.float 3) rfl rfl
  cases hoption

end Boxui.UI.OutboundForm
