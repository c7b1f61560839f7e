import Boxui.UI.InboundForm
import Boxui.UI.OutboundTypeChange

/-! Changing the type of an inbound in its form, and chains of such changes. -/
namespace Boxui.UI.InboundForm
open GoValue JSValue Forms
open OutboundForm (typeText removeFields removeFields_eq)

/-- The fields of the previous type that are removed: `users` always, the others unless the new
type has a field of the same path and kind. -/
def droppedFields (type : String) : List FieldSpec → Option (List FieldSpec)
  | [] => some []
  | field :: fields =>
    (if field.path = ["users"] then some true
      else (protocolFields type).map fun target => !target.any fun candidate =>
        candidate.path == field.path && candidate.kind == field.kind).bind
      fun dropped => (droppedFields type fields).map fun rest =>
        if dropped then field :: rest else rest

def changeInboundType (formatNumber : Rat → String) (object : Object) (type : String) :
    Option Object :=
  (typeText formatNumber object).bind fun previous =>
    if previous = type then some object
    else
      let next := if previous = "tun" ∧ type ≠ "tun" then
          removeFields object (tunFields.filter fun field => field.path != ["udp_timeout"])
        else object
      let next := if previous ≠ "tun" ∧ type = "tun" then
          removeFields next (listenFields.filter fun field => field.path != ["udp_timeout"])
        else next
      (protocolFields previous).bind fun fields => (droppedFields type fields).map fun dropped =>
        let next := removeFields next dropped
        let next := if previous ∈ tlsTypes ∧ type ∉ tlsTypes then setPath next ["tls"] none
          else next
        let next := if previous ∈ transportTypes ∧ type ∉ transportTypes then
            setPath next ["transport"] none
          else next
        let next := if previous ∈ multiplexTypes ∧ type ∉ multiplexTypes then
            setPath next ["multiplex"] none
          else next
        next.insert "type" (.str type)

/-- One change after the other. -/
def changeTypes (formatNumber : Rat → String) : Object → List String → Option Object
  | object, [] => some object
  | object, type :: types =>
    (changeInboundType formatNumber object type).bind fun next =>
      changeTypes formatNumber next types

/-! ### One change as removals -/

def otherThanTimeout (fields : List FieldSpec) : List (List String) :=
  (fields.filter fun field => field.path != ["udp_timeout"]).map FieldSpec.path

/-- The paths of the previous type's fields that go. -/
def droppedPaths (fields target : List FieldSpec) : List (List String) :=
  (fields.filter fun field => field.path == ["users"] ||
    !target.any fun candidate => candidate.path == field.path && candidate.kind == field.kind).map
      FieldSpec.path

def strippedPaths (previous type : String) (fields target : List FieldSpec) :
    List (List String) :=
  (if previous = "tun" ∧ type ≠ "tun" then otherThanTimeout tunFields else []) ++
    (if previous ≠ "tun" ∧ type = "tun" then otherThanTimeout listenFields else []) ++
    droppedPaths fields target ++
    (if previous ∈ tlsTypes ∧ type ∉ tlsTypes then [["tls"]] else []) ++
    (if previous ∈ transportTypes ∧ type ∉ transportTypes then [["transport"]] else []) ++
    (if previous ∈ multiplexTypes ∧ type ∉ multiplexTypes then [["multiplex"]] else [])

theorem droppedFields_eq {type : String} {target : List FieldSpec}
    (h : protocolFields type = some target) (fields : List FieldSpec) :
    droppedFields type fields = some (fields.filter fun field => field.path == ["users"] ||
      !target.any fun candidate =>
        candidate.path == field.path && candidate.kind == field.kind) := by
  induction fields with
  | nil => rfl
  | cons field fields ih =>
    rw [droppedFields, ih, h, List.filter_cons]
    by_cases husers : field.path = ["users"]
    · simp [husers]
    · simp only [if_neg husers, Option.map_some, Option.bind_some, beq_eq_false_iff_ne.mpr husers,
        Bool.false_or]

theorem changeInboundType_eq (formatNumber : Rat → String) {object : Object}
    {previous type : String} {fields target : List FieldSpec}
    (hprevious : typeText formatNumber object = some previous) (hne : previous ≠ type)
    (hfields : protocolFields previous = some fields)
    (htarget : protocolFields type = some target) :
    changeInboundType formatNumber object type =
      some ((ObjectPath.removeAll (strippedPaths previous type fields target) object).insert "type"
        (.str type)) := by
  have hone : ∀ (m : Object) (path : List String),
      setPath m path none = ObjectPath.removeAll [path] m := by
    intro m path
    exact setPath_eq_set m path none
  rw [changeInboundType, hprevious, Option.bind_some, if_neg hne, hfields, Option.bind_some,
    droppedFields_eq htarget, Option.map_some]
  dsimp only
  simp only [removeFields_eq, hone, strippedPaths, ObjectPath.removeAll_append,
    ObjectPath.removeAll_ite, otherThanTimeout, droppedPaths]

/-! ### The fields a type supports -/

/-- The paths of all fields the registries know. -/
def knownPaths : List (List String) :=
  (protocolMap.flatMap Prod.snd ++ tunFields ++ listenFields ++ tlsFields ++ transportFields ++
    transportByType.flatMap Prod.snd ++ multiplexFields).map FieldSpec.path

def supportedPaths (type : String) : List (List String) :=
  ((protocolFields type).getD [] ++ (if type = "tun" then tunFields else listenFields) ++
    (if type ∈ tlsTypes then tlsFields else []) ++
    (if type ∈ transportTypes then transportFields ++ transportByType.flatMap Prod.snd else []) ++
    (if type ∈ multiplexTypes then multiplexFields else [])).map FieldSpec.path

def registryKeys : List String := "type" :: knownPaths.filterMap List.head?

/-- A field has a value. An object at `obfs` is no value of the text field of that name, but
where the fields below it lie. -/
def HoldsField (object : Object) (path : List String) : Prop :=
  ∃ v, getPath object path = .value v ∧ (path = ["obfs"] → v.asMap? = none)

/-- The object has no known field that the type does not support. -/
def Clean (type : String) (object : Object) : Prop :=
  ∀ path ∈ knownPaths, path ∉ supportedPaths type → ¬ HoldsField object path

theorem knownPaths_plain : ∀ path ∈ knownPaths, PlainPath path ∧
    ObjectPath.Apart ["type"] path ∧ path.head?.any (· ∈ registryKeys) = true := by
  decide +kernel

theorem getPath_retyped {path : List String} (hpath : path ∈ knownPaths) (m : Object)
    (type : String) :
    getPath (m.insert "type" (.str type)) path =
      Read.ofOption (ObjectPath.getPath m.toValue path) := by
  obtain ⟨hplain, hapart, -⟩ := knownPaths_plain path hpath
  rw [getPath_eq _ hplain.2]
  exact congrArg Read.ofOption
    (ObjectPath.getPath_set_of_apart m hapart (some (Value.str type)))

/-- Removals give no field a value. -/
theorem holdsField_of_removeAll {path : List String} (hpath : path ∈ knownPaths)
    {paths : List (List String)} {m : Object} {type : String}
    (h : HoldsField ((ObjectPath.removeAll paths m).insert "type" (.str type)) path) :
    HoldsField m path := by
  obtain ⟨v, hv, hobfs⟩ := h
  rw [getPath_retyped hpath] at hv
  have hread : Read.ofOption _ = Read.ofOption (some v) := hv
  have hvalue := Read.ofOption_injective hread
  have hplain := (knownPaths_plain path hpath).1.2
  obtain hnone | hsame | ⟨m₀, m₁, w, hw, -, hm₁⟩ := ObjectPath.getPath_removeAll paths path m
  · rw [hnone] at hvalue
    cases hvalue
  · exact ⟨v, by rw [getPath_eq m hplain, ← hsame, hvalue]; rfl, hobfs⟩
  · refine ⟨w, by rw [getPath_eq m hplain, hw]; rfl, fun heq => ?_⟩
    rw [hm₁] at hvalue
    obtain rfl := Option.some.inj hvalue
    have hnone := hobfs heq
    rw [Value.asMap?_toValue] at hnone
    cases hnone

theorem timeout_supported (type : String) : ["udp_timeout"] ∈ supportedPaths type := by
  have hmem : ["udp_timeout"] ∈
      (if type = "tun" then tunFields else listenFields).map FieldSpec.path := by
    split_ifs <;> decide
  rw [supportedPaths, List.map_append, List.map_append, List.map_append, List.map_append]
  simp only [List.mem_append, hmem, true_or, or_true]

theorem mem_otherThanTimeout {fields : List FieldSpec} {path : List String}
    (h : path ∈ fields.map FieldSpec.path) (hne : path ≠ ["udp_timeout"]) :
    path ∈ otherThanTimeout fields := by
  obtain ⟨field, hfield, rfl⟩ := List.mem_map.mp h
  exact List.mem_map_of_mem (List.mem_filter.mpr ⟨hfield, bne_iff_ne.mpr hne⟩)

theorem prefix_of_nested : (∀ field ∈ tlsFields, ["tls"] <+: field.path) ∧
    (∀ field ∈ transportFields ++ transportByType.flatMap Prod.snd,
      ["transport"] <+: field.path) ∧
    ∀ field ∈ multiplexFields, ["multiplex"] <+: field.path := by
  decide

theorem mem_knownPaths_of_protocol {type : String} {fields : List FieldSpec}
    (h : protocolFields type = some fields) {field : FieldSpec} (hfield : field ∈ fields) :
    field.path ∈ knownPaths := by
  have hmem := mem_flatMap_of_entry h hfield
  apply List.mem_map_of_mem
  simp only [List.mem_append, hmem, true_or]

/-- A nested part that only the previous type has. -/
theorem nested_gone {previous type : String} {types : List String} {part : List FieldSpec}
    {path : List String}
    (hprevious : path ∈ (if previous ∈ types then part else []).map FieldSpec.path)
    (htype : path ∉ (if type ∈ types then part else []).map FieldSpec.path) :
    previous ∈ types ∧ type ∉ types ∧ path ∈ part.map FieldSpec.path := by
  split_ifs at hprevious with h
  · refine ⟨h, fun hmem => ?_, hprevious⟩
    rw [if_pos hmem] at htype
    exact htype hprevious
  · cases hprevious

/-- A path that the previous type supports and the new one does not lies at or below one that is
removed. -/
theorem stripped_covers {previous type : String} {fields target : List FieldSpec}
    (hfields : protocolFields previous = some fields) (htarget : protocolFields type = some target)
    {path : List String} (hsupported : path ∈ supportedPaths previous)
    (hunsupported : path ∉ supportedPaths type) :
    ∃ p ∈ strippedPaths previous type fields target, p ≠ [] ∧ p <+: path := by
  have htimeout : path ≠ ["udp_timeout"] := fun h => hunsupported (h ▸ timeout_supported type)
  simp only [supportedPaths, List.map_append, List.mem_append, hfields, htarget, Option.getD_some,
    not_or] at hsupported hunsupported
  obtain ⟨⟨⟨⟨hprotocol, hbase⟩, htls⟩, htransport⟩, hmultiplex⟩ := hunsupported
  obtain (((hmem | hmem) | hmem) | hmem) | hmem := hsupported
  · obtain ⟨field, hfield, rfl⟩ := List.mem_map.mp hmem
    have hgone : field.path ∈ droppedPaths fields target := by
      apply List.mem_map_of_mem
      rw [List.mem_filter, Bool.or_eq_true, Bool.not_eq_true', List.any_eq_false]
      refine ⟨hfield, .inr fun candidate hcandidate hsame => hprotocol ?_⟩
      rw [Bool.and_eq_true, beq_iff_eq] at hsame
      exact hsame.1 ▸ List.mem_map_of_mem hcandidate
    exact ⟨field.path, by simp only [strippedPaths, List.mem_append, hgone, true_or, or_true],
      (knownPaths_plain _ (mem_knownPaths_of_protocol hfields hfield)).1.1, List.prefix_rfl⟩
  · by_cases htun : previous = "tun"
    · rw [if_pos htun] at hmem
      have htype : type ≠ "tun" := by
        intro h
        rw [if_pos h] at hbase
        exact hbase hmem
      have hgone := mem_otherThanTimeout hmem htimeout
      refine ⟨path, ?_, ?_, List.prefix_rfl⟩
      · rw [strippedPaths, if_pos ⟨htun, htype⟩]
        simp only [List.mem_append, hgone, true_or]
      · rintro rfl
        exact absurd hmem (by decide)
    · rw [if_neg htun] at hmem
      have htype : type = "tun" := by
        by_contra h
        rw [if_neg h] at hbase
        exact hbase hmem
      have hgone := mem_otherThanTimeout hmem htimeout
      refine ⟨path, ?_, ?_, List.prefix_rfl⟩
      · rw [strippedPaths, if_pos (show previous ≠ "tun" ∧ type = "tun" from ⟨htun, htype⟩)]
        simp only [List.mem_append, hgone, true_or, or_true]
      · rintro rfl
        exact absurd hmem (by decide)
  · obtain ⟨hprevious, htype, hpart⟩ := nested_gone hmem htls
    obtain ⟨field, hfield, rfl⟩ := List.mem_map.mp hpart
    refine ⟨["tls"], ?_, List.cons_ne_nil _ _, prefix_of_nested.1 field hfield⟩
    simp only [strippedPaths, List.mem_append, if_pos (And.intro hprevious htype),
      List.mem_singleton, true_or, or_true]
  · obtain ⟨hprevious, htype, hpart⟩ := nested_gone hmem htransport
    obtain ⟨field, hfield, rfl⟩ := List.mem_map.mp hpart
    refine ⟨["transport"], ?_, List.cons_ne_nil _ _, prefix_of_nested.2.1 field hfield⟩
    simp only [strippedPaths, List.mem_append, if_pos (And.intro hprevious htype),
      List.mem_singleton, true_or, or_true]
  · obtain ⟨hprevious, htype, hpart⟩ := nested_gone hmem hmultiplex
    obtain ⟨field, hfield, rfl⟩ := List.mem_map.mp hpart
    refine ⟨["multiplex"], ?_, List.cons_ne_nil _ _, prefix_of_nested.2.2 field hfield⟩
    simp only [strippedPaths, List.mem_append, if_pos (And.intro hprevious htype),
      List.mem_singleton, or_true]

/-! ### Chains of changes -/

/-- One change takes a clean object to a clean object of the new type. -/
theorem clean_step {previous type : String} {fields target : List FieldSpec}
    (hfields : protocolFields previous = some fields) (htarget : protocolFields type = some target)
    {object : Object} (h : Clean previous object) :
    Clean type ((ObjectPath.removeAll (strippedPaths previous type fields target) object).insert
      "type" (.str type)) := by
  intro path hpath hunsupported hholds
  by_cases hsupported : path ∈ supportedPaths previous
  · obtain ⟨p, hp, hne, hprefix⟩ := stripped_covers hfields htarget hsupported hunsupported
    obtain ⟨v, hv, -⟩ := hholds
    rw [getPath_retyped hpath, ObjectPath.getPath_removeAll_of_prefix hne hp hprefix] at hv
    cases hv
  · exact h path hpath hsupported (holdsField_of_removeAll hpath hholds)

theorem stripped_known {previous type : String} {fields target : List FieldSpec}
    (hfields : protocolFields previous = some fields) {p : List String}
    (h : p ∈ strippedPaths previous type fields target) :
    ∃ k rest, p = k :: rest ∧ k ∈ registryKeys := by
  have hhead : ∀ q ∈ knownPaths, ∃ k rest, q = k :: rest ∧ k ∈ registryKeys := by
    intro q hq
    obtain ⟨⟨hne, -⟩, -, hhead⟩ := knownPaths_plain q hq
    obtain ⟨k, rest, rfl⟩ := List.exists_cons_of_ne_nil hne
    exact ⟨k, rest, rfl, of_decide_eq_true hhead⟩
  have hpart : ∀ part : List FieldSpec, (∀ field ∈ part, field.path ∈ knownPaths) →
      p ∈ part.map FieldSpec.path → ∃ k rest, p = k :: rest ∧ k ∈ registryKeys := by
    intro part hknown hmem
    obtain ⟨field, hfield, rfl⟩ := List.mem_map.mp hmem
    exact hhead _ (hknown field hfield)
  have hmap : ∀ part : List FieldSpec, (∀ field ∈ part, field ∈ tunFields ++ listenFields) →
      ∀ field ∈ part, field.path ∈ knownPaths := by
    intro part hsub field hfield
    have hmem := hsub field hfield
    apply List.mem_map_of_mem
    simp only [List.mem_append] at hmem ⊢
    tauto
  simp only [strippedPaths, List.mem_append] at h
  obtain ((((h | h) | h) | h) | h) | h := h
  · split_ifs at h
    · refine hpart _ (hmap _ fun field hfield => ?_) h
      exact List.mem_append_left _ (List.mem_filter.mp hfield).1
    · cases h
  · split_ifs at h
    · refine hpart _ (hmap _ fun field hfield => ?_) h
      exact List.mem_append_right _ (List.mem_filter.mp hfield).1
    · cases h
  · refine hpart _ (fun field hfield => ?_) h
    exact mem_knownPaths_of_protocol hfields (List.mem_filter.mp hfield).1
  all_goals
    split_ifs at h
    · obtain rfl := List.mem_singleton.mp h
      exact ⟨_, [], rfl, by decide⟩
    · cases h

/-- No change touches a key outside the registries. -/
theorem unknown_step {previous type : String} {fields target : List FieldSpec}
    (hfields : protocolFields previous = some fields) (object : Object) {key : String}
    (hkey : key ∉ registryKeys) :
    ((ObjectPath.removeAll (strippedPaths previous type fields target) object).insert
      "type" (.str type))[key]? = object[key]? := by
  have htype : "type" ≠ key := by
    rintro rfl
    exact hkey List.mem_cons_self
  rw [GoMap.getElem?_insert, if_neg htype, ← ObjectPath.getPath_singleton,
    ← ObjectPath.getPath_singleton]
  apply ObjectPath.getPath_removeAll_of_apart
  intro p hp
  obtain ⟨k, rest, rfl, hk⟩ := stripped_known hfields hp
  apply ObjectPath.apart_of_head_ne
  rintro rfl
  exact hkey hk

/-- Where a user list or a password lies. -/
def secretPaths : List (List String) := [["users"], ["password"], ["obfs", "password"]]

def passwordTypes : List String := ["shadowsocks", "shadowtls"]

/-- A change between the two types with a password field, while there is a password. -/
def CarriesPassword (previous type : String) (object : Object) : Prop :=
  previous ≠ type ∧ previous ∈ passwordTypes ∧ type ∈ passwordTypes ∧
    getPath object ["password"] ≠ .undefined

theorem secretPaths_known : ∀ path ∈ secretPaths, path ∈ knownPaths ∧ path ≠ ["obfs"] := by
  decide

theorem secretPaths_protocol : ∀ path ∈ secretPaths,
    path ∉ tunFields.map FieldSpec.path ∧ path ∉ listenFields.map FieldSpec.path ∧
    path ∉ tlsFields.map FieldSpec.path ∧ path ∉ multiplexFields.map FieldSpec.path ∧
    path ∉ (transportFields ++ transportByType.flatMap Prod.snd).map FieldSpec.path := by
  decide

theorem password_types : ∀ entry ∈ protocolMap,
    (["password"] ∈ entry.2.map FieldSpec.path → entry.1 ∈ passwordTypes) ∧
    (["obfs", "password"] ∈ entry.2.map FieldSpec.path → entry.1 = "hysteria2") := by
  decide

theorem mem_protocol_of_supported {path : List String} (hpath : path ∈ secretPaths)
    {type : String} {fields : List FieldSpec} (hfields : protocolFields type = some fields)
    (h : path ∈ supportedPaths type) : path ∈ fields.map FieldSpec.path := by
  obtain ⟨htun, hlisten, htls, hmultiplex, htransport⟩ := secretPaths_protocol path hpath
  simp only [supportedPaths, List.map_append, List.mem_append, hfields, Option.getD_some] at h
  obtain (((h | h) | h) | h) | h := h
  · exact h
  · split_ifs at h
    · exact absurd h htun
    · exact absurd h hlisten
  · split_ifs at h
    · exact absurd h htls
    · cases h
  · split_ifs at h
    · exact absurd h htransport
    · cases h
  · split_ifs at h
    · exact absurd h hmultiplex
    · cases h

theorem entry_of_supported {path : List String} (hpath : path ∈ secretPaths) {type : String}
    {fields : List FieldSpec} (hfields : protocolFields type = some fields)
    (h : path ∈ supportedPaths type) :
    (type, fields) ∈ protocolMap ∧ path ∈ fields.map FieldSpec.path := by
  have hmem := mem_protocol_of_supported hpath hfields h
  obtain ⟨field, hfield, -⟩ := List.mem_map.mp hmem
  exact ⟨mem_of_entry hfields hfield, hmem⟩

theorem undefined_of_not_holds {path : List String} (hpath : path ∈ secretPaths)
    {object : Object} (h : ¬ HoldsField object path) : getPath object path = .undefined := by
  obtain ⟨hknown, hobfs⟩ := secretPaths_known path hpath
  rw [getPath_eq object (knownPaths_plain path hknown).1.2]
  cases hv : ObjectPath.getPath object.toValue path with
  | none => rfl
  | some v =>
    refine absurd ⟨v, ?_, fun heq => absurd heq hobfs⟩ h
    rw [getPath_eq object (knownPaths_plain path hknown).1.2, hv]
    rfl

/-- What is undefined before a change is undefined after it. -/
theorem undefined_step {path : List String} (hpath : path ∈ knownPaths) {object : Object}
    (h : getPath object path = .undefined) (paths : List (List String)) (type : String) :
    getPath ((ObjectPath.removeAll paths object).insert "type" (.str type)) path = .undefined := by
  rw [getPath_eq object (knownPaths_plain path hpath).1.2] at h
  have hnone : Read.ofOption _ = Read.ofOption none := h
  rw [getPath_retyped hpath,
    ObjectPath.getPath_removeAll_of_eq_none paths (Read.ofOption_injective hnone)]
  rfl

/-- After a change from a clean object no secret of the previous type is left. -/
theorem secrets_step {previous type : String} {fields target : List FieldSpec}
    (hne : previous ≠ type) (hfields : protocolFields previous = some fields)
    (htarget : protocolFields type = some target) {object : Object} (h : Clean previous object)
    (hsafe : ¬ CarriesPassword previous type object) {path : List String}
    (hpath : path ∈ secretPaths) :
    getPath ((ObjectPath.removeAll (strippedPaths previous type fields target) object).insert
      "type" (.str type)) path = .undefined := by
  obtain ⟨hknown, -⟩ := secretPaths_known path hpath
  by_cases htype : path ∈ supportedPaths type
  · by_cases hprevious : path ∈ supportedPaths previous
    · obtain ⟨hentry, hmem⟩ := entry_of_supported hpath hfields hprevious
      obtain ⟨hentry', hmem'⟩ := entry_of_supported hpath htarget htype
      have hcases : path = ["users"] ∨ path = ["password"] ∨ path = ["obfs", "password"] := by
        simpa only [secretPaths, List.mem_cons, List.not_mem_nil, or_false] using hpath
      obtain rfl | rfl | rfl := hcases
      · have hgone : ["users"] ∈ strippedPaths previous type fields target := by
          obtain ⟨field, hfield, heq⟩ := List.mem_map.mp hmem
          have hdropped : ["users"] ∈ droppedPaths fields target := by
            rw [← heq]
            exact List.mem_map_of_mem (List.mem_filter.mpr ⟨hfield, by rw [heq]; rfl⟩)
          simp only [strippedPaths, List.mem_append, hdropped, true_or, or_true]
        rw [getPath_retyped hknown, ObjectPath.getPath_removeAll_of_mem (by decide) hgone]
        rfl
      · apply undefined_step hknown
        by_contra hdefined
        exact hsafe ⟨hne, (password_types _ hentry).1 hmem, (password_types _ hentry').1 hmem',
          hdefined⟩
      · have h₁ := (password_types _ hentry).2 hmem
        have h₂ := (password_types _ hentry').2 hmem'
        exact absurd (h₁.trans h₂.symm) hne
    · exact undefined_step hknown (undefined_of_not_holds hpath (h path hknown hprevious)) _ type
  · exact undefined_of_not_holds hpath (clean_step hfields htarget h path hknown htype)

/-- No step of the chain carries a password over. -/
def Allowed (formatNumber : Rat → String) : Object → List String → Prop
  | _, [] => True
  | object, type :: types =>
    (∀ previous, typeText formatNumber object = some previous →
      ¬ CarriesPassword previous type object) ∧
    ∀ next, changeInboundType formatNumber object type = some next →
      Allowed formatNumber next types

/-- What a chain of changes from one type to the last of the chain comes to. -/
structure Followed (formatNumber : Rat → String) (previous : String) (types : List String)
    (object result : Object) : Prop where
  type_eq : typeText formatNumber result = some (types.getLastD previous)
  unknown : ∀ key : String, key ∉ registryKeys → result[key]? = object[key]?
  clean : Clean (types.getLastD previous) result
  secrets : (∃ type ∈ types, type ≠ previous) → ∀ path ∈ secretPaths,
    getPath result path = .undefined

theorem typeText_retyped (formatNumber : Rat → String) (m : Object) (type : String) :
    typeText formatNumber (m.insert "type" (.str type)) = some type := by
  rw [typeText, GoMap.getElem?_insert, if_pos rfl]
  rfl

theorem changeTypes_run (formatNumber : Rat → String) {object : Object} {previous : String}
    (hprevious : typeText formatNumber object = some previous) (hname : previous ∉ inheritedNames)
    (hclean : Clean previous object) {types : List String}
    (hnames : ∀ type ∈ types, type ∉ inheritedNames)
    (hallowed : Allowed formatNumber object types) :
    ∃ result, changeTypes formatNumber object types = some result ∧
      Followed formatNumber previous types object result ∧
      ∀ path ∈ secretPaths, getPath object path = .undefined →
        getPath result path = .undefined := by
  induction types generalizing object previous with
  | nil =>
    refine ⟨object, rfl, ⟨hprevious, fun _ _ => rfl, hclean, ?_⟩, fun _ _ h => h⟩
    rintro ⟨type, htype, -⟩
    cases htype
  | cons type types ih =>
    obtain ⟨htype, hothers⟩ := List.forall_mem_cons.mp hnames
    obtain ⟨hsafe, hrest⟩ := hallowed
    have hlast : (type :: types).getLastD previous = types.getLastD type := by
      cases types <;> rfl
    rw [changeTypes]
    by_cases hsame : previous = type
    · have hstep : changeInboundType formatNumber object type = some object := by
        rw [changeInboundType, hprevious, Option.bind_some, if_pos hsame]
      obtain rfl := hsame
      obtain ⟨result, hresult, hfollowed, hkept⟩ :=
        ih hprevious hname hclean hothers (hrest object hstep)
      refine ⟨result, by rw [hstep, Option.bind_some, hresult], ⟨?_, hfollowed.unknown, ?_, ?_⟩,
        hkept⟩
      · exact hlast ▸ hfollowed.type_eq
      · exact hlast ▸ hfollowed.clean
      · rintro ⟨other, hother, hne⟩
        cases hother with
        | head => exact absurd rfl hne
        | tail _ hother => exact hfollowed.secrets ⟨other, hother, hne⟩
    · obtain ⟨fields, hfields⟩ := entry_ne_none protocolMap hname
      obtain ⟨target, htarget⟩ := entry_ne_none protocolMap htype
      have hstep := changeInboundType_eq formatNumber hprevious hsame hfields htarget
      have hsecrets : ∀ path ∈ secretPaths, getPath
          ((ObjectPath.removeAll (strippedPaths previous type fields target) object).insert
            "type" (.str type)) path = .undefined :=
        fun path hpath => secrets_step hsame hfields htarget hclean (hsafe previous hprevious) hpath
      obtain ⟨result, hresult, hfollowed, hkept⟩ := ih (typeText_retyped formatNumber _ type) htype
        (clean_step hfields htarget hclean) hothers (hrest _ hstep)
      refine ⟨result, by rw [hstep, Option.bind_some, hresult], ⟨?_, fun key hkey => ?_, ?_, ?_⟩,
        fun path hpath _ => hkept path hpath (hsecrets path hpath)⟩
      · exact hlast ▸ hfollowed.type_eq
      · exact (hfollowed.unknown key hkey).trans (unknown_step hfields object hkey)
      · exact hlast ▸ hfollowed.clean
      · exact fun _ path hpath => hkept path hpath (hsecrets path hpath)

/-- From a clean object, a chain of changes that carries no password over ends in a clean object
of the last type, with no secret of an earlier type and every unknown key in place. -/
theorem changeTypes_followed (formatNumber : Rat → String) {object : Object} {previous : String}
    (hprevious : typeText formatNumber object = some previous) (hname : previous ∉ inheritedNames)
    (hclean : Clean previous object) {types : List String}
    (hnames : ∀ type ∈ types, type ∉ inheritedNames)
    (hallowed : Allowed formatNumber object types) :
    ∃ result, changeTypes formatNumber object types = some result ∧
      Followed formatNumber previous types object result := by
  obtain ⟨result, hresult, hfollowed, -⟩ :=
    changeTypes_run formatNumber hprevious hname hclean hnames hallowed
  exact ⟨result, hresult, hfollowed⟩

theorem clean_of_none {type : String} {object : Object}
    (h : ∀ path ∈ knownPaths, path ∉ supportedPaths type →
      (ObjectPath.getPath object.toValue path).isNone = true) : Clean type object := by
  rintro path hpath hunsupported ⟨v, hv, -⟩
  rw [getPath_eq object (knownPaths_plain path hpath).1.2,
    Option.isNone_iff_eq_none.mp (h path hpath hunsupported)] at hv
  cases hv

theorem allowed_of_notMem (formatNumber : Rat → String) {types : List String}
    (h : ∀ type ∈ types, type ∉ passwordTypes) (object : Object) :
    Allowed formatNumber object types := by
  induction types generalizing object with
  | nil => trivial
  | cons type types ih =>
    obtain ⟨htype, hothers⟩ := List.forall_mem_cons.mp h
    exact ⟨fun _ _ hcarries => htype hcarries.2.2.1, fun next _ => ih hothers next⟩

/-- Through a type no registry knows and on to Trojan: the users are gone, and so is the TLS, which
the first step removes. The listen address and an unknown key stay. -/
theorem changeTypes_followed_trojan :
    ∃ result, changeTypes (fun _ => "") (Std.ExtTreeMap.ofList [("type", .str "vless"),
        ("users", .list [.obj [("uuid", .str "old")]]), ("listen", .str "::"),
        ("tls", .obj [("enabled", .bool true)]), ("custom", .str "keep")] compare)
        ["custom", "trojan"] = some result ∧
      Followed (fun _ => "") "vless" ["custom", "trojan"] (Std.ExtTreeMap.ofList
        [("type", .str "vless"), ("users", .list [.obj [("uuid", .str "old")]]),
        ("listen", .str "::"), ("tls", .obj [("enabled", .bool true)]),
        ("custom", .str "keep")] compare) result := by
  refine changeTypes_followed (fun _ => "") rfl (by decide) (clean_of_none ?_) (by decide)
    (allowed_of_notMem (fun _ => "") (by decide) _)
  decide +kernel

/-- A password entered for Shadowsocks is still there under ShadowTLS. -/
theorem changeTypes_carries_password :
    ¬ ∃ result, changeTypes (fun _ => "") (Std.ExtTreeMap.ofList [("type", .str "shadowsocks"),
        ("password", .str "secret")] compare) ["shadowtls"] = some result ∧
      Followed (fun _ => "") "shadowsocks" ["shadowtls"] (Std.ExtTreeMap.ofList
        [("type", .str "shadowsocks"), ("password", .str "secret")] compare) result := by
  rintro ⟨result, hresult, hfollowed⟩
  have hgone := hfollowed.secrets ⟨"shadowtls", List.mem_cons_self, by decide⟩ ["password"]
    (by decide)
  have hkept : (changeTypes (fun _ => "") (Std.ExtTreeMap.ofList [("type", .str "shadowsocks"),
      ("password", .str "secret")] compare) ["shadowtls"]).map (getPath · ["password"]) =
      some (.value (.str "secret")) := rfl
  rw [hresult, Option.map_some, hgone] at hkept
  cases hkept

end Boxui.UI.InboundForm
