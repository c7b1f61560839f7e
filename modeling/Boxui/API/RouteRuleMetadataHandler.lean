import Boxui.API.ConfigDefaults

/-! The handlers that list and store the names of the route rules. They work on the rules that
the configuration file has when they run. -/
namespace Boxui.API
open GoValue Boxui.Core RouteRuleMetadataManager

variable {Bytes Text : Type*}

/-- The bucket of the names, and whether the default names were given. -/
structure RouteRuleMetadataStore where
  bucket : RouteRuleMetadataBucket
  initialized : Bool

/-- How the calls of a handler turn out; `true` is a failure. -/
structure MetadataOutcome where
  readConfig : Bool
  nameDefaults : Bool
  markInitialized : Bool
  list : Bool
  save : Bool

/-- No call fails. -/
def MetadataOutcome.clean : MetadataOutcome := ⟨false, false, false, false, false⟩

namespace ConfigHandler

def routeRules (codec : JSONCodec Bytes) (readFails : Bool) (dir : Directory Bytes) :
    Option (List Value) :=
  if readFails then none
  else (storedConfig codec dir).map DefaultRouteInstaller.existingRules

def getRouteRuleMetadata (codec : JSONCodec Bytes) (d : Digest Text) (formatFloat : Rat → String)
    (o : MetadataOutcome) (dir : Directory Bytes) (m : RouteRuleMetadataStore) :
    RouteRuleMetadataStore × Except ConfigResponse (List RouteRuleMetadata) :=
  match routeRules codec o.readConfig dir with
  | none => (m, .error (.error 500 "internal_error" "failed to load route rules"))
  | some rules =>
    let failed := ConfigResponse.error 500 "internal_error"
      "failed to initialize route rule metadata"
    if o.nameDefaults then (m, .error failed)
    else
      match initializeDefaultNames d formatFloat rules o.markInitialized m.initialized
        m.bucket with
      | (initialized, bucket, .error _) => (⟨bucket, initialized⟩, .error failed)
      | (initialized, bucket, .ok ()) =>
        if o.list then
          (⟨bucket, initialized⟩,
            .error (.error 500 "internal_error" "failed to load route rule metadata"))
        else (⟨bucket, initialized⟩, .ok (list d rules bucket))

/-- `body` is the decoded request, unless it does not decode. -/
def updateRouteRuleMetadata (codec : JSONCodec Bytes) (d : Digest Text)
    (body : Option (List RouteRuleMetadata)) (o : MetadataOutcome) (dir : Directory Bytes)
    (m : RouteRuleMetadataStore) :
    RouteRuleMetadataStore × Except ConfigResponse (List RouteRuleMetadata) :=
  match body with
  | none => (m, .error (.error 400 "invalid_request" "invalid route rule metadata"))
  | some metadata =>
    match routeRules codec o.readConfig dir with
    | none => (m, .error (.error 500 "internal_error" "failed to load route rules"))
    | some rules =>
      match save d rules metadata m.bucket with
      | .error message => (m, .error (.error 400 "invalid_request" message))
      | .ok bucket =>
        if o.save then
          (m, .error (.error 500 "internal_error" "failed to save route rule metadata"))
        else if o.list then
          ({ m with bucket := bucket },
            .error (.error 500 "internal_error" "failed to load saved route rule metadata"))
        else ({ m with bucket := bucket }, .ok (list d rules bucket))

theorem routeRules_eq_some {codec : JSONCodec Bytes} {readFails : Bool} {dir : Directory Bytes}
    {rules : List Value} (h : routeRules codec readFails dir = some rules) :
    routeRules codec false dir = some rules := by
  cases readFails with
  | false => exact h
  | true => cases h

/-- An answer lists the stored names, with the default ones given if they had not been. -/
theorem getRouteRuleMetadata_ok {codec : JSONCodec Bytes} {d : Digest Text}
    {formatFloat : Rat → String} {o : MetadataOutcome} {dir : Directory Bytes}
    {m m' : RouteRuleMetadataStore} {metadata : List RouteRuleMetadata}
    (h : getRouteRuleMetadata codec d formatFloat o dir m = (m', .ok metadata)) :
    ∃ rules, routeRules codec false dir = some rules ∧ metadata = list d rules m'.bucket ∧
      m'.initialized = true ∧ (m.initialized = true ∧ m'.bucket = m.bucket ∨
        m.initialized = false ∧
          applyDefaultNames d formatFloat rules m.bucket = .ok m'.bucket) := by
  unfold getRouteRuleMetadata at h
  cases hrules : routeRules codec o.readConfig dir with
  | none =>
    rw [hrules] at h
    cases h
  | some rules =>
    refine ⟨rules, routeRules_eq_some hrules, ?_⟩
    rw [hrules] at h
    dsimp only at h
    split at h
    · cases h
    · rcases hnames : initializeDefaultNames d formatFloat rules o.markInitialized m.initialized
        m.bucket with ⟨initialized, bucket, e | u⟩
      · rw [hnames] at h
        cases h
      · rw [hnames] at h
        dsimp only at h
        split at h <;> cases h
        exact ⟨rfl, initializeDefaultNames_ok hnames⟩

theorem updateRouteRuleMetadata_ok {codec : JSONCodec Bytes} {d : Digest Text}
    {body : Option (List RouteRuleMetadata)} {o : MetadataOutcome} {dir : Directory Bytes}
    {m m' : RouteRuleMetadataStore} {saved : List RouteRuleMetadata}
    (h : updateRouteRuleMetadata codec d body o dir m = (m', .ok saved)) :
    ∃ metadata rules, body = some metadata ∧ routeRules codec false dir = some rules ∧
      save d rules metadata m.bucket = .ok m'.bucket ∧ m'.initialized = m.initialized := by
  unfold updateRouteRuleMetadata at h
  cases body with
  | none => cases h
  | some metadata =>
    dsimp only at h
    cases hrules : routeRules codec o.readConfig dir with
    | none =>
      rw [hrules] at h
      cases h
    | some rules =>
      refine ⟨metadata, rules, rfl, routeRules_eq_some hrules, ?_⟩
      rw [hrules] at h
      dsimp only at h
      cases hsave : save d rules metadata m.bucket with
      | error message =>
        rw [hsave] at h
        cases h
      | ok bucket =>
        rw [hsave] at h
        dsimp only at h
        split_ifs at h <;> cases h
        exact ⟨rfl, rfl⟩

end ConfigHandler

end Boxui.API
