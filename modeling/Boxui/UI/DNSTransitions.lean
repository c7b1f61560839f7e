import Boxui.UI.DNSForm
import Mathlib.Data.List.Nodup

/-! What a transition keeps of the fields of a DNS server, rule or action. -/
namespace Boxui.UI.DNSForm
open GoValue JSValue Forms

/-- What a transition is for. -/
inductive DNSPart where
  | server
  | rule
  | action
  deriving DecidableEq

def DNSPart.registry : DNSPart → CleanupRegistry
  | server => dnsServerCleanupFields
  | rule => dnsRuleCleanupFields
  | action => dnsActionCleanupFields

/-! ### The registries -/

theorem registry_names (part : DNSPart) :
    ∀ entry ∈ part.registry, entry.1 ∉ inheritedNames := by
  cases part <;> decide

/-- The paths of the known fields. -/
def knownPaths (part : DNSPart) : List (List String) :=
  (uniqueFields part.registry).map CleanupField.path

theorem knownPaths_separate (part : DNSPart) :
    (∀ path ∈ knownPaths part, PlainPath path ∧ path ≠ ["domain_resolver"]) ∧
      (knownPaths part).Pairwise ObjectPath.Apart := by
  cases part <;> decide +kernel

theorem notBelow_domainResolver (part : DNSPart) :
    ∀ known ∈ knownPaths part, ¬ known <+: ["domain_resolver"] := by
  intro known hknown hprefix
  obtain ⟨⟨hne, -⟩, hresolver⟩ := (knownPaths_separate part).1 known hknown
  obtain hnil | ⟨keys, rfl, hkeys⟩ := List.prefix_cons_iff.mp hprefix
  · exact hne hnil
  · obtain rfl := List.prefix_nil.mp hkeys
    exact hresolver rfl

/-- No group names a path twice. -/
theorem group_nodup (part : DNSPart) :
    ∀ entry ∈ part.registry, (entry.2.map CleanupField.path).Nodup := by
  cases part <;> decide

theorem registry_hasResolver (part : DNSPart) :
    (part.registry.any fun entry => entry.2.any fun field => belowDomainResolver field.path) =
      true ↔ part = .server := by
  cases part <;> decide

/-! ### The compatible fields -/

/-- A value of a known path stays: the path belongs to the target, the source, where it is known,
has it with the same kind, and the value has that kind. -/
def Keeps (registry : CleanupRegistry) (change : CleanupTransition) (path : List String)
    (v : Value) : Prop :=
  change.share ≠ some false ∧
    ∃ fields, registry.lookup change.target = some fields ∧ ∃ field ∈ fields,
      field.path = path ∧ hasKind v field.kind = true ∧
        ∀ sources, registry.lookup change.current = some sources →
          ∃ source ∈ sources, source.path = path ∧ source.kind = field.kind

theorem compatibleFields_eq_none_iff (part : DNSPart) (change : CleanupTransition) :
    compatibleFields part.registry change = none ↔
      change.share ≠ some false ∧ change.target ∈ inheritedNames := by
  rw [compatibleFields]
  split_ifs with hshare
  · exact ⟨False.elim, fun h => absurd hshare h.1⟩
  · rw [Option.map_eq_none_iff, entry_eq_none_iff (registry_names part)]
    exact ⟨fun h => ⟨hshare, h⟩, fun h => h.2⟩

theorem mem_compatibleFields {registry : CleanupRegistry} {change : CleanupTransition}
    {compatible : List CleanupField} (h : compatibleFields registry change = some compatible)
    (field : CleanupField) :
    field ∈ compatible ↔ change.share ≠ some false ∧
      ∃ fields, registry.lookup change.target = some fields ∧ field ∈ fields ∧
        ∀ sources, registry.lookup change.current = some sources →
          ∃ source ∈ sources, source.path = field.path ∧ source.kind = field.kind := by
  rw [compatibleFields] at h
  split_ifs at h with hshare
  · obtain rfl := Option.some.inj h
    exact ⟨fun hmem => (List.not_mem_nil hmem).elim, fun hmem => absurd hshare hmem.1⟩
  · obtain ⟨fields, hfields, rfl⟩ := Option.map_eq_some_iff.mp h
    have howned : field ∈ fields ↔
        ∃ owned, registry.lookup change.target = some owned ∧ field ∈ owned := by
      rw [entry] at hfields
      cases hlookup : registry.lookup change.target with
      | none =>
        rw [hlookup] at hfields
        dsimp only at hfields
        split_ifs at hfields
        obtain rfl := Option.some.inj hfields
        simp
      | some owned =>
        rw [hlookup] at hfields
        obtain rfl := Option.some.inj hfields
        simp
    cases hcurrent : registry.lookup change.current with
    | none =>
      dsimp only
      rw [howned]
      simp [hshare]
    | some sources =>
      dsimp only
      rw [List.mem_filter, howned]
      simp only [List.any_eq_true, Bool.and_eq_true, beq_iff_eq, Option.some.injEq, forall_eq',
        ne_eq, hshare, not_false_eq_true, true_and]
      constructor
      · rintro ⟨⟨owned, howner, hfield⟩, hsource⟩
        exact ⟨owned, howner, hfield, hsource⟩
      · rintro ⟨owned, howner, hfield, hsource⟩
        exact ⟨⟨owned, howner, hfield⟩, hsource⟩

theorem compatibleFields_nodup (part : DNSPart) {change : CleanupTransition}
    {compatible : List CleanupField}
    (h : compatibleFields part.registry change = some compatible) :
    (compatible.map CleanupField.path).Nodup := by
  rw [compatibleFields] at h
  split_ifs at h
  · obtain rfl := Option.some.inj h
    exact List.nodup_nil
  · obtain ⟨fields, hfields, rfl⟩ := Option.map_eq_some_iff.mp h
    have hnodup : (fields.map CleanupField.path).Nodup := by
      cases fields with
      | nil => exact List.nodup_nil
      | cons field fields => exact group_nodup part _ (mem_of_entry hfields List.mem_cons_self)
    cases part.registry.lookup change.current with
    | none => exact hnodup
    | some sources => exact hnodup.sublist (List.filter_sublist.map _)

theorem getField_eq_some_iff {fields : List CleanupField}
    (h : (fields.map CleanupField.path).Nodup) (path : List String) (target : CleanupField) :
    getField fields path = some target ↔ target ∈ fields ∧ target.path = path := by
  rw [getField]
  constructor
  · intro hfind
    exact ⟨List.mem_reverse.mp (List.mem_of_find?_eq_some hfind),
      beq_iff_eq.mp (List.find?_some hfind :)⟩
  · rintro ⟨hmem, rfl⟩
    cases hfind : fields.reverse.find? fun field => field.path == target.path with
    | none =>
      have hne := List.find?_eq_none.mp hfind target (List.mem_reverse.mpr hmem)
      exact absurd (beq_self_eq_true _) hne
    | some found =>
      have hfound := List.mem_reverse.mp (List.mem_of_find?_eq_some hfind)
      have hpath : found.path = target.path := beq_iff_eq.mp (List.find?_some hfind :)
      rw [List.inj_on_of_nodup_map h hfound hmem hpath]

/-- The test for the value at a known path. -/
def fitsField (compatible : List CleanupField) (path : List String) : Option Value → Bool
  | none => true
  | some v => (getField compatible path).any fun target => hasKind v target.kind

theorem fitsField_iff {compatible : List CleanupField}
    (h : (compatible.map CleanupField.path).Nodup) (path : List String) (v : Value) :
    fitsField compatible path (some v) = true ↔
      ∃ field ∈ compatible, field.path = path ∧ hasKind v field.kind = true := by
  simp only [fitsField, Option.any_eq_true, getField_eq_some_iff h, and_assoc]

theorem fitsField_iff_keeps {part : DNSPart} {change : CleanupTransition}
    {compatible : List CleanupField}
    (h : compatibleFields part.registry change = some compatible) (path : List String)
    (v : Value) :
    fitsField compatible path (some v) = true ↔ Keeps part.registry change path v := by
  rw [fitsField_iff (compatibleFields_nodup part h), Keeps]
  simp only [mem_compatibleFields h]
  constructor
  · rintro ⟨field, ⟨hshare, fields, hfields, hmem, hsource⟩, rfl, hkind⟩
    exact ⟨hshare, fields, hfields, field, hmem, rfl, hkind, hsource⟩
  · rintro ⟨hshare, fields, hfields, field, hmem, rfl, hkind, hsource⟩
    exact ⟨field, ⟨hshare, fields, hfields, hmem, hsource⟩, rfl, hkind⟩

/-- The order of the compatible fields does not matter. -/
theorem fitsField_perm {compatible order : List CleanupField} (hperm : order.Perm compatible)
    (h : (compatible.map CleanupField.path).Nodup) : fitsField order = fitsField compatible := by
  funext path value
  cases value with
  | none => rfl
  | some v =>
    have horder : (order.map CleanupField.path).Nodup := (hperm.map _).nodup_iff.mpr h
    rw [Bool.eq_iff_iff, fitsField_iff h, fitsField_iff horder]
    simp only [hperm.mem_iff]

/-! ### The resolver of a domain -/

/-- A `domain_resolver` the preparation leaves alone. -/
def Settled (part : DNSPart) (change : CleanupTransition) (v : Option Value) : Prop :=
  part = .server → ∀ w, v = some w → w.asMap?.isSome = true ∨
    isString w = true ∧ supportsDomainResolver dnsServerCleanupFields change.target = some true

theorem prepare_of_ne_server {part : DNSPart} (h : part ≠ .server) (change : CleanupTransition)
    (object : Object) : prepareDomainResolverRoot object part.registry change = some object := by
  have hnone := mt (registry_hasResolver part).mp h
  rw [Bool.not_eq_true] at hnone
  rw [prepareDomainResolverRoot, hnone, Bool.not_false, if_pos rfl]

theorem prepare_server (change : CleanupTransition) (object : Object) :
    prepareDomainResolverRoot object dnsServerCleanupFields change =
      match object["domain_resolver"]? with
      | none => some object
      | some v =>
        if v.asMap?.isSome then some object
        else if isString v then
          (supportsDomainResolver dnsServerCleanupFields change.target).map fun supported =>
            if supported then object else ObjectPath.remove ["domain_resolver"] object
        else some (ObjectPath.remove ["domain_resolver"] object) := by
  have hany := (registry_hasResolver .server).mpr rfl
  rw [DNSPart.registry] at hany
  rw [prepareDomainResolverRoot, hany, Bool.not_true, if_neg Bool.false_ne_true]
  cases object["domain_resolver"]? with
  | none => rfl
  | some v =>
    simp only [isJsonObject_value, setPolicyPath_eq, setPath_eq_set, ObjectPath.remove]

theorem isString_iff (v : Value) : isString v = true ↔ ∃ s, v = .str s := by
  cases v <;> simp [isString]

theorem prepare_of_settled {part : DNSPart} {change : CleanupTransition} {object : Object}
    (h : Settled part change object["domain_resolver"]?) :
    prepareDomainResolverRoot object part.registry change = some object := by
  by_cases hpart : part = .server
  · obtain rfl := hpart
    rw [DNSPart.registry, prepare_server]
    cases hv : object["domain_resolver"]? with
    | none => rfl
    | some v =>
      dsimp only
      obtain hobject | ⟨hstring, hsupports⟩ := h rfl v hv
      · rw [if_pos hobject]
      · rw [if_pos hstring, hsupports, Option.map_some, if_pos rfl, ite_self]
  · exact prepare_of_ne_server hpart change object

/-- What the preparation makes of an object: it stays, or loses a resolver that is no object. -/
theorem prepare_cases {part : DNSPart} {change : CleanupTransition} {object prepared : Object}
    (h : prepareDomainResolverRoot object part.registry change = some prepared) :
    prepared = object ∧ Settled part change object["domain_resolver"]? ∨
      part = .server ∧ (∃ v, object["domain_resolver"]? = some v ∧ v.asMap? = none) ∧
        prepared = ObjectPath.remove ["domain_resolver"] object := by
  by_cases hpart : part = .server
  · obtain rfl := hpart
    rw [DNSPart.registry, prepare_server] at h
    cases hv : object["domain_resolver"]? with
    | none =>
      rw [hv] at h
      exact .inl ⟨(Option.some.inj h).symm, fun _ w hw => by cases hw⟩
    | some v =>
      rw [hv] at h
      dsimp only at h
      have hstays : (v.asMap?.isSome = true ∨ isString v = true ∧
          supportsDomainResolver dnsServerCleanupFields change.target = some true) →
          Settled .server change (some v) := by
        intro hcases _ w hw
        obtain rfl := Option.some.inj hw
        exact hcases
      split_ifs at h with hobject hstring
      · exact .inl ⟨(Option.some.inj h).symm, hstays (.inl hobject)⟩
      · obtain ⟨supported, hsupports, hresult⟩ := Option.map_eq_some_iff.mp h
        cases supported with
        | true => exact .inl ⟨hresult.symm, hstays (.inr ⟨hstring, hsupports⟩)⟩
        | false =>
          exact .inr ⟨rfl, ⟨v, rfl, Option.not_isSome_iff_eq_none.mp hobject⟩, hresult.symm⟩
      · exact .inr ⟨rfl, ⟨v, rfl, Option.not_isSome_iff_eq_none.mp hobject⟩,
          (Option.some.inj h).symm⟩
  · rw [prepare_of_ne_server hpart] at h
    exact .inl ⟨(Option.some.inj h).symm, fun hserver => absurd hserver hpart⟩

theorem prepare_eq_none_iff (part : DNSPart) (change : CleanupTransition) (object : Object) :
    prepareDomainResolverRoot object part.registry change = none ↔
      part = .server ∧ (∃ s, object["domain_resolver"]? = some (.str s)) ∧
        change.target ∈ inheritedNames := by
  by_cases hpart : part = .server
  · obtain rfl := hpart
    have hnames : ∀ entry ∈ dnsServerCleanupFields, entry.1 ∉ inheritedNames :=
      registry_names .server
    rw [DNSPart.registry, prepare_server]
    cases hv : object["domain_resolver"]? with
    | none => simp
    | some v =>
      have hsome : (∃ s, some v = some (.str s)) ↔ isString v = true := by
        simp only [isString_iff, Option.some.injEq]
      rw [hsome]
      dsimp only
      split_ifs with hobject hstring
      · have hother : isString v ≠ true := by
          rw [Ne, isString_iff]
          rintro ⟨s, rfl⟩
          cases hobject
        simp [hother]
      · rw [Option.map_eq_none_iff, supportsDomainResolver, Option.map_eq_none_iff,
          entry_eq_none_iff hnames]
        simp [hstring]
      · simp [hstring]
  · rw [prepare_of_ne_server hpart]
    simp [hpart]

/-- The preparation touches nothing but the resolver itself. -/
theorem getPath_prepared {part : DNSPart} {change : CleanupTransition} {object prepared : Object}
    (h : prepareDomainResolverRoot object part.registry change = some prepared)
    {path : List String} (hne : path ≠ []) (hresolver : path ≠ ["domain_resolver"]) :
    ObjectPath.getPath prepared.toValue path = ObjectPath.getPath object.toValue path := by
  obtain ⟨rfl, -⟩ | ⟨-, ⟨v, hv, hnone⟩, rfl⟩ := prepare_cases h
  · rfl
  · obtain ⟨key, keys, rfl⟩ := List.exists_cons_of_ne_nil hne
    by_cases hkey : key = "domain_resolver"
    · obtain rfl := hkey
      obtain ⟨key', keys, rfl⟩ := List.exists_cons_of_ne_nil (fun heq => hresolver (heq ▸ rfl))
      have hsplit : "domain_resolver" :: key' :: keys = ["domain_resolver"] ++ key' :: keys := rfl
      rw [hsplit, ObjectPath.getPath_append, ObjectPath.getPath_append,
        ObjectPath.getPath_remove_self (List.cons_ne_nil _ []), ObjectPath.getPath_singleton, hv]
      simp only [Option.bind_none, Option.bind_some, ObjectPath.getPath, hnone]
    · exact ObjectPath.getPath_set_of_apart object
        (ObjectPath.apart_of_head_ne (Ne.symm hkey) [] keys) none

/-! ### The reduction over the known fields -/

theorem cleanFields_eq {known : List CleanupField}
    (hplain : ∀ path ∈ known.map CleanupField.path, PlainPath path)
    (compatible : List CleanupField) (prepared : Object) :
    cleanFields compatible known prepared =
      ObjectPath.sift (fitsField compatible) (known.map CleanupField.path) prepared := by
  rw [cleanFields, getPolicyPath_eq, setPolicyPath_eq]
  induction known generalizing prepared with
  | nil => rfl
  | cons field known ih =>
    rw [List.map_cons] at hplain
    obtain ⟨hpath, hpaths⟩ := List.forall_mem_cons.mp hplain
    rw [List.foldl_cons, List.map_cons, ObjectPath.sift_cons, ih hpaths]
    congr 1
    rw [getPath_eq prepared hpath.2, setPath_eq_set]
    cases ObjectPath.getPath prepared.toValue field.path with
    | none => rfl
    | some v =>
      simp only [Read.ofOption, Read.isUndefined, Bool.false_eq_true, if_false, fitsField]
      obtain hfield | ⟨target, hfield⟩ :=
        Option.eq_none_or_eq_some (getField compatible field.path)
      · simp only [hfield]
        rfl
      · simp only [hfield]
        rfl

theorem getPolicyPath_known {part : DNSPart} (object : Object) {path : List String}
    (hmem : path ∈ knownPaths part) :
    getPolicyPath object path = Read.ofOption (ObjectPath.getPath object.toValue path) := by
  rw [← getPath_eq_getPolicyPath,
    getPath_eq object ((knownPaths_separate part).1 path hmem).1.2]

/-- What a transition makes of an object. A parent of a known path may change where a value below
it goes, and a resolver of a server that is no object may go. -/
structure Cleaned (part : DNSPart) (change : CleanupTransition) (object result : Object) :
    Prop where
  kept : ∀ path ∈ knownPaths part, ∀ v, getPolicyPath result path = .value v ↔
    getPolicyPath object path = .value v ∧ Keeps part.registry change path v
  cleared : ∀ path ∈ knownPaths part, (∀ v, getPolicyPath result path ≠ .value v) →
    getPolicyPath result path = .undefined
  unknown : ∀ path ≠ [], (∀ known ∈ knownPaths part, ¬ known <+: path) →
    ObjectPath.getPath result.toValue path = ObjectPath.getPath object.toValue path ∨
      (∃ known ∈ knownPaths part, path <+: known ∧ getPolicyPath object known ≠ .undefined ∧
        getPolicyPath result known = .undefined) ∧
        (∃ v m₀, ObjectPath.getPath object.toValue path = some v ∧ v.asMap? = some m₀ ∧
          (ObjectPath.getPath result.toValue path = none ∨
            ∃ m₁ : Object, ObjectPath.getPath result.toValue path = some m₁.toValue)) ∨
      part = .server ∧ path = ["domain_resolver"] ∧
        (∃ v, object["domain_resolver"]? = some v ∧ v.asMap? = none) ∧
        ObjectPath.getPath result.toValue path = none
  order : ∀ compatible prepared, compatibleFields part.registry change = some compatible →
    prepareDomainResolverRoot object part.registry change = some prepared →
    ∀ fields known, fields.Perm compatible → known.Perm (uniqueFields part.registry) →
      cleanFields fields known prepared = result
  again : transitionCleanupFields result part.registry change = some result

section

variable {part : DNSPart} {change : CleanupTransition} {compatible : List CleanupField}

theorem sift_order (h : compatibleFields part.registry change = some compatible)
    (prepared : Object) {fields known : List CleanupField} (hfields : fields.Perm compatible)
    (hknown : known.Perm (uniqueFields part.registry)) :
    cleanFields fields known prepared =
      ObjectPath.sift (fitsField compatible) (knownPaths part) prepared := by
  obtain ⟨hplain, hapart⟩ := knownPaths_separate part
  have hpaths : (known.map CleanupField.path).Perm (knownPaths part) := hknown.map _
  rw [cleanFields_eq (fun path hpath => (hplain path (hpaths.mem_iff.mp hpath)).1),
    fitsField_perm hfields (compatibleFields_nodup part h)]
  exact ObjectPath.sift_perm hpaths (hpaths.symm.pairwise hapart fun hpq => hpq.symm) _ prepared

/-- At a known path a value stays if and only if it fits. -/
theorem getPath_cleaned (compatible : List CleanupField) {object prepared : Object}
    (hprepared : prepareDomainResolverRoot object part.registry change = some prepared)
    {path : List String} (hmem : path ∈ knownPaths part) :
    ObjectPath.getPath (ObjectPath.sift (fitsField compatible) (knownPaths part) prepared).toValue
        path =
      if fitsField compatible path (ObjectPath.getPath object.toValue path) then
        ObjectPath.getPath object.toValue path
      else none := by
  obtain ⟨hplain, hapart⟩ := knownPaths_separate part
  obtain ⟨⟨hne, -⟩, hresolver⟩ := hplain path hmem
  have hlone : ∀ q ∈ knownPaths part, q ≠ path → ObjectPath.Apart q path :=
    fun q hq hqp => hapart.forall hq hmem hqp
  rw [← getPath_prepared hprepared hne hresolver]
  split_ifs with hfits
  · exact ObjectPath.getPath_sift_of_keep hlone hfits
  · exact ObjectPath.getPath_sift_of_drop hlone hne hmem (Bool.eq_false_iff.mpr hfits)

theorem fitsField_none (compatible : List CleanupField) :
    ∀ path ∈ knownPaths part, fitsField compatible path none = true := fun _ _ => rfl

/-- The resolver is settled after the transition, so that the preparation leaves it alone. -/
theorem settled_cleaned {object prepared : Object}
    (hprepared : prepareDomainResolverRoot object part.registry change = some prepared) :
    Settled part change (ObjectPath.sift (fitsField compatible) (knownPaths part)
      prepared)["domain_resolver"]? := by
  rw [← ObjectPath.getPath_singleton]
  obtain hsame | ⟨-, v, m₀, -, -, hnone | ⟨m₁, hm₁⟩⟩ :=
    ObjectPath.getPath_sift_outside (knownPaths_separate part).2
      (fitsField_none compatible) (notBelow_domainResolver part) prepared
  · rw [hsame, ObjectPath.getPath_singleton]
    obtain ⟨rfl, hsettled⟩ | ⟨-, -, rfl⟩ := prepare_cases hprepared
    · exact hsettled
    · rw [← ObjectPath.getPath_singleton, ObjectPath.getPath_remove_self (List.cons_ne_nil _ [])]
      intro _ w hw
      cases hw
  · rw [hnone]
    intro _ w hw
    cases hw
  · rw [hm₁]
    intro _ w hw
    obtain rfl := Option.some.inj hw
    exact .inl (by rw [Value.asMap?_toValue, Option.isSome_some])

theorem value_iff_getPath {object : Object} {path : List String} (hmem : path ∈ knownPaths part)
    (v : Value) :
    getPolicyPath object path = .value v ↔ ObjectPath.getPath object.toValue path = some v := by
  rw [getPolicyPath_known object hmem]
  exact Read.ofOption_injective.eq_iff (b := some v)

theorem undefined_iff_getPath {object : Object} {path : List String}
    (hmem : path ∈ knownPaths part) :
    getPolicyPath object path = .undefined ↔
      ObjectPath.getPath object.toValue path = none := by
  rw [getPolicyPath_known object hmem]
  exact Read.ofOption_injective.eq_iff (b := none)

theorem transition_eq_some_iff {object result : Object} :
    transitionCleanupFields object part.registry change = some result ↔
      ∃ compatible, compatibleFields part.registry change = some compatible ∧
        ∃ prepared, prepareDomainResolverRoot object part.registry change = some prepared ∧
          ObjectPath.sift (fitsField compatible) (knownPaths part) prepared = result := by
  simp only [transitionCleanupFields, Option.bind_eq_some_iff, Option.map_eq_some_iff]
  constructor
  · rintro ⟨compatible, hcompatible, prepared, hprepared, rfl⟩
    exact ⟨compatible, hcompatible, prepared, hprepared,
      (sift_order hcompatible prepared (.refl _) (.refl _)).symm⟩
  · rintro ⟨compatible, hcompatible, prepared, hprepared, rfl⟩
    exact ⟨compatible, hcompatible, prepared, hprepared,
      sift_order hcompatible prepared (.refl _) (.refl _)⟩

/-- Sifting makes of a prepared object what a transition is to make of it. -/
theorem cleaned_sift (h : compatibleFields part.registry change = some compatible)
    {object prepared : Object}
    (hprepared : prepareDomainResolverRoot object part.registry change = some prepared) :
    Cleaned part change object
      (ObjectPath.sift (fitsField compatible) (knownPaths part) prepared) := by
  obtain ⟨hplain, hapart⟩ := knownPaths_separate part
  have hread := fun {path : List String} (hmem : path ∈ knownPaths part) =>
    getPath_cleaned compatible hprepared hmem
  refine ⟨fun path hmem v => ?_, fun path hmem hvalue => ?_, fun path hne hbelow => ?_, ?_, ?_⟩
  · rw [value_iff_getPath hmem, value_iff_getPath hmem, hread hmem, ← fitsField_iff_keeps h]
    constructor
    · intro hv
      split_ifs at hv with hfits
      rw [hv] at hfits
      exact ⟨hv, hfits⟩
    · rintro ⟨hv, hfits⟩
      rw [hv, if_pos hfits]
  · rw [undefined_iff_getPath hmem, Option.eq_none_iff_forall_ne_some]
    intro v hv
    exact hvalue v ((value_iff_getPath hmem v).mpr hv)
  · by_cases hresolver : path = ["domain_resolver"] ∧ prepared ≠ object
    · obtain ⟨rfl, hchanged⟩ := hresolver
      obtain ⟨hsame, -⟩ | ⟨hpart, hv, rfl⟩ := prepare_cases hprepared
      · exact absurd hsame hchanged
      · refine .inr (.inr ⟨hpart, rfl, hv, ?_⟩)
        obtain ⟨removed, -, heq⟩ := ObjectPath.sift_eq_removeAll (fitsField compatible)
          (knownPaths part) (ObjectPath.remove ["domain_resolver"] object)
        rw [heq]
        exact ObjectPath.getPath_removeAll_of_eq_none removed
          (ObjectPath.getPath_remove_self hne object)
    · have hprepare :
          ObjectPath.getPath prepared.toValue path = ObjectPath.getPath object.toValue path := by
        by_cases hpath : path = ["domain_resolver"]
        · rw [not_not.mp fun hchanged => hresolver ⟨hpath, hchanged⟩]
        · exact getPath_prepared hprepared hne hpath
      obtain hsame | ⟨⟨known, hknown, hprefix, hfails⟩, hparent⟩ :=
        ObjectPath.getPath_sift_outside hapart (fitsField_none compatible) hbelow prepared
      · exact .inl (hsame.trans hprepare)
      · rw [hprepare] at hparent
        obtain ⟨⟨hknown_ne, -⟩, hknown_resolver⟩ := hplain known hknown
        rw [getPath_prepared hprepared hknown_ne hknown_resolver] at hfails
        refine .inr (.inl ⟨⟨known, hknown, hprefix, ?_, ?_⟩, hparent⟩)
        · rw [Ne, undefined_iff_getPath hknown]
          intro hnone
          rw [hnone, fitsField_none compatible known hknown] at hfails
          cases hfails
        · rw [undefined_iff_getPath hknown, hread hknown, hfails, if_neg Bool.false_ne_true]
  · intro fields prepared' hfields hprepared' order known horder hknown
    obtain rfl := Option.some.inj (h.symm.trans hfields)
    obtain rfl := Option.some.inj (hprepared.symm.trans hprepared')
    exact sift_order h prepared horder hknown
  · exact transition_eq_some_iff.mpr ⟨compatible, h, _,
      prepare_of_settled (settled_cleaned hprepared),
      ObjectPath.sift_sift hapart (fun path hpath => (hplain path hpath).1.1)
        (fitsField_none compatible) prepared⟩

theorem cleaned_of_transition {object result : Object}
    (h : transitionCleanupFields object part.registry change = some result) :
    Cleaned part change object result := by
  obtain ⟨compatible, hcompatible, prepared, hprepared, rfl⟩ := transition_eq_some_iff.mp h
  exact cleaned_sift hcompatible hprepared

end

theorem transition_eq_none_iff (part : DNSPart) (object : Object) (change : CleanupTransition) :
    transitionCleanupFields object part.registry change = none ↔
      change.target ∈ inheritedNames ∧ (change.share = some false →
        part = .server ∧ ∃ s, object["domain_resolver"]? = some (.str s)) := by
  have hfields := compatibleFields_eq_none_iff part change
  have hprepared := prepare_eq_none_iff part change object
  rw [transitionCleanupFields]
  cases hcompatible : compatibleFields part.registry change with
  | none =>
    obtain ⟨hshare, hinherited⟩ := hfields.mp hcompatible
    exact ⟨fun _ => ⟨hinherited, fun hfalse => absurd hfalse hshare⟩, fun _ => rfl⟩
  | some compatible =>
    rw [Option.bind_some, Option.map_eq_none_iff, hprepared]
    constructor
    · rintro ⟨hpart, hstring, hinherited⟩
      exact ⟨hinherited, fun _ => ⟨hpart, hstring⟩⟩
    · rintro ⟨hinherited, hlooked⟩
      have hshare : change.share = some false := by
        by_contra hshare
        rw [hfields.mpr ⟨hshare, hinherited⟩] at hcompatible
        cases hcompatible
      exact ⟨(hlooked hshare).1, (hlooked hshare).2, hinherited⟩

theorem transition_of_notMem (part : DNSPart) (object : Object) (change : CleanupTransition)
    (h : change.target ∉ inheritedNames) :
    ∃ result, transitionCleanupFields object part.registry change = some result := by
  rw [← Option.ne_none_iff_exists', Ne, transition_eq_none_iff]
  exact fun hnone => h hnone.1

/-- A transition ends, with what it is to make of the object, unless its target has the name of
an inherited property and is looked up. -/
theorem transitionCleanupFields_iff (part : DNSPart) (object : Object)
    (change : CleanupTransition) :
    (∃ result, transitionCleanupFields object part.registry change = some result ∧
        Cleaned part change object result) ↔
      change.target ∉ inheritedNames ∨ change.share = some false ∧
        ¬ (part = .server ∧ ∃ s, object["domain_resolver"]? = some (.str s)) := by
  have hends : (∃ result, transitionCleanupFields object part.registry change = some result ∧
      Cleaned part change object result) ↔
        transitionCleanupFields object part.registry change ≠ none := by
    rw [Option.ne_none_iff_exists']
    constructor
    · rintro ⟨result, hresult, -⟩
      exact ⟨result, hresult⟩
    · rintro ⟨result, hresult⟩
      exact ⟨result, hresult, cleaned_of_transition hresult⟩
  rw [hends, Ne, transition_eq_none_iff, not_and_or, Classical.not_imp]

/-- To a type with the name of an inherited property there is no transition. -/
theorem transitionCleanupFields_constructor :
    ¬ ∃ result, transitionCleanupFields (Std.ExtTreeMap.ofList [("type", .str "udp")] compare)
        DNSPart.server.registry { current := "udp", target := "constructor" } = some result ∧
      Cleaned .server { current := "udp", target := "constructor" }
        (Std.ExtTreeMap.ofList [("type", .str "udp")] compare) result := by
  rintro ⟨result, hresult, -⟩
  rw [(transition_eq_none_iff .server _ _).mpr ⟨by decide, fun hshare => by cases hshare⟩]
    at hresult
  cases hresult

end Boxui.UI.DNSForm
