import Boxui.API.ConfigDefaults
import Boxui.API.ReferenceClosure
import Boxui.Core.RouteDefaultRules

/-! When installing the default outbounds and the default route rules leaves no reference
dangling. -/
namespace Boxui.API
open GoValue Boxui.Core Reconcile

theorem indexed_outboundsByTag (existing : List Value) :
    (DefaultOutboundsInstaller.indexed existing).outboundsByTag =
      indexExistingOutbounds existing := by
  induction existing using List.reverseRecOn with
  | nil => rfl
  | append_singleton existing item ih =>
    unfold DefaultOutboundsInstaller.indexed indexExistingOutbounds at ih ⊢
    rw [List.foldl_append, List.foldl_append, ← ih]
    simp only [List.foldl_cons, List.foldl_nil, OutboundIndex.add, indexOutbound]
    cases item.asMap? with
    | none => rfl
    | some ob =>
      dsimp only
      split_ifs <;> rfl

/-- The indexed entry of a tag is an outbound of the list. -/
theorem mem_of_indexExistingOutbounds {existing : List Value} {tag : String} {entry : Object}
    (h : (indexExistingOutbounds existing)[tag]? = some entry) :
    tag ≠ "" ∧ ∃ outbound ∈ existing, tagOf outbound = tag ∧ outbound.asMap? = some entry := by
  rw [indexExistingOutbounds_getElem?] at h
  split_ifs at h with htag
  obtain ⟨outbound, hlatest, hmap⟩ := Option.bind_eq_some_iff.mp h
  exact ⟨htag, outbound, mem_of_latest hlatest, tag_latest hlatest, hmap⟩

theorem isSome_indexExistingOutbounds {existing : List Value} {tag : String} (hne : tag ≠ "")
    (hmem : tag ∈ existing.map tagOf) : ((indexExistingOutbounds existing)[tag]?).isSome := by
  rw [indexExistingOutbounds_getElem?, if_neg hne]
  obtain ⟨outbound, hout, htag⟩ := List.mem_map.mp hmem
  cases hlatest : latest tagOf existing tag with
  | none =>
    have hnone := List.find?_eq_none.mp hlatest outbound (List.mem_reverse.mpr hout)
    simp [htag] at hnone
  | some found =>
    have hfound := tag_latest hlatest
    rw [Option.bind_some]
    cases hmap : found.asMap? with
    | none =>
      have hempty : tagOf found = "" := by simp [fieldOf, hmap]
      exact absurd (hfound.symm.trans hempty) hne
    | some entry => rfl

/-- What an outbound names depends on its fields only. -/
theorem listedReferences_of_asMap? {outbound : Value} {entry : Object}
    (h : outbound.asMap? = some entry) :
    listedReferences outbound = listedReferences (Object.toValue entry) ∧
      typeOf outbound = Object.stringAt entry "type" := by
  simp [listedReferences, memberTags, fieldOf, h]

/-- The tags of the configuration with the default outbounds. -/
def InstalledTag (existing : List Value) (tag : String) : Prop :=
  tag ≠ "dns-out" ∧ (tag ∈ existing.map tagOf ∨
    tag ∈ ["direct", "bypass", "block", "proxy", "whitelist", "blacklist"] ∨
    tag = "auto" ∧ DefaultOutboundsInstaller.groupMembers existing ≠ ["direct"])

/-- The tag is one under which a group is installed. -/
def GroupInstalled (existing : List Value) (tag : String) : Prop :=
  tag = "proxy" ∨ tag = "whitelist" ∨ tag = "blacklist" ∨
    tag = "auto" ∧ DefaultOutboundsInstaller.groupMembers existing ≠ ["direct"]

/-- What the default outbounds must not meet to leave no reference dangling: a reference to the
outbound "dns-out", which they remove, and an outbound under the tag of a group that becomes
a group with members or a default that are not there. -/
structure InstallKeepsReferences (config : Object) : Prop where
  group : ∀ tag entry, (indexExistingOutbounds (existingOutbounds config))[tag]? = some entry →
    tag ≠ "dns-out" → "dns-out" ∉ groupReferences (Object.toValue entry)
  route : "dns-out" ∉ routeReferences config
  candidate : "dns-out" ∈ DefaultOutboundsInstaller.groupMembers (existingOutbounds config) →
    ∀ tag ∈ ["proxy", "auto"],
      ((indexExistingOutbounds (existingOutbounds config))[tag]?).isSome = true
  retyped : ∀ tag entry, (indexExistingOutbounds (existingOutbounds config))[tag]? = some entry →
    GroupInstalled (existingOutbounds config) tag →
      isGroupType (Object.stringAt entry "type") = false →
        ∀ other ∈ listedReferences (Object.toValue entry),
          other ≠ "" ∧ InstalledTag (existingOutbounds config) other

theorem isSome_withGroups {existing : List Value} {tag : String} (hne : tag ≠ "")
    (h : InstalledTag existing tag) :
    ((DefaultOutboundsInstaller.withGroups existing).outboundsByTag[tag]?).isSome = true := by
  obtain ⟨hdns, h⟩ := h
  rw [DefaultOutboundsInstaller.getElem?_withGroups]
  split_ifs with hblacklist hwhitelist hauto hproxy
  · rfl
  · rfl
  · rfl
  · rfl
  · apply DefaultOutboundsInstaller.isSome_withBuiltins existing hdns
    rw [indexed_outboundsByTag]
    rcases h with h | h | h
    · exact .inl (isSome_indexExistingOutbounds hne h)
    · simp only [List.mem_cons, List.not_mem_nil, or_false] at h ⊢
      tauto
    · exact absurd h hauto

theorem listedReferences_group (tag typ : String) (members : List String)
    (old : Option Object) :
    listedReferences (Object.toValue (OutboundIndex.group tag typ members old)) =
      match old with
      | none => members
      | some entry => listedReferences (Object.toValue entry) := by
  cases old with
  | none =>
    simp only [OutboundIndex.group, listedReferences, memberTags_toValue, defaultOf_toValue,
      GoMap.getElem?_insert, Object.stringAt_insert]
    simp [Value.strings, Object.stringAt]
  | some entry => exact listedReferences_insert entry _ (by decide) (by decide)

theorem mem_listedReferences {outbound : Value} {tag : String}
    (h : tag ∈ groupReferences outbound) : tag ∈ listedReferences outbound := by
  unfold groupReferences at h
  split_ifs at h
  · exact h
  · cases h

section installation

variable {config : Object}

/-- A group of the configuration names outbounds that are still there after the defaults. -/
theorem InstallKeepsReferences.entry (h : InstallKeepsReferences config) (hclosed : Closed config)
    {tag : String} {entry : Object}
    (hentry : (indexExistingOutbounds (existingOutbounds config))[tag]? = some entry)
    (hdns : tag ≠ "dns-out") {other : String}
    (hother : other ∈ groupReferences (Object.toValue entry)) :
    other ≠ "" ∧ InstalledTag (existingOutbounds config) other := by
  obtain ⟨-, outbound, hmem, -, hmap⟩ := mem_of_indexExistingOutbounds hentry
  obtain ⟨hlisted, htype⟩ := listedReferences_of_asMap? hmap
  have hsame : groupReferences outbound = groupReferences (Object.toValue entry) := by
    rw [groupReferences, groupReferences, hlisted, htype, typeOf_toValue]
  obtain ⟨hne, hold⟩ := hclosed.group outbound hmem other (hsame ▸ hother)
  refine ⟨hne, ?_, .inl hold⟩
  rintro rfl
  exact h.group tag entry hentry hdns hother

theorem InstallKeepsReferences.installedGroup (h : InstallKeepsReferences config)
    (hclosed : Closed config) {tag typ : String} {members : List String}
    (htag : GroupInstalled (existingOutbounds config) tag)
    (hmembers : (indexExistingOutbounds (existingOutbounds config))[tag]? = none →
      ∀ other ∈ members, other ≠ "" ∧ InstalledTag (existingOutbounds config) other) :
    ∀ other ∈ groupReferences (Object.toValue (OutboundIndex.group tag typ members
      (indexExistingOutbounds (existingOutbounds config))[tag]?)),
        other ≠ "" ∧ InstalledTag (existingOutbounds config) other := by
  intro other hother
  have hlisted := mem_listedReferences hother
  rw [listedReferences_group] at hlisted
  have hdns : tag ≠ "dns-out" := by
    rintro rfl
    rcases htag with h | h | h | ⟨h, -⟩ <;> exact absurd h (by decide)
  cases hentry : (indexExistingOutbounds (existingOutbounds config))[tag]? with
  | none =>
    rw [hentry] at hlisted
    exact hmembers hentry other hlisted
  | some entry =>
    rw [hentry] at hlisted
    by_cases hgroup : isGroupType (Object.stringAt entry "type") = true
    · apply h.entry hclosed hentry hdns
      rwa [groupReferences, typeOf_toValue, if_pos hgroup]
    · exact h.retyped tag entry hentry htag (Bool.eq_false_iff.mpr hgroup) other hlisted

/-- The members of a group that is created. -/
theorem InstallKeepsReferences.groupMembers (h : InstallKeepsReferences config) {tag : String}
    (htag : tag ∈ ["proxy", "auto"])
    (hnew : (indexExistingOutbounds (existingOutbounds config))[tag]? = none) :
    ∀ other ∈ DefaultOutboundsInstaller.groupMembers (existingOutbounds config),
      other ≠ "" ∧ InstalledTag (existingOutbounds config) other := by
  intro other hother
  have hdns : other ≠ "dns-out" := by
    rintro rfl
    have hsome := h.candidate hother tag htag
    rw [hnew] at hsome
    cases hsome
  unfold DefaultOutboundsInstaller.groupMembers at hother
  cases hcandidates :
      (DefaultOutboundsInstaller.indexed (existingOutbounds config)).proxyCandidates with
  | nil =>
    rw [hcandidates] at hother
    obtain rfl := List.mem_singleton.mp hother
    exact ⟨by decide, hdns, .inr (.inl (by decide))⟩
  | cons first rest =>
    rw [hcandidates] at hother
    have hsome := DefaultOutboundsInstaller.mem_proxyCandidates (existingOutbounds config) other
      (hcandidates ▸ hother)
    rw [indexed_outboundsByTag] at hsome
    obtain ⟨entry, hentry⟩ := Option.isSome_iff_exists.mp hsome
    obtain ⟨hne, outbound, hmem, heq, -⟩ := mem_of_indexExistingOutbounds hentry
    exact ⟨hne, hdns, .inl (List.mem_map.mpr ⟨outbound, hmem, heq⟩)⟩

theorem InstallKeepsReferences.installed (h : InstallKeepsReferences config)
    (hclosed : Closed config) {tag : String} {ob : Object}
    (hget : (DefaultOutboundsInstaller.withGroups
      (existingOutbounds config)).outboundsByTag[tag]? = some ob) :
    ∀ other ∈ groupReferences (Object.toValue ob),
      other ≠ "" ∧ InstalledTag (existingOutbounds config) other := by
  have hbuiltin {other : String}
      (hother : other ∈ ["direct", "bypass", "block", "proxy", "whitelist", "blacklist"]) :
      other ≠ "" ∧ InstalledTag (existingOutbounds config) other := by
    have hne : ∀ tag ∈ ["direct", "bypass", "block", "proxy", "whitelist", "blacklist"],
        tag ≠ "" ∧ tag ≠ "dns-out" := by decide
    exact ⟨(hne other hother).1, (hne other hother).2, .inr (.inl hother)⟩
  rw [DefaultOutboundsInstaller.getElem?_withGroups, indexed_outboundsByTag] at hget
  split_ifs at hget with hblacklist hwhitelist hauto hproxy
  · obtain rfl := Option.some.inj hget
    apply h.installedGroup hclosed (.inr (.inr (.inl hblacklist)))
    rintro - other hother
    apply hbuiltin
    simp only [List.mem_cons, List.not_mem_nil, or_false] at hother ⊢
    tauto
  · obtain rfl := Option.some.inj hget
    apply h.installedGroup hclosed (.inr (.inl hwhitelist))
    rintro - other hother
    apply hbuiltin
    simp only [List.mem_cons, List.not_mem_nil, or_false] at hother ⊢
    tauto
  · obtain rfl := Option.some.inj hget
    apply h.installedGroup hclosed (.inr (.inr (.inr hauto)))
    exact h.groupMembers (by simp [hauto.1])
  · obtain rfl := Option.some.inj hget
    apply h.installedGroup hclosed (.inl hproxy)
    exact h.groupMembers (by simp [hproxy])
  · intro other hother
    obtain ⟨hdns, ⟨entry, hentry, hob⟩ | hplain⟩ :=
      DefaultOutboundsInstaller.withBuiltins_cases (existingOutbounds config) hget
    · rw [indexed_outboundsByTag] at hentry
      apply h.entry hclosed hentry hdns
      rcases hob with rfl | rfl
      · exact hother
      · simpa [groupReferences, Object.stringAt_insert,
          listedReferences_insert entry (k := "routing_mark") _ (by decide) (by decide)]
          using hother
    · have hgroup : isGroupType (typeOf (Object.toValue ob)) = false := by
        rw [typeOf_toValue]
        rcases hplain with h | h <;> rw [h] <;> decide
      rw [groupReferences, hgroup] at hother
      cases hother

theorem existingOutbounds_withDefaultOutbounds (config : Object) :
    existingOutbounds (withDefaultOutbounds config) =
      (DefaultOutboundsInstaller.withGroups (existingOutbounds config)).outbounds.map
        fun p => Object.toValue p.2 := by
  rw [existingOutbounds, withDefaultOutbounds]
  simp only [GoMap.getElem?_insert]
  rfl

theorem mem_map_tagOf_withDefaultOutbounds {tag : String} (hne : tag ≠ "")
    (h : InstalledTag (existingOutbounds config) tag) :
    tag ∈ (existingOutbounds (withDefaultOutbounds config)).map tagOf := by
  have hsound := DefaultOutboundsInstaller.withGroups_sound (existingOutbounds config)
  obtain ⟨ob, hget⟩ := Option.isSome_iff_exists.mp (isSome_withGroups hne h)
  rw [existingOutbounds_withDefaultOutbounds, List.map_map, List.mem_map]
  refine ⟨(tag, ob), (OutboundIndex.mem_outbounds hsound _).mpr hget, ?_⟩
  simpa using (hsound.tag_eq tag ob hget).2

theorem routeOf_withDefaultOutbounds (config : Object) :
    routeOf (withDefaultOutbounds config) =
      match (routeOf config)["final"]? with
      | none | some (.str "") => (routeOf config).insert "final" (.str "proxy")
      | some _ => routeOf config := by
  rw [routeOf, withDefaultOutbounds]
  simp only [GoMap.getElem?_insert, if_true, Option.bind_some, Value.asMap?_toValue,
    Option.getD_some]
  rfl

theorem routeReferences_withDefaultOutbounds (config : Object) :
    ∀ tag ∈ routeReferences (withDefaultOutbounds config),
      tag = "proxy" ∨ tag ∈ routeReferences config := by
  have hinsert : ∀ tag ∈
      (Object.stringAt ((routeOf config).insert "final" (.str "proxy")) "final" ::
      ((((routeOf config).insert "final" (.str "proxy"))["rules"]?.bind Value.asList?).getD []).map
        (fieldOf "outbound")).filter (· ≠ ""), tag = "proxy" ∨ tag ∈ routeReferences config := by
    intro tag htag
    rw [List.mem_filter, List.mem_cons] at htag
    obtain ⟨htag, hne⟩ := htag
    rcases htag with rfl | htag
    · simp [Object.stringAt_insert, Value.asStr?]
    · refine .inr (List.mem_filter.mpr ⟨List.mem_cons_of_mem _ ?_, hne⟩)
      simpa [routeRules] using htag
  intro tag htag
  rw [routeReferences, routeRules, routeOf_withDefaultOutbounds] at htag
  split at htag
  · exact hinsert tag htag
  · exact hinsert tag htag
  · exact .inr htag

/-- The default outbounds leave a closed configuration closed. -/
theorem closed_withDefaultOutbounds (h : InstallKeepsReferences config)
    (hclosed : Closed config) : Closed (withDefaultOutbounds config) := by
  constructor
  · intro outbound hmem tag htag
    rw [existingOutbounds_withDefaultOutbounds] at hmem
    obtain ⟨p, hp, rfl⟩ := List.mem_map.mp hmem
    have hget := (OutboundIndex.mem_outbounds
      (DefaultOutboundsInstaller.withGroups_sound (existingOutbounds config)) p).mp hp
    obtain ⟨hne, hinstalled⟩ := h.installed hclosed hget tag htag
    exact ⟨hne, mem_map_tagOf_withDefaultOutbounds hne hinstalled⟩
  · intro tag htag
    rcases routeReferences_withDefaultOutbounds config tag htag with rfl | hold
    · exact mem_map_tagOf_withDefaultOutbounds (by decide) ⟨by decide, .inr (.inl (by decide))⟩
    · refine mem_map_tagOf_withDefaultOutbounds (ne_of_mem_routeReferences hold)
        ⟨?_, .inl (hclosed.route tag hold)⟩
      rintro rfl
      exact h.route hold

end installation

namespace DefaultRouteRules
open DefaultRouteInstaller

/-- A default rule names an outbound of the configuration, if any. -/
theorem outbound_defaults {ruleSets outbounds : List String} {default : Object}
    (h : default ∈ defaults ruleSets outbounds) :
    Object.stringAt default "outbound" = "" ∨
      Object.stringAt default "outbound" ∈ outbounds := by
  unfold Object.stringAt
  cases hout : default["outbound"]? with
  | none => exact .inl rfl
  | some v =>
    obtain ⟨tag, hmem, rfl⟩ := (namesPresent_defaults h).outbound v hout
    exact .inr hmem

theorem existingOutboundTags_subset (config : Object) :
    existingOutboundTags config ⊆ (existingOutbounds config).map tagOf := by
  intro tag htag
  unfold existingOutboundTags objectTags at htag
  rw [List.mem_filter, List.mem_map] at htag
  obtain ⟨⟨entry, hentry, rfl⟩, -⟩ := htag
  obtain ⟨outbound, hmem, hmap⟩ := List.mem_filterMap.mp hentry
  exact List.mem_map.mpr ⟨outbound, hmem, by simp [fieldOf, hmap]⟩

theorem existingRules_eq (config : Object) : existingRules config = routeRules config := by
  unfold existingRules routeRules routeOf
  cases config["route"]?.bind Value.asMap? <;> simp

end DefaultRouteRules

open DefaultRouteRules

/-- The default route rules leave a closed configuration closed. -/
theorem closed_withDefaultRouteRules (formatFloat : Rat → String) {config : Object}
    (hclosed : Closed config) : Closed (withDefaultRouteRules formatFloat config) := by
  have hout : existingOutbounds (withDefaultRouteRules formatFloat config) =
      existingOutbounds config := by
    simp [existingOutbounds, withDefaultRouteRules]
  have hroute : routeOf (withDefaultRouteRules formatFloat config) =
      (routeOf config).insert "rules"
        (.list (DefaultRouteInstaller.install formatFloat config).rules) := by
    rw [routeOf, withDefaultRouteRules]
    simp only [GoMap.getElem?_insert, if_true, Option.bind_some, Value.asMap?_toValue,
      Option.getD_some]
    rfl
  constructor
  · rw [hout]
    exact hclosed.group
  · rw [hout]
    intro tag htag
    rw [routeReferences, routeRules, hroute, List.mem_filter, List.mem_cons] at htag
    obtain ⟨htag, hne⟩ := htag
    have hrules : ((((routeOf config).insert "rules" (.list
        (DefaultRouteInstaller.install formatFloat config).rules))["rules"]?.bind
          Value.asList?).getD []) = routeRules config ++
            (DefaultRouteInstaller.install formatFloat config).installed.map Object.toValue := by
      simp only [GoMap.getElem?_insert, if_true, Option.bind_some, Value.asList?,
        Option.getD_some, DefaultRouteInstaller.install, existingRules_eq]
    rw [hrules, List.map_append, List.mem_append] at htag
    have hold : tag ∈ Object.stringAt (routeOf config) "final" ::
        (routeRules config).map (fieldOf "outbound") →
          tag ∈ (existingOutbounds config).map tagOf := fun hmem =>
      hclosed.route tag (List.mem_filter.mpr ⟨hmem, hne⟩)
    rcases htag with rfl | htag | htag
    · apply hold
      simp [Object.stringAt_insert]
    · exact hold (List.mem_cons_of_mem _ htag)
    · rw [List.map_map, List.mem_map] at htag
      obtain ⟨default, hdefault, rfl⟩ := htag
      have hnamed := outbound_defaults
        (DefaultRouteInstaller.newRules_subset _ _ _ hdefault)
      rw [Function.comp_apply, fieldOf_toValue] at hne ⊢
      rcases hnamed with hempty | hmem
      · simp [hempty] at hne
      · exact existingOutboundTags_subset config hmem

end Boxui.API
