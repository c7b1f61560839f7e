import Boxui.API.References
import Boxui.API.SyncTags

/-! Which references a configuration holds to its outbounds, and when a synchronisation leaves
none of them dangling. -/
namespace Boxui.API
open GoValue Boxui.Core

def routeRules (config : Object) : List Value :=
  ((routeOf config)["rules"]?.bind Value.asList?).getD []

/-- The outbounds that the route section names. -/
def routeReferences (config : Object) : List String :=
  (Object.stringAt (routeOf config) "final" :: (routeRules config).map (fieldOf "outbound")).filter
    (· ≠ "")

/-- Every reference is the tag of an outbound in the list. -/
structure Closed (config : Object) : Prop where
  group : ∀ outbound ∈ existingOutbounds config, ∀ tag ∈ groupReferences outbound,
    tag ≠ "" ∧ tag ∈ (existingOutbounds config).map tagOf
  route : ∀ tag ∈ routeReferences config, tag ∈ (existingOutbounds config).map tagOf

theorem ne_of_mem_routeReferences {config : Object} {tag : String}
    (h : tag ∈ routeReferences config) : tag ≠ "" := by
  simpa using (List.mem_filter.mp h).2

/-- A list of strings, which only Go code puts there, is no list of objects until it has gone
through the file. -/
def ObjectLists (config : Object) : Prop :=
  (∀ ss, config["outbounds"]? ≠ some (.strs ss)) ∧
    ∀ ss, (routeOf config)["rules"]? ≠ some (.strs ss)

theorem asList?_json {v : Value} (h : ∀ ss, v ≠ .strs ss) :
    v.json.asList? = v.asList?.map (List.map Value.json) := by
  cases v with
  | strs ss => exact absurd rfl (h ss)
  | list vs => simp [Value.json, Value.asList?, Value.jsonList_eq_map]
  | _ => rfl

theorem existingOutbounds_objectJson {config : Object} (h : ObjectLists config) :
    existingOutbounds (Object.json config) = (existingOutbounds config).map Value.json := by
  unfold existingOutbounds
  rw [Object.getElem?_json]
  cases hv : config["outbounds"]? with
  | none => rfl
  | some v =>
    rw [Option.map_some, Option.bind_some, Option.bind_some,
      asList?_json fun ss heq => h.1 ss (heq ▸ hv)]
    cases v.asList? <;> rfl

theorem routeOf_json (config : Object) : routeOf (Object.json config) =
    Object.json (routeOf config) := by
  unfold routeOf
  rw [Object.getElem?_json]
  cases config["route"]? with
  | none => simp [Object.json]
  | some v =>
    simp only [Option.map_some, Option.bind_some, Value.asMap?_json]
    cases v.asMap? with
    | none => simp [Object.json]
    | some route => rfl

theorem routeReferences_json {config : Object} (h : ObjectLists config) :
    routeReferences (Object.json config) = routeReferences config := by
  have hrules : (routeRules (Object.json config)).map (fieldOf "outbound") =
      (routeRules config).map (fieldOf "outbound") := by
    unfold routeRules
    rw [routeOf_json, Object.getElem?_json]
    cases hv : (routeOf config)["rules"]? with
    | none => rfl
    | some v =>
      rw [Option.map_some, Option.bind_some, Option.bind_some,
        asList?_json fun ss heq => h.2 ss (heq ▸ hv)]
      cases v.asList? <;> simp
  rw [routeReferences, routeReferences, hrules, routeOf_json, Object.stringAt_json]

/-- Going through the file leaves no reference dangling. -/
theorem Closed.json {config : Object} (hclosed : Closed config) (h : ObjectLists config) :
    Closed (Object.json config) := by
  have htags : (existingOutbounds (Object.json config)).map tagOf =
      (existingOutbounds config).map tagOf := by
    simp [existingOutbounds_objectJson h]
  constructor
  · rw [htags, existingOutbounds_objectJson h]
    simpa using hclosed.group
  · rw [htags, routeReferences_json h]
    exact hclosed.route

theorem objectLists_of_json {config : Object} (h : Object.json config = config) :
    ObjectLists config := by
  have hfield {m : Object} (hm : Object.json m = m) (k : String) (ss : List String) :
      m[k]? ≠ some (.strs ss) := by
    intro hget
    have hjson := Object.getElem?_json m k
    rw [hm, hget] at hjson
    cases hjson
  refine ⟨hfield h "outbounds", hfield ?_ "rules"⟩
  rw [← routeOf_json, h]

theorem closed_empty : Closed ∅ := by
  constructor
  · intro outbound hmem
    simp [existingOutbounds] at hmem
  · intro tag hmem
    simp [routeReferences, routeRules, routeOf, Object.stringAt] at hmem

theorem mem_groupReferences {outbound : Value} {tag : String}
    (h : tag ∈ groupReferences outbound) :
    tag ∈ memberTags outbound ∨ tag = defaultOf outbound ∧ tag ≠ "" := by
  unfold groupReferences at h
  split_ifs at h
  · rcases List.mem_append.mp h with h | h
    · exact .inl h
    · rw [List.mem_filter, List.mem_singleton] at h
      exact .inr ⟨h.1, by simpa using h.2⟩
  · cases h

/-- A placed writer is one of those there were, or carries the members. -/
theorem OutboundWriter.mem_place {members : List String} {defaultTag : String}
    {ws : List OutboundWriter} {w : OutboundWriter} (h : w ∈ place members defaultTag ws)
    (existing : List Value) :
    w ∈ ws ∨
      memberTags (w.entry existing) = members ∧ defaultOf (w.entry existing) = defaultTag := by
  induction ws with
  | nil =>
    obtain rfl := List.mem_singleton.mp h
    refine .inr ⟨memberTags_proxySelector members defaultTag, ?_⟩
    simp only [entry, selector, proxySelector, fieldOf_toValue, Object.stringAt_insert]
    rfl
  | cons w' ws ih =>
    unfold place at h
    split_ifs at h
    · rcases List.mem_cons.mp h with rfl | h
      · refine .inr ⟨?_, ?_⟩
        · simp only [entry, withMembers, memberTags_toValue, GoMap.getElem?_insert]
          rfl
        · simp only [entry, withMembers, fieldOf_toValue, Object.stringAt_insert]
          rfl
      · exact .inl (List.mem_cons_of_mem _ h)
    · rcases List.mem_cons.mp h with rfl | h
      · exact .inl List.mem_cons_self
      · rcases ih h with h | h
        · exact .inl (List.mem_cons_of_mem _ h)
        · exact .inr h

namespace SyncInput

/-- The synchronised list has an outbound with this tag. -/
def Survives (input : SyncInput) (existing : List Value) (tag : String) : Prop :=
  tag = "direct" ∨ (∃ outbound ∈ input.kept existing, tagOf outbound = tag) ∨
    (∃ outbound ∈ input.stored, writtenTag outbound = tag) ∨ tag ∈ input.groupTags ∨
      input.FreshSelector existing ∧ tag = "proxy"

/-- The list had an outbound with this tag, and the synchronised one has not. -/
def Dropped (input : SyncInput) (existing : List Value) (tag : String) : Prop :=
  tag ∈ existing.map tagOf ∧ ¬input.Survives existing tag

theorem mem_map_tagOf_outbounds (input : SyncInput) (existing : List Value) (tag : String) :
    tag ∈ (input.outbounds existing).map tagOf ↔ input.Survives existing tag := by
  rw [outbounds_map_tagOf, Survives]
  simp only [List.cons_append, List.mem_cons, List.mem_append, List.mem_map]
  by_cases hfresh : input.FreshSelector existing <;> simp [hfresh, or_assoc]

/-- What a synchronisation must not do to leave no reference dangling: drop an outbound that a
kept group or the route section names, name a missing proxy selector as the final outbound,
or write a group with a member or default that the list does not have. -/
structure KeepsReferences (input : SyncInput) (config : Object) : Prop where
  kept : ∀ outbound ∈ input.kept (existingOutbounds config), ∀ tag ∈ groupReferences outbound,
    ¬input.Dropped (existingOutbounds config) tag
  route : ∀ tag ∈ routeReferences config, ¬input.Dropped (existingOutbounds config) tag
  final : (routeOf config).contains "final" = false →
    input.Survives (existingOutbounds config) "proxy"
  stored : ∀ outbound ∈ input.stored, ∀ tag ∈ groupReferences (Object.toValue (managedEntry
    (indexExistingOutbounds (existingOutbounds config))[outbound.tag]? outbound)),
      tag ≠ "" ∧ input.Survives (existingOutbounds config) tag
  member : ∀ subscription ∈ input.grouped, ∀ tag ∈ subscriptionProxyTags subscription,
    input.Survives (existingOutbounds config) tag
  carried : ∀ subscription ∈ input.grouped, ∀ entry,
    (indexExistingOutbounds (existingOutbounds config))[subscription.name]? = some entry →
      Object.stringAt entry "default" ≠ "" →
        input.Survives (existingOutbounds config) (Object.stringAt entry "default")

theorem survives_of_not_dropped {input : SyncInput} {existing : List Value} {tag : String}
    (hmem : tag ∈ existing.map tagOf) (h : ¬input.Dropped existing tag) :
    input.Survives existing tag := by
  by_contra hlost
  exact h ⟨hmem, hlost⟩

/-- The members of the proxy selector are in the list. -/
theorem survives_members {input : SyncInput} {existing : List Value}
    (hnamed : ∀ subscription ∈ input.grouped, subscription.name ≠ "") {tag : String}
    (h : tag ∈ input.groupTags ++ input.proxyTags existing) :
    tag ≠ "" ∧ input.Survives existing tag := by
  rcases List.mem_append.mp h with h | h
  · obtain ⟨subscription, hmem, rfl⟩ := List.mem_map.mp h
    exact ⟨hnamed subscription hmem, .inr (.inr (.inr (.inl h)))⟩
  · rw [proxyTags_eq] at h
    rcases List.mem_append.mp h with h | h
    · obtain ⟨outbound, hmem, rfl⟩ := List.mem_map.mp h
      rw [List.mem_filter] at hmem
      simp only [Bool.and_eq_true, bne_iff_ne, ne_eq] at hmem
      exact ⟨hmem.2.1.1, .inr (.inl ⟨outbound, hmem.1, rfl⟩)⟩
    · obtain ⟨outbound, hmem, rfl⟩ := List.mem_map.mp h
      rw [List.mem_filter] at hmem
      simp only [Bool.and_eq_true, bne_iff_ne, ne_eq] at hmem
      exact ⟨hmem.2.1.1, .inr (.inr (.inl ⟨outbound, hmem.1, rfl⟩))⟩

theorem defaultOf_subscriptionGroup (defaults : URLTestDefaults) (existing : Option Object)
    (subscription : Subscription) :
    defaultOf (Object.toValue (subscriptionGroup defaults existing subscription)) =
      Object.stringAt (existing.getD ∅) "default" := by
  rw [defaultOf_toValue, Object.stringAt, OutboundWriter.getElem?_subscriptionGroup]
  simp [OutboundWriter.groupOwn, Object.stringAt, getD_getElem?]

theorem routeOf_syncedConfig (input : SyncInput) (config : Object) :
    routeOf (syncedConfig input config) =
      if (routeOf config).contains "final" then routeOf config
      else (routeOf config).insert "final" (.str "proxy") := by
  have hroute (v : Value) : routeOf (config.insert "outbounds" v) = routeOf config := by
    simp [routeOf]
  rw [routeOf, syncedConfig, getElem?_ensureRouteFinal_route, hroute]
  simp

/-- The references of a written entry. -/
theorem KeepsReferences.entry {input : SyncInput} {config : Object}
    (h : input.KeepsReferences config) {w : OutboundWriter} (hw : w ∈ input.baseWriters) :
    ∀ tag ∈ groupReferences (w.entry (existingOutbounds config)),
      tag ≠ "" ∧ input.Survives (existingOutbounds config) tag := by
  rcases List.mem_append.mp hw with hw | hw
  · obtain ⟨outbound, hmem, rfl⟩ := List.mem_map.mp hw
    exact h.stored outbound hmem
  · obtain ⟨subscription, hmem, rfl⟩ := List.mem_map.mp hw
    intro tag htag
    rcases mem_groupReferences htag with htag | ⟨htag, hne⟩
    · have hmember : tag ∈ subscriptionProxyTags subscription := by
        rwa [OutboundWriter.entry, OutboundWriter.group, memberTags_subscriptionGroup] at htag
      refine ⟨?_, h.member subscription hmem tag hmember⟩
      obtain ⟨outbound, hout, rfl⟩ := List.mem_map.mp hmember
      rw [List.mem_filter] at hout
      simp only [Bool.and_eq_true, bne_iff_ne, ne_eq] at hout
      exact hout.2.2
    · refine ⟨hne, ?_⟩
      have hdefault := defaultOf_subscriptionGroup input.defaults
        (indexExistingOutbounds (existingOutbounds config))[subscription.name]? subscription
      rw [htag, OutboundWriter.entry, OutboundWriter.group]
      dsimp only
      rw [htag, OutboundWriter.entry, OutboundWriter.group] at hne
      dsimp only at hne
      rw [hdefault] at hne ⊢
      cases hentry : (indexExistingOutbounds (existingOutbounds config))[subscription.name]? with
      | none =>
        rw [hentry] at hne
        simp [Object.stringAt] at hne
      | some entry =>
        rw [hentry] at hne
        exact h.carried subscription hmem entry hentry hne

/-- A synchronisation that keeps the references leaves a closed configuration closed. -/
theorem closed_syncedConfig {input : SyncInput} {config : Object}
    (hnamed : ∀ subscription ∈ input.grouped, subscription.name ≠ "")
    (h : input.KeepsReferences config) (hclosed : Closed config) :
    Closed (syncedConfig input config) := by
  have hout := existingOutbounds_syncedConfig input config
  constructor
  · rw [hout]
    simp only [mem_map_tagOf_outbounds]
    intro outbound hmem
    rw [outbounds_eq, List.mem_append, List.mem_cons] at hmem
    rcases hmem with (rfl | hmem) | hmem
    · intro tag htag
      have hdirect : groupReferences directOutbound = [] := by decide
      rw [hdirect] at htag
      cases htag
    · intro tag htag
      obtain ⟨hne, hold⟩ := hclosed.group outbound (List.mem_of_mem_filter hmem) tag htag
      exact ⟨hne, survives_of_not_dropped hold (h.kept outbound hmem tag htag)⟩
    · obtain ⟨w, hw, rfl⟩ := List.mem_map.mp hmem
      unfold writers at hw
      cases hmembers : input.groupTags ++ input.proxyTags (existingOutbounds config) with
      | nil =>
        rw [hmembers] at hw
        exact h.entry hw
      | cons defaultTag rest =>
        rw [hmembers] at hw
        rcases OutboundWriter.mem_place hw (existingOutbounds config) with
          hw | ⟨hplaced, hdefault⟩
        · exact h.entry hw
        · intro tag htag
          apply survives_members hnamed
          rw [hmembers]
          rcases mem_groupReferences htag with htag | ⟨rfl, -⟩
          · rwa [hplaced] at htag
          · rw [hdefault]
            exact List.mem_cons_self
  · rw [hout]
    simp only [mem_map_tagOf_outbounds]
    intro tag htag
    have hold : tag ∈ routeReferences config →
        input.Survives (existingOutbounds config) tag := fun hmem =>
      survives_of_not_dropped (hclosed.route tag hmem) (h.route tag hmem)
    rw [routeReferences, routeRules, routeOf_syncedConfig] at htag
    split_ifs at htag with hfinal
    · exact hold htag
    · rw [List.mem_filter, List.mem_cons] at htag
      obtain ⟨htag, hne⟩ := htag
      rcases htag with rfl | htag
      · simpa [Object.stringAt_insert, Value.asStr?] using
          h.final (Bool.eq_false_iff.mpr hfinal)
      · apply hold
        rw [routeReferences, List.mem_filter]
        refine ⟨List.mem_cons_of_mem _ ?_, hne⟩
        simpa [routeRules] using htag

end SyncInput

end Boxui.API
