import Boxui.Library.GoValue
import Mathlib.Data.List.Induction

/-! The default outbounds: the direct, bypass and block outbounds, and the groups that choose
between them and the proxies. What the configuration has is indexed by tag, so that of two
outbounds with one tag the last one stays, in the place of the first. -/
namespace Boxui.Core
open GoValue

structure OutboundDefaultsResult where
  outbounds : List Value
  final : String
  installed : List Object

def isProxyCandidate (ob : Object) : Bool :=
  !(["", "direct", "block", "dns", "selector", "urltest"].contains (Object.stringAt ob "type"))

/-- What `install` collects: the outbounds by tag, the order of the tags, and the tags that
may become members of a new group. -/
structure OutboundIndex where
  outboundsByTag : GoMap Object
  order : List String
  proxyCandidates : List String

namespace OutboundIndex

def add (index : OutboundIndex) (item : Value) : OutboundIndex :=
  match item.asMap? with
  | none => index
  | some ob =>
    let tag := Object.stringAt ob "tag"
    if tag = "" then index
    else
      { outboundsByTag := index.outboundsByTag.insert tag ob
        order := index.order ++ [tag]
        proxyCandidates :=
          if isProxyCandidate ob then index.proxyCandidates ++ [tag] else index.proxyCandidates }

def ensureBuiltin (tag typ : String) (index : OutboundIndex) : OutboundIndex :=
  if index.outboundsByTag.contains tag then index
  else
    { index with
      outboundsByTag := index.outboundsByTag.insert tag
        (((∅ : Object).insert "tag" (.str tag)).insert "type" (.str typ))
      order := index.order ++ [tag] }

def remove (tag : String) (index : OutboundIndex) : OutboundIndex :=
  { index with outboundsByTag := index.outboundsByTag.erase tag }

def setRoutingMark (tag : String) (index : OutboundIndex) : OutboundIndex :=
  match index.outboundsByTag[tag]? with
  | none => index
  | some ob =>
    { index with
      outboundsByTag := index.outboundsByTag.insert tag (ob.insert "routing_mark" (.int 128)) }

/-- A group that is there keeps its members and its default, and only gets the type. -/
def upsertGroup (tag typ : String) (members : List String) (index : OutboundIndex) :
    OutboundIndex :=
  match index.outboundsByTag[tag]? with
  | none =>
    { index with
      outboundsByTag := index.outboundsByTag.insert tag ((((∅ : Object).insert "tag"
        (.str tag)).insert "type" (.str typ)).insert "outbounds" (.strs members))
      order := index.order ++ [tag] }
  | some group =>
    { index with
      outboundsByTag := index.outboundsByTag.insert tag (group.insert "type" (.str typ)) }

/-- The outbounds in order, each tag at its first place. -/
def outbounds (index : OutboundIndex) : List (String × Object) :=
  index.order.eraseDups.filterMap fun tag => index.outboundsByTag[tag]?.map fun ob => (tag, ob)

theorem getElem?_ensureBuiltin (index : OutboundIndex) (tag typ k : String) :
    (index.ensureBuiltin tag typ).outboundsByTag[k]? = index.outboundsByTag[k]?.or
      (if k = tag then some (((∅ : Object).insert "tag" (.str tag)).insert "type" (.str typ))
       else none) := by
  unfold ensureBuiltin
  rw [Std.ExtTreeMap.contains_eq_isSome_getElem?]
  by_cases hk : k = tag
  · subst hk
    cases h : index.outboundsByTag[k]? <;> simp [h]
  · split_ifs <;> simp [Ne.symm hk, GoMap.getElem?_insert]

theorem getElem?_remove (index : OutboundIndex) (tag k : String) :
    (index.remove tag).outboundsByTag[k]? =
      if k = tag then none else index.outboundsByTag[k]? := by
  simp [remove, eq_comm]

theorem getElem?_setRoutingMark (index : OutboundIndex) (tag k : String) :
    (index.setRoutingMark tag).outboundsByTag[k]? = index.outboundsByTag[k]?.map fun ob =>
      if k = tag then ob.insert "routing_mark" (.int 128) else ob := by
  unfold setRoutingMark
  by_cases hk : k = tag
  · subst hk
    cases h : index.outboundsByTag[k]? <;> simp [h]
  · cases h : index.outboundsByTag[tag]? <;> simp [hk, Ne.symm hk, GoMap.getElem?_insert]

/-- What `upsertGroup` puts under the tag of the group. -/
def group (tag typ : String) (members : List String) : Option Object → Object
  | none => (((∅ : Object).insert "tag" (.str tag)).insert "type" (.str typ)).insert "outbounds"
      (.strs members)
  | some group => group.insert "type" (.str typ)

theorem getElem?_upsertGroup (index : OutboundIndex) (tag typ k : String)
    (members : List String) :
    (index.upsertGroup tag typ members).outboundsByTag[k]? =
      if k = tag then some (group tag typ members index.outboundsByTag[tag]?)
      else index.outboundsByTag[k]? := by
  unfold upsertGroup
  cases h : index.outboundsByTag[tag]? <;> simp [group, GoMap.getElem?_insert, eq_comm]

/-- Every indexed outbound is in the order, and under its own tag. -/
structure Sound (index : OutboundIndex) : Prop where
  mem_order : ∀ (tag : String) (ob : Object), index.outboundsByTag[tag]? = some ob →
    tag ∈ index.order
  tag_eq : ∀ (tag : String) (ob : Object), index.outboundsByTag[tag]? = some ob →
    tag ≠ "" ∧ Object.stringAt ob "tag" = tag

theorem mem_outbounds {index : OutboundIndex} (h : index.Sound) (p : String × Object) :
    p ∈ index.outbounds ↔ index.outboundsByTag[p.1]? = some p.2 := by
  obtain ⟨tag, ob⟩ := p
  simp only [outbounds, List.mem_filterMap, List.mem_eraseDups, Option.map_eq_some_iff,
    Prod.mk.injEq]
  constructor
  · rintro ⟨tag', -, ob', hget, rfl, rfl⟩
    exact hget
  · intro hget
    exact ⟨tag, h.mem_order tag ob hget, ob, hget, rfl, rfl⟩

theorem Sound.empty : (⟨∅, [], []⟩ : OutboundIndex).Sound := by
  constructor <;> intro tag ob h <;> simp at h

theorem Sound.add {index : OutboundIndex} (h : index.Sound) (item : Value) :
    (index.add item).Sound := by
  unfold OutboundIndex.add
  cases item.asMap? with
  | none => exact h
  | some ob =>
    dsimp only
    split_ifs with htag
    · exact h
    all_goals
      constructor
      · intro tag ob' hget
        simp only [GoMap.getElem?_insert] at hget
        split_ifs at hget with heq
        · simp [heq]
        · exact List.mem_append_left _ (h.mem_order tag ob' hget)
      · intro tag ob' hget
        simp only [GoMap.getElem?_insert] at hget
        split_ifs at hget with heq
        · obtain rfl := Option.some.inj hget
          exact ⟨heq ▸ htag, heq⟩
        · exact h.tag_eq tag ob' hget

theorem candidates_add {index : OutboundIndex}
    (h : ∀ tag ∈ index.proxyCandidates, (index.outboundsByTag[tag]?).isSome = true)
    (item : Value) : ∀ tag ∈ (index.add item).proxyCandidates,
      ((index.add item).outboundsByTag[tag]?).isSome = true := by
  unfold OutboundIndex.add
  cases item.asMap? with
  | none => exact h
  | some ob =>
    dsimp only
    by_cases htag : Object.stringAt ob "tag" = ""
    · rw [if_pos htag]
      exact h
    · rw [if_neg htag]
      intro tag hmem
      simp only [GoMap.getElem?_insert]
      by_cases heq : Object.stringAt ob "tag" = tag
      · simp [heq]
      · rw [if_neg heq]
        apply h
        dsimp only at hmem
        split_ifs at hmem
        · exact (List.mem_append.mp hmem).resolve_right
            fun hlast => heq (List.mem_singleton.mp hlast).symm
        · exact hmem

theorem Sound.ensureBuiltin {index : OutboundIndex} (h : index.Sound) {tag : String} (typ : String)
    (htag : tag ≠ "") : (index.ensureBuiltin tag typ).Sound := by
  constructor
  · intro k ob hget
    rw [getElem?_ensureBuiltin, Option.or_eq_some_iff] at hget
    have horder : index.order ⊆ (index.ensureBuiltin tag typ).order := by
      unfold OutboundIndex.ensureBuiltin
      split_ifs
      · exact List.Subset.refl _
      · exact List.subset_append_left _ _
    rcases hget with hold | ⟨hnone, hnew⟩
    · exact horder (h.mem_order k ob hold)
    · split_ifs at hnew with hk
      subst hk
      unfold OutboundIndex.ensureBuiltin
      rw [Std.ExtTreeMap.contains_eq_isSome_getElem?, hnone]
      simp
  · intro k ob hget
    rw [getElem?_ensureBuiltin, Option.or_eq_some_iff] at hget
    rcases hget with hold | ⟨-, hnew⟩
    · exact h.tag_eq k ob hold
    · split_ifs at hnew with hk
      obtain rfl := Option.some.inj hnew
      subst hk
      exact ⟨htag, by simp [Object.stringAt_insert, Value.asStr?]⟩

theorem Sound.remove {index : OutboundIndex} (h : index.Sound) (tag : String) :
    (index.remove tag).Sound := by
  have hget {k : String} {ob : Object} (hk : (index.remove tag).outboundsByTag[k]? = some ob) :
      index.outboundsByTag[k]? = some ob := by
    rw [getElem?_remove] at hk
    split_ifs at hk
    exact hk
  exact ⟨fun k ob hk => h.mem_order k ob (hget hk), fun k ob hk => h.tag_eq k ob (hget hk)⟩

theorem Sound.setRoutingMark {index : OutboundIndex} (h : index.Sound) (tag : String) :
    (index.setRoutingMark tag).Sound := by
  have horder : (index.setRoutingMark tag).order = index.order := by
    unfold OutboundIndex.setRoutingMark
    cases index.outboundsByTag[tag]? <;> rfl
  constructor
  · intro k ob hget
    rw [getElem?_setRoutingMark, Option.map_eq_some_iff] at hget
    obtain ⟨ob', hold, -⟩ := hget
    rw [horder]
    exact h.mem_order k ob' hold
  · intro k ob hget
    rw [getElem?_setRoutingMark, Option.map_eq_some_iff] at hget
    obtain ⟨ob', hold, rfl⟩ := hget
    obtain ⟨hne, htag⟩ := h.tag_eq k ob' hold
    refine ⟨hne, ?_⟩
    split_ifs
    · simpa [Object.stringAt_insert] using htag
    · exact htag

theorem Sound.upsertGroup {index : OutboundIndex} (h : index.Sound) {tag : String} (typ : String)
    (members : List String) (htag : tag ≠ "") : (index.upsertGroup tag typ members).Sound := by
  constructor
  · intro k ob hget
    rw [getElem?_upsertGroup] at hget
    unfold OutboundIndex.upsertGroup
    cases hold : index.outboundsByTag[tag]? with
    | none =>
      split_ifs at hget with hk
      · simp [hk]
      · exact List.mem_append_left _ (h.mem_order k ob hget)
    | some group =>
      split_ifs at hget with hk
      · rw [hk]
        exact h.mem_order tag group hold
      · exact h.mem_order k ob hget
  · intro k ob hget
    rw [getElem?_upsertGroup] at hget
    split_ifs at hget with hk
    · obtain rfl := Option.some.inj hget
      subst hk
      refine ⟨htag, ?_⟩
      cases hold : index.outboundsByTag[k]? with
      | none => simp [group, Object.stringAt_insert, Value.asStr?]
      | some old => simpa [group, Object.stringAt_insert] using (h.tag_eq k old hold).2
    · exact h.tag_eq k ob hget

end OutboundIndex

namespace DefaultOutboundsInstaller

def builtinTags : List String :=
  ["direct", "bypass", "block", "proxy", "auto", "whitelist", "blacklist"]

def indexed (existing : List Value) : OutboundIndex :=
  existing.foldl OutboundIndex.add ⟨∅, [], []⟩

/-- The members of new groups, which are never empty. -/
def groupMembers (existing : List Value) : List String :=
  match (indexed existing).proxyCandidates with
  | [] => ["direct"]
  | candidates => candidates

/-- The plain outbounds, before the groups. -/
def withBuiltins (existing : List Value) : OutboundIndex :=
  (indexed existing).ensureBuiltin "direct" "direct"
    |>.ensureBuiltin "bypass" "direct"
    |>.ensureBuiltin "block" "block"
    |>.remove "dns-out"
    |>.setRoutingMark "direct"
    |>.setRoutingMark "bypass"

def withAuto (members : List String) (index : OutboundIndex) : OutboundIndex :=
  if members ≠ ["direct"] then index.upsertGroup "auto" "urltest" members else index

def withGroups (existing : List Value) : OutboundIndex :=
  let members := groupMembers existing
  (withBuiltins existing).upsertGroup "proxy" "selector" members
    |> withAuto members
    |>.upsertGroup "whitelist" "selector" ["bypass", "proxy"]
    |>.upsertGroup "blacklist" "selector" ["block", "proxy"]

def install (cfg : Object) : OutboundDefaultsResult :=
  let outbounds := (withGroups ((cfg["outbounds"]?.bind Value.asList?).getD [])).outbounds
  { outbounds := outbounds.map fun p => Object.toValue p.2
    final := "proxy"
    installed := (outbounds.filter fun p => builtinTags.contains p.1).map Prod.snd }

theorem indexed_sound (existing : List Value) : (indexed existing).Sound := by
  induction existing using List.reverseRecOn with
  | nil => exact .empty
  | append_singleton existing item ih =>
    unfold indexed at ih ⊢
    rw [List.foldl_append]
    exact ih.add item

theorem withGroups_sound (existing : List Value) : (withGroups existing).Sound := by
  have hbuiltins : (withBuiltins existing).Sound :=
    (((indexed_sound existing).ensureBuiltin "direct" (by decide)).ensureBuiltin "direct"
      (by decide)).ensureBuiltin "block" (by decide) |>.remove "dns-out"
        |>.setRoutingMark "direct" |>.setRoutingMark "bypass"
  have hproxy := hbuiltins.upsertGroup "selector" (groupMembers existing)
    (show "proxy" ≠ "" by decide)
  have hauto : (withAuto (groupMembers existing)
      ((withBuiltins existing).upsertGroup "proxy" "selector" (groupMembers existing))).Sound := by
    unfold withAuto
    split_ifs
    · exact hproxy.upsertGroup "urltest" _ (by decide)
    · exact hproxy
  exact (hauto.upsertGroup "selector" _ (by decide)).upsertGroup "selector" _ (by decide)

/-- What the plain outbounds are: those of the configuration but for "dns-out", up to a
routing mark, and the built-in ones it does not have. -/
theorem withBuiltins_cases (existing : List Value) {tag : String} {ob : Object}
    (h : (withBuiltins existing).outboundsByTag[tag]? = some ob) :
    tag ≠ "dns-out" ∧
      ((∃ entry, (indexed existing).outboundsByTag[tag]? = some entry ∧
        (ob = entry ∨ ob = entry.insert "routing_mark" (.int 128))) ∨
      Object.stringAt ob "type" = "direct" ∨ Object.stringAt ob "type" = "block") := by
  have hkept {k typ : String} {index : OutboundIndex} {ob : Object}
      (hget : (index.ensureBuiltin k typ).outboundsByTag[tag]? = some ob) :
      index.outboundsByTag[tag]? = some ob ∨ Object.stringAt ob "type" = typ := by
    rw [OutboundIndex.getElem?_ensureBuiltin, Option.or_eq_some_iff] at hget
    rcases hget with hget | ⟨-, hget⟩
    · exact .inl hget
    · split_ifs at hget
      obtain rfl := Option.some.inj hget
      exact .inr (by simp [Object.stringAt_insert, Value.asStr?])
  unfold withBuiltins at h
  simp only [OutboundIndex.getElem?_setRoutingMark, OutboundIndex.getElem?_remove,
    Option.map_map, Option.map_eq_some_iff] at h
  obtain ⟨entry, hget, hob⟩ := h
  split_ifs at hget with hdns
  refine ⟨hdns, ?_⟩
  have hmark : ob = entry ∨ ob = entry.insert "routing_mark" (.int 128) := by
    rw [← hob]
    by_cases hdirect : tag = "direct"
    · subst hdirect
      exact .inr (by simp)
    · by_cases hbypass : tag = "bypass"
      · subst hbypass
        exact .inr (by simp)
      · exact .inl (by simp [hdirect, hbypass])
  have htype : Object.stringAt ob "type" = Object.stringAt entry "type" := by
    rcases hmark with rfl | rfl
    · rfl
    · simp [Object.stringAt_insert]
  rw [htype]
  rcases hkept hget with hget | hblock
  · rcases hkept hget with hget | hdirect
    · rcases hkept hget with hget | hdirect
      · exact .inl ⟨entry, hget, hmark⟩
      · exact .inr (.inl hdirect)
    · exact .inr (.inl hdirect)
  · exact .inr (.inr hblock)

theorem isSome_withBuiltins (existing : List Value) {tag : String} (hdns : tag ≠ "dns-out")
    (h : ((indexed existing).outboundsByTag[tag]?).isSome = true ∨
      tag ∈ ["direct", "bypass", "block"]) :
    ((withBuiltins existing).outboundsByTag[tag]?).isSome = true := by
  unfold withBuiltins
  simp only [OutboundIndex.getElem?_setRoutingMark, OutboundIndex.getElem?_remove,
    OutboundIndex.getElem?_ensureBuiltin, hdns, if_false, Option.isSome_map, Option.isSome_or]
  rcases h with h | h
  · simp [h]
  · simp only [List.mem_cons, List.not_mem_nil, or_false] at h
    rcases h with rfl | rfl | rfl <;> simp

theorem getElem?_withBuiltins (existing : List Value) {tag : String}
    (htag : tag ∉ ["direct", "bypass", "block", "dns-out"]) :
    (withBuiltins existing).outboundsByTag[tag]? = (indexed existing).outboundsByTag[tag]? := by
  simp only [List.mem_cons, List.not_mem_nil, or_false, not_or] at htag
  obtain ⟨hdirect, hbypass, hblock, hdns⟩ := htag
  unfold withBuiltins
  simp [OutboundIndex.getElem?_setRoutingMark, OutboundIndex.getElem?_remove,
    OutboundIndex.getElem?_ensureBuiltin, hdirect, hbypass, hblock, hdns]

/-- The groups by tag, and the plain outbounds under every other tag. -/
theorem getElem?_withGroups (existing : List Value) (tag : String) :
    (withGroups existing).outboundsByTag[tag]? =
      if tag = "blacklist" then some (OutboundIndex.group tag "selector" ["block", "proxy"]
        (indexed existing).outboundsByTag[tag]?)
      else if tag = "whitelist" then some (OutboundIndex.group tag "selector" ["bypass", "proxy"]
        (indexed existing).outboundsByTag[tag]?)
      else if tag = "auto" ∧ groupMembers existing ≠ ["direct"] then
        some (OutboundIndex.group tag "urltest" (groupMembers existing)
          (indexed existing).outboundsByTag[tag]?)
      else if tag = "proxy" then some (OutboundIndex.group tag "selector" (groupMembers existing)
        (indexed existing).outboundsByTag[tag]?)
      else (withBuiltins existing).outboundsByTag[tag]? := by
  have hauto (index : OutboundIndex) (k : String) :
      (withAuto (groupMembers existing) index).outboundsByTag[k]? =
        if k = "auto" ∧ groupMembers existing ≠ ["direct"] then
          some (OutboundIndex.group "auto" "urltest" (groupMembers existing)
            index.outboundsByTag["auto"]?)
        else index.outboundsByTag[k]? := by
    unfold withAuto
    by_cases hmembers : groupMembers existing = ["direct"]
    · simp [hmembers]
    · simp [hmembers, OutboundIndex.getElem?_upsertGroup]
  have hbase {k : String} (hk : k ∉ ["direct", "bypass", "block", "dns-out"]) :=
    getElem?_withBuiltins existing hk
  unfold withGroups
  simp only [OutboundIndex.getElem?_upsertGroup, hauto]
  by_cases hblacklist : tag = "blacklist"
  · subst hblacklist
    simp [hbase (k := "blacklist") (by decide)]
  · by_cases hwhitelist : tag = "whitelist"
    · subst hwhitelist
      simp [hbase (k := "whitelist") (by decide)]
    · by_cases htagAuto : tag = "auto"
      · subst htagAuto
        simp [hbase (k := "auto") (by decide)]
      · by_cases hproxy : tag = "proxy"
        · subst hproxy
          simp [hbase (k := "proxy") (by decide)]
        · simp [hblacklist, hwhitelist, htagAuto, hproxy]

/-- A candidate is an indexed outbound. -/
theorem mem_proxyCandidates (existing : List Value) : ∀ tag ∈ (indexed existing).proxyCandidates,
    ((indexed existing).outboundsByTag[tag]?).isSome = true := by
  induction existing using List.reverseRecOn with
  | nil => simp [indexed]
  | append_singleton existing item ih =>
    unfold indexed at ih ⊢
    rw [List.foldl_append]
    exact OutboundIndex.candidates_add ih item

end DefaultOutboundsInstaller

end Boxui.Core
