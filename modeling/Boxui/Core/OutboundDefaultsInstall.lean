import Boxui.Core.OutboundDefaults
import Boxui.Library.Reconcile
import Mathlib.Data.List.Forall2

/-! What installing the default outbounds keeps of a configuration, and that installing them
again changes nothing. -/
namespace Boxui.Core
open GoValue Reconcile

theorem nodup_eraseDups {α : Type*} [DecidableEq α] (l : List α) : l.eraseDups.Nodup := by
  induction hn : l.length using Nat.strong_induction_on generalizing l with
  | _ n ih =>
    cases l with
    | nil => exact List.nodup_nil
    | cons a l =>
      have hlength := List.length_filter_le (fun b => !b == a) l
      rw [List.length_cons] at hn
      rw [List.eraseDups_cons, List.nodup_cons, List.mem_eraseDups]
      exact ⟨by simp, ih _ (by omega) _ rfl⟩

theorem eraseDups_of_nodup {α : Type*} [DecidableEq α] {l : List α} (h : l.Nodup) :
    l.eraseDups = l := by
  induction l with
  | nil => rfl
  | cons a l ih =>
    obtain ⟨hmem, hnodup⟩ := List.nodup_cons.mp h
    have hkeep : (l.filter fun b => !b == a) = l := by
      rw [List.filter_eq_self]
      intro b hb
      have hne : b ≠ a := fun heq => hmem (heq ▸ hb)
      simpa using hne
    rw [List.eraseDups_cons, hkeep, ih hnodup]

namespace OutboundIndex

theorem order_ensureBuiltin (index : OutboundIndex) (tag typ : String) :
    index.order <+: (index.ensureBuiltin tag typ).order := by
  unfold ensureBuiltin
  split_ifs
  · exact List.prefix_refl _
  · exact List.prefix_append _ _

theorem order_setRoutingMark (index : OutboundIndex) (tag : String) :
    (index.setRoutingMark tag).order = index.order := by
  unfold setRoutingMark
  cases index.outboundsByTag[tag]? <;> rfl

theorem order_upsertGroup (index : OutboundIndex) (tag typ : String) (members : List String) :
    index.order <+: (index.upsertGroup tag typ members).order := by
  unfold upsertGroup
  cases index.outboundsByTag[tag]? with
  | none => exact List.prefix_append _ _
  | some group => exact List.prefix_refl _

theorem map_fst_outbounds (index : OutboundIndex) : index.outbounds.map Prod.fst =
    index.order.eraseDups.filter fun tag => (index.outboundsByTag[tag]?).isSome := by
  rw [outbounds, List.map_filterMap]
  generalize index.order.eraseDups = order
  induction order with
  | nil => rfl
  | cons tag order ih =>
    rw [List.filterMap_cons, List.filter_cons, ← ih]
    cases index.outboundsByTag[tag]? <;> rfl

theorem nodup_outbounds (index : OutboundIndex) : (index.outbounds.map Prod.fst).Nodup := by
  rw [map_fst_outbounds]
  exact (nodup_eraseDups _).filter _

end OutboundIndex

namespace DefaultOutboundsInstaller

/-- An outbound that the index holds, with its tag. -/
def taggedOutbound (item : Value) : Option (String × Object) :=
  item.asMap?.bind fun ob =>
    if Object.stringAt ob "tag" = "" then none else some (Object.stringAt ob "tag", ob)

def tagged (existing : List Value) : List (String × Object) := existing.filterMap taggedOutbound

theorem tagged_append (existing existing' : List Value) :
    tagged (existing ++ existing') = tagged existing ++ tagged existing' :=
  List.filterMap_append

/-- What indexing the outbounds of a configuration amounts to. -/
structure Indexes (index : OutboundIndex) (entries : List (String × Object)) : Prop where
  order : index.order = entries.map Prod.fst
  candidates : index.proxyCandidates =
    (entries.filter fun p => isProxyCandidate p.2).map Prod.fst
  lookup : ∀ tag, index.outboundsByTag[tag]? = (latest Prod.fst entries tag).map Prod.snd

theorem Indexes.add {index : OutboundIndex} {entries : List (String × Object)}
    (h : Indexes index entries) (item : Value) :
    Indexes (index.add item) (entries ++ (taggedOutbound item).toList) := by
  unfold OutboundIndex.add taggedOutbound
  cases item.asMap? with
  | none => simpa using h
  | some ob =>
    by_cases htag : Object.stringAt ob "tag" = ""
    · simpa [htag] using h
    · simp only [htag, if_false, Option.bind_some, Option.toList_some]
      constructor
      · simp [h.order]
      · rw [List.filter_append, List.map_append, ← h.candidates]
        by_cases hcandidate : isProxyCandidate ob = true <;> simp [hcandidate]
      · intro tag
        rw [latest_append, GoMap.getElem?_insert, h.lookup]
        by_cases heq : Object.stringAt ob "tag" = tag <;> simp [latest, heq]

theorem indexes_indexed (existing : List Value) : Indexes (indexed existing) (tagged existing) := by
  induction existing using List.reverseRecOn with
  | nil => exact ⟨rfl, rfl, fun _ => by simp [indexed, tagged, latest]⟩
  | append_singleton existing item ih =>
    have hlast : tagged [item] = (taggedOutbound item).toList := by
      unfold tagged
      cases h : taggedOutbound item <;> simp [h]
    rw [tagged_append, hlast]
    unfold indexed at ih ⊢
    rw [List.foldl_append]
    exact ih.add item

theorem order_withAuto (members : List String) (index : OutboundIndex) :
    index.order <+: (withAuto members index).order := by
  unfold withAuto
  split_ifs
  · exact OutboundIndex.order_upsertGroup _ _ _ _
  · exact List.prefix_refl _

/-- What the installation adds comes after the outbounds of the configuration. -/
theorem order_withGroups (existing : List Value) :
    (indexed existing).order <+: (withGroups existing).order := by
  have hbuiltins : (indexed existing).order <+: (withBuiltins existing).order := by
    unfold withBuiltins
    rw [OutboundIndex.order_setRoutingMark, OutboundIndex.order_setRoutingMark]
    exact ((OutboundIndex.order_ensureBuiltin _ _ _).trans
      (OutboundIndex.order_ensureBuiltin _ _ _)).trans (OutboundIndex.order_ensureBuiltin _ _ _)
  unfold withGroups
  exact (((hbuiltins.trans (OutboundIndex.order_upsertGroup _ _ _ _)).trans
    (order_withAuto _ _)).trans (OutboundIndex.order_upsertGroup _ _ _ _)).trans
      (OutboundIndex.order_upsertGroup _ _ _ _)

def existingOutbounds (cfg : Object) : List Value := (cfg["outbounds"]?.bind Value.asList?).getD []

theorem install_outbounds (cfg : Object) : (install cfg).outbounds =
    (withGroups (existingOutbounds cfg)).outbounds.map fun p => Object.toValue p.2 := rfl

/-- The outbounds that are to be kept: of those with one tag the last, in the place of the
first, and none under "dns-out". -/
def keptOutbounds (existing : List Value) : List (String × Object) :=
  (((tagged existing).map Prod.fst).eraseDups.filter (· ≠ "dns-out")).filterMap
    (latest Prod.fst (tagged existing))

/-- The type that the group of a tag is given. -/
def syncedType (existing : List Value) (tag : String) : Option String :=
  if tag ∈ ["proxy", "whitelist", "blacklist"] then some "selector"
  else if tag = "auto" ∧ groupMembers existing ≠ ["direct"] then some "urltest"
  else none

def isGroup (ob : Object) : Bool := ["selector", "urltest"].contains (Object.stringAt ob "type")

/-- What the installation makes of an outbound: the plain outbounds get a routing mark, and
the type of a group is brought into line. Nothing is said of the type of an outbound that has
the tag of a group and is none. -/
structure KeptAs (existing : List Value) (before : String × Object) (after : Object) : Prop where
  field : ∀ k, k ≠ "type" → (k = "routing_mark" → before.1 ∉ ["direct", "bypass"]) →
    after[k]? = before.2[k]?
  type : ((syncedType existing before.1).isSome = true → isGroup before.2 = true) →
    after["type"]? = ((syncedType existing before.1).map Value.str).or before.2["type"]?

theorem getElem?_withBuiltins_of_some {existing : List Value} {tag : String} {ob : Object}
    (h : (indexed existing).outboundsByTag[tag]? = some ob) (hdns : tag ≠ "dns-out") :
    (withBuiltins existing).outboundsByTag[tag]? =
      some (if tag ∈ ["direct", "bypass"] then ob.insert "routing_mark" (.int 128) else ob) := by
  unfold withBuiltins
  simp only [OutboundIndex.getElem?_setRoutingMark, OutboundIndex.getElem?_remove,
    OutboundIndex.getElem?_ensureBuiltin, h, hdns, if_false, Option.some_or, Option.map_some]
  by_cases hdirect : tag = "direct"
  · simp [hdirect]
  · by_cases hbypass : tag = "bypass"
    · simp [hbypass]
    · simp [hdirect, hbypass]

/-- An outbound that is there, with the type of its group if its tag is that of a group. -/
def keptObject (existing : List Value) (tag : String) (ob : Object) : Object :=
  match syncedType existing tag with
  | some typ => ob.insert "type" (.str typ)
  | none => if tag ∈ ["direct", "bypass"] then ob.insert "routing_mark" (.int 128) else ob

theorem getElem?_withGroups_of_some {existing : List Value} {tag : String} {ob : Object}
    (h : (indexed existing).outboundsByTag[tag]? = some ob) (hdns : tag ≠ "dns-out") :
    (withGroups existing).outboundsByTag[tag]? = some (keptObject existing tag ob) := by
  rw [getElem?_withGroups, h, keptObject]
  by_cases hblacklist : tag = "blacklist"
  · subst hblacklist
    rfl
  by_cases hwhitelist : tag = "whitelist"
  · subst hwhitelist
    rfl
  by_cases hproxy : tag = "proxy"
  · subst hproxy
    rfl
  by_cases hauto : tag = "auto" ∧ groupMembers existing ≠ ["direct"]
  · obtain ⟨rfl, hmembers⟩ := hauto
    simp [syncedType, hmembers, OutboundIndex.group]
  · have hnone : syncedType existing tag = none := by
      unfold syncedType
      rw [if_neg (by simp [hblacklist, hwhitelist, hproxy]), if_neg hauto]
    rw [if_neg hblacklist, if_neg hwhitelist, if_neg hauto, if_neg hproxy, hnone,
      getElem?_withBuiltins_of_some h hdns]

theorem getElem?_withGroups_dns (existing : List Value) :
    (withGroups existing).outboundsByTag["dns-out"]? = none := by
  rw [getElem?_withGroups]
  simp [withBuiltins, OutboundIndex.getElem?_setRoutingMark, OutboundIndex.getElem?_remove]

theorem keptAs_of_getElem? {existing : List Value} {before : String × Object} {after : Object}
    (h : (indexed existing).outboundsByTag[before.1]? = some before.2)
    (hdns : before.1 ≠ "dns-out")
    (hafter : (withGroups existing).outboundsByTag[before.1]? = some after) :
    KeptAs existing before after := by
  rw [getElem?_withGroups_of_some h hdns, Option.some_inj, keptObject] at hafter
  subst hafter
  cases hsynced : syncedType existing before.1 with
  | some typ =>
    refine ⟨fun k htype _ => ?_, fun _ => ?_⟩
    · simp [Ne.symm htype]
    · simp [hsynced]
  | none =>
    refine ⟨fun k _ hmark => ?_, fun _ => ?_⟩
    · by_cases hplain : before.1 ∈ ["direct", "bypass"]
      · have hne : "routing_mark" ≠ k := fun heq => hmark heq.symm hplain
        simp only [if_pos hplain, GoMap.getElem?_insert, if_neg hne]
      · simp only [if_neg hplain]
    · simp only [hsynced, Option.map_none, Option.none_or]
      split_ifs <;> simp

theorem isSome_latest {existing : List Value} {tag : String}
    (h : tag ∈ (tagged existing).map Prod.fst) :
    ∃ entry, latest Prod.fst (tagged existing) tag = some entry ∧ entry.1 = tag := by
  obtain ⟨p, hp, rfl⟩ := List.mem_map.mp h
  cases hlatest : latest Prod.fst (tagged existing) p.1 with
  | none =>
    have hne := List.find?_eq_none.mp hlatest p (List.mem_reverse.mpr hp)
    simp at hne
  | some entry => exact ⟨entry, rfl, tag_latest hlatest⟩

/-- The outbounds of a configuration that are to be kept come first, in order. -/
theorem install_keepsOutbounds (cfg : Object) : ∃ kept added,
    (install cfg).outbounds = kept ++ added ∧
      List.Forall₂ (fun before after => ∃ ob, Value.asMap? after = some ob ∧
        KeptAs (existingOutbounds cfg) before ob) (keptOutbounds (existingOutbounds cfg)) kept := by
  have hindex := indexes_indexed (existingOutbounds cfg)
  obtain ⟨extra, horder⟩ := order_withGroups (existingOutbounds cfg)
  rw [hindex.order] at horder
  rw [install_outbounds, OutboundIndex.outbounds, ← horder, List.eraseDups_append,
    List.filterMap_append, List.map_append]
  refine ⟨_, _, rfl, ?_⟩
  rw [List.forall₂_map_right_iff, keptOutbounds, List.filterMap_filter]
  refine List.rel_filterMap
    (R := fun tag tag' => tag = tag' ∧ tag ∈ (tagged (existingOutbounds cfg)).map Prod.fst)
    ?_ (List.forall₂_same.mpr fun tag htag => ⟨rfl, List.mem_eraseDups.mp htag⟩)
  rintro tag _ ⟨rfl, htag⟩
  dsimp only
  obtain ⟨before, hbefore, rfl⟩ := isSome_latest htag
  have hget : (indexed (existingOutbounds cfg)).outboundsByTag[before.1]? = some before.2 := by
    rw [hindex.lookup, hbefore, Option.map_some]
  by_cases hdns : before.1 = "dns-out"
  · rw [hdns, getElem?_withGroups_dns, if_neg (by simp)]
    exact Option.Rel.none
  · have hafter := getElem?_withGroups_of_some hget hdns
    rw [hafter, hbefore, if_pos (by simpa using hdns)]
    exact Option.Rel.some ⟨_, Value.asMap?_toValue _, keptAs_of_getElem? hget hdns hafter⟩

def outboundTag (item : Value) : String :=
  (item.asMap?.map fun ob => Object.stringAt ob "tag").getD ""

@[simp] theorem outboundTag_toValue (ob : Object) :
    outboundTag (Object.toValue ob) = Object.stringAt ob "tag" := by
  simp [outboundTag]

theorem map_outboundTag_install (cfg : Object) : (install cfg).outbounds.map outboundTag =
    (withGroups (existingOutbounds cfg)).outbounds.map Prod.fst := by
  have hsound := withGroups_sound (existingOutbounds cfg)
  rw [install_outbounds, List.map_map]
  apply List.map_congr_left
  intro p hp
  rw [Function.comp_apply, outboundTag_toValue]
  exact (hsound.tag_eq p.1 p.2 ((OutboundIndex.mem_outbounds hsound p).mp hp)).2

/-- What holds of the outbounds of every installation. -/
structure WellInstalled (outbounds : List Value) : Prop where
  object : ∀ item ∈ outbounds, item.asMap?.isSome = true
  tag : "" ∉ outbounds.map outboundTag
  nodup : (outbounds.map outboundTag).Nodup
  builtin : ["direct", "bypass", "block", "proxy", "whitelist", "blacklist"] ⊆
    outbounds.map outboundTag
  dns : "dns-out" ∉ outbounds.map outboundTag

theorem mem_map_fst_outbounds (existing : List Value) (tag : String) :
    tag ∈ (withGroups existing).outbounds.map Prod.fst ↔
      ((withGroups existing).outboundsByTag[tag]?).isSome = true := by
  have hsound := withGroups_sound existing
  rw [OutboundIndex.map_fst_outbounds, List.mem_filter, List.mem_eraseDups, and_iff_right_iff_imp]
  intro h
  obtain ⟨ob, hob⟩ := Option.isSome_iff_exists.mp h
  exact hsound.mem_order tag ob hob

theorem isSome_builtin (existing : List Value) {tag : String}
    (h : tag ∈ ["direct", "bypass", "block", "proxy", "whitelist", "blacklist"]) :
    ((withGroups existing).outboundsByTag[tag]?).isSome = true := by
  rw [getElem?_withGroups]
  split_ifs with hblacklist hwhitelist hauto hproxy
  · rfl
  · rfl
  · rfl
  · rfl
  · have hplain : tag ∈ ["direct", "bypass", "block"] := by
      simp only [List.mem_cons, List.not_mem_nil, or_false] at h ⊢
      tauto
    apply isSome_withBuiltins _ _ (.inr hplain)
    rintro rfl
    simp at hplain

theorem wellInstalled_install (cfg : Object) : WellInstalled (install cfg).outbounds := by
  have hsound := withGroups_sound (existingOutbounds cfg)
  constructor
  · intro item hitem
    rw [install_outbounds] at hitem
    obtain ⟨p, -, rfl⟩ := List.mem_map.mp hitem
    rw [Value.asMap?_toValue]
    rfl
  · rw [map_outboundTag_install, mem_map_fst_outbounds, Bool.not_eq_true,
      Option.isSome_eq_false_iff, Option.isNone_iff_eq_none]
    cases h : (withGroups (existingOutbounds cfg)).outboundsByTag[""]? with
    | none => rfl
    | some ob => exact absurd rfl (hsound.tag_eq "" ob h).1
  · rw [map_outboundTag_install]
    exact OutboundIndex.nodup_outbounds _
  · intro tag htag
    rw [map_outboundTag_install, mem_map_fst_outbounds]
    exact isSome_builtin _ htag
  · rw [map_outboundTag_install, mem_map_fst_outbounds, getElem?_withGroups_dns]
    simp

/-- The outbound is as it was, up to the routing mark of a plain outbound. -/
def Unchanged (before after : Value) : Prop :=
  match before.asMap? with
  | none => after = before
  | some ob => ∃ ob', after.asMap? = some ob' ∧
      ∀ k, (k = "routing_mark" → Object.stringAt ob "tag" ∉ ["direct", "bypass"]) →
        ob'[k]? = ob[k]?

/-- Every outbound but "dns-out" is kept as it was, in order, tagged or not. -/
def PreservesOutbounds (cfg : Object) : Prop :=
  List.SublistForall₂ Unchanged
    ((existingOutbounds cfg).filter fun item => outboundTag item ≠ "dns-out")
    (install cfg).outbounds

theorem Unchanged.outboundTag {before after : Value} (h : Unchanged before after) :
    outboundTag after = outboundTag before := by
  unfold Unchanged at h
  cases hmap : before.asMap? with
  | none =>
    rw [hmap] at h
    exact congrArg _ h
  | some ob =>
    rw [hmap] at h
    obtain ⟨ob', hafter, hfields⟩ := h
    have htag : ob'["tag"]? = ob["tag"]? := hfields "tag" fun heq => absurd heq (by decide)
    simp [DefaultOutboundsInstaller.outboundTag, hafter, hmap, Object.stringAt, htag]

/-- Outbounds can only be kept under the tags they have. -/
theorem PreservesOutbounds.tags {cfg : Object} (h : PreservesOutbounds cfg) :
    List.Sublist
      (((existingOutbounds cfg).filter fun item => outboundTag item ≠ "dns-out").map outboundTag)
      ((install cfg).outbounds.map outboundTag) := by
  obtain ⟨kept, hkept, hsub⟩ := List.sublistForall₂_iff.mp h
  have htags : List.Forall₂ (fun before after => outboundTag before = outboundTag after)
      ((existingOutbounds cfg).filter fun item => outboundTag item ≠ "dns-out") kept :=
    hkept.imp fun _ _ hunchanged => hunchanged.outboundTag.symm
  have hmap : ((existingOutbounds cfg).filter fun item => outboundTag item ≠ "dns-out").map
      outboundTag = kept.map outboundTag := by
    rwa [← List.forall₂_eq_eq_eq, List.forall₂_map_left_iff, List.forall₂_map_right_iff]
  rw [hmap]
  exact hsub.map _

theorem PreservesOutbounds.entry {cfg : Object} (h : PreservesOutbounds cfg) {item : Value}
    (hitem : item ∈ existingOutbounds cfg) (hdns : outboundTag item ≠ "dns-out") : ∃ ob,
      (withGroups (existingOutbounds cfg)).outboundsByTag[outboundTag item]? = some ob ∧
        Unchanged item (Object.toValue ob) := by
  obtain ⟨kept, hkept, hsub⟩ := List.sublistForall₂_iff.mp h
  have hfiltered : item ∈
      (existingOutbounds cfg).filter fun item => outboundTag item ≠ "dns-out" :=
    List.mem_filter.mpr ⟨hitem, by simpa using hdns⟩
  obtain ⟨n, hn, rfl⟩ := List.getElem_of_mem hfiltered
  have hlen : n < kept.length := hkept.length_eq ▸ hn
  have hunchanged := hkept.get hn hlen
  have hmem : kept[n] ∈ (install cfg).outbounds := hsub.subset (List.getElem_mem hlen)
  rw [install_outbounds] at hmem
  obtain ⟨⟨tag, ob⟩, hp, heq⟩ := List.mem_map.mp hmem
  have hsound := withGroups_sound (existingOutbounds cfg)
  have hget := (OutboundIndex.mem_outbounds hsound _).mp hp
  simp only [List.get_eq_getElem, ← heq] at hunchanged
  refine ⟨ob, ?_, hunchanged⟩
  rw [← hunchanged.outboundTag, outboundTag_toValue, (hsound.tag_eq tag ob hget).2]
  exact hget

theorem getElem?_group_type (tag typ : String) (members : List String) (old : Option Object) :
    (OutboundIndex.group tag typ members old)["type"]? = some (.str typ) := by
  cases old with
  | none =>
    simp only [OutboundIndex.group, GoMap.getElem?_insert, if_true]
    rw [if_neg (by decide)]
  | some old => simp only [OutboundIndex.group, GoMap.getElem?_insert, if_true]

/-- What is under "proxy" can only be kept if it is a selector. -/
theorem PreservesOutbounds.selector {cfg : Object} (h : PreservesOutbounds cfg) {item : Value}
    {ob : Object} (hitem : item ∈ existingOutbounds cfg) (hmap : item.asMap? = some ob)
    (htag : outboundTag item = "proxy") : ob["type"]? = some (.str "selector") := by
  obtain ⟨ob', hget, hunchanged⟩ := h.entry hitem (by rw [htag]; decide)
  rw [htag, getElem?_withGroups] at hget
  obtain rfl := Option.some.inj hget
  unfold Unchanged at hunchanged
  rw [hmap] at hunchanged
  obtain ⟨after, hafter, hfields⟩ := hunchanged
  rw [Value.asMap?_toValue, Option.some_inj] at hafter
  subst hafter
  rw [← hfields "type" fun heq => absurd heq (by decide), getElem?_group_type]

/-- An outbound without a tag, two outbounds with one tag, and a group of another type. -/
theorem install_changes :
    ¬PreservesOutbounds ((∅ : Object).insert "outbounds"
        (.list [.obj [("type", .str "socks")]])) ∧
    ¬PreservesOutbounds ((∅ : Object).insert "outbounds"
        (.list [.obj [("tag", .str "a"), ("type", .str "socks")],
          .obj [("tag", .str "a"), ("type", .str "http")]])) ∧
    ¬PreservesOutbounds ((∅ : Object).insert "outbounds"
        (.list [.obj [("tag", .str "proxy"), ("type", .str "urltest"),
          ("outbounds", .list [.str "direct"])]])) := by
  have hlist (items : List Value) :
      existingOutbounds ((∅ : Object).insert "outbounds" (.list items)) = items := by
    simp [existingOutbounds, Value.asList?]
  refine ⟨fun h => ?_, fun h => ?_, fun h => ?_⟩
  · have hmem := h.tags.subset
    rw [hlist] at hmem
    exact (wellInstalled_install _).tag (hmem (by decide))
  · have hnodup := h.tags.nodup (wellInstalled_install _).nodup
    rw [hlist] at hnodup
    exact absurd hnodup (by decide)
  · have htype := h.selector (by rw [hlist]; exact List.mem_singleton_self _) rfl (by decide)
    have hstring := congrArg (fun v => (v.bind Value.asStr?).getD "") htype
    exact absurd hstring (by decide)

theorem latest_outbounds (existing : List Value) (tag : String) :
    latest Prod.fst (withGroups existing).outbounds tag =
      ((withGroups existing).outboundsByTag[tag]?).map fun ob => (tag, ob) := by
  have hmem := OutboundIndex.mem_outbounds (withGroups_sound existing)
  cases h : (withGroups existing).outboundsByTag[tag]? with
  | none =>
    cases hlatest : latest Prod.fst (withGroups existing).outbounds tag with
    | none => rfl
    | some p =>
      have hget := (hmem p).mp (mem_of_latest hlatest)
      rw [tag_latest hlatest, h] at hget
      cases hget
  | some ob =>
    exact latest_eq_of_nodup (OutboundIndex.nodup_outbounds _) ((hmem (tag, ob)).mpr h)

/-- How an outbound can come back to the installation: as it is, or through JSON. -/
structure Carries (f : Object → Object) : Prop where
  stringAt : ∀ ob k, Object.stringAt (f ob) k = Object.stringAt ob k
  json : ∀ ob, Object.json (f ob) = Object.json ob

theorem carries_id : Carries id := ⟨fun _ _ => rfl, fun _ => rfl⟩

theorem carries_json : Carries Object.json := ⟨Object.stringAt_json, Object.json_json⟩

theorem Carries.isProxyCandidate {f : Object → Object} (h : Carries f) (ob : Object) :
    isProxyCandidate (f ob) = isProxyCandidate ob := by
  simp only [Core.isProxyCandidate, h.stringAt]

/-- The outbounds of an installation as they come back to the next one. -/
def carried (f : Object → Object) (existing : List Value) : List Value :=
  (withGroups existing).outbounds.map fun p => Object.toValue (f p.2)

theorem routingMark_withBuiltins {existing : List Value} {tag : String} {ob : Object}
    (hplain : tag ∈ ["direct", "bypass"])
    (h : (withBuiltins existing).outboundsByTag[tag]? = some ob) :
    ob["routing_mark"]? = some (.int 128) := by
  unfold withBuiltins at h
  simp only [List.mem_cons, List.not_mem_nil, or_false] at hplain
  simp only [OutboundIndex.getElem?_setRoutingMark, Option.map_map, Option.map_eq_some_iff] at h
  obtain ⟨entry, -, rfl⟩ := h
  rcases hplain with rfl | rfl <;> simp

/-- A proxy among the installed outbounds was one before. -/
theorem mem_proxyCandidates_of_outbounds (existing : List Value) {p : String × Object}
    (hp : p ∈ (withGroups existing).outbounds) (hcandidate : isProxyCandidate p.2 = true) :
    p.1 ∈ (indexed existing).proxyCandidates := by
  have hget := (OutboundIndex.mem_outbounds (withGroups_sound existing) p).mp hp
  have hgroup {typ : String} (htype : p.2["type"]? = some (.str typ))
      (htyp : typ ∈ ["selector", "urltest"]) : False := by
    have hstring : Object.stringAt p.2 "type" = typ := by
      simp [Object.stringAt, htype, Value.asStr?]
    simp only [List.mem_cons, List.not_mem_nil, or_false] at htyp
    rcases htyp with rfl | rfl <;> simp [isProxyCandidate, hstring] at hcandidate
  rw [getElem?_withGroups] at hget
  split_ifs at hget
  · exact (hgroup (Option.some.inj hget ▸ getElem?_group_type _ _ _ _) (by decide)).elim
  · exact (hgroup (Option.some.inj hget ▸ getElem?_group_type _ _ _ _) (by decide)).elim
  · exact (hgroup (Option.some.inj hget ▸ getElem?_group_type _ _ _ _) (by decide)).elim
  · exact (hgroup (Option.some.inj hget ▸ getElem?_group_type _ _ _ _) (by decide)).elim
  · obtain ⟨-, ⟨entry, hentry, hob⟩ | hplain⟩ := withBuiltins_cases existing hget
    · have htype : isProxyCandidate entry = true := by
        rcases hob with hob | hob
        · rwa [← hob]
        · simpa [isProxyCandidate, hob, Object.stringAt_insert] using hcandidate
      rw [(indexes_indexed existing).lookup] at hentry
      obtain ⟨q, hlatest, rfl⟩ := Option.map_eq_some_iff.mp hentry
      rw [(indexes_indexed existing).candidates, ← tag_latest hlatest]
      exact List.mem_map_of_mem (List.mem_filter.mpr ⟨mem_of_latest hlatest, htype⟩)
    · rcases hplain with h | h <;> simp [isProxyCandidate, h] at hcandidate

theorem eq_nil_or_singleton {α : Type*} {l : List α} {a : α} (hnodup : l.Nodup)
    (h : ∀ b ∈ l, b = a) : l = [] ∨ l = [a] := by
  match l with
  | [] => exact .inl rfl
  | [b] => exact .inr (by rw [h b (List.mem_singleton_self b)])
  | b :: c :: l =>
    have hbc : b = c := (h b (by simp)).trans (h c (by simp)).symm
    simp [hbc] at hnodup

section again

variable {f : Object → Object} (hf : Carries f) (existing : List Value)

include hf

theorem tagged_carried : tagged (carried f existing) =
    (withGroups existing).outbounds.map fun p => (p.1, f p.2) := by
  have hsound := withGroups_sound existing
  rw [tagged, carried, List.filterMap_map, ← List.filterMap_eq_map]
  apply List.filterMap_congr
  intro p hp
  obtain ⟨hne, htag⟩ := hsound.tag_eq p.1 p.2 ((OutboundIndex.mem_outbounds hsound p).mp hp)
  simp [taggedOutbound, hf.stringAt, htag, hne]

theorem lookup_carried (tag : String) : (indexed (carried f existing)).outboundsByTag[tag]? =
    ((withGroups existing).outboundsByTag[tag]?).map f := by
  rw [(indexes_indexed _).lookup, tagged_carried hf, latest_map,
    show Prod.fst ∘ (fun p : String × Object => (p.1, f p.2)) = Prod.fst from rfl,
    latest_outbounds]
  cases (withGroups existing).outboundsByTag[tag]? <;> rfl

theorem order_carried : (indexed (carried f existing)).order =
    (withGroups existing).outbounds.map Prod.fst := by
  rw [(indexes_indexed _).order, tagged_carried hf, List.map_map]
  rfl

theorem candidates_carried : (indexed (carried f existing)).proxyCandidates =
    ((withGroups existing).outbounds.filter fun p => isProxyCandidate p.2).map Prod.fst := by
  rw [(indexes_indexed _).candidates, tagged_carried hf, List.filter_map, List.map_map]
  simp only [Function.comp_def, hf.isProxyCandidate]

/-- Where there is no proxy to choose, there is none the next time either. -/
theorem groupMembers_carried (h : groupMembers existing = ["direct"]) :
    groupMembers (carried f existing) = ["direct"] := by
  have honly : ∀ tag ∈ (indexed existing).proxyCandidates, tag = "direct" := by
    intro tag htag
    unfold groupMembers at h
    cases hcandidates : (indexed existing).proxyCandidates with
    | nil =>
      rw [hcandidates] at htag
      cases htag
    | cons first rest =>
      rw [hcandidates] at h htag
      dsimp only at h
      rw [h] at htag
      exact List.mem_singleton.mp htag
  have hnone : (indexed (carried f existing)).proxyCandidates = [] ∨
      (indexed (carried f existing)).proxyCandidates = ["direct"] := by
    rw [candidates_carried hf]
    apply eq_nil_or_singleton
    · exact (OutboundIndex.nodup_outbounds (withGroups existing)).sublist
        (List.filter_sublist.map _)
    · intro tag htag
      obtain ⟨p, hp, rfl⟩ := List.mem_map.mp htag
      obtain ⟨hmem, hcandidate⟩ := List.mem_filter.mp hp
      exact honly _ (mem_proxyCandidates_of_outbounds existing hmem hcandidate)
  unfold groupMembers
  rcases hnone with h | h <;> rw [h]

/-- An installed outbound has already what the next installation writes into it. -/
theorem json_keptObject {tag : String} {ob : Object}
    (h : (withGroups existing).outboundsByTag[tag]? = some ob) :
    Object.json (keptObject (carried f existing) tag (f ob)) = Object.json ob := by
  have hinsert {k : String} {v : Value} (hk : ob[k]? = some v) :
      Object.json ((f ob).insert k v) = Object.json ob := by
    rw [Object.json_insert, hf.json]
    apply Std.ExtTreeMap.ext_getElem?
    intro k'
    rw [GoMap.getElem?_insert]
    split_ifs with heq
    · rw [← heq, Object.getElem?_json, hk, Option.map_some]
    · rfl
  rw [getElem?_withGroups] at h
  unfold keptObject
  cases hsynced : syncedType (carried f existing) tag with
  | some typ =>
    unfold syncedType at hsynced
    split_ifs at hsynced with hselector hauto
    · obtain rfl := Option.some.inj hsynced
      apply hinsert
      simp only [List.mem_cons, List.not_mem_nil, or_false] at hselector
      rcases hselector with rfl | rfl | rfl <;>
        exact Option.some.inj h ▸ getElem?_group_type _ _ _ _
    · obtain rfl := Option.some.inj hsynced
      obtain ⟨rfl, hmembers⟩ := hauto
      have hbefore : groupMembers existing ≠ ["direct"] := fun heq =>
        hmembers (groupMembers_carried hf existing heq)
      rw [if_neg (by decide), if_neg (by decide), if_pos ⟨rfl, hbefore⟩] at h
      exact hinsert (Option.some.inj h ▸ getElem?_group_type _ _ _ _)
  | none =>
    dsimp only
    split_ifs with hplain
    · apply hinsert
      have hgroup : ∀ group ∈ ["blacklist", "whitelist", "auto", "proxy"], tag ≠ group := by
        rintro group hgroup rfl
        simp only [List.mem_cons, List.not_mem_nil, or_false] at hplain hgroup
        rcases hplain with rfl | rfl <;> simp at hgroup
      rw [if_neg (hgroup _ (by decide)), if_neg (hgroup _ (by decide)),
        if_neg fun hauto => hgroup _ (by decide) hauto.1, if_neg (hgroup _ (by decide))] at h
      exact routingMark_withBuiltins hplain h
    · exact hf.json ob

/-- No outbound is under a tag that was not there after the first installation. -/
theorem getElem?_again_none {tag : String}
    (h : (withGroups existing).outboundsByTag[tag]? = none) :
    (withGroups (carried f existing)).outboundsByTag[tag]? = none := by
  by_cases hdns : tag = "dns-out"
  · rw [hdns]
    exact getElem?_withGroups_dns _
  have hnew : ∀ builtin ∈ ["direct", "bypass", "block", "proxy", "whitelist", "blacklist"],
      tag ≠ builtin := by
    rintro builtin hbuiltin rfl
    have hsome := isSome_builtin existing hbuiltin
    rw [h] at hsome
    cases hsome
  have hauto : ¬(tag = "auto" ∧ groupMembers (carried f existing) ≠ ["direct"]) := by
    rintro ⟨rfl, hmembers⟩
    have hbefore : groupMembers existing ≠ ["direct"] := fun heq =>
      hmembers (groupMembers_carried hf existing heq)
    rw [getElem?_withGroups, if_neg (by decide), if_neg (by decide),
      if_pos ⟨rfl, hbefore⟩] at h
    cases h
  rw [getElem?_withGroups, if_neg (hnew _ (by decide)), if_neg (hnew _ (by decide)),
    if_neg hauto, if_neg (hnew _ (by decide)), getElem?_withBuiltins, lookup_carried hf, h,
    Option.map_none]
  simp only [List.mem_cons, List.not_mem_nil, or_false, not_or]
  exact ⟨hnew _ (by decide), hnew _ (by decide), hnew _ (by decide), hdns⟩

/-- A second installation has the same tags in the same order, each with the same fields. -/
theorem outbounds_again : (withGroups (carried f existing)).outbounds =
    (withGroups existing).outbounds.map fun p =>
      (p.1, keptObject (carried f existing) p.1 (f p.2)) := by
  obtain ⟨extra, horder⟩ := order_withGroups (carried f existing)
  rw [order_carried hf] at horder
  have hrest : (extra.removeAll ((withGroups existing).outbounds.map Prod.fst)).eraseDups.filterMap
      (fun tag => ((withGroups (carried f existing)).outboundsByTag[tag]?).map fun ob =>
        (tag, ob)) = [] := by
    rw [List.filterMap_eq_nil_iff]
    intro tag htag
    rw [List.mem_eraseDups, List.removeAll, List.mem_filter] at htag
    have hnew : ((withGroups existing).outboundsByTag[tag]?).isSome = false := by
      rw [Bool.eq_false_iff, ne_eq, ← mem_map_fst_outbounds]
      simpa using htag.2
    rw [getElem?_again_none hf existing (Option.isNone_iff_eq_none.mp
      (Option.isSome_eq_false_iff.mp hnew))]
    rfl
  rw [OutboundIndex.outbounds, ← horder, List.eraseDups_append, List.filterMap_append, hrest,
    List.append_nil, eraseDups_of_nodup (OutboundIndex.nodup_outbounds _), List.filterMap_map,
    ← List.filterMap_eq_map]
  apply List.filterMap_congr
  intro p hp
  have hget := (OutboundIndex.mem_outbounds (withGroups_sound existing) p).mp hp
  have hdns : p.1 ≠ "dns-out" := by
    intro heq
    rw [heq, getElem?_withGroups_dns] at hget
    cases hget
  have hcarried : (indexed (carried f existing)).outboundsByTag[p.1]? = some (f p.2) := by
    rw [lookup_carried hf, hget, Option.map_some]
  rw [Function.comp_apply, getElem?_withGroups_of_some hcarried hdns]
  rfl

end again

theorem installed_tags (cfg : Object) :
    (install cfg).installed.map (fun ob => Object.stringAt ob "tag") =
      ((withGroups (existingOutbounds cfg)).outbounds.map Prod.fst).filter
        fun tag => builtinTags.contains tag := by
  have hsound := withGroups_sound (existingOutbounds cfg)
  have hinstalled : (install cfg).installed =
      ((withGroups (existingOutbounds cfg)).outbounds.filter
        fun p => builtinTags.contains p.1).map Prod.snd := rfl
  rw [hinstalled, List.map_map, List.filter_map]
  apply List.map_congr_left
  intro p hp
  have hget := (OutboundIndex.mem_outbounds hsound p).mp (List.mem_filter.mp hp).1
  exact (hsound.tag_eq p.1 p.2 hget).2

variable {Bytes : Type*}

/-- The configuration has these outbounds, directly or after it was written and read again. -/
def HasOutbounds (codec : JSONCodec Bytes) (outbounds : List Value) (cfg : Object) : Prop :=
  cfg["outbounds"]? = some (.list outbounds) ∨
    ∃ written : Object, written["outbounds"]? = some (.list outbounds) ∧
      codec.unmarshal (codec.marshal (Object.toValue written)) = some (Object.toValue cfg)

theorem HasOutbounds.carried {codec : JSONCodec Bytes} {cfg again : Object}
    (h : HasOutbounds codec (install cfg).outbounds again) :
    ∃ f, Carries f ∧ existingOutbounds again = carried f (existingOutbounds cfg) := by
  rcases h with h | ⟨written, hwritten, hread⟩
  · refine ⟨id, carries_id, ?_⟩
    rw [existingOutbounds, h]
    rfl
  · refine ⟨Object.json, carries_json, ?_⟩
    rw [codec.unmarshal_marshal, Option.some_inj, Value.json_toValue] at hread
    obtain rfl := Object.toValue_injective hread
    rw [existingOutbounds, Object.getElem?_json, hwritten, install_outbounds]
    simp only [Option.map_some, Option.bind_some, Value.json, Value.asList?, Option.getD_some,
      Value.jsonList_eq_map, List.map_map, DefaultOutboundsInstaller.carried]
    apply List.map_congr_left
    intro p _
    exact Value.json_toValue p.2

/-- The outbounds of every installation are well formed, and installing again changes nothing. -/
theorem install_idempotent (codec : JSONCodec Bytes) (cfg : Object) :
    WellInstalled (install cfg).outbounds ∧
      ∀ again, HasOutbounds codec (install cfg).outbounds again →
        (install again).outbounds.map Value.json = (install cfg).outbounds.map Value.json ∧
        (install again).installed.map (fun ob => Object.stringAt ob "tag") =
          (install cfg).installed.map fun ob => Object.stringAt ob "tag" := by
  refine ⟨wellInstalled_install cfg, fun again h => ?_⟩
  obtain ⟨f, hf, hexisting⟩ := h.carried
  rw [installed_tags, installed_tags, install_outbounds, install_outbounds, hexisting,
    outbounds_again hf, List.map_map, List.map_map, List.map_map, List.map_map]
  constructor
  · apply List.map_congr_left
    intro p hp
    have hget := (OutboundIndex.mem_outbounds (withGroups_sound (existingOutbounds cfg)) p).mp hp
    simp only [Function.comp_apply, Value.json_toValue, json_keptObject hf _ hget]
  · rfl

/-- A configuration with one trojan node. -/
def trojanConfig : Object :=
  (∅ : Object).insert "outbounds" (.list [.obj [("tag", .str "a"), ("type", .str "trojan")]])

/-- The configuration with the default outbounds, written to the file, read and installed again. -/
theorem trojanConfig_idempotent :
    (install (Object.json (trojanConfig.insert "outbounds"
        (.list (install trojanConfig).outbounds)))).outbounds.map Value.json =
      (install trojanConfig).outbounds.map Value.json := by
  have hread : HasOutbounds documentCodec (install trojanConfig).outbounds
      (Object.json (trojanConfig.insert "outbounds" (.list (install trojanConfig).outbounds))) := by
    refine .inr ⟨trojanConfig.insert "outbounds" (.list (install trojanConfig).outbounds),
      by simp, ?_⟩
    rw [documentCodec.unmarshal_marshal, Value.json_toValue]
  exact ((install_idempotent documentCodec trojanConfig).2 _ hread).1

end DefaultOutboundsInstaller

end Boxui.Core
