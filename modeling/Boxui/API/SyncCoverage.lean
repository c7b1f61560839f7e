import Boxui.API.References
import Boxui.API.SyncCommit
import Boxui.API.SyncWriters
import Mathlib.Data.List.Chain
import Mathlib.Data.List.Nodup

/-! The proxy selector covers every stored outbound once. Tags that are distinct across the
stores and the kept outbounds make every group and the selector unique in the written list,
so that the selector's members and the paths below it can be read off the stores. -/
namespace Boxui.API
open GoValue Boxui.Core

/-- Tags and types under which the written list is a tree of groups over the stores. -/
structure SyncInput.Coverable (input : SyncInput) (existing : List Value) : Prop where
  stored_type : ∀ outbound ∈ input.stored, outbound.type ∈ managedNodeTypes
  stored_tag : ∀ outbound ∈ input.stored,
    outbound.tag ≠ "" ∧ outbound.tag ≠ "proxy" ∧ outbound.tag ≠ "direct"
  stored_distinct : (input.stored.map Outbound.tag).Nodup
  stored_name : ∀ outbound ∈ input.stored, ∀ subscription ∈ input.subscriptions,
    outbound.tag ≠ subscription.name
  stored_kept : ∀ outbound ∈ input.stored, ∀ other ∈ input.kept existing,
    tagOf other ≠ outbound.tag
  stored_raw : ∀ outbound ∈ input.stored,
    writtenType outbound = outbound.type ∧ writtenTag outbound = outbound.tag
  name : ∀ subscription ∈ input.subscriptions, subscription.name ≠ "" ∧
    subscription.name ≠ "proxy" ∧ subscription.name ≠ "direct"
  name_distinct : (input.subscriptions.map Subscription.name).Nodup
  kept_distinct : ((input.kept existing).map tagOf).Nodup
  kept_proxy : ∀ other ∈ input.kept existing, tagOf other ≠ "proxy"
  kept_name : ∀ other ∈ input.kept existing, ∀ subscription ∈ input.subscriptions,
    tagOf other ≠ subscription.name

theorem managedNodeTypes_proxy {typeName : String} (h : typeName ∈ managedNodeTypes) :
    isProxyLikeOutboundType typeName = true ∧ isProxySelectorCandidate typeName = true ∧
      typeName ≠ "selector" ∧ typeName ≠ "urltest" := by
  have hall : ∀ typeName ∈ managedNodeTypes, isProxyLikeOutboundType typeName = true ∧
      isProxySelectorCandidate typeName = true ∧ typeName ≠ "selector" ∧
        typeName ≠ "urltest" := by decide
  exact hall typeName h

/-- One group entry lists a tag. -/
def Lists (outbounds : List Value) (group tag : String) : Prop :=
  ∃ outbound ∈ outbounds, tagOf outbound = group ∧ isGroupType (typeOf outbound) = true ∧
    tag ∈ memberTags outbound

namespace SyncInput

/-- The tags of the outbounds that belong to a subscription. -/
def subscriptionTags (input : SyncInput) : List String :=
  (input.subscriptions.flatMap Subscription.outbounds).map Outbound.tag

/-- The subscriptions with a proxy-like outbound. -/
def proxied (input : SyncInput) : List Subscription :=
  input.subscriptions.filter fun subscription =>
    subscription.outbounds.any fun outbound => isProxyLikeOutboundType outbound.type

variable {input : SyncInput} {existing : List Value}

theorem Coverable.subscriptionProxyTags_eq (h : input.Coverable existing)
    {subscription : Subscription} (hmem : subscription ∈ input.subscriptions) :
    subscriptionProxyTags subscription = subscription.outbounds.map Outbound.tag := by
  unfold subscriptionProxyTags
  rw [List.filter_eq_self.mpr]
  intro outbound hout
  have hstored : outbound ∈ input.stored :=
    List.mem_append_right _ (List.mem_flatMap.mpr ⟨subscription, hmem, hout⟩)
  simp [(managedNodeTypes_proxy (h.stored_type outbound hstored)).1,
    (h.stored_tag outbound hstored).1]

theorem Coverable.subscriptionMemberTags_eq (h : input.Coverable existing) :
    subscriptionMemberTags input.subscriptions = input.subscriptionTags := by
  unfold subscriptionMemberTags subscriptionTags
  rw [List.map_flatMap, List.flatMap_def, List.flatMap_def]
  congr 1
  exact List.map_congr_left fun subscription hmem => h.subscriptionProxyTags_eq hmem

theorem Coverable.grouped_eq (h : input.Coverable existing) : input.grouped = input.proxied := by
  unfold grouped proxied
  apply List.filter_congr
  intro subscription hmem
  rw [h.subscriptionProxyTags_eq hmem]
  cases hout : subscription.outbounds with
  | nil => rfl
  | cons outbound rest =>
    have hstored : outbound ∈ input.stored :=
      List.mem_append_right _ (List.mem_flatMap.mpr ⟨subscription, hmem, by simp [hout]⟩)
    simp [(managedNodeTypes_proxy (h.stored_type outbound hstored)).1]

theorem Coverable.distinct_nodes (h : input.Coverable existing) :
    (input.nodes.map Outbound.tag).Nodup ∧ input.subscriptionTags.Nodup ∧
      ∀ outbound ∈ input.nodes, outbound.tag ∉ input.subscriptionTags := by
  have hdistinct := h.stored_distinct
  rw [stored, List.map_append, List.nodup_append] at hdistinct
  obtain ⟨hnodes, hsubs, hapart⟩ := hdistinct
  refine ⟨hnodes, hsubs, ?_⟩
  intro outbound hmem hin
  exact hapart _ (List.mem_map_of_mem hmem) _ hin rfl

/-- The stored candidates that belong to no subscription are the imported nodes. -/
theorem Coverable.storedProxyTags_eq (h : input.Coverable existing) :
    input.storedProxyTags = input.nodes.map Outbound.tag := by
  obtain ⟨-, -, hapart⟩ := h.distinct_nodes
  have hraw : ∀ outbound ∈ input.stored, writtenTag outbound = outbound.tag :=
    fun outbound hmem => (h.stored_raw outbound hmem).2
  unfold storedProxyTags
  rw [h.subscriptionMemberTags_eq, stored, List.filter_append, List.filter_eq_self.mpr,
    List.filter_eq_nil_iff.mpr, List.append_nil]
  · exact List.map_congr_left fun outbound hmem => hraw outbound (List.mem_append_left _ hmem)
  · intro outbound hmem
    have hin : outbound.tag ∈ input.subscriptionTags := List.mem_map_of_mem hmem
    simp [hraw outbound (List.mem_append_right _ hmem), hin]
  · intro outbound hmem
    have hstored : outbound ∈ input.stored := List.mem_append_left _ hmem
    have htype := (managedNodeTypes_proxy (h.stored_type outbound hstored)).2.1
    simp [h.stored_raw outbound hstored, (h.stored_tag outbound hstored).1, hapart outbound hmem,
      htype]

theorem Coverable.proxyTags_eq (h : input.Coverable existing) :
    input.proxyTags existing = collectProxyTags (input.kept existing) input.subscriptionTags ++
      input.nodes.map Outbound.tag := by
  rw [SyncInput.proxyTags_eq, h.subscriptionMemberTags_eq, h.storedProxyTags_eq]

theorem mem_collectProxyTags {l : List Value} {excluded : List String} {tag : String}
    (h : tag ∈ collectProxyTags l excluded) : ∃ outbound ∈ l, tagOf outbound = tag := by
  obtain ⟨outbound, hmem, rfl⟩ := List.mem_map.mp h
  exact ⟨outbound, List.mem_of_mem_filter hmem, rfl⟩

/-- The members of the proxy selector: the groups, then the other candidates. -/
def proxyMembers (input : SyncInput) (existing : List Value) : List String :=
  input.groupTags ++ input.proxyTags existing

theorem Coverable.proxyMembers_nodup (h : input.Coverable existing) :
    (input.proxyMembers existing).Nodup := by
  obtain ⟨hnodes, -, -⟩ := h.distinct_nodes
  have hgroups : input.groupTags.Nodup :=
    h.name_distinct.sublist (List.filter_sublist.map Subscription.name)
  have hkept : (collectProxyTags (input.kept existing) input.subscriptionTags).Nodup :=
    h.kept_distinct.sublist (List.filter_sublist.map tagOf)
  rw [proxyMembers, h.proxyTags_eq, List.nodup_append, List.nodup_append]
  refine ⟨hgroups, ⟨hkept, hnodes, ?_⟩, ?_⟩
  · intro tag htag tag' htag'
    obtain ⟨other, hother, rfl⟩ := mem_collectProxyTags htag
    obtain ⟨outbound, hout, rfl⟩ := List.mem_map.mp htag'
    exact h.stored_kept outbound (List.mem_append_left _ hout) other hother
  · intro tag htag tag' htag'
    obtain ⟨subscription, hsub, rfl⟩ := List.mem_map.mp htag
    have hsub' := List.mem_of_mem_filter hsub
    rcases List.mem_append.mp htag' with htag' | htag'
    · obtain ⟨other, hother, rfl⟩ := mem_collectProxyTags htag'
      exact (h.kept_name other hother subscription hsub').symm
    · obtain ⟨outbound, hout, rfl⟩ := List.mem_map.mp htag'
      exact (h.stored_name outbound (List.mem_append_left _ hout) subscription hsub').symm

theorem Coverable.proxyMembers_ne_nil (h : input.Coverable existing) (hstored : input.stored ≠ []) :
    input.proxyMembers existing ≠ [] := by
  obtain ⟨outbound, hmem⟩ := List.exists_mem_of_ne_nil _ hstored
  rw [proxyMembers, h.proxyTags_eq]
  rcases List.mem_append.mp hmem with hnode | hsub
  · exact List.ne_nil_of_mem (List.mem_append_right _
      (List.mem_append_right _ (List.mem_map_of_mem hnode)))
  · obtain ⟨subscription, hsub, hout⟩ := List.mem_flatMap.mp hsub
    have hgrouped : subscription ∈ input.grouped := by
      rw [h.grouped_eq, proxied, List.mem_filter, List.any_eq_true]
      exact ⟨hsub, outbound, hout, (managedNodeTypes_proxy (h.stored_type outbound hmem)).1⟩
    exact List.ne_nil_of_mem (List.mem_append_left _
      (List.mem_map_of_mem (f := Subscription.name) hgrouped))

/-- The selector comes last: nothing written before it is a proxy selector. -/
theorem Coverable.outbounds_eq (h : input.Coverable existing) (hstored : input.stored ≠ []) :
    ∃ defaultTag rest, input.proxyMembers existing = defaultTag :: rest ∧
      input.outbounds existing = input.entries existing ++
        [Object.toValue (proxySelector (defaultTag :: rest) defaultTag)] := by
  obtain ⟨defaultTag, rest, hmembers⟩ := List.exists_cons_of_ne_nil (h.proxyMembers_ne_nil hstored)
  refine ⟨defaultTag, rest, hmembers, ?_⟩
  have hnone : ∀ outbound ∈ input.entries existing, isProxySelector outbound = false := by
    intro outbound hmem
    rcases List.mem_append.mp hmem with hmem | hmem
    · rcases List.mem_append.mp hmem with hmem | hmem
      · exact input.kept_not_proxySelector existing outbound hmem
      · obtain ⟨node, hnode, rfl⟩ := List.mem_map.mp hmem
        have htype := (managedNodeTypes_proxy (h.stored_type node hnode)).2.2.1
        simp [isProxySelector, (h.stored_raw node hnode).1, htype]
    · obtain ⟨subscription, hsub, rfl⟩ := List.mem_map.mp hmem
      have hname := (h.name subscription (List.mem_of_mem_filter hsub)).2.1
      simp [isProxySelector, OutboundWriter.subscriptionGroup_tag, hname]
  rw [proxyMembers] at hmembers
  rw [SyncInput.outbounds, upsertProxySelector, hmembers]
  dsimp only
  rw [← List.append_nil (input.entries existing), placeProxySelector_append _ _ hnone,
    List.append_nil]
  rfl

theorem Coverable.tagOf_entries (h : input.Coverable existing) :
    ∀ outbound ∈ input.entries existing, tagOf outbound ≠ "proxy" := by
  intro outbound hmem
  rcases List.mem_append.mp hmem with hmem | hmem
  · rcases List.mem_append.mp hmem with hmem | hmem
    · rcases List.mem_cons.mp hmem with rfl | hmem
      · decide
      · exact h.kept_proxy outbound hmem
    · obtain ⟨node, hnode, rfl⟩ := List.mem_map.mp hmem
      rw [tagOf_toValue, stringAt_managedEntry_tag, (h.stored_raw node hnode).2]
      exact (h.stored_tag node hnode).2.1
  · obtain ⟨subscription, hsub, rfl⟩ := List.mem_map.mp hmem
    rw [tagOf_toValue, OutboundWriter.subscriptionGroup_tag]
    exact (h.name subscription (List.mem_of_mem_filter hsub)).2.1

/-- Exactly one written entry has the name of a grouped subscription: its group. -/
theorem Coverable.filter_name (h : input.Coverable existing) (hstored : input.stored ≠ [])
    {subscription : Subscription} (hsub : subscription ∈ input.grouped) :
    (input.outbounds existing).filter (tagOf · = subscription.name) =
      [Object.toValue (subscriptionGroup input.defaults
        (indexExistingOutbounds existing)[subscription.name]? subscription)] := by
  obtain ⟨defaultTag, rest, -, houts⟩ := h.outbounds_eq hstored
  have hsub' := List.mem_of_mem_filter hsub
  have hname := h.name subscription hsub'
  have hkept : (directOutbound :: input.kept existing).filter (tagOf · = subscription.name) =
      [] := by
    rw [List.filter_eq_nil_iff]
    intro outbound hmem
    rw [decide_eq_true_eq]
    rcases List.mem_cons.mp hmem with rfl | hmem
    · exact fun heq => hname.2.2 (heq.symm.trans (by decide))
    · exact h.kept_name outbound hmem subscription hsub'
  have hnodes : (input.storedEntries existing).filter (tagOf · = subscription.name) = [] := by
    rw [List.filter_eq_nil_iff]
    intro outbound hmem
    obtain ⟨node, hnode, rfl⟩ := List.mem_map.mp hmem
    rw [decide_eq_true_eq, tagOf_toValue, stringAt_managedEntry_tag, (h.stored_raw node hnode).2]
    exact h.stored_name node hnode subscription hsub'
  have hgroups : (input.groupEntries existing).filter (tagOf · = subscription.name) =
      [Object.toValue (subscriptionGroup input.defaults
        (indexExistingOutbounds existing)[subscription.name]? subscription)] := by
    have hdistinct : (input.grouped.map Subscription.name).Nodup :=
      h.name_distinct.sublist (List.filter_sublist.map Subscription.name)
    rw [groupEntries, List.filter_map]
    have hfun : (fun outbound => decide (tagOf outbound = subscription.name)) ∘ (fun other =>
        Object.toValue (subscriptionGroup input.defaults
          (indexExistingOutbounds existing)[other.name]? other)) =
        fun other => decide (Subscription.name other = subscription.name) := by
      funext other
      simp [OutboundWriter.subscriptionGroup_tag]
    rw [hfun, Reconcile.filter_eq_singleton hdistinct hsub]
    rfl
  have hselector : [Object.toValue (proxySelector (defaultTag :: rest) defaultTag)].filter
      (tagOf · = subscription.name) = [] := by
    have htag : tagOf (Object.toValue (proxySelector (defaultTag :: rest) defaultTag)) =
        "proxy" := by
      simp [proxySelector, Object.stringAt_insert, Value.asStr?]
    rw [List.filter_cons_of_neg (by rw [htag]; simpa using hname.2.1.symm), List.filter_nil]
  rw [houts, entries, List.filter_append, List.filter_append, List.filter_append, hkept, hnodes,
    hgroups, hselector]
  rfl

/-- Exactly one written entry is a proxy selector. -/
theorem Coverable.filter_proxySelector (h : input.Coverable existing)
    (hstored : input.stored ≠ []) :
    ∃ defaultTag rest, input.proxyMembers existing = defaultTag :: rest ∧
      (input.outbounds existing).filter (tagOf · = "proxy") =
        [Object.toValue (proxySelector (defaultTag :: rest) defaultTag)] := by
  obtain ⟨defaultTag, rest, hmembers, houts⟩ := h.outbounds_eq hstored
  refine ⟨defaultTag, rest, hmembers, ?_⟩
  have hentries : (input.entries existing).filter (tagOf · = "proxy") = [] := by
    rw [List.filter_eq_nil_iff]
    intro outbound hmem
    simpa using h.tagOf_entries outbound hmem
  rw [houts, List.filter_append, hentries, List.nil_append]
  simp [proxySelector, Object.stringAt_insert, Value.asStr?]

theorem lists_iff_of_filter {outbounds : List Value} {group : String} {entry : Value}
    (hfilter : outbounds.filter (tagOf · = group) = [entry])
    (htype : isGroupType (typeOf entry) = true) (tag : String) :
    Lists outbounds group tag ↔ tag ∈ memberTags entry := by
  have hmem : ∀ outbound, (outbound ∈ outbounds ∧ tagOf outbound = group) ↔ outbound = entry := by
    intro outbound
    have h : outbound ∈ outbounds.filter (tagOf · = group) ↔ _ := List.mem_filter
    rw [hfilter, List.mem_singleton, decide_eq_true_eq] at h
    exact h.symm
  constructor
  · rintro ⟨outbound, hin, hgroup, -, hlists⟩
    obtain rfl := (hmem outbound).mp ⟨hin, hgroup⟩
    exact hlists
  · intro hlists
    obtain ⟨hin, hgroup⟩ := (hmem entry).mpr rfl
    exact ⟨entry, hin, hgroup, htype, hlists⟩

theorem Coverable.lists_proxy (h : input.Coverable existing) (hstored : input.stored ≠ [])
    (tag : String) :
    Lists (input.outbounds existing) "proxy" tag ↔ tag ∈ input.proxyMembers existing := by
  obtain ⟨defaultTag, rest, hmembers, hfilter⟩ := h.filter_proxySelector hstored
  rw [lists_iff_of_filter hfilter, memberTags_proxySelector, hmembers]
  simp [isGroupType, proxySelector, Object.stringAt_insert, Value.asStr?]

theorem Coverable.lists_name (h : input.Coverable existing) (hstored : input.stored ≠ [])
    {subscription : Subscription} (hsub : subscription ∈ input.grouped) (tag : String) :
    Lists (input.outbounds existing) subscription.name tag ↔
      tag ∈ subscription.outbounds.map Outbound.tag := by
  rw [lists_iff_of_filter (h.filter_name hstored hsub), memberTags_subscriptionGroup,
    h.subscriptionProxyTags_eq (List.mem_of_mem_filter hsub)]
  rw [typeOf_toValue, OutboundWriter.subscriptionGroup_type, OutboundWriter.groupType]
  split_ifs <;> rfl

/-- Two subscriptions with a tag in common are one. -/
theorem Coverable.subscription_unique (h : input.Coverable existing)
    {subscription subscription' : Subscription} (hsub : subscription ∈ input.subscriptions)
    (hsub' : subscription' ∈ input.subscriptions) {tag : String}
    (htag : tag ∈ subscription.outbounds.map Outbound.tag)
    (htag' : tag ∈ subscription'.outbounds.map Outbound.tag) : subscription = subscription' := by
  have hdistinct := h.distinct_nodes.2.1
  rw [subscriptionTags, List.map_flatMap, List.nodup_flatMap] at hdistinct
  by_contra hne
  have hsymm : Std.Symm (Function.onFun List.Disjoint
      fun subscription : Subscription => subscription.outbounds.map Outbound.tag) :=
    ⟨fun _ _ hdisjoint _ hin hin' => hdisjoint hin' hin⟩
  exact hdistinct.2.forall hsub hsub' hne htag htag'

/-- A stored outbound is a member of the selector or of its subscription's group, and of no
other, so one path of generated groups leads to it. -/
theorem Coverable.path_unique (h : input.Coverable existing) {outbound : Outbound}
    (hmem : outbound ∈ input.stored) :
    ∃! groups : List String, (∀ group ∈ groups, group ∈ input.groupTags) ∧
      List.IsChain (Lists (input.outbounds existing)) ("proxy" :: (groups ++ [outbound.tag])) := by
  have hstored : input.stored ≠ [] := List.ne_nil_of_mem hmem
  have hname : ∀ {group}, group ∈ input.groupTags →
      ∃ subscription ∈ input.grouped, subscription.name = group := by
    intro group hgroup
    exact List.mem_map.mp hgroup
  -- below a group there are only stored outbounds, so a path has at most one group
  have hshape : ∀ groups : List String, (∀ group ∈ groups, group ∈ input.groupTags) →
      List.IsChain (Lists (input.outbounds existing)) ("proxy" :: (groups ++ [outbound.tag])) →
      (groups = [] ∧ outbound.tag ∈ input.proxyMembers existing) ∨
        ∃ subscription ∈ input.grouped, groups = [subscription.name] ∧
          outbound.tag ∈ subscription.outbounds.map Outbound.tag := by
    intro groups hgroups hchain
    match groups with
    | [] =>
      rw [List.nil_append, List.isChain_cons_cons] at hchain
      exact .inl ⟨rfl, (h.lists_proxy hstored _).mp hchain.1⟩
    | [group] =>
      obtain ⟨subscription, hsub, rfl⟩ := hname (hgroups group (by simp))
      simp only [List.cons_append, List.nil_append, List.isChain_cons_cons] at hchain
      exact .inr ⟨subscription, hsub, rfl, (h.lists_name hstored hsub _).mp hchain.2.1⟩
    | group :: group' :: rest =>
      obtain ⟨subscription, hsub, rfl⟩ := hname (hgroups group (by simp))
      obtain ⟨other, hother, rfl⟩ := hname (hgroups group' (by simp))
      simp only [List.cons_append, List.isChain_cons_cons] at hchain
      have hin := (h.lists_name hstored hsub _).mp hchain.2.1
      obtain ⟨node, hnode, htag⟩ := List.mem_map.mp hin
      have hsub' := List.mem_of_mem_filter hsub
      exact absurd htag (h.stored_name node
        (List.mem_append_right _ (List.mem_flatMap.mpr ⟨subscription, hsub', hnode⟩)) other
        (List.mem_of_mem_filter hother))
  have hmember : outbound.tag ∈ input.proxyMembers existing ↔ outbound ∈ input.nodes := by
    rw [proxyMembers, h.proxyTags_eq]
    constructor
    · intro hin
      rcases List.mem_append.mp hin with hin | hin
      · obtain ⟨subscription, hsub, heq⟩ := hname hin
        exact absurd heq.symm
          (h.stored_name outbound hmem subscription (List.mem_of_mem_filter hsub))
      · rcases List.mem_append.mp hin with hin | hin
        · obtain ⟨other, hother, heq⟩ := mem_collectProxyTags hin
          exact absurd heq (h.stored_kept outbound hmem other hother)
        · obtain ⟨node, hnode, heq⟩ := List.mem_map.mp hin
          obtain rfl := List.inj_on_of_nodup_map h.stored_distinct
            (List.mem_append_left _ hnode) hmem heq
          exact hnode
    · intro hnode
      exact List.mem_append_right _ (List.mem_append_right _ (List.mem_map_of_mem hnode))
  obtain ⟨-, -, hapart⟩ := h.distinct_nodes
  have hbelow : ∀ {subscription}, subscription ∈ input.subscriptions →
      outbound.tag ∈ subscription.outbounds.map Outbound.tag →
        outbound.tag ∈ input.subscriptionTags := by
    intro subscription hsub hin
    rw [subscriptionTags, List.map_flatMap]
    exact List.mem_flatMap.mpr ⟨subscription, hsub, hin⟩
  rcases List.mem_append.mp hmem with hnode | hflat
  · refine ⟨[], ⟨by simp, ?_⟩, ?_⟩
    · rw [List.nil_append, List.isChain_cons_cons]
      exact ⟨(h.lists_proxy hstored _).mpr (hmember.mpr hnode), List.IsChain.singleton _⟩
    · rintro groups ⟨hgroups, hchain⟩
      rcases hshape groups hgroups hchain with ⟨hnil, -⟩ | ⟨subscription, hsub, -, hin⟩
      · exact hnil
      · exact absurd (hbelow (List.mem_of_mem_filter hsub) hin) (hapart outbound hnode)
  · obtain ⟨subscription, hsub, hout⟩ := List.mem_flatMap.mp hflat
    have hin : outbound.tag ∈ subscription.outbounds.map Outbound.tag := List.mem_map_of_mem hout
    have hgrouped : subscription ∈ input.grouped := by
      rw [h.grouped_eq, proxied, List.mem_filter, List.any_eq_true]
      exact ⟨hsub, outbound, hout, (managedNodeTypes_proxy (h.stored_type outbound hmem)).1⟩
    have hgroup : subscription.name ∈ input.groupTags := List.mem_map_of_mem hgrouped
    refine ⟨[subscription.name], ⟨by simpa using hgroup, ?_⟩, ?_⟩
    · simp only [List.cons_append, List.nil_append, List.isChain_cons_cons]
      exact ⟨(h.lists_proxy hstored _).mpr (List.mem_append_left _ hgroup),
        (h.lists_name hstored hgrouped _).mpr hin, List.IsChain.singleton _⟩
    · rintro groups ⟨hgroups, hchain⟩
      rcases hshape groups hgroups hchain with ⟨-, hproxy⟩ | ⟨other, hother, hnames, hin'⟩
      · exact absurd (hbelow hsub hin) (hapart outbound (hmember.mp hproxy))
      · rw [hnames, h.subscription_unique (List.mem_of_mem_filter hother) hsub hin' hin]

/-- Neither a group nor the selector is a candidate, so the written list has no other. -/
theorem Coverable.collectProxyTags_outbounds (h : input.Coverable existing)
    (hstored : input.stored ≠ []) :
    collectProxyTags (input.outbounds existing) input.subscriptionTags =
      input.proxyTags existing := by
  obtain ⟨defaultTag, rest, -, houts⟩ := h.outbounds_eq hstored
  have hgroups : collectProxyTags (input.groupEntries existing) input.subscriptionTags = [] := by
    unfold collectProxyTags
    rw [List.map_eq_nil_iff, List.filter_eq_nil_iff]
    intro outbound hmem
    obtain ⟨subscription, -, rfl⟩ := List.mem_map.mp hmem
    have htype : isProxySelectorCandidate (OutboundWriter.groupType input.defaults subscription) =
        false := by
      unfold OutboundWriter.groupType
      split_ifs <;> rfl
    rw [typeOf_toValue, OutboundWriter.subscriptionGroup_type, htype]
    simp
  have hselector : collectProxyTags
      [Object.toValue (proxySelector (defaultTag :: rest) defaultTag)] input.subscriptionTags =
      [] := by
    simp [collectProxyTags, proxySelector, Object.stringAt_insert, Value.asStr?,
      isProxySelectorCandidate]
  rw [houts, collectProxyTags_append, hselector, List.append_nil, entries,
    collectProxyTags_append, hgroups, List.append_nil, proxyTags, h.subscriptionMemberTags_eq]

end SyncInput

theorem collectProxyTags_json (outbounds : List Value) (excluded : List String) :
    collectProxyTags (outbounds.map Value.json) excluded = collectProxyTags outbounds excluded := by
  simp [collectProxyTags, List.filter_map, Function.comp_def]

theorem filter_tagOf_json (outbounds : List Value) (tag : String) :
    (outbounds.map Value.json).filter (tagOf · = tag) =
      (outbounds.filter (tagOf · = tag)).map Value.json := by
  rw [List.filter_map]
  congr 2
  funext outbound
  simp

theorem lists_json (outbounds : List Value) :
    Lists (outbounds.map Value.json) = Lists outbounds := by
  funext group tag
  simp [Lists]

variable {Bytes : Type*}

/-- A successful synchronisation writes one proxy selector over the groups and the candidates
outside the subscriptions, one group for every subscription with a proxy-like outbound, and
one path of groups from the selector to every stored outbound. -/
theorem syncOutboundsToConfig_proxy_coverage (codec : JSONCodec Bytes) {o : SyncOutcome}
    {s : SyncState Bytes} {config : Object} (hconfig : s.config? codec = some config)
    (hok : (syncOutboundsToConfig codec o s).2 = .ok ())
    (h : (syncInput s.db).Coverable (existingOutbounds config))
    (hstored : (syncInput s.db).stored ≠ []) :
    let input := syncInput s.db
    let outbounds := (syncOutboundsToConfig codec o s).1.outbounds codec
    let members := input.proxied.map Subscription.name ++
      collectProxyTags outbounds input.subscriptionTags
    members.Nodup ∧
    (∃ selector, outbounds.filter (tagOf · = "proxy") = [selector] ∧
      typeOf selector = "selector" ∧ memberTags selector = members ∧
      members.head? = some (defaultOf selector)) ∧
    (∀ subscription ∈ input.proxied, ∃ group,
      outbounds.filter (tagOf · = subscription.name) = [group] ∧
      isGroupType (typeOf group) = true ∧
      memberTags group = (subscription.outbounds.filter fun outbound =>
        isProxyLikeOutboundType outbound.type).map Outbound.tag) ∧
    ∀ outbound ∈ input.stored, ∃! groups : List String,
      (∀ group ∈ groups, group ∈ input.proxied.map Subscription.name) ∧
        List.IsChain (Lists outbounds) ("proxy" :: (groups ++ [outbound.tag])) := by
  intro input outbounds members
  have hwritten : outbounds = (input.outbounds (existingOutbounds config)).map Value.json :=
    (syncOutboundsToConfig_ok hconfig hok).2.1.outbounds
  have hgrouped : input.proxied = input.grouped := h.grouped_eq.symm
  have hmembers : members = input.proxyMembers (existingOutbounds config) := by
    change input.proxied.map Subscription.name ++
      collectProxyTags outbounds input.subscriptionTags = _
    rw [hwritten, collectProxyTags_json, h.collectProxyTags_outbounds hstored, hgrouped]
    rfl
  rw [hmembers, hwritten, lists_json]
  refine ⟨h.proxyMembers_nodup, ?_, ?_, ?_⟩
  · obtain ⟨defaultTag, rest, hcons, hfilter⟩ := h.filter_proxySelector hstored
    refine ⟨(Object.toValue (proxySelector (defaultTag :: rest) defaultTag)).json, ?_, ?_, ?_, ?_⟩
    · rw [filter_tagOf_json, hfilter]
      rfl
    · simp [proxySelector, Object.stringAt_insert, Value.asStr?]
    · rw [memberTags_json, memberTags_proxySelector, hcons]
    · rw [hcons]
      simp [proxySelector, Object.stringAt_insert, Value.asStr?]
  · intro subscription hsub
    rw [hgrouped] at hsub
    have hproxyLike : (subscription.outbounds.filter fun outbound =>
        isProxyLikeOutboundType outbound.type) = subscription.outbounds := by
      rw [List.filter_eq_self]
      intro outbound hout
      have hmem : outbound ∈ input.stored := List.mem_append_right _
        (List.mem_flatMap.mpr ⟨subscription, List.mem_of_mem_filter hsub, hout⟩)
      exact (managedNodeTypes_proxy (h.stored_type outbound hmem)).1
    refine ⟨(Object.toValue (subscriptionGroup input.defaults (indexExistingOutbounds
      (existingOutbounds config))[subscription.name]? subscription)).json, ?_, ?_, ?_⟩
    · rw [filter_tagOf_json, h.filter_name hstored hsub]
      rfl
    · rw [Value.json_toValue, typeOf_toValue, Object.stringAt_json,
        OutboundWriter.subscriptionGroup_type, OutboundWriter.groupType]
      split_ifs <;> rfl
    · rw [memberTags_json, memberTags_subscriptionGroup,
        h.subscriptionProxyTags_eq (List.mem_of_mem_filter hsub), hproxyLike]
  · intro outbound hmem
    rw [hgrouped]
    exact h.path_unique hmem

/-- A node "home", a subscription "air" with a node "hk", and a SOCKS outbound of the user. -/
def coveredState : SyncState { v : Value // v.json = v } where
  dir := ⟨some (documentCodec.marshal (Object.toValue ((∅ : Object).insert "outbounds"
    (.list [.obj [("tag", .str "office"), ("type", .str "socks")]])))), none⟩
  db := { emptyDatabase with
    nodes := (∅ : GoMap Outbound).insert "home" ⟨"home", "trojan", "192.0.2.1", 443, .null⟩
    subscriptions := (∅ : GoMap Subscription).insert "1"
      ⟨"1", "air", "https://sub.example", 60, none, 1, "",
        [⟨"hk", "vless", "192.0.2.2", 443, .null⟩]⟩ }

def coveredConfig : Object := Object.json ((∅ : Object).insert "outbounds"
  (.list [.obj [("tag", .str "office"), ("type", .str "socks")]]))

theorem coveredState_coverable :
    (syncInput coveredState.db).Coverable (existingOutbounds coveredConfig) where
  stored_type := by decide
  stored_tag := by decide
  stored_distinct := by decide
  stored_name := by decide
  stored_kept := by decide
  stored_raw := by decide
  name := by decide
  name_distinct := by decide
  kept_distinct := by decide
  kept_proxy := by decide
  kept_name := by decide

theorem coveredState_proxy_coverage :
    let input := syncInput coveredState.db
    let outbounds := (syncOutboundsToConfig documentCodec .clean coveredState).1.outbounds
      documentCodec
    let members := input.proxied.map Subscription.name ++
      collectProxyTags outbounds input.subscriptionTags
    members.Nodup ∧
    (∃ selector, outbounds.filter (tagOf · = "proxy") = [selector] ∧
      typeOf selector = "selector" ∧ memberTags selector = members ∧
      members.head? = some (defaultOf selector)) ∧
    (∀ subscription ∈ input.proxied, ∃ group,
      outbounds.filter (tagOf · = subscription.name) = [group] ∧
      isGroupType (typeOf group) = true ∧
      memberTags group = (subscription.outbounds.filter fun outbound =>
        isProxyLikeOutboundType outbound.type).map Outbound.tag) ∧
    ∀ outbound ∈ input.stored, ∃! groups : List String,
      (∀ group ∈ groups, group ∈ input.proxied.map Subscription.name) ∧
        List.IsChain (Lists outbounds) ("proxy" :: (groups ++ [outbound.tag])) :=
  syncOutboundsToConfig_proxy_coverage documentCodec
    (show coveredState.config? documentCodec = some coveredConfig from rfl) (by decide)
    coveredState_coverable (by decide)

end Boxui.API
