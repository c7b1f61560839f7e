import Boxui.API.SyncCommit
import Boxui.API.SyncWriters
import Mathlib.Data.List.Nodup

/-! Which tags a synchronisation writes, and when they are unique. Five sources append
entries: the fixed direct outbound, the kept outbounds, the stored ones, the subscription
groups and the proxy selector. -/
namespace Boxui.API
open GoValue Boxui.Core

/-- The tags under which sing-box accepts a list of outbounds. -/
def UniqueTags (tags : List String) : Prop := (∀ tag ∈ tags, tag ≠ "") ∧ tags.Nodup

namespace SyncInput

/-- A proxy selector is appended: there is a member, and no stored outbound or group is
written as a selector tagged "proxy" that would be taken instead. -/
def FreshSelector (input : SyncInput) (existing : List Value) : Prop :=
  input.groupTags ++ input.proxyTags existing ≠ [] ∧
    (∀ outbound ∈ input.stored,
      ¬(writtenType outbound = "selector" ∧ writtenTag outbound = "proxy")) ∧
    ∀ subscription ∈ input.grouped,
      ¬((resolveURLTest input.defaults subscription.urltest).enabled = false ∧
        subscription.name = "proxy")

instance (input : SyncInput) (existing : List Value) :
    Decidable (input.FreshSelector existing) := by
  unfold FreshSelector
  infer_instance

theorem any_isProxySelector_iff (input : SyncInput) :
    input.baseWriters.any OutboundWriter.isProxySelector = true ↔
      ¬((∀ outbound ∈ input.stored,
          ¬(writtenType outbound = "selector" ∧ writtenTag outbound = "proxy")) ∧
        ∀ subscription ∈ input.grouped,
          ¬((resolveURLTest input.defaults subscription.urltest).enabled = false ∧
            subscription.name = "proxy")) := by
  have hgroup (subscription : Subscription) :
      (OutboundWriter.group input.defaults subscription).isProxySelector = true ↔
        (resolveURLTest input.defaults subscription.urltest).enabled = false ∧
          subscription.name = "proxy" := by
    simp only [OutboundWriter.isProxySelector, OutboundWriter.group, OutboundWriter.groupType,
      Bool.and_eq_true, beq_iff_eq]
    split_ifs with h <;> simp [h]
  have hstored (outbound : Outbound) :
      (OutboundWriter.stored outbound).isProxySelector = true ↔
        writtenType outbound = "selector" ∧ writtenTag outbound = "proxy" := by
    simp [OutboundWriter.isProxySelector, OutboundWriter.stored]
  simp only [baseWriters, List.any_append, Bool.or_eq_true, List.any_eq_true, List.mem_map]
  rw [not_and_or]
  constructor
  · rintro (⟨_, ⟨outbound, hmem, rfl⟩, hsel⟩ | ⟨_, ⟨subscription, hmem, rfl⟩, hsel⟩)
    · exact .inl fun h => h outbound hmem ((hstored outbound).mp hsel)
    · exact .inr fun h => h subscription hmem ((hgroup subscription).mp hsel)
  · rintro (h | h)
    · push Not at h
      obtain ⟨outbound, hmem, hsel⟩ := h
      exact .inl ⟨_, ⟨outbound, hmem, rfl⟩, (hstored outbound).mpr hsel⟩
    · push Not at h
      obtain ⟨subscription, hmem, hsel⟩ := h
      exact .inr ⟨_, ⟨subscription, hmem, rfl⟩, (hgroup subscription).mpr hsel⟩

/-- What the writers have in common with themselves after the members are laid over one of
them: a value for every stored outbound, one for every group, and one for a fresh selector. -/
theorem writers_map {β : Type*} (f : OutboundWriter → β) {c : β}
    (hmembers : ∀ members defaultTag, ∀ w : OutboundWriter,
      f (w.withMembers members defaultTag) = f w)
    (hselector : ∀ members defaultTag, f (.selector members defaultTag) = c)
    (input : SyncInput) (existing : List Value) :
    (input.writers existing).map f =
      input.stored.map (fun outbound => f (.stored outbound)) ++
        input.grouped.map (fun subscription => f (.group input.defaults subscription)) ++
          if input.FreshSelector existing then [c] else [] := by
  have hbase : input.baseWriters.map f =
      input.stored.map (fun outbound => f (.stored outbound)) ++
        input.grouped.map fun subscription => f (.group input.defaults subscription) := by
    simp only [baseWriters, List.map_append, List.map_map]
    rfl
  have hplace (defaultTag : String) (rest : List String) :=
    OutboundWriter.place_map f (defaultTag :: rest) defaultTag (hmembers _ _) input.baseWriters
  rw [← hbase, writers]
  by_cases hfresh : input.FreshSelector existing
  · have hany := mt input.any_isProxySelector_iff.mp (not_not.mpr hfresh.2)
    rw [if_pos hfresh]
    cases hnames : input.groupTags ++ input.proxyTags existing with
    | nil => exact absurd hnames hfresh.1
    | cons defaultTag rest =>
      dsimp only
      rw [hplace, if_neg hany, hselector]
  · rw [if_neg hfresh, List.append_nil]
    cases hnames : input.groupTags ++ input.proxyTags existing with
    | nil => rfl
    | cons defaultTag rest =>
      have hany := input.any_isProxySelector_iff.mpr fun h => hfresh ⟨by simp [hnames], h⟩
      dsimp only
      rw [hplace, if_pos hany, List.append_nil]

/-- The tags of the written list, source by source. -/
theorem outbounds_map_tagOf (input : SyncInput) (existing : List Value) :
    (input.outbounds existing).map tagOf =
      "direct" :: (input.kept existing).map tagOf ++ (input.stored.map writtenTag ++
        input.groupTags ++ if input.FreshSelector existing then ["proxy"] else []) := by
  have hdirect : tagOf directOutbound = "direct" := by decide
  have hwriters := input.writers_map OutboundWriter.tag (fun _ _ _ => rfl) (fun _ _ => rfl) existing
  rw [outbounds_eq, List.map_append, List.map_cons, hdirect, List.map_map]
  have htag : tagOf ∘ OutboundWriter.entry existing = OutboundWriter.tag := by
    funext w
    exact OutboundWriter.tagOf_entry existing w
  rw [htag, hwriters]
  rfl

/-- No two sources write the same tag, and none writes an empty one. -/
structure TagsApart (input : SyncInput) (existing : List Value) : Prop where
  kept_direct : ∀ outbound ∈ input.kept existing, tagOf outbound ≠ "direct"
  stored_tag : ∀ outbound ∈ input.stored,
    writtenTag outbound ≠ "" ∧ writtenTag outbound ≠ "direct" ∧
      ∀ other ∈ input.kept existing, tagOf other ≠ writtenTag outbound
  stored_distinct : (input.stored.map writtenTag).Nodup
  group_name : ∀ subscription ∈ input.grouped,
    subscription.name ≠ "" ∧ subscription.name ≠ "direct" ∧
      (∀ other ∈ input.kept existing, tagOf other ≠ subscription.name) ∧
      ∀ outbound ∈ input.stored, writtenTag outbound ≠ subscription.name
  group_distinct : (input.grouped.map Subscription.name).Nodup
  proxy : input.FreshSelector existing →
    (∀ other ∈ input.kept existing, tagOf other ≠ "proxy") ∧
      (∀ outbound ∈ input.stored, writtenTag outbound ≠ "proxy") ∧
      ∀ subscription ∈ input.grouped, subscription.name ≠ "proxy"

theorem uniqueTags_outbounds_iff (input : SyncInput) {existing : List Value}
    (hexisting : UniqueTags (existing.map tagOf)) :
    UniqueTags ((input.outbounds existing).map tagOf) ↔ input.TagsApart existing := by
  have hkept : UniqueTags ((input.kept existing).map tagOf) := by
    have hsub : ((input.kept existing).map tagOf).Sublist (existing.map tagOf) :=
      List.filter_sublist.map tagOf
    exact ⟨fun tag h => hexisting.1 tag (hsub.subset h), hexisting.2.sublist hsub⟩
  rw [UniqueTags, outbounds_map_tagOf]
  simp only [List.cons_append, List.nodup_cons, List.nodup_append, List.mem_cons,
    List.mem_append, List.mem_map, groupTags]
  constructor
  · rintro ⟨hne, hdirect, -, ⟨⟨hstored, hgroups, hstoredGroup⟩, -, hbefore⟩, hkeptRest⟩
    refine ⟨?_, ?_, hstored, ?_, hgroups, ?_⟩
    · intro outbound hmem h
      exact hdirect (.inl ⟨outbound, hmem, h⟩)
    · intro outbound hmem
      refine ⟨hne _ (.inr (.inr (.inl (.inl ⟨outbound, hmem, rfl⟩)))), ?_, ?_⟩
      · intro h
        exact hdirect (.inr (.inl (.inl ⟨outbound, hmem, h⟩)))
      · intro other hother
        exact hkeptRest _ ⟨other, hother, rfl⟩ _ (.inl (.inl ⟨outbound, hmem, rfl⟩))
    · intro subscription hmem
      refine ⟨hne _ (.inr (.inr (.inl (.inr ⟨subscription, hmem, rfl⟩)))), ?_, ?_, ?_⟩
      · intro h
        exact hdirect (.inr (.inl (.inr ⟨subscription, hmem, h⟩)))
      · intro other hother
        exact hkeptRest _ ⟨other, hother, rfl⟩ _ (.inl (.inr ⟨subscription, hmem, rfl⟩))
      · intro outbound hout
        exact hstoredGroup _ ⟨outbound, hout, rfl⟩ _ ⟨subscription, hmem, rfl⟩
    · intro hfresh
      rw [if_pos hfresh] at hbefore hkeptRest
      refine ⟨?_, ?_, ?_⟩
      · intro other hother
        exact hkeptRest _ ⟨other, hother, rfl⟩ _ (.inr (List.mem_singleton.mpr rfl))
      · intro outbound hout
        exact hbefore _ (.inl ⟨outbound, hout, rfl⟩) _ (List.mem_singleton.mpr rfl)
      · intro subscription hmem
        exact hbefore _ (.inr ⟨subscription, hmem, rfl⟩) _ (List.mem_singleton.mpr rfl)
  · rintro ⟨hkeptDirect, hstoredTag, hstored, hname, hgroups, hproxy⟩
    have hfreshTag : ∀ tag, tag ∈ (if input.FreshSelector existing then ["proxy"] else []) →
        input.FreshSelector existing ∧ tag = "proxy" := by
      intro tag htag
      split_ifs at htag with hfresh
      · exact ⟨hfresh, List.mem_singleton.mp htag⟩
      · cases htag
    refine ⟨?_, ?_, hkept.2, ⟨⟨hstored, hgroups, ?_⟩, ?_, ?_⟩, ?_⟩
    · rintro tag (rfl | h | (⟨outbound, hmem, rfl⟩ | ⟨subscription, hmem, rfl⟩) | h)
      · decide
      · exact hkept.1 tag (List.mem_map.mpr h)
      · exact (hstoredTag outbound hmem).1
      · exact (hname subscription hmem).1
      · rw [(hfreshTag tag h).2]
        decide
    · rintro (⟨other, hmem, h⟩ | (⟨outbound, hmem, h⟩ | ⟨subscription, hmem, h⟩) | h)
      · exact hkeptDirect other hmem h
      · exact (hstoredTag outbound hmem).2.1 h
      · exact (hname subscription hmem).2.1 h
      · exact absurd (hfreshTag _ h).2 (by decide)
    · rintro tag ⟨outbound, hout, rfl⟩ tag' ⟨subscription, hmem, rfl⟩
      exact (hname subscription hmem).2.2.2 outbound hout
    · split_ifs <;> simp
    · rintro tag hbefore tag' h
      obtain ⟨hfresh, rfl⟩ := hfreshTag tag' h
      obtain ⟨-, hout, hsub⟩ := hproxy hfresh
      rcases hbefore with ⟨outbound, hmem, rfl⟩ | ⟨subscription, hmem, rfl⟩
      · exact hout outbound hmem
      · exact hsub subscription hmem
    · rintro tag ⟨other, hother, rfl⟩ tag' ((⟨outbound, hmem, rfl⟩ | ⟨subscription, hmem, rfl⟩) | h)
      · exact (hstoredTag outbound hmem).2.2 other hother
      · exact (hname subscription hmem).2.2.1 other hother
      · obtain ⟨hfresh, rfl⟩ := hfreshTag tag' h
        exact (hproxy hfresh).1 other hother

end SyncInput

variable {Bytes : Type*}

/-- On a configuration with unique tags, a successful synchronisation writes unique tags
exactly when the sources are apart. -/
theorem syncOutboundsToConfig_uniqueTags_iff (codec : JSONCodec Bytes) {o : SyncOutcome}
    {s : SyncState Bytes} {config : Object} (hconfig : s.config? codec = some config)
    (hunique : UniqueTags ((existingOutbounds config).map tagOf))
    (hok : (syncOutboundsToConfig codec o s).2 = .ok ()) :
    UniqueTags ((syncOutboundsToConfig codec o s).1.outboundTags codec) ↔
      (syncInput s.db).TagsApart (existingOutbounds config) := by
  obtain ⟨-, hwrote, -⟩ := syncOutboundsToConfig_ok hconfig hok
  rw [hwrote.outboundTags]
  exact (syncInput s.db).uniqueTags_outbounds_iff hunique

/-- A node beside a configuration with an outbound of another tag. -/
def nodeState : SyncState { v : Value // v.json = v } where
  dir := ⟨some (documentCodec.marshal (.obj [("outbounds",
    .list [.obj [("tag", .str "sg"), ("type", .str "ssh")]])])), none⟩
  db := { emptyDatabase with
    nodes := (∅ : GoMap Outbound).insert "hk" ⟨"hk", "vless", "192.0.2.1", 443, .null⟩ }

theorem nodeState_uniqueTags :
    UniqueTags ((syncOutboundsToConfig documentCodec .clean nodeState).1.outboundTags
      documentCodec) := by
  have happart : (syncInput nodeState.db).TagsApart
      [.obj [("tag", .str "sg"), ("type", .str "ssh")]] :=
    ⟨by decide, by decide, by decide, by decide, by decide,
      fun _ => ⟨by decide, by decide, by decide⟩⟩
  have hconfig : nodeState.config? documentCodec = some (.ofList [("outbounds",
      .list [.obj [("tag", .str "sg"), ("type", .str "ssh")]])] compare) := rfl
  exact (syncOutboundsToConfig_uniqueTags_iff documentCodec hconfig ⟨by decide, by decide⟩
    (by decide)).mpr happart

/-- Two subscriptions, created and refreshed, whose servers both serve a node "hk". -/
def sharedNodeState : SyncState { v : Value // v.json = v } where
  dir := ⟨some (documentCodec.marshal (Object.toValue ∅)), none⟩
  db :=
    let create (name : String) (db : Database) : Database :=
      (SubscriptionManager.create ⟨fun _ => true, fun _ => true⟩
        ⟨name, "https://sub.example", 60, none⟩ db).toOption.getD db
    (SubscriptionManager.refreshAll (fun _ => .ok [⟨"hk", "vless", "192.0.2.1", 443, .null⟩]) 1
      (create "b" (create "a" emptyDatabase))).1

theorem sharedNode_duplicate :
    (syncOutboundsToConfig documentCodec .clean sharedNodeState).2 = .ok () ∧
      UniqueTags (sharedNodeState.outboundTags documentCodec) ∧
      ¬UniqueTags ((syncOutboundsToConfig documentCodec .clean sharedNodeState).1.outboundTags
        documentCodec) := by
  have htags : (syncOutboundsToConfig documentCodec .clean sharedNodeState).1.outboundTags
      documentCodec = ["direct", "hk", "hk", "a", "b", "proxy"] := by decide
  refine ⟨by decide, ⟨by decide, by decide⟩, ?_⟩
  rw [htags]
  rintro ⟨-, hnodup⟩
  revert hnodup
  decide

end Boxui.API
