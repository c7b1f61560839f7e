import Boxui.API.RequestFrames
import Boxui.API.SyncIdempotence

/-! The entry of a subscription group is the old entry of its name with some fields set or
cleared. When it is an entry of its type, and where the fields that do not belong come from. -/
namespace Boxui.API
open GoValue Boxui.Core Machine Reconcile

variable {Bytes : Type*}

/-- The keys of a group, `groupMap` of the outbound editor. -/
def selectorKeys : List String :=
  ["type", "tag", "outbounds", "default", "interrupt_exist_connections"]

def urlTestKeys : List String :=
  ["type", "tag", "outbounds", "url", "interval", "tolerance", "idle_timeout",
    "interrupt_exist_connections"]

/-- An entry is a urltest with the resolved settings or a selector whose default is a member, and
has no key of another type. -/
structure Coherent (defaults : URLTestDefaults) (subscription : Subscription) (entry : Object) :
    Prop where
  urltest : (resolveURLTest defaults subscription.urltest).enabled = true →
    entry["type"]? = some (.str "urltest") ∧
    entry["url"]? = some (.str (resolveURLTest defaults subscription.urltest).url) ∧
    entry["interval"]? = some (.str (resolveURLTest defaults subscription.urltest).interval) ∧
    entry["tolerance"]? =
      some (.int (resolveURLTest defaults subscription.urltest).tolerance.toNat) ∧
    ∀ k, entry.contains k = true → k ∈ urlTestKeys
  selector : (resolveURLTest defaults subscription.urltest).enabled = false →
    entry["type"]? = some (.str "selector") ∧
    (∀ k, entry.contains k = true → k ∈ selectorKeys) ∧
    ∀ v, entry["default"]? = some v → ∃ tag ∈ subscriptionProxyTags subscription, v = .str tag

/-- The fields that a group sets or clears whatever it finds. -/
def patchedKeys : List String := ["type", "tag", "outbounds", "url", "interval", "tolerance"]

/-- The old entry of that name has, beside the patched fields, none but fields of the type that
is to be generated, and no default outside the members. -/
structure FitsType (defaults : URLTestDefaults) (subscription : Subscription) (prior : Object) :
    Prop where
  urltest : (resolveURLTest defaults subscription.urltest).enabled = true →
    ∀ k, prior.contains k = true → k ∈ patchedKeys ∨ k ∈ urlTestKeys
  selector : (resolveURLTest defaults subscription.urltest).enabled = false →
    (∀ k, prior.contains k = true → k ∈ patchedKeys ∨ k ∈ selectorKeys) ∧
    ∀ v, prior["default"]? = some v → ∃ tag ∈ subscriptionProxyTags subscription, v = .str tag

theorem groupOwn_eq_none {defaults : URLTestDefaults} {subscription : Subscription} {k : String} :
    OutboundWriter.groupOwn defaults subscription k = none ↔ k ∉ patchedKeys := by
  unfold OutboundWriter.groupOwn patchedKeys
  dsimp only
  split_ifs <;> simp_all

/-- Every other field is carried over. -/
theorem getElem?_subscriptionGroup_carried {defaults : URLTestDefaults} {prior : Option Object}
    {subscription : Subscription} {k : String} (hk : k ∉ patchedKeys) :
    (subscriptionGroup defaults prior subscription)[k]? = (prior.getD ∅)[k]? := by
  rw [OutboundWriter.getElem?_subscriptionGroup, groupOwn_eq_none.mpr hk, Option.getD_none,
    getD_getElem?]

theorem contains_subscriptionGroup_carried {defaults : URLTestDefaults} {prior : Option Object}
    {subscription : Subscription} {k : String} (hk : k ∉ patchedKeys) :
    (subscriptionGroup defaults prior subscription).contains k = (prior.getD ∅).contains k := by
  rw [Std.ExtTreeMap.contains_eq_isSome_getElem?, Std.ExtTreeMap.contains_eq_isSome_getElem?,
    getElem?_subscriptionGroup_carried hk]

/-- A selector has no patched field that is one of a urltest only. -/
theorem patched_of_selector {defaults : URLTestDefaults} {prior : Option Object}
    {subscription : Subscription} {k : String}
    (hdisabled : (resolveURLTest defaults subscription.urltest).enabled = false)
    (hk : k ∈ patchedKeys)
    (hcontains : (subscriptionGroup defaults prior subscription).contains k = true) :
    k ∈ selectorKeys := by
  rw [Std.ExtTreeMap.contains_eq_isSome_getElem?, OutboundWriter.getElem?_subscriptionGroup]
    at hcontains
  simp only [patchedKeys, List.mem_cons, List.not_mem_nil, or_false] at hk
  rcases hk with rfl | rfl | rfl | rfl | rfl | rfl
  · decide
  · decide
  · decide
  all_goals simp [OutboundWriter.groupOwn, hdisabled] at hcontains

/-- The generated entry is one of its type exactly when the old entry fits that type. -/
theorem subscriptionGroup_coherent_iff (defaults : URLTestDefaults) (prior : Option Object)
    (subscription : Subscription) :
    Coherent defaults subscription (subscriptionGroup defaults prior subscription) ↔
      FitsType defaults subscription (prior.getD ∅) := by
  have hdefault : (subscriptionGroup defaults prior subscription)["default"]? =
      (prior.getD ∅)["default"]? := getElem?_subscriptionGroup_carried (by decide)
  have hurltest : ∀ k ∈ patchedKeys, k ∈ urlTestKeys := by decide
  constructor
  · intro h
    constructor
    · intro henabled k hk
      by_cases hpatched : k ∈ patchedKeys
      · exact .inl hpatched
      · right
        apply (h.urltest henabled).2.2.2.2
        rwa [contains_subscriptionGroup_carried hpatched]
    · intro hdisabled
      obtain ⟨-, hkeys, hmember⟩ := h.selector hdisabled
      refine ⟨?_, hdefault ▸ hmember⟩
      intro k hk
      by_cases hpatched : k ∈ patchedKeys
      · exact .inl hpatched
      · right
        apply hkeys
        rwa [contains_subscriptionGroup_carried hpatched]
  · intro h
    constructor
    · intro henabled
      have hfield := OutboundWriter.getElem?_subscriptionGroup defaults prior subscription
      refine ⟨?_, ?_, ?_, ?_, ?_⟩
      · simp [hfield, OutboundWriter.groupOwn, OutboundWriter.groupType, henabled]
      · simp [hfield, OutboundWriter.groupOwn, henabled]
      · simp [hfield, OutboundWriter.groupOwn, henabled]
      · simp [hfield, OutboundWriter.groupOwn, henabled]
      · intro k hk
        by_cases hpatched : k ∈ patchedKeys
        · exact hurltest k hpatched
        · rw [contains_subscriptionGroup_carried hpatched] at hk
          exact (h.urltest henabled k hk).resolve_left hpatched
    · intro hdisabled
      obtain ⟨hkeys, hmember⟩ := h.selector hdisabled
      refine ⟨?_, ?_, hdefault ▸ hmember⟩
      · rw [OutboundWriter.getElem?_subscriptionGroup]
        simp [OutboundWriter.groupOwn, OutboundWriter.groupType, hdisabled]
      · intro k hk
        by_cases hpatched : k ∈ patchedKeys
        · exact patched_of_selector hdisabled hpatched hk
        · rw [contains_subscriptionGroup_carried hpatched] at hk
          exact (hkeys k hk).resolve_left hpatched

/-- What a request has a synchronisation find and generate. -/
def syncedInput (i : Request × Surroundings) (s : SyncState Bytes) : SyncInput :=
  syncInput (i.1.store i.2 s.db).1

def priorEntry (codec : JSONCodec Bytes) (s : SyncState Bytes) (name : String) : Option Object :=
  (indexExistingOutbounds (s.outbounds codec))[name]?

/-- Every group that the request generates is an entry of its type. -/
def GeneratesCoherent (codec : JSONCodec Bytes) (s : SyncState Bytes)
    (i : Request × Surroundings) : Prop :=
  i.1.synchronised codec i.2 s = true → ∀ subscription ∈ (syncedInput i s).grouped,
    Coherent (syncedInput i s).defaults subscription
      (subscriptionGroup (syncedInput i s).defaults (priorEntry codec s subscription.name)
        subscription)

/-- Every entry that the file holds under the name of such a group fits its type. -/
def FindsFitting (codec : JSONCodec Bytes) (s : SyncState Bytes)
    (i : Request × Surroundings) : Prop :=
  i.1.synchronised codec i.2 s = true → ∀ subscription ∈ (syncedInput i s).grouped,
    FitsType (syncedInput i s).defaults subscription
      ((priorEntry codec s subscription.name).getD ∅)

theorem generatesCoherent_iff (codec : JSONCodec Bytes) (s : SyncState Bytes)
    (i : Request × Surroundings) : GeneratesCoherent codec s i ↔ FindsFitting codec s i := by
  simp only [GeneratesCoherent, FindsFitting, subscriptionGroup_coherent_iff]

namespace OutboundWriter

/-- Placing the proxy selector changes nothing under another tag. -/
theorem latest_place (members : List String) (defaultTag : String) (ws : List OutboundWriter)
    {name : String} (hname : name ≠ "proxy") :
    latest OutboundWriter.tag (place members defaultTag ws) name =
      latest OutboundWriter.tag ws name := by
  have hskip {w : OutboundWriter} (hw : w.tag = "proxy") :
      latest OutboundWriter.tag [w] name = none := by
    simp [latest, hw, Ne.symm hname]
  induction ws with
  | nil => exact hskip rfl
  | cons w ws ih =>
    have hcons (x : OutboundWriter) (l : List OutboundWriter) :
        latest OutboundWriter.tag (x :: l) name =
          (latest OutboundWriter.tag l name).or (latest OutboundWriter.tag [x] name) :=
      latest_append OutboundWriter.tag [x] l name
    rw [place]
    split_ifs with hselector
    · have htag := tag_of_isProxySelector hselector
      have hplaced : (w.withMembers members defaultTag).tag = "proxy" := htag
      rw [hcons, hcons w ws, hskip htag, hskip hplaced]
    · rw [hcons w, ih, hcons w ws]

end OutboundWriter

/-- A synchronisation that succeeds has written the outbounds of its input. -/
theorem synchronised_outbounds (codec : JSONCodec Bytes) {s : SyncState Bytes}
    {i : Request × Surroundings} (hsynced : i.1.synchronised codec i.2 s = true) :
    (s.outbounds codec).map Value.json = s.outbounds codec ∧
      (i.1.handle codec i.2 s).1.outbounds codec =
        ((syncedInput i s).outbounds (s.outbounds codec)).map Value.json := by
  unfold Request.synchronised at hsynced
  unfold syncedInput Request.handle
  rcases hstore : i.1.store i.2 s.db with ⟨db, response | respond⟩
  · rw [hstore] at hsynced
    cases hsynced
  · rw [hstore] at hsynced
    dsimp only at hsynced ⊢
    rcases syncOutboundsToConfig_cases codec i.2.sync ⟨s.dir, db⟩ with
      ⟨config, hconfig, -, -, hwrote, -⟩ | ⟨⟨e, herr⟩, -, -⟩
    · have hbefore : s.outbounds codec = existingOutbounds config := by
        have hsame : s.config? codec = some config := hconfig
        rw [SyncState.outbounds, hsame]
        rfl
      rw [hbefore]
      exact ⟨existingOutbounds_json (SyncState.config?_json hconfig), hwrote.outbounds⟩
    · rw [herr] at hsynced
      cases hsynced

/-- Every group but a selector for the proxies is in the file as it was generated. -/
def WritesGenerated (codec : JSONCodec Bytes) (s : SyncState Bytes)
    (i : Request × Surroundings) : Prop :=
  i.1.synchronised codec i.2 s = true → ∀ subscription ∈ (syncedInput i s).grouped,
    subscription.name ≠ "proxy" →
      (Object.toValue (subscriptionGroup (syncedInput i s).defaults
          (priorEntry codec s subscription.name) subscription)).json ∈
        (i.1.handle codec i.2 s).1.outbounds codec

theorem writesGenerated (codec : JSONCodec Bytes) (s : SyncState Bytes)
    (i : Request × Surroundings) : WritesGenerated codec s i := by
  intro hsynced subscription hgrouped hname
  have hbase : OutboundWriter.group (syncedInput i s).defaults subscription ∈
      (syncedInput i s).baseWriters :=
    List.mem_append_right _ (List.mem_map_of_mem hgrouped)
  have hwriter : OutboundWriter.group (syncedInput i s).defaults subscription ∈
      (syncedInput i s).writers (s.outbounds codec) := by
    unfold SyncInput.writers
    split
    · exact hbase
    · exact (OutboundWriter.mem_place_of_tag_ne hname).mpr hbase
  rw [(synchronised_outbounds codec hsynced).2, SyncInput.outbounds_eq]
  exact List.mem_map_of_mem (List.mem_append_right _ (List.mem_map_of_mem hwriter))

/-- The last group of a name is the last writer under it. -/
theorem latest_writers_group (input : SyncInput) (existing : List Value) {name : String}
    (hproxy : name ≠ "proxy") {subscription : Subscription}
    (hlatest : latest Subscription.name input.grouped name = some subscription) :
    latest OutboundWriter.tag (input.writers existing) name =
      some (.group input.defaults subscription) := by
  have hbase : latest OutboundWriter.tag (input.writers existing) name =
      latest OutboundWriter.tag input.baseWriters name := by
    unfold SyncInput.writers
    split
    · rfl
    · exact OutboundWriter.latest_place _ _ _ hproxy
  have hgroups : latest OutboundWriter.tag
      (input.grouped.map (OutboundWriter.group input.defaults)) name =
        (latest Subscription.name input.grouped name).map (OutboundWriter.group input.defaults) :=
    latest_map OutboundWriter.tag (OutboundWriter.group input.defaults) input.grouped name
  rw [hbase, SyncInput.baseWriters, latest_append, hgroups, hlatest]
  rfl

theorem exists_latest_group {input : SyncInput} {name : String} (h : name ∈ input.groupTags) :
    ∃ subscription, latest Subscription.name input.grouped name = some subscription := by
  obtain ⟨subscription, hmem, hname⟩ := List.mem_map.mp h
  cases hlatest : latest Subscription.name input.grouped name with
  | none =>
    have hnone := List.find?_eq_none.mp hlatest subscription (List.mem_reverse.mpr hmem)
    simp [hname] at hnone
  | some last => exact ⟨last, rfl⟩

theorem lookupField_json {l : List Value} (hjson : l.map Value.json = l) (name k : String) :
    (SyncInput.lookupField l name k).map Value.json = SyncInput.lookupField l name k := by
  unfold SyncInput.lookupField
  rw [indexExistingOutbounds_getElem?]
  split_ifs
  · rfl
  · cases hlatest : latest tagOf l name with
    | none => rfl
    | some outbound =>
      have houtbound : outbound.json = outbound :=
        List.map_inj_left.mp (hjson.trans (List.map_id _).symm) outbound (mem_of_latest hlatest)
      have hmap := Value.asMap?_json outbound
      rw [houtbound] at hmap
      cases hentry : outbound.asMap? with
      | none => simp [hentry]
      | some entry =>
        rw [hentry] at hmap
        have hfield := Object.getElem?_json entry k
        rw [← Option.some.inj hmap] at hfield
        simp [hentry, ← hfield]

theorem getElem?_priorEntry (codec : JSONCodec Bytes) (s : SyncState Bytes) (name k : String) :
    ((priorEntry codec s name).getD ∅)[k]? = SyncInput.lookupField (s.outbounds codec) name k := by
  rw [getD_getElem?]
  rfl

/-- The file holds the last group of a name under it, as it was generated. -/
theorem writtenEntry_eq (codec : JSONCodec Bytes) {s : SyncState Bytes}
    {i : Request × Surroundings} (hsynced : i.1.synchronised codec i.2 s = true) {name : String}
    (hempty : name ≠ "") (hproxy : name ≠ "proxy") {subscription : Subscription}
    (hlatest : latest Subscription.name (syncedInput i s).grouped name = some subscription) :
    (priorEntry codec (i.1.handle codec i.2 s).1 name).getD ∅ =
      Object.json (subscriptionGroup (syncedInput i s).defaults (priorEntry codec s name)
        subscription) := by
  obtain ⟨-, houtbounds⟩ := synchronised_outbounds codec hsynced
  have hwriter := latest_writers_group (syncedInput i s) (s.outbounds codec) hproxy hlatest
  have hname : subscription.name = name := tag_latest hlatest
  apply Std.ExtTreeMap.ext_getElem?
  intro k
  have hnext : (syncedInput i s).nextField (s.outbounds codec) name k =
        (subscriptionGroup (syncedInput i s).defaults (priorEntry codec s name)
          subscription)[k]? := by
    rw [SyncInput.nextField, if_neg hempty, hwriter, OutboundWriter.getElem?_subscriptionGroup,
      ← getD_getElem?, getElem?_priorEntry]
    simp [OutboundWriter.field, OutboundWriter.group, hname]
  have hjson : (((syncedInput i s).outbounds (s.outbounds codec)).map Value.json).map Value.json =
      ((syncedInput i s).outbounds (s.outbounds codec)).map Value.json := by
    rw [List.map_map]
    exact List.map_congr_left fun outbound _ => Value.json_json outbound
  have hwritten := (syncedInput i s).lookupField_outbounds (s.outbounds codec) name k
  rw [lookupField_json hjson, ← houtbounds, hnext] at hwritten
  rw [getElem?_priorEntry, hwritten, Object.getElem?_json]

/-- The entry that a synchronisation leaves under the name of a group is one of the type of its
last group. -/
def WritesCoherent (codec : JSONCodec Bytes) (name : String) (s : SyncState Bytes)
    (i : Request × Surroundings) : Prop :=
  i.1.synchronised codec i.2 s = true → ∀ subscription,
    latest Subscription.name (syncedInput i s).grouped name = some subscription →
      ∃ entry, Coherent (syncedInput i s).defaults subscription entry ∧
        (priorEntry codec (i.1.handle codec i.2 s).1 name).getD ∅ = Object.json entry

/-- An entry fits the type of the last group of the name. -/
def FitsGroup (codec : JSONCodec Bytes) (name : String) (prior : Object) (s : SyncState Bytes)
    (i : Request × Surroundings) : Prop :=
  i.1.synchronised codec i.2 s = true → ∀ subscription,
    latest Subscription.name (syncedInput i s).grouped name = some subscription →
      FitsType (syncedInput i s).defaults subscription prior

theorem str_of_json {v : Value} {text : String} (h : v.json = .str text) : v = .str text := by
  cases v <;> first | exact h | cases h

theorem writesCoherent_iff (codec : JSONCodec Bytes) {name : String} (hempty : name ≠ "")
    (hproxy : name ≠ "proxy") (s : SyncState Bytes) (i : Request × Surroundings) :
    WritesCoherent codec name s i ↔
      FitsGroup codec name ((priorEntry codec s name).getD ∅) s i := by
  refine forall_congr' fun hsynced => forall₂_congr fun subscription hlatest => ?_
  rw [writtenEntry_eq codec hsynced hempty hproxy hlatest]
  constructor
  · rintro ⟨entry, hcoherent, hjson⟩
    have hfield {k : String} (hk : k ∉ patchedKeys) :
        (((priorEntry codec s name).getD ∅)[k]?).map Value.json = entry[k]?.map Value.json := by
      rw [← getElem?_subscriptionGroup_carried hk, ← Object.getElem?_json, hjson,
        Object.getElem?_json]
    have hcontains {k : String} (hk : k ∉ patchedKeys)
        (hprior : ((priorEntry codec s name).getD ∅).contains k = true) :
        entry.contains k = true := by
      have hsome := congrArg Option.isSome (hfield hk)
      rw [Option.isSome_map, Option.isSome_map] at hsome
      rw [Std.ExtTreeMap.contains_eq_isSome_getElem?] at hprior ⊢
      rw [← hsome, hprior]
    constructor
    · intro henabled k hk
      by_cases hpatched : k ∈ patchedKeys
      · exact .inl hpatched
      · exact .inr ((hcoherent.urltest henabled).2.2.2.2 k (hcontains hpatched hk))
    · intro hdisabled
      obtain ⟨-, hkeys, hmember⟩ := hcoherent.selector hdisabled
      refine ⟨fun k hk => ?_, fun v hv => ?_⟩
      · by_cases hpatched : k ∈ patchedKeys
        · exact .inl hpatched
        · exact .inr (hkeys k (hcontains hpatched hk))
      · have hdefault := hfield (by decide : "default" ∉ patchedKeys)
        rw [hv, Option.map_some] at hdefault
        obtain ⟨w, hw, hwjson⟩ := Option.map_eq_some_iff.mp hdefault.symm
        obtain ⟨tag, htag, rfl⟩ := hmember w hw
        exact ⟨tag, htag, str_of_json hwjson.symm⟩
  · exact fun hfits => ⟨_, (subscriptionGroup_coherent_iff _ _ _).mpr hfits, rfl⟩

/-- The other fields that the file holds under a name are those of an entry. -/
def Carries (codec : JSONCodec Bytes) (name : String) (entry : Object) (s : SyncState Bytes) :
    Prop :=
  ∀ k, k ∉ patchedKeys → ((priorEntry codec s name).getD ∅)[k]? = entry[k]?

/-- No rollback fails, and a synchronisation that succeeds writes a group of the name. -/
def KeepsGroup (codec : JSONCodec Bytes) (name : String) (s : SyncState Bytes)
    (i : Request × Surroundings) : Prop :=
  (∀ step, i.2.sync.rollback step = false) ∧
    (i.1.synchronised codec i.2 s = true → name ∈ (syncedInput i s).groupTags)

/-- A group that is written again carries the other fields over unchanged. -/
theorem Carries.handle {codec : JSONCodec Bytes} {name : String} {entry : Object}
    {s : SyncState Bytes} {i : Request × Surroundings} (h : Carries codec name entry s)
    (hempty : name ≠ "") (hproxy : name ≠ "proxy") (hkeeps : KeepsGroup codec name s i) :
    Carries codec name entry (i.1.handle codec i.2 s).1 := by
  intro k hk
  rw [← h k hk]
  rcases Request.handle_cases codec hkeeps.1 i.1 s with ⟨hsynced, -, -⟩ | ⟨-, hfile, -⟩
  · obtain ⟨subscription, hlatest⟩ := exists_latest_group (hkeeps.2 hsynced)
    have hjson := lookupField_json (synchronised_outbounds codec hsynced).1 name k
    rw [← getElem?_priorEntry] at hjson
    rw [writtenEntry_eq codec hsynced hempty hproxy hlatest, Object.getElem?_json,
      getElem?_subscriptionGroup_carried hk, hjson]
  · have hsame : (i.1.handle codec i.2 s).1.outbounds codec = s.outbounds codec := by
      simp only [SyncState.outbounds, SyncState.config?, hfile]
    rw [priorEntry, hsame]
    rfl

/-- Whether an entry fits a type is a matter of the carried fields. -/
theorem FitsType.of_carried {defaults : URLTestDefaults} {subscription : Subscription}
    {prior prior' : Object} (hcarried : ∀ k, k ∉ patchedKeys → prior'[k]? = prior[k]?)
    (h : FitsType defaults subscription prior) : FitsType defaults subscription prior' := by
  have hcontains {k : String} (hk : k ∉ patchedKeys) (hcontains : prior'.contains k = true) :
      prior.contains k = true := by
    rw [Std.ExtTreeMap.contains_eq_isSome_getElem?] at hcontains ⊢
    rwa [← hcarried k hk]
  constructor
  · intro henabled k hk
    by_cases hpatched : k ∈ patchedKeys
    · exact .inl hpatched
    · exact h.urltest henabled k (hcontains hpatched hk)
  · intro hdisabled
    obtain ⟨hkeys, hmember⟩ := h.selector hdisabled
    refine ⟨?_, hcarried "default" (by decide) ▸ hmember⟩
    intro k hk
    by_cases hpatched : k ∈ patchedKeys
    · exact .inl hpatched
    · exact hkeys k (hcontains hpatched hk)

/-- So at any time of a run that writes the group again and again, the entry is as good as the
first entry under its name. -/
theorem Carries.writesCoherent_iff {codec : JSONCodec Bytes} {name : String} {entry : Object}
    {s : SyncState Bytes} (h : Carries codec name entry s) (hempty : name ≠ "")
    (hproxy : name ≠ "proxy") (i : Request × Surroundings) :
    WritesCoherent codec name s i ↔ FitsGroup codec name entry s i := by
  rw [API.writesCoherent_iff codec hempty hproxy]
  refine forall_congr' fun _ => forall₂_congr fun subscription _ => ⟨?_, ?_⟩
  · exact FitsType.of_carried fun k hk => (h k hk).symm
  · exact FitsType.of_carried h

/-- In every run of requests the generated groups are entries of their types exactly when, before
every synchronisation, the file holds only fitting entries under their names, and every group but
a selector for the proxies is in the file as it was generated. As long as every synchronisation
writes a group of a name, what the file has under that name is an entry of its type exactly when
the entry that was there in the beginning fits every type that URLTest calls for. -/
theorem groups_coherent_run (codec : JSONCodec Bytes) (s : SyncState Bytes)
    (requests : List (Request × Surroundings)) :
    (Along (fun s i => (i.1.handle codec i.2 s).1) (GeneratesCoherent codec) s requests ↔
      Along (fun s i => (i.1.handle codec i.2 s).1) (FindsFitting codec) s requests) ∧
    Along (fun s i => (i.1.handle codec i.2 s).1) (WritesGenerated codec) s requests ∧
    ∀ name, name ≠ "" → name ≠ "proxy" →
      Along (fun s i => (i.1.handle codec i.2 s).1) (KeepsGroup codec name) s requests →
        (Along (fun s i => (i.1.handle codec i.2 s).1) (WritesCoherent codec name) s requests ↔
          Along (fun s i => (i.1.handle codec i.2 s).1)
            (FitsGroup codec name ((priorEntry codec s name).getD ∅)) s requests) := by
  refine ⟨Along.congr (generatesCoherent_iff codec) s requests,
    along_of_forall (fun i _ s => writesGenerated codec s i) s, ?_⟩
  intro name hempty hproxy hkeeps
  have hstep : ∀ (cond : SyncState Bytes → Request × Surroundings → Prop) s' i,
      KeepsGroup codec name s' i ∧ cond s' i →
        Carries codec name ((priorEntry codec s name).getD ∅) s' →
          Carries codec name ((priorEntry codec s name).getD ∅) (i.1.handle codec i.2 s').1 :=
    fun _ s' i hcond hcarries => hcarries.handle hempty hproxy hcond.1
  have hfirst : Carries codec name ((priorEntry codec s name).getD ∅) s := fun k _ => rfl
  constructor
  · intro hwrites
    exact (hkeeps.and hwrites).of_invariant (hstep _)
      (fun s' i hcond hcarries => (hcarries.writesCoherent_iff hempty hproxy i).mp hcond.2) hfirst
  · intro hfits
    exact (hkeeps.and hfits).of_invariant (hstep _)
      (fun s' i hcond hcarries => (hcarries.writesCoherent_iff hempty hproxy i).mpr hcond.2) hfirst

/-- A selector, as the outbound editor writes it, under the name of a subscription that URLTest is
enabled for. -/
def selectorState (options : List (String × Value)) : SyncState { v : Value // v.json = v } where
  dir := ⟨some (documentCodec.marshal (Object.toValue ((∅ : Object).insert "outbounds" (.list
    [.obj ([("type", .str "selector"), ("tag", .str "sub"), ("outbounds", .list [.str "hk"])] ++
      options)])))), none⟩
  db := { emptyDatabase with
    subscriptions := (∅ : GoMap Subscription).insert "1" ⟨"1", "sub", "https://sub.example", 60,
      none, 0, "", [⟨"hk", "vless", "192.0.2.1", 443, .null⟩]⟩ }

def syncRequest : Request × Surroundings :=
  (.syncToConfig, ⟨⟨fun _ => true, fun _ => true⟩, fun _ => .ok [], 0, .clean⟩)

/-- The form of the subscription with URLTest switched on or off. -/
def toggleRequest (enabled : Bool) : Request × Surroundings :=
  (.updateSubscription "1"
      ⟨"sub", "https://sub.example", 60, some ⟨some enabled, none, none, none⟩⟩,
    syncRequest.2)

/-- An option that both types have stays through the changes to a selector and back. -/
theorem toggledGroup_coherent :
    ((SyncInput.lookupField ((run (fun s i => (i.1.handle documentCodec i.2 s).1)
      (selectorState [("interrupt_exist_connections", .bool true)])
      [syncRequest, toggleRequest false, syncRequest]).outbounds documentCodec) "sub"
        "type").bind Value.asStr? = some "selector") ∧
    Along (fun s i => (i.1.handle documentCodec i.2 s).1) (WritesCoherent documentCodec "sub")
      (selectorState [("interrupt_exist_connections", .bool true)])
      [syncRequest, toggleRequest false, syncRequest, toggleRequest true, syncRequest] := by
  refine ⟨by decide, ?_⟩
  have hkeys : ∀ field ∈ ((priorEntry documentCodec
      (selectorState [("interrupt_exist_connections", .bool true)]) "sub").getD ∅).toList,
      field.1 ∈ ["type", "tag", "outbounds", "interrupt_exist_connections"] := by decide
  have hkept (k : String) (hk : ((priorEntry documentCodec
      (selectorState [("interrupt_exist_connections", .bool true)]) "sub").getD ∅).contains k =
        true) : k ∈ ["type", "tag", "outbounds", "interrupt_exist_connections"] := by
    rw [Std.ExtTreeMap.contains_eq_isSome_getElem?] at hk
    obtain ⟨v, hv⟩ := Option.isSome_iff_exists.mp hk
    exact hkeys (k, v) (Std.ExtTreeMap.mem_toList_iff_getElem?_eq_some.mpr hv)
  have hshared : ∀ k ∈ ["type", "tag", "outbounds", "interrupt_exist_connections"],
      k ∈ urlTestKeys ∧ k ∈ selectorKeys := by decide
  have hfits : ∀ i, ∀ s, FitsGroup documentCodec "sub" ((priorEntry documentCodec
      (selectorState [("interrupt_exist_connections", .bool true)]) "sub").getD ∅) s i := by
    intro i s _ subscription _
    refine ⟨fun _ k hk => .inr (hshared k (hkept k hk)).1,
      fun _ => ⟨fun k hk => .inr (hshared k (hkept k hk)).2, fun v hv => ?_⟩⟩
    cases hv
  have hkeeps : Along (fun s i => (i.1.handle documentCodec i.2 s).1)
      (KeepsGroup documentCodec "sub")
      (selectorState [("interrupt_exist_connections", .bool true)])
      [syncRequest, toggleRequest false, syncRequest, toggleRequest true, syncRequest] :=
    ⟨⟨fun _ => rfl, fun _ => by decide⟩, ⟨fun _ => rfl, fun _ => by decide⟩,
      ⟨fun _ => rfl, fun _ => by decide⟩, ⟨fun _ => rfl, fun _ => by decide⟩,
      ⟨fun _ => rfl, fun _ => by decide⟩, trivial⟩
  exact ((groups_coherent_run documentCodec _ _).2.2 "sub" (by decide) (by decide) hkeeps).mpr
    (along_of_forall (fun i _ s => hfits i s) _)

/-- The synchronisation succeeds and writes a urltest with a default. -/
theorem selectorState_not_coherent :
    let outbounds := (syncRequest.1.handle documentCodec syncRequest.2
      (selectorState [("default", .str "hk")])).1.outbounds documentCodec
    (SyncInput.lookupField outbounds "sub" "type").bind Value.asStr? = some "urltest" ∧
      (SyncInput.lookupField outbounds "sub" "default").bind Value.asStr? = some "hk" ∧
      ¬Along (fun s i => (i.1.handle documentCodec i.2 s).1) (GeneratesCoherent documentCodec)
        (selectorState [("default", .str "hk")]) [syncRequest] := by
  refine ⟨by decide, by decide, ?_⟩
  rintro ⟨h, -⟩
  have hcoherent := h (by decide) _ (List.mem_singleton.mpr rfl)
  have hkeys := (hcoherent.urltest rfl).2.2.2.2 "default" (by decide)
  exact absurd hkeys (by decide)

end Boxui.API
