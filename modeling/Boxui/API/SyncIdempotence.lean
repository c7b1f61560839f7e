import Boxui.API.SyncCommit
import Boxui.API.SyncWriters

/-! When a second synchronisation reproduces the first. The written list is a reconciliation
of the list before it, so the general criterion applies; here it is brought down to the
stored outbounds, the subscription names and the fields that entries carry over. -/
namespace Boxui.API
open GoValue Boxui.Core Reconcile

theorem shouldReplaceExistingOutbound_some (managedGroups : List String) (entry : Object) :
    shouldReplaceExistingOutbound managedGroups (some entry) = true ↔
      let typeName := Object.stringAt entry "type"
      let tag := Object.stringAt entry "tag"
      typeName ∈ managedNodeTypes ∨ typeName = "direct" ∨ typeName = "dns" ∨
        (typeName = "urltest" ∨ typeName = "selector") ∧ tag ∈ managedGroups ∨
        typeName = "selector" ∧ tag = "proxy" := by
  simp only [shouldReplaceExistingOutbound, List.contains_eq_mem, Bool.or_eq_true,
    decide_eq_true_eq, beq_iff_eq, Bool.and_eq_true]
  split_ifs with hmanaged hgroup
  · simp only [true_iff]
    tauto
  · simp only [true_iff]
    tauto
  · simp only [Bool.and_eq_true, beq_iff_eq]
    tauto

/-- The next synchronisation replaces an entry with this type and tag. -/
def ReplacedNext (subscriptions : List Subscription) (typeName tag : String) : Prop :=
  typeName ∈ managedNodeTypes ∨ typeName = "direct" ∨ typeName = "dns" ∨
    (typeName = "urltest" ∨ typeName = "selector") ∧ tag ≠ "" ∧
      tag ∈ subscriptions.map Subscription.name ∨
    typeName = "selector" ∧ tag = "proxy"

namespace SyncInput

/-- The input of a synchronisation that follows a successful one. -/
def next (input : SyncInput) : SyncInput := { input with previousGroups := input.groupTags }

theorem mem_next_managedGroups (input : SyncInput) (tag : String) :
    tag ∈ input.next.managedGroups ↔
      tag ≠ "" ∧ tag ∈ input.subscriptions.map Subscription.name := by
  simp only [next, managedGroups, managedURLTestTags, groupTags, grouped, List.mem_append,
    List.mem_filter, List.mem_map, decide_eq_true_eq]
  constructor
  · rintro (⟨⟨subscription, hmem, rfl⟩, hne⟩ | ⟨h, hne⟩)
    · exact ⟨hne, subscription, hmem.1, rfl⟩
    · exact ⟨hne, h⟩
  · rintro ⟨hne, h⟩
    exact .inr ⟨h, hne⟩

theorem mem_managedGroups_of_next (input : SyncInput) {tag : String}
    (h : tag ∈ input.next.managedGroups) : tag ∈ input.managedGroups := by
  rw [mem_next_managedGroups] at h
  simp only [managedGroups, managedURLTestTags, List.mem_append, List.mem_filter,
    decide_eq_true_eq]
  exact .inr ⟨h.2, h.1⟩

def keeps (input : SyncInput) (outbound : Value) : Bool :=
  !shouldReplaceExistingOutbound input.managedGroups outbound.asMap?

/-- What is kept once is kept again. -/
theorem keeps_next (input : SyncInput) {outbound : Value} (h : input.keeps outbound = true) :
    input.next.keeps outbound = true := by
  unfold keeps at h ⊢
  rw [Bool.not_eq_true', Bool.eq_false_iff] at h ⊢
  intro hnext
  apply h
  cases hmap : outbound.asMap? with
  | none => rfl
  | some entry =>
    rw [hmap, shouldReplaceExistingOutbound_some] at hnext
    rw [shouldReplaceExistingOutbound_some]
    rcases hnext with h | h | h | ⟨htype, htag⟩ | h
    · exact .inl h
    · exact .inr (.inl h)
    · exact .inr (.inr (.inl h))
    · exact .inr (.inr (.inr (.inl ⟨htype, input.mem_managedGroups_of_next htag⟩)))
    · exact .inr (.inr (.inr (.inr h)))

theorem next_keeps_eq_false (input : SyncInput) (entry : Object) :
    input.next.keeps (Object.toValue entry) = false ↔
      ReplacedNext input.subscriptions (Object.stringAt entry "type")
        (Object.stringAt entry "tag") := by
  rw [keeps, Bool.not_eq_false', Value.asMap?_toValue, shouldReplaceExistingOutbound_some,
    ReplacedNext]
  simp only [mem_next_managedGroups]

end SyncInput

namespace OutboundWriter

/-- The writer as it acts on the documents of the file. -/
def document (w : OutboundWriter) : Reconcile.Writer Value String where
  key := if w.key = "" then none else some w.key
  write found := (Object.toValue (w.write (found.bind Value.asMap?))).json

theorem document_entry (existing : List Value) (w : OutboundWriter) :
    w.document.entry tagOf existing = (w.entry existing).json := by
  simp only [Writer.entry, Writer.found, document, entry, indexExistingOutbounds_getElem?]
  split_ifs <;> rfl

/-- Two rebuilt entries agree when they agree on every field that is carried over. -/
theorem write_json_eq_iff (w : OutboundWriter) (x y : Option Object) :
    (Object.toValue (w.write x)).json = (Object.toValue (w.write y)).json ↔
      ∀ k, w.own k = none →
        ((x.bind (·[k]?)).or (w.fallback k)).map Value.json =
          ((y.bind (·[k]?)).or (w.fallback k)).map Value.json := by
  rw [Value.json_toValue, Value.json_toValue, Object.toValue_injective.eq_iff,
    Std.ExtTreeMap.ext_getElem?_iff]
  simp only [Object.getElem?_json, getElem?_write]
  apply forall_congr'
  intro k
  cases w.own k <;> simp

end OutboundWriter

namespace SyncInput

/-- The value of a field in the entry that a list holds under a tag. -/
def lookupField (l : List Value) (tag k : String) : Option Value :=
  (indexExistingOutbounds l)[tag]?.bind (·[k]?)

end SyncInput

/-- The value a writer gives a field, read off the list before the synchronisation. -/
def OutboundWriter.field (existing : List Value) (w : OutboundWriter) (k : String) :
    Option Value :=
  (w.own k).getD ((SyncInput.lookupField existing w.key k).or (w.fallback k))

namespace SyncInput

/-- The value of a field in the entry the next synchronisation finds under a tag: it is set
by the last writer of that tag, and without one the entry is a kept one. -/
def nextField (input : SyncInput) (existing : List Value) (tag k : String) : Option Value :=
  if tag = "" then none
  else
    match latest OutboundWriter.tag (input.writers existing) tag with
    | some w => w.field existing k
    | none => lookupField (directOutbound :: input.kept existing) tag k

/-- What a second synchronisation needs to reproduce the first: it replaces every entry
written for a stored outbound, every group has a name, and every field that an entry carries
over has the value it will find under the entry's tag the next time. -/
structure Settled (input : SyncInput) (existing : List Value) : Prop where
  replaced : ∀ outbound ∈ input.stored,
    ReplacedNext input.subscriptions (writtenType outbound) (writtenTag outbound)
  named : ∀ subscription ∈ input.grouped, subscription.name ≠ ""
  carried : ∀ w ∈ input.writers existing, ∀ k, w.own k = none →
    ((lookupField existing w.key k).or (w.fallback k)).map Value.json =
      ((input.nextField existing w.key k).or (w.fallback k)).map Value.json

/-- What is kept of a decoded list goes back into the file as it was. -/
theorem kept_json (input : SyncInput) {existing : List Value}
    (hexisting : existing.map Value.json = existing) :
    (input.kept existing).map Value.json = input.kept existing := by
  rw [List.map_congr_left (g := id), List.map_id]
  intro outbound hmem
  exact List.map_inj_left.mp (hexisting.trans (List.map_id _).symm) outbound
    (List.mem_of_mem_filter hmem)

theorem outbounds_json (input : SyncInput) {existing : List Value}
    (hexisting : existing.map Value.json = existing) :
    (input.outbounds existing).map Value.json =
      reconcile tagOf [directOutbound] input.keeps
        ((input.writers existing).map OutboundWriter.document) existing := by
  have hdirect : directOutbound.json = directOutbound := by rfl
  have hwritten : ((input.writers existing).map (OutboundWriter.entry existing)).map Value.json =
      ((input.writers existing).map OutboundWriter.document).map
        (Writer.entry tagOf existing) := by
    simp [OutboundWriter.document_entry]
  rw [outbounds_eq, List.map_append, hwritten, List.map_cons, hdirect,
    input.kept_json hexisting]
  rfl

theorem length_writers (input : SyncInput) (existing : List Value) :
    (input.writers existing).length = input.baseWriters.length +
      if input.groupTags ++ input.proxyTags existing = [] ∨
        input.baseWriters.any OutboundWriter.isProxySelector then 0 else 1 := by
  unfold writers
  cases hmembers : input.groupTags ++ input.proxyTags existing with
  | nil => simp
  | cons defaultTag rest =>
    have h := congrArg List.length (OutboundWriter.place_map (fun _ => ()) (defaultTag :: rest)
      defaultTag (fun _ => rfl) input.baseWriters)
    simp only [List.length_map, List.length_append] at h
    rw [h]
    by_cases hany : input.baseWriters.any OutboundWriter.isProxySelector = true <;> simp [hany]

/-- The writers have the types and tags of the stored outbounds and of the groups, and
possibly that of the proxy selector. -/
theorem forall_writers_iff (input : SyncInput) (existing : List Value)
    {P : String → String → Prop} (hproxy : P "selector" "proxy") :
    (∀ w ∈ input.writers existing, P w.type w.tag) ↔
      (∀ outbound ∈ input.stored, P (writtenType outbound) (writtenTag outbound)) ∧
        ∀ subscription ∈ input.grouped,
          P (OutboundWriter.groupType input.defaults subscription) subscription.name := by
  have hbase : (∀ w ∈ input.baseWriters, P w.type w.tag) ↔
      (∀ outbound ∈ input.stored, P (writtenType outbound) (writtenTag outbound)) ∧
        ∀ subscription ∈ input.grouped,
          P (OutboundWriter.groupType input.defaults subscription) subscription.name := by
    simp [baseWriters, or_imp, forall_and, OutboundWriter.stored, OutboundWriter.group]
  rw [← hbase]
  unfold writers
  cases input.groupTags ++ input.proxyTags existing with
  | nil => rfl
  | cons defaultTag rest =>
    have hplace := OutboundWriter.place_map (fun w => (w.type, w.tag)) (defaultTag :: rest)
      defaultTag (fun _ => rfl) input.baseWriters
    have hall (ws : List OutboundWriter) : (∀ w ∈ ws, P w.type w.tag) ↔
        ∀ p ∈ ws.map fun w => (w.type, w.tag), P p.1 p.2 := by simp
    dsimp only
    rw [hall, hplace, hall input.baseWriters]
    split_ifs
    · simp
    · simp [or_imp, forall_and, OutboundWriter.selector, hproxy]

theorem groupType_group (defaults : URLTestDefaults) (subscription : Subscription) :
    let typeName := OutboundWriter.groupType defaults subscription
    typeName ∉ managedNodeTypes ∧ typeName ≠ "direct" ∧ typeName ≠ "dns" ∧
      (typeName = "urltest" ∨ typeName = "selector") := by
  unfold OutboundWriter.groupType
  split_ifs <;> decide

theorem replacedNext_group (input : SyncInput) {subscription : Subscription}
    (h : subscription ∈ input.grouped) :
    ReplacedNext input.subscriptions (OutboundWriter.groupType input.defaults subscription)
      subscription.name ↔ subscription.name ≠ "" := by
  have hname : subscription.name ∈ input.subscriptions.map Subscription.name :=
    List.mem_map_of_mem (List.mem_of_mem_filter h)
  obtain ⟨hmanaged, hdirect, hdns, htype⟩ := groupType_group input.defaults subscription
  constructor
  · rintro (h | h | h | ⟨-, hne, -⟩ | ⟨-, hproxy⟩)
    · exact absurd h hmanaged
    · exact absurd h hdirect
    · exact absurd h hdns
    · exact hne
    · rw [hproxy]
      decide
  · intro hne
    exact .inr (.inr (.inr (.inl ⟨htype, hne, hname⟩)))

/-- What the next synchronisation finds in the written list. -/
theorem lookupField_outbounds (input : SyncInput) (existing : List Value) (tag k : String) :
    (lookupField ((input.outbounds existing).map Value.json) tag k).map Value.json =
      (input.nextField existing tag k).map Value.json := by
  unfold lookupField nextField
  rw [indexExistingOutbounds_getElem?]
  split_ifs with htag
  · rfl
  · have htagOf : (tagOf ∘ Value.json) ∘ OutboundWriter.entry existing = OutboundWriter.tag := by
      funext w
      simp
    have htagJson : tagOf ∘ Value.json = tagOf := by
      funext outbound
      simp
    rw [outbounds_eq, List.map_append, latest_append, latest_map, latest_map, latest_map,
      htagOf, htagJson]
    cases hw : latest OutboundWriter.tag (input.writers existing) tag with
    | some w =>
      simp only [Option.map_some, Option.some_or, Option.bind_some, OutboundWriter.entry,
        Value.json_toValue, Value.asMap?_toValue, Object.getElem?_json, w.getElem?_write,
        OutboundWriter.field, lookupField, Option.map_map]
      congr 1
      funext v
      exact Value.json_json v
    | none =>
      simp only [Option.map_none, Option.none_or, lookupField, indexExistingOutbounds_getElem?,
        htag, if_false]
      cases latest tagOf (directOutbound :: input.kept existing) tag with
      | none => rfl
      | some outbound =>
        simp only [Option.map_some, Option.bind_some, Value.asMap?_json]
        cases outbound.asMap? with
        | none => rfl
        | some entry =>
          simp only [Option.map_some, Option.bind_some, Object.getElem?_json, Option.map_map]
          congr 1
          funext v
          exact Value.json_json v

theorem next_keeps_entry (input : SyncInput) (existing : List Value) (w : OutboundWriter) :
    input.next.keeps (w.entry existing).json = false ↔
      ReplacedNext input.subscriptions w.type w.tag := by
  rw [OutboundWriter.entry, Value.json_toValue, next_keeps_eq_false, Object.stringAt_json,
    Object.stringAt_json, w.type_write, w.tag_write]

/-- The next synchronisation keeps what this one kept and the entries it does not recognise. -/
theorem next_kept (input : SyncInput) {existing : List Value}
    (hexisting : existing.map Value.json = existing) :
    input.next.kept ((input.outbounds existing).map Value.json) =
      input.kept existing ++
        (((input.writers existing).map OutboundWriter.document).map
          (Writer.entry tagOf existing)).filter input.next.keeps := by
  rw [input.outbounds_json hexisting]
  apply filter_reconcile
  · intro outbound hmem
    obtain rfl := List.mem_singleton.mp hmem
    rfl
  · intro outbound _ hkeep
    exact input.keeps_next hkeep

/-- The next synchronisation has a proxy member when this one has. -/
theorem next_members_ne_nil (input : SyncInput) {existing : List Value}
    (hexisting : existing.map Value.json = existing)
    (h : input.groupTags ++ input.proxyTags existing ≠ []) :
    input.next.groupTags ++
      input.next.proxyTags ((input.outbounds existing).map Value.json) ≠ [] := by
  have hgroups : input.next.groupTags = input.groupTags := rfl
  have hstored : input.next.storedProxyTags = input.storedProxyTags := rfl
  rw [hgroups, proxyTags_eq, input.next_kept hexisting, collectProxyTags_append, hstored]
  rw [proxyTags_eq] at h
  simp only [ne_eq, List.append_eq_nil_iff] at h ⊢
  rintro ⟨hnogroups, ⟨hkept, -⟩, hnostored⟩
  exact h ⟨hnogroups, hkept, hnostored⟩

theorem length_writers_le (input : SyncInput) {existing : List Value}
    (hexisting : existing.map Value.json = existing) :
    (input.writers existing).length ≤
      (input.next.writers ((input.outbounds existing).map Value.json)).length := by
  rw [length_writers, length_writers]
  have hbase : input.next.baseWriters = input.baseWriters := rfl
  rw [hbase]
  by_cases hnone : input.groupTags ++ input.proxyTags existing = []
  · simp [hnone]
  · have hnext := input.next_members_ne_nil hexisting hnone
    simp only [hnone, hnext, false_or]
    exact le_rfl

/-- When the next synchronisation recognises every entry, it runs the same writers. -/
theorem next_writers_eq (input : SyncInput) {existing : List Value}
    (hexisting : existing.map Value.json = existing)
    (hnone : ∀ w ∈ (input.writers existing).map OutboundWriter.document,
      input.next.keeps (w.entry tagOf existing) = false) :
    input.next.writers ((input.outbounds existing).map Value.json) = input.writers existing := by
  have hstray : (((input.writers existing).map OutboundWriter.document).map
      (Writer.entry tagOf existing)).filter input.next.keeps = [] := by
    rw [List.filter_eq_nil_iff]
    intro outbound hmem
    obtain ⟨w, hw, rfl⟩ := List.mem_map.mp hmem
    simp [hnone w hw]
  have hproxy : input.next.proxyTags ((input.outbounds existing).map Value.json) =
      input.proxyTags existing := by
    rw [proxyTags_eq, proxyTags_eq, input.next_kept hexisting, hstray, List.append_nil]
    rfl
  unfold writers
  rw [hproxy]
  rfl

/-- Writing again reproduces the list exactly when the synchronisation has settled. -/
theorem outbounds_again_iff (input : SyncInput) {existing : List Value}
    (hexisting : existing.map Value.json = existing) :
    (input.next.outbounds ((input.outbounds existing).map Value.json)).map Value.json =
        (input.outbounds existing).map Value.json ↔ input.Settled existing := by
  have hwritten : ((input.outbounds existing).map Value.json).map Value.json =
      (input.outbounds existing).map Value.json := by
    rw [List.map_map]
    exact List.map_congr_left fun outbound _ => Value.json_json outbound
  rw [input.next.outbounds_json hwritten]
  have hlen := input.length_writers_le hexisting
  have hsame := input.next_writers_eq hexisting
  have hlookup := input.lookupField_outbounds existing
  rw [input.outbounds_json hexisting] at hlen hsame hlookup ⊢
  have hstray : (∀ w ∈ (input.writers existing).map OutboundWriter.document,
      input.next.keeps (w.entry tagOf existing) = false) ↔
        (∀ outbound ∈ input.stored,
          ReplacedNext input.subscriptions (writtenType outbound) (writtenTag outbound)) ∧
        ∀ subscription ∈ input.grouped, subscription.name ≠ "" := by
    have hgroups : (∀ subscription ∈ input.grouped, subscription.name ≠ "") ↔
        ∀ subscription ∈ input.grouped, ReplacedNext input.subscriptions
          (OutboundWriter.groupType input.defaults subscription) subscription.name :=
      forall₂_congr fun _ hmem => (input.replacedNext_group hmem).symm
    rw [hgroups, ← input.forall_writers_iff existing (P := ReplacedNext input.subscriptions)
      (.inr (.inr (.inr (.inr ⟨rfl, rfl⟩))))]
    simp only [List.forall_mem_map, OutboundWriter.document_entry, next_keeps_entry]
  have hcarried : (∀ w ∈ (input.writers existing).map OutboundWriter.document,
      w.entry tagOf (reconcile tagOf [directOutbound] input.keeps
        ((input.writers existing).map OutboundWriter.document) existing) =
          w.entry tagOf existing) ↔
        ∀ w ∈ input.writers existing, ∀ k, w.own k = none →
          ((lookupField existing w.key k).or (w.fallback k)).map Value.json =
            ((input.nextField existing w.key k).or (w.fallback k)).map Value.json := by
    simp only [List.forall_mem_map, OutboundWriter.document_entry, OutboundWriter.entry,
      OutboundWriter.write_json_eq_iff]
    refine forall₂_congr fun w _ => forall₂_congr fun k _ => ?_
    have hfield := hlookup w.key k
    simp only [lookupField] at hfield ⊢
    rw [Option.map_or, hfield, ← Option.map_or]
    exact eq_comm
  rw [reconcile_again_eq_iff]
  · rw [hstray, hcarried]
    exact ⟨fun h => ⟨h.1.1, h.1.2, h.2⟩, fun h => ⟨⟨h.replaced, h.named⟩, h.carried⟩⟩
  · intro outbound hmem
    obtain rfl := List.mem_singleton.mp hmem
    rfl
  · intro outbound _ hkeep
    exact input.keeps_next hkeep
  · simpa using hlen
  · intro hnone
    rw [hsame hnone]

/-- With distinct tags, and no raw configuration renaming its outbound, every entry is found
again by its own writer, so that only the recognition of entries and the names matter. -/
theorem settled_of_nodup (input : SyncInput) (existing : List Value)
    (hkeys : ∀ outbound ∈ input.stored, writtenTag outbound = outbound.tag)
    (hnodup : ((input.writers existing).map OutboundWriter.tag).Nodup) :
    input.Settled existing ↔
      (∀ outbound ∈ input.stored,
        ReplacedNext input.subscriptions (writtenType outbound) (writtenTag outbound)) ∧
      ∀ subscription ∈ input.grouped, subscription.name ≠ "" := by
  refine ⟨fun h => ⟨h.replaced, h.named⟩, fun ⟨hreplaced, hnamed⟩ => ⟨hreplaced, hnamed, ?_⟩⟩
  have hkey : ∀ w ∈ input.writers existing, w.key = w.tag ∨ w.key = "" := by
    have hbase : ∀ w ∈ input.baseWriters, w.key = w.tag := by
      simp only [baseWriters, List.mem_append, List.mem_map]
      rintro w (⟨outbound, hmem, rfl⟩ | ⟨subscription, -, rfl⟩)
      · exact (hkeys outbound hmem).symm
      · rfl
    unfold writers
    cases input.groupTags ++ input.proxyTags existing with
    | nil => exact fun w hw => .inl (hbase w hw)
    | cons defaultTag rest =>
      intro w hw
      have hplace := OutboundWriter.place_map (fun w => (w.key, w.tag)) (defaultTag :: rest)
        defaultTag (fun _ => rfl) input.baseWriters
      have hmem : (w.key, w.tag) ∈ (input.baseWriters.map fun w => (w.key, w.tag)) ++
          [("", "proxy")] := by
        have h := List.mem_map_of_mem (f := fun w : OutboundWriter => (w.key, w.tag)) hw
        rw [hplace] at h
        split_ifs at h
        · rw [List.append_nil] at h
          exact List.mem_append_left _ h
        · exact h
      rcases List.mem_append.mp hmem with h | h
      · obtain ⟨w', hw', heq⟩ := List.mem_map.mp h
        obtain ⟨hk, ht⟩ := Prod.mk.inj heq
        exact .inl (by rw [← hk, ← ht, hbase w' hw'])
      · have heq := List.mem_singleton.mp h
        exact .inr (Prod.mk.inj heq).1
  intro w hw k hown
  congr 1
  unfold nextField
  rcases hkey w hw with htag | hempty
  · split_ifs with hempty
    · rw [hempty]
      simp [lookupField, indexExistingOutbounds_getElem?]
    · rw [htag, latest_eq_of_nodup hnodup hw]
      simp only [OutboundWriter.field, hown, Option.getD_none, htag]
      cases lookupField existing w.tag k <;> cases w.fallback k <;> rfl
  · rw [if_pos hempty, hempty]
    simp [lookupField, indexExistingOutbounds_getElem?]

end SyncInput

variable {Bytes : Type*}

/-- Both files hold the same outbounds list and route section, entry by entry, and the same
group tags are saved. -/
def SameSync (codec : JSONCodec Bytes) (s₁ s₂ : SyncState Bytes) : Prop :=
  ∃ config₁ config₂, s₁.config? codec = some config₁ ∧ s₂.config? codec = some config₂ ∧
    config₁["outbounds"]? = config₂["outbounds"]? ∧ config₁["route"]? = config₂["route"]? ∧
    s₁.db.managedGroups = s₂.db.managedGroups

/-- A synchronisation succeeds again and writes what the one before it wrote. -/
def SyncRepeats (codec : JSONCodec Bytes) (o : SyncOutcome) (s₁ : SyncState Bytes) : Prop :=
  (syncOutboundsToConfig codec o s₁).2 = .ok () ∧
    SameSync codec s₁ (syncOutboundsToConfig codec o s₁).1

theorem syncInput_setURLTestManagedGroups (db : Database) :
    syncInput (SettingsManager.setURLTestManagedGroups (syncInput db).groupTags db) =
      (syncInput db).next := rfl

theorem syncOutboundsToConfig_idempotent_iff (codec : JSONCodec Bytes) {o o' : SyncOutcome}
    {s : SyncState Bytes} {config : Object} (hconfig : s.config? codec = some config)
    (hok : (syncOutboundsToConfig codec o s).2 = .ok ()) (ho' : o'.NoFault) :
    SyncRepeats codec o' (syncOutboundsToConfig codec o s).1 ↔
      (syncInput s.db).Settled (existingOutbounds config) := by
  obtain ⟨hdecodable, hwrote, hdb⟩ := syncOutboundsToConfig_ok hconfig hok
  set s₁ := (syncOutboundsToConfig codec o s).1
  have hinput : syncInput s₁.db = (syncInput s.db).next := by
    rw [hdb, syncInput_setURLTestManagedGroups]
  have hread := hwrote.config?
  have hok₁ : (syncOutboundsToConfig codec o' s₁).2 = .ok () := by
    apply syncOutboundsToConfig_succeeds ho' hread
    rw [hinput]
    exact hdecodable
  obtain ⟨-, hwrote₁, hdb₁⟩ := syncOutboundsToConfig_ok hread hok₁
  set s₂ := (syncOutboundsToConfig codec o' s₁).1
  have hread₁ := hwrote₁.config?
  rw [hinput] at hread₁ hdb₁
  have hexisting : existingOutbounds (Object.json (syncedConfig (syncInput s.db) config)) =
      ((syncInput s.db).outbounds (existingOutbounds config)).map Value.json := by
    rw [existingOutbounds, getElem?_syncedConfig_outbounds]
    rfl
  have hroute := ensureRouteFinal_again (config.insert "outbounds"
    (.list ((syncInput s.db).outbounds (existingOutbounds config))))
    ((Object.json (syncedConfig (syncInput s.db) config)).insert "outbounds"
      (.list ((syncInput s.db).next.outbounds
        (existingOutbounds (Object.json (syncedConfig (syncInput s.db) config))))))
    (by simp [syncedConfig])
  have hgroups : s₁.db.managedGroups = s₂.db.managedGroups := by
    rw [hdb₁, hdb]
    rfl
  rw [← (syncInput s.db).outbounds_again_iff
    (existingOutbounds_json (SyncState.config?_json hconfig)), ← hexisting, SyncRepeats, SameSync]
  constructor
  · rintro ⟨-, c₁, c₂, hc₁, hc₂, hsame, -⟩
    obtain rfl := Option.some.inj (hread.symm.trans hc₁)
    obtain rfl := Option.some.inj (hread₁.symm.trans hc₂)
    rw [getElem?_syncedConfig_outbounds, getElem?_syncedConfig_outbounds] at hsame
    rw [hexisting] at hsame ⊢
    exact (Value.list.inj (Option.some.inj hsame)).symm
  · intro hagain
    refine ⟨hok₁, _, _, hread, hread₁, ?_, hroute.symm, hgroups⟩
    rw [getElem?_syncedConfig_outbounds, getElem?_syncedConfig_outbounds, hagain, hexisting]

/-- A VLESS node, saved next to an empty configuration. -/
def vlessState : SyncState { v : Value // v.json = v } where
  dir := ⟨some (documentCodec.marshal (Object.toValue ∅)), none⟩
  db := { emptyDatabase with
    nodes := (∅ : GoMap Outbound).insert "hk" ⟨"hk", "vless", "192.0.2.1", 443, .null⟩ }

/-- Its entry is replaced by every further synchronisation. -/
theorem vlessNode_repeats :
    SyncRepeats documentCodec .clean (syncOutboundsToConfig documentCodec .clean vlessState).1 := by
  have hsettled : (syncInput vlessState.db).Settled (existingOutbounds (Object.json ∅)) := by
    rw [SyncInput.settled_of_nodup _ _ (by decide) (by decide)]
    exact ⟨fun outbound hmem => .inl (by revert outbound; decide), by decide⟩
  exact (syncOutboundsToConfig_idempotent_iff documentCodec rfl (by decide)
    SyncOutcome.clean_noFault).mpr hsettled

/-- A WireGuard node, as `ParseProxyLink` imports one, saved next to an empty configuration. -/
def wireguardState : SyncState { v : Value // v.json = v } where
  dir := ⟨some (documentCodec.marshal (Object.toValue ∅)), none⟩
  db := { emptyDatabase with
    nodes := (∅ : GoMap Outbound).insert "wg" ⟨"wg", "wireguard", "192.0.2.1", 51820, .null⟩ }

theorem SameSync.outboundTags_eq {codec : JSONCodec Bytes} {s₁ s₂ : SyncState Bytes}
    (h : SameSync codec s₁ s₂) : s₁.outboundTags codec = s₂.outboundTags codec := by
  obtain ⟨config₁, config₂, h₁, h₂, hsame, -⟩ := h
  simp [SyncState.outboundTags, SyncState.outbounds, h₁, h₂, existingOutbounds, hsame]

/-- The node is written once more by every further synchronisation. -/
theorem wireguard_accumulates :
    (syncOutboundsToConfig documentCodec .clean wireguardState).2 = .ok () ∧
      ¬SyncRepeats documentCodec .clean
        (syncOutboundsToConfig documentCodec .clean wireguardState).1 := by
  refine ⟨by decide, ?_⟩
  rintro ⟨-, hsame⟩
  have htags := hsame.outboundTags_eq
  have hfirst : (syncOutboundsToConfig documentCodec .clean wireguardState).1.outboundTags
      documentCodec = ["direct", "wg", "proxy"] := by decide
  have hsecond : (syncOutboundsToConfig documentCodec .clean
      (syncOutboundsToConfig documentCodec .clean wireguardState).1).1.outboundTags
        documentCodec = ["direct", "wg", "wg", "proxy"] := by decide
  rw [hfirst, hsecond] at htags
  simp at htags

end Boxui.API
