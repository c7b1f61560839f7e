import Boxui.API.SyncOutbounds
import Mathlib.Data.List.Basic

/-! What one synchronisation writes, read off its input: the preserved outbounds, then one
entry for every stored outbound, one group for every subscription with proxy members, and
the proxy selector. Later modules use these equations instead of the loops. -/
namespace Boxui.API
open GoValue

/-- The fields a stored outbound sets in its entry whatever the entry held before. -/
def ownFields (outbound : Outbound) : Object :=
  ((((∅ : Object).insert "type" (.str outbound.type)).insert "tag" (.str outbound.tag)).insert
    "server" (.str outbound.server)).insert "server_port" (.int outbound.port) ∪
      (rawFields outbound).getD ∅

/-- `buildManagedOutbound` for an outbound whose raw configuration is an object. -/
def managedEntry (existing : Option Object) (outbound : Outbound) : Object :=
  let entry := existing.getD ∅ ∪ ownFields outbound
  if isProxyLikeOutboundType outbound.type && !entry.contains "routing_mark" then
    entry.insert "routing_mark" (.int 128)
  else entry

/-- The tag and type a stored outbound is written under, after its raw configuration. -/
def writtenTag (outbound : Outbound) : String := Object.stringAt (ownFields outbound) "tag"

def writtenType (outbound : Outbound) : String := Object.stringAt (ownFields outbound) "type"

/-- A raw configuration is read as JSON carries it. -/
theorem rawFields_json {outbound : Outbound} {raw : Object} (h : rawFields outbound = some raw) :
    Object.json raw = raw := by
  unfold rawFields at h
  split at h
  · rw [← Option.some.inj h]
    simp [Object.json]
  · have hdocument := Value.asMap?_json outbound.raw.json
    rw [Value.json_json, h] at hdocument
    exact (Option.some.inj hdocument).symm

theorem buildManagedOutbound_eq (existing : Option Object) (outbound : Outbound) :
    buildManagedOutbound existing outbound =
      if (rawFields outbound).isSome then .ok (managedEntry existing outbound)
      else .error (.decodeRaw outbound.tag) := by
  have hunion (base raw : Object) :
      (((base.insert "type" (.str outbound.type)).insert "tag" (.str outbound.tag)).insert
        "server" (.str outbound.server)).insert "server_port" (.int outbound.port) ∪ raw =
      base ∪ (((((∅ : Object).insert "type" (.str outbound.type)).insert "tag"
        (.str outbound.tag)).insert "server" (.str outbound.server)).insert
          "server_port" (.int outbound.port) ∪ raw) := by
    apply Std.ExtTreeMap.ext_getElem?
    intro k
    simp only [Std.ExtTreeMap.getElem?_union, GoMap.getElem?_insert]
    split_ifs <;> simp
  cases hraw : rawFields outbound with
  | none => simp [buildManagedOutbound, hraw]; rfl
  | some raw =>
    simp only [buildManagedOutbound, hraw, managedEntry, ownFields, Option.getD_some,
      Option.isSome_some, if_true, ← hunion]
    split <;> rfl

theorem getElem?_managedEntry (existing : Option Object) (outbound : Outbound) (k : String) :
    (managedEntry existing outbound)[k]? =
      (((ownFields outbound)[k]?).or (existing.getD ∅)[k]?).or
        (if isProxyLikeOutboundType outbound.type ∧ k = "routing_mark" then some (.int 128)
         else none) := by
  unfold managedEntry
  simp only [Bool.and_eq_true, Bool.not_eq_true', Std.ExtTreeMap.contains_eq_isSome_getElem?,
    Option.isSome_eq_false_iff, Std.ExtTreeMap.getElem?_union]
  by_cases hp : isProxyLikeOutboundType outbound.type = true
  · by_cases hk : k = "routing_mark"
    · subst hk
      cases h : ((ownFields outbound)["routing_mark"]?).or (existing.getD ∅)["routing_mark"]? <;>
        simp [hp, h, Std.ExtTreeMap.getElem?_union]
    · simp only [hk, and_false, if_false, Option.or_none]
      split_ifs <;> simp [Ne.symm hk, GoMap.getElem?_insert, Std.ExtTreeMap.getElem?_union]
  · simp [hp, Std.ExtTreeMap.getElem?_union]

theorem ownFields_stringField (outbound : Outbound) {k : String} (hk : k = "type" ∨ k = "tag") :
    ((ownFields outbound)[k]?).isSome := by
  rcases hk with rfl | rfl <;>
    simp [ownFields]

@[simp] theorem stringAt_managedEntry_tag (existing : Option Object) (outbound : Outbound) :
    Object.stringAt (managedEntry existing outbound) "tag" = writtenTag outbound := by
  obtain ⟨v, hv⟩ := Option.isSome_iff_exists.mp (ownFields_stringField outbound (.inr rfl))
  simp [Object.stringAt, writtenTag, getElem?_managedEntry, hv]

@[simp] theorem stringAt_managedEntry_type (existing : Option Object) (outbound : Outbound) :
    Object.stringAt (managedEntry existing outbound) "type" = writtenType outbound := by
  obtain ⟨v, hv⟩ := Option.isSome_iff_exists.mp (ownFields_stringField outbound (.inl rfl))
  simp [Object.stringAt, writtenType, getElem?_managedEntry, hv]

@[simp] theorem fieldOf_toValue (k : String) (m : Object) :
    fieldOf k (Object.toValue m) = Object.stringAt m k := by simp [fieldOf]

theorem tagOf_toValue (m : Object) : tagOf (Object.toValue m) = Object.stringAt m "tag" :=
  fieldOf_toValue "tag" m

theorem typeOf_toValue (m : Object) : typeOf (Object.toValue m) = Object.stringAt m "type" :=
  fieldOf_toValue "type" m

@[simp] theorem fieldOf_json (k : String) (v : Value) : fieldOf k v.json = fieldOf k v := by
  simp [fieldOf, Value.asMap?_json, Function.comp_def]

namespace SyncInput

/-- Every outbound boxd stores, in the order the synchronisation appends them. -/
def stored (input : SyncInput) : List Outbound :=
  input.nodes ++ input.subscriptions.flatMap Subscription.outbounds

/-- The subscriptions that get a group. -/
def grouped (input : SyncInput) : List Subscription :=
  input.subscriptions.filter fun subscription => !(subscriptionProxyTags subscription).isEmpty

def groupTags (input : SyncInput) : List String := input.grouped.map Subscription.name

def managedGroups (input : SyncInput) : List String :=
  managedURLTestTags input.previousGroups input.subscriptions

def Decodable (input : SyncInput) : Prop := ∀ outbound ∈ input.stored, (rawFields outbound).isSome

def kept (input : SyncInput) (existing : List Value) : List Value :=
  existing.filter fun outbound =>
    !shouldReplaceExistingOutbound input.managedGroups outbound.asMap?

def storedEntries (input : SyncInput) (existing : List Value) : List Value :=
  input.stored.map fun outbound =>
    Object.toValue (managedEntry (indexExistingOutbounds existing)[outbound.tag]? outbound)

def groupEntries (input : SyncInput) (existing : List Value) : List Value :=
  input.grouped.map fun subscription =>
    Object.toValue (subscriptionGroup input.defaults
      (indexExistingOutbounds existing)[subscription.name]? subscription)

def proxyTags (input : SyncInput) (existing : List Value) : List String :=
  collectProxyTags (directOutbound :: input.kept existing ++ input.storedEntries existing)
    (subscriptionMemberTags input.subscriptions)

/-- The list before the proxy selector is placed in it. -/
def entries (input : SyncInput) (existing : List Value) : List Value :=
  directOutbound :: input.kept existing ++ input.storedEntries existing ++
    input.groupEntries existing

def outbounds (input : SyncInput) (existing : List Value) : List Value :=
  upsertProxySelector (input.entries existing) input.groupTags (input.proxyTags existing)

end SyncInput

theorem collectProxyTags_append (l l' : List Value) (excluded : List String) :
    collectProxyTags (l ++ l') excluded =
      collectProxyTags l excluded ++ collectProxyTags l' excluded := by
  simp [collectProxyTags]

/-- The candidates among the stored outbounds, by the tag and type they are written under. -/
def SyncInput.storedProxyTags (input : SyncInput) : List String :=
  (input.stored.filter fun outbound =>
    writtenTag outbound != "" &&
      !(subscriptionMemberTags input.subscriptions).contains (writtenTag outbound) &&
      isProxySelectorCandidate (writtenType outbound)).map writtenTag

/-- The proxy members that are no group: candidates that were kept, then stored ones. -/
theorem SyncInput.proxyTags_eq (input : SyncInput) (existing : List Value) :
    input.proxyTags existing =
      collectProxyTags (input.kept existing) (subscriptionMemberTags input.subscriptions) ++
        input.storedProxyTags := by
  have hdirect : collectProxyTags [directOutbound] (subscriptionMemberTags input.subscriptions) =
      [] := by
    have htype : isProxySelectorCandidate (typeOf directOutbound) = false := by decide
    simp [collectProxyTags, htype]
  have hstored : collectProxyTags (input.storedEntries existing)
      (subscriptionMemberTags input.subscriptions) = input.storedProxyTags := by
    simp only [collectProxyTags, SyncInput.storedEntries, List.filter_map, List.map_map]
    simp [Function.comp_def, SyncInput.storedProxyTags]
  rw [SyncInput.proxyTags, ← List.singleton_append (l := input.kept existing),
    collectProxyTags_append, collectProxyTags_append, hdirect, hstored, List.nil_append]

theorem appendManagedOutbounds_ok_iff (existingByTag : GoMap Object) (outbounds : List Value)
    (managed : List Outbound) (result : List Value) :
    appendManagedOutbounds existingByTag outbounds managed = .ok result ↔
      (∀ outbound ∈ managed, (rawFields outbound).isSome) ∧
        result = outbounds ++ managed.map fun outbound =>
          Object.toValue (managedEntry existingByTag[outbound.tag]? outbound) := by
  induction managed generalizing outbounds with
  | nil =>
    change Except.ok outbounds = .ok result ↔ _
    simp [eq_comm (a := outbounds)]
  | cons outbound managed ih =>
    simp only [appendManagedOutbounds, buildManagedOutbound_eq, List.forall_mem_cons,
      bind_eq_ok_iff, ih]
    by_cases h : (rawFields outbound).isSome = true
    · simp [h]
    · simp [h]

theorem appendSubscriptionOutbounds_ok_iff (existingByTag : GoMap Object)
    (outbounds : List Value) (subscriptions : List Subscription) (result : List Value) :
    appendSubscriptionOutbounds existingByTag outbounds subscriptions = .ok result ↔
      (∀ outbound ∈ subscriptions.flatMap Subscription.outbounds, (rawFields outbound).isSome) ∧
        result = outbounds ++ (subscriptions.flatMap Subscription.outbounds).map fun outbound =>
          Object.toValue (managedEntry existingByTag[outbound.tag]? outbound) := by
  induction subscriptions generalizing outbounds with
  | nil =>
    change Except.ok outbounds = .ok result ↔ _
    simp [eq_comm (a := outbounds)]
  | cons subscription subscriptions ih =>
    simp only [appendSubscriptionOutbounds, bind_eq_ok_iff, appendManagedOutbounds_ok_iff, ih,
      List.flatMap_cons, List.mem_append, or_imp, forall_and, List.map_append]
    constructor
    · rintro ⟨_, ⟨hhead, rfl⟩, htail, rfl⟩
      exact ⟨⟨hhead, htail⟩, by simp only [List.append_assoc]⟩
    · rintro ⟨⟨hhead, htail⟩, rfl⟩
      exact ⟨_, ⟨hhead, rfl⟩, htail, by simp only [List.append_assoc]⟩

theorem SubscriptionGroupBuilder.append_eq (b : SubscriptionGroupBuilder)
    (outbounds : List Value) (subscriptions : List Subscription) :
    b.append outbounds subscriptions =
      (outbounds ++ (subscriptions.filter fun subscription =>
          !(subscriptionProxyTags subscription).isEmpty).map fun subscription =>
            Object.toValue
              (subscriptionGroup b.defaults b.existingByTag[subscription.name]? subscription),
        (subscriptions.filter fun subscription =>
          !(subscriptionProxyTags subscription).isEmpty).map Subscription.name) := by
  induction subscriptions generalizing outbounds with
  | nil => simp [append]
  | cons subscription subscriptions ih =>
    by_cases h : (subscriptionProxyTags subscription).isEmpty = true
    · simp [append, h, ih]
    · simp [append, h, ih]

/-- A synchronisation succeeds exactly when every stored raw configuration is an object, and
then writes the planned outbounds and groups. -/
theorem syncOutbounds_ok_iff (input : SyncInput) (config config' : Object)
    (groups : List String) :
    syncOutbounds input config = .ok (config', groups) ↔
      input.Decodable ∧ groups = input.groupTags ∧
        config' = ensureRouteFinal (config.insert "outbounds"
          (.list (input.outbounds (existingOutbounds config)))) := by
  simp only [syncOutbounds, bind_eq_ok_iff, appendManagedOutbounds_ok_iff,
    appendSubscriptionOutbounds_ok_iff, SubscriptionGroupBuilder.append_eq]
  simp only [SyncInput.Decodable, SyncInput.stored, List.mem_append, or_imp, forall_and]
  constructor
  · rintro ⟨_, ⟨hnodes, rfl⟩, _, ⟨hsubs, rfl⟩, h⟩
    obtain ⟨rfl, rfl⟩ := Prod.mk.inj (Except.ok.inj h)
    refine ⟨⟨hnodes, hsubs⟩, rfl, ?_⟩
    simp [SyncInput.outbounds, SyncInput.entries, SyncInput.proxyTags, SyncInput.kept,
      SyncInput.storedEntries, SyncInput.stored, SyncInput.groupEntries, SyncInput.groupTags,
      SyncInput.grouped, SyncInput.managedGroups, preserveExistingOutbounds]
  · rintro ⟨⟨hnodes, hsubs⟩, rfl, rfl⟩
    refine ⟨_, ⟨hnodes, rfl⟩, _, ⟨hsubs, rfl⟩, ?_⟩
    simp [SyncInput.outbounds, SyncInput.entries, SyncInput.proxyTags, SyncInput.kept,
      SyncInput.storedEntries, SyncInput.stored, SyncInput.groupEntries, SyncInput.groupTags,
      SyncInput.grouped, SyncInput.managedGroups, preserveExistingOutbounds]
    rfl

end Boxui.API
