import Boxui.API.SyncPlan
import Boxui.Library.Reconcile

/-! The entries a synchronisation appends, as writers: each looks one tag up in the old
list, rebuilds that entry and puts it under a tag and type that do not depend on what it
found. -/
namespace Boxui.API
open GoValue Reconcile

theorem indexExistingOutbounds_getElem? (existing : List Value) (k : String) :
    (indexExistingOutbounds existing)[k]? =
      if k = "" then none else (latest tagOf existing k).bind Value.asMap? := by
  induction existing using List.reverseRecOn with
  | nil => simp [indexExistingOutbounds, latest]
  | append_singleton existing outbound ih =>
    have hstep : indexExistingOutbounds (existing ++ [outbound]) =
        indexOutbound (indexExistingOutbounds existing) outbound := by
      simp [indexExistingOutbounds]
    have hlast : latest tagOf [outbound] k =
        if tagOf outbound = k then some outbound else none := by
      simp [latest, List.find?_cons]
      split <;> simp_all
    rw [hstep, latest_append, hlast, indexOutbound]
    cases hmap : outbound.asMap? with
    | none =>
      have htag : tagOf outbound = "" := by simp [fieldOf, hmap]
      simp only [ih, htag, eq_comm (a := "")]
      by_cases hk : k = "" <;> simp [hk]
    | some entry =>
      have htag : tagOf outbound = Object.stringAt entry "tag" := by simp [fieldOf, hmap]
      simp only [htag]
      by_cases hempty : Object.stringAt entry "tag" = ""
      · simp only [hempty, if_true, ih, eq_comm (a := "")]
        by_cases hk : k = "" <;> simp [hk]
      · by_cases hk : Object.stringAt entry "tag" = k
        · have hk' : k ≠ "" := hk ▸ hempty
          simp [hk, hk', hmap]
        · simp [hempty, hk, ih]

theorem getD_getElem? (existing : Option Object) (k : String) :
    (existing.getD ∅)[k]? = existing.bind (·[k]?) := by
  cases existing <;> simp

/-- A writer sets or clears its own fields, carries every other field over from the entry it
finds, and falls back to a default where that entry has none. -/
structure OutboundWriter where
  key : String
  tag : String
  type : String
  own : String → Option (Option Value)
  fallback : String → Option Value
  write : Option Object → Object
  tag_write : ∀ existing, Object.stringAt (write existing) "tag" = tag
  type_write : ∀ existing, Object.stringAt (write existing) "type" = type
  getElem?_write : ∀ existing k, (write existing)[k]? =
    (own k).getD ((existing.bind (·[k]?)).or (fallback k))

namespace OutboundWriter

/-- The entry a writer puts into the list next to the entries it finds there. -/
def entry (existing : List Value) (w : OutboundWriter) : Value :=
  Object.toValue (w.write (indexExistingOutbounds existing)[w.key]?)

@[simp] theorem tagOf_entry (existing : List Value) (w : OutboundWriter) :
    tagOf (w.entry existing) = w.tag := by simp [entry, w.tag_write]

@[simp] theorem typeOf_entry (existing : List Value) (w : OutboundWriter) :
    typeOf (w.entry existing) = w.type := by simp [entry, w.type_write]

def stored (outbound : Outbound) : OutboundWriter where
  key := outbound.tag
  tag := writtenTag outbound
  type := writtenType outbound
  own k := (ownFields outbound)[k]?.map some
  fallback k :=
    if isProxyLikeOutboundType outbound.type ∧ k = "routing_mark" then some (.int 128) else none
  write existing := managedEntry existing outbound
  tag_write := by simp
  type_write := by simp
  getElem?_write existing k := by
    rw [getElem?_managedEntry, getD_getElem?]
    cases (ownFields outbound)[k]? <;> simp

theorem subscriptionGroup_tag (defaults : URLTestDefaults) (existing : Option Object)
    (subscription : Subscription) :
    Object.stringAt (subscriptionGroup defaults existing subscription) "tag" =
      subscription.name := by
  simp only [subscriptionGroup]
  split <;> simp [Object.stringAt_insert, Object.stringAt_erase, Value.asStr?]

def groupType (defaults : URLTestDefaults) (subscription : Subscription) : String :=
  if (resolveURLTest defaults subscription.urltest).enabled then "urltest" else "selector"

theorem subscriptionGroup_type (defaults : URLTestDefaults) (existing : Option Object)
    (subscription : Subscription) :
    Object.stringAt (subscriptionGroup defaults existing subscription) "type" =
      groupType defaults subscription := by
  simp only [subscriptionGroup, groupType]
  split <;> simp [Object.stringAt_insert, Object.stringAt_erase, Value.asStr?]

/-- The fields a group sets; a selector clears those of a urltest. -/
def groupOwn (defaults : URLTestDefaults) (subscription : Subscription) (k : String) :
    Option (Option Value) :=
  let resolved := resolveURLTest defaults subscription.urltest
  if k = "type" then some (some (.str (groupType defaults subscription)))
  else if k = "tag" then some (some (.str subscription.name))
  else if k = "outbounds" then some (some (.strs (subscriptionProxyTags subscription)))
  else if k = "url" then some (if resolved.enabled then some (.str resolved.url) else none)
  else if k = "interval" then
    some (if resolved.enabled then some (.str resolved.interval) else none)
  else if k = "tolerance" then
    some (if resolved.enabled then some (.int resolved.tolerance.toNat) else none)
  else none

theorem getElem?_subscriptionGroup (defaults : URLTestDefaults) (existing : Option Object)
    (subscription : Subscription) (k : String) :
    (subscriptionGroup defaults existing subscription)[k]? =
      (groupOwn defaults subscription k).getD (existing.bind (·[k]?)) := by
  rw [← getD_getElem?]
  simp only [subscriptionGroup, groupOwn, groupType]
  by_cases henabled : (resolveURLTest defaults subscription.urltest).enabled = true
  · simp only [henabled, if_true, GoMap.getElem?_insert, eq_comm (b := k)]
    split_ifs <;> simp_all
  · simp only [Bool.not_eq_true] at henabled
    simp only [henabled, Bool.false_eq_true, if_false, GoMap.getElem?_insert,
      GoMap.getElem?_erase, eq_comm (b := k)]
    split_ifs <;> simp_all

def group (defaults : URLTestDefaults) (subscription : Subscription) : OutboundWriter where
  key := subscription.name
  tag := subscription.name
  type := groupType defaults subscription
  own := groupOwn defaults subscription
  fallback _ := none
  write existing := subscriptionGroup defaults existing subscription
  tag_write existing := subscriptionGroup_tag defaults existing subscription
  type_write existing := subscriptionGroup_type defaults existing subscription
  getElem?_write existing k := by
    rw [getElem?_subscriptionGroup, Option.or_none]

/-- The fresh proxy selector; the empty key finds nothing. -/
def selector (members : List String) (defaultTag : String) : OutboundWriter where
  key := ""
  tag := "proxy"
  type := "selector"
  own k := some (proxySelector members defaultTag)[k]?
  fallback _ := none
  write _ := proxySelector members defaultTag
  tag_write _ := by simp [proxySelector, Object.stringAt_insert, Value.asStr?]
  type_write _ := by simp [proxySelector, Object.stringAt_insert, Value.asStr?]
  getElem?_write _ _ := rfl

def isProxySelector (w : OutboundWriter) : Bool := w.type == "selector" && w.tag == "proxy"

/-- The same writer with the proxy members laid over its entry. -/
def withMembers (members : List String) (defaultTag : String) (w : OutboundWriter) :
    OutboundWriter where
  key := w.key
  tag := w.tag
  type := w.type
  own k :=
    if k = "default" then some (some (.str defaultTag))
    else if k = "outbounds" then some (some (.strs members))
    else w.own k
  fallback := w.fallback
  write existing :=
    ((w.write existing).insert "outbounds" (.strs members)).insert "default" (.str defaultTag)
  tag_write existing := by
    simp [Object.stringAt_insert, w.tag_write]
  type_write existing := by
    simp [Object.stringAt_insert, w.type_write]
  getElem?_write existing k := by
    simp only [GoMap.getElem?_insert, w.getElem?_write, eq_comm (b := k)]
    split_ifs <;> rfl

def place (members : List String) (defaultTag : String) : List OutboundWriter → List OutboundWriter
  | [] => [selector members defaultTag]
  | w :: ws =>
    if w.isProxySelector then w.withMembers members defaultTag :: ws
    else w :: place members defaultTag ws

theorem place_map_entry (members : List String) (defaultTag : String) (existing : List Value)
    (ws : List OutboundWriter) :
    (place members defaultTag ws).map (entry existing) =
      placeProxySelector members defaultTag (ws.map (entry existing)) := by
  induction ws with
  | nil => rfl
  | cons w ws ih =>
    have hsel : API.isProxySelector (w.entry existing) = w.isProxySelector := by
      simp [API.isProxySelector, isProxySelector, entry, w.tag_write, w.type_write]
    simp only [place, List.map_cons, placeProxySelector, hsel]
    split
    · simp [entry, withMembers]
    · simp [ih]

/-- Placing the selector changes nothing that the members do not, but may add a writer. -/
theorem place_map {β : Type*} (f : OutboundWriter → β) (members : List String)
    (defaultTag : String) (hf : ∀ w : OutboundWriter, f (w.withMembers members defaultTag) = f w)
    (ws : List OutboundWriter) :
    (place members defaultTag ws).map f =
      ws.map f ++ if ws.any isProxySelector then [] else [f (selector members defaultTag)] := by
  induction ws with
  | nil => rfl
  | cons w ws ih =>
    simp only [place, List.map_cons, List.any_cons]
    by_cases hsel : w.isProxySelector = true <;> simp [hsel, ih, hf]

theorem tag_of_isProxySelector {w : OutboundWriter} (h : w.isProxySelector = true) :
    w.tag = "proxy" := by
  simp only [isProxySelector, Bool.and_eq_true, beq_iff_eq] at h
  exact h.2

theorem mem_place_of_tag_ne {members : List String} {defaultTag : String}
    {ws : List OutboundWriter} {w : OutboundWriter} (hw : w.tag ≠ "proxy") :
    w ∈ place members defaultTag ws ↔ w ∈ ws := by
  induction ws with
  | nil =>
    simp only [place, List.mem_singleton, List.not_mem_nil, iff_false]
    rintro rfl
    exact hw rfl
  | cons x ws ih =>
    simp only [place]
    split
    · next hx =>
      have htag := tag_of_isProxySelector hx
      have hplaced : w ≠ x.withMembers members defaultTag := by
        rintro rfl
        exact hw htag
      have hself : w ≠ x := by
        rintro rfl
        exact hw htag
      simp [hplaced, hself]
    · simp only [List.mem_cons, ih]

end OutboundWriter

theorem placeProxySelector_append (members : List String) (defaultTag : String)
    {l : List Value} (hl : ∀ outbound ∈ l, isProxySelector outbound = false) (l' : List Value) :
    placeProxySelector members defaultTag (l ++ l') =
      l ++ placeProxySelector members defaultTag l' := by
  induction l with
  | nil => rfl
  | cons outbound l ih =>
    rw [List.forall_mem_cons] at hl
    simp [placeProxySelector, hl.1, ih hl.2]

namespace SyncInput

/-- The writers of the stored outbounds and of the subscription groups. -/
def baseWriters (input : SyncInput) : List OutboundWriter :=
  input.stored.map OutboundWriter.stored ++ input.grouped.map (OutboundWriter.group input.defaults)

/-- All writers, with the proxy selector placed among them when it has a member. -/
def writers (input : SyncInput) (existing : List Value) : List OutboundWriter :=
  match input.groupTags ++ input.proxyTags existing with
  | [] => input.baseWriters
  | defaultTag :: rest => OutboundWriter.place (defaultTag :: rest) defaultTag input.baseWriters

theorem kept_not_proxySelector (input : SyncInput) (existing : List Value) :
    ∀ outbound ∈ directOutbound :: input.kept existing, isProxySelector outbound = false := by
  rw [List.forall_mem_cons]
  refine ⟨by decide, ?_⟩
  intro outbound h
  simp only [kept, List.mem_filter, Bool.not_eq_true'] at h
  cases hmap : outbound.asMap? with
  | none => simp [isProxySelector, hmap]
  | some entry =>
    rw [hmap] at h
    simp only [shouldReplaceExistingOutbound] at h
    simp only [isProxySelector, fieldOf, hmap]
    grind

/-- The written list: the direct outbound, what was kept, and one entry for every writer. -/
theorem outbounds_eq (input : SyncInput) (existing : List Value) :
    input.outbounds existing = (directOutbound :: input.kept existing) ++
      (input.writers existing).map (OutboundWriter.entry existing) := by
  have hbase : input.entries existing = (directOutbound :: input.kept existing) ++
      input.baseWriters.map (OutboundWriter.entry existing) := by
    simp only [entries, storedEntries, groupEntries, baseWriters, List.map_append, List.map_map,
      List.append_assoc]
    rfl
  rw [outbounds, upsertProxySelector, writers, hbase]
  cases input.groupTags ++ input.proxyTags existing with
  | nil => rfl
  | cons defaultTag rest =>
    simp only
    rw [placeProxySelector_append _ _ (input.kept_not_proxySelector existing),
      OutboundWriter.place_map_entry]

end SyncInput

end Boxui.API
