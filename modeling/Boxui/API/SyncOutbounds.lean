import Boxui.API.AtomicWrite
import Boxui.Core.Records

/-! Synchronisation of the stored nodes and subscriptions into the outbounds section of a
sing-box configuration, up to the point where the result is committed. -/
namespace Boxui.API
open GoValue

inductive SyncError where
  | readConfig
  | decodeConfig
  | nilConfig
  | urlTestDefaults
  | managedGroups
  | listSubscriptions
  | decodeRaw (tag : String)
  | writeConfig (step : WriteStep)
  | saveGroups
  | saveGroupsAndRollback (step : WriteStep)
  deriving DecidableEq, Repr

def managedNodeTypes : List String :=
  ["vless", "vmess", "trojan", "shadowsocks", "hysteria", "hysteria2", "tuic", "shadowtls",
    "anytls"]

def isProxyLikeOutboundType (typ : String) : Bool :=
  ["vless", "vmess", "trojan", "shadowsocks", "hysteria", "hysteria2", "tuic", "shadowtls",
    "anytls", "ssh", "tor"].contains typ

def isProxySelectorCandidate (typeName : String) : Bool :=
  !(["direct", "block", "dns", "selector", "urltest"].contains typeName)

/-- `entry, _ := v.(map[string]any); s, _ := entry[k].(string)`; a nil entry has no fields. -/
def fieldOf (k : String) (outbound : Value) : String :=
  (outbound.asMap?.map fun entry => Object.stringAt entry k).getD ""

abbrev tagOf := fieldOf "tag"
abbrev typeOf := fieldOf "type"

def existingOutbounds (config : Object) : List Value :=
  (config["outbounds"]?.bind Value.asList?).getD []

/-- The loop body of `indexExistingOutbounds`: the last object with a tag wins, and untagged
objects are not indexed. -/
def indexOutbound (byTag : GoMap Object) (outbound : Value) : GoMap Object :=
  match outbound.asMap? with
  | none => byTag
  | some entry =>
    let tag := Object.stringAt entry "tag"
    if tag = "" then byTag else byTag.insert tag entry

def indexExistingOutbounds (existing : List Value) : GoMap Object := existing.foldl indexOutbound ∅

/-- The tags of the `map[string]bool`: a tag is managed when it occurs in the list. -/
def managedURLTestTags (previous : List String) (subscriptions : List Subscription) :
    List String :=
  previous.filter (· ≠ "") ++ (subscriptions.map Subscription.name).filter (· ≠ "")

def shouldReplaceExistingOutbound (managedGroups : List String) : Option Object → Bool
  | none => true
  | some entry =>
    let typeName := Object.stringAt entry "type"
    let tag := Object.stringAt entry "tag"
    if managedNodeTypes.contains typeName || typeName == "direct" || typeName == "dns" then true
    else if (typeName == "urltest" || typeName == "selector") && managedGroups.contains tag then
      true
    else typeName == "selector" && tag == "proxy"

def directOutbound : Value :=
  Object.toValue (((∅ : Object).insert "type" (.str "direct")).insert "tag" (.str "direct"))

def preserveExistingOutbounds (existing : List Value) (managedGroups : List String) :
    List Value :=
  directOutbound ::
    existing.filter fun outbound => !shouldReplaceExistingOutbound managedGroups outbound.asMap?

/-- The raw configuration goes through JSON once more before it is laid over the entry.
A missing one sets no field; one that is not an object cannot be decoded. -/
def rawFields (outbound : Outbound) : Option Object :=
  match outbound.raw with
  | .null => some ∅
  | raw => raw.json.asMap?

def buildManagedOutbound (existing : Option Object) (outbound : Outbound) :
    Except SyncError Object := do
  let entry := existing.getD ∅
  let entry := entry.insert "type" (.str outbound.type)
  let entry := entry.insert "tag" (.str outbound.tag)
  let entry := entry.insert "server" (.str outbound.server)
  let entry := entry.insert "server_port" (.int outbound.port)
  let some rawMap := rawFields outbound | throw (.decodeRaw outbound.tag)
  let entry := entry ∪ rawMap
  if isProxyLikeOutboundType outbound.type && !entry.contains "routing_mark" then
    return entry.insert "routing_mark" (.int 128)
  return entry

def appendManagedOutbounds (existingByTag : GoMap Object) :
    List Value → List Outbound → Except SyncError (List Value)
  | outbounds, [] => pure outbounds
  | outbounds, outbound :: managed => do
    let entry ← buildManagedOutbound existingByTag[outbound.tag]? outbound
    appendManagedOutbounds existingByTag (outbounds ++ [Object.toValue entry]) managed

/-- The loop over the subscriptions, each appending its own outbounds. -/
def appendSubscriptionOutbounds (existingByTag : GoMap Object) :
    List Value → List Subscription → Except SyncError (List Value)
  | outbounds, [] => pure outbounds
  | outbounds, subscription :: subscriptions => do
    let outbounds ← appendManagedOutbounds existingByTag outbounds subscription.outbounds
    appendSubscriptionOutbounds existingByTag outbounds subscriptions

def subscriptionProxyTags (subscription : Subscription) : List String :=
  (subscription.outbounds.filter fun outbound =>
    isProxyLikeOutboundType outbound.type && outbound.tag != "").map Outbound.tag

def subscriptionMemberTags (subscriptions : List Subscription) : List String :=
  subscriptions.flatMap subscriptionProxyTags

def collectProxyTags (outbounds : List Value) (excluded : List String) : List String :=
  (outbounds.filter fun outbound =>
    tagOf outbound != "" && !excluded.contains (tagOf outbound) &&
      isProxySelectorCandidate (typeOf outbound)).map tagOf

/-- The selector or urltest group written for a subscription over the entry that already
carries its name. -/
def subscriptionGroup (defaults : URLTestDefaults) (existing : Option Object)
    (subscription : Subscription) : Object :=
  let memberTags := subscriptionProxyTags subscription
  let resolved := resolveURLTest defaults subscription.urltest
  let entry := existing.getD ∅
  let entry := entry.insert "type" (.str "selector")
  let entry := entry.insert "tag" (.str subscription.name)
  let entry := entry.insert "outbounds" (.strs memberTags)
  if resolved.enabled then
    let entry := entry.insert "type" (.str "urltest")
    let entry := entry.insert "url" (.str resolved.url)
    let entry := entry.insert "interval" (.str resolved.interval)
    entry.insert "tolerance" (.int resolved.tolerance.toNat)
  else
    ((entry.erase "url").erase "interval").erase "tolerance"

structure SubscriptionGroupBuilder where
  defaults : URLTestDefaults
  existingByTag : GoMap Object

/-- A subscription without proxy members gets no group. -/
def SubscriptionGroupBuilder.append (b : SubscriptionGroupBuilder) :
    List Value → List Subscription → List Value × List String
  | outbounds, [] => (outbounds, [])
  | outbounds, subscription :: subscriptions =>
    if (subscriptionProxyTags subscription).isEmpty then b.append outbounds subscriptions
    else
      let entry := subscriptionGroup b.defaults b.existingByTag[subscription.name]? subscription
      let rest := b.append (outbounds ++ [Object.toValue entry]) subscriptions
      (rest.1, subscription.name :: rest.2)

def isProxySelector (outbound : Value) : Bool :=
  outbound.asMap?.isSome && typeOf outbound == "selector" && tagOf outbound == "proxy"

def proxySelector (members : List String) (defaultTag : String) : Object :=
  (((∅ : Object).insert "type" (.str "selector")).insert "tag" (.str "proxy")).insert
    "outbounds" (.strs members) |>.insert "default" (.str defaultTag)

/-- The loop of `upsertProxySelector`: the first proxy selector of the list gets the members,
and without one a fresh selector is appended. -/
def placeProxySelector (members : List String) (defaultTag : String) : List Value → List Value
  | [] => [Object.toValue (proxySelector members defaultTag)]
  | outbound :: rest =>
    if isProxySelector outbound then
      let entry := outbound.asMap?.getD ∅
      let entry := entry.insert "outbounds" (.strs members)
      Object.toValue (entry.insert "default" (.str defaultTag)) :: rest
    else outbound :: placeProxySelector members defaultTag rest

def upsertProxySelector (outbounds : List Value) (groupTags proxyTags : List String) :
    List Value :=
  match groupTags ++ proxyTags with
  | [] => outbounds
  | defaultTag :: rest => placeProxySelector (defaultTag :: rest) defaultTag outbounds

def ensureRouteFinal (config : Object) : Object :=
  let route := (config["route"]?.bind Value.asMap?).getD ∅
  let route := if route.contains "final" then route else route.insert "final" (.str "proxy")
  config.insert "route" (Object.toValue route)

/-- The stores a synchronisation reads: the node list and the subscription list in bucket
order, the URLTest defaults and the groups the previous synchronisation generated. -/
structure SyncInput where
  nodes : List Outbound
  subscriptions : List Subscription
  defaults : URLTestDefaults
  previousGroups : List String

/-- The configuration and the managed group tags that `syncOutboundsToConfig` commits. -/
def syncOutbounds (input : SyncInput) (config : Object) :
    Except SyncError (Object × List String) := do
  let existing := existingOutbounds config
  let existingByTag := indexExistingOutbounds existing
  let managedGroups := managedURLTestTags input.previousGroups input.subscriptions
  let outbounds := preserveExistingOutbounds existing managedGroups
  let outbounds ← appendManagedOutbounds existingByTag outbounds input.nodes
  let outbounds ← appendSubscriptionOutbounds existingByTag outbounds input.subscriptions
  let proxyTags := collectProxyTags outbounds (subscriptionMemberTags input.subscriptions)
  let builder : SubscriptionGroupBuilder := ⟨input.defaults, existingByTag⟩
  let (outbounds, groupTags) := builder.append outbounds input.subscriptions
  let outbounds := upsertProxySelector outbounds groupTags proxyTags
  let config := config.insert "outbounds" (.list outbounds)
  return (ensureRouteFinal config, groupTags)

end Boxui.API
