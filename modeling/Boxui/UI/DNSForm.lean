import Boxui.UI.OutboundForm
import Boxui.UI.FormPruning

/-! Changing the type of a DNS server or rule and the action of a rule: which fields survive. -/
namespace Boxui.UI.DNSForm
open GoValue JSValue Forms

inductive CleanupKind where
  | string
  | boolean
  | number
  | list
  | numberList
  | jsonObject
  | jsonArray
  | queryType
  | rcode
  | routingMark
  deriving DecidableEq

/-- A field without a kind is a string. -/
structure CleanupField where
  path : List String
  kind : CleanupKind := .string

abbrev CleanupRegistry := List (String × List CleanupField)

def domainResolverFields : List CleanupField :=
  [{ path := ["domain_resolver", "server"] },
   { path := ["domain_resolver", "strategy"] },
   { path := ["domain_resolver", "disable_cache"], kind := .boolean },
   { path := ["domain_resolver", "rewrite_ttl"], kind := .number },
   { path := ["domain_resolver", "client_subnet"] }]

def dialerFields : List CleanupField :=
  [{ path := ["detour"] },
   { path := ["bind_interface"] },
   { path := ["inet4_bind_address"] },
   { path := ["inet6_bind_address"] },
   { path := ["bind_address_no_port"], kind := .boolean },
   { path := ["protect_path"] },
   { path := ["routing_mark"], kind := .routingMark },
   { path := ["reuse_addr"], kind := .boolean },
   { path := ["netns"] },
   { path := ["connect_timeout"] },
   { path := ["tcp_fast_open"], kind := .boolean },
   { path := ["tcp_multi_path"], kind := .boolean },
   { path := ["disable_tcp_keep_alive"], kind := .boolean },
   { path := ["tcp_keep_alive"] },
   { path := ["tcp_keep_alive_interval"] },
   { path := ["udp_fragment"], kind := .boolean }] ++
  domainResolverFields ++
  [{ path := ["network_strategy"] },
   { path := ["network_type"], kind := .list },
   { path := ["fallback_network_type"], kind := .list },
   { path := ["fallback_delay"] },
   { path := ["domain_strategy"] }]

def remoteFields : List CleanupField :=
  [{ path := ["server"] },
   { path := ["server_port"], kind := .number }] ++
  dialerFields

def tlsFields : List CleanupField :=
  [{ path := ["tls", "enabled"], kind := .boolean },
   { path := ["tls", "disable_sni"], kind := .boolean },
   { path := ["tls", "server_name"] },
   { path := ["tls", "insecure"], kind := .boolean },
   { path := ["tls", "alpn"], kind := .list },
   { path := ["tls", "min_version"] },
   { path := ["tls", "max_version"] },
   { path := ["tls", "cipher_suites"], kind := .list },
   { path := ["tls", "curve_preferences"], kind := .list },
   { path := ["tls", "certificate"], kind := .list },
   { path := ["tls", "certificate_path"] },
   { path := ["tls", "certificate_public_key_sha256"], kind := .list },
   { path := ["tls", "client_certificate"], kind := .list },
   { path := ["tls", "client_certificate_path"] },
   { path := ["tls", "client_key"], kind := .list },
   { path := ["tls", "client_key_path"] },
   { path := ["tls", "fragment"], kind := .boolean },
   { path := ["tls", "fragment_fallback_delay"] },
   { path := ["tls", "record_fragment"], kind := .boolean },
   { path := ["tls", "kernel_tx"], kind := .boolean },
   { path := ["tls", "kernel_rx"], kind := .boolean },
   { path := ["tls", "ech", "enabled"], kind := .boolean },
   { path := ["tls", "ech", "config"], kind := .list },
   { path := ["tls", "ech", "config_path"] },
   { path := ["tls", "ech", "query_server_name"] },
   { path := ["tls", "ech", "pq_signature_schemes_enabled"], kind := .boolean },
   { path := ["tls", "ech", "dynamic_record_sizing_disabled"], kind := .boolean },
   { path := ["tls", "utls", "enabled"], kind := .boolean },
   { path := ["tls", "utls", "fingerprint"] },
   { path := ["tls", "reality", "enabled"], kind := .boolean },
   { path := ["tls", "reality", "public_key"] },
   { path := ["tls", "reality", "short_id"] }]

def legacyFields : List CleanupField :=
  [{ path := ["address"] },
   { path := ["address_resolver"] },
   { path := ["address_strategy"] },
   { path := ["address_fallback_delay"] },
   { path := ["strategy"] },
   { path := ["detour"] },
   { path := ["client_subnet"] }]

def localFields : List CleanupField :=
  dialerFields ++
  [{ path := ["prefer_go"], kind := .boolean }]

def httpsFields : List CleanupField :=
  remoteFields ++
  tlsFields ++
  [{ path := ["path"] },
   { path := ["method"] },
   { path := ["headers"], kind := .jsonObject }]

def dnsServerCleanupFields : CleanupRegistry :=
  [("legacy", legacyFields), ("local", localFields),
    ("hosts", [{ path := ["path"], kind := .list },
      { path := ["predefined"], kind := .jsonObject }]),
    ("udp", remoteFields), ("tcp", remoteFields), ("tls", remoteFields ++ tlsFields),
    ("quic", remoteFields ++ tlsFields), ("https", httpsFields), ("h3", httpsFields),
    ("dhcp", localFields ++ [{ path := ["interface"] }]),
    ("fakeip", [{ path := ["inet4_range"] }, { path := ["inet6_range"] }])]

def defaultRuleFields : List CleanupField :=
  [{ path := ["inbound"], kind := .list },
   { path := ["ip_version"], kind := .number },
   { path := ["query_type"], kind := .queryType },
   { path := ["network"], kind := .list },
   { path := ["auth_user"], kind := .list },
   { path := ["protocol"], kind := .list },
   { path := ["domain"], kind := .list },
   { path := ["domain_suffix"], kind := .list },
   { path := ["domain_keyword"], kind := .list },
   { path := ["domain_regex"], kind := .list },
   { path := ["geosite"], kind := .list },
   { path := ["source_geoip"], kind := .list },
   { path := ["geoip"], kind := .list },
   { path := ["ip_cidr"], kind := .list },
   { path := ["ip_is_private"], kind := .boolean },
   { path := ["ip_accept_any"], kind := .boolean },
   { path := ["source_ip_cidr"], kind := .list },
   { path := ["source_ip_is_private"], kind := .boolean },
   { path := ["source_port"], kind := .numberList },
   { path := ["source_port_range"], kind := .list },
   { path := ["port"], kind := .numberList },
   { path := ["port_range"], kind := .list },
   { path := ["process_name"], kind := .list },
   { path := ["process_path"], kind := .list },
   { path := ["process_path_regex"], kind := .list },
   { path := ["package_name"], kind := .list },
   { path := ["user"], kind := .list },
   { path := ["user_id"], kind := .numberList },
   { path := ["outbound"], kind := .list },
   { path := ["clash_mode"] },
   { path := ["network_type"], kind := .list },
   { path := ["network_is_expensive"], kind := .boolean },
   { path := ["network_is_constrained"], kind := .boolean },
   { path := ["wifi_ssid"], kind := .list },
   { path := ["wifi_bssid"], kind := .list },
   { path := ["interface_address"], kind := .jsonObject },
   { path := ["network_interface_address"], kind := .jsonObject },
   { path := ["default_interface_address"], kind := .list },
   { path := ["rule_set"], kind := .list },
   { path := ["rule_set_ip_cidr_match_source"], kind := .boolean },
   { path := ["rule_set_ip_cidr_accept_empty"], kind := .boolean },
   { path := ["rule_set_ipcidr_match_source"], kind := .boolean },
   { path := ["invert"], kind := .boolean }]

def dnsRuleCleanupFields : CleanupRegistry :=
  [("default", defaultRuleFields),
    ("logical", [{ path := ["mode"] }, { path := ["rules"], kind := .jsonArray },
      { path := ["invert"], kind := .boolean }])]

def routeOptionFields : List CleanupField :=
  [{ path := ["strategy"] },
   { path := ["disable_cache"], kind := .boolean },
   { path := ["rewrite_ttl"], kind := .number },
   { path := ["client_subnet"] }]

def dnsActionCleanupFields : CleanupRegistry :=
  [("route", { path := ["server"] } :: routeOptionFields), ("route-options", routeOptionFields),
    ("reject", [{ path := ["method"] }, { path := ["no_drop"], kind := .boolean }]),
    ("predefined", [{ path := ["rcode"], kind := .rcode }, { path := ["answer"], kind := .list },
      { path := ["ns"], kind := .list }, { path := ["extra"], kind := .list }])]

/-- `validInteger`, with `Number.MAX_SAFE_INTEGER` where no maximum is given. -/
def validInteger (maximum : Int) : Value → Bool
  | .int n => 0 ≤ n && n ≤ maximum
  | .float q => q.den = 1 && 0 ≤ q.num && q.num ≤ maximum
  | _ => false

def maxSafeInteger : Int := 9007199254740991

/-- `Array.isArray(value) && value.every(valid)`. -/
def everyItem (valid : Value → Bool) : Value → Bool
  | .list vs => vs.all valid
  | .strs ss => ss.all fun s => valid (.str s)
  | _ => false

def isString : Value → Bool
  | .str _ => true
  | _ => false

def isBoolean : Value → Bool
  | .bool _ => true
  | _ => false

/-- Whether a value has a kind. -/
def hasKind (v : Value) : CleanupKind → Bool
  | .queryType =>
    let valid := fun item => isString item || validInteger 0xFFFF item
    valid v || everyItem valid v
  | .rcode => isString v || validInteger 0xFFF v
  | .routingMark => isString v || validInteger 0xFFFFFFFF v
  | .boolean => isBoolean v
  | .number => validInteger maxSafeInteger v
  | .list => isString v || everyItem isString v
  | .numberList => validInteger maxSafeInteger v || everyItem (validInteger maxSafeInteger) v
  | .jsonObject => v.asMap?.isSome
  | .jsonArray => (Read.value v).isArray
  | .string => isString v

def matchesField (value : Read) (field : CleanupField) : Bool :=
  match value with
  | .value v => hasKind v field.kind
  | .prototype => field.kind = .jsonObject
  | _ => false

def uniqueFields (registry : CleanupRegistry) : List CleanupField :=
  uniqueBy CleanupField.path (registry.map Prod.snd)

structure CleanupTransition where
  current : String
  target : String
  share : Option Bool := none

def compatibleFields (registry : CleanupRegistry) (change : CleanupTransition) :
    Option (List CleanupField) :=
  if change.share = some false then some []
  else (entry registry change.target).map fun target =>
    match registry.lookup change.current with
    | none => target
    | some sources => target.filter fun field => sources.any fun source =>
        source.path == field.path && source.kind == field.kind

/-- Whether a path begins with `domain_resolver` and a dot. -/
def belowDomainResolver : List String → Bool
  | key :: _ :: _ => key == "domain_resolver"
  | _ => false

def supportsDomainResolver (registry : CleanupRegistry) (type : String) : Option Bool :=
  (entry registry type).map fun fields => fields.any fun field => belowDomainResolver field.path

def prepareDomainResolverRoot (object : Object) (registry : CleanupRegistry)
    (change : CleanupTransition) : Option Object :=
  if !registry.any fun entry => entry.2.any fun field => belowDomainResolver field.path then
    some object
  else match object["domain_resolver"]? with
    | none => some object
    | some v =>
      if isJsonObject (.value v) then some object
      else if isString v then
        (supportsDomainResolver registry change.target).map fun supported =>
          if supported then object else setPolicyPath object ["domain_resolver"] none
      else some (setPolicyPath object ["domain_resolver"] none)

/-- `compatible.get(path)`: of two entries with one key the later counts. -/
def getField (fields : List CleanupField) (path : List String) : Option CleanupField :=
  fields.reverse.find? fun field => field.path == path

/-- The reduction over the known fields. -/
def cleanFields (compatible : List CleanupField) (known : List CleanupField) (prepared : Object) :
    Object :=
  known.foldl (fun next field =>
    let value := getPolicyPath next field.path
    if value.isUndefined then next
    else match getField compatible field.path with
      | some target => if matchesField value target then next
          else setPolicyPath next field.path none
      | none => setPolicyPath next field.path none) prepared

def transitionCleanupFields (object : Object) (registry : CleanupRegistry)
    (change : CleanupTransition) : Option Object :=
  (compatibleFields registry change).bind fun compatible =>
    (prepareDomainResolverRoot object registry change).map fun prepared =>
      cleanFields compatible (uniqueFields registry) prepared

def inferDNSServerType (server : Object) : String :=
  match server["type"]? with
  | some (.str type) => if type ≠ "" then type else "legacy"
  | _ => "legacy"

def changeDNSServerType (server : Object) (type : String) : Option Object :=
  let current := inferDNSServerType server
  if current = type then some server
  else
    let bothKnown := (dnsServerCleanupFields.lookup current).isSome &&
      (dnsServerCleanupFields.lookup type).isSome
    let separated := bothKnown && ((current == "legacy") != (type == "legacy"))
    (transitionCleanupFields server dnsServerCleanupFields
      { current := current, target := type, share := some !separated }).map fun next =>
        setPolicyPath next ["type"] (if type = "legacy" then none else some (.str type))

variable (formatNumber : Rat → String)

def changeDNSRuleType (rule : Object) (type : String) : Option Object :=
  (textOr formatNumber rule["type"]? "default").bind fun current =>
    if current = type then some rule
    else (transitionCleanupFields rule dnsRuleCleanupFields
      { current := current, target := type }).map fun next =>
        setPolicyPath next ["type"] (if type = "default" then none else some (.str type))

def changeDNSAction (rule : Object) (action : String) : Option Object :=
  (textOr formatNumber rule["action"]? "").bind fun explicit =>
    if explicit = action ∧ explicit ≠ "" then some rule
    else
      let current := if explicit = "" then "route" else explicit
      (transitionCleanupFields rule dnsActionCleanupFields
        { current := current, target := action }).map fun next =>
          setPolicyPath next ["action"] (if action = "" then none else some (.str action))

end Boxui.UI.DNSForm
