import Boxui.UI.FormPruning

/-! The fields of the form in which the rules of the route are edited. What a select offers and
which fields are required are left out: no transition reads them. -/
namespace Boxui.UI.RouteForm
open GoValue JSValue Forms
open OutboundForm (keepAliveOn)

def tlsFragmentOn : FieldWhen := { path := ["tls_fragment"], is := some (.bool true) }

def actionResolverOn : FieldWhen := { path := ["domain_resolver", "server"] }

def routeMatchFields : List PolicyFieldSpec :=
  [{ path := ["type"], kind := .select },
   { path := ["inbound"], kind := .refMulti },
   { path := ["ip_version"], kind := .select },
   { path := ["network"], kind := .networkMulti },
   { path := ["auth_user"], kind := .list },
   { path := ["protocol"], kind := .list },
   { path := ["client"], kind := .list },
   { path := ["domain"], kind := .list },
   { path := ["domain_suffix"], kind := .list },
   { path := ["domain_keyword"], kind := .list },
   { path := ["domain_regex"], kind := .list },
   { path := ["source_ip_cidr"], kind := .list },
   { path := ["source_ip_is_private"], kind := .boolean },
   { path := ["ip_cidr"], kind := .list },
   { path := ["ip_is_private"], kind := .boolean },
   { path := ["source_port"], kind := .numberList },
   { path := ["source_port_range"], kind := .list },
   { path := ["port"], kind := .numberList },
   { path := ["port_range"], kind := .list },
   { path := ["process_name"], kind := .list },
   { path := ["process_path"], kind := .list },
   { path := ["process_path_regex"], kind := .list },
   { path := ["package_name"], kind := .list },
   { path := ["user"], kind := .list },
   { path := ["user_id"], kind := .numberList },
   { path := ["rule_set"], kind := .refMulti },
   { path := ["rule_set_ip_cidr_match_source"], kind := .boolean },
   { path := ["clash_mode"] },
   { path := ["network_type"], kind := .list },
   { path := ["network_is_expensive"], kind := .boolean },
   { path := ["network_is_constrained"], kind := .boolean },
   { path := ["wifi_ssid"], kind := .list },
   { path := ["wifi_bssid"], kind := .list },
   { path := ["invert"], kind := .boolean }]

def routeOptionFields : List PolicyFieldSpec :=
  [{ path := ["override_address"] },
   { path := ["override_port"], kind := .number },
   { path := ["network_strategy"], kind := .select },
   { path := ["fallback_delay"], kind := .number },
   { path := ["udp_disable_domain_unmapping"], kind := .boolean },
   { path := ["udp_connect"], kind := .boolean },
   { path := ["udp_timeout"] },
   { path := ["tls_fragment"], kind := .boolean },
   { path := ["tls_fragment_fallback_delay"], when := [tlsFragmentOn] },
   { path := ["tls_record_fragment"], kind := .boolean }]

def directFields : List PolicyFieldSpec :=
  [{ path := ["bind_interface"], kind := .networkInterface },
   { path := ["inet4_bind_address"] },
   { path := ["inet6_bind_address"] },
   { path := ["bind_address_no_port"], kind := .boolean },
   { path := ["protect_path"] },
   { path := ["routing_mark"] },
   { path := ["reuse_addr"], kind := .boolean },
   { path := ["netns"] },
   { path := ["connect_timeout"] },
   { path := ["tcp_fast_open"], kind := .boolean },
   { path := ["tcp_multi_path"], kind := .boolean },
   { path := ["disable_tcp_keep_alive"], kind := .boolean },
   { path := ["tcp_keep_alive"], when := [keepAliveOn] },
   { path := ["tcp_keep_alive_interval"], when := [keepAliveOn] },
   { path := ["udp_fragment"], kind := .boolean },
   { path := ["domain_resolver", "server"], kind := .ref },
   { path := ["domain_resolver", "strategy"], kind := .select, when := [actionResolverOn] },
   { path := ["domain_resolver", "disable_cache"], kind := .boolean, when := [actionResolverOn] },
   { path := ["domain_resolver", "rewrite_ttl"], kind := .number, when := [actionResolverOn] },
   { path := ["domain_resolver", "client_subnet"], when := [actionResolverOn] },
   { path := ["network_strategy"], kind := .select },
   { path := ["network_type"], kind := .list },
   { path := ["fallback_network_type"], kind := .list },
   { path := ["fallback_delay"] }]

def routeFields : List PolicyFieldSpec :=
  { path := ["outbound"], kind := .ref } :: routeOptionFields

def rejectFields : List PolicyFieldSpec :=
  [{ path := ["method"], kind := .select },
   { path := ["no_drop"], kind := .boolean }]

def sniffFields : List PolicyFieldSpec :=
  [{ path := ["sniffer"], kind := .list },
   { path := ["timeout"] }]

def resolveFields : List PolicyFieldSpec :=
  [{ path := ["server"], kind := .ref },
   { path := ["strategy"], kind := .select },
   { path := ["disable_cache"], kind := .boolean },
   { path := ["rewrite_ttl"], kind := .number },
   { path := ["client_subnet"] }]

def routeActionFields : List (String × List PolicyFieldSpec) :=
  [("route", routeFields), ("route-options", routeOptionFields), ("direct", directFields),
    ("bypass", routeFields), ("reject", rejectFields), ("hijack-dns", []), ("sniff", sniffFields),
    ("resolve", resolveFields)]

def logicalRuleFields : List PolicyFieldSpec :=
  [{ path := ["mode"], kind := .select },
   { path := ["rules"], kind := .jsonArray },
   { path := ["invert"], kind := .boolean }]

def defaultRuleFields : List PolicyFieldSpec :=
  routeMatchFields.filter fun field => field.path != ["type"]

def ruleTypeFields : List (String × List PolicyFieldSpec) :=
  [("default", defaultRuleFields), ("logical", logicalRuleFields)]

/-- The fields the form shows, where the action is no inherited property. -/
def managedRouteRuleFields (type action : String) : Option (List PolicyFieldSpec) :=
  (entry routeActionFields action).map fun fields =>
    (if type = "logical" then logicalRuleFields else defaultRuleFields) ++ fields

end Boxui.UI.RouteForm
