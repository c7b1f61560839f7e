import Boxui.UI.FormPruning

/-! The fields of the form in which inbounds are edited. -/
namespace Boxui.UI.InboundForm
open GoValue JSValue Forms
open OutboundForm (keepAliveOn network tlsOn echOn realityOn muxOn brutalOn)

def inboundTypes : List String :=
  ["mixed", "socks", "http", "direct", "shadowsocks", "vmess", "vless", "trojan", "naive",
    "hysteria", "hysteria2", "tuic", "shadowtls", "anytls", "redirect", "tproxy", "tun"]

def listenFields : List FieldSpec :=
  [{ path := ["listen"], kind := .listenAddress },
   { path := ["listen_port"], kind := .number },
   { path := ["bind_interface"], kind := .networkInterface },
   { path := ["detour"], kind := .ref },
   { path := ["routing_mark"] },
   { path := ["reuse_addr"], kind := .boolean },
   { path := ["netns"] },
   { path := ["tcp_fast_open"], kind := .boolean },
   { path := ["tcp_multi_path"], kind := .boolean },
   { path := ["disable_tcp_keep_alive"], kind := .boolean },
   { path := ["tcp_keep_alive"], when := [keepAliveOn] },
   { path := ["tcp_keep_alive_interval"], when := [keepAliveOn] },
   { path := ["udp_fragment"], kind := .boolean },
   { path := ["udp_timeout"] }]

def mixedFields : List FieldSpec :=
  [{ path := ["users"], kind := .users },
   { path := ["domain_resolver"], kind := .ref },
   { path := ["set_system_proxy"], kind := .boolean }]

def socksFields : List FieldSpec :=
  [{ path := ["users"], kind := .users },
   { path := ["domain_resolver"], kind := .ref }]

def httpFields : List FieldSpec :=
  [{ path := ["users"], kind := .users },
   { path := ["domain_resolver"], kind := .ref },
   { path := ["set_system_proxy"], kind := .boolean }]

def directFields : List FieldSpec :=
  [network,
   { path := ["override_address"] },
   { path := ["override_port"], kind := .number }]

def shadowsocksFields : List FieldSpec :=
  [network,
   { path := ["method"], kind := .select, options := ["2022-blake3-aes-128-gcm",
       "2022-blake3-aes-256-gcm", "2022-blake3-chacha20-poly1305", "aes-128-gcm", "aes-192-gcm",
       "aes-256-gcm", "chacha20-ietf-poly1305", "xchacha20-ietf-poly1305", "none"] },
   { path := ["password"] },
   { path := ["users"], kind := .users },
   { path := ["managed"], kind := .boolean }]

def vmessFields : List FieldSpec :=
  [{ path := ["users"], kind := .users }]

def vlessFields : List FieldSpec :=
  [{ path := ["users"], kind := .users }]

def trojanFields : List FieldSpec :=
  [{ path := ["users"], kind := .users }]

def naiveFields : List FieldSpec :=
  [{ path := ["users"], kind := .users },
   network,
   { path := ["quic_congestion_control"] }]

def hysteriaFields : List FieldSpec :=
  [{ path := ["up"] },
   { path := ["up_mbps"], kind := .number },
   { path := ["down"] },
   { path := ["down_mbps"], kind := .number },
   { path := ["obfs"] },
   { path := ["users"], kind := .users },
   { path := ["recv_window_conn"], kind := .number },
   { path := ["recv_window_client"], kind := .number },
   { path := ["max_conn_client"], kind := .number },
   { path := ["disable_mtu_discovery"], kind := .boolean }]

def hysteria2Fields : List FieldSpec :=
  [{ path := ["up_mbps"], kind := .number },
   { path := ["down_mbps"], kind := .number },
   { path := ["obfs", "type"], kind := .select, options := ["", "salamander"] },
   { path := ["obfs", "password"],
       when := [{ path := ["obfs", "type"], is := some (.str "salamander") }] },
   { path := ["users"], kind := .users },
   { path := ["ignore_client_bandwidth"], kind := .boolean },
   { path := ["masquerade"] },
   { path := ["brutal_debug"], kind := .boolean }]

def tuicFields : List FieldSpec :=
  [{ path := ["users"], kind := .users },
   { path := ["congestion_control"] },
   { path := ["auth_timeout"] },
   { path := ["zero_rtt_handshake"], kind := .boolean },
   { path := ["heartbeat"] }]

def shadowtlsFields : List FieldSpec :=
  [{ path := ["version"], kind := .number },
   { path := ["password"] },
   { path := ["users"], kind := .users },
   { path := ["handshake", "server"] },
   { path := ["handshake", "server_port"], kind := .number },
   { path := ["strict_mode"], kind := .boolean },
   { path := ["wildcard_sni"], kind := .select, options := ["", "off", "authed", "all"] }]

def anytlsFields : List FieldSpec :=
  [{ path := ["users"], kind := .users },
   { path := ["padding_scheme"] }]

def tproxyFields : List FieldSpec :=
  [network]

def protocolMap : List (String × List FieldSpec) :=
  [("mixed", mixedFields), ("socks", socksFields), ("http", httpFields), ("direct", directFields),
    ("shadowsocks", shadowsocksFields), ("vmess", vmessFields), ("vless", vlessFields),
    ("trojan", trojanFields), ("naive", naiveFields), ("hysteria", hysteriaFields),
    ("hysteria2", hysteria2Fields), ("tuic", tuicFields), ("shadowtls", shadowtlsFields),
    ("anytls", anytlsFields), ("tproxy", tproxyFields), ("redirect", []), ("tun", [])]

def autoRouteOn : FieldWhen := { path := ["auto_route"], is := some (.bool true) }

def autoRedirectOn : FieldWhen := { path := ["auto_redirect"], is := some (.bool true) }

def tunFields : List FieldSpec :=
  [{ path := ["interface_name"] },
   { path := ["mtu"], kind := .number },
   { path := ["address"], kind := .list },
   { path := ["stack"], kind := .select, options := ["", "system", "gvisor", "mixed"] },
   { path := ["auto_route"], kind := .boolean },
   { path := ["iproute2_table_index"], kind := .number, when := [autoRouteOn] },
   { path := ["iproute2_rule_index"], kind := .number, when := [autoRouteOn] },
   { path := ["auto_redirect"], kind := .boolean },
   { path := ["auto_redirect_input_mark"], when := [autoRedirectOn] },
   { path := ["auto_redirect_output_mark"], when := [autoRedirectOn] },
   { path := ["auto_redirect_reset_mark"], when := [autoRedirectOn] },
   { path := ["auto_redirect_nfqueue"], kind := .number, when := [autoRedirectOn] },
   { path := ["auto_redirect_iproute2_fallback_rule_index"], kind := .number,
       when := [autoRedirectOn] },
   { path := ["loopback_address"], kind := .list },
   { path := ["strict_route"], kind := .boolean },
   { path := ["route_address"], kind := .list },
   { path := ["route_address_set"], kind := .list },
   { path := ["route_exclude_address"], kind := .list },
   { path := ["route_exclude_address_set"], kind := .list },
   { path := ["include_interface"], kind := .ref },
   { path := ["exclude_interface"], kind := .ref },
   { path := ["include_uid"], kind := .numberList },
   { path := ["exclude_uid"], kind := .numberList },
   { path := ["include_uid_range"], kind := .list },
   { path := ["exclude_uid_range"], kind := .list },
   { path := ["include_android_user"], kind := .numberList },
   { path := ["include_package"], kind := .list },
   { path := ["exclude_package"], kind := .list },
   { path := ["udp_timeout"] },
   { path := ["exclude_mptcp"], kind := .boolean }]

def clientAuthOn : List FieldWhen :=
  [tlsOn, { path := ["tls", "client_authentication"], is := some (.strs
    ["request", "require-any", "verify-if-given", "require-and-verify"]) }]

def acmeOn : List FieldWhen := [tlsOn, { path := ["tls", "acme", "domain"] }]

def tlsFields : List FieldSpec :=
  [{ path := ["tls", "enabled"], kind := .boolean },
   { path := ["tls", "server_name"], when := [tlsOn] },
   { path := ["tls", "insecure"], kind := .boolean, when := [tlsOn] },
   { path := ["tls", "alpn"], kind := .list, when := [tlsOn] },
   { path := ["tls", "min_version"], kind := .select, options := ["1.0", "1.1", "1.2", "1.3"],
       when := [tlsOn] },
   { path := ["tls", "max_version"], kind := .select, options := ["1.0", "1.1", "1.2", "1.3"],
       when := [tlsOn] },
   { path := ["tls", "cipher_suites"], kind := .list, when := [tlsOn] },
   { path := ["tls", "curve_preferences"], kind := .list, when := [tlsOn] },
   { path := ["tls", "certificate"], kind := .textarea, when := [tlsOn] },
   { path := ["tls", "certificate_path"], when := [tlsOn] },
   { path := ["tls", "key"], kind := .textarea, when := [tlsOn] },
   { path := ["tls", "key_path"], when := [tlsOn] },
   { path := ["tls", "client_authentication"], kind := .select, options := ["no", "request",
       "require-any", "verify-if-given", "require-and-verify"], when := [tlsOn] },
   { path := ["tls", "client_certificate"], kind := .textarea, when := clientAuthOn },
   { path := ["tls", "client_certificate_path"], kind := .list, when := clientAuthOn },
   { path := ["tls", "client_certificate_public_key_sha256"], kind := .list, when := clientAuthOn },
   { path := ["tls", "kernel_tx"], kind := .boolean, when := [tlsOn] },
   { path := ["tls", "kernel_rx"], kind := .boolean, when := [tlsOn] },
   { path := ["tls", "acme", "domain"], kind := .list, when := [tlsOn] },
   { path := ["tls", "acme", "data_directory"], when := acmeOn },
   { path := ["tls", "acme", "default_server_name"], when := acmeOn },
   { path := ["tls", "acme", "email"], when := acmeOn },
   { path := ["tls", "acme", "provider"], when := acmeOn },
   { path := ["tls", "acme", "disable_http_challenge"], kind := .boolean, when := acmeOn },
   { path := ["tls", "acme", "disable_tls_alpn_challenge"], kind := .boolean, when := acmeOn },
   { path := ["tls", "acme", "alternative_http_port"], kind := .number, when := acmeOn },
   { path := ["tls", "acme", "alternative_tls_port"], kind := .number, when := acmeOn },
   { path := ["tls", "ech", "enabled"], kind := .boolean, when := [tlsOn] },
   { path := ["tls", "ech", "key"], kind := .list, when := echOn },
   { path := ["tls", "ech", "key_path"], when := echOn },
   { path := ["tls", "reality", "enabled"], kind := .boolean, when := [tlsOn] },
   { path := ["tls", "reality", "handshake", "server"], when := realityOn },
   { path := ["tls", "reality", "handshake", "server_port"], kind := .number, when := realityOn },
   { path := ["tls", "reality", "private_key"], when := realityOn },
   { path := ["tls", "reality", "short_id"], kind := .list, when := realityOn },
   { path := ["tls", "reality", "max_time_difference"], when := realityOn }]

def transportFields : List FieldSpec :=
  [{ path := ["transport", "type"], kind := .select, options := ["", "http", "ws", "quic", "grpc",
       "httpupgrade"] }]

/-- The outbound form lists the same fields. -/
def transportByType : List (String × List FieldSpec) := OutboundForm.transportMap

def multiplexFields : List FieldSpec :=
  [{ path := ["multiplex", "enabled"], kind := .boolean },
   { path := ["multiplex", "padding"], kind := .boolean, when := [muxOn] },
   { path := ["multiplex", "brutal", "enabled"], kind := .boolean, when := [muxOn] },
   { path := ["multiplex", "brutal", "up_mbps"], kind := .number, when := brutalOn },
   { path := ["multiplex", "brutal", "down_mbps"], kind := .number, when := brutalOn }]

def tlsTypes : List String :=
  ["http", "mixed", "vmess", "vless", "trojan", "naive", "hysteria", "hysteria2", "tuic", "anytls"]

def transportTypes : List String := ["vmess", "vless", "trojan"]

def multiplexTypes : List String := ["shadowsocks", "vmess", "vless", "trojan"]

def protocolFields (type : String) : Option (List FieldSpec) := entry protocolMap type

def transportTypeFields (type : String) : Option (List FieldSpec) :=
  (entry transportByType type).map fun fields => transportFields ++ fields

/-- The fields the form shows, where the names it looks up are no inherited properties. -/
def managedInboundFields (type transportType : String) : Option (List FieldSpec) :=
  (protocolFields type).bind fun protocol =>
    (if type ∈ transportTypes then transportTypeFields transportType else some []).map
      fun transport =>
        listenFields ++ protocol ++ tunFields ++ (if type ∈ tlsTypes then tlsFields else []) ++
          transport ++ (if type ∈ multiplexTypes then multiplexFields else [])

end Boxui.UI.InboundForm
