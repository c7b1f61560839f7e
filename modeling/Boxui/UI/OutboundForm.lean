import Boxui.Library.ObjectPath

/-! The fields of the form in which outbounds are edited. Labels, sections and what a reference
refers to are left out. -/
namespace Boxui.UI
open GoValue ObjectPath

inductive FieldKind where
  | text
  | textarea
  | number
  | boolean
  | list
  | numberList
  | select
  | jsonObject
  | users
  | listenAddress
  | networkInterface
  | ref
  | networkMulti
  deriving DecidableEq

structure FieldWhen where
  path : List String
  is : Option Value := none
  falsy : Bool := false

/-- A field without a kind is a text. -/
structure FieldSpec where
  path : List String
  kind : FieldKind := .text
  options : List String := []
  when : List FieldWhen := []

/-- A string, or a list of strings. -/
def isStrings : Value → Bool
  | .str _ => true
  | .strs _ => true
  | .list vs => vs.all fun v => v.asStr?.isSome
  | _ => false

def isNumber : Value → Bool
  | .int _ => true
  | .float _ => true
  | _ => false

/-- Whether a value, where there is one, has the kind of a field. -/
def matchesField (value : Value) (field : FieldSpec) : Bool :=
  match field.kind with
  | .boolean => match value with
    | .bool _ => true
    | _ => false
  | .number => isNumber value
  | .list => isStrings value
  | .networkMulti => isStrings value
  | .numberList => match value with
    | .list vs => vs.all isNumber
    | v => isNumber v
  | .jsonObject => value.asMap?.isSome
  | .users => match value with
    | .list vs => vs.all fun v => v.asMap?.isSome
    | _ => false
  | _ => match value with
    | .str _ => true
    | .bool _ => true
    | v => isNumber v

namespace OutboundForm

def outboundTypes : List String :=
  ["direct", "block", "selector", "urltest", "socks", "http", "shadowsocks", "vmess", "vless",
    "trojan", "naive", "hysteria", "hysteria2", "tuic", "ssh", "tor", "shadowtls", "anytls"]

def serverTypes : List String :=
  ["socks", "http", "shadowsocks", "vmess", "vless", "trojan", "naive", "hysteria", "hysteria2",
    "tuic", "ssh", "shadowtls", "anytls"]

def dialerTypes : List String := "direct" :: serverTypes ++ ["tor"]

def outboundTLSTypes : List String :=
  ["http", "vmess", "vless", "trojan", "naive", "hysteria", "hysteria2", "tuic", "shadowtls",
    "anytls"]

def outboundTransportTypes : List String := ["vmess", "vless", "trojan"]

def outboundMultiplexTypes : List String := ["shadowsocks", "vmess", "vless", "trojan"]

def groupTypes : List String := ["selector", "urltest"]

def tlsVersions : List String := ["1.0", "1.1", "1.2", "1.3"]

def ssMethods : List String :=
  ["2022-blake3-aes-128-gcm", "2022-blake3-aes-256-gcm", "2022-blake3-chacha20-poly1305",
    "aes-128-gcm", "aes-192-gcm", "aes-256-gcm", "chacha20-ietf-poly1305",
    "xchacha20-ietf-poly1305", "none"]

def tlsOn : FieldWhen := { path := ["tls", "enabled"], is := some (.bool true) }

def utlsOn : List FieldWhen :=
  [tlsOn, { path := ["tls", "utls", "enabled"], is := some (.bool true) }]

def realityOn : List FieldWhen :=
  [tlsOn, { path := ["tls", "reality", "enabled"], is := some (.bool true) }]

def echOn : List FieldWhen :=
  [tlsOn, { path := ["tls", "ech", "enabled"], is := some (.bool true) }]

def fragmentOn : List FieldWhen :=
  [tlsOn, { path := ["tls", "fragment"], is := some (.bool true) }]

def muxOn : FieldWhen := { path := ["multiplex", "enabled"], is := some (.bool true) }

def brutalOn : List FieldWhen :=
  [muxOn, { path := ["multiplex", "brutal", "enabled"], is := some (.bool true) }]

def udpOverTCPOn : FieldWhen := { path := ["udp_over_tcp", "enabled"], is := some (.bool true) }

def keepAliveOn : FieldWhen := { path := ["disable_tcp_keep_alive"], falsy := true }

def dialerFields : List FieldSpec :=
  [{ path := ["detour"], kind := .ref },
   { path := ["bind_interface"], kind := .networkInterface },
   { path := ["inet4_bind_address"] },
   { path := ["inet6_bind_address"] },
   { path := ["bind_address_no_port"], kind := .boolean },
   { path := ["protect_path"] },
   { path := ["routing_mark"] },
   { path := ["reuse_addr"], kind := .boolean },
   { path := ["netns"] },
   { path := ["connect_timeout"] },
   { path := ["tcp_fast_open"], kind := .boolean },
   { path := ["tcp_multi_path"], kind := .boolean },
   { path := ["disable_tcp_keep_alive"], kind := .boolean },
   { path := ["tcp_keep_alive"], when := [keepAliveOn] },
   { path := ["tcp_keep_alive_interval"], when := [keepAliveOn] },
   { path := ["udp_fragment"], kind := .select, options := ["true", "false"] },
   { path := ["domain_resolver", "server"], kind := .ref },
   { path := ["domain_resolver", "strategy"], kind := .select,
       options := ["prefer_ipv4", "prefer_ipv6", "ipv4_only", "ipv6_only"] },
   { path := ["domain_resolver", "disable_cache"], kind := .boolean },
   { path := ["domain_resolver", "rewrite_ttl"], kind := .number },
   { path := ["domain_resolver", "client_subnet"] },
   { path := ["network_strategy"], kind := .select, options := ["default", "fallback", "hybrid"] },
   { path := ["network_type"], kind := .list },
   { path := ["fallback_network_type"], kind := .list },
   { path := ["fallback_delay"] }]

def network : FieldSpec := { path := ["network"], kind := .networkMulti }

def udpOverTCP : List FieldSpec :=
  [{ path := ["udp_over_tcp", "enabled"], kind := .boolean },
   { path := ["udp_over_tcp", "version"], kind := .number, when := [udpOverTCPOn] }]

def socksFields : List FieldSpec :=
  [{ path := ["version"], kind := .select, options := ["4", "4a", "5"] },
   { path := ["username"] },
   { path := ["password"] },
   network] ++ udpOverTCP

def httpFields : List FieldSpec :=
  [{ path := ["username"] },
   { path := ["password"] },
   { path := ["path"] },
   { path := ["headers"], kind := .jsonObject }]

def shadowsocksFields : List FieldSpec :=
  [{ path := ["method"], kind := .select, options := ssMethods },
   { path := ["password"] },
   { path := ["plugin"] },
   { path := ["plugin_opts"] },
   network] ++ udpOverTCP

def vmessFields : List FieldSpec :=
  [{ path := ["uuid"] },
   { path := ["security"], kind := .select,
       options := ["auto", "none", "zero", "aes-128-gcm", "chacha20-poly1305"] },
   { path := ["alter_id"], kind := .number },
   { path := ["global_padding"], kind := .boolean },
   { path := ["authenticated_length"], kind := .boolean },
   network,
   { path := ["packet_encoding"], kind := .select, options := ["packetaddr", "xudp"] }]

def vlessFields : List FieldSpec :=
  [{ path := ["uuid"] },
   { path := ["flow"], kind := .select, options := ["xtls-rprx-vision"] },
   network,
   { path := ["packet_encoding"], kind := .select, options := ["packetaddr", "xudp"] }]

def trojanFields : List FieldSpec :=
  [{ path := ["password"] },
   network]

def naiveFields : List FieldSpec :=
  [{ path := ["username"] },
   { path := ["password"] },
   { path := ["insecure_concurrency"], kind := .number },
   { path := ["extra_headers"], kind := .jsonObject },
   { path := ["stream_receive_window"] }] ++ udpOverTCP ++
  [{ path := ["quic"], kind := .boolean },
   { path := ["quic_congestion_control"],
       when := [{ path := ["quic"], is := some (.bool true) }] },
   { path := ["quic_session_receive_window"],
       when := [{ path := ["quic"], is := some (.bool true) }] }]

def hysteriaFields : List FieldSpec :=
  [{ path := ["server_ports"], kind := .list },
   { path := ["hop_interval"] },
   { path := ["up"] },
   { path := ["up_mbps"], kind := .number },
   { path := ["down"] },
   { path := ["down_mbps"], kind := .number },
   { path := ["obfs"] },
   { path := ["auth"] },
   { path := ["auth_str"] },
   { path := ["recv_window_conn"], kind := .number },
   { path := ["recv_window"], kind := .number },
   { path := ["disable_mtu_discovery"], kind := .boolean },
   network]

def hysteria2Fields : List FieldSpec :=
  [{ path := ["server_ports"], kind := .list },
   { path := ["hop_interval"] },
   { path := ["up_mbps"], kind := .number },
   { path := ["down_mbps"], kind := .number },
   { path := ["obfs", "type"], kind := .select, options := ["salamander"] },
   { path := ["obfs", "password"],
       when := [{ path := ["obfs", "type"], is := some (.str "salamander") }] },
   { path := ["password"] },
   network,
   { path := ["brutal_debug"], kind := .boolean }]

def tuicFields : List FieldSpec :=
  [{ path := ["uuid"] },
   { path := ["password"] },
   { path := ["congestion_control"], kind := .select, options := ["cubic", "new_reno", "bbr"] },
   { path := ["udp_relay_mode"], kind := .select, options := ["native", "quic"] },
   { path := ["udp_over_stream"], kind := .boolean },
   { path := ["zero_rtt_handshake"], kind := .boolean },
   { path := ["heartbeat"] },
   network]

def sshFields : List FieldSpec :=
  [{ path := ["user"] },
   { path := ["password"] },
   { path := ["private_key"], kind := .textarea },
   { path := ["private_key_path"] },
   { path := ["private_key_passphrase"] },
   { path := ["host_key"], kind := .list },
   { path := ["host_key_algorithms"], kind := .list },
   { path := ["client_version"] }]

def torFields : List FieldSpec :=
  [{ path := ["executable_path"] },
   { path := ["extra_args"], kind := .list },
   { path := ["data_directory"] },
   { path := ["torrc"], kind := .jsonObject }]

def shadowtlsFields : List FieldSpec :=
  [{ path := ["version"], kind := .number },
   { path := ["password"] },
   { path := ["server_name"] }]

def anytlsFields : List FieldSpec :=
  [{ path := ["password"] },
   { path := ["idle_session_check_interval"] },
   { path := ["idle_session_timeout"] },
   { path := ["min_idle_session"], kind := .number }]

def protocolMap : List (String × List FieldSpec) :=
  [("direct", []), ("block", []), ("selector", []), ("urltest", []), ("socks", socksFields),
    ("http", httpFields), ("shadowsocks", shadowsocksFields), ("vmess", vmessFields),
    ("vless", vlessFields), ("trojan", trojanFields), ("naive", naiveFields),
    ("hysteria", hysteriaFields), ("hysteria2", hysteria2Fields), ("tuic", tuicFields),
    ("ssh", sshFields), ("tor", torFields), ("shadowtls", shadowtlsFields),
    ("anytls", anytlsFields)]

def selectorFields : List FieldSpec :=
  [{ path := ["outbounds"], kind := .list },
   { path := ["default"] },
   { path := ["interrupt_exist_connections"], kind := .boolean }]

def urltestFields : List FieldSpec :=
  [{ path := ["outbounds"], kind := .list },
   { path := ["url"] },
   { path := ["interval"] },
   { path := ["tolerance"], kind := .number },
   { path := ["idle_timeout"] },
   { path := ["interrupt_exist_connections"], kind := .boolean }]

def groupMap : List (String × List FieldSpec) :=
  [("selector", selectorFields), ("urltest", urltestFields)]

def outboundTLSFields : List FieldSpec :=
  [{ path := ["tls", "enabled"], kind := .boolean },
   { path := ["tls", "disable_sni"], kind := .boolean, when := [tlsOn] },
   { path := ["tls", "server_name"], when := [tlsOn] },
   { path := ["tls", "insecure"], kind := .boolean, when := [tlsOn] },
   { path := ["tls", "alpn"], kind := .list, when := [tlsOn] },
   { path := ["tls", "min_version"], kind := .select, options := tlsVersions,
       when := [tlsOn] },
   { path := ["tls", "max_version"], kind := .select, options := tlsVersions,
       when := [tlsOn] },
   { path := ["tls", "cipher_suites"], kind := .list, when := [tlsOn] },
   { path := ["tls", "curve_preferences"], kind := .list, when := [tlsOn] },
   { path := ["tls", "certificate"], kind := .textarea, when := [tlsOn] },
   { path := ["tls", "certificate_path"], when := [tlsOn] },
   { path := ["tls", "certificate_public_key_sha256"], kind := .list, when := [tlsOn] },
   { path := ["tls", "client_certificate"], kind := .textarea, when := [tlsOn] },
   { path := ["tls", "client_certificate_path"], when := [tlsOn] },
   { path := ["tls", "client_key"], kind := .textarea, when := [tlsOn] },
   { path := ["tls", "client_key_path"], when := [tlsOn] },
   { path := ["tls", "fragment"], kind := .boolean, when := [tlsOn] },
   { path := ["tls", "fragment_fallback_delay"], when := fragmentOn },
   { path := ["tls", "record_fragment"], kind := .boolean, when := [tlsOn] },
   { path := ["tls", "kernel_tx"], kind := .boolean, when := [tlsOn] },
   { path := ["tls", "kernel_rx"], kind := .boolean, when := [tlsOn] },
   { path := ["tls", "ech", "enabled"], kind := .boolean, when := [tlsOn] },
   { path := ["tls", "ech", "config"], kind := .list, when := echOn },
   { path := ["tls", "ech", "config_path"], when := echOn },
   { path := ["tls", "ech", "query_server_name"], when := echOn },
   { path := ["tls", "utls", "enabled"], kind := .boolean, when := [tlsOn] },
   { path := ["tls", "utls", "fingerprint"], when := utlsOn },
   { path := ["tls", "reality", "enabled"], kind := .boolean, when := [tlsOn] },
   { path := ["tls", "reality", "public_key"], when := realityOn },
   { path := ["tls", "reality", "short_id"], when := realityOn }]

def outboundMultiplexFields : List FieldSpec :=
  [{ path := ["multiplex", "enabled"], kind := .boolean },
   { path := ["multiplex", "protocol"], kind := .select,
       options := ["smux", "yamux", "h2mux"], when := [muxOn] },
   { path := ["multiplex", "max_connections"], kind := .number, when := [muxOn] },
   { path := ["multiplex", "min_streams"], kind := .number, when := [muxOn] },
   { path := ["multiplex", "max_streams"], kind := .number, when := [muxOn] },
   { path := ["multiplex", "padding"], kind := .boolean, when := [muxOn] },
   { path := ["multiplex", "brutal", "enabled"], kind := .boolean, when := [muxOn] },
   { path := ["multiplex", "brutal", "up_mbps"], kind := .number, when := brutalOn },
   { path := ["multiplex", "brutal", "down_mbps"], kind := .number, when := brutalOn }]

def transportBase : List FieldSpec :=
  [{ path := ["transport", "type"], kind := .select,
       options := ["http", "ws", "quic", "grpc", "httpupgrade"] }]

def httpTransportFields : List FieldSpec :=
  [{ path := ["transport", "host"], kind := .list },
   { path := ["transport", "path"] },
   { path := ["transport", "method"] },
   { path := ["transport", "headers"], kind := .jsonObject },
   { path := ["transport", "idle_timeout"] },
   { path := ["transport", "ping_timeout"] }]

def wsTransportFields : List FieldSpec :=
  [{ path := ["transport", "path"] },
   { path := ["transport", "headers"], kind := .jsonObject },
   { path := ["transport", "max_early_data"], kind := .number },
   { path := ["transport", "early_data_header_name"] }]

def grpcTransportFields : List FieldSpec :=
  [{ path := ["transport", "service_name"] },
   { path := ["transport", "idle_timeout"] },
   { path := ["transport", "ping_timeout"] },
   { path := ["transport", "permit_without_stream"], kind := .boolean }]

def httpupgradeTransportFields : List FieldSpec :=
  [{ path := ["transport", "host"] },
   { path := ["transport", "path"] },
   { path := ["transport", "headers"], kind := .jsonObject }]

def transportMap : List (String × List FieldSpec) :=
  [("http", httpTransportFields), ("ws", wsTransportFields), ("quic", []),
    ("grpc", grpcTransportFields), ("httpupgrade", httpupgradeTransportFields)]

def protocolFields (type : String) : List FieldSpec := (protocolMap.lookup type).getD []

def groupFields (type : String) : List FieldSpec := (groupMap.lookup type).getD []

def transportTypeFields (type : String) : List FieldSpec :=
  transportBase ++ (transportMap.lookup type).getD []

def managedOutboundFields (type transportType : String) : List FieldSpec :=
  (if type ∈ dialerTypes then dialerFields else []) ++
  (if type ∈ groupTypes then groupFields type else protocolFields type) ++
  (if type ∈ outboundTLSTypes then outboundTLSFields else []) ++
  (if type ∈ outboundTransportTypes then transportTypeFields transportType else []) ++
  (if type ∈ outboundMultiplexTypes then outboundMultiplexFields else [])

/-- `String(getPath(object, "transport.type") ?? "")`, where it is a string. -/
def transportType (config : Value) : String :=
  ((getPath config ["transport", "type"]).bind Value.asStr?).getD ""

end OutboundForm

end Boxui.UI
