import Boxui.Core.SubscriptionContent
import Boxui.Library.GoURL

/-! Importing a node from a proxy link. A result goes on through JSON, to the page or to the
database, so its strings are the texts that JSON carries. -/
namespace Boxui.Core
open GoValue GoStrings GoText GoURL

/-- Base64, JSON and IPv6 addresses, as Go's libraries read them. -/
structure LinkSyntax where
  ipv6 : List UInt8 → Bool
  base64 : List UInt8 → Option (List UInt8)
  base64URL : List UInt8 → Option (List UInt8)
  json : List UInt8 → Option Value

inductive Scheme where
  | vmess
  | ss
  | trojan
  | ssr
  | vless
  | hysteria2
  | wireguard
  | tuic
  | anytls
  | shadowtls
  deriving DecidableEq

def Scheme.names : List (String × Scheme) :=
  [("vmess", vmess), ("ss", ss), ("trojan", trojan), ("ssr", ssr), ("vless", vless),
    ("hysteria2", hysteria2), ("hy2", hysteria2), ("wireguard", wireguard), ("wg", wireguard),
    ("tuic", tuic), ("anytls", anytls), ("shadowtls", shadowtls)]

def Scheme.ofName (name : List UInt8) : Option Scheme :=
  (names.find? fun p => bytes p.1 == name).map Prod.snd

def mapOf (fields : List (String × Value)) : Object :=
  fields.foldl (fun m p => m.insert p.1 p.2) ∅

/-- `if s != "" { m[k] = s }`. -/
def setNonempty (k : String) (s : List UInt8) (m : Object) : Object :=
  if s = [] then m else m.insert k (.str (text s))

def nodeName (u : URL) (fallback : List UInt8) : List UInt8 :=
  if u.fragment ≠ [] then
    match unescape .queryComponent u.fragment with
    | some decoded => if decoded ≠ [] then decoded else u.fragment
    | none => u.fragment
  else fallback

/-- `fmt.Sprintf("scheme-%s-%d", server, port)`. -/
def serverName (scheme : String) (server : List UInt8) (port : Int) : List UInt8 :=
  bytes scheme ++ bytes "-" ++ server ++ bytes "-" ++ itoa port

structure VmessLink where
  add : String
  port : Int
  id : String
  aid : Int
  net : String
  tls : String
  host : String
  path : String
  ps : String

def decodeVmessField (vmess : VmessLink) (field : String × Value) : Option VmessLink :=
  if equalFold field.1 "add" then
    (decodeString vmess.add field.2).map fun add => { vmess with add := add }
  else if equalFold field.1 "port" then
    (decodeInt vmess.port field.2).map fun port => { vmess with port := port }
  else if equalFold field.1 "id" then
    (decodeString vmess.id field.2).map fun id => { vmess with id := id }
  else if equalFold field.1 "aid" then
    (decodeInt vmess.aid field.2).map fun aid => { vmess with aid := aid }
  else if equalFold field.1 "net" then
    (decodeString vmess.net field.2).map fun net => { vmess with net := net }
  else if equalFold field.1 "tls" then
    (decodeString vmess.tls field.2).map fun tls => { vmess with tls := tls }
  else if equalFold field.1 "host" then
    (decodeString vmess.host field.2).map fun host => { vmess with host := host }
  else if equalFold field.1 "path" then
    (decodeString vmess.path field.2).map fun path => { vmess with path := path }
  else if equalFold field.1 "ps" then
    (decodeString vmess.ps field.2).map fun ps => { vmess with ps := ps }
  else some vmess

def decodeVmess : Value → Option VmessLink
  | .null => some ⟨"", 0, "", 0, "", "", "", "", ""⟩
  | .obj fields => fields.foldlM decodeVmessField ⟨"", 0, "", 0, "", "", "", "", ""⟩
  | _ => none

def vmessResult (vmess : VmessLink) : ImportResult where
  tag := if vmess.ps ≠ "" then vmess.ps
    else text (serverName "vmess" (bytes vmess.add) vmess.port)
  type := "vmess"
  server := vmess.add
  port := vmess.port
  config := Object.toValue (mapOf [("type", .str "vmess"), ("server", .str vmess.add),
    ("server_port", .int vmess.port), ("uuid", .str vmess.id), ("alter_id", .int vmess.aid),
    ("network", .str vmess.net), ("tls", .bool (vmess.tls = "tls")),
    ("ws-opts", Object.toValue (mapOf [("path", .str vmess.path),
      ("headers", Object.toValue (mapOf [("Host", .str vmess.host)]))]))])

def parseVmess (stx : LinkSyntax) (raw : List UInt8) : Except String ImportResult :=
  let b64 := if bytes "vmess://" <+: raw then raw.drop (bytes "vmess://").length else raw
  match (stx.base64 b64).or (stx.base64URL b64) with
  | none => .error "failed to decode vmess link"
  | some data =>
    match (stx.json data).bind decodeVmess with
    | none => .error "failed to parse vmess JSON"
    | some vmess => .ok (vmessResult vmess)

/-- A result whose tag is the name of the link, or else made of its server and port. -/
def linkResult (u : URL) (scheme type : String) (server : List UInt8) (port : Int)
    (config : Object) : ImportResult where
  tag := text (nodeName u (serverName scheme server port))
  type := type
  server := text server
  port := port
  config := Object.toValue config

/-- The fields that a result of a type shares with every other. -/
def serverConfig (type : String) (server : List UInt8) (port : Int) : Object :=
  mapOf [("type", .str type), ("server", .str (text server)), ("server_port", .int port)]

/-- The server and the port of a Shadowsocks link: a host with a colon is split there. -/
def ssServer (u : URL) : List UInt8 × Int :=
  if ':'.toUInt8 ∈ u.hostname then
    (before ':'.toUInt8 u.hostname, atoi (after ':'.toUInt8 u.hostname))
  else (u.hostname, atoi u.port)

def parseSS (u : URL) : Except String ImportResult :=
  match u.user with
  | none => .error "missing credentials in ss link"
  | some _ =>
    let server := (ssServer u).1
    let port := (ssServer u).2
    .ok (linkResult u "ss" "shadowsocks" server port
      (((serverConfig "shadowsocks" server port).insert "method"
        (.str (text (Userinfo.usernameOf u.user)))).insert "password"
          (.str (text (Userinfo.passwordOf u.user)))))

/-- Trojan and Hysteria2 links, whose user-info is the password. -/
def passwordResult (scheme : String) (u : URL) : ImportResult :=
  linkResult u scheme scheme u.hostname (atoi u.port)
    ((serverConfig scheme u.hostname (atoi u.port)).insert "password"
      (.str (text (Userinfo.spelled u.user))))

def parseTrojan (u : URL) : ImportResult := passwordResult "trojan" u

def parseSSR (u : URL) : ImportResult :=
  linkResult u "ssr" "shadowsocksr" u.hostname (atoi u.port)
    (serverConfig "shadowsocksr" u.hostname (atoi u.port))

/-- The TLS settings of a VLESS link. -/
def vlessTLS (sni fp pbk sid : List UInt8) : Object :=
  let tls := mapOf [("enabled", .bool true), ("server_name", .str (text sni))]
  let tls := if fp = [] then tls else tls.insert "utls"
    (Object.toValue (mapOf [("enabled", .bool true), ("fingerprint", .str (text fp))]))
  if pbk = [] then tls else tls.insert "reality" (Object.toValue (setNonempty "short_id" sid
    (mapOf [("enabled", .bool true), ("public_key", .str (text pbk))])))

def parseVless (u : URL) : ImportResult :=
  let config := (serverConfig "vless" u.hostname (atoi u.port)).insert "uuid"
    (.str (text (Userinfo.spelled u.user)))
  let config := setNonempty "flow" (u.get "flow") config
  let config :=
    if u.get "security" = bytes "reality" ∨ u.get "sni" ≠ [] ∨ u.get "pbk" ≠ [] then
      config.insert "tls" (Object.toValue
        (vlessTLS (u.get "sni") (u.get "fp") (u.get "pbk") (u.get "sid")))
    else config
  linkResult u "vless" "vless" u.hostname (atoi u.port)
    (setNonempty "network" (u.get "type") config)

def parseHysteria2 (u : URL) : ImportResult := passwordResult "hysteria2" u

/-- `port, _ := strconv.Atoi(u.Port()); if port == 0 { port = default }`. -/
def portOr (default : Int) (u : URL) : Int := if atoi u.port = 0 then default else atoi u.port

def wireGuardPeer (u : URL) (port : Int) : Object :=
  setNonempty "pre_shared_key" (u.get "pre_shared_key")
    (mapOf [("address", .str (text u.hostname)), ("port", .int port),
      ("public_key", .str (text (u.get "public_key"))),
      ("allowed_ips", .strs ["0.0.0.0/0", "::/0"])])

def wireGuardConfig (u : URL) (privateKey : List UInt8) (port : Int) : Object :=
  let address := if u.get "address" = [] then bytes "10.0.0.2/32" else u.get "address"
  let mtu := atoi (u.get "mtu")
  let config := mapOf [("type", .str "wireguard"), ("private_key", .str (text privateKey)),
    ("peers", .list [Object.toValue (wireGuardPeer u port)]), ("address", .strs [text address])]
  if 0 < mtu then config.insert "mtu" (.int mtu) else config

def parseWireGuard (u : URL) : Except String ImportResult :=
  let privateKey := Userinfo.spelled u.user
  if privateKey = [] then .error "missing private key in wireguard link"
  else
    let port := portOr 51820 u
    .ok (linkResult u "wg" "wireguard" u.hostname port (wireGuardConfig u privateKey port))

/-- The TLS settings of the links that name a server to ask for, or else their own. -/
def serverTLS (u : URL) : Object :=
  mapOf [("enabled", .bool true), ("server_name",
    .str (text (if u.get "sni" = [] then u.hostname else u.get "sni")))]

/-- `if q.Get("insecure") == "1" { tlsCfg["insecure"] = true }`. -/
def setInsecure (u : URL) (tls : Object) : Object :=
  if u.get "insecure" = bytes "1" then tls.insert "insecure" (.bool true) else tls

def parseTUIC (u : URL) : Except String ImportResult :=
  let uuid := Userinfo.usernameOf u.user
  if uuid = [] then .error "missing uuid in tuic link"
  else
    let port := portOr 443 u
    let config := ((serverConfig "tuic" u.hostname port).insert "uuid"
      (.str (text uuid))).insert "password" (.str (text (Userinfo.passwordOf u.user)))
    let config := setNonempty "congestion_control" (u.get "congestion_control") config
    let config := setNonempty "udp_relay_mode" (u.get "udp_relay_mode") config
    let tls := serverTLS u
    let tls := if u.get "alpn" = [] then tls else tls.insert "alpn" (.strs [text (u.get "alpn")])
    .ok (linkResult u "tuic" "tuic" u.hostname port
      (config.insert "tls" (Object.toValue (setInsecure u tls))))

def parseAnyTLS (u : URL) : Except String ImportResult :=
  let password := Userinfo.spelled u.user
  if password = [] then .error "missing password in anytls link"
  else
    let port := portOr 443 u
    let config := (serverConfig "anytls" u.hostname port).insert "password"
      (.str (text password))
    .ok (linkResult u "anytls" "anytls" u.hostname port
      (config.insert "tls" (Object.toValue (setInsecure u (serverTLS u)))))

def parseShadowTLS (u : URL) : Except String ImportResult :=
  let password := Userinfo.spelled u.user
  if password = [] then .error "missing password in shadowtls link"
  else
    let port := portOr 443 u
    let version := if atoi (u.get "version") = 0 then 3 else atoi (u.get "version")
    let config := ((serverConfig "shadowtls" u.hostname port).insert "version"
      (.int version)).insert "password" (.str (text password))
    .ok (linkResult u "shadowtls" "shadowtls" u.hostname port
      (config.insert "tls" (Object.toValue (serverTLS u))))

def parseScheme (stx : LinkSyntax) (link : List UInt8) (u : URL) :
    Scheme → Except String ImportResult
  | .vmess => parseVmess stx link
  | .ss => parseSS u
  | .trojan => .ok (parseTrojan u)
  | .ssr => .ok (parseSSR u)
  | .vless => .ok (parseVless u)
  | .hysteria2 => .ok (parseHysteria2 u)
  | .wireguard => parseWireGuard u
  | .tuic => parseTUIC u
  | .anytls => parseAnyTLS u
  | .shadowtls => parseShadowTLS u

/-- A link that passes the check of its credentials. -/
theorem ok_of_guard {c : Prop} [Decidable c] {error : String} {made result : ImportResult}
    (h : (if c then .error error else .ok made) = Except.ok result) : ¬c ∧ made = result := by
  by_cases hc : c
  · rw [if_pos hc] at h
    cases h
  · rw [if_neg hc] at h
    exact ⟨hc, Except.ok.inj h⟩

theorem parseSS_ok {u : URL} {result : ImportResult} (h : parseSS u = .ok result) :
    linkResult u "ss" "shadowsocks" (ssServer u).1 (ssServer u).2
      (((serverConfig "shadowsocks" (ssServer u).1 (ssServer u).2).insert "method"
        (.str (text (Userinfo.usernameOf u.user)))).insert "password"
          (.str (text (Userinfo.passwordOf u.user)))) = result := by
  unfold parseSS at h
  cases huser : u.user with
  | none =>
    rw [huser] at h
    cases h
  | some user =>
    rw [huser] at h
    exact Except.ok.inj h

/-- The text of the error of `url.Parse` is left out. -/
def parseProxyLink (stx : LinkSyntax) (link : List UInt8) : Except String ImportResult :=
  match parse stx.ipv6 link with
  | none => .error "invalid link"
  | some u =>
    match Scheme.ofName u.scheme with
    | none => .error ("unsupported scheme: " ++ text u.scheme)
    | some scheme => parseScheme stx link u scheme

end Boxui.Core
