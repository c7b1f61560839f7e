import Boxui.Core.ImportedCredentials

/-! Which host and port come out of a link. -/
namespace Boxui.Core
open GoValue GoStrings GoText GoURL

/-- Digits that spell a port. -/
structure PortText (digits : List UInt8) (n : Nat) : Prop where
  nonempty : digits ≠ []
  digit : ∀ b ∈ digits, isDigit b = true
  decimal_eq : decimal digits = n
  pos : 1 ≤ n
  le : n ≤ 65535

/-- The authority of a URL that consists of a host, with brackets where it is an IPv6 address,
and a port. -/
inductive Authority (host : List UInt8) (n : Nat) : List UInt8 → Prop where
  | plain {digits : List UInt8} (hport : PortText digits n) (hne : host ≠ [])
    (hcolon : ':'.toUInt8 ∉ host) (hbracket : '['.toUInt8 ∉ host) :
    Authority host n (host ++ ':'.toUInt8 :: digits)
  | bracketed {digits : List UInt8} (hport : PortText digits n) (hne : host ≠ []) :
    Authority host n ('['.toUInt8 :: host ++ [']'.toUInt8] ++ ':'.toUInt8 :: digits)

theorem PortText.colon {digits : List UInt8} {n : Nat} (h : PortText digits n) :
    ':'.toUInt8 ∉ digits := by
  intro hmem
  exact absurd (h.digit _ hmem) (by decide)

theorem PortText.atoi_eq {digits : List UInt8} {n : Nat} (h : PortText digits n) :
    atoi digits = n := by
  have hle := h.le
  rw [atoi_digits h.nonempty h.digit, h.decimal_eq]
  omega

theorem Authority.hostname {host h : List UInt8} {n : Nat} (hauthority : Authority host n h) :
    host ≠ [] ∧ (URL.splitHostPort h).1 = host ∧
      PortText (URL.splitHostPort h).2 n := by
  have hsplit (front : List UInt8) {digits : List UInt8} (hport : PortText digits n) :
      URL.splitHostPort (front ++ ':'.toUInt8 :: digits) =
        if front.head? = some '['.toUInt8 ∧ front.getLast? = some ']'.toUInt8 then
          (front.tail.dropLast, digits)
        else (front, digits) := by
    obtain ⟨hbefore, hafter⟩ := beforeLast_append_cons front hport.colon
    have hdigits : digits.all isDigit = true := List.all_eq_true.mpr hport.digit
    unfold URL.splitHostPort
    rw [hbefore, hafter, if_pos ⟨by simp, hdigits⟩]
  cases hauthority with
  | plain hport hne hcolon hbracket =>
    rw [hsplit host hport, if_neg fun h => hbracket (List.mem_of_mem_head? h.1)]
    exact ⟨hne, rfl, hport⟩
  | bracketed hport hne =>
    rw [hsplit _ hport, if_pos ⟨rfl, List.getLast?_concat⟩]
    refine ⟨hne, ?_, hport⟩
    simp

/-- The object of a configuration that names the server, with the keys of the host and the
port. -/
def serverObject (scheme : Scheme) (config : Object) : Option Object :=
  if scheme = .wireguard then
    ((config["peers"]?.bind Value.asList?).bind List.head?).bind Value.asMap?
  else some config

def serverKeys (scheme : Scheme) : String × String :=
  if scheme = .wireguard then ("address", "port") else ("server", "server_port")

/-- A result names a server and its port, inside and outside of its configuration. -/
structure AddressIs (scheme : Scheme) (result : ImportResult) (server : String) (port : Int) :
    Prop where
  server_eq : result.server = server
  port_eq : result.port = port
  config : ∃ config object, result.config.asMap? = some config ∧
    serverObject scheme config = some object ∧
      object[(serverKeys scheme).1]? = some (.str server) ∧
      object[(serverKeys scheme).2]? = some (.int port)

/-- The port that links of a scheme may leave out. -/
def Scheme.defaultPort : Scheme → Int
  | wireguard => 51820
  | tuic => 443
  | anytls => 443
  | shadowtls => 443
  | _ => 0

/-- What the importer takes for the server and the port of a link. -/
def serverOf (scheme : Scheme) (u : URL) : List UInt8 × Int :=
  if scheme = .ss then ssServer u else (u.hostname, portOr scheme.defaultPort u)

theorem portOr_zero (u : URL) : portOr 0 u = atoi u.port := by
  unfold portOr
  split_ifs with h
  · exact h.symm
  · rfl

theorem getElem?_serverConfig (type : String) (server : List UInt8) (port : Int) :
    (serverConfig type server port)["server"]? = some (.str (text server)) ∧
      (serverConfig type server port)["server_port"]? = some (.int port) := by
  constructor <;> simp only [serverConfig, mapOf, List.foldl_cons, List.foldl_nil,
    GoMap.getElem?_insert, String.reduceEq, if_true, if_false]

/-- A result whose configuration keeps the fields of its server. -/
theorem addressIs_linkResult {scheme : Scheme} (hscheme : scheme ≠ .wireguard) (u : URL)
    (name type : String) (server : List UInt8) (port : Int) {config : Object}
    (hserver : config["server"]? = some (.str (text server)))
    (hport : config["server_port"]? = some (.int port)) :
    AddressIs scheme (linkResult u name type server port config) (text server) port := by
  refine ⟨rfl, rfl, config, config, Value.asMap?_toValue config, ?_, ?_, ?_⟩
  · rw [serverObject, if_neg hscheme]
  · rw [serverKeys, if_neg hscheme]
    exact hserver
  · rw [serverKeys, if_neg hscheme]
    exact hport

/-- A scheme whose links always have to spell their port. -/
theorem serverOf_portless {scheme : Scheme} (hss : scheme ≠ .ss) (hdefault : scheme.defaultPort = 0)
    (u : URL) : serverOf scheme u = (u.hostname, atoi u.port) := by
  rw [serverOf, if_neg hss, hdefault, portOr_zero]

/-- Trojan and Hysteria2 links. -/
theorem addressIs_passwordResult {scheme : Scheme} (hscheme : scheme ≠ .wireguard) (u : URL)
    (name : String) :
    AddressIs scheme (passwordResult name u) (text u.hostname) (atoi u.port) := by
  apply addressIs_linkResult hscheme <;>
    simp only [GoMap.getElem?_insert, String.reduceEq, if_false, getElem?_serverConfig]

theorem getElem?_wireGuardPeer (u : URL) (port : Int) :
    (wireGuardPeer u port)["address"]? = some (.str (text u.hostname)) ∧
      (wireGuardPeer u port)["port"]? = some (.int port) := by
  constructor <;> simp only [wireGuardPeer, mapOf, List.foldl_cons, List.foldl_nil,
    GoMap.getElem?_insert, getElem?_setNonempty, String.reduceEq, false_and, if_true, if_false]

/-- Every accepted link names the server and the port it is taken for. -/
theorem addressIs_parseScheme {stx : LinkSyntax} {link : List UInt8} {u : URL} {scheme : Scheme}
    {result : ImportResult} (hvmess : scheme ≠ .vmess)
    (h : parseScheme stx link u scheme = .ok result) :
    AddressIs scheme result (text (serverOf scheme u).1) (serverOf scheme u).2 := by
  cases scheme with
  | vmess => exact absurd rfl hvmess
  | ss =>
    obtain rfl := parseSS_ok h
    apply addressIs_linkResult (by decide) <;>
      simp only [GoMap.getElem?_insert, String.reduceEq, if_false, getElem?_serverConfig]
  | trojan =>
    obtain rfl := Except.ok.inj h
    rw [serverOf_portless (by decide) rfl]
    exact addressIs_passwordResult (by decide) u "trojan"
  | ssr =>
    obtain rfl := Except.ok.inj h
    rw [serverOf_portless (by decide) rfl]
    apply addressIs_linkResult (by decide) <;> simp only [getElem?_serverConfig]
  | vless =>
    obtain rfl := Except.ok.inj h
    rw [serverOf_portless (by decide) rfl]
    apply addressIs_linkResult (by decide) <;> split_ifs <;>
      simp only [GoMap.getElem?_insert, getElem?_setNonempty, String.reduceEq, false_and,
        if_false, getElem?_serverConfig]
  | hysteria2 =>
    obtain rfl := Except.ok.inj h
    rw [serverOf_portless (by decide) rfl]
    exact addressIs_passwordResult (by decide) u "hysteria2"
  | wireguard =>
    rw [parseScheme, parseWireGuard] at h
    obtain ⟨-, rfl⟩ := ok_of_guard h
    refine ⟨rfl, rfl, _, wireGuardPeer u (portOr 51820 u), Value.asMap?_toValue _, ?_,
      (getElem?_wireGuardPeer u _).1, (getElem?_wireGuardPeer u _).2⟩
    rw [serverObject, if_pos rfl, (getElem?_wireGuardConfig u _ _).2]
    exact Value.asMap?_toValue _
  | tuic =>
    rw [parseScheme, parseTUIC] at h
    obtain ⟨-, rfl⟩ := ok_of_guard h
    apply addressIs_linkResult (by decide) <;>
      simp only [GoMap.getElem?_insert, getElem?_setNonempty, String.reduceEq, false_and,
        if_false, getElem?_serverConfig]
  | anytls =>
    rw [parseScheme, parseAnyTLS] at h
    obtain ⟨-, rfl⟩ := ok_of_guard h
    apply addressIs_linkResult (by decide) <;>
      simp only [GoMap.getElem?_insert, String.reduceEq, if_false, getElem?_serverConfig]
  | shadowtls =>
    rw [parseScheme, parseShadowTLS] at h
    obtain ⟨-, rfl⟩ := ok_of_guard h
    apply addressIs_linkResult (by decide) <;>
      simp only [GoMap.getElem?_insert, String.reduceEq, if_false, getElem?_serverConfig]

/-- The host and the port of the link are those of the result, and there are both. -/
structure ServerSurvives (scheme : Scheme) (u : URL) (result : ImportResult) : Prop where
  exact : ∀ host n, Authority host n u.host → AddressIs scheme result (text host) n
  server : result.server ≠ ""
  port : 1 ≤ result.port ∧ result.port ≤ 65535

/-- The result names the host of the link and the port it spells, or else the usual one of the
scheme, and neither is checked. -/
structure ServerKept (scheme : Scheme) (u : URL) (result : ImportResult) : Prop where
  exact : ∀ host n, Authority host n u.host → AddressIs scheme result (text host) n
  address : AddressIs scheme result (text u.hostname) (portOr scheme.defaultPort u)
  server : result.server ≠ "" ↔ u.hostname ≠ []
  port : 1 ≤ result.port ∧ result.port ≤ 65535 ↔
    1 ≤ atoi u.port ∧ atoi u.port ≤ 65535 ∨ atoi u.port = 0 ∧ scheme.defaultPort ≠ 0

theorem defaultPort_spec (scheme : Scheme) :
    0 ≤ scheme.defaultPort ∧ scheme.defaultPort ≤ 65535 := by
  cases scheme <;> decide

theorem defaultPort_ss : Scheme.defaultPort .ss = 0 := rfl

theorem before_after {sep : UInt8} {s : List UInt8} (h : sep ∈ s) :
    s = before sep s ++ sep :: after sep s := by
  induction s with
  | nil => cases h
  | cons b s ih =>
    by_cases hb : b = sep
    · subst hb
      simp [before, after]
    · have hrest := ih ((List.mem_cons.mp h).resolve_left (Ne.symm hb))
      have hbefore : before sep (b :: s) = b :: before sep s := by
        simp [before, hb]
      have hafter : after sep (b :: s) = after sep s := by
        simp [after, hb]
      rw [hbefore, hafter, List.cons_append, ← hrest]

theorem portOr_authority {host : List UInt8} {n : Nat} {u : URL} (default : Int)
    (h : Authority host n u.host) : portOr default u = n := by
  obtain ⟨-, -, htext⟩ := h.hostname
  have hatoi : atoi u.port = n := htext.atoi_eq
  have hpos := htext.pos
  rw [portOr, hatoi, if_neg (by omega)]

/-- Only a Shadowsocks link whose host has a colon is not taken at its word. -/
theorem serverOf_eq {scheme : Scheme} {u : URL} (h : scheme = .ss → ':'.toUInt8 ∉ u.hostname) :
    serverOf scheme u = (u.hostname, portOr scheme.defaultPort u) := by
  unfold serverOf
  split_ifs with hss
  · subst hss
    rw [ssServer, if_neg (h rfl), defaultPort_ss, portOr_zero]
  · rfl

/-- A Shadowsocks link to a host with a colon names a part of it only. -/
theorem parseSS_colon {stx : LinkSyntax} {link : List UInt8} {u : URL} {result : ImportResult}
    {host : List UInt8} {n : Nat} (hok : parseScheme stx link u .ss = .ok result)
    (hcolon : ':'.toUInt8 ∈ u.hostname) (hauthority : Authority host n u.host) :
    ¬AddressIs .ss result (text host) n := by
  intro h
  have hserver : serverOf .ss u = (before ':'.toUInt8 u.hostname,
      atoi (after ':'.toUInt8 u.hostname)) := by
    rw [serverOf, if_pos rfl, ssServer, if_pos hcolon]
  have haddress := addressIs_parseScheme (by decide) hok
  have hhost : u.hostname = host := hauthority.hostname.2.1
  have hexact := h.server_eq
  rw [haddress.server_eq, hserver, ← hhost] at hexact
  conv_rhs at hexact => rw [before_after hcolon]
  exact text_ne_text_append_cons _ _ (by decide) hexact

/-- Accepted links keep their host and their port, Shadowsocks links to a host with a colon
apart. -/
theorem servers_kept {stx : LinkSyntax} {link : List UInt8} {u : URL} {scheme : Scheme}
    {result : ImportResult} (hparse : parse stx.ipv6 link = some u)
    (hscheme : Scheme.ofName u.scheme = some scheme) (hvmess : scheme ≠ .vmess)
    (hok : parseProxyLink stx link = .ok result)
    (hcolon : scheme = .ss → ':'.toUInt8 ∉ u.hostname) : ServerKept scheme u result := by
  rw [parseProxyLink_eq hparse hscheme] at hok
  have haddress := addressIs_parseScheme hvmess hok
  rw [serverOf_eq hcolon] at haddress
  refine ⟨fun host n hauthority => ?_, haddress, ?_, ?_⟩
  · have hhost : u.hostname = host := hauthority.hostname.2.1
    rw [← hhost, ← portOr_authority scheme.defaultPort hauthority]
    exact haddress
  · rw [haddress.server_eq, ne_eq, text_eq_empty_iff]
  · have hdefault := defaultPort_spec scheme
    rw [haddress.port_eq]
    unfold portOr
    split_ifs with hzero <;> omega

/-- A TUIC link to an IPv6 address with a port. -/
def ipv6Link : List UInt8 := bytes "tuic://user@[::1]:8443"

def ipv6URL : URL := ⟨bytes "tuic", some ⟨bytes "user", none⟩, bytes "[::1]:8443", [], []⟩

theorem parse_ipv6Link : parse sampleSyntax.ipv6 ipv6Link = some ipv6URL := rfl

theorem ipv6Server_kept : ∃ result, parseProxyLink sampleSyntax ipv6Link = .ok result ∧
    AddressIs .tuic result "::1" 8443 := by
  have hok : ∃ result, parseProxyLink sampleSyntax ipv6Link = .ok result :=
    ⟨_, parseProxyLink_eq parse_ipv6Link rfl⟩
  obtain ⟨result, hok⟩ := hok
  have hport : PortText (bytes "8443") 8443 :=
    ⟨by decide, List.all_eq_true.mp rfl, rfl, by omega, by omega⟩
  have hkept : ServerKept .tuic ipv6URL result :=
    servers_kept parse_ipv6Link (by decide) (by decide) hok fun h => by cases h
  have haddress := hkept.exact (bytes "::1") 8443 (.bracketed hport (by decide))
  rw [text_bytes] at haddress
  exact ⟨result, hok, haddress⟩

/-- A Shadowsocks link without a port. -/
def noPortLink : List UInt8 := bytes "ss://aes-256-gcm:pass@server.example.com#no-port"

def noPortURL : URL :=
  ⟨bytes "ss", some ⟨bytes "aes-256-gcm", some (bytes "pass")⟩, bytes "server.example.com", [],
    bytes "no-port"⟩

theorem parse_noPortLink : parse sampleSyntax.ipv6 noPortLink = some noPortURL := rfl

theorem parseProxyLink_noPortLink : parseProxyLink sampleSyntax noPortLink =
    parseScheme sampleSyntax noPortLink noPortURL .ss :=
  parseProxyLink_eq parse_noPortLink (by decide)

/-- Its port is 0. -/
theorem noPort_zero : ¬∀ (link : List UInt8) (u : URL) (scheme : Scheme)
    (result : ImportResult), parse sampleSyntax.ipv6 link = some u →
      Scheme.ofName u.scheme = some scheme → scheme ≠ .vmess →
        parseProxyLink sampleSyntax link = .ok result → ServerSurvives scheme u result := by
  intro h
  have hok : ∃ result, parseProxyLink sampleSyntax noPortLink = .ok result :=
    ⟨_, parseProxyLink_noPortLink⟩
  obtain ⟨result, hok⟩ := hok
  have hsurvives := h noPortLink noPortURL .ss result parse_noPortLink (by decide)
    (by decide) hok
  rw [parseProxyLink_noPortLink] at hok
  have haddress := addressIs_parseScheme (by decide) hok
  have hzero : (serverOf .ss noPortURL).2 = 0 := by decide
  have hport := hsurvives.port
  rw [haddress.port_eq, hzero] at hport
  omega

end Boxui.Core
