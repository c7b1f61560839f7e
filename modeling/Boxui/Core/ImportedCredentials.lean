import Boxui.Core.Importer

/-! Which credentials come out of a link as they went into it. -/
namespace Boxui.Core
open GoValue GoStrings GoText GoURL

@[simp] theorem getElem?_setNonempty (k k' : String) (s : List UInt8) (m : Object) :
    (setNonempty k s m)[k']? = if k = k' ∧ s ≠ [] then some (.str (text s)) else m[k']? := by
  unfold setNonempty
  by_cases hs : s = []
  · simp [hs]
  · by_cases hk : k = k' <;> simp [hs, hk]

theorem getElem?_wireGuardConfig (u : URL) (privateKey : List UInt8) (port : Int) :
    (wireGuardConfig u privateKey port)["private_key"]? = some (.str (text privateKey)) ∧
      (wireGuardConfig u privateKey port)["peers"]? =
        some (.list [Object.toValue (wireGuardPeer u port)]) := by
  unfold wireGuardConfig
  generalize (if u.get "address" = [] then bytes "10.0.0.2/32" else u.get "address") = address
  dsimp only
  constructor <;> split_ifs <;> simp only [mapOf, List.foldl_cons, List.foldl_nil,
    GoMap.getElem?_insert, String.reduceEq, if_true, if_false]

/-- What a link carries in its user-info. -/
inductive Credentials where
  | one (c : String)
  | two (user password : String)
  deriving DecidableEq

namespace Credentials

def userinfo : Credentials → Userinfo
  | one c => ⟨bytes c, none⟩
  | two user password => ⟨bytes user, some (bytes password)⟩

def values : Credentials → List String
  | one c => [c]
  | two user password => [user, password]

/-- The user-info with every byte of the credentials escaped. -/
def encoded : Credentials → List UInt8
  | one c => percentEncode (bytes c)
  | two user password =>
    percentEncode (bytes user) ++ ':'.toUInt8 :: percentEncode (bytes password)

end Credentials

namespace Scheme

/-- The fields of a configuration that hold the credentials of the link. -/
def credentialFields : Scheme → List String
  | vmess => []
  | ss => ["method", "password"]
  | trojan => ["password"]
  | ssr => []
  | vless => ["uuid"]
  | hysteria2 => ["password"]
  | wireguard => ["private_key"]
  | tuic => ["uuid", "password"]
  | anytls => ["password"]
  | shadowtls => ["password"]

end Scheme

/-- A link that `net/url` reads with these credentials, as many as its scheme takes. -/
structure CredentialLink (stx : LinkSyntax) (scheme : Scheme) (creds : Credentials)
    (link : List UInt8) : Prop where
  fields : scheme.credentialFields.length = creds.values.length
  url : ∃ u, parse stx.ipv6 link = some u ∧ Scheme.ofName u.scheme = some scheme ∧
    u.user = some creds.userinfo

/-- The link is accepted, and its credentials are in their fields. -/
def CredentialsSurvive (stx : LinkSyntax) (scheme : Scheme) (creds : Credentials)
    (link : List UInt8) : Prop :=
  ∃ result config, parseProxyLink stx link = .ok result ∧ result.config.asMap? = some config ∧
    scheme.credentialFields.map (fun k => config[k]?) =
      creds.values.map fun c => some (.str c)

/-- A single credential of bytes that `Userinfo.String` does not escape, or a pair; a TUIC link
has to name its user. -/
def Unescaped (scheme : Scheme) : Credentials → Prop
  | .one c => ∀ b ∈ bytes c, shouldEscape .userPassword b = false
  | .two user _ => scheme = .tuic → user ≠ ""

theorem parseProxyLink_eq {stx : LinkSyntax} {link : List UInt8} {u : URL} {scheme : Scheme}
    (hparse : parse stx.ipv6 link = some u) (hscheme : Scheme.ofName u.scheme = some scheme) :
    parseProxyLink stx link = parseScheme stx link u scheme := by
  rw [parseProxyLink, hparse]
  dsimp only
  rw [hscheme]

/-- What is printed of a single credential is the credential where nothing in it is escaped. -/
theorem text_escape_eq_iff (c : String) : text (escape .userPassword (bytes c)) = c ↔
    ∀ b ∈ bytes c, shouldEscape .userPassword b = false := by
  rw [← escape_eq_self_iff]
  constructor
  · intro h
    have hbytes := congrArg bytes h
    rwa [bytes_text fun b hb => lt_of_mem_escape hb] at hbytes
  · intro h
    rw [h, text_bytes]

section accepted

variable (stx : LinkSyntax) (link : List UInt8) (u : URL)

/-- A single credential is what `Userinfo.String` prints. -/
theorem parseScheme_one {scheme : Scheme} {k : String} (hfields : scheme.credentialFields = [k])
    (hne : Userinfo.spelled u.user ≠ []) : ∃ result config,
      parseScheme stx link u scheme = .ok result ∧ result.config.asMap? = some config ∧
        config[k]? = some (.str (text (Userinfo.spelled u.user))) := by
  cases scheme with
  | vmess => cases hfields
  | ss => cases hfields
  | ssr => cases hfields
  | tuic => cases hfields
  | trojan =>
    cases hfields
    refine ⟨_, _, rfl, Value.asMap?_toValue _, ?_⟩
    simp only [GoMap.getElem?_insert, if_true]
  | hysteria2 =>
    cases hfields
    refine ⟨_, _, rfl, Value.asMap?_toValue _, ?_⟩
    simp only [GoMap.getElem?_insert, if_true]
  | vless =>
    cases hfields
    refine ⟨_, _, rfl, Value.asMap?_toValue _, ?_⟩
    rw [getElem?_setNonempty, if_neg (by simp)]
    split_ifs <;> simp only [GoMap.getElem?_insert, getElem?_setNonempty, String.reduceEq,
      false_and, if_true, if_false]
  | wireguard =>
    cases hfields
    refine ⟨_, _, if_neg hne, Value.asMap?_toValue _, ?_⟩
    exact (getElem?_wireGuardConfig u _ _).1
  | anytls =>
    cases hfields
    refine ⟨_, _, if_neg hne, Value.asMap?_toValue _, ?_⟩
    simp only [GoMap.getElem?_insert, String.reduceEq, if_true, if_false]
  | shadowtls =>
    cases hfields
    refine ⟨_, _, if_neg hne, Value.asMap?_toValue _, ?_⟩
    simp only [GoMap.getElem?_insert, String.reduceEq, if_true, if_false]

theorem parseSS_credentials {user : Userinfo} (huser : u.user = some user) : ∃ result config,
    parseSS u = .ok result ∧ result.config.asMap? = some config ∧
      config["method"]? = some (.str (text user.username)) ∧
      config["password"]? = some (.str (text (user.password.getD []))) := by
  unfold parseSS
  rw [huser]
  refine ⟨_, _, rfl, Value.asMap?_toValue _, ?_, ?_⟩ <;>
    simp only [GoMap.getElem?_insert, String.reduceEq, if_true, if_false]
  · rfl
  · rfl

theorem parseTUIC_credentials {user : Userinfo} (huser : u.user = some user)
    (hne : user.username ≠ []) : ∃ result config,
      parseTUIC u = .ok result ∧ result.config.asMap? = some config ∧
        config["uuid"]? = some (.str (text user.username)) ∧
        config["password"]? = some (.str (text (user.password.getD []))) := by
  unfold parseTUIC
  rw [huser]
  refine ⟨_, _, if_neg hne, Value.asMap?_toValue _, ?_, ?_⟩ <;>
    simp only [GoMap.getElem?_insert, getElem?_setNonempty, String.reduceEq, false_and, if_true,
      if_false]
  · rfl
  · rfl

end accepted

namespace Scheme

def name : Scheme → String
  | vmess => "vmess"
  | ss => "ss"
  | trojan => "trojan"
  | ssr => "ssr"
  | vless => "vless"
  | hysteria2 => "hysteria2"
  | wireguard => "wireguard"
  | tuic => "tuic"
  | anytls => "anytls"
  | shadowtls => "shadowtls"

theorem isScheme_name (scheme : Scheme) : isScheme (bytes scheme.name) = true := by
  cases scheme <;> decide

theorem ofName_name (scheme : Scheme) : ofName (bytes scheme.name) = some scheme := by
  cases scheme <;> decide

end Scheme

/-- A link with every byte of its credentials escaped. -/
def credentialLink (scheme : Scheme) (creds : Credentials) : List UInt8 :=
  bytes scheme.name ++ bytes "://" ++ (creds.encoded ++ '@'.toUInt8 :: bytes "example.com:443")

theorem parseUserinfo_encoded (creds : Credentials) :
    parseUserinfo creds.encoded = some creds.userinfo := by
  cases creds with
  | one c => exact parseUserinfo_percentEncode _
  | two user password => exact parseUserinfo_percentEncode_append _ _

theorem isPlain_encoded (creds : Credentials) : ∀ b ∈ creds.encoded, isPlain b = true := by
  have hplain {s : List UInt8} {b : UInt8} (hb : b ∈ percentEncode s) : isPlain b = true :=
    (encoded_spec b (isEncoded_of_mem hb)).1
  intro b hb
  cases creds with
  | one c => exact hplain hb
  | two user password =>
    rw [Credentials.encoded, List.mem_append, List.mem_cons] at hb
    rcases hb with hb | rfl | hb
    · exact hplain hb
    · decide
    · exact hplain hb

theorem credentialLink_spec (stx : LinkSyntax) {scheme : Scheme} {creds : Credentials}
    (h : scheme.credentialFields.length = creds.values.length) :
    CredentialLink stx scheme creds (credentialLink scheme creds) := by
  refine ⟨h, ⟨bytes scheme.name, some creds.userinfo, bytes "example.com:443", [], []⟩, ?_,
    scheme.ofName_name, rfl⟩
  have hhost : parseHost stx.ipv6 (bytes scheme.name) (bytes "example.com:443") =
      some (bytes "example.com:443") := by
    cases scheme <;> rfl
  rw [credentialLink, parse_authority stx.ipv6 scheme.isScheme_name,
    parseAuthority_append _ _ _ (by decide), hhost, Option.bind_some, parseUserinfo_encoded]
  · rfl
  · intro b hb
    rw [List.mem_append, List.mem_cons] at hb
    rcases hb with hb | rfl | hb
    · exact isPlain_encoded creds b hb
    · decide
    · have hall : (bytes "example.com:443").all isPlain = true := by decide
      exact List.all_eq_true.mp hall b hb

theorem credentialsSurvive_iff_of_ok {stx : LinkSyntax} {scheme : Scheme} {creds : Credentials}
    {link : List UInt8} {result : ImportResult} {config : Object}
    (h : parseProxyLink stx link = .ok result) (hconfig : result.config.asMap? = some config) :
    CredentialsSurvive stx scheme creds link ↔
      scheme.credentialFields.map (fun k => config[k]?) =
        creds.values.map fun c => some (.str c) := by
  constructor
  · rintro ⟨result', config', hok, hmap, hfields⟩
    rw [h] at hok
    obtain rfl := Except.ok.inj hok
    rw [hconfig] at hmap
    obtain rfl := Option.some.inj hmap
    exact hfields
  · exact fun hfields => ⟨result, config, h, hconfig, hfields⟩

theorem one_survives_iff {stx : LinkSyntax} {scheme : Scheme} {c : String} {link : List UInt8}
    (h : CredentialLink stx scheme (.one c) link) (hc : c ≠ "") :
    CredentialsSurvive stx scheme (.one c) link ↔ Unescaped scheme (.one c) := by
  obtain ⟨hlength, u, hparse, hscheme, huser⟩ := h
  obtain ⟨k, hfields⟩ := List.length_eq_one_iff.mp hlength
  have hspelled : Userinfo.spelled u.user = escape .userPassword (bytes c) := by
    rw [huser]
    exact List.append_nil _
  have hne : Userinfo.spelled u.user ≠ [] := by
    rw [hspelled]
    intro hnil
    have hle := length_le_escape (bytes c)
    rw [hnil, List.length_nil] at hle
    exact bytes_ne_nil hc (List.eq_nil_of_length_eq_zero (Nat.le_zero.mp hle))
  obtain ⟨result, config, hok, hconfig, hk⟩ := parseScheme_one stx link u hfields hne
  rw [credentialsSurvive_iff_of_ok ((parseProxyLink_eq hparse hscheme).trans hok) hconfig, hfields]
  simp only [List.map_cons, List.map_nil, hk, hspelled, Credentials.values, List.cons.injEq,
    Option.some_inj, Value.str.injEq, and_true]
  exact text_escape_eq_iff c

theorem two_survives_iff {stx : LinkSyntax} {scheme : Scheme} {user password : String}
    {link : List UInt8} (h : CredentialLink stx scheme (.two user password) link) :
    CredentialsSurvive stx scheme (.two user password) link ↔
      Unescaped scheme (.two user password) := by
  obtain ⟨hlength, u, hparse, hscheme, huser⟩ := h
  have hlink := parseProxyLink_eq hparse hscheme
  cases scheme with
  | ss =>
    obtain ⟨result, config, hok, hconfig, hmethod, hpassword⟩ := parseSS_credentials u huser
    rw [credentialsSurvive_iff_of_ok (hlink.trans hok) hconfig]
    simp [Scheme.credentialFields, hmethod, hpassword, Credentials.values, Credentials.userinfo,
      Unescaped]
  | tuic =>
    by_cases hempty : user = ""
    · have herror : parseTUIC u = .error "missing uuid in tuic link" := by
        unfold parseTUIC
        rw [huser, hempty]
        rfl
      refine iff_of_false ?_ fun h => h rfl hempty
      rintro ⟨result, config, hok, -⟩
      rw [hlink, parseScheme, herror] at hok
      cases hok
    · have hne : (Credentials.two user password).userinfo.username ≠ [] := bytes_ne_nil hempty
      obtain ⟨result, config, hok, hconfig, huuid, hpassword⟩ :=
        parseTUIC_credentials u huser hne
      rw [credentialsSurvive_iff_of_ok (hlink.trans hok) hconfig]
      simp [Scheme.credentialFields, huuid, hpassword, Credentials.values, Credentials.userinfo,
        Unescaped, hempty]
  | _ => cases hlength

/-- The credentials that links of a scheme can carry survive exactly where `Unescaped` says so,
in whichever way the link escapes them. -/
theorem credentials_survive_iff (stx : LinkSyntax) {scheme : Scheme} {creds : Credentials}
    (hfields : scheme.credentialFields.length = creds.values.length) (hne : creds ≠ .one "") :
    (∃ link, CredentialLink stx scheme creds link) ∧
      ∀ link, CredentialLink stx scheme creds link →
        (CredentialsSurvive stx scheme creds link ↔ Unescaped scheme creds) := by
  refine ⟨⟨credentialLink scheme creds, credentialLink_spec stx hfields⟩, fun link h => ?_⟩
  cases creds with
  | one c => exact one_survives_iff h fun hc => hne (congrArg _ hc)
  | two user password => exact two_survives_iff h

/-- The libraries on the links of the examples, where the only address is the loopback one. -/
def sampleSyntax : LinkSyntax where
  ipv6 s := s == bytes "::1"
  base64 _ := none
  base64URL _ := none
  json _ := none

theorem trojanLink_credential : CredentialLink sampleSyntax .trojan (.one "p@ss")
    (bytes "trojan://p%40ss@example.com:443") := by
  refine ⟨rfl, ⟨bytes "trojan", some ⟨bytes "p@ss", none⟩, bytes "example.com:443", [], []⟩, ?_,
    by decide, rfl⟩
  rfl

/-- The password "p@ss" of a trojan link comes out as "p%40ss". -/
theorem trojanPassword_lost : ¬∀ (scheme : Scheme) (creds : Credentials) (link : List UInt8),
    creds ≠ .one "" → CredentialLink sampleSyntax scheme creds link →
      CredentialsSurvive sampleSyntax scheme creds link := by
  intro h
  have hsurvives := h .trojan (.one "p@ss") _ (by decide) trojanLink_credential
  rw [one_survives_iff trojanLink_credential (by decide)] at hsurvives
  exact absurd (hsurvives '@'.toUInt8 (by decide)) (by decide)

/-- A TUIC link carries a pair with any characters. -/
theorem tuicCredentials_survive : CredentialsSurvive sampleSyntax .tuic (.two "a:b" "c d/é")
    (credentialLink .tuic (.two "a:b" "c d/é")) := by
  have hlink : CredentialLink sampleSyntax .tuic (.two "a:b" "c d/é")
      (credentialLink .tuic (.two "a:b" "c d/é")) := credentialLink_spec sampleSyntax rfl
  have hiff := (credentials_survive_iff sampleSyntax hlink.fields (by decide)).2 _ hlink
  exact hiff.mpr fun _ => by decide

end Boxui.Core
