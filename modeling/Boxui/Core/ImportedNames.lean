import Boxui.Core.ImportedCredentials
import Boxui.Core.Stores

/-! Which names come out of the fragment of a link, and in which entries of the store. -/
namespace Boxui.Core
open GoValue GoStrings GoText GoURL

/-- A link that `net/url` reads with this name for its fragment. -/
def NamedLink (stx : LinkSyntax) (scheme : Scheme) (name : String) (link : List UInt8) : Prop :=
  ∃ u, parse stx.ipv6 link = some u ∧ Scheme.ofName u.scheme = some scheme ∧
    u.fragment = bytes name

/-- What the importer makes of a link with this name. -/
def ImportedNamed (stx : LinkSyntax) (name : String) (result : ImportResult) : Prop :=
  ∃ scheme link, scheme ≠ .vmess ∧ NamedLink stx scheme name link ∧
    parseProxyLink stx link = .ok result

/-- A name that unescaping fails on, or leaves alone. -/
def Undecoded (name : String) : Prop :=
  Malformed (bytes name) ∨ '%'.toUInt8 ∉ bytes name ∧ '+'.toUInt8 ∉ bytes name

theorem namedLink_append {stx : LinkSyntax} {scheme : Scheme} {base : List UInt8} {u : URL}
    (hbase : '#'.toUInt8 ∉ base) (hparse : parse stx.ipv6 base = some u)
    (hscheme : Scheme.ofName u.scheme = some scheme) (name : String) :
    NamedLink stx scheme name (base ++ '#'.toUInt8 :: percentEncode (bytes name)) :=
  ⟨_, parse_fragment hbase hparse _, hscheme, rfl⟩

/-- Adding both nodes leaves both in the store, each under its own tag. -/
def StoredApart (result result' : ImportResult) : Prop :=
  ∀ db db₁ db₂, NodeManager.add (importedOutbound result) db = .ok db₁ →
    NodeManager.add (importedOutbound result') db₁ = .ok db₂ →
      NodeManager.get result.tag db₂ = some (storedOutbound (importedOutbound result)) ∧
        NodeManager.get result'.tag db₂ = some (storedOutbound (importedOutbound result'))

theorem storedApart_of_tag_ne {result result' : ImportResult} (h : result.tag ≠ result'.tag) :
    StoredApart result result' := by
  intro db db₁ db₂ hadd hadd'
  have htag : (importedOutbound result).tag = result.tag := rfl
  have htag' : (importedOutbound result').tag = result'.tag := rfl
  rw [NodeManager.get_add hadd', NodeManager.get_add hadd', NodeManager.get_add hadd, htag, htag',
    if_neg (Ne.symm h), if_pos rfl, if_pos rfl]
  exact ⟨rfl, rfl⟩

/-- Every scheme names its node the same way. -/
theorem tag_parseScheme {stx : LinkSyntax} {link : List UInt8} {u : URL} {scheme : Scheme}
    {result : ImportResult} (hvmess : scheme ≠ .vmess)
    (h : parseScheme stx link u scheme = .ok result) :
    ∃ fallback, result.tag = text (nodeName u fallback) := by
  cases scheme with
  | vmess => exact absurd rfl hvmess
  | ss =>
    obtain rfl := parseSS_ok h
    exact ⟨_, rfl⟩
  | trojan =>
    obtain rfl := Except.ok.inj h
    exact ⟨_, rfl⟩
  | ssr =>
    obtain rfl := Except.ok.inj h
    exact ⟨_, rfl⟩
  | vless =>
    obtain rfl := Except.ok.inj h
    exact ⟨_, rfl⟩
  | hysteria2 =>
    obtain rfl := Except.ok.inj h
    exact ⟨_, rfl⟩
  | wireguard =>
    rw [parseScheme, parseWireGuard] at h
    obtain ⟨-, rfl⟩ := ok_of_guard h
    exact ⟨_, rfl⟩
  | tuic =>
    rw [parseScheme, parseTUIC] at h
    obtain ⟨-, rfl⟩ := ok_of_guard h
    exact ⟨_, rfl⟩
  | anytls =>
    rw [parseScheme, parseAnyTLS] at h
    obtain ⟨-, rfl⟩ := ok_of_guard h
    exact ⟨_, rfl⟩
  | shadowtls =>
    rw [parseScheme, parseShadowTLS] at h
    obtain ⟨-, rfl⟩ := ok_of_guard h
    exact ⟨_, rfl⟩

/-- The fragment is the name where unescaping it fails or leaves it alone. -/
theorem text_nodeName_eq_iff {u : URL} {name : String} (hne : name ≠ "")
    (hfragment : u.fragment = bytes name) (fallback : List UInt8) :
    text (nodeName u fallback) = name ↔ Undecoded name := by
  have hbytes := bytes_ne_nil hne
  unfold nodeName Undecoded
  rw [hfragment, if_pos hbytes, ← unescape_queryComponent_eq_none_iff]
  cases hdecoded : unescape .queryComponent (bytes name) with
  | none => simp
  | some decoded =>
    have hsome : decoded ≠ [] := by
      rintro rfl
      exact hbytes (unescape_eq_nil hdecoded)
    dsimp only
    rw [if_pos hsome, ← text_unescape_eq_iff hdecoded, text_bytes]
    simp

theorem tag_eq_iff {stx : LinkSyntax} {name : String} {result : ImportResult} (hne : name ≠ "")
    (h : ImportedNamed stx name result) : result.tag = name ↔ Undecoded name := by
  obtain ⟨scheme, link, hvmess, ⟨u, hparse, hscheme, hfragment⟩, hok⟩ := h
  rw [parseProxyLink_eq hparse hscheme] at hok
  obtain ⟨fallback, htag⟩ := tag_parseScheme hvmess hok
  rw [htag]
  exact text_nodeName_eq_iff hne hfragment fallback

/-- Names survive exactly where unescaping fails or leaves them alone, in whichever way the link
escapes them, and different names of that kind are different nodes of the store. -/
theorem names_survive_iff (stx : LinkSyntax) :
    (∀ scheme base u name, '#'.toUInt8 ∉ base → parse stx.ipv6 base = some u →
      Scheme.ofName u.scheme = some scheme →
        NamedLink stx scheme name (base ++ '#'.toUInt8 :: percentEncode (bytes name))) ∧
    (∀ name result, name ≠ "" → ImportedNamed stx name result →
      (result.tag = name ↔ Undecoded name)) ∧
    ∀ name name' result result', name ≠ "" → name' ≠ "" → name ≠ name' →
      Undecoded name → Undecoded name' → ImportedNamed stx name result →
        ImportedNamed stx name' result' → StoredApart result result' := by
  refine ⟨fun scheme base u name hbase hparse hscheme => namedLink_append hbase hparse hscheme name,
    fun name result hne himport => tag_eq_iff hne himport, ?_⟩
  intro name name' result result' hne hne' hdiff hname hname' himport himport'
  apply storedApart_of_tag_ne
  rw [(tag_eq_iff hne himport).mpr hname, (tag_eq_iff hne' himport').mpr hname']
  exact hdiff

theorem parse_trojanBase : parse sampleSyntax.ipv6 (bytes "trojan://pw@example.com:443") =
    some ⟨bytes "trojan", some ⟨bytes "pw", none⟩, bytes "example.com:443", [], []⟩ := rfl

/-- A trojan link with a name. -/
def namedTrojanLink (name : String) : List UInt8 :=
  bytes "trojan://pw@example.com:443" ++ '#'.toUInt8 :: percentEncode (bytes name)

theorem importedNamed_trojan (name : String) : ∃ result,
    parseProxyLink sampleSyntax (namedTrojanLink name) = .ok result ∧
      ImportedNamed sampleSyntax name result := by
  have hlink : NamedLink sampleSyntax .trojan name (namedTrojanLink name) :=
    namedLink_append (by decide) parse_trojanBase (by decide) name
  obtain ⟨u, hparse, hscheme, hfragment⟩ := hlink
  have hok := parseProxyLink_eq hparse hscheme
  exact ⟨_, hok, .trojan, _, by decide, ⟨u, hparse, hscheme, hfragment⟩, hok⟩

theorem hongKong_named : ∃ result,
    parseProxyLink sampleSyntax (namedTrojanLink "香港 1") = .ok result ∧
      result.tag = "香港 1" := by
  obtain ⟨result, hok, himport⟩ := importedNamed_trojan "香港 1"
  refine ⟨result, hok, ?_⟩
  exact ((names_survive_iff sampleSyntax).2.1 _ result (by decide) himport).mpr
    (.inr (by decide))

/-- The name "a+b" comes out as "a b". -/
theorem plusName_lost : ¬∀ name result, name ≠ "" → ImportedNamed sampleSyntax name result →
    result.tag = name := by
  intro h
  obtain ⟨result, -, himport⟩ := importedNamed_trojan "a+b"
  have hname : Undecoded "a+b" :=
    (tag_eq_iff (by decide) himport).mp (h "a+b" result (by decide) himport)
  rcases hname with ⟨x, y, heq, -⟩ | ⟨-, hplus⟩
  · have hmem : '%'.toUInt8 ∈ bytes "a+b" := by
      rw [heq]
      simp
    exact absurd hmem (by decide)
  · exact absurd hplus (by decide)

end Boxui.Core
