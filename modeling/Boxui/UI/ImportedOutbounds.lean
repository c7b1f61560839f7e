import Boxui.Core.ImportedCredentials
import Boxui.UI.OutboundForm

/-! Which imported configurations the form of the outbounds knows. -/
namespace Boxui.UI
open GoValue GoStrings GoText GoURL ObjectPath OutboundForm Boxui.Core

/-- A value has the kind of a field and is one of its options; `networks` are the networks there
are, any string for `matchesField` and "tcp" and "udp" for the switches of the form. -/
structure Fits (networks : String → Prop) (field : FieldSpec) (value : Value) : Prop where
  kind : matchesField value field = true
  option : field.kind = .select → ∃ s ∈ field.options, value = .str s
  network : field.kind = .networkMulti → ∀ s, value = .str s ∨ s ∈ value.strings → networks s

/-- The paths that every outbound with a server has. -/
def serverPaths : List (List String) := [["type"], ["server"], ["server_port"]]

/-- A leaf is a field of the form, or a part of one that is an object. -/
def Known (networks : String → Prop) (fields : List FieldSpec) (path : List String)
    (value : Value) : Prop :=
  path ∈ serverPaths ∨ (∃ field ∈ fields, field.path = path ∧ Fits networks field value) ∨
    ∃ field ∈ fields, field.kind = .jsonObject ∧ field.path <+: path ∧ field.path ≠ path

/-- The form knows every leaf of a configuration. -/
def Conforms (networks : String → Prop) (type : String) (config : Value) : Prop :=
  EveryLeaf (Known networks (managedOutboundFields type (transportType config))) config

/-- Every leaf of a field is known. -/
def Below (networks : String → Prop) (fields : List FieldSpec) (outer : List String) (k : String)
    (value : Value) : Prop :=
  EveryLeaf (fun path => Known networks fields (outer ++ k :: path)) value

/-- The configuration of an outbound without a transport. -/
theorem conforms_toValue (networks : String → Prop) (type : String) {m : Object}
    (h : m["transport"]? = none) : Conforms networks type m.toValue ↔
      EveryField (Below networks (managedOutboundFields type "") []) m := by
  have htransport : transportType m.toValue = "" := by
    rw [transportType, getPath_toValue_cons, h]
    rfl
  rw [Conforms, htransport, everyLeaf_toValue]
  rfl

theorem below_toValue (networks : String → Prop) (fields : List FieldSpec) (outer : List String)
    (k : String) (m : Object) : Below networks fields outer k m.toValue ↔
      EveryField (Below networks fields (outer ++ [k])) m := by
  rw [Below, everyLeaf_toValue]
  unfold Below
  simp only [List.append_assoc, List.singleton_append]

theorem below_leaf {networks : String → Prop} {fields : List FieldSpec} {outer : List String}
    {k : String} {value : Value} (h : value.asMap? = none) :
    Below networks fields outer k value ↔ Known networks fields (outer ++ [k]) value :=
  everyLeaf_of_asMap?_eq_none h

/-- A path of one field that lies in no object. -/
def IsField (fields : List FieldSpec) (path : List String) (field : FieldSpec) : Prop :=
  fields.filter (fun f => f.path == path) = [field] ∧
    fields.all (fun f => f.kind != .jsonObject) = true ∧ path ∉ serverPaths

theorem known_iff {networks : String → Prop} {fields : List FieldSpec} {path : List String}
    {field : FieldSpec} (h : IsField fields path field) (value : Value) :
    Known networks fields path value ↔ Fits networks field value := by
  obtain ⟨hfilter, hobject, hserver⟩ := h
  have hmem (f : FieldSpec) : f ∈ fields ∧ f.path = path ↔ f = field := by
    have hiff : f ∈ [field] ↔ f = field := List.mem_singleton
    rw [← hiff, ← hfilter, List.mem_filter, beq_iff_eq]
  constructor
  · rintro (hpath | ⟨f, hf, hpath, hfits⟩ | ⟨f, hf, hkind, -⟩)
    · exact absurd hpath hserver
    · rw [← (hmem f).mp ⟨hf, hpath⟩]
      exact hfits
    · have hne := List.all_eq_true.mp hobject f hf
      rw [hkind] at hne
      cases hne
  · intro hfits
    obtain ⟨hf, hpath⟩ := (hmem field).mpr rfl
    exact .inr (.inl ⟨field, hf, hpath, hfits⟩)

theorem not_known {networks : String → Prop} {fields : List FieldSpec} {path : List String}
    (h : fields.all (fun f => f.path != path && f.kind != .jsonObject) = true)
    (hserver : path ∉ serverPaths) (value : Value) : ¬Known networks fields path value := by
  rw [List.all_eq_true] at h
  rintro (hpath | ⟨f, hf, hpath, -⟩ | ⟨f, hf, hkind, -⟩)
  · exact hserver hpath
  · have hne := h f hf
    rw [hpath] at hne
    simp at hne
  · have hne := h f hf
    rw [hkind] at hne
    simp at hne

/-- A field without options takes every value of its kind. -/
theorem fits_of_kind (networks : String → Prop) {field : FieldSpec} {value : Value}
    (h : matchesField value field = true) (hselect : field.kind ≠ .select)
    (hnetwork : field.kind ≠ .networkMulti) : Fits networks field value :=
  ⟨h, fun heq => absurd heq hselect, fun heq => absurd heq hnetwork⟩

theorem fits_select_iff (networks : String → Prop) (path options : List String) (s : String) :
    Fits networks { path := path, kind := .select, options := options } (.str s) ↔
      s ∈ options := by
  constructor
  · intro h
    obtain ⟨s', hs', heq⟩ := h.option rfl
    rw [Value.str.inj heq]
    exact hs'
  · intro h
    refine ⟨rfl, fun _ => ⟨s, h, rfl⟩, ?_⟩
    rintro ⟨⟩

theorem fits_network_iff (networks : String → Prop) (s : String) :
    Fits networks OutboundForm.network (.str s) ↔ networks s := by
  constructor
  · exact fun h => h.network rfl s (.inl rfl)
  · intro h
    refine ⟨rfl, ?_, ?_⟩
    · rintro ⟨⟩
    · rintro - s' (heq | hmem)
      · rw [← Value.str.inj heq]
        exact h
      · cases hmem

theorem everyField_setNonempty {Q : String → Value → Prop} {m : Object} {k : String}
    (s : List UInt8) (h : m[k]? = none) : EveryField Q (setNonempty k s m) ↔
      (s ≠ [] → Q k (.str (text s))) ∧ EveryField Q m := by
  unfold setNonempty
  split_ifs with hs
  · exact ⟨fun hall => ⟨fun hne => absurd hs hne, hall⟩, fun h => h.2⟩
  · rw [everyField_insert _ h]
    exact and_congr_left fun _ => ⟨fun hq _ => hq, fun hq => hq hs⟩

theorem everyField_optional {Q : String → Value → Prop} {m : Object} {k : String} {v : Value}
    {c : Prop} [Decidable c] (h : m[k]? = none) :
    EveryField Q (if c then m.insert k v else m) ↔ (c → Q k v) ∧ EveryField Q m := by
  split_ifs with hc
  · rw [everyField_insert _ h]
    exact and_congr_left fun _ => ⟨fun hq _ => hq, fun hq => hq hc⟩
  · exact ⟨fun hall => ⟨fun h => absurd h hc, hall⟩, fun h => h.2⟩

theorem EveryField.setNonempty {Q : String → Value → Prop} {m : Object} {k : String}
    {s : List UInt8} (hk : Q k (.str (text s))) (h : EveryField Q m) :
    EveryField Q (setNonempty k s m) := by
  unfold Boxui.Core.setNonempty
  split_ifs
  · exact h
  · exact h.insert hk

section leaves

variable (networks : String → Prop) {fields : List FieldSpec}

theorem below_field {field : FieldSpec} {outer : List String} {k : String} {value : Value}
    (hfield : field ∈ fields) (hpath : field.path = outer ++ [k]) (hleaf : value.asMap? = none)
    (hfits : Fits networks field value) : Below networks fields outer k value :=
  (below_leaf hleaf).mpr (.inr (.inl ⟨field, hfield, hpath, hfits⟩))

/-- The fields of the server are known to every form. -/
theorem everyField_serverConfig (fields : List FieldSpec) (type : String) (server : List UInt8)
    (port : Int) : EveryField (Below networks fields []) (serverConfig type server port) := by
  have hserver (k : String) (value : Value) (hk : [k] ∈ serverPaths)
      (hleaf : value.asMap? = none) : Below networks fields [] k value :=
    (below_leaf hleaf).mpr (.inl hk)
  unfold serverConfig mapOf
  exact (((everyField_empty _).insert (hserver "type" _ (by decide) rfl)).insert
    (hserver "server" _ (by decide) rfl)).insert (hserver "server_port" _ (by decide) rfl)

variable (htls : outboundTLSFields ⊆ fields)

include htls

theorem below_tls {field : FieldSpec} {outer : List String} {k : String} {value : Value}
    (hfield : field ∈ outboundTLSFields) (hpath : field.path = outer ++ [k])
    (hleaf : value.asMap? = none) (hkind : matchesField value field = true)
    (hplain : field.kind ≠ .select ∧ field.kind ≠ .networkMulti) :
    Below networks fields outer k value :=
  below_field networks (htls hfield) hpath hleaf (fits_of_kind networks hkind hplain.1 hplain.2)

/-- The settings of TLS that every link makes. -/
theorem everyField_tls (name : List UInt8) : EveryField (Below networks fields ["tls"])
    (mapOf [("enabled", .bool true), ("server_name", .str (text name))]) := by
  have henabled : { path := ["tls", "enabled"], kind := .boolean } ∈ outboundTLSFields := by
    simp [outboundTLSFields]
  have hname : { path := ["tls", "server_name"], when := [tlsOn] } ∈ outboundTLSFields := by
    simp [outboundTLSFields]
  unfold mapOf
  exact ((everyField_empty _).insert (below_tls networks htls henabled rfl rfl rfl
    (by decide))).insert (below_tls networks htls hname rfl rfl rfl (by decide))

theorem everyField_setInsecure (u : URL) {tls : Object}
    (h : EveryField (Below networks fields ["tls"]) tls) :
    EveryField (Below networks fields ["tls"]) (setInsecure u tls) := by
  have hinsecure : { path := ["tls", "insecure"], kind := .boolean, when := [tlsOn] } ∈
      outboundTLSFields := by
    simp [outboundTLSFields]
  unfold setInsecure
  split_ifs
  · exact h.insert (below_tls networks htls hinsecure rfl rfl rfl (by decide))
  · exact h

theorem below_alpn (alpn : String) : Below networks fields ["tls"] "alpn" (.strs [alpn]) := by
  have halpn : { path := ["tls", "alpn"], kind := .list, when := [tlsOn] } ∈
      outboundTLSFields := by
    simp [outboundTLSFields]
  exact below_tls networks htls halpn rfl rfl rfl (by decide)

theorem everyField_vlessTLS (sni fp pbk sid : List UInt8) :
    EveryField (Below networks fields ["tls"]) (vlessTLS sni fp pbk sid) := by
  have hutls : { path := ["tls", "utls", "enabled"], kind := .boolean, when := [tlsOn] } ∈
      outboundTLSFields := by
    simp [outboundTLSFields]
  have hfingerprint : { path := ["tls", "utls", "fingerprint"], when := utlsOn } ∈
      outboundTLSFields := by
    simp [outboundTLSFields]
  have hreality : { path := ["tls", "reality", "enabled"], kind := .boolean, when := [tlsOn] } ∈
      outboundTLSFields := by
    simp [outboundTLSFields]
  have hkey : { path := ["tls", "reality", "public_key"], when := realityOn } ∈
      outboundTLSFields := by
    simp [outboundTLSFields]
  have hid : { path := ["tls", "reality", "short_id"], when := realityOn } ∈
      outboundTLSFields := by
    simp [outboundTLSFields]
  have hfp : Below networks fields ["tls"] "utls" (Object.toValue
      (mapOf [("enabled", .bool true), ("fingerprint", .str (text fp))])) := by
    rw [below_toValue]
    unfold mapOf
    exact ((everyField_empty _).insert (below_tls networks htls hutls rfl rfl rfl
      (by decide))).insert (below_tls networks htls hfingerprint rfl rfl rfl (by decide))
  have hpbk : Below networks fields ["tls"] "reality" (Object.toValue (setNonempty "short_id" sid
      (mapOf [("enabled", .bool true), ("public_key", .str (text pbk))]))) := by
    rw [below_toValue]
    refine EveryField.setNonempty (below_tls networks htls hid rfl rfl rfl (by decide)) ?_
    unfold mapOf
    exact ((everyField_empty _).insert (below_tls networks htls hreality rfl rfl rfl
      (by decide))).insert (below_tls networks htls hkey rfl rfl rfl (by decide))
  have htls' := everyField_tls networks htls sni
  unfold vlessTLS
  dsimp only
  split_ifs
  · exact htls'
  · exact htls'.insert hfp
  · exact htls'.insert hpbk
  · exact (htls'.insert hfp).insert hpbk

end leaves

theorem outboundTLSFields_subset {type : String} (h : type ∈ outboundTLSTypes)
    (transport : String) : outboundTLSFields ⊆ managedOutboundFields type transport := by
  intro field hfield
  unfold managedOutboundFields
  rw [if_pos h]
  simp [hfield]

theorem protocolFields_subset {type : String} (h : type ∉ groupTypes) (transport : String) :
    protocolFields type ⊆ managedOutboundFields type transport := by
  intro field hfield
  unfold managedOutboundFields
  rw [if_neg h]
  simp [hfield]

section schemes

variable (networks : String → Prop) {u : URL} {result : ImportResult}

theorem below_protocol {type : String} (htype : type ∉ groupTypes) {field : FieldSpec}
    {k : String} {value : Value} (hfield : field ∈ protocolFields type) (hpath : field.path = [k])
    (hleaf : value.asMap? = none) (hkind : matchesField value field = true)
    (hplain : field.kind ≠ .select ∧ field.kind ≠ .networkMulti) :
    Below networks (managedOutboundFields type "") [] k value :=
  below_field networks (protocolFields_subset htype "" hfield) hpath hleaf
    (fits_of_kind networks hkind hplain.1 hplain.2)

theorem below_select_iff {fields : List FieldSpec} {k : String} {options : List String}
    (h : IsField fields [k] { path := [k], kind := .select, options := options }) (s : String) :
    Below networks fields [] k (.str s) ↔ s ∈ options := by
  rw [below_leaf rfl, List.nil_append, known_iff h, fits_select_iff]

theorem below_network_iff {fields : List FieldSpec}
    (h : IsField fields ["network"] OutboundForm.network) (s : String) :
    Below networks fields [] "network" (.str s) ↔ networks s := by
  rw [below_leaf rfl, List.nil_append, known_iff h, fits_network_iff]

theorem parseSS_conforms_iff (h : parseSS u = .ok result) :
    Conforms networks result.type result.config ↔
      text (Userinfo.usernameOf u.user) ∈ ssMethods := by
  obtain rfl := parseSS_ok h
  have hmethod : IsField (managedOutboundFields "shadowsocks" "") ["method"]
      { path := ["method"], kind := .select, options := ssMethods } := ⟨rfl, rfl, by decide⟩
  have hpassword : { path := ["password"] } ∈ protocolFields "shadowsocks" :=
    show _ ∈ shadowsocksFields by simp [shadowsocksFields]
  have hserver := everyField_serverConfig networks (managedOutboundFields "shadowsocks" "")
    "shadowsocks" (ssServer u).1 (ssServer u).2
  change Conforms networks "shadowsocks" (Object.toValue _) ↔ _
  rw [conforms_toValue _ _ (by simp [serverConfig, mapOf]),
    everyField_insert _ (by simp [serverConfig, mapOf]),
    everyField_insert _ (by simp [serverConfig, mapOf]), below_select_iff networks hmethod]
  exact ⟨fun h => h.2.1, fun h =>
    ⟨below_protocol networks (by decide) hpassword rfl rfl rfl (by decide), h, hserver⟩⟩

/-- Trojan and Hysteria2 links. -/
theorem passwordResult_conforms {scheme : String} (hscheme : scheme ∉ groupTypes)
    (hpassword : { path := ["password"] } ∈ protocolFields scheme) :
    Conforms networks (passwordResult scheme u).type (passwordResult scheme u).config := by
  have hserver := everyField_serverConfig networks (managedOutboundFields scheme "") scheme
    u.hostname (atoi u.port)
  change Conforms networks scheme (Object.toValue _)
  rw [conforms_toValue _ _ (by simp [serverConfig, mapOf])]
  refine hserver.insert ?_
  exact below_protocol networks hscheme hpassword rfl rfl rfl (by decide)

theorem parseAnyTLS_conforms (h : parseAnyTLS u = .ok result) :
    Conforms networks result.type result.config := by
  unfold parseAnyTLS at h
  obtain ⟨-, rfl⟩ := ok_of_guard h
  have hpassword : { path := ["password"] } ∈ protocolFields "anytls" :=
    show _ ∈ anytlsFields by simp [anytlsFields]
  have hserver := everyField_serverConfig networks (managedOutboundFields "anytls" "") "anytls"
    u.hostname (portOr 443 u)
  have htls := outboundTLSFields_subset (show "anytls" ∈ outboundTLSTypes by decide) ""
  change Conforms networks "anytls" (Object.toValue _)
  rw [conforms_toValue _ _ (by simp [serverConfig, mapOf])]
  refine (hserver.insert ?_).insert ?_
  · exact below_protocol networks (by decide) hpassword rfl rfl rfl (by decide)
  · rw [below_toValue]
    exact everyField_setInsecure networks htls u (everyField_tls networks htls _)

theorem parseShadowTLS_conforms (h : parseShadowTLS u = .ok result) :
    Conforms networks result.type result.config := by
  unfold parseShadowTLS at h
  obtain ⟨-, rfl⟩ := ok_of_guard h
  have hversion : { path := ["version"], kind := .number } ∈ protocolFields "shadowtls" :=
    show _ ∈ shadowtlsFields by simp [shadowtlsFields]
  have hpassword : { path := ["password"] } ∈ protocolFields "shadowtls" :=
    show _ ∈ shadowtlsFields by simp [shadowtlsFields]
  have hserver := everyField_serverConfig networks (managedOutboundFields "shadowtls" "")
    "shadowtls" u.hostname (portOr 443 u)
  have htls := outboundTLSFields_subset (show "shadowtls" ∈ outboundTLSTypes by decide) ""
  change Conforms networks "shadowtls" (Object.toValue _)
  rw [conforms_toValue _ _ (by simp [serverConfig, mapOf])]
  refine ((hserver.insert ?_).insert ?_).insert ?_
  · exact below_protocol networks (by decide) hversion rfl rfl rfl (by decide)
  · exact below_protocol networks (by decide) hpassword rfl rfl rfl (by decide)
  · rw [below_toValue]
    exact everyField_tls networks htls _

theorem parseTUIC_conforms_iff (h : parseTUIC u = .ok result) :
    Conforms networks result.type result.config ↔
      (u.get "congestion_control" ≠ [] →
        text (u.get "congestion_control") ∈ ["cubic", "new_reno", "bbr"]) ∧
      (u.get "udp_relay_mode" ≠ [] → text (u.get "udp_relay_mode") ∈ ["native", "quic"]) := by
  unfold parseTUIC at h
  obtain ⟨-, rfl⟩ := ok_of_guard h
  have huuid : { path := ["uuid"] } ∈ protocolFields "tuic" :=
    show _ ∈ tuicFields by simp [tuicFields]
  have hpassword : { path := ["password"] } ∈ protocolFields "tuic" :=
    show _ ∈ tuicFields by simp [tuicFields]
  have hcontrol : IsField (managedOutboundFields "tuic" "") ["congestion_control"]
      { path := ["congestion_control"], kind := .select,
        options := ["cubic", "new_reno", "bbr"] } :=
    ⟨rfl, rfl, by decide⟩
  have hrelay : IsField (managedOutboundFields "tuic" "") ["udp_relay_mode"]
      { path := ["udp_relay_mode"], kind := .select, options := ["native", "quic"] } :=
    ⟨rfl, rfl, by decide⟩
  have hserver := everyField_serverConfig networks (managedOutboundFields "tuic" "")
    "tuic" u.hostname (portOr 443 u)
  have htls := outboundTLSFields_subset (show "tuic" ∈ outboundTLSTypes by decide) ""
  have hobject : Below networks (managedOutboundFields "tuic" "") [] "tls" (Object.toValue
      (setInsecure u (if u.get "alpn" = [] then serverTLS u
        else (serverTLS u).insert "alpn" (.strs [text (u.get "alpn")])))) := by
    rw [below_toValue]
    refine everyField_setInsecure networks htls u ?_
    split_ifs
    · exact everyField_tls networks htls _
    · exact (everyField_tls networks htls _).insert (below_alpn networks htls _)
  have hshared : EveryField (Below networks (managedOutboundFields "tuic" "") [])
      (((serverConfig "tuic" u.hostname (portOr 443 u)).insert "uuid"
        (.str (text (Userinfo.usernameOf u.user)))).insert "password"
          (.str (text (Userinfo.passwordOf u.user)))) := by
    refine (hserver.insert ?_).insert ?_
    · exact below_protocol networks (by decide) huuid rfl rfl rfl (by decide)
    · exact below_protocol networks (by decide) hpassword rfl rfl rfl (by decide)
  change Conforms networks "tuic" (Object.toValue _) ↔ _
  rw [conforms_toValue _ _ (by simp [serverConfig, mapOf]),
    everyField_insert _ (by simp [serverConfig, mapOf]),
    everyField_setNonempty _ (by simp [serverConfig, mapOf]),
    everyField_setNonempty _ (by simp [serverConfig, mapOf]), below_select_iff networks hcontrol,
    below_select_iff networks hrelay]
  exact ⟨fun h => ⟨h.2.2.1, h.2.1⟩, fun h => ⟨hobject, h.2, h.1, hshared⟩⟩

theorem parseVless_conforms_iff :
    Conforms networks (parseVless u).type (parseVless u).config ↔
      (u.get "flow" ≠ [] → text (u.get "flow") ∈ ["xtls-rprx-vision"]) ∧
      (u.get "type" ≠ [] → networks (text (u.get "type"))) := by
  have huuid : { path := ["uuid"] } ∈ protocolFields "vless" :=
    show _ ∈ vlessFields by simp [vlessFields]
  have hflow : IsField (managedOutboundFields "vless" "") ["flow"]
      { path := ["flow"], kind := .select, options := ["xtls-rprx-vision"] } :=
    ⟨rfl, rfl, by decide⟩
  have hnetwork : IsField (managedOutboundFields "vless" "") ["network"] OutboundForm.network :=
    ⟨rfl, rfl, by decide⟩
  have hserver := everyField_serverConfig networks (managedOutboundFields "vless" "")
    "vless" u.hostname (atoi u.port)
  have htls := outboundTLSFields_subset (show "vless" ∈ outboundTLSTypes by decide) ""
  have hobject : Below networks (managedOutboundFields "vless" "") [] "tls" (Object.toValue
      (vlessTLS (u.get "sni") (u.get "fp") (u.get "pbk") (u.get "sid"))) := by
    rw [below_toValue]
    exact everyField_vlessTLS networks htls _ _ _ _
  have hshared : EveryField (Below networks (managedOutboundFields "vless" "") [])
      ((serverConfig "vless" u.hostname (atoi u.port)).insert "uuid"
        (.str (text (Userinfo.spelled u.user)))) := by
    refine hserver.insert ?_
    exact below_protocol networks (by decide) huuid rfl rfl rfl (by decide)
  change Conforms networks "vless" (Object.toValue _) ↔ _
  rw [conforms_toValue _ _ (by split_ifs <;> simp [serverConfig, mapOf]),
    everyField_setNonempty _ (by split_ifs <;> simp [serverConfig, mapOf]),
    below_network_iff networks hnetwork, everyField_optional (by simp [serverConfig, mapOf]),
    everyField_setNonempty _ (by simp [serverConfig, mapOf]), below_select_iff networks hflow]
  exact ⟨fun h => ⟨h.2.2.1, h.1⟩, fun h => ⟨h.2, fun _ => hobject, h.1, hshared⟩⟩

/-- A VMess result says whether there is TLS where the form has its settings. -/
theorem vmessResult_not_conforms (vmess : VmessLink) :
    ¬Conforms networks (vmessResult vmess).type (vmessResult vmess).config := by
  have htls : ¬Known networks (managedOutboundFields "vmess" "") ["tls"]
      (.bool (vmess.tls = "tls")) := not_known rfl (by decide) _
  intro h
  change Conforms networks "vmess" (Object.toValue _) at h
  rw [conforms_toValue _ _ (by simp [mapOf])] at h
  have hfield := h "tls" (.bool (vmess.tls = "tls")) (by
    simp only [mapOf, List.foldl_cons, List.foldl_nil, GoMap.getElem?_insert, String.reduceEq,
      if_true, if_false])
  rw [below_leaf rfl] at hfield
  exact htls hfield

end schemes

/-- The parameters of a link whose values the form has to know. -/
def KnownParameters (networks : String → Prop) (u : URL) : Scheme → Prop
  | .vmess => False
  | .ss => text (Userinfo.usernameOf u.user) ∈ ssMethods
  | .vless => (u.get "flow" ≠ [] → text (u.get "flow") ∈ ["xtls-rprx-vision"]) ∧
    (u.get "type" ≠ [] → networks (text (u.get "type")))
  | .tuic => (u.get "congestion_control" ≠ [] →
      text (u.get "congestion_control") ∈ ["cubic", "new_reno", "bbr"]) ∧
    (u.get "udp_relay_mode" ≠ [] → text (u.get "udp_relay_mode") ∈ ["native", "quic"])
  | _ => True

theorem parseVmess_ok {stx : LinkSyntax} {link : List UInt8} {result : ImportResult}
    (h : parseVmess stx link = .ok result) : ∃ vmess, result = vmessResult vmess := by
  unfold parseVmess at h
  dsimp only at h
  split at h
  · cases h
  · split at h
    · cases h
    · exact ⟨_, (Except.ok.inj h).symm⟩

/-- The form knows an imported outbound of one of its types exactly where it knows the parameters
of the link, whatever the networks are. -/
theorem imported_conforms_iff (networks : String → Prop) {stx : LinkSyntax} {link : List UInt8}
    {u : URL} {scheme : Scheme} {result : ImportResult} (hparse : parse stx.ipv6 link = some u)
    (hscheme : Scheme.ofName u.scheme = some scheme) (hok : parseProxyLink stx link = .ok result)
    (htype : result.type ∈ outboundTypes) :
    Conforms networks result.type result.config ↔ KnownParameters networks u scheme := by
  rw [parseProxyLink_eq hparse hscheme] at hok
  cases scheme with
  | vmess =>
    obtain ⟨vmess, rfl⟩ := parseVmess_ok hok
    exact iff_of_false (vmessResult_not_conforms networks vmess) not_false
  | ss => exact parseSS_conforms_iff networks hok
  | trojan =>
    obtain rfl := Except.ok.inj hok
    have hpassword : { path := ["password"] } ∈ protocolFields "trojan" :=
      show _ ∈ trojanFields by simp [trojanFields]
    exact iff_of_true (passwordResult_conforms networks (by decide) hpassword) trivial
  | ssr =>
    obtain rfl := Except.ok.inj hok
    exact absurd htype (by change "shadowsocksr" ∉ outboundTypes; decide)
  | vless =>
    obtain rfl := Except.ok.inj hok
    exact parseVless_conforms_iff networks
  | hysteria2 =>
    obtain rfl := Except.ok.inj hok
    have hpassword : { path := ["password"] } ∈ protocolFields "hysteria2" :=
      show _ ∈ hysteria2Fields by simp [hysteria2Fields]
    exact iff_of_true (passwordResult_conforms networks (by decide) hpassword) trivial
  | wireguard =>
    rw [parseScheme, parseWireGuard] at hok
    obtain ⟨-, rfl⟩ := ok_of_guard hok
    exact absurd htype (by change "wireguard" ∉ outboundTypes; decide)
  | tuic => exact parseTUIC_conforms_iff networks hok
  | anytls => exact iff_of_true (parseAnyTLS_conforms networks hok) trivial
  | shadowtls => exact iff_of_true (parseShadowTLS_conforms networks hok) trivial

/-- A VLESS link with values that the form knows. -/
def realityLink : List UInt8 :=
  bytes "vless://id@example.com:443?flow=xtls-rprx-vision&type=tcp&pbk=key"

def realityURL : URL :=
  ⟨bytes "vless", some ⟨bytes "id", none⟩, bytes "example.com:443",
    bytes "flow=xtls-rprx-vision&type=tcp&pbk=key", []⟩

theorem parse_realityLink : parse sampleSyntax.ipv6 realityLink = some realityURL := rfl

theorem reality_conforms : Conforms (· ∈ ["tcp", "udp"]) (parseVless realityURL).type
    (parseVless realityURL).config := by
  have hok : parseProxyLink sampleSyntax realityLink = .ok (parseVless realityURL) :=
    parseProxyLink_eq parse_realityLink (show Scheme.ofName _ = some .vless by decide)
  refine (imported_conforms_iff _ parse_realityLink (show Scheme.ofName _ = some .vless by decide)
    hok (show "vless" ∈ outboundTypes by decide)).mpr ?_
  exact ⟨fun _ => by decide, fun _ => by decide⟩

/-- Base64 and JSON on a VMess link without any fields. -/
def emptyVmessSyntax : LinkSyntax where
  ipv6 _ := false
  base64 s := if s = bytes "e30=" then some (bytes "{}") else none
  base64URL _ := none
  json s := if s = bytes "{}" then some (.obj []) else none

def emptyVmessLink : List UInt8 := bytes "vmess://e30="

theorem parse_emptyVmessLink : parse emptyVmessSyntax.ipv6 emptyVmessLink =
    some ⟨bytes "vmess", none, bytes "e30=", [], []⟩ := rfl

theorem parseVmess_emptyVmessLink : parseVmess emptyVmessSyntax emptyVmessLink =
    .ok (vmessResult ⟨"", 0, "", 0, "", "", "", "", ""⟩) := rfl

/-- No form knows what comes out of a VMess link. -/
theorem emptyVmess_unknown : ¬∀ (link : List UInt8) (u : URL) (scheme : Scheme)
    (result : ImportResult), parse emptyVmessSyntax.ipv6 link = some u →
      Scheme.ofName u.scheme = some scheme → parseProxyLink emptyVmessSyntax link = .ok result →
        result.type ∈ outboundTypes → Conforms (fun _ => True) result.type result.config := by
  intro h
  have hscheme : Scheme.ofName (bytes "vmess") = some .vmess := by decide
  have hok := (parseProxyLink_eq parse_emptyVmessLink hscheme).trans parseVmess_emptyVmessLink
  exact vmessResult_not_conforms _ _ (h _ _ .vmess _ parse_emptyVmessLink hscheme hok
    (show "vmess" ∈ outboundTypes by decide))

end Boxui.UI
