import Boxui.API.SyncWriters

/-! The entry of one stored outbound: which keys it has, and when it says of the node what the
store says of it. -/
namespace Boxui.API
open GoValue

/-- What a stored outbound says of itself outside its raw configuration. -/
def identityFields (outbound : Outbound) : Object :=
  ((((∅ : Object).insert "type" (.str outbound.type)).insert "tag" (.str outbound.tag)).insert
    "server" (.str outbound.server)).insert "server_port" (.int outbound.port)

theorem ownFields_eq (outbound : Outbound) :
    ownFields outbound = identityFields outbound ∪ (rawFields outbound).getD ∅ := rfl

/-- The stored outbound gives its entry this key. -/
def SetsKey (outbound : Outbound) (k : String) : Prop :=
  (identityFields outbound).contains k = true ∨
    (∃ raw, rawFields outbound = some raw ∧ raw.contains k = true) ∨
    isProxyLikeOutboundType outbound.type = true ∧ k = "routing_mark"

/-- Every key of an entry comes from the stored outbound, or from an old entry that has the same
type or for which the key is a dialer option. -/
def NoForeignKeys (dialer : String → Prop) (existing : Object) (outbound : Outbound)
    (entry : Object) : Prop :=
  ∀ k, entry.contains k = true → SetsKey outbound k ∨
    existing.contains k = true ∧ (Object.stringAt existing "type" = outbound.type ∨ dialer k)

theorem buildManagedOutbound_ok {existing : Option Object} {outbound : Outbound} {entry : Object}
    (h : buildManagedOutbound existing outbound = .ok entry) :
    (rawFields outbound).isSome = true ∧ entry = managedEntry existing outbound := by
  rw [buildManagedOutbound_eq] at h
  split_ifs at h with hraw
  exact ⟨hraw, (Except.ok.inj h).symm⟩

/-- An entry has the keys of the stored outbound and all keys of the old entry. -/
theorem contains_managedEntry (existing : Object) (outbound : Outbound) (k : String) :
    (managedEntry (some existing) outbound).contains k = true ↔
      SetsKey outbound k ∨ existing.contains k = true := by
  have hraw : (∃ raw, rawFields outbound = some raw ∧ raw.contains k = true) ↔
      (((rawFields outbound).getD ∅)[k]?).isSome = true := by
    cases rawFields outbound with
    | none => simp
    | some raw => simp
  have hmark : (if isProxyLikeOutboundType outbound.type = true ∧ k = "routing_mark" then
      some (Value.int 128) else none).isSome = true ↔
        isProxyLikeOutboundType outbound.type = true ∧ k = "routing_mark" := by
    split_ifs with h <;> simp [h]
  rw [SetsKey, hraw, Std.ExtTreeMap.contains_eq_isSome_getElem?, getElem?_managedEntry,
    Option.isSome_or, Option.isSome_or, Bool.or_eq_true, Bool.or_eq_true, hmark, ownFields_eq,
    Std.ExtTreeMap.getElem?_union, Option.isSome_or, Bool.or_eq_true, Option.getD_some,
    Std.ExtTreeMap.contains_eq_isSome_getElem?, Std.ExtTreeMap.contains_eq_isSome_getElem?]
  simp only [or_comm, or_left_comm]

/-- The entry is free of foreign keys exactly when the old one has its type, or no key but those
that the stored outbound sets itself and dialer options. -/
theorem buildManagedOutbound_noForeignKeys_iff (dialer : String → Prop) {existing : Object}
    {outbound : Outbound} {entry : Object}
    (hentry : buildManagedOutbound (some existing) outbound = .ok entry) :
    NoForeignKeys dialer existing outbound entry ↔
      Object.stringAt existing "type" = outbound.type ∨
        ∀ k, existing.contains k = true → SetsKey outbound k ∨ dialer k := by
  obtain ⟨-, rfl⟩ := buildManagedOutbound_ok hentry
  simp only [NoForeignKeys, contains_managedEntry]
  constructor
  · intro h
    by_cases htype : Object.stringAt existing "type" = outbound.type
    · exact .inl htype
    · right
      intro k hk
      rcases h k (.inr hk) with hset | ⟨-, hsame | hdialer⟩
      · exact .inl hset
      · exact absurd hsame htype
      · exact .inr hdialer
  · rintro h k (hset | hk)
    · exact .inl hset
    · rcases h with htype | hkeys
      · exact .inr ⟨hk, .inl htype⟩
      · rcases hkeys k hk with hset | hdialer
        · exact .inl hset
        · exact .inr ⟨hk, .inr hdialer⟩

/-- The options of every outbound that dials, `dialerFields` of the outbound editor. -/
def dialerOptions : List String :=
  ["detour", "bind_interface", "inet4_bind_address", "inet6_bind_address",
    "bind_address_no_port", "protect_path", "routing_mark", "reuse_addr", "netns",
    "connect_timeout", "tcp_fast_open", "tcp_multi_path", "disable_tcp_keep_alive",
    "tcp_keep_alive", "tcp_keep_alive_interval", "udp_fragment", "domain_resolver",
    "network_strategy", "network_type", "fallback_network_type", "fallback_delay"]

/-- The entry of a SOCKS proxy, reached through another outbound. -/
def socksEntry : Object :=
  .ofList [("type", .str "socks"), ("tag", .str "hk"), ("server", .str "192.0.2.1"),
    ("server_port", .float 1080), ("detour", .str "wan")] compare

/-- The node of that tag, now a Trojan one. -/
def trojanNode : Outbound :=
  ⟨"hk", "trojan", "192.0.2.1", 443, .obj [("password", .str "secret")]⟩

theorem trojanNode_noForeignKeys :
    NoForeignKeys (· ∈ dialerOptions) socksEntry trojanNode
      (managedEntry (some socksEntry) trojanNode) := by
  apply (buildManagedOutbound_noForeignKeys_iff (· ∈ dialerOptions)
    (buildManagedOutbound_eq (some socksEntry) trojanNode)).mpr
  right
  intro k hk
  have hkeys : ∀ field ∈ socksEntry.toList,
      (identityFields trojanNode).contains field.1 = true ∨ field.1 ∈ dialerOptions := by decide
  rw [Std.ExtTreeMap.contains_eq_isSome_getElem?] at hk
  obtain ⟨v, hv⟩ := Option.isSome_iff_exists.mp hk
  exact (hkeys (k, v) (Std.ExtTreeMap.mem_toList_iff_getElem?_eq_some.mpr hv)).imp_left .inl

/-- The entry of a VLESS node in the configuration. -/
def vlessEntry : Object :=
  .ofList [("type", .str "vless"), ("tag", .str "hk"), ("server", .str "192.0.2.1"),
    ("server_port", .float 443), ("uuid", .str "5783a3e7"), ("flow", .str "xtls-rprx-vision")]
    compare

/-- The Trojan entry has the uuid of the VLESS one. -/
theorem trojanNode_foreign_uuid :
    ∃ entry, buildManagedOutbound (some vlessEntry) trojanNode = .ok entry ∧
      ¬NoForeignKeys (· ∈ dialerOptions) vlessEntry trojanNode entry := by
  refine ⟨_, buildManagedOutbound_eq (some vlessEntry) trojanNode, ?_⟩
  intro h
  have huuid : (managedEntry (some vlessEntry) trojanNode).contains "uuid" = true := by decide
  rcases h "uuid" huuid with (hset | ⟨raw, hraw, hset⟩ | ⟨-, hmark⟩) | ⟨-, htype | hdialer⟩
  · exact absurd hset (by decide)
  · obtain rfl := Option.some.inj hraw
    exact absurd hset (by decide)
  · exact absurd hmark (by decide)
  · exact absurd htype (by decide)
  · exact absurd hdialer (by decide)

end Boxui.API
