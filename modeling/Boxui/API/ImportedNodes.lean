import Boxui.API.AcceptedNodes
import Boxui.Core.ImportedNames

/-! From a link to the configuration: what the page imports, saves and synchronises. -/
namespace Boxui.API
open GoValue GoStrings GoURL GoText Boxui.Core Machine

variable {Bytes : Type*}

/-- The fields of an entry that the node itself decides. -/
def entryKeys : List String := ["type", "tag", "server", "server_port", "default", "outbounds"]

/-- A configuration that says of a node what its type, server and port say, and has no field of a
group. -/
structure Describes (type server : String) (port : Int) (config : Object) : Prop where
  type : config["type"]? = some (.str type)
  server : ∀ v, config["server"]? = some v → v = .str server
  port : ∀ v, config["server_port"]? = some v → v = .int port
  others : ∀ k ∈ ["tag", "default", "outbounds"], config[k]? = none

namespace Describes

variable {type server : String} {port : Int} {config : Object}

theorem insert (h : Describes type server port config) {k : String} (hk : k ∉ entryKeys)
    (v : Value) : Describes type server port (config.insert k v) := by
  have hother (k' : String) (hk' : k' ∈ entryKeys) : (config.insert k v)[k']? = config[k']? := by
    rw [GoMap.getElem?_insert, if_neg]
    rintro rfl
    exact hk hk'
  constructor
  · rw [hother _ (by decide)]
    exact h.type
  · intro v' hv'
    rw [hother _ (by decide)] at hv'
    exact h.server v' hv'
  · intro v' hv'
    rw [hother _ (by decide)] at hv'
    exact h.port v' hv'
  · intro k' hk'
    have hmem : ∀ k ∈ ["tag", "default", "outbounds"], k ∈ entryKeys := by decide
    rw [hother k' (hmem k' hk')]
    exact h.others k' hk'

theorem setNonempty (h : Describes type server port config) {k : String} (hk : k ∉ entryKeys)
    (s : List UInt8) : Describes type server port (Core.setNonempty k s config) := by
  unfold Core.setNonempty
  split_ifs
  · exact h
  · exact h.insert hk _

theorem mapOf_type (type server : String) (port : Int) :
    Describes type server port (mapOf [("type", .str type)]) := by
  have hfield (k : String) : (mapOf [("type", .str type)])[k]? =
      if "type" = k then some (.str type) else none := by
    rw [mapOf, List.foldl_cons, List.foldl_nil, GoMap.getElem?_insert]
    rfl
  constructor
  · exact hfield "type"
  · intro v hv
    rw [hfield, if_neg (by decide)] at hv
    cases hv
  · intro v hv
    rw [hfield, if_neg (by decide)] at hv
    cases hv
  · intro k hk
    have hne : ∀ k ∈ ["tag", "default", "outbounds"], "type" ≠ k := by decide
    rw [hfield, if_neg (hne k hk)]

theorem mapOf_server (type server : String) (port : Int) : Describes type server port
    (mapOf [("type", .str type), ("server", .str server), ("server_port", .int port)]) := by
  have hfield (k : String) :
      (mapOf [("type", .str type), ("server", .str server), ("server_port", .int port)])[k]? =
        if "server_port" = k then some (.int port)
        else if "server" = k then some (.str server)
        else if "type" = k then some (.str type) else none := by
    rw [mapOf, List.foldl_cons, List.foldl_cons, List.foldl_cons, List.foldl_nil,
      GoMap.getElem?_insert, GoMap.getElem?_insert, GoMap.getElem?_insert]
    rfl
  constructor
  · exact hfield "type"
  · intro v hv
    exact (Option.some.inj ((hfield "server").symm.trans hv)).symm
  · intro v hv
    exact (Option.some.inj ((hfield "server_port").symm.trans hv)).symm
  · intro k hk
    have hne : ∀ k ∈ ["tag", "default", "outbounds"],
        "server_port" ≠ k ∧ "server" ≠ k ∧ "type" ≠ k := by decide
    obtain ⟨hport, hserver, htype⟩ := hne k hk
    rw [hfield, if_neg hport, if_neg hserver, if_neg htype]

theorem serverConfig (type : String) (server : List UInt8) (port : Int) :
    Describes type (text server) port (Core.serverConfig type server port) :=
  mapOf_server type (text server) port

theorem wireGuardConfig (u : URL) (privateKey : List UInt8) (server : String) (port : Int) :
    Describes "wireguard" server port (Core.wireGuardConfig u privateKey port) := by
  have hkey := (mapOf_type "wireguard" server port).insert (k := "private_key") (by decide)
    (.str (text privateKey))
  have hpeers := hkey.insert (k := "peers") (by decide)
    (.list [Object.toValue (wireGuardPeer u port)])
  have haddress (address : List UInt8) :=
    hpeers.insert (k := "address") (by decide) (.strs [text address])
  have hmtu (address : List UInt8) :=
    (haddress address).insert (k := "mtu") (by decide) (.int (atoi (u.get "mtu")))
  unfold Core.wireGuardConfig
  dsimp only
  split_ifs
  · exact hmtu _
  · exact hmtu _
  · exact haddress _
  · exact haddress _

end Describes

theorem vmessResult_describes (vmess : VmessLink) :
    ∃ config, (vmessResult vmess).config = Object.toValue config ∧
      Describes "vmess" vmess.add vmess.port config := by
  have huuid := (Describes.mapOf_server "vmess" vmess.add vmess.port).insert (k := "uuid")
    (by decide) (.str vmess.id)
  have haid := huuid.insert (k := "alter_id") (by decide) (.int vmess.aid)
  have hnet := haid.insert (k := "network") (by decide) (.str vmess.net)
  have htls := hnet.insert (k := "tls") (by decide) (.bool (vmess.tls = "tls"))
  exact ⟨_, rfl, htls.insert (k := "ws-opts") (by decide) _⟩

/-- The configuration of an accepted link describes the node as the result does. -/
theorem describes_parseScheme {stx : LinkSyntax} {link : List UInt8} {u : URL} {scheme : Scheme}
    {result : ImportResult} (h : parseScheme stx link u scheme = .ok result) :
    ∃ config, result.config = Object.toValue config ∧
      Describes result.type result.server result.port config := by
  cases scheme with
  | vmess =>
    rw [parseScheme, parseVmess] at h
    split at h
    · cases h
    · split at h
      · cases h
      · rename_i vmess _
        obtain rfl := Except.ok.inj h
        exact vmessResult_describes vmess
  | ss =>
    obtain rfl := parseSS_ok h
    exact ⟨_, rfl, ((Describes.serverConfig _ _ _).insert (k := "method") (by decide) _).insert
      (k := "password") (by decide) _⟩
  | trojan =>
    obtain rfl := Except.ok.inj h
    exact ⟨_, rfl, (Describes.serverConfig _ _ _).insert (k := "password") (by decide) _⟩
  | ssr =>
    obtain rfl := Except.ok.inj h
    exact ⟨_, rfl, Describes.serverConfig _ _ _⟩
  | vless =>
    obtain rfl := Except.ok.inj h
    refine ⟨_, rfl, Describes.setNonempty ?_ (by decide) _⟩
    have huuid := (Describes.serverConfig "vless" u.hostname (atoi u.port)).insert
      (k := "uuid") (by decide) (.str (text (Userinfo.spelled u.user)))
    have hflow := huuid.setNonempty (k := "flow") (by decide) (u.get "flow")
    split_ifs
    · exact hflow.insert (k := "tls") (by decide) _
    · exact hflow
  | hysteria2 =>
    obtain rfl := Except.ok.inj h
    exact ⟨_, rfl, (Describes.serverConfig _ _ _).insert (k := "password") (by decide) _⟩
  | wireguard =>
    rw [parseScheme, parseWireGuard] at h
    obtain ⟨-, rfl⟩ := ok_of_guard h
    exact ⟨_, rfl, Describes.wireGuardConfig u _ _ _⟩
  | tuic =>
    rw [parseScheme, parseTUIC] at h
    obtain ⟨-, rfl⟩ := ok_of_guard h
    refine ⟨_, rfl, Describes.insert ?_ (k := "tls") (by decide) _⟩
    have huuid := (Describes.serverConfig "tuic" u.hostname (portOr 443 u)).insert
      (k := "uuid") (by decide) (.str (text (Userinfo.usernameOf u.user)))
    have hpassword := huuid.insert (k := "password") (by decide)
      (.str (text (Userinfo.passwordOf u.user)))
    exact (hpassword.setNonempty (k := "congestion_control") (by decide) _).setNonempty
      (k := "udp_relay_mode") (by decide) _
  | anytls =>
    rw [parseScheme, parseAnyTLS] at h
    obtain ⟨-, rfl⟩ := ok_of_guard h
    exact ⟨_, rfl, ((Describes.serverConfig _ _ _).insert (k := "password") (by decide) _).insert
      (k := "tls") (by decide) _⟩
  | shadowtls =>
    rw [parseScheme, parseShadowTLS] at h
    obtain ⟨-, rfl⟩ := ok_of_guard h
    exact ⟨_, rfl, (((Describes.serverConfig _ _ _).insert (k := "version") (by decide) _).insert
      (k := "password") (by decide) _).insert (k := "tls") (by decide) _⟩

theorem describes_parseProxyLink {stx : LinkSyntax} {link : List UInt8} {result : ImportResult}
    (h : parseProxyLink stx link = .ok result) :
    ∃ config, result.config = Object.toValue config ∧
      Describes result.type result.server result.port config := by
  unfold parseProxyLink at h
  split at h
  · cases h
  · split at h
    · cases h
    · exact describes_parseScheme h

/-! ### The entry -/

namespace OutboundWriter

/-- Placing the proxy selector touches no field of a writer but those of a group. -/
theorem own_place {members : List String} {defaultTag : String} {ws : List OutboundWriter}
    {w : OutboundWriter} (h : w ∈ ws) : ∃ w' ∈ place members defaultTag ws,
      ∀ k, k ≠ "default" → k ≠ "outbounds" → w'.own k = w.own k := by
  induction ws with
  | nil => cases h
  | cons first ws ih =>
    rw [place]
    obtain rfl | hmem := List.mem_cons.mp h
    · split_ifs
      · refine ⟨_, List.mem_cons_self, fun k hdefault houtbounds => ?_⟩
        simp only [withMembers, hdefault, houtbounds, if_false]
      · exact ⟨w, List.mem_cons_self, fun _ _ _ => rfl⟩
    · split_ifs
      · exact ⟨w, List.mem_cons_of_mem _ hmem, fun _ _ _ => rfl⟩
      · obtain ⟨w', hw', hown⟩ := ih hmem
        exact ⟨w', List.mem_cons_of_mem _ hw', hown⟩

end OutboundWriter

theorem writers_own {input : SyncInput} (existing : List Value) {outbound : Outbound}
    (h : outbound ∈ input.stored) : ∃ w ∈ input.writers existing,
      ∀ k, k ≠ "default" → k ≠ "outbounds" → w.own k = (OutboundWriter.stored outbound).own k := by
  have hbase : OutboundWriter.stored outbound ∈ input.baseWriters :=
    List.mem_append_left _ (List.mem_map_of_mem h)
  unfold SyncInput.writers
  split
  · exact ⟨_, hbase, fun _ _ _ => rfl⟩
  · exact OutboundWriter.own_place hbase

/-- An entry that carries what the node says of itself and every field of its configuration. -/
def CarriesNode (outbound : Outbound) (config : Object) (entry : Value) : Prop :=
  ∀ (k : String) (v : Value),
    (identityFields outbound)[k]? = some v ∨ config[k]? = some v →
      entry.asMap?.bind (·[k]?) = some v.json

theorem identityFields_cases {outbound : Outbound} {k : String} {v : Value}
    (h : (identityFields outbound)[k]? = some v) :
    k = "type" ∧ v = .str outbound.type ∨ k = "tag" ∧ v = .str outbound.tag ∨
      k = "server" ∧ v = .str outbound.server ∨ k = "server_port" ∧ v = .int outbound.port := by
  rw [identityFields, GoMap.getElem?_insert, GoMap.getElem?_insert, GoMap.getElem?_insert,
    GoMap.getElem?_insert] at h
  split_ifs at h with hport hserver htag htype
  · exact .inr (.inr (.inr ⟨hport.symm, (Option.some.inj h).symm⟩))
  · exact .inr (.inr (.inl ⟨hserver.symm, (Option.some.inj h).symm⟩))
  · exact .inr (.inl ⟨htag.symm, (Option.some.inj h).symm⟩)
  · exact .inl ⟨htype.symm, (Option.some.inj h).symm⟩
  · cases h

namespace Describes

variable {outbound : Outbound} {config : Object}

/-- A configuration that describes the node says what the node says of itself. -/
theorem identity (h : Describes outbound.type outbound.server outbound.port config) {k : String}
    {v v' : Value} (hv : (identityFields outbound)[k]? = some v) (hv' : config[k]? = some v') :
    v' = v := by
  obtain ⟨rfl, rfl⟩ | ⟨rfl, rfl⟩ | ⟨rfl, rfl⟩ | ⟨rfl, rfl⟩ := identityFields_cases hv
  · exact Option.some.inj (hv'.symm.trans h.type)
  · exact nomatch hv'.symm.trans (h.others "tag" (by decide))
  · exact h.server v' hv'
  · exact h.port v' hv'

/-- What a described node sets in its entry. -/
theorem ownFields (h : Describes outbound.type outbound.server outbound.port config)
    (hraw : rawFields outbound = some (Object.json config)) {k : String} {v : Value}
    (hv : (identityFields outbound)[k]? = some v ∨ config[k]? = some v) :
    k ≠ "default" ∧ k ≠ "outbounds" ∧
      ∃ v', (API.ownFields outbound)[k]? = some v' ∧ v'.json = v.json := by
  have hgroup : ∀ k' ∈ ["default", "outbounds"], k ≠ k' := by
    rintro k' hk' rfl
    obtain hv | hv := hv
    · obtain ⟨rfl, -⟩ | ⟨rfl, -⟩ | ⟨rfl, -⟩ | ⟨rfl, -⟩ := identityFields_cases hv <;>
        exact absurd hk' (by decide)
    · exact nomatch hv.symm.trans (h.others k (List.mem_cons_of_mem _ hk'))
  refine ⟨hgroup _ (by decide), hgroup _ (by decide), ?_⟩
  rw [ownFields_eq, hraw, Option.getD_some, Std.ExtTreeMap.getElem?_union, Object.getElem?_json]
  cases hconfig : config[k]? with
  | some v' =>
    refine ⟨v'.json, rfl, ?_⟩
    obtain hv | hv := hv
    · rw [h.identity hv hconfig, Value.json_json]
    · rw [Option.some.inj (hconfig.symm.trans hv), Value.json_json]
  | none =>
    obtain hv | hv := hv
    · exact ⟨v, hv, rfl⟩
    · exact nomatch hconfig.symm.trans hv

end Describes

/-- A successful synchronisation writes an entry that carries a described node whole. -/
theorem synchronised_carries {codec : JSONCodec Bytes} {o : SyncOutcome} {s : SyncState Bytes}
    (hok : (syncOutboundsToConfig codec o s).2 = .ok ()) {outbound : Outbound}
    (hmem : outbound ∈ NodeManager.list s.db) {config : Object}
    (hdescribes : Describes outbound.type outbound.server outbound.port config)
    (hraw : rawFields outbound = some (Object.json config)) :
    ∃ entry ∈ (syncOutboundsToConfig codec o s).1.outbounds codec,
      CarriesNode outbound config entry := by
  obtain ⟨existing, houtbounds⟩ : ∃ existing, (syncOutboundsToConfig codec o s).1.outbounds codec =
      ((syncInput s.db).outbounds existing).map Value.json := by
    rcases syncOutboundsToConfig_cases codec o s with
      ⟨config, -, -, -, hwrote, -⟩ | ⟨⟨e, herror⟩, -⟩
    · exact ⟨_, hwrote.outbounds⟩
    · exact nomatch hok.symm.trans herror
  have hstored : outbound ∈ (syncInput s.db).stored := List.mem_append_left _ hmem
  obtain ⟨w, hw, hown⟩ := writers_own existing hstored
  refine ⟨(w.entry existing).json, ?_, ?_⟩
  · rw [houtbounds, SyncInput.outbounds_eq]
    exact List.mem_map_of_mem (List.mem_append_right _ (List.mem_map_of_mem hw))
  · intro k v hv
    obtain ⟨hdefault, houtbounds, v', hset, hjson⟩ := hdescribes.ownFields hraw hv
    have hsets : w.own k = some (some v') := by
      rw [hown k hdefault houtbounds, OutboundWriter.stored]
      dsimp only
      rw [hset]
      rfl
    simp [OutboundWriter.entry, Object.getElem?_json, w.getElem?_write, hsets, hjson]

/-! ### The store -/

theorem refresh_nodes (download : String → Except String (List Outbound)) (now : Nat) (id : String)
    (db : Database) : (SubscriptionManager.refresh download now id db).1.nodes = db.nodes := by
  unfold SubscriptionManager.refresh
  cases hget : SubscriptionManager.get id db with
  | none => rfl
  | some sub =>
    dsimp only
    cases download sub.url with
    | error message =>
      simp only [SubscriptionManager.setError, hget]
    | ok outbounds =>
      dsimp only [SubscriptionManager.saveRefreshedSubscription]
      rw [hget]
      rfl

theorem refreshAll_nodes (download : String → Except String (List Outbound)) (now : Nat)
    (db : Database) : (SubscriptionManager.refreshAll download now db).1.nodes = db.nodes := by
  unfold SubscriptionManager.refreshAll
  refine List.foldlRecOn
    (motive := fun acc : Database × List StoreError => acc.1.nodes = db.nodes) _ _ rfl ?_
  intro acc hacc sub _
  have hstep := refresh_nodes download now sub.id acc.1
  rcases hr : SubscriptionManager.refresh download now sub.id acc.1 with ⟨db', r⟩
  rw [hr] at hstep
  cases r with
  | error e => exact hstep.trans hacc
  | ok u => exact hstep.trans hacc

namespace Request

theorem updateNodeStore_other {tag tag' : String} {updated : Outbound} (htag : tag' ≠ tag)
    (hupdated : updated.tag ≠ tag) (db : Database) :
    (updateNodeStore tag' updated db).1.nodes[tag]? = db.nodes[tag]? := by
  unfold updateNodeStore
  by_cases hempty : tag' = ""
  · rw [if_pos hempty]
  rw [if_neg hempty]
  cases NodeManager.get tag' db with
  | none => rfl
  | some node =>
    dsimp only
    by_cases hrequired : updated.tag = "" ∨ updated.type = ""
    · rw [if_pos hrequired]
    rw [if_neg hrequired]
    have hdeleted : (if updated.tag ≠ tag' then NodeManager.delete tag' db else db).nodes[tag]? =
        db.nodes[tag]? := by
      split_ifs
      · exact (GoMap.getElem?_erase db.nodes tag' tag).trans (if_neg htag)
      · rfl
    cases hadd : NodeManager.add updated
        (if updated.tag ≠ tag' then NodeManager.delete tag' db else db) with
    | error e => exact hdeleted
    | ok db' => exact ((NodeManager.get_add hadd tag).trans (if_neg hupdated)).trans hdeleted

theorem createSubscriptionStore_nodes (stx : URLTestSyntax) (params : SubscriptionParams)
    (db : Database) : (createSubscriptionStore stx params db).1.nodes = db.nodes := by
  unfold createSubscriptionStore
  by_cases hrequired : params.name = "" ∨ params.url = ""
  · rw [if_pos hrequired]
  rw [if_neg hrequired]
  dsimp only [SubscriptionManager.create]
  cases validateURLTestOverrides stx params.urltest <;> rfl

theorem updateSubscriptionStore_nodes (stx : URLTestSyntax) (id : String)
    (params : SubscriptionParams) (db : Database) :
    (updateSubscriptionStore stx id params db).1.nodes = db.nodes := by
  unfold updateSubscriptionStore
  cases hvalid : validateURLTestOverrides stx params.urltest with
  | error e => rfl
  | ok u =>
    simp only [hvalid, SubscriptionManager.update]
    cases SubscriptionManager.get id db <;> rfl

theorem deleteSubscriptionStore_nodes (id : String) (db : Database) :
    (deleteSubscriptionStore id db).1.nodes = db.nodes := by
  unfold deleteSubscriptionStore SubscriptionManager.delete
  cases SubscriptionManager.get id db <;> rfl

theorem setURLTestDefaultsStore_nodes (stx : URLTestSyntax) (request : URLTestDefaultsRequest)
    (db : Database) : (setURLTestDefaultsStore stx request db).1.nodes = db.nodes := by
  unfold setURLTestDefaultsStore
  cases request.defaults with
  | none => rfl
  | some config =>
    dsimp only
    cases hvalid : validateURLTestDefaults stx config with
    | error e => rfl
    | ok u =>
      simp only [SettingsManager.setURLTestDefaults, hvalid]
      rfl

/-- A request that saves, updates or deletes the node of a tag. -/
def Names (tag : String) : Request → Prop
  | .saveNode outbound => outbound.tag = tag
  | .updateNode tag' updated => tag' = tag ∨ updated.tag = tag
  | .deleteNode tag' => tag' = tag
  | _ => False

theorem store_node (around : Surroundings) (db : Database) {request : Request} {tag : String}
    (h : ¬request.Names tag) : (request.store around db).1.nodes[tag]? = db.nodes[tag]? := by
  cases request with
  | saveNode outbound =>
    rw [store, saveNodeStore]
    cases hadd : NodeManager.add outbound db with
    | error e => rfl
    | ok db' => exact (NodeManager.get_add hadd tag).trans (if_neg h)
  | updateNode tag' updated =>
    obtain ⟨htag, hupdated⟩ := not_or.mp h
    exact updateNodeStore_other htag hupdated db
  | deleteNode tag' =>
    rw [store, deleteNodeStore]
    split_ifs
    · rfl
    · exact (GoMap.getElem?_erase db.nodes tag' tag).trans (if_neg h)
  | syncToConfig => rfl
  | createSubscription params =>
    exact congrArg (·[tag]?) (createSubscriptionStore_nodes around.stx params db)
  | updateSubscription id params =>
    exact congrArg (·[tag]?) (updateSubscriptionStore_nodes around.stx id params db)
  | deleteSubscription id => exact congrArg (·[tag]?) (deleteSubscriptionStore_nodes id db)
  | refreshSubscription id =>
    have hnodes := refresh_nodes around.download around.now id db
    rw [store, refreshSubscriptionStore]
    rcases hr : SubscriptionManager.refresh around.download around.now id db with ⟨db', _ | _⟩ <;>
      rw [hr] at hnodes <;> exact congrArg (·[tag]?) hnodes
  | refreshAllSubscriptions =>
    have hnodes := refreshAll_nodes around.download around.now db
    rw [store, refreshAllStore]
    rcases hr : SubscriptionManager.refreshAll around.download around.now db with ⟨db', _ | _⟩ <;>
      rw [hr] at hnodes <;> exact congrArg (·[tag]?) hnodes
  | setURLTestDefaults request =>
    exact congrArg (·[tag]?) (setURLTestDefaultsStore_nodes around.stx request db)

theorem handle_node (codec : JSONCodec Bytes) (around : Surroundings) {request : Request}
    {tag : String} (h : ¬request.Names tag) (s : SyncState Bytes) :
    (request.handle codec around s).1.db.nodes[tag]? = s.db.nodes[tag]? :=
  (congrArg (·[tag]?) (handle_db codec around request s).1).trans (store_node around s.db h)

/-- A node that is answered with success is stored. -/
theorem saveNode_stored {codec : JSONCodec Bytes} {around : Surroundings} {outbound : Outbound}
    {s : SyncState Bytes}
    (hok : ((saveNode outbound).handle codec around s).2.statusCode = 200) :
    ((saveNode outbound).handle codec around s).1.db.nodes[outbound.tag]? =
      some (storedOutbound outbound) := by
  rw [(handle_db codec around (saveNode outbound) s).1, store, saveNodeStore]
  rw [handle, store, saveNodeStore] at hok
  cases hadd : NodeManager.add outbound s.db with
  | error e =>
    rw [hadd] at hok
    cases hok
  | ok db' => exact (NodeManager.get_add hadd outbound.tag).trans (if_pos rfl)

end Request

theorem handleAll_node (codec : JSONCodec Bytes) {tag : String}
    {requests : List (Request × Surroundings)} (h : ∀ i ∈ requests, ¬i.1.Names tag)
    (s : SyncState Bytes) :
    (handleAll codec s requests).db.nodes[tag]? = s.db.nodes[tag]? := by
  induction requests generalizing s with
  | nil => rfl
  | cons i requests ih =>
    obtain ⟨hi, hrest⟩ := List.forall_mem_cons.mp h
    exact (ih hrest _).trans (Request.handle_node codec i.2 hi s)

/-- A link that is imported and saved reaches the configuration whole: whatever requests of any
kind follow, as long as none names its tag, every synchronisation that succeeds writes an entry with
the type, tag, server and port of the link and every field of its imported configuration, as JSON
carries it. -/
theorem imported_reaches_config (stx : LinkSyntax) (codec : JSONCodec Bytes) {link : List UInt8}
    {result : ImportResult} (himport : parseProxyLink stx link = .ok result)
    {s : SyncState Bytes} {around : Surroundings}
    (hsaved : ((Request.saveNode (importedOutbound result)).handle codec around s).2.statusCode =
      200)
    {requests : List (Request × Surroundings)} (hothers : ∀ i ∈ requests, ¬i.1.Names result.tag)
    {o : SyncOutcome} :
    let saved := ((Request.saveNode (importedOutbound result)).handle codec around s).1
    let s' := handleAll codec saved requests
    (syncOutboundsToConfig codec o s').2 = .ok () →
      ∃ config, result.config = Object.toValue config ∧
        ∃ entry ∈ (syncOutboundsToConfig codec o s').1.outbounds codec,
          CarriesNode (importedOutbound result) config entry := by
  intro saved s' hok
  obtain ⟨config, hconfig, hdescribes⟩ := describes_parseProxyLink himport
  refine ⟨config, hconfig, ?_⟩
  have hmem : storedOutbound (importedOutbound result) ∈ NodeManager.list s'.db := by
    refine mem_nodes_list.mpr ⟨result.tag, ?_⟩
    exact (handleAll_node codec hothers saved).trans (Request.saveNode_stored hsaved)
  have hraw : rawFields (storedOutbound (importedOutbound result)) = some (Object.json config) := by
    rw [rawFields_storedOutbound]
    have himported : rawFields (importedOutbound result) =
        (Object.toValue config).json.asMap? := by
      unfold importedOutbound rawFields
      rw [hconfig]
      rfl
    rw [himported, Value.asMap?_json, Value.asMap?_toValue]
    rfl
  exact synchronised_carries hok hmem hdescribes hraw

def trojanURL : URL := ⟨bytes "trojan", some ⟨bytes "pw", none⟩, bytes "example.com:443", [], []⟩

def cleanSurroundings : Surroundings :=
  ⟨⟨fun _ => true, fun _ => true⟩, fun _ => .ok [], 0, .clean⟩

/-- The link of a trojan server, another node saved after it, and a synchronisation. -/
theorem trojanLink_reaches_config :
    let saved := ((Request.saveNode (importedOutbound (parseTrojan trojanURL))).handle
      documentCodec cleanSurroundings ⟨emptyConfigDir, emptyDatabase⟩).1
    let s := handleAll documentCodec saved
      [(.saveNode ⟨"b", "trojan", "192.0.2.2", 443, .obj [("password", .str "secret")]⟩,
        cleanSurroundings)]
    ∃ config, (parseTrojan trojanURL).config = Object.toValue config ∧
      ∃ entry ∈ (syncOutboundsToConfig documentCodec .clean s).1.outbounds documentCodec,
        CarriesNode (importedOutbound (parseTrojan trojanURL)) config entry := by
  intro saved s
  have himport : parseProxyLink sampleSyntax (bytes "trojan://pw@example.com:443") =
      .ok (parseTrojan trojanURL) := rfl
  have htag : "b" ≠ (parseTrojan trojanURL).tag := by decide
  have hothers : ∀ i ∈ [((.saveNode
      ⟨"b", "trojan", "192.0.2.2", 443, .obj [("password", .str "secret")]⟩ : Request),
      cleanSurroundings)], ¬i.1.Names (parseTrojan trojanURL).tag :=
    List.forall_mem_singleton.mpr htag
  exact imported_reaches_config sampleSyntax documentCodec himport (by decide) hothers (by decide)

end Boxui.API
