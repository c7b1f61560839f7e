import Boxui.API.ManagedEntries
import Boxui.API.NodeUpdate
import Boxui.API.SyncIdempotence
import Mathlib.Data.List.Forall2

/-! Whether the nodes that the API has accepted reach the configuration. What a request gives as
the configuration of a node is stored as it is, and every synchronisation reads it again. -/
namespace Boxui.API
open GoValue Boxui.Core Machine

variable {Bytes : Type*}

/-- The entry has the type, tag, server and port of the node. -/
def WrittenAs (outbound : Outbound) (entry : Value) : Prop :=
  ∀ (k : String) (v : Value), (identityFields outbound)[k]? = some v →
    entry.asMap?.bind (·[k]?) = some v.json

/-- The raw configuration is missing, or an object that says nothing else of the identity. -/
def Plain (outbound : Outbound) : Prop :=
  ∃ raw, rawFields outbound = some raw ∧
    ∀ (k : String) (v : Value), (identityFields outbound)[k]? = some v →
      ∀ v', raw[k]? = some v' → v' = v.json

/-- Whatever object the configuration file holds, a synchronisation without faults succeeds, and
behind the outbounds it keeps it writes every stored node, in order and as it is stored. -/
def WritesNodes (codec : JSONCodec Bytes) (db : Database) : Prop :=
  ∀ (o : SyncOutcome) (dir : Directory Bytes) (config : Object), o.NoFault →
    SyncState.config? codec ⟨dir, db⟩ = some config →
      (syncOutboundsToConfig codec o ⟨dir, db⟩).2 = .ok () ∧
        ∃ entries rest,
          (syncOutboundsToConfig codec o ⟨dir, db⟩).1.outbounds codec =
            directOutbound :: (syncInput db).kept (existingOutbounds config) ++ entries ++ rest ∧
          List.Forall₂ WrittenAs (NodeManager.list db) entries

theorem rawFields_storedOutbound (outbound : Outbound) :
    rawFields (storedOutbound outbound) = rawFields outbound := by
  obtain ⟨tag, type, server, port, raw⟩ := outbound
  cases raw with
  | obj fields =>
    change (Value.json (Value.json (.obj fields))).asMap? = (Value.json (.obj fields)).asMap?
    rw [Value.json_json]
  | _ => rfl

theorem plain_storedOutbound (outbound : Outbound) :
    Plain (storedOutbound outbound) ↔ Plain outbound := by
  unfold Plain
  rw [rawFields_storedOutbound]
  rfl

namespace OutboundWriter

/-- The writer of a stored outbound, with or without the proxy members laid over its entry. -/
def Writes (outbound : Outbound) (w : OutboundWriter) : Prop :=
  ∀ k v, (identityFields outbound)[k]? = some v → w.own k = (stored outbound).own k

theorem stored_writes (outbound : Outbound) : (stored outbound).Writes outbound :=
  fun _ _ _ => rfl

theorem withMembers_writes (members : List String) (defaultTag : String) (outbound : Outbound) :
    ((stored outbound).withMembers members defaultTag).Writes outbound := by
  intro k v hk
  have hdefault : k ≠ "default" := by
    rintro rfl
    simp [identityFields] at hk
  have houtbounds : k ≠ "outbounds" := by
    rintro rfl
    simp [identityFields] at hk
  simp [withMembers, hdefault, houtbounds]

/-- The writers of the stored outbounds come first, in their order. -/
theorem place_stored (members : List String) (defaultTag : String) (outbounds : List Outbound) :
    ∃ ws rest, place members defaultTag (outbounds.map stored) = ws ++ rest ∧
      List.Forall₂ (fun outbound w => Writes outbound w) outbounds ws := by
  induction outbounds with
  | nil => exact ⟨[], _, rfl, .nil⟩
  | cons outbound outbounds ih =>
    rw [List.map_cons, place]
    split_ifs
    · refine ⟨_ :: outbounds.map stored, [], by rw [List.append_nil], ?_⟩
      refine .cons (withMembers_writes members defaultTag outbound) ?_
      rw [List.forall₂_map_right_iff]
      exact List.forall₂_same.mpr fun outbound _ => stored_writes outbound
    · obtain ⟨ws, rest, heq, hws⟩ := ih
      exact ⟨_ :: ws, rest, by rw [heq, List.cons_append], .cons (stored_writes outbound) hws⟩

/-- The entry of a node is as it is stored exactly when the raw configuration says nothing else. -/
theorem Writes.writtenAs_iff {outbound : Outbound} {w : OutboundWriter} (hw : Writes outbound w)
    {raw : Object} (hraw : rawFields outbound = some raw) (existing : List Value) :
    WrittenAs outbound (w.entry existing).json ↔ Plain outbound := by
  have hfield : ∀ (k : String) (v : Value), (identityFields outbound)[k]? = some v →
      (w.entry existing).json.asMap?.bind (·[k]?) = some (((raw[k]?).getD v).json) := by
    intro k v hk
    have hown : w.own k = some (some ((raw[k]?).getD v)) := by
      rw [hw k v hk]
      simp only [stored, ownFields_eq, hraw, Option.getD_some, Std.ExtTreeMap.getElem?_union, hk]
      cases raw[k]? <;> rfl
    simp [entry, Object.getElem?_json, w.getElem?_write, hown]
  have hcanonical : ∀ (k : String) (v' : Value), raw[k]? = some v' → v'.json = v' := by
    intro k v' hv'
    have h := Object.getElem?_json raw k
    rw [rawFields_json hraw, hv'] at h
    exact (Option.some.inj h).symm
  constructor
  · intro h
    refine ⟨raw, hraw, ?_⟩
    intro k v hk v' hv'
    have heq := h k v hk
    rw [hfield k v hk, hv', Option.getD_some, hcanonical k v' hv'] at heq
    exact Option.some.inj heq
  · rintro ⟨raw', hraw', h⟩ k v hk
    obtain rfl := Option.some.inj (hraw.symm.trans hraw')
    rw [hfield k v hk]
    cases hv' : raw[k]? with
    | none => rfl
    | some v' => rw [Option.getD_some, h k v hk v' hv', Value.json_json]

end OutboundWriter

theorem writers_stored (input : SyncInput) (existing : List Value)
    (hsubscriptions : input.subscriptions = []) :
    ∃ ws rest, input.writers existing = ws ++ rest ∧
      List.Forall₂ (fun outbound w => OutboundWriter.Writes outbound w) input.nodes ws := by
  have hbase : input.baseWriters = input.nodes.map OutboundWriter.stored := by
    simp [SyncInput.baseWriters, SyncInput.stored, SyncInput.grouped, hsubscriptions]
  unfold SyncInput.writers
  rw [hbase]
  cases input.groupTags ++ input.proxyTags existing with
  | nil =>
    refine ⟨_, [], (List.append_nil _).symm, ?_⟩
    rw [List.forall₂_map_right_iff]
    exact List.forall₂_same.mpr fun outbound _ => OutboundWriter.stored_writes outbound
  | cons defaultTag rest => exact OutboundWriter.place_stored _ _ _

/-- Entry by entry, the nodes are written as they are stored exactly when all of them are plain. -/
theorem forall₂_writtenAs_iff {nodes : List Outbound} {ws : List OutboundWriter}
    (hws : List.Forall₂ (fun outbound w => OutboundWriter.Writes outbound w) nodes ws)
    (hraw : ∀ outbound ∈ nodes, (rawFields outbound).isSome = true) (existing : List Value) :
    List.Forall₂ WrittenAs nodes ((ws.map (OutboundWriter.entry existing)).map Value.json) ↔
      ∀ outbound ∈ nodes, Plain outbound := by
  induction hws with
  | nil => simp
  | cons hw _ ih =>
    rw [List.forall_mem_cons] at hraw
    obtain ⟨raw, hfields⟩ := Option.isSome_iff_exists.mp hraw.1
    simp only [List.map_cons, List.forall₂_cons, hw.writtenAs_iff hfields, ih hraw.2,
      List.forall_mem_cons]

theorem Plain.isSome {outbound : Outbound} (h : Plain outbound) :
    (rawFields outbound).isSome = true := by
  obtain ⟨raw, hraw, -⟩ := h
  rw [hraw]
  rfl

/-- Every configuration gets every node exactly when all stored nodes are plain. -/
theorem writesNodes_iff (codec : JSONCodec Bytes) {db : Database}
    (hsubscriptions : SubscriptionManager.list db = []) :
    WritesNodes codec db ↔ ∀ outbound ∈ NodeManager.list db, Plain outbound := by
  have hstored : (syncInput db).stored = NodeManager.list db := by
    simp [SyncInput.stored, syncInput, hsubscriptions]
  have hwritten {o : SyncOutcome} {dir : Directory Bytes} {config : Object}
      (hconfig : SyncState.config? codec ⟨dir, db⟩ = some config)
      (hok : (syncOutboundsToConfig codec o ⟨dir, db⟩).2 = .ok ()) :
      ∃ ws rest, (syncOutboundsToConfig codec o ⟨dir, db⟩).1.outbounds codec =
          directOutbound :: (syncInput db).kept (existingOutbounds config) ++
            (ws.map (OutboundWriter.entry (existingOutbounds config))).map Value.json ++ rest ∧
        List.Forall₂ (fun outbound w => OutboundWriter.Writes outbound w)
          (NodeManager.list db) ws := by
    obtain ⟨-, hwrote, -⟩ := syncOutboundsToConfig_ok hconfig hok
    obtain ⟨ws, rest, hwriters, hws⟩ :=
      writers_stored (syncInput db) (existingOutbounds config) hsubscriptions
    have hdirect : directOutbound.json = directOutbound := by rfl
    have hkept := (syncInput db).kept_json
      (existingOutbounds_json (SyncState.config?_json hconfig))
    refine ⟨ws, (rest.map (OutboundWriter.entry (existingOutbounds config))).map Value.json, ?_,
      hws⟩
    rw [hwrote.outbounds, SyncInput.outbounds_eq, hwriters]
    simp only [List.map_append, List.map_cons, hdirect, hkept, List.append_assoc]
  constructor
  · intro h
    have hconfig : SyncState.config? codec
        ⟨⟨some (codec.marshal (Object.toValue ∅)), none⟩, db⟩ = some (Object.json ∅) :=
      SyncState.config?_eq_some.mpr ⟨_, rfl, decodeConfig_marshal codec ∅⟩
    obtain ⟨hok, entries, rest, hentries, hall⟩ := h .clean _ _ SyncOutcome.clean_noFault hconfig
    obtain ⟨hdecodable, -, -⟩ := syncOutboundsToConfig_ok hconfig hok
    obtain ⟨ws, rest', hws, hwrites⟩ := hwritten hconfig hok
    have hsplit := hentries.symm.trans hws
    rw [List.append_assoc, List.append_assoc] at hsplit
    have hlength : entries.length =
        ((ws.map (OutboundWriter.entry (existingOutbounds (Object.json ∅)))).map
          Value.json).length := by
      rw [List.length_map, List.length_map, ← hall.length_eq, hwrites.length_eq]
    obtain ⟨rfl, -⟩ := List.append_inj (List.append_cancel_left hsplit) hlength
    refine (forall₂_writtenAs_iff hwrites ?_ _).mp hall
    rw [← hstored]
    exact hdecodable
  · intro h o dir config ho hconfig
    have hdecodable : (syncInput db).Decodable := by
      intro outbound hmem
      rw [hstored] at hmem
      exact (h outbound hmem).isSome
    have hok := syncOutboundsToConfig_succeeds ho hconfig hdecodable
    obtain ⟨ws, rest, hws, hwrites⟩ := hwritten hconfig hok
    refine ⟨hok, _, rest, hws, ?_⟩
    exact (forall₂_writtenAs_iff hwrites (fun outbound hmem => (h outbound hmem).isSome) _).mpr h

/-- The node of a request that saves or updates one. -/
def Request.node? : Request → Option Outbound
  | .saveNode outbound | .updateNode _ outbound => some outbound
  | _ => none

/-- The request saves or updates a node, and is answered with success. -/
def Accepted (codec : JSONCodec Bytes) (s : SyncState Bytes) (i : Request × Surroundings) : Prop :=
  i.1.node?.isSome = true ∧ (i.1.handle codec i.2 s).2.statusCode = 200

theorem handle_db (codec : JSONCodec Bytes) (around : Surroundings) (request : Request)
    (s : SyncState Bytes) :
    (request.handle codec around s).1.db.nodes = (request.store around s.db).1.nodes ∧
      (request.handle codec around s).1.db.subscriptions =
        (request.store around s.db).1.subscriptions := by
  unfold Request.handle
  rcases request.store around s.db with ⟨db, response | respond⟩
  · exact ⟨rfl, rfl⟩
  · dsimp only
    rcases syncOutboundsToConfig_cases codec around.sync ⟨s.dir, db⟩ with
      ⟨-, -, -, -, -, hdb⟩ | ⟨-, hdb, -⟩
    · rw [hdb]
      exact ⟨rfl, rfl⟩
    · rw [hdb]
      exact ⟨rfl, rfl⟩

/-- An accepted request stores its node, and no other. -/
theorem Accepted.store_eq {codec : JSONCodec Bytes} {s : SyncState Bytes}
    {i : Request × Surroundings} (h : Accepted codec s i) :
    ∃ outbound db, i.1.node? = some outbound ∧ (db = s.db ∨
        ∃ tag, db = NodeManager.delete tag s.db) ∧
      (i.1.store i.2 s.db).1 =
        { db with nodes := db.nodes.insert outbound.tag (storedOutbound outbound) } := by
  obtain ⟨request, around⟩ := i
  obtain ⟨hnode, hcode⟩ := h
  have hrespond {db : Database} {response : Response}
      (hstore : request.store around s.db = (db, .respond response)) :
      response.statusCode = 200 := by
    rw [Request.handle] at hcode
    dsimp only at hcode
    rwa [hstore] at hcode
  cases request with
  | saveNode outbound =>
    refine ⟨outbound, s.db, rfl, .inl rfl, ?_⟩
    rw [Request.store, Request.saveNodeStore] at hrespond ⊢
    cases hadd : NodeManager.add outbound s.db with
    | error e =>
      rw [hadd] at hrespond
      cases hrespond rfl
    | ok db => exact NodeManager.add_ok hadd
  | updateNode tag updated =>
    rw [Request.store, Request.updateNodeStore] at hrespond ⊢
    by_cases htag : tag = ""
    · rw [if_pos htag] at hrespond
      cases hrespond rfl
    rw [if_neg htag] at hrespond ⊢
    cases hget : NodeManager.get tag s.db with
    | none =>
      rw [hget] at hrespond
      cases hrespond rfl
    | some node =>
      rw [hget] at hrespond
      dsimp only at hrespond ⊢
      by_cases hrequired : updated.tag = "" ∨ updated.type = ""
      · rw [if_pos hrequired] at hrespond
        cases hrespond rfl
      rw [if_neg hrequired] at hrespond ⊢
      refine ⟨updated, if updated.tag ≠ tag then NodeManager.delete tag s.db else s.db, rfl, ?_, ?_⟩
      · split_ifs
        · exact .inr ⟨tag, rfl⟩
        · exact .inl rfl
      · cases hadd : NodeManager.add updated
            (if updated.tag ≠ tag then NodeManager.delete tag s.db else s.db) with
        | error e =>
          rw [hadd] at hrespond
          cases hrespond rfl
        | ok db => exact NodeManager.add_ok hadd
  | _ => cases hnode

theorem mem_nodes_list {db : Database} {outbound : Outbound} :
    outbound ∈ NodeManager.list db ↔ ∃ tag : String, db.nodes[tag]? = some outbound := by
  simp only [NodeManager.list, List.mem_map, Prod.exists, exists_eq_right,
    Std.ExtTreeMap.mem_toList_iff_getElem?_eq_some]

/-- What an accepted request leaves in the stores: the nodes that were there, and its own. -/
theorem Accepted.step {codec : JSONCodec Bytes} {s : SyncState Bytes} {i : Request × Surroundings}
    (h : Accepted codec s i) :
    (i.1.handle codec i.2 s).1.db.subscriptions = s.db.subscriptions ∧
      ∃ outbound, i.1.node? = some outbound ∧
        ∀ node ∈ NodeManager.list (i.1.handle codec i.2 s).1.db,
          node = storedOutbound outbound ∨ node ∈ NodeManager.list s.db := by
  obtain ⟨outbound, db, hnode, hdb, hstore⟩ := h.store_eq
  obtain ⟨hnodes, hsubscriptions⟩ := handle_db codec i.2 i.1 s
  have hkept : db.subscriptions = s.db.subscriptions ∧
      ∀ (tag : String) (node : Outbound), db.nodes[tag]? = some node →
        s.db.nodes[tag]? = some node := by
    rcases hdb with rfl | ⟨tag, rfl⟩
    · exact ⟨rfl, fun _ _ hget => hget⟩
    · refine ⟨rfl, ?_⟩
      intro k node hget
      simp only [NodeManager.delete, GoMap.getElem?_erase] at hget
      split_ifs at hget
      exact hget
  rw [hstore] at hnodes hsubscriptions
  refine ⟨hsubscriptions.trans hkept.1, outbound, hnode, ?_⟩
  intro node hmem
  obtain ⟨tag, hget⟩ := mem_nodes_list.mp hmem
  rw [hnodes, GoMap.getElem?_insert] at hget
  split_ifs at hget
  · exact .inl (Option.some.inj hget).symm
  · exact .inr (mem_nodes_list.mpr ⟨tag, hkept.2 tag node hget⟩)

/-- The run of the requests. -/
abbrev handleAll (codec : JSONCodec Bytes) (s : SyncState Bytes)
    (requests : List (Request × Surroundings)) : SyncState Bytes :=
  run (fun s i => (i.1.handle codec i.2 s).1) s requests

/-- A stored node is that of an accepted request, or was stored before the run. -/
theorem handleAll_nodes (codec : JSONCodec Bytes) {s : SyncState Bytes}
    {requests : List (Request × Surroundings)}
    (hrun : Along (fun s i => (i.1.handle codec i.2 s).1) (Accepted codec) s requests) :
    (handleAll codec s requests).db.subscriptions = s.db.subscriptions ∧
      ∀ node ∈ NodeManager.list (handleAll codec s requests).db,
        node ∈ NodeManager.list s.db ∨
          ∃ i ∈ requests, ∃ outbound, i.1.node? = some outbound ∧
            node = storedOutbound outbound := by
  induction requests generalizing s with
  | nil => exact ⟨rfl, fun node hmem => .inl hmem⟩
  | cons i requests ih =>
    obtain ⟨hsubscriptions, outbound, hnode, hstep⟩ := hrun.1.step
    obtain ⟨hrest, hnodes⟩ := ih hrun.2
    refine ⟨hrest.trans hsubscriptions, ?_⟩
    intro node hmem
    rcases hnodes node hmem with hbefore | ⟨j, hj, hlater⟩
    · rcases hstep node hbefore with rfl | hold
      · exact .inr ⟨i, List.mem_cons_self, outbound, hnode, rfl⟩
      · exact .inl hold
    · exact .inr ⟨j, List.mem_cons_of_mem i hj, hlater⟩

/-- After any run of accepted requests from an empty store, every configuration gets every node as
it is stored exactly when all stored nodes are plain; so it does when those of all requests are. -/
theorem acceptedNodes_written_iff (codec : JSONCodec Bytes) (dir : Directory Bytes)
    {requests : List (Request × Surroundings)}
    (hrun : Along (fun s i => (i.1.handle codec i.2 s).1) (Accepted codec) ⟨dir, emptyDatabase⟩
      requests) :
    (WritesNodes codec (handleAll codec ⟨dir, emptyDatabase⟩ requests).db ↔
      ∀ node ∈ NodeManager.list (handleAll codec ⟨dir, emptyDatabase⟩ requests).db, Plain node) ∧
    ((∀ i ∈ requests, ∀ outbound, i.1.node? = some outbound → Plain outbound) →
      WritesNodes codec (handleAll codec ⟨dir, emptyDatabase⟩ requests).db) := by
  obtain ⟨hsubscriptions, hnodes⟩ := handleAll_nodes codec hrun
  have hiff : WritesNodes codec (handleAll codec ⟨dir, emptyDatabase⟩ requests).db ↔
      ∀ node ∈ NodeManager.list (handleAll codec ⟨dir, emptyDatabase⟩ requests).db,
        Plain node := by
    apply writesNodes_iff
    rw [SubscriptionManager.list, hsubscriptions]
    rfl
  refine ⟨hiff, ?_⟩
  intro hplain
  apply hiff.mpr
  intro node hmem
  rcases hnodes node hmem with hbefore | ⟨i, hi, outbound, hnode, rfl⟩
  · exact absurd hbefore List.not_mem_nil
  · exact (plain_storedOutbound outbound).mpr (hplain i hi outbound hnode)

/-- Two nodes, the first with a text for its configuration, saved next to an empty configuration
while no call fails. -/
def textConfigRequests : List (Request × Surroundings) :=
  let around : Surroundings := ⟨⟨fun _ => true, fun _ => true⟩, fun _ => .ok [], 0, .clean⟩
  [(.saveNode ⟨"a", "trojan", "192.0.2.1", 443, .str "password"⟩, around),
    (.saveNode ⟨"b", "trojan", "192.0.2.2", 443, .obj [("password", .str "secret")]⟩, around)]

def emptyConfigDir : Directory { v : Value // v.json = v } :=
  ⟨some (documentCodec.marshal (Object.toValue ∅)), none⟩

theorem textConfigRequests_accepted :
    Along (fun s (i : Request × Surroundings) => (i.1.handle documentCodec i.2 s).1)
      (Accepted documentCodec) ⟨emptyConfigDir, emptyDatabase⟩ textConfigRequests :=
  ⟨⟨by decide, by decide⟩, ⟨by decide, by decide⟩, trivial⟩

/-- Without the first of them the node is written. -/
theorem objectConfigRequests_written :
    (NodeManager.list (handleAll documentCodec ⟨emptyConfigDir, emptyDatabase⟩
        textConfigRequests.tail).db).length = 1 ∧
      WritesNodes documentCodec
        (handleAll documentCodec ⟨emptyConfigDir, emptyDatabase⟩ textConfigRequests.tail).db := by
  have haccepted : Along (fun s (i : Request × Surroundings) => (i.1.handle documentCodec i.2 s).1)
      (Accepted documentCodec) ⟨emptyConfigDir, emptyDatabase⟩ textConfigRequests.tail :=
    ⟨⟨by decide, by decide⟩, trivial⟩
  refine ⟨by decide, (acceptedNodes_written_iff documentCodec emptyConfigDir haccepted).2 ?_⟩
  intro i hi outbound hnode
  obtain rfl := List.mem_singleton.mp hi
  obtain rfl := Option.some.inj hnode
  refine ⟨(∅ : Object).insert "password" (.str "secret"), rfl, ?_⟩
  intro k v hk v' hv'
  rw [GoMap.getElem?_insert] at hv'
  split_ifs at hv' with hkey
  · subst hkey
    have hnone : (identityFields ⟨"b", "trojan", "192.0.2.2", 443,
        .obj [("password", .str "secret")]⟩)["password"]? = none := by
      simp only [identityFields, GoMap.getElem?_insert]
      decide
    cases hnone.symm.trans hk
  · cases hv'

/-- Both requests are answered with success, and neither node can be written any more. -/
theorem textConfigRequests_not_written :
    Along (fun s (i : Request × Surroundings) => (i.1.handle documentCodec i.2 s).1)
        (Accepted documentCodec) ⟨emptyConfigDir, emptyDatabase⟩ textConfigRequests ∧
      ¬WritesNodes documentCodec
        (handleAll documentCodec ⟨emptyConfigDir, emptyDatabase⟩ textConfigRequests).db := by
  refine ⟨textConfigRequests_accepted, ?_⟩
  intro h
  have hconfig : SyncState.config? documentCodec ⟨emptyConfigDir,
      (handleAll documentCodec ⟨emptyConfigDir, emptyDatabase⟩ textConfigRequests).db⟩ =
        some (Object.json ∅) :=
    SyncState.config?_eq_some.mpr ⟨_, rfl, decodeConfig_marshal documentCodec ∅⟩
  have hok := (h .clean emptyConfigDir _ SyncOutcome.clean_noFault hconfig).1
  exact absurd hok (by decide)

end Boxui.API
