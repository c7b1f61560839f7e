import Boxui.API.SyncIdempotence

/-! What a synchronisation leaves alone: the outbounds of the user, and the configuration around
them. An outbound is the user's by its tag; the code goes by its type. -/
namespace Boxui.API
open GoValue Boxui.Core

/-- The tags of boxd: those of the stored outbounds, also as they are written, those that earlier
synchronisations have written, those of the managed groups, and that of the proxy selector. -/
def SyncInput.ownedTags (input : SyncInput) (earlier : List String) : List String :=
  input.stored.map Outbound.tag ++ input.stored.map writtenTag ++ earlier ++
    input.managedGroups ++ ["proxy"]

/-- The outbounds that are not boxd's. -/
def userOutbounds (owned : List String) (existing : List Value) : List Value :=
  existing.filter fun outbound => outbound.asMap?.isSome && !owned.contains (tagOf outbound)

def withFinal (route : Object) : Object :=
  if route.contains "final" then route else route.insert "final" (.str "proxy")

/-- A route section is as before, up to a final outbound where it had none. -/
def RouteFramed (before after : Option Value) : Prop :=
  ∃ route, (before = some (Object.toValue route) ∨
      (before = none ∨ before = some .null) ∧ route = ∅) ∧
    after = some (Object.toValue (withFinal route))

/-- The outbounds of the user are in the new configuration as they were and in their order, and
nothing else has changed but `route.final`. -/
structure Framed (owned : List String) (config config' : Object) : Prop where
  outbounds : (userOutbounds owned (existingOutbounds config)).Sublist (existingOutbounds config')
  sections : ∀ k, k ≠ "outbounds" → k ≠ "route" → config'[k]? = config[k]?
  route : RouteFramed config["route"]? config'["route"]?

/-- The types of which no outbound is kept, whoever made it. -/
def replacedTypes : List String := managedNodeTypes ++ ["direct", "dns"]

/-- When the user's outbounds survive: none has a replaced type, but the first of them may be the
plain direct outbound, which is written first. -/
structure LeavesUser (owned : List String) (config : Object) : Prop where
  outbounds : ∃ rest, (userOutbounds owned (existingOutbounds config) = rest ∨
      userOutbounds owned (existingOutbounds config) = directOutbound :: rest) ∧
    ∀ outbound ∈ rest, typeOf outbound ∉ replacedTypes
  route : ∀ v, config["route"]? = some v → v = .null ∨ v.asMap?.isSome = true

theorem mem_userOutbounds {owned : List String} {existing : List Value} {outbound : Value} :
    outbound ∈ userOutbounds owned existing ↔
      outbound ∈ existing ∧ outbound.asMap?.isSome = true ∧ tagOf outbound ∉ owned := by
  simp [userOutbounds]

namespace SyncInput

/-- Of an outbound that is not boxd's only the type counts. -/
theorem keeps_user_iff (input : SyncInput) {earlier : List String} {outbound : Value}
    (hobject : outbound.asMap?.isSome = true) (htag : tagOf outbound ∉ input.ownedTags earlier) :
    input.keeps outbound = true ↔ typeOf outbound ∉ replacedTypes := by
  obtain ⟨entry, hentry⟩ := Option.isSome_iff_exists.mp hobject
  have htagOf : tagOf outbound = Object.stringAt entry "tag" := by simp [fieldOf, hentry]
  have htypeOf : typeOf outbound = Object.stringAt entry "type" := by simp [fieldOf, hentry]
  simp only [ownedTags, List.mem_append, not_or, htagOf] at htag
  obtain ⟨⟨-, hmanaged⟩, hproxy⟩ := htag
  have hreplaced : Object.stringAt entry "type" ∈ replacedTypes ↔
      shouldReplaceExistingOutbound input.managedGroups (some entry) = true := by
    rw [shouldReplaceExistingOutbound_some, replacedTypes, List.mem_append]
    simp only [List.mem_cons, List.not_mem_nil, or_false] at hproxy ⊢
    tauto
  rw [keeps, hentry, htypeOf, hreplaced, Bool.not_eq_true', Bool.eq_false_iff]

/-- A user's outbound of a replaced type is none of the entries that are written. -/
theorem not_written_user (input : SyncInput) {earlier : List String} (existing : List Value)
    {outbound : Value} (htag : tagOf outbound ∉ input.ownedTags earlier)
    (htype : typeOf outbound ∈ replacedTypes) :
    ∀ w ∈ input.writers existing, (w.entry existing).json ≠ outbound := by
  have hother : ∀ w ∈ input.writers existing,
      w.tag ≠ tagOf outbound ∨ w.type ≠ typeOf outbound := by
    rw [input.forall_writers_iff existing
      (P := fun type tag => tag ≠ tagOf outbound ∨ type ≠ typeOf outbound)]
    · constructor
      · intro stored hstored
        left
        intro heq
        apply htag
        rw [← heq]
        simp only [ownedTags, List.mem_append]
        exact .inl (.inl (.inl (.inr (List.mem_map_of_mem hstored))))
      · intro subscription hgrouped
        right
        intro heq
        obtain ⟨hmanaged, hdirect, hdns, -⟩ := groupType_group input.defaults subscription
        rw [← heq, replacedTypes, List.mem_append] at htype
        simp only [List.mem_cons, List.not_mem_nil, or_false] at htype
        tauto
    · left
      intro heq
      apply htag
      simp [ownedTags, ← heq]
  intro w hw heq
  rcases hother w hw with h | h
  · apply h
    rw [← heq]
    simp
  · apply h
    rw [← heq]
    simp

/-- Behind the direct outbound, the user's outbounds are there exactly when none of them has a
replaced type. -/
theorem user_sublist_iff (input : SyncInput) (earlier : List String) {existing rest : List Value}
    (hrest : rest.Sublist (userOutbounds (input.ownedTags earlier) existing)) :
    rest.Sublist (input.kept existing ++
        ((input.writers existing).map (OutboundWriter.entry existing)).map Value.json) ↔
      ∀ outbound ∈ rest, typeOf outbound ∉ replacedTypes := by
  have huser : ∀ outbound ∈ rest, outbound.asMap?.isSome = true ∧
      tagOf outbound ∉ input.ownedTags earlier := fun outbound hmem =>
    (mem_userOutbounds.mp (hrest.subset hmem)).2
  constructor
  · intro hsub outbound hmem htype
    obtain ⟨hobject, htag⟩ := huser outbound hmem
    rcases List.mem_append.mp (hsub.subset hmem) with hkept | hwritten
    · have hkeeps : input.keeps outbound = true := List.of_mem_filter hkept
      exact (input.keeps_user_iff hobject htag).mp hkeeps htype
    · rw [List.map_map] at hwritten
      obtain ⟨w, hw, heq⟩ := List.mem_map.mp hwritten
      exact input.not_written_user existing htag htype w hw heq
  · intro htypes
    have hfilter : rest.filter input.keeps = rest := by
      rw [List.filter_eq_self]
      intro outbound hmem
      obtain ⟨hobject, htag⟩ := huser outbound hmem
      exact (input.keeps_user_iff hobject htag).mpr (htypes outbound hmem)
    have hexisting : rest.Sublist existing := hrest.trans List.filter_sublist
    rw [← hfilter]
    exact (hexisting.filter input.keeps).trans (List.sublist_append_left _ _)

theorem user_sublist_outbounds_iff (input : SyncInput) (earlier : List String)
    {existing : List Value} (hexisting : existing.map Value.json = existing) :
    (userOutbounds (input.ownedTags earlier) existing).Sublist
        ((input.outbounds existing).map Value.json) ↔
      ∃ rest, (userOutbounds (input.ownedTags earlier) existing = rest ∨
          userOutbounds (input.ownedTags earlier) existing = directOutbound :: rest) ∧
        ∀ outbound ∈ rest, typeOf outbound ∉ replacedTypes := by
  have houtbounds : (input.outbounds existing).map Value.json =
      directOutbound :: (input.kept existing ++
        ((input.writers existing).map (OutboundWriter.entry existing)).map Value.json) := by
    have hdirect : directOutbound.json = directOutbound := by rfl
    rw [outbounds_eq, List.map_append, List.map_cons, hdirect, input.kept_json hexisting,
      List.cons_append]
  rw [houtbounds, List.sublist_cons_iff]
  constructor
  · rintro (hsub | ⟨rest, heq, hsub⟩)
    · exact ⟨_, .inl rfl, (input.user_sublist_iff earlier (List.Sublist.refl _)).mp hsub⟩
    · refine ⟨rest, .inr heq, ?_⟩
      apply (input.user_sublist_iff earlier _).mp hsub
      rw [heq]
      exact List.sublist_cons_self _ _
  · rintro ⟨rest, rfl | heq, htypes⟩
    · exact .inl ((input.user_sublist_iff earlier (List.Sublist.refl _)).mpr htypes)
    · refine .inr ⟨rest, heq, ?_⟩
      apply (input.user_sublist_iff earlier _).mpr htypes
      rw [heq]
      exact List.sublist_cons_self _ _

end SyncInput

/-- An object read from a file is the value of its fields. -/
theorem toValue_of_asMap? {v : Value} {fields : Object} (hjson : v.json = v)
    (hmap : v.asMap? = some fields) : v = Object.toValue fields := by
  cases v with
  | obj raw =>
    have hdocument := hjson
    rw [Value.json] at hdocument
    change Object.toValue _ = _ at hdocument
    rw [← hdocument, Value.asMap?_toValue] at hmap
    rw [← hdocument, Option.some.inj hmap]
  | _ => cases hmap

theorem json_withFinal (route : Object) :
    Object.json (withFinal route) = withFinal (Object.json route) := by
  have hfinal : (Object.json route).contains "final" = route.contains "final" := by
    rw [Std.ExtTreeMap.contains_eq_isSome_getElem?, Std.ExtTreeMap.contains_eq_isSome_getElem?,
      Object.getElem?_json, Option.isSome_map]
  unfold withFinal
  rw [hfinal]
  split_ifs
  · rfl
  · apply Std.ExtTreeMap.ext_getElem?
    intro k
    simp only [Object.getElem?_json, GoMap.getElem?_insert]
    split_ifs <;> rfl

/-- The written route section is as before up to its final outbound, unless something that is no
object was there. -/
theorem routeFramed_iff {config : Object} (hjson : Object.json config = config)
    (input : SyncInput) :
    RouteFramed config["route"]? (Object.json (syncedConfig input config))["route"]? ↔
      ∀ v, config["route"]? = some v → v = .null ∨ v.asMap?.isSome = true := by
  have hafter : (Object.json (syncedConfig input config))["route"]? =
      some (Object.toValue (withFinal (Object.json (routeOf config)))) := by
    rw [Object.getElem?_json, syncedConfig, getElem?_ensureRouteFinal_route, ← json_withFinal]
    simp [routeOf, withFinal]
  constructor
  · rintro ⟨route, hbefore | ⟨hbefore | hbefore, -⟩, -⟩ v hv
    · obtain rfl := Option.some.inj (hv.symm.trans hbefore)
      simp
    · rw [hv] at hbefore
      cases hbefore
    · exact .inl (Option.some.inj (hv.symm.trans hbefore))
  · intro hroute
    refine ⟨Object.json (routeOf config), ?_, hafter⟩
    cases hv : config["route"]? with
    | none =>
      right
      simp [routeOf, hv, Object.json]
    | some v =>
      rcases hroute v hv with rfl | hobject
      · right
        simp [routeOf, hv, Object.json, Value.asMap?]
      · left
        obtain ⟨fields, hfields⟩ := Option.isSome_iff_exists.mp hobject
        have hvalue : v.json = v := by
          have h := Object.getElem?_json config "route"
          rw [hjson, hv] at h
          exact (Option.some.inj h).symm
        have hcanonical := Value.asMap?_json v
        rw [hvalue, hfields] at hcanonical
        rw [routeOf, hv, Option.bind_some, hfields, Option.getD_some,
          ← Option.some.inj hcanonical, toValue_of_asMap? hvalue hfields]

variable {Bytes : Type*}

/-- A synchronisation that succeeds leaves the user's outbounds and the rest of the configuration
alone exactly when none of these outbounds, but a plain direct one in front, has a type that boxd
replaces, and the route section is an object if there is one. -/
theorem syncOutboundsToConfig_framed_iff (codec : JSONCodec Bytes) {o : SyncOutcome}
    {s : SyncState Bytes} {config config' : Object} (earlier : List String)
    (hconfig : s.config? codec = some config)
    (hok : (syncOutboundsToConfig codec o s).2 = .ok ())
    (hconfig' : (syncOutboundsToConfig codec o s).1.config? codec = some config') :
    Framed ((syncInput s.db).ownedTags earlier) config config' ↔
      LeavesUser ((syncInput s.db).ownedTags earlier) config := by
  obtain ⟨-, hwrote, -⟩ := syncOutboundsToConfig_ok hconfig hok
  have hjson := SyncState.config?_json hconfig
  obtain rfl := Option.some.inj (hwrote.config?.symm.trans hconfig')
  have hexisting : existingOutbounds (Object.json (syncedConfig (syncInput s.db) config)) =
      ((syncInput s.db).outbounds (existingOutbounds config)).map Value.json := by
    rw [existingOutbounds, getElem?_syncedConfig_outbounds]
    rfl
  have houtbounds := (syncInput s.db).user_sublist_outbounds_iff earlier
    (existingOutbounds_json hjson)
  have hroute := routeFramed_iff hjson (syncInput s.db)
  constructor
  · intro h
    exact ⟨houtbounds.mp (hexisting ▸ h.outbounds), hroute.mp h.route⟩
  · intro h
    refine ⟨hexisting ▸ houtbounds.mpr h.outbounds, ?_, hroute.mpr h.route⟩
    intro k hk hkroute
    rw [Object.getElem?_json, syncedConfig, getElem?_ensureRouteFinal _ hkroute,
      GoMap.getElem?_insert, if_neg (Ne.symm hk), ← Object.getElem?_json, hjson]

/-- The plain direct outbound, a WireGuard one of the user's own, and a DNS section; nothing is
stored. -/
def wireguardConfig : Object :=
  let outbound (fields : List (String × Value)) := Object.toValue (.ofList fields compare)
  ((∅ : Object).insert "dns" (outbound [("final", .str "local")])).insert "outbounds" (.list
    [outbound [("type", .str "direct"), ("tag", .str "direct")],
      outbound [("type", .str "wireguard"), ("tag", .str "mine"), ("server", .str "192.0.2.9")]])

def wireguardConfigState : SyncState { v : Value // v.json = v } where
  dir := ⟨some (documentCodec.marshal (Object.toValue wireguardConfig)), none⟩
  db := emptyDatabase

theorem wireguardConfig_framed :
    ∃ config', (syncOutboundsToConfig documentCodec .clean wireguardConfigState).1.config?
        documentCodec = some config' ∧
      Framed ((syncInput emptyDatabase).ownedTags []) (Object.json wireguardConfig) config' := by
  have hconfig : wireguardConfigState.config? documentCodec =
      some (Object.json wireguardConfig) :=
    SyncState.config?_eq_some.mpr ⟨_, rfl, decodeConfig_marshal documentCodec _⟩
  have hok : (syncOutboundsToConfig documentCodec .clean wireguardConfigState).2 = .ok () := by
    decide
  have hwritten := (syncOutboundsToConfig_ok hconfig hok).2.1.config?
  have hleaves :
      LeavesUser ((syncInput emptyDatabase).ownedTags []) (Object.json wireguardConfig) :=
    ⟨⟨(existingOutbounds (Object.json wireguardConfig)).drop 1, .inr rfl, by decide⟩,
      fun v hv => by cases hv⟩
  exact ⟨_, hwritten,
    (syncOutboundsToConfig_framed_iff documentCodec [] hconfig hok hwritten).mpr hleaves⟩

/-- The direct and bypass outbounds of `InstallDefaultOutbounds`, and a node of the user's own;
nothing is stored. -/
def bypassConfig : Object :=
  let outbound (fields : List (String × Value)) := Object.toValue (.ofList fields compare)
  (∅ : Object).insert "outbounds" (.list
    [outbound [("type", .str "direct"), ("tag", .str "direct"), ("routing_mark", .int 128)],
      outbound [("type", .str "direct"), ("tag", .str "bypass"), ("routing_mark", .int 128)],
      outbound [("type", .str "trojan"), ("tag", .str "mine"), ("server", .str "192.0.2.9")]])

def bypassState : SyncState { v : Value // v.json = v } where
  dir := ⟨some (documentCodec.marshal (Object.toValue bypassConfig)), none⟩
  db := emptyDatabase

theorem bypassState_config : bypassState.config? documentCodec = some (Object.json bypassConfig) :=
  SyncState.config?_eq_some.mpr ⟨_, rfl, decodeConfig_marshal documentCodec _⟩

theorem bypassState_wrote : (syncOutboundsToConfig documentCodec .clean bypassState).1.Wrote
    documentCodec (syncInput bypassState.db) (Object.json bypassConfig) :=
  (syncOutboundsToConfig_ok bypassState_config (by decide)).2.1

/-- The synchronisation leaves one plain direct outbound of the three. -/
theorem bypassState_not_framed :
    (syncOutboundsToConfig documentCodec .clean bypassState).2 = .ok () ∧
      ∃ config', (syncOutboundsToConfig documentCodec .clean bypassState).1.config?
          documentCodec = some config' ∧
        ¬Framed ((syncInput bypassState.db).ownedTags []) (Object.json bypassConfig) config' := by
  refine ⟨by decide, _, bypassState_wrote.config?, ?_⟩
  intro h
  have htags := h.outbounds.map tagOf
  have hbefore : (userOutbounds ((syncInput bypassState.db).ownedTags [])
      (existingOutbounds (Object.json bypassConfig))).map tagOf = ["direct", "bypass", "mine"] := by
    decide
  have hafter : (existingOutbounds (Object.json (syncedConfig (syncInput bypassState.db)
      (Object.json bypassConfig)))).map tagOf = ["direct"] := by decide
  rw [hbefore, hafter] at htags
  exact absurd htags.length_le (by decide)

end Boxui.API
