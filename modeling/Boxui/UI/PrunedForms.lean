import Boxui.UI.InboundForm
import Boxui.UI.RouteForm

/-! Pruning over the fields of the outbound, the inbound and the route rule form. -/
namespace Boxui.UI.Forms
open GoValue JSValue

theorem mem_of_mem_ite {α : Type} {p : Prop} [Decidable p] {fields : List α} {field : α}
    (h : field ∈ if p then fields else []) : field ∈ fields := by
  split_ifs at h
  · exact h
  · cases h

/-- Every field the outbound form can show. -/
def outboundFields : List FieldSpec :=
  OutboundForm.dialerFields ++ OutboundForm.groupMap.flatMap Prod.snd ++
    OutboundForm.protocolMap.flatMap Prod.snd ++ OutboundForm.outboundTLSFields ++
    OutboundForm.transportBase ++ OutboundForm.transportMap.flatMap Prod.snd ++
    OutboundForm.outboundMultiplexFields

theorem mem_outboundFields (type transportType : String) (field : FieldSpec)
    (h : field ∈ OutboundForm.managedOutboundFields type transportType) :
    field ∈ outboundFields := by
  have hlookup : ∀ (registry : List (String × List FieldSpec)) (name : String),
      field ∈ (registry.lookup name).getD [] → field ∈ registry.flatMap Prod.snd := by
    intro registry name hmem
    cases hname : registry.lookup name with
    | none =>
      rw [hname] at hmem
      cases hmem
    | some fields =>
      rw [hname] at hmem
      exact mem_flatMap_of_lookup hname hmem
  simp only [OutboundForm.managedOutboundFields, List.mem_append] at h
  simp only [outboundFields, List.mem_append]
  obtain (((hdialer | hprotocol) | htls) | htransport) | hmultiplex := h
  · simp only [mem_of_mem_ite hdialer, true_or]
  · split_ifs at hprotocol
    · simp only [hlookup _ _ hprotocol, true_or, or_true]
    · simp only [hlookup _ _ hprotocol, true_or, or_true]
  · simp only [mem_of_mem_ite htls, true_or, or_true]
  · obtain hbase | htype := List.mem_append.mp (mem_of_mem_ite htransport)
    · simp only [hbase, true_or, or_true]
    · simp only [hlookup _ _ htype, true_or, or_true]
  · simp only [mem_of_mem_ite hmultiplex, or_true]

/-- Every field the inbound form can show. -/
def inboundFields : List FieldSpec :=
  InboundForm.listenFields ++ InboundForm.protocolMap.flatMap Prod.snd ++ InboundForm.tunFields ++
    InboundForm.tlsFields ++ InboundForm.transportFields ++
    InboundForm.transportByType.flatMap Prod.snd ++ InboundForm.multiplexFields

theorem mem_inboundFields {type transportType : String} {fields : List FieldSpec}
    (h : InboundForm.managedInboundFields type transportType = some fields) (field : FieldSpec)
    (hfield : field ∈ fields) : field ∈ inboundFields := by
  simp only [InboundForm.managedInboundFields, Option.bind_eq_some_iff,
    Option.map_eq_some_iff] at h
  obtain ⟨protocol, hprotocol, transport, htransport, rfl⟩ := h
  simp only [List.mem_append] at hfield
  simp only [inboundFields, List.mem_append]
  obtain ((((hlisten | hmem) | htun) | htls) | hmem) | hmultiplex := hfield
  · simp only [hlisten, true_or]
  · simp only [mem_flatMap_of_entry hprotocol hmem, true_or, or_true]
  · simp only [htun, true_or, or_true]
  · simp only [mem_of_mem_ite htls, true_or, or_true]
  · split_ifs at htransport
    · simp only [InboundForm.transportTypeFields, Option.map_eq_some_iff] at htransport
      obtain ⟨fields, hfields, rfl⟩ := htransport
      obtain hbase | htype := List.mem_append.mp hmem
      · simp only [hbase, true_or, or_true]
      · simp only [mem_flatMap_of_entry hfields htype, true_or, or_true]
    · obtain rfl := Option.some.inj htransport
      cases hmem
  · simp only [mem_of_mem_ite hmultiplex, or_true]

/-- Every field the form of a route rule can show. -/
def routeRuleFields : List PolicyFieldSpec :=
  RouteForm.logicalRuleFields ++ RouteForm.defaultRuleFields ++
    RouteForm.routeActionFields.flatMap Prod.snd

theorem mem_routeRuleFields {type action : String} {fields : List PolicyFieldSpec}
    (h : RouteForm.managedRouteRuleFields type action = some fields) (field : PolicyFieldSpec)
    (hfield : field ∈ fields) : field ∈ routeRuleFields := by
  simp only [RouteForm.managedRouteRuleFields, Option.map_eq_some_iff] at h
  obtain ⟨actionFields, haction, rfl⟩ := h
  simp only [routeRuleFields, List.mem_append]
  obtain hmatch | hmem := List.mem_append.mp hfield
  · split_ifs at hmatch
    · simp only [hmatch, true_or]
    · simp only [hmatch, true_or, or_true]
  · simp only [mem_flatMap_of_entry haction hmem, or_true]

theorem stable_outboundFields : Stable FieldSpec.path FieldSpec.when outboundFields := by
  decide +kernel

theorem stable_inboundFields : Stable FieldSpec.path FieldSpec.when inboundFields := by
  decide +kernel

theorem stable_routeRuleFields :
    Stable PolicyFieldSpec.path PolicyFieldSpec.when routeRuleFields := by
  decide +kernel

/-- What pruning comes to for every object and every order of a list of fields: one result, in
which all that was removed is hidden. -/
def OrderFree {φ : Type} (get : Object → List String → Read)
    (set : Object → List String → Option Value → Object) (path : φ → List String)
    (when : φ → List FieldWhen) (fields : List φ) : Prop :=
  ∀ object, ∃ result, ∀ order, order.Perm fields → ∃ removed,
    (∀ fuel, fields.length < fuel → pruneRounds get set path when fuel object order = some result) ∧
    Pruned get set path when order object result removed ∧
    ∀ field ∈ removed, visibleBy get when result field = false

/-- Pruning ends with every field visible or undefined, leaves the rest alone and is idempotent;
over the fields of the forms it does not depend on their order. -/
theorem pruneInvisible_spec :
    (∀ (object : Object) (fields : List FieldSpec), (∀ field ∈ fields, PlainPath field.path) →
      ∃ result removed,
        (∀ fuel, fields.length < fuel → pruneInvisibleFields fuel object fields = some result) ∧
        Pruned getPath setPath FieldSpec.path FieldSpec.when fields object result removed ∧
        ∀ fuel, 0 < fuel → pruneInvisibleFields fuel result fields = some result) ∧
      (∀ (object : Object) (fields : List PolicyFieldSpec),
        (∀ field ∈ fields, PlainPath field.path) → ∃ result removed,
          (∀ fuel, fields.length < fuel →
            pruneInvisiblePolicyFields fuel object fields = some result) ∧
          Pruned getPolicyPath setPolicyPath PolicyFieldSpec.path PolicyFieldSpec.when fields
            object result removed ∧
          ∀ fuel, 0 < fuel → pruneInvisiblePolicyFields fuel result fields = some result) ∧
      (∀ type transportType, OrderFree getPath setPath FieldSpec.path FieldSpec.when
        (OutboundForm.managedOutboundFields type transportType)) ∧
      (∀ type transportType fields,
        InboundForm.managedInboundFields type transportType = some fields →
        OrderFree getPath setPath FieldSpec.path FieldSpec.when fields) ∧
      ∀ type action fields, RouteForm.managedRouteRuleFields type action = some fields →
        OrderFree getPolicyPath setPolicyPath PolicyFieldSpec.path PolicyFieldSpec.when fields := by
  refine ⟨fun object fields h => pruneRounds_pruned h object, ?_, ?_, ?_, ?_⟩
  · intro object fields h
    simp only [pruneInvisiblePolicyFields, getPolicyPath_eq, setPolicyPath_eq]
    exact pruneRounds_pruned h object
  · intro type transportType
    exact (stable_outboundFields.subset (mem_outboundFields type transportType)).pruneRounds_perm
  · intro type transportType fields h
    exact (stable_inboundFields.subset (mem_inboundFields h)).pruneRounds_perm
  · intro type action fields h
    rw [getPolicyPath_eq, setPolicyPath_eq]
    exact (stable_routeRuleFields.subset (mem_routeRuleFields h)).pruneRounds_perm

/-- Hiding the fields of a disabled TLS removes the server name and keeps the switch. -/
theorem pruneInvisible_spec_serverName :
    ∃ result removed, (∀ fuel, 1 < fuel → pruneInvisibleFields fuel
        (Std.ExtTreeMap.ofList
          [("tls", .obj [("enabled", .bool false), ("server_name", .str "a.example")])] compare)
        [{ path := ["tls", "server_name"], when := [OutboundForm.tlsOn] }] = some result) ∧
      Pruned getPath setPath FieldSpec.path FieldSpec.when
        [{ path := ["tls", "server_name"], when := [OutboundForm.tlsOn] }]
        (Std.ExtTreeMap.ofList
          [("tls", .obj [("enabled", .bool false), ("server_name", .str "a.example")])] compare)
        result removed ∧
      ∀ fuel, 0 < fuel → pruneInvisibleFields fuel result
        [{ path := ["tls", "server_name"], when := [OutboundForm.tlsOn] }] = some result :=
  pruneInvisible_spec.1 _ [{ path := ["tls", "server_name"], when := [OutboundForm.tlsOn] }]
    (by decide)

/-- A hidden field with the name of an inherited property is never removed, so that the loop
does not end. -/
theorem pruneInvisibleFields_diverges :
    ¬ ∃ fuel result, pruneInvisibleFields fuel ∅
      [{ path := ["toString"], when := [{ path := ["enabled"] }] }] = some result := by
  rintro ⟨fuel, result, h⟩
  induction fuel with
  | zero => cases h
  | succ fuel ih => exact ih h

end Boxui.UI.Forms
