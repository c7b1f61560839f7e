import Boxui.API.RequestFrames
import Boxui.API.SyncTags
import Boxui.Core.SubscriptionRefresh
import Mathlib.Data.Finset.Max

/-! A subscription that serves a sing-box document, from the download through the store to the
configuration: what becomes of the fields of its outbounds. -/
namespace Boxui.API
open GoValue GoStrings Boxui.Core

variable {Bytes : Type*}

/-- An outbound object of a sing-box document, with the fields every proxy outbound has and
any others. -/
structure DocumentOutbound where
  fields : List (String × Value)
  tag : String
  type : String
  server : String
  serverPort : Nat
  distinct : (fields.map Prod.fst).Nodup
  tag_mem : ("tag", .str tag) ∈ fields
  type_mem : ("type", .str type) ∈ fields
  server_mem : ("server", .str server) ∈ fields
  serverPort_mem : ("server_port", .int serverPort) ∈ fields
  managed : managedNodeTypes.contains type = true

def DocumentOutbound.value (outbound : DocumentOutbound) : Value := .obj outbound.fields

/-- A document with one outbounds array, among other sections. -/
structure SingBoxDocument where
  before : List (String × Value)
  outbounds : List DocumentOutbound
  after : List (String × Value)
  only : ∀ field ∈ before ++ after, equalFold field.1 "outbounds" = false

def SingBoxDocument.value (doc : SingBoxDocument) : Value :=
  .obj (doc.before ++
    ("outbounds", .list (doc.outbounds.map DocumentOutbound.value)) :: doc.after)

/-- The entry has every field of the outbound with the value of the document. -/
def DocumentOutbound.CarriedBy (outbound : DocumentOutbound) (entry : Value) : Prop :=
  ∀ field ∈ outbound.fields,
    (entry.asMap?.bind fun entry => entry[field.1]?) = some field.2.json

/-- There is an entry under the tag of each outbound, and it has all its fields. -/
def SurvivesIn (outbounds : List DocumentOutbound) (entries : List Value) : Prop :=
  ∀ outbound ∈ outbounds, (∃ entry ∈ entries, tagOf entry = outbound.tag) ∧
    ∀ entry ∈ entries, tagOf entry = outbound.tag → outbound.CarriedBy entry

/-- The outbound has the port 0, and beside its tag, type, server and port at most the routing
mark that every proxy entry gets. -/
def DocumentOutbound.Bare (outbound : DocumentOutbound) : Prop :=
  outbound.serverPort = 0 ∧ ∀ field ∈ outbound.fields,
    field.1 ∈ ["tag", "type", "server", "server_port"] ∨
      (field.1 = "routing_mark" ∧ field.2.json = .float 128)

theorem decodeElements_zero (vs : List Value) :
    decodeElements [] vs = vs.mapM (decodeOutbound zeroOutbound) := by
  induction vs with
  | nil => rfl
  | cons v vs ih =>
    simp only [decodeElements, List.headD_nil, List.tail_nil, ih, List.mapM_cons]

/-- A section of another name leaves the slice alone. -/
theorem foldlM_otherSections {fields : List (String × Value)}
    (h : ∀ field ∈ fields, equalFold field.1 "outbounds" = false) (slice : OutboundSlice) :
    (fields.foldlM (fun slice (field : String × Value) =>
      if equalFold field.1 "outbounds" then decodeOutbounds slice field.2 else some slice) slice) =
        some slice := by
  induction fields with
  | nil => rfl
  | cons field fields ih =>
    obtain ⟨hfield, hrest⟩ := List.forall_mem_cons.mp h
    simp only [List.foldlM_cons, hfield, Bool.false_eq_true, if_false]
    exact ih hrest

theorem decodeOutbounds_list {vs : List Value} (hne : vs ≠ []) :
    decodeOutbounds ⟨[], []⟩ (.list vs) =
      (vs.mapM (decodeOutbound zeroOutbound)).map fun outbounds => ⟨outbounds, []⟩ := by
  obtain ⟨v, vs, rfl⟩ := List.exists_cons_of_ne_nil hne
  simp only [decodeOutbounds, List.append_nil, decodeElements_zero, List.drop_nil]
  cases (v :: vs).mapM (decodeOutbound zeroOutbound) <;> rfl

/-- Each outbound of a document is decoded on its own. -/
theorem singBoxOutbounds_document {doc : SingBoxDocument} (hne : doc.outbounds ≠ []) :
    singBoxOutbounds doc.value =
      doc.outbounds.mapM fun outbound => decodeOutbound zeroOutbound outbound.value := by
  have honly := doc.only
  simp only [List.mem_append, or_imp, forall_and] at honly
  have hself : equalFold "outbounds" "outbounds" = true := by decide
  have hdecode : decodeOutbounds ⟨[], []⟩ (.list (doc.outbounds.map DocumentOutbound.value)) =
      (doc.outbounds.mapM fun outbound => decodeOutbound zeroOutbound outbound.value).map
        fun outbounds => ⟨outbounds, []⟩ := by
    rw [decodeOutbounds_list (by simpa using hne), List.mapM_map]
    rfl
  simp only [singBoxOutbounds, SingBoxDocument.value, List.foldlM_append, List.foldlM_cons,
    foldlM_otherSections honly.1, hself, if_true, Option.bind_eq_bind, Option.bind_some, hdecode]
  cases doc.outbounds.mapM fun outbound => decodeOutbound zeroOutbound outbound.value with
  | none => rfl
  | some outbounds =>
    simp only [Option.map_some, Option.bind_some, foldlM_otherSections honly.2]

theorem decodeOutboundField_raw {outbound outbound' : Outbound} {field : String × Value}
    (h : decodeOutboundField outbound field = some outbound') :
    outbound'.raw = outbound.raw ∨
      (equalFold field.1 "raw" = true ∧ outbound'.raw = field.2.json) := by
  unfold decodeOutboundField at h
  split_ifs at h with htag htype hserver hport hraw
  · obtain ⟨_, -, rfl⟩ := Option.map_eq_some_iff.mp h
    exact .inl rfl
  · obtain ⟨_, -, rfl⟩ := Option.map_eq_some_iff.mp h
    exact .inl rfl
  · obtain ⟨_, -, rfl⟩ := Option.map_eq_some_iff.mp h
    exact .inl rfl
  · obtain ⟨_, -, rfl⟩ := Option.map_eq_some_iff.mp h
    exact .inl rfl
  · obtain rfl := Option.some.inj h
    exact .inr ⟨hraw, rfl⟩
  · obtain rfl := Option.some.inj h
    exact .inl rfl

/-- The raw configuration a decoding ends with is null or that of a field named for it. -/
theorem decodeOutbound_raw {outbound outbound' : Outbound} {fields : List (String × Value)}
    (h : decodeOutbound outbound (.obj fields) = some outbound') :
    outbound'.raw = outbound.raw ∨
      ∃ field ∈ fields, equalFold field.1 "raw" = true ∧ outbound'.raw = field.2.json := by
  induction fields generalizing outbound with
  | nil =>
    obtain rfl := Option.some.inj h
    exact .inl rfl
  | cons field fields ih =>
    rw [decodeOutbound, List.foldlM_cons] at h
    obtain ⟨next, hfield, hrest⟩ := Option.bind_eq_some_iff.mp h
    rcases ih hrest with hsame | ⟨later, hlater, hraw⟩
    · rcases decodeOutboundField_raw hfield with hkept | ⟨hname, hset⟩
      · exact .inl (hsame.trans hkept)
      · exact .inr ⟨field, List.mem_cons_self, hname, hsame.trans hset⟩
    · exact .inr ⟨later, List.mem_cons_of_mem _ hlater, hraw⟩

/-- What each of the fields of a proxy outbound does to the record, whatever it held. -/
theorem decodeOutboundField_str (outbound : Outbound) (s : String) :
    decodeOutboundField outbound ("tag", .str s) = some { outbound with tag := s } ∧
      decodeOutboundField outbound ("type", .str s) = some { outbound with type := s } ∧
      decodeOutboundField outbound ("server", .str s) = some { outbound with server := s } := by
  have htag : equalFold "tag" "tag" = true := by decide
  have htype : equalFold "type" "tag" = false ∧ equalFold "type" "type" = true := by decide
  have hserver : equalFold "server" "tag" = false ∧ equalFold "server" "type" = false ∧
      equalFold "server" "server" = true := by decide
  simp [decodeOutboundField, decodeString, htag, htype, hserver]

/-- The fields a decoding sets, of an object that has no others than these. -/
theorem decodeOutbound_fields {tag type server : String} {fields : List (String × Value)}
    (h : ∀ field ∈ fields, field = ("tag", .str tag) ∨ field = ("type", .str type) ∨
      field = ("server", .str server) ∨ field.1 = "server_port" ∨ field.1 = "routing_mark")
    (outbound : Outbound) :
    decodeOutbound outbound (.obj fields) = some
      { outbound with
        tag := if fields.any (·.1 == "tag") then tag else outbound.tag
        type := if fields.any (·.1 == "type") then type else outbound.type
        server := if fields.any (·.1 == "server") then server else outbound.server } := by
  induction fields generalizing outbound with
  | nil => rfl
  | cons field fields ih =>
    obtain ⟨hfield, hrest⟩ := List.forall_mem_cons.mp h
    have hdecode (next : Outbound) (hnext : decodeOutboundField outbound field = some next) :
        decodeOutbound outbound (.obj (field :: fields)) =
          decodeOutbound next (.obj fields) := by
      simp only [decodeOutbound, List.foldlM_cons, hnext, Option.bind_eq_bind, Option.bind_some]
    rcases hfield with rfl | rfl | rfl | hname
    · rw [hdecode _ (decodeOutboundField_str outbound tag).1, ih hrest]
      simp
      exact ⟨rfl, rfl⟩
    · rw [hdecode _ (decodeOutboundField_str outbound type).2.1, ih hrest]
      simp
      exact ⟨rfl, rfl⟩
    · rw [hdecode _ (decodeOutboundField_str outbound server).2.2, ih hrest]
      simp
      exact ⟨rfl, rfl⟩
    · have hsame : decodeOutboundField outbound field = some outbound := by
        rcases hname with hname | hname <;> rw [decodeOutboundField, hname] <;> rfl
      rw [hdecode outbound hsame, ih hrest]
      obtain ⟨k, v⟩ := field
      rcases hname with hname | hname <;> obtain rfl : k = _ := hname <;> rfl

/-- Two fields of one name are one. -/
theorem DocumentOutbound.field_eq (outbound : DocumentOutbound) {k : String} {v v' : Value}
    (h : (k, v) ∈ outbound.fields) (h' : (k, v') ∈ outbound.fields) : v = v' := by
  have := List.inj_on_of_nodup_map outbound.distinct h h' rfl
  exact congrArg Prod.snd this

/-- Decoding an outbound without other fields than these. -/
theorem decodeOutbound_known (outbound : DocumentOutbound)
    (h : ∀ field ∈ outbound.fields,
      field.1 ∈ ["tag", "type", "server", "server_port", "routing_mark"]) :
    decodeOutbound zeroOutbound outbound.value =
      some ⟨outbound.tag, outbound.type, outbound.server, 0, .null⟩ := by
  have hfields : ∀ field ∈ outbound.fields, field = ("tag", .str outbound.tag) ∨
      field = ("type", .str outbound.type) ∨ field = ("server", .str outbound.server) ∨
      field.1 = "server_port" ∨ field.1 = "routing_mark" := by
    rintro ⟨k, v⟩ hfield
    have hk := h _ hfield
    simp only [List.mem_cons, List.not_mem_nil, or_false] at hk
    rcases hk with rfl | rfl | rfl | rfl | rfl
    · exact .inl (by rw [outbound.field_eq hfield outbound.tag_mem])
    · exact .inr (.inl (by rw [outbound.field_eq hfield outbound.type_mem]))
    · exact .inr (.inr (.inl (by rw [outbound.field_eq hfield outbound.server_mem])))
    · exact .inr (.inr (.inr (.inl rfl)))
    · exact .inr (.inr (.inr (.inr rfl)))
  have hany {k : String} {v : Value} (hmem : (k, v) ∈ outbound.fields) :
      outbound.fields.any (·.1 == k) = true := List.any_eq_true.mpr ⟨_, hmem, beq_self_eq_true k⟩
  rw [DocumentOutbound.value, decodeOutbound_fields hfields, if_pos (hany outbound.tag_mem),
    if_pos (hany outbound.type_mem), if_pos (hany outbound.server_mem)]
  rfl

/-- A field that a raw configuration gives an entry is part of the raw configuration. -/
theorem rawFields_getElem? {outbound : Outbound} {raw : Object} {k : String} {v : Value}
    (h : rawFields outbound = some raw) (hv : raw[k]? = some v) :
    v.json = v ∧ sizeOf v < sizeOf outbound.raw.json := by
  have hmap : outbound.raw.json.asMap? = some raw := by
    unfold rawFields at h
    split at h
    · obtain rfl := Option.some.inj h
      simp at hv
    · exact h
  refine ⟨?_, ?_⟩
  · have hfield := Object.getElem?_json raw k
    rw [rawFields_json h, hv] at hfield
    exact (Option.some.inj hfield).symm
  · cases hraw : outbound.raw.json with
    | obj fields =>
      rw [hraw] at hmap
      obtain rfl := Option.some.inj hmap
      have hmem := List.sizeOf_lt_of_mem (GoMap.mem_of_getElem?_ofList hv)
      simp only [Value.obj.sizeOf_spec]
      simp only [Prod.mk.sizeOf_spec] at hmem
      omega
    | _ =>
      rw [hraw] at hmap
      cases hmap

theorem getElem?_ownFields (outbound : Outbound) (k : String) :
    (ownFields outbound)[k]? = ((rawFields outbound).bind (·[k]?)).or
      (if k = "server_port" then some (.int outbound.port)
       else if k = "server" then some (.str outbound.server)
       else if k = "tag" then some (.str outbound.tag)
       else if k = "type" then some (.str outbound.type) else none) := by
  simp only [ownFields, Std.ExtTreeMap.getElem?_union, getD_getElem?, GoMap.getElem?_insert,
    eq_comm (b := k), Std.ExtTreeMap.getElem?_empty]

/-- The entry of a stored outbound when the configuration had none under its tag. -/
theorem getElem?_freshEntry {outbound : Outbound} {k : String} {v : Value}
    (h : (managedEntry none outbound)[k]? = some v) :
    k ∈ ["tag", "type", "server", "server_port", "routing_mark"] ∨
      ∃ raw, rawFields outbound = some raw ∧ raw[k]? = some v := by
  rw [getElem?_managedEntry, getElem?_ownFields] at h
  cases hraw : (rawFields outbound).bind (·[k]?) with
  | some w =>
    obtain ⟨raw, hfields, hk⟩ := Option.bind_eq_some_iff.mp hraw
    rw [hraw] at h
    obtain rfl : w = v := by simpa using h
    exact .inr ⟨raw, hfields, hk⟩
  | none =>
    refine .inl ?_
    by_contra hk
    simp only [List.mem_cons, List.not_mem_nil, or_false, not_or] at hk
    simp [hraw, hk] at h

/-- Without a raw configuration the port is the one decoded, and the mark the default. -/
theorem freshEntry_of_null (outbound : Outbound) (hraw : outbound.raw = .null) :
    (managedEntry none outbound)["server_port"]? = some (.int outbound.port) ∧
      ∀ v, (managedEntry none outbound)["routing_mark"]? = some v → v = .int 128 := by
  have hfields : rawFields outbound = some ∅ := by rw [rawFields, hraw]
  constructor
  · simp [getElem?_managedEntry, getElem?_ownFields, hfields]
  · intro v hv
    rw [getElem?_managedEntry, getElem?_ownFields, hfields] at hv
    simp at hv
    exact hv.2.symm

/-- A list of numbers without a largest is empty. -/
theorem eq_nil_of_exists_lt {l : List Nat} (h : ∀ n ∈ l, ∃ m ∈ l, n < m) : l = [] := by
  by_contra hne
  obtain ⟨n, hn, hmax⟩ := l.toFinset.exists_max_image id
    (by simpa [List.toFinset_nonempty_iff] using hne)
  obtain ⟨m, hm, hlt⟩ := h n (List.mem_toFinset.mp hn)
  exact absurd (hmax m (List.mem_toFinset.mpr hm)) (Nat.not_le.mpr hlt)

/-- The sizes of the fields of a document that are decoded into raw configurations. -/
noncomputable def rawSizes (outbounds : List DocumentOutbound) : List Nat :=
  outbounds.flatMap fun outbound =>
    (outbound.fields.filter fun field => equalFold field.1 "raw").map fun field =>
      sizeOf field.2.json

theorem mem_rawSizes {outbounds : List DocumentOutbound} {n : Nat} :
    n ∈ rawSizes outbounds ↔ ∃ outbound ∈ outbounds, ∃ field ∈ outbound.fields,
      equalFold field.1 "raw" = true ∧ sizeOf field.2.json = n := by
  simp only [rawSizes, List.mem_flatMap, List.mem_map, List.mem_filter, and_assoc]

/-- Every outbound has its fields in the entry that one outbound of the document gets. -/
def CarriedAmong (outbounds : List DocumentOutbound) : Prop :=
  ∀ outbound ∈ outbounds, ∃ carrier ∈ outbounds, ∃ decoded,
    decodeOutbound zeroOutbound carrier.value = some decoded ∧
      ∀ field ∈ outbound.fields,
        ((managedEntry none (storedOutbound decoded))[field.1]?).map Value.json =
          some field.2.json

/-- A raw field would have to be carried in a larger one. -/
theorem CarriedAmong.rawSizes_eq_nil {outbounds : List DocumentOutbound}
    (h : CarriedAmong outbounds) : rawSizes outbounds = [] := by
  refine eq_nil_of_exists_lt fun n hn => ?_
  obtain ⟨outbound, houtbound, ⟨k, v⟩, hfield, hname, rfl⟩ := mem_rawSizes.mp hn
  obtain ⟨carrier, hcarrier, decoded, hdecoded, hcarried⟩ := h outbound houtbound
  obtain ⟨w, hw, hjson⟩ := Option.map_eq_some_iff.mp (hcarried _ hfield)
  have hother : k ∉ ["tag", "type", "server", "server_port", "routing_mark"] := by
    intro hmem
    replace hname : equalFold k "raw" = true := hname
    simp only [List.mem_cons, List.not_mem_nil, or_false] at hmem
    rcases hmem with rfl | rfl | rfl | rfl | rfl <;> exact absurd hname (by decide)
  obtain ⟨raw, hraw, hk⟩ := (getElem?_freshEntry hw).resolve_left hother
  obtain ⟨hwjson, hsize⟩ := rawFields_getElem? hraw hk
  rcases decodeOutbound_raw hdecoded with hnull | ⟨field, hmem, hfold, hset⟩
  · rw [rawFields, storedOutbound, hnull] at hraw
    obtain rfl := Option.some.inj hraw
    simp at hk
  · refine ⟨_, mem_rawSizes.mpr ⟨carrier, hcarrier, field, hmem, hfold, rfl⟩, ?_⟩
    have hsame : (storedOutbound decoded).raw.json = field.2.json := by
      simp only [storedOutbound, hset, Value.json_json]
    rw [hsame] at hsize
    rw [← hjson, hwjson]
    exact hsize

theorem CarriedAmong.raw_eq_null {outbounds : List DocumentOutbound}
    (h : CarriedAmong outbounds) {carrier : DocumentOutbound} (hcarrier : carrier ∈ outbounds)
    {decoded : Outbound} (hdecoded : decodeOutbound zeroOutbound carrier.value = some decoded) :
    decoded.raw = .null := by
  rcases decodeOutbound_raw hdecoded with hnull | ⟨field, hfield, hname, -⟩
  · exact hnull
  · have hmem := mem_rawSizes.mpr ⟨carrier, hcarrier, field, hfield, hname, rfl⟩
    rw [h.rawSizes_eq_nil] at hmem
    cases hmem

/-- Without a raw configuration there is room for five fields only. -/
theorem CarriedAmong.known {outbounds : List DocumentOutbound} (h : CarriedAmong outbounds)
    {outbound : DocumentOutbound} (houtbound : outbound ∈ outbounds) :
    ∀ field ∈ outbound.fields,
      field.1 ∈ ["tag", "type", "server", "server_port", "routing_mark"] := by
  intro field hfield
  obtain ⟨carrier, hcarrier, decoded, hdecoded, hcarried⟩ := h outbound houtbound
  obtain ⟨w, hw, -⟩ := Option.map_eq_some_iff.mp (hcarried _ hfield)
  rcases getElem?_freshEntry hw with hmem | ⟨raw, hraw, hk⟩
  · exact hmem
  · rw [rawFields, storedOutbound, h.raw_eq_null hcarrier hdecoded] at hraw
    obtain rfl := Option.some.inj hraw
    simp at hk

theorem CarriedAmong.bare {outbounds : List DocumentOutbound} (h : CarriedAmong outbounds) :
    ∀ outbound ∈ outbounds, outbound.Bare := by
  intro outbound houtbound
  obtain ⟨carrier, hcarrier, decoded, hdecoded, hcarried⟩ := h outbound houtbound
  rw [decodeOutbound_known carrier (h.known hcarrier)] at hdecoded
  obtain rfl := Option.some.inj hdecoded
  obtain ⟨hport, hmark⟩ := freshEntry_of_null (storedOutbound
    ⟨carrier.tag, carrier.type, carrier.server, 0, .null⟩) rfl
  refine ⟨?_, fun field hfield => ?_⟩
  · have hserverPort := hcarried _ outbound.serverPort_mem
    rw [hport] at hserverPort
    have hfloat : Value.float (float64 0) = .float (float64 outbound.serverPort) :=
      Option.some.inj hserverPort
    have hzero : float64 0 = 0 := rfl
    exact float64_natCast_eq_zero ((Value.float.inj hfloat).symm.trans hzero)
  · have hknown := h.known houtbound field hfield
    by_cases hname : field.1 = "routing_mark"
    · obtain ⟨w, hw, hjson⟩ := Option.map_eq_some_iff.mp (hcarried field hfield)
      rw [hname] at hw
      rw [hmark w hw] at hjson
      exact .inr ⟨hname, hjson.symm⟩
    · exact .inl (by simpa [hname] using hknown)

/-- Bare outbounds are decoded, and their entries carry them. -/
theorem DocumentOutbound.Bare.decoded {outbound : DocumentOutbound} (h : outbound.Bare) :
    decodeOutbound zeroOutbound outbound.value =
      some ⟨outbound.tag, outbound.type, outbound.server, 0, .null⟩ := by
  refine decodeOutbound_known outbound fun field hfield => ?_
  rcases h.2 field hfield with hmem | ⟨hname, -⟩
  · simp only [List.mem_cons, List.not_mem_nil, or_false] at hmem ⊢
    tauto
  · simp [hname]

theorem DocumentOutbound.Bare.carriedBy {outbound : DocumentOutbound} (h : outbound.Bare) :
    outbound.CarriedBy (Object.toValue (managedEntry none
      ⟨outbound.tag, outbound.type, outbound.server, 0, .null⟩)).json := by
  have hfields : rawFields ⟨outbound.tag, outbound.type, outbound.server, 0, .null⟩ = some ∅ := rfl
  rintro ⟨k, v⟩ hfield
  simp only [Value.json_toValue, Value.asMap?_toValue, Option.bind_some, Object.getElem?_json,
    getElem?_managedEntry, getElem?_ownFields, hfields]
  rcases h.2 _ hfield with hmem | ⟨rfl, hmark⟩
  · simp only [List.mem_cons, List.not_mem_nil, or_false] at hmem
    rcases hmem with rfl | rfl | rfl | rfl
    · obtain rfl := outbound.field_eq hfield outbound.tag_mem
      simp
    · obtain rfl := outbound.field_eq hfield outbound.type_mem
      simp
    · obtain rfl := outbound.field_eq hfield outbound.server_mem
      simp
    · obtain rfl := outbound.field_eq hfield outbound.serverPort_mem
      simp [h.1]
  · have hproxy : isProxyLikeOutboundType outbound.type = true := by
      have hmanaged := outbound.managed
      simp only [managedNodeTypes, List.contains_iff_mem, List.mem_cons, List.not_mem_nil,
        or_false] at hmanaged
      rcases hmanaged with h | h | h | h | h | h | h | h | h <;> rw [h] <;> rfl
    have hwritten : float64 128 = 128 := rfl
    simp [hproxy, hmark, Value.json, hwritten]

/-- Over an empty list, the entries under a tag that no group and no fixed entry has are those
of the stored outbounds written under it. -/
theorem SyncInput.mem_outbounds_nil (input : SyncInput) {tag : String} (hdirect : tag ≠ "direct")
    (hproxy : tag ≠ "proxy") (hgroups : ∀ sub ∈ input.grouped, sub.name ≠ tag) {entry : Value} :
    (entry ∈ input.outbounds [] ∧ tagOf entry = tag) ↔
      ∃ outbound ∈ input.stored, writtenTag outbound = tag ∧
        entry = Object.toValue (managedEntry none outbound) := by
  have hwriters {w : OutboundWriter} (hw : w.tag = tag) :
      w ∈ input.writers [] ↔ ∃ outbound ∈ input.stored, w = .stored outbound := by
    have hbase : w ∈ input.baseWriters ↔ ∃ outbound ∈ input.stored, w = .stored outbound := by
      simp only [baseWriters, List.mem_append, List.mem_map, eq_comm (b := w)]
      refine or_iff_left ?_
      rintro ⟨sub, hsub, rfl⟩
      exact hgroups sub hsub hw
    rw [← hbase, writers]
    split
    · rfl
    · exact OutboundWriter.mem_place_of_tag_ne (hw ▸ hproxy)
  have hentry (outbound : Outbound) : (OutboundWriter.stored outbound).entry [] =
      Object.toValue (managedEntry none outbound) := by
    have hindex : (indexExistingOutbounds [])[outbound.tag]? = none := by
      simp [indexExistingOutbounds]
    simp only [OutboundWriter.entry, OutboundWriter.stored, hindex]
  have hfixed : tagOf directOutbound = "direct" := by decide
  rw [outbounds_eq]
  simp only [kept, List.filter_nil, List.singleton_append, List.mem_cons, List.mem_map]
  constructor
  · rintro ⟨rfl | ⟨w, hw, rfl⟩, htag⟩
    · exact absurd (htag.symm.trans hfixed) hdirect
    · rw [OutboundWriter.tagOf_entry] at htag
      obtain ⟨outbound, hstored, rfl⟩ := (hwriters htag).mp hw
      exact ⟨outbound, hstored, htag, hentry outbound⟩
  · rintro ⟨outbound, hstored, htag, rfl⟩
    refine ⟨.inr ⟨.stored outbound, (hwriters htag).mpr ⟨outbound, hstored, rfl⟩, hentry outbound⟩,
      ?_⟩
    rw [tagOf_toValue, stringAt_managedEntry_tag, htag]

/-- The outbounds that are stored elsewhere than in a subscription. -/
def OtherOutbound (id : String) (db : Database) (outbound : Outbound) : Prop :=
  outbound ∈ NodeManager.list db ∨ ∃ (id' : String) (sub : Subscription),
    id' ≠ id ∧ SubscriptionManager.get id' db = some sub ∧ outbound ∈ sub.outbounds

/-- No other outbound, no group and no fixed entry is written under the tag. -/
structure TagUnused (id : String) (db : Database) (tag : String) : Prop where
  direct : tag ≠ "direct"
  proxy : tag ≠ "proxy"
  group : ∀ (id' : String) sub, SubscriptionManager.get id' db = some sub → sub.name ≠ tag
  other : ∀ outbound, OtherOutbound id db outbound → writtenTag outbound ≠ tag

/-- What a document is stored as. -/
def storedDocument (doc : SingBoxDocument) : List Outbound :=
  ((doc.outbounds.mapM fun outbound => decodeOutbound zeroOutbound outbound.value).getD []).map
    storedOutbound

theorem mem_of_mapM {α β : Type*} {f : α → Option β} {l : List α} {l' : List β}
    (h : l.mapM f = some l') {b : β} (hb : b ∈ l') : ∃ a ∈ l, f a = some b := by
  induction l generalizing l' with
  | nil =>
    obtain rfl := Option.some.inj h
    cases hb
  | cons a l ih =>
    rw [List.mapM_cons] at h
    obtain ⟨b', hb', h⟩ := Option.bind_eq_some_iff.mp h
    obtain ⟨rest, hrest, h⟩ := Option.bind_eq_some_iff.mp h
    obtain rfl := Option.some.inj h
    rcases List.mem_cons.mp hb with rfl | hb
    · exact ⟨a, List.mem_cons_self, hb'⟩
    · obtain ⟨a', ha', hfound⟩ := ih hrest hb
      exact ⟨a', List.mem_cons_of_mem _ ha', hfound⟩

theorem mapM_eq_some_map {α β : Type*} {f : α → Option β} {g : α → β} {l : List α}
    (h : ∀ a ∈ l, f a = some (g a)) : l.mapM f = some (l.map g) := by
  induction l with
  | nil => rfl
  | cons a l ih =>
    obtain ⟨ha, hrest⟩ := List.forall_mem_cons.mp h
    simp only [List.mapM_cons, ha, ih hrest, Option.bind_eq_bind, Option.bind_some, List.map_cons]
    rfl

theorem mem_storedDocument {doc : SingBoxDocument} {outbound : Outbound}
    (h : outbound ∈ storedDocument doc) : ∃ carrier ∈ doc.outbounds, ∃ decoded,
      decodeOutbound zeroOutbound carrier.value = some decoded ∧
        outbound = storedOutbound decoded := by
  unfold storedDocument at h
  cases hdecode : doc.outbounds.mapM fun outbound =>
      decodeOutbound zeroOutbound outbound.value with
  | none => simp [hdecode] at h
  | some decoded =>
    rw [hdecode, Option.getD_some] at h
    obtain ⟨decoded, hmem, rfl⟩ := List.mem_map.mp h
    obtain ⟨carrier, hcarrier, hcarried⟩ := mem_of_mapM hdecode hmem
    exact ⟨carrier, hcarrier, decoded, hcarried, rfl⟩

theorem storedDocument_bare {doc : SingBoxDocument}
    (h : ∀ outbound ∈ doc.outbounds, outbound.Bare) :
    storedDocument doc = doc.outbounds.map fun outbound =>
      ⟨outbound.tag, outbound.type, outbound.server, 0, .null⟩ := by
  rw [storedDocument, mapM_eq_some_map fun outbound houtbound => (h outbound houtbound).decoded,
    Option.getD_some, List.map_map]
  rfl

theorem parseSubscriptionContent_document {stx : ContentSyntax} {body : List UInt8}
    {doc : SingBoxDocument} (hjson : stx.json body = some doc.value)
    (hlinks : ¬stx.ListsLinks body) (hne : doc.outbounds ≠ []) :
    (parseSubscriptionContent stx body).map storedOutbound = storedDocument doc := by
  have hnone : (contentLines body).filterMap
      (fun line => (stx.parseProxyLink line).map importedOutbound) = [] := by
    simp only [List.filterMap_eq_nil_iff, Option.map_eq_none_iff]
    intro line hline
    by_contra hlink
    exact hlinks ⟨line, hline, Option.isSome_iff_ne_none.mpr hlink⟩
  unfold parseSubscriptionContent storedDocument
  rw [hjson, Option.bind_some, hnone, ← singBoxOutbounds_document hne]
  rcases singBoxOutbounds doc.value with _ | _ | ⟨outbound, outbounds⟩ <;> rfl

/-- The subscription after a refresh that downloaded the document. -/
theorem refresh_document {stx : ContentSyntax} {client : String → Except String HTTPResponse}
    (now : Nat) {id : String} {db : Database} {sub : Subscription}
    (hsub : SubscriptionManager.get id db = some sub) {resp : HTTPResponse}
    (hfetch : client sub.url = .ok resp) {doc : SingBoxDocument}
    (hjson : stx.json resp.body = some doc.value) (hlinks : ¬stx.ListsLinks resp.body)
    (hne : doc.outbounds ≠ []) :
    (SubscriptionManager.refresh (downloadSubscriptionOutbounds stx client) now id db).1 =
      { db with
        subscriptions := db.subscriptions.insert id
          { sub with outbounds := storedDocument doc, lastUpdated := now, error := "" } } := by
  have hdownload : downloadSubscriptionOutbounds stx client sub.url =
      .ok (parseSubscriptionContent stx resp.body) := by
    rw [downloadSubscriptionOutbounds, hfetch]
    rfl
  rw [← parseSubscriptionContent_document hjson hlinks hne]
  simp only [SubscriptionManager.refresh, hsub, hdownload,
    SubscriptionManager.saveRefreshedSubscription_of_get _ _ hsub]
  rfl

/-- The outbounds that a synchronisation after the refresh reads. -/
theorem mem_stored_document {id : String} {db : Database} {sub : Subscription}
    {outbounds : List Outbound} {now : Nat} {outbound : Outbound} :
    outbound ∈ (syncInput { db with
      subscriptions := db.subscriptions.insert id
        { sub with outbounds := outbounds, lastUpdated := now, error := "" } }).stored ↔
      OtherOutbound id db outbound ∨ outbound ∈ outbounds := by
  simp only [SyncInput.stored, syncInput, List.mem_append, List.mem_flatMap,
    mem_subscriptions_list, GoMap.getElem?_insert, OtherOutbound, or_assoc]
  refine or_congr_right ⟨?_, ?_⟩
  · rintro ⟨sub', ⟨id', hget⟩, hmem⟩
    split_ifs at hget with hid
    · obtain rfl := Option.some.inj hget
      exact .inr hmem
    · exact .inl ⟨id', sub', Ne.symm hid, hget, hmem⟩
  · rintro (⟨id', sub', hid, hget, hmem⟩ | hmem)
    · exact ⟨sub', ⟨id', by rw [if_neg (Ne.symm hid)]; exact hget⟩, hmem⟩
    · exact ⟨_, ⟨id, if_pos rfl⟩, hmem⟩

/-- The entries in the file after a synchronisation over an empty outbounds list: none, or those
planned. -/
theorem sync_outbounds (codec : JSONCodec Bytes) (o : SyncOutcome) (s : SyncState Bytes)
    {config : Object} (hconfig : s.config? codec = some config)
    (hempty : existingOutbounds config = []) :
    (syncOutboundsToConfig codec o s).1.outbounds codec = [] ∨
      (syncOutboundsToConfig codec o s).1.outbounds codec =
        ((syncInput s.db).outbounds []).map Value.json := by
  have hwrote {s' : SyncState Bytes} {config' : Object} (hconfig' : s.config? codec = some config')
      (h : s'.Wrote codec (syncInput s.db) config') :
      s'.outbounds codec = ((syncInput s.db).outbounds []).map Value.json := by
    obtain rfl := Option.some.inj (hconfig.symm.trans hconfig')
    rw [h.outbounds, hempty]
  rcases syncOutboundsToConfig_cases codec o s with
    ⟨config', hconfig', -, -, h, -⟩ | ⟨-, -, htarget | ⟨-, config', hconfig', h⟩⟩
  · exact .inr (hwrote hconfig' h)
  · refine .inl ?_
    unfold SyncState.config? at hconfig
    rw [SyncState.outbounds, SyncState.config?, htarget, hconfig, Option.map_some,
      Option.getD_some, hempty]
  · exact .inr (hwrote hconfig' h)

/-- A refreshed subscription keeps its name, so the tag still is no group's. -/
theorem TagUnused.grouped {id : String} {db : Database} {tag : String} (h : TagUnused id db tag)
    {sub : Subscription} (hsub : SubscriptionManager.get id db = some sub)
    {outbounds : List Outbound} {now : Nat} :
    ∀ sub' ∈ (syncInput { db with
      subscriptions := db.subscriptions.insert id
        { sub with outbounds := outbounds, lastUpdated := now, error := "" } }).grouped,
      sub'.name ≠ tag := by
  intro sub' hmem
  obtain ⟨id', hget⟩ := mem_subscriptions_list.mp (List.mem_of_mem_filter hmem)
  simp only [GoMap.getElem?_insert] at hget
  split_ifs at hget
  · obtain rfl := Option.some.inj hget
    exact h.group id sub hsub
  · exact h.group id' sub' hget

/-- The outbounds of a document come through the refresh and the synchronisation with their
fields exactly when they have nothing to lose. -/
theorem document_survives_iff {codec : JSONCodec Bytes} {o : SyncOutcome} (ho : o.NoFault)
    {stx : ContentSyntax} {client : String → Except String HTTPResponse} (now : Nat) {id : String}
    {db : Database} {sub : Subscription} (hsub : SubscriptionManager.get id db = some sub)
    {resp : HTTPResponse} (hfetch : client sub.url = .ok resp) {doc : SingBoxDocument}
    (hjson : stx.json resp.body = some doc.value) (hlinks : ¬stx.ListsLinks resp.body)
    (hdistinct : (doc.outbounds.map DocumentOutbound.tag).Nodup)
    (hunused : ∀ outbound ∈ doc.outbounds, TagUnused id db outbound.tag)
    (hothers : ∀ outbound, OtherOutbound id db outbound → (rawFields outbound).isSome)
    {dir : Directory Bytes} {config : Object}
    (hconfig : SyncState.config? codec ⟨dir, db⟩ = some config)
    (hempty : existingOutbounds config = []) :
    let refreshed :=
      (SubscriptionManager.refresh (downloadSubscriptionOutbounds stx client) now id db).1
    let synced := (syncOutboundsToConfig codec o ⟨dir, refreshed⟩).1
    SurvivesIn doc.outbounds (synced.outbounds codec) ↔
      ∀ outbound ∈ doc.outbounds, outbound.Bare := by
  intro refreshed synced
  by_cases hne : doc.outbounds = []
  · simp [SurvivesIn, hne]
  have hrefreshed : refreshed = _ := refresh_document now hsub hfetch hjson hlinks hne
  have hmem (outbound : Outbound) : outbound ∈ (syncInput refreshed).stored ↔
      OtherOutbound id db outbound ∨ outbound ∈ storedDocument doc := by
    rw [hrefreshed]
    exact mem_stored_document
  have hentries {outbound : DocumentOutbound} (houtbound : outbound ∈ doc.outbounds)
      {entry : Value} : (entry ∈ (syncInput refreshed).outbounds [] ∧ tagOf entry = outbound.tag) ↔
        ∃ stored ∈ storedDocument doc, writtenTag stored = outbound.tag ∧
          entry = Object.toValue (managedEntry none stored) := by
    have hfree := hunused outbound houtbound
    have hgroups : ∀ sub' ∈ (syncInput refreshed).grouped, sub'.name ≠ outbound.tag := by
      rw [hrefreshed]
      exact hfree.grouped hsub
    rw [SyncInput.mem_outbounds_nil _ hfree.direct hfree.proxy hgroups]
    refine exists_congr fun stored => and_congr_left fun ⟨htag, _⟩ => ?_
    rw [hmem]
    exact or_iff_right fun hother => hfree.other stored hother htag
  have htagJson (entry : Value) : tagOf entry.json = tagOf entry := fieldOf_json "tag" entry
  have hsync := sync_outbounds codec o ⟨dir, refreshed⟩ hconfig hempty
  constructor
  · intro h
    refine CarriedAmong.bare fun outbound houtbound => ?_
    obtain ⟨⟨entry, hentry, htag⟩, hcarried⟩ := h outbound houtbound
    have hcarriedBy := hcarried entry hentry htag
    have houtbounds := hsync.resolve_left fun hnil => by
      simp only [synced, hnil] at hentry
      cases hentry
    rw [houtbounds] at hentry
    obtain ⟨planned, hplanned, rfl⟩ := List.mem_map.mp hentry
    rw [htagJson] at htag
    obtain ⟨stored, hstored, -, rfl⟩ := (hentries houtbound).mp ⟨hplanned, htag⟩
    obtain ⟨carrier, hcarrier, decoded, hdecoded, rfl⟩ := mem_storedDocument hstored
    refine ⟨carrier, hcarrier, decoded, hdecoded, fun field hfield => ?_⟩
    simpa using hcarriedBy field hfield
  · intro h
    have hstored := storedDocument_bare h
    have hdecodable : (syncInput refreshed).Decodable := by
      intro outbound houtbound
      rcases (hmem outbound).mp houtbound with hother | hdocument
      · exact hothers outbound hother
      · rw [hstored] at hdocument
        obtain ⟨_, -, rfl⟩ := List.mem_map.mp hdocument
        rfl
    have hok := syncOutboundsToConfig_succeeds ho (s := ⟨dir, refreshed⟩) hconfig hdecodable
    obtain ⟨-, hwrote, -⟩ := syncOutboundsToConfig_ok (s := ⟨dir, refreshed⟩) hconfig hok
    have houtbounds : synced.outbounds codec =
        ((syncInput refreshed).outbounds []).map Value.json := by
      rw [hwrote.outbounds, hempty]
    intro outbound houtbound
    rw [houtbounds]
    refine ⟨?_, ?_⟩
    · have hplanned := (hentries houtbound).mpr ⟨_, by
        rw [hstored]
        exact List.mem_map_of_mem houtbound, by rfl, rfl⟩
      exact ⟨_, List.mem_map_of_mem hplanned.1, by rw [htagJson]; exact hplanned.2⟩
    · intro entry hentry htag
      obtain ⟨planned, hplanned, rfl⟩ := List.mem_map.mp hentry
      rw [htagJson] at htag
      obtain ⟨stored, hmemStored, hwritten, rfl⟩ := (hentries houtbound).mp ⟨hplanned, htag⟩
      rw [hstored] at hmemStored
      obtain ⟨other, hother, rfl⟩ := List.mem_map.mp hmemStored
      -- the tags of the document are distinct, so the entry is that of the outbound itself
      obtain rfl : other = outbound := List.inj_on_of_nodup_map hdistinct hother houtbound hwritten
      exact (h other hother).carriedBy

def trojanOutbound : DocumentOutbound where
  fields := [("type", .str "trojan"), ("tag", .str "hk"), ("server", .str "192.0.2.2"),
    ("server_port", .int 443), ("password", .str "secret")]
  tag := "hk"
  type := "trojan"
  server := "192.0.2.2"
  serverPort := 443
  distinct := by decide
  tag_mem := .tail _ (.head _)
  type_mem := .head _
  server_mem := .tail _ (.tail _ (.head _))
  serverPort_mem := .tail _ (.tail _ (.tail _ (.head _)))
  managed := by decide

/-- An outbound with nothing to lose. -/
def emptyOutbound : DocumentOutbound where
  fields := [("type", .str "trojan"), ("tag", .str "hk"), ("server", .str "192.0.2.2"),
    ("server_port", .int 0)]
  tag := "hk"
  type := "trojan"
  server := "192.0.2.2"
  serverPort := 0
  distinct := by decide
  tag_mem := .tail _ (.head _)
  type_mem := .head _
  server_mem := .tail _ (.tail _ (.head _))
  serverPort_mem := .tail _ (.tail _ (.tail _ (.head _)))
  managed := by decide

def singleDocument (outbound : DocumentOutbound) : SingBoxDocument := ⟨[], [outbound], [], by simp⟩

/-- The syntax of JSON on one body. -/
def readsAs (text : String) (doc : SingBoxDocument) : ContentSyntax where
  json body := if body = bytes text then some doc.value else none
  parseProxyLink _ := none

def emptyText : String :=
  "\x7b\"outbounds\":[\x7b\"type\":\"trojan\",\"tag\":\"hk\",\"server\":\"192.0.2.2\"," ++
    "\"server_port\":0\x7d]\x7d"

def trojanText : String :=
  "\x7b\"outbounds\":[\x7b\"type\":\"trojan\",\"tag\":\"hk\",\"server\":\"192.0.2.2\"," ++
    "\"server_port\":443,\"password\":\"secret\"\x7d]\x7d"

def newSubscription : Subscription :=
  ⟨"1", "air", "https://sub.example", 60, none, 0, "", []⟩

def newDatabase : Database :=
  { emptyDatabase with
    subscriptions := emptyDatabase.subscriptions.insert "1" newSubscription, sequence := 1 }

def emptyConfig : Directory { v : Value // v.json = v } :=
  ⟨some (documentCodec.marshal (Object.toValue ∅)), none⟩

/-- The outbounds in the file after a refresh from the body and a synchronisation. -/
def syncedFrom (text : String) (outbound : DocumentOutbound) : List Value :=
  let refreshed := (SubscriptionManager.refresh (downloadSubscriptionOutbounds
    (readsAs text (singleDocument outbound)) fun _ => .ok ⟨200, bytes text⟩) 1 "1" newDatabase).1
  (syncOutboundsToConfig documentCodec .clean ⟨emptyConfig, refreshed⟩).1.outbounds documentCodec

theorem newDatabase_otherOutbound (outbound : Outbound) :
    ¬OtherOutbound "1" newDatabase outbound := by
  rintro (hnode | ⟨id, sub, hid, hget, -⟩)
  · cases hnode
  · simp [SubscriptionManager.get, newDatabase, emptyDatabase, Ne.symm hid] at hget

theorem newDatabase_tagUnused : TagUnused "1" newDatabase "hk" where
  direct := by decide
  proxy := by decide
  group id sub hget := by
    simp only [SubscriptionManager.get, newDatabase, emptyDatabase, GoMap.getElem?_insert] at hget
    split_ifs at hget
    · obtain rfl := Option.some.inj hget
      decide
    · simp at hget
  other outbound hother := absurd hother (newDatabase_otherOutbound outbound)

theorem emptyOutbound_survives :
    SurvivesIn [emptyOutbound] (syncedFrom emptyText emptyOutbound) := by
  have hjson : (readsAs emptyText (singleDocument emptyOutbound)).json (bytes emptyText) =
      some (singleDocument emptyOutbound).value := by
    simp only [readsAs, if_true]
  refine (@document_survives_iff _ documentCodec .clean SyncOutcome.clean_noFault
    (readsAs emptyText (singleDocument emptyOutbound)) (fun _ => .ok ⟨200, bytes emptyText⟩) 1 "1"
    newDatabase newSubscription rfl ⟨200, bytes emptyText⟩ rfl (singleDocument emptyOutbound)
    hjson ?_ ?_ ?_ ?_ emptyConfig ∅ rfl rfl).mpr ?_
  · rintro ⟨line, -, hlink⟩
    cases hlink
  · exact List.nodup_singleton _
  · intro outbound houtbound
    obtain rfl := List.mem_singleton.mp houtbound
    exact newDatabase_tagUnused
  · exact fun outbound hother => absurd hother (newDatabase_otherOutbound outbound)
  · intro outbound houtbound
    obtain rfl := List.mem_singleton.mp houtbound
    exact ⟨rfl, by simp [emptyOutbound]⟩

/-- The password of the document is in no entry. -/
theorem trojanOutbound_not_survives :
    ¬SurvivesIn [trojanOutbound] (syncedFrom trojanText trojanOutbound) := by
  intro h
  have hentries : ((syncedFrom trojanText trojanOutbound).filter (tagOf · = "hk")).map
      (fun entry => (entry.asMap?.bind (·["password"]?)).isSome) = [false] := by decide
  obtain ⟨⟨entry, hentry, htag⟩, hcarried⟩ := h trojanOutbound (List.mem_singleton_self _)
  have hpassword := hcarried entry hentry htag ("password", .str "secret") (by
    simp [trojanOutbound])
  have hfiltered : entry ∈ (syncedFrom trojanText trojanOutbound).filter (tagOf · = "hk") :=
    List.mem_filter.mpr ⟨hentry, decide_eq_true htag⟩
  have hmem := List.mem_map_of_mem (f := fun entry : Value =>
    (entry.asMap?.bind (·["password"]?)).isSome) hfiltered
  rw [hentries, List.mem_singleton, hpassword] at hmem
  cases hmem

end Boxui.API
