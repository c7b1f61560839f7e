import Boxui.UI.DNSTransitions

/-! The resolver of a DNS server, written as a string or as an object with a server. -/
namespace Boxui.UI.DNSForm
open GoValue JSValue Forms

/-- The types whose servers have a resolver. -/
def resolverTypes : List String :=
  ["local", "udp", "tcp", "tls", "quic", "https", "h3", "dhcp"]

/-- The known types whose servers have none. -/
def plainTypes : List String := ["legacy", "hosts", "fakeip"]

theorem supports_of_mem : ∀ type ∈ resolverTypes,
    supportsDomainResolver dnsServerCleanupFields type = some true := by decide

theorem mem_of_belowDomainResolver : ∀ entry ∈ dnsServerCleanupFields,
    (entry.2.any fun field => belowDomainResolver field.path) = true →
      entry.1 ∈ resolverTypes := by decide

theorem supports_iff (type : String) :
    supportsDomainResolver dnsServerCleanupFields type = some true ↔ type ∈ resolverTypes := by
  refine ⟨fun h => ?_, supports_of_mem type⟩
  obtain ⟨fields, hfields, hany⟩ := Option.map_eq_some_iff.mp h
  obtain ⟨field, hmem, -⟩ := List.any_eq_true.mp hany
  exact mem_of_belowDomainResolver _ (mem_of_entry hfields hmem) hany

/-- The field of the resolver's server. -/
def isServerField (field : CleanupField) : Bool :=
  field.path == ["domain_resolver", "server"] && field.kind == .string

/-- The known types fall in two, by whether they have the field, in which its path has no other
kind. -/
theorem serverField_types : ∀ entry ∈ dnsServerCleanupFields,
    (entry.2.any isServerField = true ↔ entry.1 ∈ resolverTypes) ∧
      (entry.2.any isServerField = true ↔ entry.1 ∉ plainTypes) ∧
      ∀ field ∈ entry.2, field.path = ["domain_resolver", "server"] →
        isServerField field = true := by decide

theorem lookup_types : ∀ type ∈ resolverTypes ++ plainTypes,
    (dnsServerCleanupFields.lookup type).isSome = true := by decide

theorem isServerField_iff (field : CleanupField) :
    isServerField field = true ↔
      field.path = ["domain_resolver", "server"] ∧ field.kind = .string := by
  simp only [isServerField, Bool.and_eq_true, beq_iff_eq]

/-- The server of a resolver stays where both types have one. -/
theorem keeps_server_iff (change : CleanupTransition) (s : String) :
    Keeps dnsServerCleanupFields change ["domain_resolver", "server"] (.str s) ↔
      change.share ≠ some false ∧ change.target ∈ resolverTypes ∧
        change.current ∉ plainTypes := by
  constructor
  · rintro ⟨hshare, fields, htarget, field, hmem, hpath, -, hsource⟩
    obtain ⟨htypes, -, honly⟩ := serverField_types _ (mem_of_lookup htarget)
    refine ⟨hshare, htypes.mp (List.any_eq_true.mpr ⟨field, hmem, honly field hmem hpath⟩), ?_⟩
    intro hplain
    obtain ⟨sources, hsources⟩ :=
      Option.isSome_iff_exists.mp (lookup_types _ (List.mem_append_right _ hplain))
    obtain ⟨source, hmem', hpath', -⟩ := hsource sources hsources
    obtain ⟨-, hplain_iff, honly'⟩ := serverField_types _ (mem_of_lookup hsources)
    exact hplain_iff.mp (List.any_eq_true.mpr ⟨source, hmem', honly' source hmem' hpath'⟩) hplain
  · rintro ⟨hshare, htarget, hcurrent⟩
    obtain ⟨fields, hfields⟩ :=
      Option.isSome_iff_exists.mp (lookup_types _ (List.mem_append_left _ htarget))
    obtain ⟨field, hmem, hfield⟩ :=
      List.any_eq_true.mp ((serverField_types _ (mem_of_lookup hfields)).1.mpr htarget)
    obtain ⟨hpath, hkind⟩ := (isServerField_iff field).mp hfield
    refine ⟨hshare, fields, hfields, field, hmem, hpath, by rw [hkind]; rfl, ?_⟩
    intro sources hsources
    obtain ⟨source, hmem', hsource⟩ :=
      List.any_eq_true.mp ((serverField_types _ (mem_of_lookup hsources)).2.1.mpr hcurrent)
    obtain ⟨hpath', hkind'⟩ := (isServerField_iff source).mp hsource
    exact ⟨source, hmem', hpath', hkind'.trans hkind.symm⟩

/-- A resolver that is a string stays where the target has one. -/
theorem getPath_string_resolver {object result : Object} {change : CleanupTransition}
    {s : String} (hstring : object["domain_resolver"]? = some (.str s))
    (h : transitionCleanupFields object dnsServerCleanupFields change = some result) :
    ObjectPath.getPath result.toValue ["domain_resolver"] = some (.str s) ↔
      change.target ∈ resolverTypes := by
  have hsifted : transitionCleanupFields object DNSPart.server.registry change = some result := h
  obtain ⟨compatible, -, prepared, hprepared, rfl⟩ := transition_eq_some_iff.mp hsifted
  by_cases htarget : change.target ∈ resolverTypes
  · have hsettled : Settled .server change object["domain_resolver"]? := by
      intro _ v hv
      obtain rfl := Option.some.inj (hstring.symm.trans hv)
      exact .inr ⟨rfl, (supports_iff _).mpr htarget⟩
    obtain rfl := Option.some.inj ((prepare_of_settled hsettled).symm.trans hprepared)
    rw [← ObjectPath.getPath_singleton] at hstring
    obtain hsame | ⟨-, v, m₀, hv, hm₀, -⟩ :=
      ObjectPath.getPath_sift_outside (knownPaths_separate .server).2
        (fitsField_none compatible) (notBelow_domainResolver .server) object
    · exact iff_of_true (hsame.trans hstring) htarget
    · obtain rfl := Option.some.inj (hstring.symm.trans hv)
      cases hm₀
  · obtain ⟨-, hsettled⟩ | ⟨-, -, rfl⟩ := prepare_cases hprepared
    · obtain hobject | ⟨-, hsupports⟩ := hsettled rfl _ hstring
      · cases hobject
      · exact absurd ((supports_iff _).mp hsupports) htarget
    · obtain ⟨removed, -, heq⟩ := ObjectPath.sift_eq_removeAll (fitsField compatible)
        (knownPaths .server) (ObjectPath.remove ["domain_resolver"] object)
      rw [heq, ObjectPath.getPath_removeAll_of_eq_none removed
        (ObjectPath.getPath_remove_self (List.cons_ne_nil _ []) object)]
      exact iff_of_false (Option.some_ne_none _).symm htarget

/-- The two types are known, and one of them is the old kind of server. -/
def separated (current type : String) : Bool :=
  ((dnsServerCleanupFields.lookup current).isSome &&
    (dnsServerCleanupFields.lookup type).isSome) && ((current == "legacy") != (type == "legacy"))

theorem separated_eq_false {current type : String} (hcurrent : current ∉ plainTypes)
    (htype : type ∈ resolverTypes) : separated current type = false := by
  have hlegacy : current ≠ "legacy" := by
    rintro rfl
    exact hcurrent (by decide)
  have hlegacy' : type ≠ "legacy" := by
    rintro rfl
    exact absurd htype (by decide)
  rw [separated, beq_eq_false_iff_ne.mpr hlegacy, beq_eq_false_iff_ne.mpr hlegacy',
    bne_self_eq_false, Bool.and_false]

def typeChange (server : Object) (type : String) : CleanupTransition where
  current := inferDNSServerType server
  target := type
  share := some !separated (inferDNSServerType server) type

theorem changeDNSServerType_of_ne {server : Object} {type : String}
    (h : inferDNSServerType server ≠ type) :
    changeDNSServerType server type =
      (transitionCleanupFields server DNSPart.server.registry (typeChange server type)).map
        fun next =>
          setPolicyPath next ["type"] (if type = "legacy" then none else some (.str type)) :=
  if_neg h

theorem inferDNSServerType_insert (server : Object) (v : Value) :
    inferDNSServerType (server.insert "domain_resolver" v) = inferDNSServerType server := by
  rw [inferDNSServerType, inferDNSServerType, Std.ExtTreeMap.getElem?_insert,
    if_neg (by decide)]

/-- `domain_resolver: s` is there after a change of the type. -/
def KeepsString (server : Object) (s type : String) : Prop :=
  ∃ next, changeDNSServerType (server.insert "domain_resolver" (.str s)) type = some next ∧
    getPolicyPath next ["domain_resolver"] = .value (.str s)

/-- The server of `domain_resolver: {server: s}` is there after a change of the type. -/
def KeepsServer (server : Object) (s type : String) : Prop :=
  ∃ next, changeDNSServerType
      (server.insert "domain_resolver" (.obj [("server", .str s)])) type = some next ∧
    getPolicyPath next ["domain_resolver", "server"] = .value (.str s)

theorem resolverTypes_names : ∀ type ∈ resolverTypes, type ∉ inheritedNames := by decide

theorem getPath_insert_resolver (server : Object) (v : Value) (keys : List String) :
    ObjectPath.getPath (Object.toValue (server.insert "domain_resolver" v))
      ("domain_resolver" :: keys) = ObjectPath.getPath v keys := by
  rw [ObjectPath.getPath_toValue_cons, Std.ExtTreeMap.getElem?_insert_self, Option.bind_some]

theorem keepsString_iff (server : Object) (s type : String) :
    KeepsString server s type ↔
      inferDNSServerType server = type ∨ type ∈ resolverTypes := by
  have hplain : PlainPath ["domain_resolver"] := by decide
  have hapart : ObjectPath.Apart ["type"] ["domain_resolver"] := by decide
  rw [KeepsString]
  by_cases hsame : inferDNSServerType server = type
  · have hkept : changeDNSServerType (server.insert "domain_resolver" (.str s)) type =
        some (server.insert "domain_resolver" (.str s)) :=
      if_pos ((inferDNSServerType_insert server _).trans hsame)
    refine iff_of_true ⟨_, hkept, ?_⟩ (.inl hsame)
    rw [← getPath_eq_getPolicyPath, getPath_eq _ hplain.2, getPath_insert_resolver]
    rfl
  · have hne : inferDNSServerType (server.insert "domain_resolver" (.str s)) ≠ type := by
      rwa [inferDNSServerType_insert]
    have hstring : (server.insert "domain_resolver" (.str s))["domain_resolver"]? = some (.str s) :=
      Std.ExtTreeMap.getElem?_insert_self
    rw [changeDNSServerType_of_ne hne, or_iff_right hsame]
    constructor
    · rintro ⟨next, hnext, hread⟩
      obtain ⟨result, hresult, rfl⟩ := Option.map_eq_some_iff.mp hnext
      rw [getPolicyPath_written _ _ hplain hapart] at hread
      exact (getPath_string_resolver hstring hresult).mp
        (Read.ofOption_injective
          (hread.trans (rfl : .value (.str s) = Read.ofOption (some (.str s)))))
    · intro htype
      obtain ⟨result, hresult⟩ := transition_of_notMem .server
        (server.insert "domain_resolver" (.str s)) (typeChange _ type)
        (resolverTypes_names type htype)
      refine ⟨_, congrArg _ hresult, ?_⟩
      rw [getPolicyPath_written _ _ hplain hapart,
        (getPath_string_resolver hstring hresult).mpr htype]
      rfl

theorem keepsServer_iff (server : Object) (s type : String) :
    KeepsServer server s type ↔
      inferDNSServerType server = type ∨
        type ∈ resolverTypes ∧ inferDNSServerType server ∉ plainTypes := by
  have hplain : PlainPath ["domain_resolver", "server"] := by decide
  have hapart : ObjectPath.Apart ["type"] ["domain_resolver", "server"] := by decide
  have hmem : ["domain_resolver", "server"] ∈ knownPaths .server := by decide +kernel
  have hobject : getPolicyPath (server.insert "domain_resolver" (.obj [("server", .str s)]))
      ["domain_resolver", "server"] = .value (.str s) := by
    rw [← getPath_eq_getPolicyPath, getPath_eq _ hplain.2, getPath_insert_resolver]
    rfl
  rw [KeepsServer]
  by_cases hsame : inferDNSServerType server = type
  · have hkept : changeDNSServerType
        (server.insert "domain_resolver" (.obj [("server", .str s)])) type =
          some (server.insert "domain_resolver" (.obj [("server", .str s)])) :=
      if_pos ((inferDNSServerType_insert server _).trans hsame)
    exact iff_of_true ⟨_, hkept, hobject⟩ (.inl hsame)
  · have hne : inferDNSServerType
        (server.insert "domain_resolver" (.obj [("server", .str s)])) ≠ type := by
      rwa [inferDNSServerType_insert]
    rw [changeDNSServerType_of_ne hne, or_iff_right hsame]
    constructor
    · rintro ⟨next, hnext, hread⟩
      obtain ⟨result, hresult, rfl⟩ := Option.map_eq_some_iff.mp hnext
      rw [getPolicyPath_written _ _ hplain hapart, ← getPolicyPath_known result hmem] at hread
      obtain ⟨-, hkeeps⟩ := ((cleaned_of_transition hresult).kept _ hmem _).mp hread
      obtain ⟨-, htype, hcurrent⟩ := (keeps_server_iff _ s).mp hkeeps
      exact ⟨htype, (inferDNSServerType_insert server _) ▸ hcurrent⟩
    · rintro ⟨htype, hcurrent⟩
      obtain ⟨result, hresult⟩ := transition_of_notMem .server
        (server.insert "domain_resolver" (.obj [("server", .str s)])) (typeChange _ type)
        (resolverTypes_names type htype)
      refine ⟨_, congrArg _ hresult, ?_⟩
      rw [getPolicyPath_written _ _ hplain hapart, ← getPolicyPath_known result hmem]
      refine ((cleaned_of_transition hresult).kept _ hmem _).mpr ⟨hobject, ?_⟩
      refine (keeps_server_iff _ s).mpr ⟨?_, htype, ?_⟩
      · rw [typeChange, inferDNSServerType_insert, separated_eq_false hcurrent htype]
        simp
      · rw [typeChange, inferDNSServerType_insert]
        exact hcurrent

/-- Both ways of writing a resolver are treated alike, except from a known type without resolvers
to a type with them. -/
theorem resolvers_alike_iff (server : Object) (s type : String) :
    (KeepsString server s type ↔ KeepsServer server s type) ↔
      ¬ (inferDNSServerType server ∈ plainTypes ∧ type ∈ resolverTypes) := by
  rw [keepsString_iff, keepsServer_iff]
  have hne : inferDNSServerType server ∈ plainTypes → type ∈ resolverTypes →
      inferDNSServerType server ≠ type := by
    rintro hplain htype heq
    rw [heq] at hplain
    have hboth : ∀ type ∈ plainTypes, type ∉ resolverTypes := by decide
    exact hboth type hplain htype
  tauto

/-- A hosts server that becomes a UDP one keeps a resolver that is a string, and loses the server
of one that is an object. -/
theorem resolvers_alike_hosts :
    ¬ (KeepsString (Std.ExtTreeMap.ofList [("type", .str "hosts")] compare) "dns" "udp" ↔
      KeepsServer (Std.ExtTreeMap.ofList [("type", .str "hosts")] compare) "dns" "udp") := by
  have htype : inferDNSServerType
      (Std.ExtTreeMap.ofList [("type", .str "hosts")] compare) = "hosts" := rfl
  rw [keepsString_iff, keepsServer_iff, htype]
  decide

end Boxui.UI.DNSForm
