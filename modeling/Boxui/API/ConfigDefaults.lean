import Boxui.API.ConfigApply
import Boxui.API.SyncCommit
import Boxui.Core.DNSDefaults
import Boxui.Core.OutboundDefaults
import Boxui.Core.RouteRuleMetadata

/-! The handlers that install defaults into the configuration: read it, lay the defaults into
it, and apply the result. -/
namespace Boxui.API
open GoValue Boxui.Core

variable {Bytes : Type*}

/-- How the calls of an installation turn out; `true` is a failure. -/
structure InstallOutcome where
  readConfig : Bool
  apply : ApplyOutcome
  saveMetadata : Bool

/-- The answer of a handler that changes the configuration. `installed` is what it reports to
have added. -/
structure ConfigResponse where
  statusCode : Nat
  status : String
  installed : List Object
  apiErr : Option APIError

def ConfigResponse.error (statusCode : Nat) (code message : String) : ConfigResponse :=
  ⟨statusCode, "error", [], some ⟨code, message⟩⟩

/-- The configuration as the handlers decode it, with the document `null` as an empty one. -/
def readConfigMap (codec : JSONCodec Bytes) (o : InstallOutcome) (dir : Directory Bytes) :
    Except ConfigResponse Object :=
  match o.readConfig, dir.target with
  | true, _ => .error (.error 404 "not_found" "config not found")
  | false, none => .error (.error 404 "not_found" "config not found")
  | false, some data =>
    match decodeConfig codec data with
    | none => .error (.error 500 "internal_error" "invalid JSON in config")
    | some config => .ok (config.getD ∅)

def applyDefaults (codec : JSONCodec Bytes) (o : InstallOutcome) (cfg : Object)
    (installed : List Object) (host : ConfigHost Bytes) : ConfigHost Bytes × ConfigResponse :=
  match applyConfigBytes (codec.marshal (Object.toValue cfg)) false o.apply host with
  | (host, .error _) => (host, .error 500 "internal_error" "failed to write config")
  | (host, .ok result) => (host, ⟨200, result.status, installed, result.apiErr⟩)

/-- The configuration with the default outbounds, and a final outbound unless it has one. -/
def withDefaultOutbounds (cfg : Object) : Object :=
  let result := DefaultOutboundsInstaller.install cfg
  let route := (cfg["route"]?.bind Value.asMap?).getD ∅
  let route :=
    match route["final"]? with
    | none | some (.str "") => route.insert "final" (.str result.final)
    | some _ => route
  (cfg.insert "outbounds" (.list result.outbounds)).insert "route" (Object.toValue route)

def installDefaultOutbounds (codec : JSONCodec Bytes) (o : InstallOutcome)
    (host : ConfigHost Bytes) : ConfigHost Bytes × ConfigResponse :=
  match readConfigMap codec o host.dir with
  | .error response => (host, response)
  | .ok cfg =>
    applyDefaults codec o (withDefaultOutbounds cfg)
      (DefaultOutboundsInstaller.install cfg).installed host

def withDefaultRouteRules (formatFloat : Rat → String) (cfg : Object) : Object :=
  let result := DefaultRouteInstaller.install formatFloat cfg
  let route := (cfg["route"]?.bind Value.asMap?).getD ∅
  cfg.insert "route" (Object.toValue (route.insert "rules" (.list result.rules)))

/-- The rules that were written are named, unless they were rolled back. -/
def installDefaultRouteRules (codec : JSONCodec Bytes) (d : Digest Bytes)
    (formatFloat : Rat → String) (o : InstallOutcome) (host : ConfigHost Bytes)
    (metadata : RouteRuleMetadataBucket) :
    ConfigHost Bytes × RouteRuleMetadataBucket × ConfigResponse :=
  match readConfigMap codec o host.dir with
  | .error response => (host, metadata, response)
  | .ok cfg =>
    let result := DefaultRouteInstaller.install formatFloat cfg
    match applyDefaults codec o (withDefaultRouteRules formatFloat cfg) result.installed host with
    | (host, response) =>
      if response.statusCode ≠ 200 ∨ response.status = statusRolledBack then
        (host, metadata, response)
      else
        let failed := ConfigResponse.error 500 "internal_error"
          "failed to save default route rule metadata"
        if o.saveMetadata then (host, metadata, failed)
        else
          match RouteRuleMetadataManager.applyDefaultNames d formatFloat result.rules metadata with
          | .error _ => (host, metadata, failed)
          | .ok metadata => (host, metadata, response)

def installDefaultDNS (codec : JSONCodec Bytes) (o : InstallOutcome) (host : ConfigHost Bytes) :
    ConfigHost Bytes × ConfigResponse :=
  match readConfigMap codec o host.dir with
  | .error response => (host, response)
  | .ok cfg =>
    let result := DefaultDNSInstaller.install cfg
    applyDefaults codec o (cfg.insert "dns" (Object.toValue result.dns)) [result.installed] host

/-- Where the last entry under each tag is. -/
def indexRuleSets (existing : List Value) : GoMap Nat :=
  existing.zipIdx.foldl (fun indexByTag p =>
    if tagOf p.1 ≠ "" then indexByTag.insert (tagOf p.1) p.2 else indexByTag) ∅

/-- An installed entry takes the place of the one under its tag, or comes last. -/
def mergeRuleSets (existing : List Value) (installed : List Object) : List Value :=
  let indexByTag := indexRuleSets existing
  installed.foldl (fun merged item =>
    match indexByTag[Object.stringAt item "tag"]? with
    | some idx => merged.set idx (Object.toValue item)
    | none => merged ++ [Object.toValue item]) existing

def withRuleSets (cfg : Object) (entries : List Object) : Object :=
  let route := (cfg["route"]?.bind Value.asMap?).getD ∅
  let merged := mergeRuleSets ((route["rule_set"]?.bind Value.asList?).getD []) entries
  let route :=
    if merged.length > 0 then route.insert "rule_set" (.list merged) else route.erase "rule_set"
  cfg.insert "route" (Object.toValue route)

/-- The installer downloads and converts the rule-sets first; what that yields is `entries`. -/
def installDefaultRuleSets (codec : JSONCodec Bytes) (entries : Except String (List Object))
    (o : InstallOutcome) (host : ConfigHost Bytes) : ConfigHost Bytes × ConfigResponse :=
  match entries with
  | .error message => (host, .error 502 "bad_gateway" message)
  | .ok entries =>
    match readConfigMap codec o host.dir with
    | .error response => (host, response)
    | .ok cfg => applyDefaults codec o (withRuleSets cfg entries) entries host

def updateResponse : Except ApplyError ApplyResult → ConfigResponse
  | .error .invalidRuntimeConfig => .error 400 "config_invalid_runtime" "invalid sing-box config"
  | .error _ => .error 500 "internal_error" "failed to write config"
  | .ok result => ⟨200, result.status, [], result.apiErr⟩

def updateRawConfig (body : Bytes) (o : ApplyOutcome) (host : ConfigHost Bytes) :
    ConfigHost Bytes × ConfigResponse :=
  match applyConfigBytes body true o host with
  | (host, r) => (host, updateResponse r)

def updateConfig (codec : JSONCodec Bytes) (body : Bytes) (o : ApplyOutcome)
    (host : ConfigHost Bytes) : ConfigHost Bytes × ConfigResponse :=
  match codec.unmarshal body with
  | none => (host, .error 400 "invalid_request" "invalid JSON")
  | some _ => updateRawConfig body o host

/-- The configuration file, decoded, with the document `null` as an empty one. -/
def storedConfig (codec : JSONCodec Bytes) (dir : Directory Bytes) : Option Object :=
  dir.target.bind fun data => (decodeConfig codec data).map (·.getD ∅)

/-- The configuration an installation starts from. -/
theorem readConfigMap_ok {codec : JSONCodec Bytes} {o : InstallOutcome} {dir : Directory Bytes}
    {config : Object} (h : readConfigMap codec o dir = .ok config) :
    ∃ data decoded, dir.target = some data ∧ decodeConfig codec data = some decoded ∧
      config = decoded.getD ∅ := by
  unfold readConfigMap at h
  split at h
  · cases h
  · cases h
  · rename_i data _ htarget
    cases hdecode : decodeConfig codec data with
    | none =>
      rw [hdecode] at h
      cases h
    | some decoded =>
      rw [hdecode] at h
      exact ⟨data, decoded, htarget, hdecode, (Except.ok.inj h).symm⟩

theorem readConfigMap_error_statusCode {codec : JSONCodec Bytes} {o : InstallOutcome}
    {dir : Directory Bytes} {response : ConfigResponse}
    (h : readConfigMap codec o dir = .error response) : response.statusCode ≠ 200 := by
  unfold readConfigMap at h
  split at h
  · obtain rfl := Except.error.inj h
    decide
  · obtain rfl := Except.error.inj h
    decide
  · split at h
    · obtain rfl := Except.error.inj h
      decide
    · cases h

theorem storedConfig_of_readConfigMap {codec : JSONCodec Bytes} {o : InstallOutcome}
    {dir : Directory Bytes} {cfg : Object} (h : readConfigMap codec o dir = .ok cfg) :
    storedConfig codec dir = some cfg := by
  obtain ⟨data, decoded, htarget, hdecode, rfl⟩ := readConfigMap_ok h
  rw [storedConfig, htarget, Option.bind_some, hdecode, Option.map_some]

theorem storedConfig_marshal {codec : JSONCodec Bytes} {dir : Directory Bytes} {cfg : Object}
    (h : dir.target = some (codec.marshal (Object.toValue cfg))) :
    storedConfig codec dir = some (Object.json cfg) := by
  rw [storedConfig, h, Option.bind_some, decodeConfig, codec.unmarshal_marshal,
    Value.json_toValue]
  simp [Object.toValue, Value.asMap?, GoMap.ofList_toList]

/-- What is read from the file is as JSON carries it. -/
theorem storedConfig_json {codec : JSONCodec Bytes} {dir : Directory Bytes} {cfg : Object}
    (h : storedConfig codec dir = some cfg) : Object.json cfg = cfg := by
  obtain ⟨data, -, hdecode⟩ := Option.bind_eq_some_iff.mp h
  obtain ⟨decoded, hdecoded, rfl⟩ := Option.map_eq_some_iff.mp hdecode
  cases decoded with
  | none => simp [Object.json]
  | some config => exact decodeConfig_json hdecoded

theorem updateConfig_written {codec : JSONCodec Bytes} {body : Bytes} {o : ApplyOutcome}
    {host host' : ConfigHost Bytes} {response : ConfigResponse}
    (h : updateConfig codec body o host = (host', response)) (hcode : response.statusCode = 200)
    (hstatus : response.status ≠ statusRolledBack) : host'.dir.target = some body := by
  unfold updateConfig updateRawConfig at h
  split at h
  · cases h
    cases hcode
  · rcases ha : applyConfigBytes body true o host with ⟨host₁, e | result⟩
    · rw [ha] at h
      cases h
      cases e <;> cases hcode
    · rw [ha] at h
      cases h
      exact applyConfigBytes_written ha hstatus

/-- A request that succeeds reports what the installer adds to the configuration in the file,
and unless it was rolled back, that is written and named. -/
theorem installDefaultRouteRules_ok {codec : JSONCodec Bytes} {d : Digest Bytes}
    {formatFloat : Rat → String} {o : InstallOutcome} {host host' : ConfigHost Bytes}
    {metadata metadata' : RouteRuleMetadataBucket} {response : ConfigResponse}
    (h : installDefaultRouteRules codec d formatFloat o host metadata =
      (host', metadata', response))
    (hcode : response.statusCode = 200) :
    ∃ cfg, storedConfig codec host.dir = some cfg ∧
      response.installed = (DefaultRouteInstaller.install formatFloat cfg).installed ∧
      (response.status ≠ statusRolledBack →
        host'.dir.target =
            some (codec.marshal (Object.toValue (withDefaultRouteRules formatFloat cfg))) ∧
          RouteRuleMetadataManager.applyDefaultNames d formatFloat
            (DefaultRouteInstaller.install formatFloat cfg).rules metadata = .ok metadata') := by
  unfold installDefaultRouteRules at h
  cases hread : readConfigMap codec o host.dir with
  | error failure =>
    rw [hread] at h
    cases h
    exact absurd hcode (readConfigMap_error_statusCode hread)
  | ok cfg =>
    rw [hread] at h
    refine ⟨cfg, storedConfig_of_readConfigMap hread, ?_⟩
    dsimp only [applyDefaults] at h
    rcases ha : applyConfigBytes
      (codec.marshal (Object.toValue (withDefaultRouteRules formatFloat cfg))) false o.apply host
      with ⟨host₁, e | result⟩
    · rw [ha] at h
      dsimp only at h
      rw [if_pos (.inl (by decide))] at h
      cases h
      cases hcode
    · rw [ha] at h
      dsimp only at h
      split_ifs at h with hrolled
      · cases h
        exact ⟨rfl, fun hstatus => absurd hrolled (by simpa using hstatus)⟩
      · cases h
        cases hcode
      · cases hnames : RouteRuleMetadataManager.applyDefaultNames d formatFloat
          (DefaultRouteInstaller.install formatFloat cfg).rules metadata with
        | error e =>
          rw [hnames] at h
          cases h
          cases hcode
        | ok named =>
          rw [hnames] at h
          cases h
          exact ⟨rfl, fun hstatus => ⟨applyConfigBytes_written ha hstatus, rfl⟩⟩

theorem installDefaultRouteRules_written {codec : JSONCodec Bytes} {d : Digest Bytes}
    {formatFloat : Rat → String} {o : InstallOutcome} {host host' : ConfigHost Bytes}
    {metadata metadata' : RouteRuleMetadataBucket} {response : ConfigResponse}
    (h : installDefaultRouteRules codec d formatFloat o host metadata =
      (host', metadata', response))
    (hcode : response.statusCode = 200) (hstatus : response.status ≠ statusRolledBack) :
    ∃ cfg, storedConfig codec host.dir = some cfg ∧
      host'.dir.target =
        some (codec.marshal (Object.toValue (withDefaultRouteRules formatFloat cfg))) ∧
      RouteRuleMetadataManager.applyDefaultNames d formatFloat
        (DefaultRouteInstaller.install formatFloat cfg).rules metadata = .ok metadata' := by
  obtain ⟨cfg, hcfg, -, hwritten⟩ := installDefaultRouteRules_ok h hcode
  exact ⟨cfg, hcfg, hwritten hstatus⟩

/-- The rules that an installation has written. -/
theorem existingRules_withDefaultRouteRules (formatFloat : Rat → String) (cfg : Object) :
    DefaultRouteInstaller.existingRules (Object.json (withDefaultRouteRules formatFloat cfg)) =
      (DefaultRouteInstaller.install formatFloat cfg).rules.map Value.json := by
  unfold withDefaultRouteRules
  rw [DefaultRouteInstaller.existingRules_json, DefaultRouteInstaller.existingRules_insert]
  intro route hroute strings
  simp only [GoMap.getElem?_insert, if_true, Option.bind_some, Value.asMap?_toValue,
    Option.some.injEq] at hroute
  simp [← hroute]

end Boxui.API
