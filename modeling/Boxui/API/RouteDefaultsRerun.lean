import Boxui.API.ConfigDefaults
import Boxui.Core.RouteDefaultsInstall

/-! Installing the default route rules into a configuration that has them. The rules that are
written go back to the installer as the configuration, in memory or decoded from the file, and
it finds nothing to add. -/
namespace Boxui.API
open GoValue Boxui.Core DefaultRouteInstaller

variable {formatFloat : Rat → String}

/-- The route a configuration is given its rules in. -/
theorem route_withDefaultRouteRules (cfg : Object) :
    (withDefaultRouteRules formatFloat cfg)["route"]?.bind Value.asMap? =
      some (((cfg["route"]?.bind Value.asMap?).getD ∅).insert "rules"
        (.list (install formatFloat cfg).rules)) := by
  rw [withDefaultRouteRules, GoMap.getElem?_insert, if_pos rfl, Option.bind_some,
    Value.asMap?_toValue]

/-- The rules do not change which defaults apply. -/
theorem applicable_withDefaultRouteRules (cfg : Object) :
    applicable (withDefaultRouteRules formatFloat cfg) = applicable cfg := by
  have hsets : existingRuleSetTags (withDefaultRouteRules formatFloat cfg) =
      existingRuleSetTags cfg := by
    rw [existingRuleSetTags, route_withDefaultRouteRules, existingRuleSetTags]
    cases cfg["route"]?.bind Value.asMap? with
    | none => simp [objectTags]
    | some route => simp
  have houtbounds : existingOutboundTags (withDefaultRouteRules formatFloat cfg) =
      existingOutboundTags cfg := by
    simp [existingOutboundTags, withDefaultRouteRules]
  rw [applicable, hsets, houtbounds]
  rfl

theorem install_again (cfg : Object) :
    install formatFloat (withDefaultRouteRules formatFloat cfg) =
      ⟨(install formatFloat cfg).rules, []⟩ := by
  have hexisting : existingRules (withDefaultRouteRules formatFloat cfg) =
      (install formatFloat cfg).rules := existingRules_insert _ _ _
  rw [install_of_signatures, hexisting]
  intro default hdefault
  rw [hexisting]
  rw [applicable_withDefaultRouteRules] at hdefault
  exact signature_mem_rules hdefault

/-- The rules that were decoded keep their signatures, and so do the defaults among them. -/
theorem signatures_json_rules (hport : formatFloat 443 = "443") {cfg : Object}
    (hjson : Object.json cfg = cfg) :
    signatures formatFloat ((install formatFloat cfg).rules.map Value.json) =
      signatures formatFloat (install formatFloat cfg).rules := by
  rw [rules_eq, List.map_append, signatures_append, signatures_append,
    map_json_existingRules hjson, signatures_map_json, signatures_map_toValue,
    List.filterMap_map]
  congr 1
  have hmaps : (install formatFloat cfg).installed.filterMap (Value.asMap? ∘ Object.toValue) =
      (install formatFloat cfg).installed := by
    simp
  rw [hmaps]
  apply List.map_congr_left
  intro default hdefault
  exact signature_json_defaultRules hport
    ((defaults_sublist _ _).subset (mem_applicable_of_installed hdefault))

theorem install_json (hport : formatFloat 443 = "443") {cfg : Object}
    (hjson : Object.json cfg = cfg) :
    install formatFloat (Object.json (withDefaultRouteRules formatFloat cfg)) =
      ⟨(install formatFloat cfg).rules.map Value.json, []⟩ := by
  rw [install_of_signatures, existingRules_withDefaultRouteRules]
  intro default hdefault
  rw [existingRules_withDefaultRouteRules, signatures_json_rules hport hjson]
  rw [applicable_json, applicable_withDefaultRouteRules] at hdefault
  exact signature_mem_rules hdefault

/-- A request after one whose rules were written adds nothing. -/
theorem installDefaultRouteRules_again {Bytes : Type*} {codec : JSONCodec Bytes}
    {d : Digest Bytes} (hport : formatFloat 443 = "443") {o o' : InstallOutcome}
    {host host' host'' : ConfigHost Bytes}
    {metadata metadata' metadata'' : RouteRuleMetadataBucket} {response response' : ConfigResponse}
    (h : installDefaultRouteRules codec d formatFloat o host metadata =
      (host', metadata', response))
    (hcode : response.statusCode = 200) (hstatus : response.status ≠ statusRolledBack)
    (h' : installDefaultRouteRules codec d formatFloat o' host' metadata' =
      (host'', metadata'', response')) (hcode' : response'.statusCode = 200) :
    response'.installed = [] := by
  obtain ⟨cfg, hcfg, htarget, -⟩ := installDefaultRouteRules_written h hcode hstatus
  obtain ⟨cfg', hcfg', hinstalled, -⟩ := installDefaultRouteRules_ok h' hcode'
  rw [storedConfig_marshal htarget] at hcfg'
  rw [hinstalled, ← Option.some.inj hcfg', install_json hport (storedConfig_json hcfg)]

/-- Installing the default rules leaves the rules that are there as they are, names nothing that
is not there, adds no two rules with one signature, and adds nothing the second time. -/
theorem installDefaultRules_spec (formatFloat : Rat → String) (cfg : Object) :
    (install formatFloat cfg).rules =
        existingRules cfg ++ (install formatFloat cfg).installed.map Object.toValue ∧
      (∀ default ∈ (install formatFloat cfg).installed,
        NamesPresent (existingRuleSetTags cfg) (existingOutboundTags cfg) default) ∧
      ((install formatFloat cfg).installed.map (ruleSignature formatFloat)).Nodup ∧
      install formatFloat (withDefaultRouteRules formatFloat cfg) =
        ⟨(install formatFloat cfg).rules, []⟩ ∧
      (formatFloat 443 = "443" → Object.json cfg = cfg →
        install formatFloat (Object.json (withDefaultRouteRules formatFloat cfg)) =
          ⟨(install formatFloat cfg).rules.map Value.json, []⟩) :=
  ⟨rules_eq cfg, fun _ hdefault => namesPresent_defaults (mem_applicable_of_installed hdefault),
    nodup_installed, install_again cfg, fun hport hjson => install_json hport hjson⟩

/-- A decoded configuration with a rule that is no object, and one that rejects QUIC. -/
def quicConfig : Object :=
  Object.json (rule
    [("outbounds", .list [.obj [("tag", .str "direct"), ("type", .str "direct")],
      .obj [("tag", .str "block"), ("type", .str "block")]]),
    ("route", .obj [("rule_set", .list [.obj [("tag", .str "geosite-cn")]]),
      ("rules", .list [.str "note", .obj [("action", .str "reject"),
        ("network", .list [.str "udp"]), ("port", .int 443)]])])])

theorem quicConfig_spec :
    install formatWhole (Object.json (withDefaultRouteRules formatWhole quicConfig)) =
      ⟨(install formatWhole quicConfig).rules.map Value.json, []⟩ :=
  (installDefaultRules_spec formatWhole quicConfig).2.2.2.2 rfl (Object.json_json _)

end Boxui.API
