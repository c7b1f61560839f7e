import Boxui.Library.GoValue
import Mathlib.Data.List.Basic

/-! The default route rules. A default is added only where the outbound it names is there, and
where no rule with the same signature is. -/
namespace Boxui.Core
open GoValue

structure RouteDefaultsResult where
  rules : List Value
  installed : List Object

namespace DefaultRouteInstaller

/-- The tags of the objects in a list. -/
def objectTags (items : Option Value) : List String :=
  (((items.bind Value.asList?).getD []).filterMap Value.asMap?).map (Object.stringAt · "tag")
    |>.filter (· ≠ "")

def existingRuleSetTags (cfg : Object) : List String :=
  match cfg["route"]?.bind Value.asMap? with
  | none => []
  | some route => objectTags route["rule_set"]?

def existingOutboundTags (cfg : Object) : List String := objectTags cfg["outbounds"]?

/-- `formatFloat` is `strconv.FormatFloat` without an exponent. -/
def portValue (formatFloat : Rat → String) : Option Value → String
  | some (.str s) => s
  | some (.int n) => toString n
  | some (.float q) => formatFloat q
  | _ => ""

/-- A network may be a single string or a list, of which only the first counts. -/
def networkOf (rule : Object) : String :=
  match rule["network"]? with
  | some (.str network) => network
  | some (.list (.str network :: _)) => network
  | _ => ""

def ruleSignature (formatFloat : Rat → String) (rule : Object) : String :=
  let outbound := Object.stringAt rule "outbound"
  let action := Object.stringAt rule "action"
  if networkOf rule ≠ "" then
    "network:" ++ networkOf rule ++ "->" ++ portValue formatFloat rule["port"]? ++ "->" ++
      action ++ "->" ++ outbound
  else if Object.stringAt rule "protocol" ≠ "" then
    "protocol:" ++ Object.stringAt rule "protocol" ++ "->" ++ outbound ++ "->" ++ action
  else
    match rule["ip_is_private"]?, rule["rule_set"]? with
    | some (.bool true), _ => "ip_is_private->" ++ outbound
    | _, some (.strs (set :: _)) => "rule_set:" ++ set ++ "->" ++ outbound
    | _, some (.list (.str set :: _)) =>
      if set ≠ "" then "rule_set:" ++ set ++ "->" ++ outbound else outbound
    | _, _ => outbound

def rule (fields : List (String × Value)) : Object := Std.ExtTreeMap.ofList fields compare

def ruleSetRule (set outbound : String) : Object :=
  rule [("rule_set", .strs [set]), ("outbound", .str outbound)]

/-- The rule for the first of two rule-sets that is there. -/
def preferred (ruleSets : List String) (first second outbound : String) : List Object :=
  if ruleSets.contains first then [ruleSetRule first outbound]
  else if ruleSets.contains second then [ruleSetRule second outbound]
  else []

def directTag (outbounds : List String) : String :=
  if outbounds.contains "bypass" then "bypass" else "direct"

def defaults (ruleSets outbounds : List String) : List Object :=
  let direct := directTag outbounds
  [rule [("action", .str "sniff")],
    rule [("protocol", .str "dns"), ("action", .str "hijack-dns")]] ++
  (if outbounds.contains direct then
    [rule [("ip_is_private", .bool true), ("outbound", .str direct)],
      rule [("network", .str "icmp"), ("outbound", .str direct)]]
  else []) ++
  (if outbounds.contains "block" then
    rule [("network", .str "udp"), ("port", .int 443), ("action", .str "reject")] ::
      preferred ruleSets "loyalsoldier-reject" "geosite-category-ads-all" "block"
  else []) ++
  (if outbounds.contains direct then
    preferred ruleSets "loyalsoldier-direct" "geosite-cn" direct ++
      if ruleSets.contains "geoip-cn" then [ruleSetRule "geoip-cn" direct] else []
  else []) ++
  (if outbounds.contains "proxy" then
    preferred ruleSets "loyalsoldier-proxy" "geosite-google-play" "proxy"
  else [])

def existingRules (cfg : Object) : List Value :=
  ((cfg["route"]?.bind Value.asMap?).bind fun route => route["rules"]?.bind Value.asList?).getD []

/-- The loop over the defaults: those whose signature has not been seen. -/
def newRules (formatFloat : Rat → String) (seen : List String) : List Object → List Object
  | [] => []
  | default :: rest =>
    let sig := ruleSignature formatFloat default
    if seen.contains sig then newRules formatFloat seen rest
    else default :: newRules formatFloat (sig :: seen) rest

def install (formatFloat : Rat → String) (cfg : Object) : RouteDefaultsResult :=
  let existing := existingRules cfg
  let seen := (existing.filterMap Value.asMap?).map (ruleSignature formatFloat)
  let installed := newRules formatFloat seen
    (defaults (existingRuleSetTags cfg) (existingOutboundTags cfg))
  { rules := existing ++ installed.map Object.toValue, installed := installed }

theorem newRules_subset (formatFloat : Rat → String) (seen : List String) (rules : List Object) :
    newRules formatFloat seen rules ⊆ rules := by
  induction rules generalizing seen with
  | nil => exact List.Subset.refl _
  | cons default rest ih =>
    simp only [newRules]
    split_ifs
    · exact List.Subset.trans (ih seen) (List.subset_cons_self _ _)
    · exact List.cons_subset_cons _ (ih _)

/-- The rules of a configuration that is set to a list of them. -/
theorem existingRules_insert (cfg route : Object) (rules : List Value) :
    existingRules (cfg.insert "route" (Object.toValue (route.insert "rules" (.list rules)))) =
      rules := by
  simp [existingRules, Value.asList?]

theorem route_json (cfg : Object) :
    (Object.json cfg)["route"]?.bind Value.asMap? =
      (cfg["route"]?.bind Value.asMap?).map Object.json := by
  rw [Object.getElem?_json]
  cases cfg["route"]? with
  | none => rfl
  | some route => exact Value.asMap?_json route

theorem existingRules_json {cfg : Object}
    (h : ∀ route, cfg["route"]?.bind Value.asMap? = some route →
      ∀ strings, route["rules"]? ≠ some (.strs strings)) :
    existingRules (Object.json cfg) = (existingRules cfg).map Value.json := by
  unfold existingRules
  rw [route_json]
  cases hmap : cfg["route"]?.bind Value.asMap? with
  | none => rfl
  | some route =>
    rw [Option.map_some, Option.bind_some, Option.bind_some, Object.getElem?_json]
    cases hrules : route["rules"]? with
    | none => rfl
    | some rules =>
      rw [Option.map_some, Option.bind_some, Option.bind_some]
      cases rules with
      | strs strings => exact absurd hrules (h route hmap strings)
      | list items => simp [Value.json, Value.jsonList_eq_map, Value.asList?]
      | _ => rfl

/-- A decoded configuration has its lists generic. -/
theorem rules_ne_strs {cfg route : Object} (hjson : Object.json cfg = cfg)
    (hroute : cfg["route"]?.bind Value.asMap? = some route) (strings : List String) :
    route["rules"]? ≠ some (.strs strings) := by
  intro hrules
  have hcanonical : Object.json route = route := by
    obtain ⟨value, hvalue, hmap⟩ := Option.bind_eq_some_iff.mp hroute
    have hfield := Object.getElem?_json cfg "route"
    rw [hjson, hvalue, Option.map_some] at hfield
    have hmap' := Value.asMap?_json value
    rw [← Option.some.inj hfield, hmap, Option.map_some] at hmap'
    exact (Option.some.inj hmap').symm
  have hfield := Object.getElem?_json route "rules"
  rw [hcanonical, hrules, Option.map_some] at hfield
  cases Option.some.inj hfield

theorem map_json_existingRules {cfg : Object} (hjson : Object.json cfg = cfg) :
    (existingRules cfg).map Value.json = existingRules cfg := by
  rw [← existingRules_json fun route hroute => rules_ne_strs hjson hroute, hjson]

end DefaultRouteInstaller

end Boxui.Core
