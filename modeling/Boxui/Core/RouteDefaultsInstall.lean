import Boxui.Core.RouteDefaultRules

/-! Installing the default route rules. A default is added unless its signature is one of the
rules that are there, and the rules that result have the signatures of all the defaults, also
once the file has carried them. -/
namespace Boxui.Core
open GoValue Unseen

namespace DefaultRouteInstaller

variable {formatFloat : Rat → String}

theorem newRules_eq_unseen (seen : List String) (rules : List Object) :
    newRules formatFloat seen rules = unseen (ruleSignature formatFloat) seen rules := by
  induction rules generalizing seen with
  | nil => rfl
  | cons default rest ih => simp [newRules, unseen, ih]

/-- The signatures of the rules of a list, those that are objects. -/
def signatures (formatFloat : Rat → String) (rules : List Value) : List String :=
  (rules.filterMap Value.asMap?).map (ruleSignature formatFloat)

theorem signatures_append (rules rules' : List Value) :
    signatures formatFloat (rules ++ rules') =
      signatures formatFloat rules ++ signatures formatFloat rules' := by
  rw [signatures, List.filterMap_append, List.map_append]
  rfl

theorem signatures_map_toValue (rules : List Object) :
    signatures formatFloat (rules.map Object.toValue) =
      rules.map (ruleSignature formatFloat) := by
  simp [signatures, List.filterMap_map]

theorem filterMap_asMap?_json (items : List Value) :
    (items.map Value.json).filterMap Value.asMap? =
      (items.filterMap Value.asMap?).map Object.json := by
  rw [List.filterMap_map, List.map_filterMap]
  exact List.filterMap_congr fun item _ => Value.asMap?_json item

theorem signatures_map_json (rules : List Value) :
    signatures formatFloat (rules.map Value.json) =
      (rules.filterMap Value.asMap?).map fun rule =>
        ruleSignature formatFloat (Object.json rule) := by
  rw [signatures, filterMap_asMap?_json, List.map_map]
  rfl

/-- The defaults that apply to a configuration. -/
def applicable (cfg : Object) : List Object :=
  defaults (existingRuleSetTags cfg) (existingOutboundTags cfg)

section install

variable (cfg : Object)

theorem installed_eq : (install formatFloat cfg).installed =
    unseen (ruleSignature formatFloat) (signatures formatFloat (existingRules cfg))
      (applicable cfg) :=
  newRules_eq_unseen _ _

theorem rules_eq : (install formatFloat cfg).rules =
    existingRules cfg ++ (install formatFloat cfg).installed.map Object.toValue := rfl

theorem nodup_applicable : ((applicable cfg).map (ruleSignature formatFloat)).Nodup :=
  ((defaults_sublist _ _).map _).nodup (nodup_signatures formatFloat _)

variable {cfg}

/-- A default that applies is left out for the rules that are there alone. -/
theorem mem_installed_iff {default : Object} (h : default ∈ applicable cfg) :
    default ∈ (install formatFloat cfg).installed ↔
      ruleSignature formatFloat default ∉ signatures formatFloat (existingRules cfg) := by
  rw [installed_eq]
  exact mem_unseen_iff (nodup_applicable cfg) h

theorem mem_applicable_of_installed {default : Object}
    (h : default ∈ (install formatFloat cfg).installed) : default ∈ applicable cfg := by
  rw [installed_eq] at h
  exact (unseen_sublist _ _ _).subset h

theorem nodup_installed :
    ((install formatFloat cfg).installed.map (ruleSignature formatFloat)).Nodup := by
  rw [installed_eq]
  exact nodup_map_unseen _ _ _

/-- Once installed, every default that applies has its signature among the rules. -/
theorem signature_mem_rules {default : Object} (h : default ∈ applicable cfg) :
    ruleSignature formatFloat default ∈
      signatures formatFloat (install formatFloat cfg).rules := by
  rw [rules_eq, signatures_append, signatures_map_toValue, List.mem_append, installed_eq]
  exact key_mem_unseen _ _ h

/-- Nothing is installed where the rules have the signature of every default. -/
theorem install_of_signatures (h : ∀ default ∈ applicable cfg,
    ruleSignature formatFloat default ∈ signatures formatFloat (existingRules cfg)) :
    install formatFloat cfg = ⟨existingRules cfg, []⟩ := by
  have hnone : (install formatFloat cfg).installed = [] := by
    rw [installed_eq]
    exact unseen_eq_nil_iff.mpr h
  have hrules : (install formatFloat cfg).rules = existingRules cfg := by
    rw [rules_eq, hnone, List.map_nil, List.append_nil]
  calc install formatFloat cfg =
      ⟨(install formatFloat cfg).rules, (install formatFloat cfg).installed⟩ := rfl
    _ = ⟨existingRules cfg, []⟩ := by rw [hrules, hnone]

end install

section json

theorem objectTags_json (items : Option Value) :
    objectTags (items.map Value.json) = objectTags items := by
  cases items with
  | none => rfl
  | some items =>
    cases items with
    | strs items =>
      simp [objectTags, Value.json, Value.asList?, Value.asMap?, List.filterMap_map,
        Function.comp_def]
    | list items =>
      simp only [objectTags, Value.json, Value.jsonList_eq_map, Value.asList?, Option.map_some,
        Option.bind_some, Option.getD_some, filterMap_asMap?_json]
      simp [Function.comp_def]
    | _ => rfl

theorem existingOutboundTags_json (cfg : Object) :
    existingOutboundTags (Object.json cfg) = existingOutboundTags cfg := by
  rw [existingOutboundTags, Object.getElem?_json, objectTags_json]
  rfl

theorem existingRuleSetTags_json (cfg : Object) :
    existingRuleSetTags (Object.json cfg) = existingRuleSetTags cfg := by
  unfold existingRuleSetTags
  rw [route_json]
  cases cfg["route"]?.bind Value.asMap? with
  | none => rfl
  | some route =>
    change objectTags (Object.json route)["rule_set"]? = objectTags route["rule_set"]?
    rw [Object.getElem?_json, objectTags_json]

theorem applicable_json (cfg : Object) : applicable (Object.json cfg) = applicable cfg := by
  rw [applicable, existingRuleSetTags_json, existingOutboundTags_json]
  rfl

theorem signature_json_ruleSetRule {set : String} (hne : set ≠ "") (outbound : String) :
    ruleSignature formatFloat (Object.json (ruleSetRule set outbound)) =
      ruleSignature formatFloat (ruleSetRule set outbound) := by
  rw [ruleSignature_eq_text, ruleSignature_eq_text, reading_json] <;>
    simp [ruleSetRule, getElem?_rule, hne]

/-- The file carries every default rule with its signature, as long as the port of one of them
is written as its digits. -/
theorem signature_json_defaultRules (hport : formatFloat 443 = "443") {direct : String}
    {default : Object} (h : default ∈ defaultRules direct) :
    ruleSignature formatFloat (Object.json default) = ruleSignature formatFloat default := by
  have hdigits : (443 : Int).repr = "443" := rfl
  have hdecoded : float64 443 = 443 := rfl
  simp only [defaultRules, List.mem_cons, List.not_mem_nil, or_false] at h
  rcases h with rfl | rfl | rfl | rfl | rfl | h
  iterate 5
    · rw [ruleSignature_eq_text, ruleSignature_eq_text, reading_json] <;>
        simp [getElem?_rule, hport, hdigits, hdecoded]
  · rcases h with rfl | rfl | rfl | rfl | rfl | rfl | rfl <;>
      exact signature_json_ruleSetRule (by decide) _

end json

/-- Whole numbers are written as their digits. -/
def formatWhole (q : Rat) : String := toString q.num

end DefaultRouteInstaller

end Boxui.Core
