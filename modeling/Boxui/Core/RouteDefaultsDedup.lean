import Boxui.Core.RouteDefaultsInstall

/-! Which rules of a configuration keep a default route rule from being added. They are those
that read the same under the fields a signature shows, whatever else they ask for; a default is
missing from the result where none of them is the default itself. -/
namespace Boxui.Core
open GoValue RuleReading

namespace DefaultRouteInstaller

/-- A list of one element is that element. -/
def single : Value → Value
  | .strs [s] => .str s
  | .list [v] => v
  | v => v

/-- A port is its text. -/
def portForm (formatFloat : Rat → String) : Value → Value
  | .int n => .str (toString n)
  | .float q => .str (formatFloat q)
  | v => v

def fieldForm (formatFloat : Rat → String) (key : String) (v : Value) : Value :=
  if key = "port" then portForm formatFloat (single v) else single v

/-- Two rules have the same match fields, action and outbound as they are written. Every key counts:
a rule that spells out `type: default` or the action `route` where the default has neither, or that
gives an option of its action, a timeout say, is another rule. -/
def SameRule (formatFloat : Rat → String) (existing default : Object) : Prop :=
  ∀ key, existing[key]?.map (fieldForm formatFloat key) =
    default[key]?.map (fieldForm formatFloat key)

/-- The rules of a configuration that are objects. -/
def ruleObjects (cfg : Object) : List Object := (existingRules cfg).filterMap Value.asMap?

/-- The default is in the result, added or as a rule that was there. -/
def Covered (formatFloat : Rat → String) (cfg default : Object) : Prop :=
  default ∈ (install formatFloat cfg).installed ∨
    ∃ existing ∈ ruleObjects cfg, SameRule formatFloat existing default

/-- A rule stands in for a default if it is read as that default, or if all that is read of it
is an outbound whose name is the signature of the default. -/
def StandsIn (formatFloat : Rat → String) (existing default : Object) : Prop :=
  reading formatFloat existing = reading formatFloat default ∨
    reading formatFloat existing = .bare (ruleSignature formatFloat default)

variable {formatFloat : Rat → String} {cfg default : Object}

theorem clear_reading (h : default ∈ applicable cfg) : (reading formatFloat default).Clear := by
  apply clear_readings (existingOutboundTags cfg)
  rw [← map_reading_defaultRules formatFloat]
  exact List.mem_map_of_mem ((defaults_sublist _ _).subset h)

theorem ruleSignature_eq_iff (h : default ∈ applicable cfg) (existing : Object) :
    ruleSignature formatFloat existing = ruleSignature formatFloat default ↔
      StandsIn formatFloat existing default := by
  rw [StandsIn, ruleSignature_eq_text default, ruleSignature_eq_text existing]
  exact text_eq_iff (clear_reading h)

/-- A default is left out for the rules that stand in for it. -/
theorem notMem_installed_iff (h : default ∈ applicable cfg) :
    default ∉ (install formatFloat cfg).installed ↔
      ∃ existing ∈ ruleObjects cfg, StandsIn formatFloat existing default := by
  rw [mem_installed_iff h, not_not, signatures, List.mem_map]
  exact exists_congr fun existing => and_congr_right fun _ => ruleSignature_eq_iff h existing

/-- Every default that applies is in the result just when none has a rule that stands in for it
and no rule that is the same. -/
theorem defaultsCovered_iff (formatFloat : Rat → String) (cfg : Object) :
    (∀ default ∈ applicable cfg, Covered formatFloat cfg default) ↔
      ∀ default ∈ applicable cfg, ∀ existing ∈ ruleObjects cfg,
        StandsIn formatFloat existing default →
          ∃ same ∈ ruleObjects cfg, SameRule formatFloat same default := by
  constructor
  · intro hcovered default hdefault existing hexisting hstands
    rcases hcovered default hdefault with hinstalled | hsame
    · exact absurd hinstalled ((notMem_installed_iff hdefault).mpr ⟨existing, hexisting, hstands⟩)
    · exact hsame
  · intro h default hdefault
    by_cases hinstalled : default ∈ (install formatFloat cfg).installed
    · exact .inl hinstalled
    · obtain ⟨existing, hexisting, hstands⟩ := (notMem_installed_iff hdefault).mp hinstalled
      exact .inr (h default hdefault existing hexisting hstands)

/-- The fields that a signature can show. -/
def signatureFields : List String :=
  ["network", "port", "protocol", "ip_is_private", "rule_set", "action", "outbound"]

theorem reading_congr {rule rule' : Object}
    (h : ∀ key ∈ signatureFields, rule[key]? = rule'[key]?) :
    reading formatFloat rule = reading formatFloat rule' := by
  unfold reading networkOf isPrivate firstRuleSet Object.stringAt
  rw [h "network" (by decide), h "port" (by decide), h "protocol" (by decide),
    h "ip_is_private" (by decide), h "rule_set" (by decide), h "action" (by decide),
    h "outbound" (by decide)]

theorem reading_insert {key : String} (hkey : key ∉ signatureFields) (existing : Object)
    (v : Value) : reading formatFloat (existing.insert key v) = reading formatFloat existing := by
  apply reading_congr
  intro key' hkey'
  have hne : key ≠ key' := by
    rintro rfl
    exact hkey hkey'
  rw [GoMap.getElem?_insert, if_neg hne]

/-- A default with one condition more, on a field that no signature shows, keeps the default
out. -/
theorem notMem_installed_of_narrowed (h : default ∈ applicable cfg) {key : String}
    (hkey : key ∉ signatureFields) {v : Value}
    (hmem : Object.toValue (default.insert key v) ∈ existingRules cfg) :
    default ∉ (install formatFloat cfg).installed := by
  rw [notMem_installed_iff h]
  refine ⟨default.insert key v, ?_, .inl (reading_insert hkey default v)⟩
  exact List.mem_filterMap.mpr ⟨_, hmem, Value.asMap?_toValue _⟩

/-- A rule that rejects one domain. -/
def adsRule : Object := rule [("action", .str "reject"), ("domain", .list [.str "ads.example"])]

def adsConfig : Object :=
  rule [("route", Object.toValue (rule [("rules", .list [Object.toValue adsRule])]))]

/-- The rule on one domain keeps out the rule that sniffs. -/
theorem adsConfig_not_covered :
    ¬ ∀ default ∈ applicable adsConfig, Covered formatWhole adsConfig default := by
  intro h
  have hrules : ruleObjects adsConfig = [adsRule] := by
    simp [ruleObjects, existingRules, adsConfig, getElem?_rule, Value.asList?]
  have hsniff : rule [("action", .str "sniff")] ∈ applicable adsConfig := by
    simp [applicable, defaults]
  have hstands : StandsIn formatWhole adsRule (rule [("action", .str "sniff")]) := by
    left
    simp only [reading, networkOf, isPrivate, firstRuleSet, adsRule, getElem?_rule,
      Object.stringAt]
    simp
  rcases h _ hsniff with hinstalled | ⟨existing, hexisting, hsame⟩
  · exact (notMem_installed_iff hsniff).mpr ⟨adsRule, by simp [hrules], hstands⟩ hinstalled
  · rw [hrules, List.mem_singleton] at hexisting
    have hdomain := hsame "domain"
    rw [hexisting, adsRule, getElem?_rule, getElem?_rule] at hdomain
    simp at hdomain

end DefaultRouteInstaller

end Boxui.Core
