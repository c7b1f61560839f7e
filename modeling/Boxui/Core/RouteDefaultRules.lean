import Boxui.Core.RouteRuleSignature
import Boxui.Library.Unseen
import Mathlib.Data.List.Sublists

/-! The default route rules that a configuration can get, what they name, and what their
signatures show. No two of them have one signature, so that installing them drops a rule only
for one that the configuration has. -/
namespace Boxui.Core
open GoValue Unseen

namespace DefaultRouteInstaller

/-- Every rule that is a default under some rule-sets and outbounds. -/
def defaultRules (direct : String) : List Object :=
  [rule [("action", .str "sniff")],
    rule [("protocol", .str "dns"), ("action", .str "hijack-dns")],
    rule [("ip_is_private", .bool true), ("outbound", .str direct)],
    rule [("network", .str "icmp"), ("outbound", .str direct)],
    rule [("network", .str "udp"), ("port", .int 443), ("action", .str "reject")],
    ruleSetRule "loyalsoldier-reject" "block",
    ruleSetRule "geosite-category-ads-all" "block",
    ruleSetRule "loyalsoldier-direct" direct,
    ruleSetRule "geosite-cn" direct,
    ruleSetRule "geoip-cn" direct,
    ruleSetRule "loyalsoldier-proxy" "proxy",
    ruleSetRule "geosite-google-play" "proxy"]

theorem preferred_sublist (ruleSets : List String) (first second outbound : String) :
    List.Sublist (preferred ruleSets first second outbound)
      [ruleSetRule first outbound, ruleSetRule second outbound] := by
  unfold preferred
  split_ifs
  · exact (List.nil_sublist _).cons_cons _
  · exact ((List.Sublist.refl _).cons _)
  · exact List.nil_sublist _

theorem ite_sublist {α : Type*} (c : Prop) [Decidable c] {l l' : List α}
    (h : List.Sublist l l') : List.Sublist (if c then l else []) l' := by
  split_ifs
  · exact h
  · exact List.nil_sublist _

theorem defaults_sublist (ruleSets outbounds : List String) :
    List.Sublist (defaults ruleSets outbounds) (defaultRules (directTag outbounds)) := by
  have hdirect := (preferred_sublist ruleSets "loyalsoldier-direct" "geosite-cn"
    (directTag outbounds)).append (ite_sublist (ruleSets.contains "geoip-cn")
      (List.Sublist.refl [ruleSetRule "geoip-cn" (directTag outbounds)]))
  have hblock := (preferred_sublist ruleSets "loyalsoldier-reject" "geosite-category-ads-all"
    "block").cons_cons (rule [("network", .str "udp"), ("port", .int 443),
      ("action", .str "reject")])
  exact ((((List.Sublist.refl _).append (ite_sublist _ (List.Sublist.refl _))).append
    (ite_sublist _ hblock)).append (ite_sublist _ hdirect)).append
      (ite_sublist _ (preferred_sublist _ _ _ _))

theorem directTag_eq (outbounds : List String) :
    directTag outbounds = "bypass" ∨ directTag outbounds = "direct" := by
  unfold directTag
  split_ifs
  · exact .inl rfl
  · exact .inr rfl

/-- What the signatures of the default rules show. -/
def readings (direct : String) : List RuleReading :=
  [.bare "", .protocol "dns" "" "hijack-dns", .ipIsPrivate direct,
    .network "icmp" "" "" direct, .network "udp" "443" "reject" "",
    .ruleSet "loyalsoldier-reject" "block", .ruleSet "geosite-category-ads-all" "block",
    .ruleSet "loyalsoldier-direct" direct, .ruleSet "geosite-cn" direct,
    .ruleSet "geoip-cn" direct, .ruleSet "loyalsoldier-proxy" "proxy",
    .ruleSet "geosite-google-play" "proxy"]

theorem getElem?_rule (fields : List (String × Value)) (k : String) :
    (rule fields)[k]? = (fields.reverse.find? (·.1 = k)).map (·.2) := by
  unfold rule
  rw [Std.ExtTreeMap.ofList_eq_foldl]
  induction fields using List.reverseRecOn with
  | nil => simp
  | append_singleton fields p ih =>
    rw [List.foldl_append, List.foldl_cons, List.foldl_nil, GoMap.getElem?_insert, ih,
      List.reverse_append, List.reverse_singleton, List.singleton_append, List.find?_cons]
    split_ifs with h <;> simp [h]

section readings

variable (formatFloat : Rat → String)

theorem reading_ruleSetRule (set outbound : String) :
    reading formatFloat (ruleSetRule set outbound) = .ruleSet set outbound := by
  simp only [reading, networkOf, isPrivate, firstRuleSet, ruleSetRule, getElem?_rule,
    Object.stringAt]
  simp [Value.asStr?]

theorem map_reading_defaultRules (direct : String) :
    (defaultRules direct).map (reading formatFloat) = readings direct := by
  simp only [defaultRules, readings, List.map_cons, List.map_nil, reading_ruleSetRule]
  have hport : portValue formatFloat (some (.int 443)) = "443" := rfl
  have hnone : portValue formatFloat none = "" := rfl
  simp only [reading, networkOf, isPrivate, firstRuleSet, getElem?_rule, Object.stringAt]
  simp [Value.asStr?, hport, hnone]

theorem clear_readings (outbounds : List String) :
    ∀ r ∈ readings (directTag outbounds), r.Clear := by
  rcases directTag_eq outbounds with h | h <;> rw [h] <;> decide

theorem nodup_signatures (outbounds : List String) :
    ((defaultRules (directTag outbounds)).map (ruleSignature formatFloat)).Nodup := by
  have htexts : (defaultRules (directTag outbounds)).map (ruleSignature formatFloat) =
      (readings (directTag outbounds)).map RuleReading.text := by
    rw [← map_reading_defaultRules formatFloat, List.map_map]
    exact List.map_congr_left fun r _ => ruleSignature_eq_text r
  rw [htexts]
  rcases directTag_eq outbounds with h | h <;> rw [h] <;> decide

end readings

/-- The outbound and the rule-set that a rule names are among those given. -/
structure NamesPresent (ruleSets outbounds : List String) (default : Object) : Prop where
  outbound : ∀ v, default["outbound"]? = some v → ∃ tag ∈ outbounds, v = .str tag
  ruleSet : ∀ v, default["rule_set"]? = some v → ∃ tag ∈ ruleSets, v = .strs [tag]

section names

variable {ruleSets outbounds : List String}

theorem namesPresent_ruleSetRule {set outbound : String} (hset : set ∈ ruleSets)
    (hout : outbound ∈ outbounds) :
    NamesPresent ruleSets outbounds (ruleSetRule set outbound) := by
  constructor
  · intro v hv
    simp only [ruleSetRule, getElem?_rule] at hv
    exact ⟨outbound, hout, by simpa using hv.symm⟩
  · intro v hv
    simp only [ruleSetRule, getElem?_rule] at hv
    exact ⟨set, hset, by simpa using hv.symm⟩

theorem namesPresent_preferred {first second outbound : String} (hout : outbound ∈ outbounds)
    {default : Object} (h : default ∈ preferred ruleSets first second outbound) :
    NamesPresent ruleSets outbounds default := by
  unfold preferred at h
  split_ifs at h with hfirst hsecond
  · rw [List.mem_singleton.mp h]
    exact namesPresent_ruleSetRule (by simpa using hfirst) hout
  · rw [List.mem_singleton.mp h]
    exact namesPresent_ruleSetRule (by simpa using hsecond) hout
  · cases h

theorem namesPresent_of_no_ruleSet {default : Object} (hset : default["rule_set"]? = none)
    (hout : ∀ v, default["outbound"]? = some v → ∃ tag ∈ outbounds, v = .str tag) :
    NamesPresent ruleSets outbounds default := by
  refine ⟨hout, ?_⟩
  intro v hv
  rw [hset] at hv
  cases hv

/-- A default rule names only what is there. -/
theorem namesPresent_defaults {default : Object} (h : default ∈ defaults ruleSets outbounds) :
    NamesPresent ruleSets outbounds default := by
  unfold defaults at h
  dsimp only at h
  simp only [List.mem_append] at h
  rcases h with (((h | h) | h) | h) | h
  · simp only [List.mem_cons, List.not_mem_nil, or_false] at h
    rcases h with rfl | rfl <;>
      exact namesPresent_of_no_ruleSet (by simp [getElem?_rule]) (by simp [getElem?_rule])
  · split_ifs at h with hdirect
    · have hmem : directTag outbounds ∈ outbounds := by simpa using hdirect
      simp only [List.mem_cons, List.not_mem_nil, or_false] at h
      rcases h with rfl | rfl <;>
        exact namesPresent_of_no_ruleSet (by simp [getElem?_rule]) (by simp [getElem?_rule, hmem])
    · cases h
  · split_ifs at h with hblock
    · have hmem : "block" ∈ outbounds := by simpa using hblock
      rcases List.mem_cons.mp h with rfl | h
      · exact namesPresent_of_no_ruleSet (by simp [getElem?_rule]) (by simp [getElem?_rule])
      · exact namesPresent_preferred hmem h
    · cases h
  · split_ifs at h with hdirect hgeoip
    · have hmem : directTag outbounds ∈ outbounds := by simpa using hdirect
      rcases List.mem_append.mp h with h | h
      · exact namesPresent_preferred hmem h
      · rw [List.mem_singleton.mp h]
        exact namesPresent_ruleSetRule (by simpa using hgeoip) hmem
    · rw [List.append_nil] at h
      exact namesPresent_preferred (by simpa using hdirect) h
    · cases h
  · split_ifs at h with hproxy
    · exact namesPresent_preferred (by simpa using hproxy) h
    · cases h

end names

end DefaultRouteInstaller

end Boxui.Core
