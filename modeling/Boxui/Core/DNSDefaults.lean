import Boxui.Core.RouteDefaults

/-! The default DNS section. It replaces the one there is, and its remote server goes through
an outbound of the configuration. -/
namespace Boxui.Core
open GoValue DefaultRouteInstaller

structure DNSDefaultsResult where
  dns : Object
  installed : Object

namespace DefaultDNSInstaller

def detour (cfg : Object) : String :=
  let outboundTags := existingOutboundTags cfg
  let final := Object.stringAt ((cfg["route"]?.bind Value.asMap?).getD ∅) "final"
  if outboundTags.contains "proxy" then "proxy"
  else if final ≠ "" ∧ outboundTags.contains final then final
  else "direct"

def servers (detour : String) : List Value :=
  [.obj [("address", .str "rcode://success"), ("tag", .str "dns-block")],
    .obj [("address", .str "local"), ("detour", .str "direct"), ("tag", .str "dns-local")],
    .obj [("address", .str "https://223.5.5.5/dns-query"), ("address_resolver", .str "dns-local"),
      ("detour", .str "direct"), ("strategy", .str "ipv4_only"), ("tag", .str "dns-direct")],
    .obj [("address", .str "https://dns.google/dns-query"),
      ("address_resolver", .str "dns-direct"), ("detour", .str detour),
      ("strategy", .str "ipv4_only"), ("tag", .str "dns-remote")],
    .obj [("address", .str "fakeip"), ("strategy", .str "ipv4_only"), ("tag", .str "dns-fake")]]

/-- The rule for the first of two rule-sets that is there. -/
def preferredRule (ruleSets : List String) (first second : String)
    (fields : List (String × Value)) : List Value :=
  if ruleSets.contains first then [.obj (("rule_set", .strs [first]) :: fields)]
  else if ruleSets.contains second then [.obj (("rule_set", .strs [second]) :: fields)]
  else []

def rules (ruleSets : List String) : List Value :=
  [.obj [("domain", .strs ["dns.google"]), ("server", .str "dns-direct")],
    .obj [("outbound", .strs ["any"]), ("server", .str "dns-direct")]] ++
  preferredRule ruleSets "loyalsoldier-reject" "geosite-category-ads-all"
    [("disable_cache", .bool true), ("server", .str "dns-block")] ++
  preferredRule ruleSets "loyalsoldier-direct" "geosite-cn"
    [("action", .str "route"), ("server", .str "dns-direct")] ++
  preferredRule ruleSets "loyalsoldier-proxy" "geosite-google-play"
    [("action", .str "route"), ("server", .str "dns-remote")]

def install (cfg : Object) : DNSDefaultsResult :=
  let dns := rule
    [("servers", .list (servers (detour cfg))),
      ("rules", .list (rules (existingRuleSetTags cfg))),
      ("final", .str "dns-remote"),
      ("independent_cache", .bool true),
      ("fakeip", .obj [("enabled", .bool true), ("inet4_range", .str "198.18.0.0/15"),
        ("inet6_range", .str "fc00::/18")])]
  { dns := dns, installed := dns }

/-- The remote server never goes through an outbound that is not there, "direct" apart. -/
theorem detour_mem (cfg : Object) :
    detour cfg ∈ existingOutboundTags cfg ∨ detour cfg = "direct" := by
  unfold detour
  dsimp only
  split_ifs with hproxy hfinal
  · exact .inl (by simpa using hproxy)
  · exact .inl (by simpa using hfinal.2)
  · exact .inr rfl

theorem objectTags_servers (detour : String) :
    objectTags (some (.list (servers detour))) =
      ["dns-block", "dns-local", "dns-direct", "dns-remote", "dns-fake"] := by
  simp [objectTags, servers, Value.asList?, Value.asMap?, Object.stringAt, Value.asStr?,
    Std.ExtTreeMap.ofList_eq_foldl]

theorem server_preferredRule {ruleSets : List String} {first second server : String} {k : String}
    {v : Value} {item : Value}
    (h : item ∈ preferredRule ruleSets first second [(k, v), ("server", .str server)]) :
    item.asMap?.map (Object.stringAt · "server") = some server := by
  unfold preferredRule at h
  split_ifs at h
  · rw [List.mem_singleton.mp h]
    simp [Value.asMap?, Object.stringAt, Value.asStr?, Std.ExtTreeMap.ofList_eq_foldl]
  · rw [List.mem_singleton.mp h]
    simp [Value.asMap?, Object.stringAt, Value.asStr?, Std.ExtTreeMap.ofList_eq_foldl]
  · cases h

/-- Every default DNS rule names one of the default servers. -/
theorem server_mem {ruleSets : List String} {item : Value} (h : item ∈ rules ruleSets)
    (detour : String) : ∃ server ∈ objectTags (some (.list (servers detour))),
      item.asMap?.map (Object.stringAt · "server") = some server := by
  rw [objectTags_servers]
  unfold rules at h
  simp only [List.mem_append] at h
  rcases h with ((h | h) | h) | h
  · refine ⟨"dns-direct", by simp, ?_⟩
    simp only [List.mem_cons, List.not_mem_nil, or_false] at h
    rcases h with rfl | rfl <;>
      simp [Value.asMap?, Object.stringAt, Value.asStr?, Std.ExtTreeMap.ofList_eq_foldl]
  · exact ⟨"dns-block", by simp, server_preferredRule h⟩
  · exact ⟨"dns-direct", by simp, server_preferredRule h⟩
  · exact ⟨"dns-remote", by simp, server_preferredRule h⟩

end DefaultDNSInstaller

end Boxui.Core
