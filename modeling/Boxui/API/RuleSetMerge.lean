import Boxui.API.ConfigDefaults
import Boxui.API.SyncPlan
import Boxui.Library.IndexedMerge
import Boxui.Library.Reconcile

/-! The merge of the default rule-sets into the rule-sets of the configuration. -/
namespace Boxui.API
open GoValue Boxui.Core IndexedMerge

theorem lastAt_append_singleton {tags : List String} {t t' : String} {i : Nat} :
    LastAt (tags ++ [t']) t i ↔ if t' = t then i = tags.length else LastAt tags t i := by
  split_ifs with heq
  · subst heq
    have hlast : LastAt (tags ++ [t']) t' tags.length := by
      refine ⟨by simp, ?_⟩
      intro j hj
      rw [List.getElem?_eq_none (by simp; omega)]
      simp
    constructor
    · exact fun h => h.unique hlast
    · rintro rfl
      exact hlast
  · constructor
    · intro h
      have hmem : t ∈ tags := by
        rcases List.mem_append.mp h.mem with hmem | hmem
        · exact hmem
        · exact absurd (List.mem_singleton.mp hmem).symm heq
      obtain ⟨j, hj⟩ := exists_lastAt hmem
      rwa [h.unique (hj.append_left (by simpa using Ne.symm heq))]
    · exact fun h => h.append_left (by simpa using Ne.symm heq)

/-- The index holds the last position of each tag. -/
theorem indexRuleSets_eq_some_iff (existing : List Value) {tag : String} {i : Nat} :
    (indexRuleSets existing)[tag]? = some i ↔
      tag ≠ "" ∧ LastAt (existing.map tagOf) tag i := by
  induction existing using List.reverseRecOn with
  | nil => simp [indexRuleSets, LastAt]
  | append_singleton existing item ih =>
    have hstep : indexRuleSets (existing ++ [item]) =
        if tagOf item ≠ "" then (indexRuleSets existing).insert (tagOf item) existing.length
        else indexRuleSets existing := by
      simp [indexRuleSets, List.zipIdx_append]
    rw [hstep, List.map_append, List.map_singleton, lastAt_append_singleton, List.length_map]
    split_ifs with hne heq heq
    · subst heq
      simp [hne, eq_comm]
    · rw [GoMap.getElem?_insert, if_neg heq, ih]
    · subst heq
      rw [ih]
      simp at hne
      simp [hne]
    · exact ih

theorem mergeRuleSets_eq (existing : List Value) (installed : List Object) :
    mergeRuleSets existing installed =
      merge tagOf (fun tag => (indexRuleSets existing)[tag]?) existing
        (installed.map Object.toValue) := by
  unfold mergeRuleSets merge
  rw [List.foldl_map]
  dsimp only
  congr 1
  funext merged item
  cases hplace : (indexRuleSets existing)[Object.stringAt item "tag"]? with
  | none => simp [hplace]
  | some idx => simp [hplace]

theorem map_tagOf_toValue (installed : List Object) :
    (installed.map Object.toValue).map tagOf =
      installed.map (Object.stringAt · "tag") := by
  rw [List.map_map]
  exact List.map_congr_left fun item _ => tagOf_toValue item

theorem map_tagOf_json (l : List Value) : (l.map Value.json).map tagOf = l.map tagOf := by
  rw [List.map_map]
  exact List.map_congr_left fun item _ => fieldOf_json "tag" item

/-- The route with a list of rule-sets, or without one that is empty. -/
def placeRuleSets (route : Object) (merged : List Value) : Object :=
  if merged.length > 0 then route.insert "rule_set" (.list merged) else route.erase "rule_set"

theorem json_placeRuleSets (route : Object) (merged : List Value) :
    Object.json (placeRuleSets route merged) =
      placeRuleSets (Object.json route) (merged.map Value.json) := by
  apply Std.ExtTreeMap.ext_getElem?
  intro k
  unfold placeRuleSets
  cases merged with
  | nil =>
    simp only [List.length_nil, List.map_nil, gt_iff_lt, Nat.lt_irrefl, if_false,
      Object.getElem?_json, GoMap.getElem?_erase]
    split <;> rfl
  | cons x rest =>
    simp only [List.map_cons, List.length_cons, gt_iff_lt, Nat.zero_lt_succ, if_true,
      Object.getElem?_json, GoMap.getElem?_insert]
    split
    · simp [Value.json, Value.jsonList_eq_map]
    · rfl

theorem placeRuleSets_again (route : Object) (merged : List Value) :
    placeRuleSets (placeRuleSets route merged) merged = placeRuleSets route merged := by
  apply Std.ExtTreeMap.ext_getElem?
  intro k
  unfold placeRuleSets
  split
  · simp only [GoMap.getElem?_insert]
    split <;> rfl
  · simp only [GoMap.getElem?_erase]
    split <;> rfl

section installed

variable (existing : List Value) {installed : List Object}
  (hne : ∀ item ∈ installed, Object.stringAt item "tag" ≠ "")
  (hnodup : (installed.map (Object.stringAt · "tag")).Nodup)
include hne

theorem indexRuleSets_installed {x : Value} (hx : x ∈ installed.map Object.toValue) (i : Nat) :
    (indexRuleSets existing)[tagOf x]? = some i ↔ LastAt (existing.map tagOf) (tagOf x) i := by
  obtain ⟨item, hitem, rfl⟩ := List.mem_map.mp hx
  rw [indexRuleSets_eq_some_iff, tagOf_toValue]
  exact and_iff_right (hne item hitem)

include hnodup

theorem mergeRuleSets_merged :
    Merged tagOf existing (installed.map Object.toValue) (mergeRuleSets existing installed) := by
  rw [mergeRuleSets_eq]
  apply merged_merge
  · exact fun x hx i => indexRuleSets_installed _ hne hx i
  · rwa [map_tagOf_toValue]

/-- A list with the tags of the merged one, and in it each entry in a form that `f` does not tell
apart. -/
theorem map_mergeRuleSets_again {β : Type*} {f : Value → β} {again : List Value}
    (htags : again.map tagOf = (mergeRuleSets existing installed).map tagOf)
    (hagain : again.map f = (mergeRuleSets existing installed).map f) :
    (mergeRuleSets again installed).map f = again.map f := by
  have hmerged := mergeRuleSets_merged existing hne hnodup
  rw [mergeRuleSets_eq]
  apply map_merge_of_present
  intro x hx
  obtain ⟨i, hlast, hget⟩ := hmerged.lastAt (by rwa [map_tagOf_toValue]) hx
  refine ⟨i, ?_, ?_⟩
  · rw [indexRuleSets_installed _ hne hx, htags]
    exact hlast
  · rw [hagain, List.getElem?_map, hget]
    rfl

theorem filter_tagOf_merged
    (hold : ((existing.map tagOf).filter (· ≠ "")).Nodup) {item : Object}
    (hitem : item ∈ installed) :
    (mergeRuleSets existing installed).filter (tagOf · = Object.stringAt item "tag") =
      [Object.toValue item] := by
  have hmerged := mergeRuleSets_merged existing hne hnodup
  have htags := hmerged.nodup (· ≠ "") hold (by rwa [map_tagOf_toValue])
  obtain ⟨i, -, hget⟩ := hmerged.lastAt (by rwa [map_tagOf_toValue])
    (List.mem_map_of_mem hitem)
  have htag : tagOf (Object.toValue item) = Object.stringAt item "tag" := tagOf_toValue item
  have hmem : Object.toValue item ∈ (mergeRuleSets existing installed).filter (tagOf · ≠ "") := by
    refine List.mem_filter.mpr ⟨List.mem_of_getElem? hget, ?_⟩
    simpa [htag] using hne item hitem
  have hsingle := Reconcile.filter_eq_singleton (f := tagOf)
    (l := (mergeRuleSets existing installed).filter (tagOf · ≠ "")) (by
      rw [List.filter_map] at htags
      exact htags) hmem
  rw [htag, List.filter_filter] at hsingle
  rw [← hsingle]
  apply List.filter_congr
  intro other _
  by_cases heq : tagOf other = Object.stringAt item "tag"
  · simp [heq, hne item hitem]
  · simp [heq]

/-- Merging again into the list that the file has carried gives the same file. -/
theorem mergeRuleSets_json_again :
    (mergeRuleSets ((mergeRuleSets existing installed).map Value.json) installed).map Value.json =
      (mergeRuleSets existing installed).map Value.json := by
  set merged := mergeRuleSets existing installed
  have hjson : (merged.map Value.json).map Value.json = merged.map Value.json := by
    rw [List.map_map]
    exact List.map_congr_left fun item _ => Value.json_json item
  have h := map_mergeRuleSets_again existing hne hnodup (map_tagOf_json merged) hjson
  rwa [hjson] at h

/-- The merge: every item at its place, but the last under the tag of an installed entry replaced
by that entry, and the other entries behind; distinct tags stay distinct; and merging again, also
when the list has been through JSON, changes nothing. -/
theorem mergeRuleSets_spec :
    Merged tagOf existing (installed.map Object.toValue) (mergeRuleSets existing installed) ∧
    (((existing.map tagOf).filter (· ≠ "")).Nodup →
      (((mergeRuleSets existing installed).map tagOf).filter (· ≠ "")).Nodup ∧
      ∀ item ∈ installed,
        (mergeRuleSets existing installed).filter (tagOf · = Object.stringAt item "tag") =
          [Object.toValue item]) ∧
    mergeRuleSets (mergeRuleSets existing installed) installed =
      mergeRuleSets existing installed ∧
    (mergeRuleSets ((mergeRuleSets existing installed).map Value.json) installed).map Value.json =
      (mergeRuleSets existing installed).map Value.json := by
  have hmerged := mergeRuleSets_merged existing hne hnodup
  refine ⟨hmerged, ?_, ?_, mergeRuleSets_json_again existing hne hnodup⟩
  · intro hold
    exact ⟨hmerged.nodup (· ≠ "") hold (by rwa [map_tagOf_toValue]),
      fun item hitem => filter_tagOf_merged existing hne hnodup hold hitem⟩
  · set merged := mergeRuleSets existing installed
    have h := map_mergeRuleSets_again existing hne hnodup (f := id) (rfl : merged.map tagOf = _) rfl
    simpa using h

/-- Installing once more what the configuration file already has writes the same file. -/
theorem withRuleSets_again (cfg : Object) :
    Object.json (withRuleSets (Object.json (withRuleSets cfg installed)) installed) =
      Object.json (withRuleSets cfg installed) := by
  set route := (cfg["route"]?.bind Value.asMap?).getD ∅ with hroute
  set merged := mergeRuleSets ((route["rule_set"]?.bind Value.asList?).getD []) installed
    with hmerged
  have hfirst : withRuleSets cfg installed =
      cfg.insert "route" (Object.toValue (placeRuleSets route merged)) := rfl
  have hread : (Object.json (withRuleSets cfg installed))["route"]?.bind Value.asMap? =
      some (Object.json (placeRuleSets route merged)) := by
    rw [hfirst, Object.json_insert, GoMap.getElem?_insert, if_pos rfl, Option.bind_some,
      Value.asMap?_json, Value.asMap?_toValue]
    rfl
  have hlist : ((Object.json (placeRuleSets route merged))["rule_set"]?.bind
      Value.asList?).getD [] = merged.map Value.json := by
    rw [Object.getElem?_json]
    unfold placeRuleSets
    cases merged with
    | nil => simp
    | cons x rest => simp [Value.json, Value.jsonList_eq_map, Value.asList?]
  have hagain := mergeRuleSets_json_again ((route["rule_set"]?.bind Value.asList?).getD []) hne
    hnodup
  rw [← hmerged] at hagain
  have hsecond : withRuleSets (Object.json (withRuleSets cfg installed)) installed =
      (Object.json (withRuleSets cfg installed)).insert "route" (Object.toValue
        (placeRuleSets (Object.json (placeRuleSets route merged))
          (mergeRuleSets (merged.map Value.json) installed))) := by
    rw [← hlist, withRuleSets, hread]
    rfl
  have hplaced : Object.json (placeRuleSets (Object.json (placeRuleSets route merged))
      (mergeRuleSets (merged.map Value.json) installed)) =
        Object.json (placeRuleSets route merged) := by
    rw [json_placeRuleSets, hagain, Object.json_json, json_placeRuleSets, placeRuleSets_again]
  have hfile : Object.json (withRuleSets cfg installed) =
      (Object.json cfg).insert "route" (Object.toValue (Object.json
        (placeRuleSets route merged))) := by
    rw [hfirst, Object.json_insert, Value.json_toValue]
  rw [hsecond, Object.json_insert, Value.json_toValue, hplaced, Object.json_json, hfile]
  apply Std.ExtTreeMap.ext_getElem?
  intro k
  simp only [GoMap.getElem?_insert]
  split <;> rfl

end installed

/-- A list with a note, a rule-set and an inline one without a tag. -/
def mixedRuleSets : List Value :=
  [.str "note", .obj [("tag", .str "geosite-cn"), ("type", .str "local")],
    .obj [("type", .str "inline")]]

def cnRuleSets : List Object :=
  [.ofList [("tag", .str "geosite-cn"), ("type", .str "remote")] compare,
    .ofList [("tag", .str "geoip-cn"), ("type", .str "remote")] compare]

theorem mixedRuleSets_spec :
    let merged := mergeRuleSets mixedRuleSets cnRuleSets
    merged.map tagOf = ["", "geosite-cn", "", "geoip-cn"] ∧
    Merged tagOf mixedRuleSets (cnRuleSets.map Object.toValue) merged ∧
    ((merged.map tagOf).filter (· ≠ "")).Nodup ∧
    mergeRuleSets merged cnRuleSets = merged := by
  have hne : ∀ item ∈ cnRuleSets, Object.stringAt item "tag" ≠ "" := by decide
  have hnodup : (cnRuleSets.map (Object.stringAt · "tag")).Nodup := by decide
  obtain ⟨hmerged, hdistinct, hagain, -⟩ := mergeRuleSets_spec mixedRuleSets hne hnodup
  exact ⟨by decide, hmerged, (hdistinct (by decide)).1, hagain⟩

end Boxui.API
