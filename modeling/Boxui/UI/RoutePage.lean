import Boxui.API.RouteRuleMetadataHandler
import Boxui.Library.Machine
import Boxui.UI.RouteVisualEditor

/-! The route page: the visual editor over the stored configuration, the query for the names of
the rules and the draft of the names that were edited. An operation saves the configuration and
then, unless there are none, the names. -/
namespace Boxui.UI
open GoValue Boxui.Core Boxui.API Machine RouteRuleMetadataManager

variable {Bytes : Type*}

/-- What the section has under a key takes the place of what the route has there. -/
def preserve (object : Object) (path : String) (route : Object) : Object :=
  match object[path]? with
  | none => route
  | some items => route.insert path items

/-- The rules and the rule-sets are all that `persistRules` takes from the section. -/
def persistedRoute (cfg object : Object) : Object :=
  let current := (cfg["route"]?.bind Value.asMap?).getD ∅
  preserve object "rule_set" (preserve object "rules" current)

def persisted (cfg object : Object) : Object :=
  cfg.insert "route" (Object.toValue (persistedRoute cfg object))

/-- The section the visual editor shows, if it shows one. -/
def editorSection (cfg : Object) : Option Object :=
  let object :=
    match cfg["route"]? with
    | none | some .null => some ∅
    | some route => route.asMap?
  object.filter isPolicySectionStructureValid

/-- The stored configuration and names, and what the page has of the names. The page shows the
stored configuration, which it reads again after every save. -/
structure RoutePage (Bytes : Type*) where
  host : ConfigHost Bytes
  store : RouteRuleMetadataStore
  query : Option (List RouteRuleMetadata)
  draft : Option (List RouteRuleMetadata)
  /-- Whether what the page shows goes back to an answer since it was opened, and since the
  last installation. -/
  answered : Bool

inductive PageLabel where
  | operate (op : EditorOp) (save : ApplyOutcome) (metadata : MetadataOutcome)
  /-- The query for the names is answered. -/
  | answer (o : MetadataOutcome)
  | install (o : InstallOutcome)
  /-- `refreshMetadata`, after an installation. -/
  | refresh (o : MetadataOutcome)
  /-- The page is left and opened again. An earlier answer stays in the cache. -/
  | reopen

/-- Whether a request went through and was not rolled back. -/
def applied (response : ConfigResponse) : Bool :=
  response.statusCode == 200 && response.status != statusRolledBack

theorem applied_eq_true {response : ConfigResponse} (h : applied response = true) :
    response.statusCode = 200 ∧ response.status ≠ statusRolledBack := by
  simpa [applied] using h

namespace RoutePage

variable (codec : JSONCodec Bytes) (d : Digest Bytes) (formatFloat : Rat → String)

def metadata (s : RoutePage Bytes) : List RouteRuleMetadata :=
  s.draft.getD (s.query.getD [])

/-- The rules in the configuration file. -/
def rules (s : RoutePage Bytes) : List Value :=
  ((storedConfig codec s.host.dir).map DefaultRouteInstaller.existingRules).getD []

/-- The stored rules, each with the name and description that `List` returns for it. -/
def named (s : RoutePage Bytes) : List (Value × RouteRuleMetadata) :=
  (s.rules codec).zip (list d (s.rules codec) s.store.bucket)

def persistRules (cfg : Object) (change : EditorChange) (save : ApplyOutcome)
    (o : MetadataOutcome) (s : RoutePage Bytes) : RoutePage Bytes × Bool :=
  match updateConfig codec (codec.marshal (Object.toValue (persisted cfg change.object))) save
    s.host with
  | (host, response) =>
    let s := { s with host := host }
    if !applied response then (s, false)
    else if change.metadata = [] then (s, true)
    else
      match ConfigHandler.updateRouteRuleMetadata codec d (some change.metadata) o s.host.dir
        s.store with
      | (store, .error _) => ({ s with store := store }, false)
      | (store, .ok _) => ({ s with store := store }, true)

def operate (op : EditorOp) (save : ApplyOutcome) (o : MetadataOutcome) (s : RoutePage Bytes) :
    RoutePage Bytes × Bool :=
  match storedConfig codec s.host.dir with
  | none => (s, false)
  | some cfg =>
    match editorSection cfg with
    | none => (s, false)
    | some object =>
      let change := op.change object s.metadata
      persistRules codec d cfg change save o { s with draft := change.draft.or s.draft }

/-- The names are fetched. -/
def fetch (o : MetadataOutcome) (s : RoutePage Bytes) : RoutePage Bytes × Bool :=
  match ConfigHandler.getRouteRuleMetadata codec d formatFloat o s.host.dir s.store with
  | (store, .error _) => ({ s with store := store }, false)
  | (store, .ok metadata) =>
    ({ s with store := store, query := some metadata, answered := s.answered || s.draft.isNone },
      true)

def installRoute (o : InstallOutcome) (s : RoutePage Bytes) : RoutePage Bytes × Bool :=
  match installDefaultRouteRules codec d formatFloat o s.host s.store.bucket with
  | (host, bucket, response) =>
    ({ s with
      host := host
      store := { s.store with bucket := bucket }
      answered := false }, applied response)

/-- One step of the page, and whether its requests succeeded. -/
def perform (s : RoutePage Bytes) : PageLabel → RoutePage Bytes × Bool
  | .operate op save o => operate codec d op save o s
  | .answer o => fetch codec d formatFloat o s
  | .install o => installRoute codec d formatFloat o s
  | .refresh o => fetch codec d formatFloat o { s with draft := none, answered := false }
  | .reopen => ({ s with draft := none, answered := false }, true)

def step (s : RoutePage Bytes) (label : PageLabel) : RoutePage Bytes :=
  (perform codec d formatFloat s label).1

def Succeeds (s : RoutePage Bytes) (label : PageLabel) : Prop :=
  (perform codec d formatFloat s label).2 = true

instance (s : RoutePage Bytes) (label : PageLabel) :
    Decidable (Succeeds codec d formatFloat s label) :=
  inferInstanceAs (Decidable ((perform codec d formatFloat s label).2 = true))

def installedRules (s : RoutePage Bytes) : List Value :=
  (DefaultRouteInstaller.install formatFloat
    ((storedConfig codec s.host.dir).getD ∅)).installed.map Object.toValue

/-- No stored entry is left over for a default rule that is installed now. -/
def NoneLeftOver (s : RoutePage Bytes) : Prop :=
  (stored s.store.bucket).length ≤ (s.rules codec).length ∧
    ∀ rule ∈ s.installedRules codec formatFloat,
      ((stored s.store.bucket).map (·.fingerprint)).count (routeRuleFingerprint d rule) ≤
        ((s.rules codec).map (routeRuleFingerprint d)).count (routeRuleFingerprint d rule)

/-- Names are sent by a page that had them answered, and defaults are installed where no entry
is left over. -/
def Sound (s : RoutePage Bytes) : PageLabel → Prop
  | .operate op _ _ => op.SendsNames → s.answered = true
  | .install _ => s.NoneLeftOver codec d formatFloat
  | _ => True

/-- What is to become of the rules and their names. Rules without a name get their default one
from the first answer and from an installation, which counts what it adds as unnamed. -/
def expected (s : RoutePage Bytes) : PageLabel → List (Value × RouteRuleMetadata)
  | .operate op _ _ => op.edit (s.named codec d)
  | .answer _ | .refresh _ =>
    if s.store.initialized then s.named codec d
    else (s.named codec d).map fun p => (p.1, withDefaultName formatFloat p.2 p.1)
  | .install _ =>
    let unnamed := (s.installedRules codec formatFloat).map fun rule => (rule, emptyMetadata)
    (s.named codec d ++ unnamed).map fun p => (p.1.json, withDefaultName formatFloat p.2 p.1)
  | .reopen => s.named codec d

theorem editorSection_eq_some {cfg object : Object} (h : editorSection cfg = some object) :
    object = (cfg["route"]?.bind Value.asMap?).getD ∅ ∧
      isPolicySectionStructureValid object = true := by
  obtain ⟨hobject, hvalid⟩ := Option.filter_eq_some_iff.mp h
  refine ⟨?_, hvalid⟩
  split at hobject
  · rename_i hroute
    rw [hroute]
    exact (Option.some.inj hobject).symm
  · rename_i hroute
    rw [hroute]
    exact (Option.some.inj hobject).symm
  · rename_i route _ hroute
    rw [hroute, Option.bind_some, hobject]
    rfl

/-- Where the editor is shown, every rule of the configuration is. -/
theorem routeRules_section {cfg object : Object} (h : editorSection cfg = some object) :
    routeRules object = DefaultRouteInstaller.existingRules cfg := by
  obtain ⟨hobject, hvalid⟩ := editorSection_eq_some h
  have hexisting : DefaultRouteInstaller.existingRules cfg =
      (object["rules"]?.bind Value.asList?).getD [] := by
    rw [hobject, DefaultRouteInstaller.existingRules]
    cases cfg["route"]?.bind Value.asMap? with
    | none => simp
    | some route => rfl
  rw [hexisting, routeRules, objectsAt, List.filter_eq_self]
  have hrules := List.all_eq_true.mp hvalid "rules" (by simp)
  cases hfield : object["rules"]? with
  | none => simp
  | some rules =>
    rw [hfield] at hrules
    cases rules with
    | list items => simpa [Value.asList?] using hrules
    | _ => simp [Value.asList?]

theorem route_persisted (cfg object : Object) :
    (persisted cfg object)["route"]?.bind Value.asMap? = some (persistedRoute cfg object) := by
  simp [persisted]

theorem rules_persistedRoute (cfg object : Object) :
    (persistedRoute cfg object)["rules"]? =
      object["rules"]?.or ((cfg["route"]?.bind Value.asMap?).getD ∅)["rules"]? := by
  unfold persistedRoute preserve
  cases object["rules"]? <;> cases object["rule_set"]? <;>
    simp only [GoMap.getElem?_insert, String.reduceEq, if_true, if_false, Option.some_or,
      Option.none_or]

theorem existingRules_persisted_of_list {cfg object : Object} {rules : List Value}
    (h : object["rules"]? = some (.list rules)) :
    DefaultRouteInstaller.existingRules (Object.json (persisted cfg object)) =
      rules.map Value.json := by
  have hrules : (persistedRoute cfg object)["rules"]? = some (.list rules) := by
    rw [rules_persistedRoute, h, Option.some_or]
  rw [DefaultRouteInstaller.existingRules_json, DefaultRouteInstaller.existingRules,
    route_persisted, Option.bind_some, hrules]
  · rfl
  · intro route hroute strings
    obtain rfl := Option.some.inj ((route_persisted cfg object).symm.trans hroute)
    simp [hrules]

/-- A section with the rules it had leaves those of the configuration. -/
theorem existingRules_persisted_of_eq {cfg object : Object} (hjson : Object.json cfg = cfg)
    (h : object["rules"]? = ((cfg["route"]?.bind Value.asMap?).getD ∅)["rules"]?) :
    DefaultRouteInstaller.existingRules (Object.json (persisted cfg object)) =
      DefaultRouteInstaller.existingRules cfg := by
  have hrules : (persistedRoute cfg object)["rules"]? =
      ((cfg["route"]?.bind Value.asMap?).getD ∅)["rules"]? := by
    rw [rules_persistedRoute, h, Option.or_self]
  have hkept : DefaultRouteInstaller.existingRules (persisted cfg object) =
      DefaultRouteInstaller.existingRules cfg := by
    rw [DefaultRouteInstaller.existingRules, DefaultRouteInstaller.existingRules,
      route_persisted, Option.bind_some, hrules]
    cases cfg["route"]?.bind Value.asMap? with
    | none => simp
    | some current => rfl
  rw [DefaultRouteInstaller.existingRules_json, hkept,
    DefaultRouteInstaller.map_json_existingRules hjson]
  intro route hroute strings
  obtain rfl := Option.some.inj ((route_persisted cfg object).symm.trans hroute)
  rw [hrules]
  cases hcurrent : cfg["route"]?.bind Value.asMap? with
  | none => simp
  | some current => exact DefaultRouteInstaller.rules_ne_strs hjson hcurrent strings

/-- The rules that an operation has saved are the edited ones. -/
theorem existingRules_persisted {cfg object : Object} (hjson : Object.json cfg = cfg)
    (hsection : editorSection cfg = some object) {rules : List (Value × RouteRuleMetadata)}
    (hrules : rules.map Prod.fst = DefaultRouteInstaller.existingRules cfg)
    (op : EditorOp) (shown : List RouteRuleMetadata) :
    DefaultRouteInstaller.existingRules
        (Object.json (persisted cfg (op.change object shown).object)) =
      (op.edit rules).map Prod.fst := by
  have hshown : (routeRules object).map Value.json = rules.map Prod.fst := by
    rw [routeRules_section hsection, DefaultRouteInstaller.map_json_existingRules hjson, hrules]
  have hlist (next : List Value) : DefaultRouteInstaller.existingRules
      (Object.json (persisted cfg (setRouteRules object next))) = next.map Value.json :=
    existingRules_persisted_of_list (by simp [setRouteRules])
  have hsets (next : List Value) : DefaultRouteInstaller.existingRules
      (Object.json (persisted cfg (setRouteRuleSets object next))) = rules.map Prod.fst := by
    rw [existingRules_persisted_of_eq hjson, hrules]
    rw [← (editorSection_eq_some hsection).1]
    simp [setRouteRuleSets]
  cases op with
  | saveRule index item entered => simp [EditorOp.change, EditorOp.changeRules, EditorOp.edit,
      hlist, hshown]
  | copyRule index => simp [EditorOp.change, EditorOp.changeRules, EditorOp.edit, hlist, hshown]
  | moveRule index direction =>
    simp [EditorOp.change, EditorOp.changeRules, EditorOp.edit, hlist, hshown]
  | deleteRule index =>
    simp only [EditorOp.change, EditorOp.changeRules, EditorOp.edit, hlist, ← List.eraseIdx_map,
      hshown]
  | saveRuleSet index item => exact hsets _
  | copyRuleSet index => exact hsets _
  | deleteRuleSet index => exact hsets _

/-- What an operation leaves behind when both its requests succeed. -/
structure Saved (s s' : RoutePage Bytes) (cfg : Object) (change : EditorChange) : Prop where
  config : storedConfig codec s'.host.dir = some (Object.json (persisted cfg change.object))
  query : s'.query = s.query
  draft : s'.draft = change.draft.or s.draft
  answered : s'.answered = s.answered
  initialized : s'.store.initialized = s.store.initialized
  bucket : change.metadata = [] ∧ s'.store.bucket = s.store.bucket ∨ change.metadata ≠ [] ∧
    save d (s'.rules codec) change.metadata s.store.bucket = .ok s'.store.bucket

/-- What a fetch that succeeds leaves behind. -/
structure Fetched (s s' : RoutePage Bytes) : Prop where
  host : s'.host = s.host
  draft : s'.draft = s.draft
  query : s'.query = some (list d (s.rules codec) s'.store.bucket)
  answered : s'.answered = (s.answered || s.draft.isNone)
  initialized : s'.store.initialized = true
  bucket : s.store.initialized = true ∧ s'.store.bucket = s.store.bucket ∨
    s.store.initialized = false ∧ applyDefaultNames d formatFloat (s.rules codec)
      s.store.bucket = .ok s'.store.bucket

/-- What the page shows once it was answered is what is stored, and nothing that is stored has
spaces around it. -/
structure InStep (s : RoutePage Bytes) : Prop where
  noSpaces : Trimmed s.store.bucket
  shown : s.answered = true → (alignedMetadata (s.rules codec) s.metadata).map trimmed =
    list d (s.rules codec) s.store.bucket
  initialized : s.answered = true → s.store.initialized = true

variable {codec d formatFloat}

theorem rules_of_config {s : RoutePage Bytes} {cfg : Object}
    (h : storedConfig codec s.host.dir = some cfg) :
    s.rules codec = DefaultRouteInstaller.existingRules cfg := by
  rw [rules, h, Option.map_some, Option.getD_some]

theorem operate_saved {op : EditorOp} {save : ApplyOutcome} {o : MetadataOutcome}
    {s : RoutePage Bytes} (h : (operate codec d op save o s).2 = true) :
    ∃ cfg object, storedConfig codec s.host.dir = some cfg ∧ editorSection cfg = some object ∧
      Saved codec d s (operate codec d op save o s).1 cfg (op.change object s.metadata) := by
  unfold operate at h ⊢
  cases hcfg : storedConfig codec s.host.dir with
  | none =>
    rw [hcfg] at h
    cases h
  | some cfg =>
    rw [hcfg] at h
    dsimp only at h ⊢
    cases hsection : editorSection cfg with
    | none =>
      rw [hsection] at h
      cases h
    | some object =>
      refine ⟨cfg, object, rfl, hsection, ?_⟩
      rw [hsection] at h
      dsimp only at h ⊢
      set change := op.change object s.metadata
      unfold persistRules at h ⊢
      dsimp only at h ⊢
      rcases hconfig : updateConfig codec
        (codec.marshal (Object.toValue (persisted cfg change.object))) save s.host with
        ⟨host, response⟩
      rw [hconfig] at h
      dsimp only at h ⊢
      by_cases happlied : applied response = true
      swap
      · rw [Bool.eq_false_of_not_eq_true happlied] at h
        cases h
      · have hstored : storedConfig codec host.dir =
            some (Object.json (persisted cfg change.object)) := by
          obtain ⟨hcode, hstatus⟩ := applied_eq_true happlied
          exact storedConfig_marshal (updateConfig_written hconfig hcode hstatus)
        rw [happlied, Bool.not_true, if_neg Bool.false_ne_true] at h ⊢
        by_cases hempty : change.metadata = []
        · rw [if_pos hempty]
          exact ⟨hstored, rfl, rfl, rfl, rfl, .inl ⟨hempty, rfl⟩⟩
        · rw [if_neg hempty] at h ⊢
          rcases hput : ConfigHandler.updateRouteRuleMetadata codec d (some change.metadata) o
            host.dir s.store with ⟨store, e | saved⟩
          · rw [hput] at h
            cases h
          · obtain ⟨metadata, rules, hbody, hrules, hsave, hinitialized⟩ :=
              ConfigHandler.updateRouteRuleMetadata_ok hput
            obtain rfl := Option.some.inj hbody
            refine ⟨hstored, rfl, rfl, rfl, hinitialized, .inr ⟨hempty, ?_⟩⟩
            rw [RoutePage.rules, show (storedConfig codec host.dir).map
              DefaultRouteInstaller.existingRules = some rules from hrules]
            exact hsave

theorem fetch_fetched {o : MetadataOutcome} {s : RoutePage Bytes}
    (h : (fetch codec d formatFloat o s).2 = true) :
    Fetched codec d formatFloat s (fetch codec d formatFloat o s).1 := by
  unfold fetch at h ⊢
  rcases hget : ConfigHandler.getRouteRuleMetadata codec d formatFloat o s.host.dir s.store with
    ⟨store, e | metadata⟩
  · rw [hget] at h
    cases h
  · obtain ⟨rules, hrules, rfl, hinitialized, hbucket⟩ :=
      ConfigHandler.getRouteRuleMetadata_ok hget
    have hlisted : s.rules codec = rules := by
      rw [RoutePage.rules, show (storedConfig codec s.host.dir).map
        DefaultRouteInstaller.existingRules = some rules from hrules, Option.getD_some]
    exact ⟨rfl, rfl, by rw [hlisted], rfl, hinitialized, by rw [hlisted]; exact hbucket⟩

theorem map_fst_named (s : RoutePage Bytes) :
    (s.named codec d).map Prod.fst = s.rules codec :=
  List.map_fst_zip (length_list _ _ _).ge

theorem map_snd_named (s : RoutePage Bytes) :
    (s.named codec d).map Prod.snd = list d (s.rules codec) s.store.bucket :=
  List.map_snd_zip (length_list _ _ _).le

theorem Saved.rules_eq {s s' : RoutePage Bytes} {cfg object : Object} {op : EditorOp}
    (h : Saved codec d s s' cfg (op.change object s.metadata))
    (hcfg : storedConfig codec s.host.dir = some cfg) (hsection : editorSection cfg = some object) :
    s'.rules codec = (op.edit (s.named codec d)).map Prod.fst := by
  rw [rules_of_config h.config]
  apply existingRules_persisted (storedConfig_json hcfg) hsection
  rw [map_fst_named, rules_of_config hcfg]

theorem InStep.metadata_change {s : RoutePage Bytes} (hstep : InStep codec d s)
    (hanswered : s.answered = true) {cfg object : Object}
    (hcfg : storedConfig codec s.host.dir = some cfg) (hsection : editorSection cfg = some object)
    {op : EditorOp} (hop : op.SendsNames) :
    (op.change object s.metadata).metadata.map trimmed =
      (op.edit (s.named codec d)).map Prod.snd := by
  apply EditorOp.metadata_change hop
  rw [routeRules_section hsection, ← rules_of_config hcfg, map_snd_named, hstep.shown hanswered]

/-- After an operation the names listed are those of the edited rules. -/
theorem Saved.list_eq {s s' : RoutePage Bytes} {cfg object : Object} {op : EditorOp}
    (h : Saved codec d s s' cfg (op.change object s.metadata))
    (hcfg : storedConfig codec s.host.dir = some cfg) (hsection : editorSection cfg = some object)
    (hstep : InStep codec d s) (hsends : op.SendsNames → s.answered = true) :
    list d (s'.rules codec) s'.store.bucket = (op.edit (s.named codec d)).map Prod.snd := by
  have hrules := h.rules_eq hcfg hsection
  by_cases hop : op.SendsNames
  · have hmetadata := hstep.metadata_change (hsends hop) hcfg hsection hop
    rcases h.bucket with ⟨hempty, -⟩ | ⟨-, hsave⟩
    · -- no rule is left, so none is listed
      rw [hempty, List.map_nil] at hmetadata
      have hnone : op.edit (s.named codec d) = [] := List.map_eq_nil_iff.mp hmetadata.symm
      rw [hrules, hnone]
      exact List.length_eq_zero_iff.mp (length_list d [] s'.store.bucket)
    · rw [list_of_save hsave, hmetadata]
  · have hedit := op.edit_of_not_sendsNames hop (s.named codec d)
    have hbucket : s'.store.bucket = s.store.bucket := by
      rcases h.bucket with ⟨-, hbucket⟩ | ⟨hsent, -⟩
      · exact hbucket
      · exact absurd (op.metadata_of_not_sendsNames hop object s.metadata) hsent
    rw [hrules, hedit, hbucket, map_fst_named, map_snd_named]

theorem Saved.named_eq {s s' : RoutePage Bytes} {cfg object : Object} {op : EditorOp}
    (h : Saved codec d s s' cfg (op.change object s.metadata))
    (hcfg : storedConfig codec s.host.dir = some cfg) (hsection : editorSection cfg = some object)
    (hstep : InStep codec d s) (hsends : op.SendsNames → s.answered = true) :
    s'.named codec d = op.edit (s.named codec d) :=
  (List.zip_of_prod (h.rules_eq hcfg hsection).symm
    (h.list_eq hcfg hsection hstep hsends).symm).symm

theorem Saved.inStep {s s' : RoutePage Bytes} {cfg object : Object} {op : EditorOp}
    (h : Saved codec d s s' cfg (op.change object s.metadata))
    (hcfg : storedConfig codec s.host.dir = some cfg) (hsection : editorSection cfg = some object)
    (hstep : InStep codec d s) (hsends : op.SendsNames → s.answered = true) :
    InStep codec d s' := by
  refine ⟨?_, ?_, ?_⟩
  · rcases h.bucket with ⟨-, hbucket⟩ | ⟨-, hsave⟩
    · rw [hbucket]
      exact hstep.noSpaces
    · exact Trimmed.of_save hsave
  · intro hanswered
    rw [h.answered] at hanswered
    rw [h.list_eq hcfg hsection hstep hsends, h.rules_eq hcfg hsection, metadata, h.draft,
      h.query]
    rcases op.draft_change object s.metadata with ⟨hdraft, hop⟩ | ⟨hdraft, hedit⟩
    · have hmetadata := hstep.metadata_change hanswered hcfg hsection hop
      rw [hdraft, Option.some_or, Option.getD_some, alignedMetadata_of_length, hmetadata]
      simpa using congrArg List.length hmetadata
    · rw [hdraft, Option.none_or, hedit, map_fst_named, map_snd_named]
      exact hstep.shown hanswered
  · rw [h.answered, h.initialized]
    exact hstep.initialized

theorem zip_defaultNames (f : Value → Value) {rules : List Value}
    {metadata : List RouteRuleMetadata} :
    (rules.map f).zip (List.zipWith (withDefaultName formatFloat) metadata rules) =
      (rules.zip metadata).map fun p => (f p.1, withDefaultName formatFloat p.2 p.1) := by
  induction rules generalizing metadata with
  | nil => rfl
  | cons rule rules ih =>
    cases metadata with
    | nil => rfl
    | cons head rest => simp [ih]

theorem Fetched.rules_eq {s s' : RoutePage Bytes} (h : Fetched codec d formatFloat s s') :
    s'.rules codec = s.rules codec := by
  rw [rules, rules, h.host]

theorem Fetched.named_eq {s s' : RoutePage Bytes} (h : Fetched codec d formatFloat s s')
    (hspaces : Trimmed s.store.bucket) :
    s'.named codec d = if s.store.initialized then s.named codec d
      else (s.named codec d).map fun p => (p.1, withDefaultName formatFloat p.2 p.1) := by
  rw [named, h.rules_eq]
  rcases h.bucket with ⟨hinitialized, hbucket⟩ | ⟨hinitialized, hbucket⟩
  · rw [hinitialized, if_pos rfl, hbucket, named]
  · rw [hinitialized, if_neg Bool.false_ne_true, list_of_applyDefaultNames hspaces hbucket,
      named]
    simpa using zip_defaultNames id

theorem Fetched.inStep {s s' : RoutePage Bytes} (h : Fetched codec d formatFloat s s')
    (hstep : InStep codec d s) : InStep codec d s' := by
  have hspaces : Trimmed s'.store.bucket := by
    rcases h.bucket with ⟨-, hbucket⟩ | ⟨-, hbucket⟩
    · rw [hbucket]
      exact hstep.noSpaces
    · exact Trimmed.of_save hbucket
  refine ⟨hspaces, ?_, fun _ => h.initialized⟩
  intro hanswered
  rw [h.rules_eq]
  cases hdraft : s.draft with
  | none =>
    rw [metadata, h.draft, hdraft, Option.getD_none, h.query, Option.getD_some,
      alignedMetadata_of_length (length_list _ _ _)]
    exact map_trimmed (hspaces.list d _)
  | some draft =>
    -- the draft is shown on, and as it was answered before the names had been initialized
    rw [h.answered, hdraft, Option.isNone_some, Bool.or_false] at hanswered
    rcases h.bucket with ⟨-, hbucket⟩ | ⟨hinitialized, -⟩
    · have hshown := hstep.shown hanswered
      rw [metadata, hdraft, Option.getD_some] at hshown
      rw [metadata, h.draft, hdraft, Option.getD_some, hbucket, hshown]
    · rw [hstep.initialized hanswered] at hinitialized
      cases hinitialized

/-- What an installation that succeeds leaves behind. -/
theorem installRoute_written {o : InstallOutcome} {s : RoutePage Bytes}
    (h : (installRoute codec d formatFloat o s).2 = true) :
    (installRoute codec d formatFloat o s).1.rules codec =
        (s.rules codec ++ s.installedRules codec formatFloat).map Value.json ∧
      applyDefaultNames d formatFloat (s.rules codec ++ s.installedRules codec formatFloat)
        s.store.bucket = .ok (installRoute codec d formatFloat o s).1.store.bucket := by
  unfold installRoute at h ⊢
  rcases hinstall : installDefaultRouteRules codec d formatFloat o s.host s.store.bucket with
    ⟨host, bucket, response⟩
  rw [hinstall] at h
  obtain ⟨hcode, hstatus⟩ := applied_eq_true h
  obtain ⟨cfg, hcfg, htarget, hnames⟩ := installDefaultRouteRules_written hinstall hcode hstatus
  have hrules : (DefaultRouteInstaller.install formatFloat cfg).rules =
      s.rules codec ++ s.installedRules codec formatFloat := by
    rw [rules_of_config hcfg, installedRules, hcfg]
    rfl
  rw [hrules] at hnames
  refine ⟨?_, hnames⟩
  rw [rules_of_config (storedConfig_marshal htarget), existingRules_withDefaultRouteRules, hrules]

/-- The digests of the rules in the file are those of the rules that were named. -/
theorem fingerprints_installed (hdefaults : EncodesDefaults d) (s : RoutePage Bytes) :
    ((s.rules codec ++ s.installedRules codec formatFloat).map Value.json).map
        (routeRuleFingerprint d) =
      (s.rules codec ++ s.installedRules codec formatFloat).map (routeRuleFingerprint d) := by
  have hexisting : (s.rules codec).map Value.json = s.rules codec := by
    cases hcfg : storedConfig codec s.host.dir with
    | none => rw [rules, hcfg]; rfl
    | some cfg =>
      rw [rules_of_config hcfg]
      exact DefaultRouteInstaller.map_json_existingRules (storedConfig_json hcfg)
  rw [List.map_append, List.map_append, List.map_append, hexisting, List.map_map]
  congr 1
  apply List.map_congr_left
  intro rule hrule
  obtain ⟨default, hdefault, rfl⟩ := List.mem_map.mp hrule
  exact congrArg d.sum256
    (hdefaults _ _ default (DefaultRouteInstaller.newRules_subset _ _ _ hdefault))

theorem installRoute_named (hdefaults : EncodesDefaults d) {o : InstallOutcome}
    {s : RoutePage Bytes} (h : (installRoute codec d formatFloat o s).2 = true)
    (hspaces : Trimmed s.store.bucket) (hleft : s.NoneLeftOver codec d formatFloat) :
    (installRoute codec d formatFloat o s).1.named codec d =
      s.expected codec d formatFloat (.install o) := by
  obtain ⟨hrules, hnames⟩ := installRoute_written h
  rw [named, hrules, list_congr (fingerprints_installed hdefaults s),
    list_of_applyDefaultNames hspaces hnames, list_append hleft.1 hleft.2,
    zip_defaultNames Value.json, List.zip_append (length_list _ _ _).symm]
  dsimp only [expected]
  rw [List.map_prod_left_eq_zip]
  rfl

/-- A page that was not answered has nothing to be in step with. -/
theorem inStep_of_unanswered {s : RoutePage Bytes} (hspaces : Trimmed s.store.bucket)
    (hopened : s.answered = false) : InStep codec d s :=
  ⟨hspaces, fun h => absurd h (by simp [hopened]), fun h => absurd h (by simp [hopened])⟩

theorem step_named (hdefaults : EncodesDefaults d) {s : RoutePage Bytes} {label : PageLabel}
    (h : Succeeds codec d formatFloat s label) (hsound : Sound codec d formatFloat s label)
    (hstep : InStep codec d s) :
    (step codec d formatFloat s label).named codec d = s.expected codec d formatFloat label := by
  cases label with
  | operate op save o =>
    obtain ⟨cfg, object, hcfg, hsection, hsaved⟩ := operate_saved h
    exact hsaved.named_eq hcfg hsection hstep hsound
  | answer o => exact (fetch_fetched h).named_eq hstep.noSpaces
  | install o => exact installRoute_named hdefaults h hstep.noSpaces hsound
  | refresh o => exact (fetch_fetched h).named_eq hstep.noSpaces
  | reopen => rfl

theorem step_inStep {s : RoutePage Bytes} {label : PageLabel}
    (h : Succeeds codec d formatFloat s label) (hsound : Sound codec d formatFloat s label)
    (hstep : InStep codec d s) : InStep codec d (step codec d formatFloat s label) := by
  cases label with
  | operate op save o =>
    obtain ⟨cfg, object, hcfg, hsection, hsaved⟩ := operate_saved h
    exact hsaved.inStep hcfg hsection hstep hsound
  | answer o => exact (fetch_fetched h).inStep hstep
  | install o => exact inStep_of_unanswered (Trimmed.of_save (installRoute_written h).2) rfl
  | refresh o => exact (fetch_fetched h).inStep (inStep_of_unanswered hstep.noSpaces rfl)
  | reopen => exact inStep_of_unanswered hstep.noSpaces rfl

/-- The names travel with their rules, on every run of requests that succeed. -/
theorem names_travel (hdefaults : EncodesDefaults d) {s : RoutePage Bytes}
    (hspaces : Trimmed s.store.bucket) (hopened : s.answered = false) {labels : List PageLabel}
    (hsucceeds : Along (step codec d formatFloat) (Succeeds codec d formatFloat) s labels)
    (hsound : Along (step codec d formatFloat) (Sound codec d formatFloat) s labels) :
    Along (step codec d formatFloat) (fun s label =>
      (step codec d formatFloat s label).named codec d = s.expected codec d formatFloat label)
      s labels :=
  (hsucceeds.and hsound).of_invariant (fun _ _ h => step_inStep h.1 h.2)
    (fun _ _ h => step_named hdefaults h.1 h.2) (inStep_of_unanswered hspaces hopened)

/-- The digests of three rules. -/
def ruleDigest : Digest { v : Value // v.json = v } where
  marshal := documentCodec.marshal
  sum256 document :=
    match document.1 with
    | .obj [("action", .str "sniff")] =>
      "e23495c7cc809f22f271f8cca842b7f2d81e2fa8e4962670bba224f655473aa2"
    | .obj [("action", .str "hijack-dns"), ("protocol", .str "dns")] =>
      "9f9e265b9aa2ffeffa66680232d1acbff6f5cde14c4b6b13030bf6e9e5fae3b9"
    | .obj [("action", .str "reject")] =>
      "8f134862ef845b9e36c5791d45000550522285c4eb64104fcdfb37bb9ae14929"
    | _ => ""

theorem encodesDefaults_ruleDigest : EncodesDefaults ruleDigest :=
  fun _ _ rule _ => Subtype.ext (Object.toValue rule).json_json

def sniffObject : Object := DefaultRouteInstaller.rule [("action", .str "sniff")]

def hijackObject : Object :=
  DefaultRouteInstaller.rule [("action", .str "hijack-dns"), ("protocol", .str "dns")]

def rejectObject : Object := DefaultRouteInstaller.rule [("action", .str "reject")]

/-- The page as it is opened on one rule that has a name. -/
def openedOn (rule : Object) (name : String) : RoutePage { v : Value // v.json = v } where
  host := ⟨⟨some (documentCodec.marshal
    (.obj [("route", .obj [("rules", .list [Object.toValue rule])])])), none⟩, none⟩
  store := ⟨⟨some [⟨routeRuleFingerprint ruleDigest (Object.toValue rule), name, ""⟩]⟩, true⟩
  query := none
  draft := none
  answered := false

def operated (op : EditorOp) : PageLabel := .operate op .clean .clean

abbrev stepOne (s : RoutePage { v : Value // v.json = v }) (label : PageLabel) :
    RoutePage { v : Value // v.json = v } :=
  step documentCodec ruleDigest (fun _ => "0") s label

/-- A rule is added to the answered page and moved to the top, and the defaults installed. -/
def answeredRun : List PageLabel :=
  [.answer .clean, operated (.saveRule none rejectObject ⟨" 拦截 ", ""⟩),
    operated (.moveRule 1 .up), .install ⟨false, .clean, false⟩, .refresh .clean]

theorem answeredRun_names_travel :
    Along stepOne (fun s label => (stepOne s label).named documentCodec ruleDigest =
      s.expected documentCodec ruleDigest (fun _ => "0") label) (openedOn sniffObject "嗅探")
      answeredRun := by
  apply names_travel encodesDefaults_ruleDigest
  · intro entry hentry
    obtain rfl := List.mem_singleton.mp hentry
    decide
  · rfl
  · exact ⟨by decide +kernel, by decide +kernel, by decide +kernel, by decide +kernel,
      by decide +kernel, trivial⟩
  · exact ⟨trivial, fun _ => by decide +kernel, fun _ => by decide +kernel,
      ⟨by decide +kernel, by decide +kernel⟩, trivial, trivial⟩

/-- The names at the end of the run. -/
example : ((run stepOne (openedOn sniffObject "嗅探") answeredRun).named documentCodec
    ruleDigest).map (·.2.name) = ["拦截", "嗅探", "DNS 请求劫持"] := by decide +kernel

/-- A rule is added while the names are loading, and that of the other rule is lost. The last
rule is deleted, and its name comes back on the first rule that is installed. -/
theorem unansweredAdd_and_lastDelete_lose :
    (Along stepOne (Succeeds documentCodec ruleDigest fun _ => "0") (openedOn sniffObject "嗅探")
        [operated (.saveRule none hijackObject ⟨"DNS", ""⟩)] ∧
      ¬Along stepOne (fun s label => (stepOne s label).named documentCodec ruleDigest =
          s.expected documentCodec ruleDigest (fun _ => "0") label) (openedOn sniffObject "嗅探")
        [operated (.saveRule none hijackObject ⟨"DNS", ""⟩)]) ∧
    Along stepOne (Succeeds documentCodec ruleDigest fun _ => "0") (openedOn rejectObject "拦截")
        [.answer .clean, operated (.deleteRule 0), .install ⟨false, .clean, false⟩] ∧
      ¬Along stepOne (fun s label => (stepOne s label).named documentCodec ruleDigest =
          s.expected documentCodec ruleDigest (fun _ => "0") label) (openedOn rejectObject "拦截")
        [.answer .clean, operated (.deleteRule 0), .install ⟨false, .clean, false⟩] := by
  refine ⟨⟨⟨by decide +kernel, trivial⟩, fun h => ?_⟩,
    ⟨by decide +kernel, by decide +kernel, by decide +kernel, trivial⟩, fun h => ?_⟩
  · have hnames := congrArg (List.map (·.2.name)) h.1
    exact absurd hnames (by decide +kernel)
  · have hnames := congrArg (List.map (·.2.name)) h.2.2.1
    exact absurd hnames (by decide +kernel)

end RoutePage

end Boxui.UI
