import Boxui.Core.SBInstance
import Boxui.Library.GoStrings
import Boxui.Library.GoValue

/-! Updating the rule-sets of the configuration. The cache of the remote ones belongs to the
running kernel, which is therefore stopped before a remote rule-set is downloaded and
started again afterwards. -/
namespace Boxui.Core
open GoValue GoStrings

variable {Bytes : Type*}

structure RuleSetSource where
  tag : String
  fileName : String
  url : String

structure RuleSetUpdateRequest where
  tags : List String
  types : List String

structure RuleSetUpdateResult where
  tag : String
  type : String
  ok : Bool
  notModified : Bool
  error : String
  updatedAt : Option Nat
  deriving DecidableEq, Repr

structure RuleSetUpdateResponse where
  results : List RuleSetUpdateResult
  updatedCount : Nat
  failedCount : Nat
  skippedCount : Nat
  restarted : Bool
  deriving DecidableEq, Repr

inductive CacheError where
  | disabled
  | other (message : String)

/-- How the calls made for one rule-set turn out. A response is its status code and the
length of its body, unless reading that fails. -/
structure UpdateOutcome where
  fetchAndConvert : Option String
  writeFile : Option String
  request : Option String
  response : Except String (Nat × Except String Nat)
  touchRemoteCache : Option CacheError
  saveRemoteCache : Option String
  now : Nat

def errRuleSetNotUpdatable : String := "rule-set is not updatable"

def ruleSetEntries (cfg : Object) : List Object :=
  match cfg["route"]?.bind Value.asMap? with
  | none => []
  | some route => ((route["rule_set"]?.bind Value.asList?).getD []).filterMap Value.asMap?

/-- A missing type means an inline rule-set. -/
def ruleSetType (entry : Object) : String :=
  if Object.stringAt entry "type" = "" then "inline" else Object.stringAt entry "type"

/-- An empty filter selects everything. `toLower` is `unicode.ToLower`. -/
def selectRuleSets (toLower : Char → Char) (entries : List Object) (req : RuleSetUpdateRequest) :
    List Object :=
  let tagFilter := (req.tags.map trimSpace).filter (· ≠ "")
  let typeFilter := (req.types.map fun typ => (trimSpace typ).map toLower).filter (· ≠ "")
  entries.filter fun entry =>
    (tagFilter.isEmpty || tagFilter.contains (Object.stringAt entry "tag")) &&
      (typeFilter.isEmpty || typeFilter.contains (ruleSetType entry))

def sourceByTag (sources : List RuleSetSource) (tag : String) : Option RuleSetSource :=
  sources.find? (·.tag = tag)

def RuleSetUpdateResult.fail (result : RuleSetUpdateResult) (error : String) :
    RuleSetUpdateResult := { result with error := error }

def updateLocal (sources : List RuleSetSource) (o : UpdateOutcome)
    (result : RuleSetUpdateResult) : RuleSetUpdateResult :=
  match sourceByTag sources result.tag with
  | none => result.fail "custom local rule-set files are not auto-updated"
  | some _ =>
    match o.fetchAndConvert, o.writeFile with
    | some err, _ => result.fail err
    | none, some err => result.fail err
    | none, none => { result with ok := true, updatedAt := some o.now }

/-- The file that `updateLocal` replaces, with the rules in it. `builtinPath` is the path of a
built-in rule-set whose entry has none. -/
def localWrite (sources : List RuleSetSource) (builtinPath : RuleSetSource → String)
    (rules : Bytes) (o : UpdateOutcome) (entry : Object) : Option (String × Bytes) :=
  if ruleSetType entry = "local" then
    match sourceByTag sources (Object.stringAt entry "tag") with
    | none => none
    | some src =>
      match o.fetchAndConvert, o.writeFile with
      | none, none =>
        let path := Object.stringAt entry "path"
        some (if path = "" then builtinPath src else path, rules)
      | _, _ => none
  else none

def updateRemote (entry : Object) (o : UpdateOutcome) (result : RuleSetUpdateResult) :
    RuleSetUpdateResult :=
  if trimSpace (Object.stringAt entry "url") = "" then
    result.fail "remote rule-set url is empty"
  else
    match o.request, o.response with
    | some err, _ => result.fail err
    | none, .error err => result.fail err
    | none, .ok (304, _) =>
      match o.touchRemoteCache with
      | some (.other err) => result.fail err
      | some .disabled | none =>
        { result with ok := true, notModified := true, updatedAt := some o.now }
    | none, .ok (200, .error err) => result.fail err
    | none, .ok (200, .ok 0) => result.fail "empty rule-set body"
    | none, .ok (200, .ok _) =>
      match o.saveRemoteCache with
      | some err => result.fail err
      | none => { result with ok := true, updatedAt := some o.now }
    | none, .ok (statusCode, _) => result.fail ("unexpected status " ++ toString statusCode)

def updateOne (sources : List RuleSetSource) (o : UpdateOutcome) (entry : Object) :
    RuleSetUpdateResult :=
  let result : RuleSetUpdateResult :=
    ⟨Object.stringAt entry "tag", ruleSetType entry, false, false, "", none⟩
  match ruleSetType entry with
  | "local" => updateLocal sources o result
  | "remote" => updateRemote entry o result
  | _ => result.fail errRuleSetNotUpdatable

/-- A local rule-set is reported as updated if and only if its file is replaced. -/
theorem updateOne_local_ok (sources : List RuleSetSource) (builtinPath : RuleSetSource → String)
    (rules : Bytes) (o : UpdateOutcome) {entry : Object} (h : ruleSetType entry = "local") :
    (updateOne sources o entry).ok = (localWrite sources builtinPath rules o entry).isSome := by
  unfold updateOne localWrite updateLocal
  simp only [h, if_true]
  cases sourceByTag sources (Object.stringAt entry "tag") with
  | none => rfl
  | some src => cases o.fetchAndConvert <;> cases o.writeFile <;> rfl

/-- Only the file of a local rule-set with a source is replaced. -/
theorem localWrite_builtin {sources : List RuleSetSource} {builtinPath : RuleSetSource → String}
    {rules : Bytes} {o : UpdateOutcome} {entry : Object} {file : String × Bytes}
    (h : localWrite sources builtinPath rules o entry = some file) :
    ruleSetType entry = "local" ∧ ∃ src ∈ sources, src.tag = Object.stringAt entry "tag" ∧
      file.1 = if Object.stringAt entry "path" = "" then builtinPath src
        else Object.stringAt entry "path" := by
  unfold localWrite at h
  split_ifs at h with hlocal
  refine ⟨hlocal, ?_⟩
  split at h
  · cases h
  · rename_i src hsource
    split at h
    · obtain rfl := Option.some.inj h
      unfold sourceByTag at hsource
      have htag := List.find?_some hsource
      exact ⟨src, List.mem_of_find?_eq_some hsource, of_decide_eq_true htag, rfl⟩
    · cases h

/-- A rule-set that nothing updates counts as skipped, one that did not change as nothing. -/
def RuleSetUpdateResponse.count (resp : RuleSetUpdateResponse) (result : RuleSetUpdateResult) :
    RuleSetUpdateResponse :=
  let resp := { resp with results := resp.results ++ [result] }
  if result.ok && !result.notModified then { resp with updatedCount := resp.updatedCount + 1 }
  else if result.ok && result.notModified then resp
  else if contains result.error "not auto-updated" || contains result.error "not updatable" then
    { resp with skippedCount := resp.skippedCount + 1 }
  else { resp with failedCount := resp.failedCount + 1 }

def emptyResponse : RuleSetUpdateResponse := ⟨[], 0, 0, 0, false⟩

inductive RuleSetUpdateError where
  | readConfig
  | parseConfig
  | stop
  | start (e : StartError)
  deriving DecidableEq, Repr

structure RuleSetUpdater (Bytes : Type*) where
  sources : List RuleSetSource
  stop : Option (Kernel Bytes → Kernel Bytes × Except Unit Unit)
  start : Option (Kernel Bytes → Kernel Bytes × Except StartError Unit)

namespace RuleSetUpdater

/-- The updater over the kernel's own calls. A stop meets a box that closes cleanly or not; a
start meets the configuration file as it then stands. -/
def newRuleSetUpdater (sources : List RuleSetSource) (closeFails : Bool)
    (startFile : Option Bytes) (o : StartOutcome) : RuleSetUpdater Bytes :=
  ⟨sources, some (Kernel.stop closeFails), some (Kernel.start startFile o)⟩

def loadConfig (codec : JSONCodec Bytes) (file : Option Bytes) :
    Except RuleSetUpdateError Object :=
  match file with
  | none => .error .readConfig
  | some data =>
    match codec.unmarshal data with
    | none => .error .parseConfig
    | some .null => .ok ∅
    | some doc =>
      match doc.asMap? with
      | none => .error .parseConfig
      | some cfg => .ok cfg

/-- Whether the kernel was told to stop, and the error it reported. -/
def stopKernel (u : RuleSetUpdater Bytes) (needsCacheWrite : Bool) (k : Kernel Bytes) :
    Kernel Bytes × Except RuleSetUpdateError Bool :=
  match needsCacheWrite, u.stop with
  | true, some stop =>
    match stop k with
    | (k, .error ()) => (k, .error .stop)
    | (k, .ok ()) => (k, .ok true)
  | _, _ => (k, .ok false)

def startKernel (u : RuleSetUpdater Bytes) (stopped : Bool) (k : Kernel Bytes) :
    Kernel Bytes × Except RuleSetUpdateError Bool :=
  match stopped, u.start with
  | true, some start =>
    match start k with
    | (k, .error e) => (k, .error (.start e))
    | (k, .ok ()) => (k, .ok true)
  | _, _ => (k, .ok false)

def isRemote (entry : Object) : Bool := Object.stringAt entry "type" == "remote"

/-- `outcome` says how the calls for the `i`-th selected rule-set turn out. -/
def update (u : RuleSetUpdater Bytes) (codec : JSONCodec Bytes) (toLower : Char → Char)
    (configFile : Option Bytes) (req : RuleSetUpdateRequest) (outcome : Nat → UpdateOutcome)
    (k : Kernel Bytes) :
    Kernel Bytes × RuleSetUpdateResponse × Except RuleSetUpdateError Unit :=
  match loadConfig codec configFile with
  | .error e => (k, emptyResponse, .error e)
  | .ok cfg =>
    let selected := selectRuleSets toLower (ruleSetEntries cfg) req
    match u.stopKernel (selected.any isRemote) k with
    | (k, .error e) => (k, emptyResponse, .error e)
    | (k, .ok stopped) =>
      let results := selected.mapIdx fun i entry => updateOne u.sources (outcome i) entry
      let resp := results.foldl RuleSetUpdateResponse.count emptyResponse
      match u.startKernel stopped k with
      | (k, .error e) => (k, resp, .error e)
      | (k, .ok restarted) => (k, { resp with restarted := restarted }, .ok ())

/-- The request selects no remote rule-set of the configuration, or there is none to read. -/
def SelectsNoRemote (codec : JSONCodec Bytes) (toLower : Char → Char) (configFile : Option Bytes)
    (req : RuleSetUpdateRequest) : Prop :=
  ∀ cfg, loadConfig codec configFile = .ok cfg →
    ∀ entry ∈ selectRuleSets toLower (ruleSetEntries cfg) req,
      Object.stringAt entry "type" ≠ "remote"

/-- Without a remote rule-set the kernel is left alone. -/
theorem update_of_selectsNoRemote (u : RuleSetUpdater Bytes) {codec : JSONCodec Bytes}
    {toLower : Char → Char} {configFile : Option Bytes} {req : RuleSetUpdateRequest}
    (h : SelectsNoRemote codec toLower configFile req) (outcome : Nat → UpdateOutcome)
    (k : Kernel Bytes) : (u.update codec toLower configFile req outcome k).1 = k := by
  unfold update
  cases hload : loadConfig codec configFile with
  | error e => rfl
  | ok cfg =>
    have hany : (selectRuleSets toLower (ruleSetEntries cfg) req).any isRemote = false := by
      rw [List.any_eq_false]
      intro entry hmem
      simpa [isRemote] using h cfg hload entry hmem
    dsimp only
    rw [hany]
    rfl

/-- With a remote rule-set the kernel is stopped, and started again unless the stop reported
an error. -/
theorem update_of_remote (sources : List RuleSetSource) (closeFails : Bool)
    (startFile : Option Bytes) (o : StartOutcome) {codec : JSONCodec Bytes}
    {toLower : Char → Char} {configFile : Option Bytes} {req : RuleSetUpdateRequest}
    (h : ¬SelectsNoRemote codec toLower configFile req) (outcome : Nat → UpdateOutcome)
    (k : Kernel Bytes) :
    ((newRuleSetUpdater sources closeFails startFile o).update codec toLower configFile req
      outcome k).1 =
      if k.1.running = true ∧ closeFails = true then (k.stop closeFails).1
      else ((k.stop closeFails).1.start startFile o).1 := by
  simp only [SelectsNoRemote, ne_eq, not_forall, not_not] at h
  obtain ⟨cfg, hload, entry, hmem, hremote⟩ := h
  have hany : (selectRuleSets toLower (ruleSetEntries cfg) req).any isRemote = true :=
    List.any_eq_true.mpr ⟨entry, hmem, by simp [isRemote, hremote]⟩
  have herror := k.stop_error_iff closeFails
  unfold update
  rw [hload]
  dsimp only
  rw [hany]
  unfold stopKernel newRuleSetUpdater
  dsimp only
  rcases hstop : k.stop closeFails with ⟨k₁, r⟩
  rw [hstop] at herror
  cases r with
  | error u => rw [if_pos (herror.mp rfl)]
  | ok u =>
    rw [if_neg (mt herror.mpr (by simp))]
    unfold startKernel
    dsimp only
    rcases k₁.start startFile o with ⟨k₂, _ | _⟩ <;> rfl

end RuleSetUpdater

open RuleSetUpdater

/-- As long as the kernel can be started, an update leaves it running or stopped as it was
exactly when it selects no remote rule-set, or stops a running kernel without an error. -/
theorem update_running_iff (sources : List RuleSetSource) (closeFails : Bool)
    (startFile : Option Bytes) (o : StartOutcome) (codec : JSONCodec Bytes)
    (toLower : Char → Char) (configFile : Option Bytes) (req : RuleSetUpdateRequest)
    (outcome : Nat → UpdateOutcome) (k : Kernel Bytes)
    (hstart : ((k.stop closeFails).1.start startFile o).2 = .ok ()) :
    ((newRuleSetUpdater sources closeFails startFile o).update codec toLower configFile req
        outcome k).1.1.running = k.1.running ↔
      SelectsNoRemote codec toLower configFile req ∨
        k.1.running = true ∧ closeFails = false := by
  by_cases hremote : SelectsNoRemote codec toLower configFile req
  · simp only [hremote, true_or, iff_true]
    rw [update_of_selectsNoRemote _ hremote]
  · rw [update_of_remote _ _ _ _ hremote]
    simp only [hremote, false_or]
    have hstopped := k.stop_running closeFails
    have hstarted := Kernel.start_running hstart
    cases hrun : k.1.running <;> cases closeFails <;> simp_all

/-- The configuration file as its document. -/
abbrev DocumentKernel := Kernel { v : Value // v.json = v }

/-- A configuration whose only rule-set is a remote one. -/
def remoteConfigFile : Option { v : Value // v.json = v } :=
  let entry : Object := (((∅ : Object).insert "tag" (.str "geo")).insert "type"
    (.str "remote")).insert "url" (.str "https://rules.example/geo.srs")
  let route : Object := (∅ : Object).insert "rule_set" (.list [Object.toValue entry])
  some (documentCodec.marshal
    (Object.toValue ((∅ : Object).insert "route" (Object.toValue route))))

/-- An update of that rule-set, which has not changed. -/
def updateNotModified (closeFails : Bool) (k : DocumentKernel) : DocumentKernel :=
  ((newRuleSetUpdater [] closeFails remoteConfigFile ⟨false, false, false, 2⟩).update
    documentCodec id remoteConfigFile ⟨[], []⟩
      (fun _ => ⟨none, none, none, .ok (304, .ok 0), none, none, 1⟩) k).1

def startedKernel : DocumentKernel :=
  (Kernel.newKernel.start remoteConfigFile ⟨false, false, false, 1⟩).1

/-- A running kernel comes out running where its box closes cleanly. -/
theorem updateNotModified_keeps_running :
    startedKernel.1.running = true ∧ (updateNotModified false startedKernel).1.running = true := by
  have hstarted : startedKernel.1.running = true := by decide
  refine ⟨hstarted, Eq.trans ?_ hstarted⟩
  exact (update_running_iff [] false remoteConfigFile ⟨false, false, false, 2⟩ documentCodec id
    remoteConfigFile ⟨[], []⟩ _ startedKernel rfl).mpr (.inr ⟨hstarted, rfl⟩)

/-- A stopped kernel comes out running, and one whose box does not close cleanly comes out
stopped. -/
theorem updateNotModified_changes_running :
    ((Kernel.newKernel : DocumentKernel).1.running = false ∧
      (updateNotModified false Kernel.newKernel).1.running = true) ∧
    startedKernel.1.running = true ∧ (updateNotModified true startedKernel).1.running = false :=
  ⟨⟨by decide, by decide⟩, by decide, by decide⟩

end Boxui.Core
