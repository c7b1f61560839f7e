import Boxui.Core.RuleSetUpdate
import Boxui.Core.RuleSetCache

/-! An update of the rule-sets over the cache that remembers the remote ones. What a server
answers depends on the ETag that the cache holds, and a panic of its decoder ends the update
before the kernel is started again. -/
namespace Boxui.Core
open GoValue GoBinary GoStrings

variable {Bytes : Type*}

structure RuleSetResponse where
  statusCode : Nat
  etag : GoBytes
  body : Except String GoBytes

/-- How the calls made for one rule-set turn out. A server answers a URL and the value of
`If-None-Match`, which is empty when that is not set. -/
structure EntryCalls where
  fetchAndConvert : Option String
  writeFile : Option String
  openReadOnlyFails : Bool
  request : Option String
  respond : String → GoBytes → Except String RuleSetResponse
  cache : RuleSetCacheOutcome
  now : GoTime

def noBytes : GoBytes := ⟨[], by decide⟩

/-- The nanoseconds since 1970. -/
def GoTime.unixNano (t : GoTime) : Nat := t.sec.toNatClampNeg * 1000000000 + t.nsec

namespace CachedUpdate

/-- The ETag of a tag's record. -/
def rememberedEtag (openFails : Bool) (tag : String) (cache : RuleSetCache) :
    Except ReadError GoBytes :=
  if openFails then .ok noBytes
  else
    match loadRuleSetCache tag cache with
    | .error e => .error e
    | .ok none => .ok noBytes
    | .ok (some saved) => .ok saved.lastEtag

/-- An ETag that is not empty is that of a record. -/
theorem rememberedEtag_ne {openFails : Bool} {tag : String} {cache : RuleSetCache}
    {etag : GoBytes} (h : rememberedEtag openFails tag cache = .ok etag) (hne : etag ≠ noBytes) :
    openFails = false ∧
      ∃ saved, loadRuleSetCache tag cache = .ok (some saved) ∧ saved.lastEtag = etag := by
  unfold rememberedEtag at h
  split at h
  · exact absurd (Except.ok.inj h).symm hne
  · rename_i hopen
    refine ⟨Bool.eq_false_of_not_eq_true hopen, ?_⟩
    split at h
    · cases h
    · exact absurd (Except.ok.inj h).symm hne
    · rename_i saved hrecord
      exact ⟨saved, hrecord, Except.ok.inj h⟩

/-- A touch that meets a panic of the decoder does not return. -/
def updateNotModified (message : RuleSetCacheError → String) (o : EntryCalls)
    (result : RuleSetUpdateResult) (cache : RuleSetCache) :
    Except ReadError (RuleSetCache × RuleSetUpdateResult) :=
  let succeeded :=
    { result with ok := true, notModified := true, updatedAt := some o.now.unixNano }
  match touchRemoteCache o.cache result.tag o.now cache with
  | (_, .error (.decode .makeslice)) => .error .makeslice
  | (cache, .error .cacheDisabled) => .ok (cache, succeeded)
  | (cache, .error e) => .ok (cache, result.fail (message e))
  | (cache, .ok ()) => .ok (cache, succeeded)

def updateContent (message : RuleSetCacheError → String) (o : EntryCalls) (resp : RuleSetResponse)
    (result : RuleSetUpdateResult) (cache : RuleSetCache) : RuleSetCache × RuleSetUpdateResult :=
  match resp.body with
  | .error err => (cache, result.fail err)
  | .ok content =>
    if content.1.length = 0 then (cache, result.fail "empty rule-set body")
    else
      match saveRemoteCache o.cache result.tag content resp.etag o.now cache with
      | (cache, .error e) => (cache, result.fail (message e))
      | (cache, .ok ()) => (cache, { result with ok := true, updatedAt := some o.now.unixNano })

/-- `message` gives the text of an error of the cache. An error is the panic. -/
def updateRemote (message : RuleSetCacheError → String) (entry : Object) (o : EntryCalls)
    (result : RuleSetUpdateResult) (cache : RuleSetCache) :
    Except ReadError (RuleSetCache × RuleSetUpdateResult) :=
  let url := Object.stringAt entry "url"
  if trimSpace url = "" then .ok (cache, result.fail "remote rule-set url is empty")
  else
    match rememberedEtag o.openReadOnlyFails result.tag cache with
    | .error e => .error e
    | .ok etag =>
      match o.request with
      | some err => .ok (cache, result.fail err)
      | none =>
        match o.respond url etag with
        | .error err => .ok (cache, result.fail err)
        | .ok resp =>
          if resp.statusCode = 304 then updateNotModified message o result cache
          else if resp.statusCode = 200 then .ok (updateContent message o resp result cache)
          else .ok (cache, result.fail ("unexpected status " ++ toString resp.statusCode))

/-- The outcomes as an update without the cache meets them. -/
def cacheError (message : RuleSetCacheError → String) : RuleSetCacheError → CacheError
  | .cacheDisabled => .disabled
  | e => .other (message e)

def outcome (message : RuleSetCacheError → String) (url tag : String) (o : EntryCalls)
    (cache : RuleSetCache) : UpdateOutcome :=
  let etag := (rememberedEtag o.openReadOnlyFails tag cache).toOption.getD noBytes
  { fetchAndConvert := o.fetchAndConvert
    writeFile := o.writeFile
    request := o.request
    response := (o.respond url etag).map fun resp =>
      (resp.statusCode, resp.body.map fun content => content.1.length)
    touchRemoteCache :=
      match (touchRemoteCache o.cache tag o.now cache).2 with
      | .error e => some (cacheError message e)
      | .ok () => none
    saveRemoteCache :=
      match o.respond url etag with
      | .ok ⟨_, newEtag, .ok content⟩ =>
        match (saveRemoteCache o.cache tag content newEtag o.now cache).2 with
        | .error e => some (message e)
        | .ok () => none
      | _ => none
    now := o.now.unixNano }

def updateOne (sources : List RuleSetSource) (message : RuleSetCacheError → String)
    (o : EntryCalls) (entry : Object) (cache : RuleSetCache) :
    Except ReadError (RuleSetCache × RuleSetUpdateResult) :=
  let tag := Object.stringAt entry "tag"
  let result : RuleSetUpdateResult := ⟨tag, ruleSetType entry, false, false, "", none⟩
  match ruleSetType entry with
  | "local" =>
    .ok (cache, updateLocal sources (outcome message (Object.stringAt entry "url") tag o cache)
      result)
  | "remote" => updateRemote message entry o result cache
  | _ => .ok (cache, result.fail errRuleSetNotUpdatable)

/-- One rule-set after the other, each over the cache that the one before has left. -/
def updateEach (sources : List RuleSetSource) (message : RuleSetCacheError → String) :
    (Nat → EntryCalls) → List Object → RuleSetCache → RuleSetUpdateResponse →
      RuleSetCache × Except ReadError RuleSetUpdateResponse
  | _, [], cache, resp => (cache, .ok resp)
  | calls, entry :: entries, cache, resp =>
    match updateOne sources message (calls 0) entry cache with
    | .error e => (cache, .error e)
    | .ok (cache, result) =>
      updateEach sources message (fun i => calls (i + 1)) entries cache (resp.count result)

/-- What an update leaves, and what it returns unless it panics. -/
structure Updated (Bytes : Type*) where
  kernel : Kernel Bytes
  cache : RuleSetCache
  returned : Except ReadError (RuleSetUpdateResponse × Except RuleSetUpdateError Unit)

/-- A panic leaves the kernel as the stop has left it. -/
def update (u : RuleSetUpdater Bytes) (codec : JSONCodec Bytes) (toLower : Char → Char)
    (message : RuleSetCacheError → String) (configFile : Option Bytes)
    (req : RuleSetUpdateRequest) (calls : Nat → EntryCalls) (k : Kernel Bytes)
    (cache : RuleSetCache) : Updated Bytes :=
  match RuleSetUpdater.loadConfig codec configFile with
  | .error e => ⟨k, cache, .ok (emptyResponse, .error e)⟩
  | .ok cfg =>
    let selected := selectRuleSets toLower (ruleSetEntries cfg) req
    match u.stopKernel (selected.any RuleSetUpdater.isRemote) k with
    | (k, .error e) => ⟨k, cache, .ok (emptyResponse, .error e)⟩
    | (k, .ok stopped) =>
      match updateEach u.sources message calls selected cache emptyResponse with
      | (cache, .error e) => ⟨k, cache, .error e⟩
      | (cache, .ok resp) =>
        match u.startKernel stopped k with
        | (k, .error e) => ⟨k, cache, .ok (resp, .error e)⟩
        | (k, .ok restarted) => ⟨k, cache, .ok ({ resp with restarted := restarted }, .ok ())⟩

/-- What an update of a remote rule-set reports is what one without the cache reports. -/
theorem updateRemote_result {message : RuleSetCacheError → String} {entry : Object}
    {o : EntryCalls} {result result' : RuleSetUpdateResult} {cache cache' : RuleSetCache}
    (h : updateRemote message entry o result cache = .ok (cache', result')) :
    result' = Core.updateRemote entry
      (outcome message (Object.stringAt entry "url") result.tag o cache) result := by
  unfold updateRemote at h
  unfold Core.updateRemote outcome
  dsimp only at h ⊢
  by_cases hurl : trimSpace (Object.stringAt entry "url") = ""
  · rw [if_pos hurl] at h ⊢
    cases h
    rfl
  rw [if_neg hurl] at h ⊢
  cases hetag : rememberedEtag o.openReadOnlyFails result.tag cache with
  | error e =>
    rw [hetag] at h
    cases h
  | ok etag =>
    rw [hetag] at h
    simp only [Except.toOption, Option.getD_some] at h ⊢
    cases hrequest : o.request with
    | some err =>
      rw [hrequest] at h
      cases h
      rfl
    | none =>
      rw [hrequest] at h
      cases hrespond : o.respond (Object.stringAt entry "url") etag with
      | error err =>
        rw [hrespond] at h
        cases h
        rfl
      | ok resp =>
        rw [hrespond] at h
        obtain ⟨statusCode, newEtag, body⟩ := resp
        simp only [Except.map] at h ⊢
        by_cases h304 : statusCode = 304
        · subst h304
          rw [if_pos rfl] at h
          unfold updateNotModified at h
          rcases htouch : touchRemoteCache o.cache result.tag o.now cache with ⟨c, e | _⟩
          · rw [htouch] at h
            cases e with
            | decode e => cases e <;> cases h <;> rfl
            | _ => cases h; rfl
          · rw [htouch] at h
            cases h
            rfl
        · rw [if_neg h304] at h
          by_cases h200 : statusCode = 200
          · subst h200
            rw [if_pos rfl] at h
            unfold updateContent at h
            cases body with
            | error err =>
              cases h
              rfl
            | ok content =>
              dsimp only at h ⊢
              cases hlength : content.1.length with
              | zero =>
                rw [if_pos hlength] at h
                cases h
                rfl
              | succ n =>
                rw [if_neg (by omega)] at h
                rcases hsave : saveRemoteCache o.cache result.tag content newEtag o.now cache with
                  ⟨c, e | _⟩
                · rw [hsave] at h
                  cases h
                  rfl
                · rw [hsave] at h
                  cases h
                  rfl
          · rw [if_neg h200] at h
            cases h
            split <;> simp_all

theorem updateOne_result {sources : List RuleSetSource} {message : RuleSetCacheError → String}
    {entry : Object} {o : EntryCalls} {result' : RuleSetUpdateResult}
    {cache cache' : RuleSetCache}
    (h : updateOne sources message o entry cache = .ok (cache', result')) :
    result' = Core.updateOne sources (outcome message (Object.stringAt entry "url")
      (Object.stringAt entry "tag") o cache) entry := by
  unfold updateOne at h
  dsimp only at h
  split at h
  · rename_i hlocal
    cases h
    simp only [Core.updateOne, hlocal]
  · rename_i hremote
    rw [updateRemote_result h]
    simp only [Core.updateOne, hremote]
  · rename_i hlocal hremote
    cases h
    unfold Core.updateOne
    dsimp only
    split
    · exact absurd ‹_› hlocal
    · exact absurd ‹_› hremote
    · rfl

theorem updateEach_results (sources : List RuleSetSource) (message : RuleSetCacheError → String)
    (calls : Nat → EntryCalls) (entries : List Object) (cache : RuleSetCache)
    {resp resp' : RuleSetUpdateResponse}
    (h : (updateEach sources message calls entries cache resp).2 = .ok resp') :
    ∃ outcomes : Nat → UpdateOutcome, resp' = (entries.mapIdx fun i entry =>
      Core.updateOne sources (outcomes i) entry).foldl RuleSetUpdateResponse.count resp := by
  induction entries generalizing calls cache resp with
  | nil =>
    cases h
    exact ⟨fun i => outcome message "" "" (calls i) cache, rfl⟩
  | cons entry entries ih =>
    rw [updateEach] at h
    rcases hone : updateOne sources message (calls 0) entry cache with e | ⟨cache', result⟩
    · rw [hone] at h
      cases h
    · rw [hone] at h
      obtain ⟨outcomes, hrest⟩ := ih _ cache' h
      refine ⟨fun i => i.casesOn (outcome message (Object.stringAt entry "url")
        (Object.stringAt entry "tag") (calls 0) cache) outcomes, ?_⟩
      rw [List.mapIdx_cons, List.foldl_cons, hrest, updateOne_result hone]
      rfl

/-- An update that returns is an update without the cache, for outcomes that the cache decides. -/
theorem update_returned (u : RuleSetUpdater Bytes) (codec : JSONCodec Bytes)
    (toLower : Char → Char) (message : RuleSetCacheError → String) (configFile : Option Bytes)
    (req : RuleSetUpdateRequest) (calls : Nat → EntryCalls) (k : Kernel Bytes)
    (cache : RuleSetCache) {returned : RuleSetUpdateResponse × Except RuleSetUpdateError Unit}
    (h : (update u codec toLower message configFile req calls k cache).returned = .ok returned) :
    ∃ outcomes : Nat → UpdateOutcome,
      u.update codec toLower configFile req outcomes k =
        ((update u codec toLower message configFile req calls k cache).kernel, returned) := by
  have houtcome : Nonempty (Nat → UpdateOutcome) :=
    ⟨fun i => outcome message "" "" (calls i) cache⟩
  unfold update at h ⊢
  unfold RuleSetUpdater.update
  cases hload : RuleSetUpdater.loadConfig codec configFile with
  | error e =>
    rw [hload] at h
    cases h
    exact ⟨houtcome.some, rfl⟩
  | ok cfg =>
    rw [hload] at h
    dsimp only at h ⊢
    rcases hstop : u.stopKernel ((selectRuleSets toLower (ruleSetEntries cfg) req).any
        RuleSetUpdater.isRemote) k with ⟨k₁, e | stopped⟩
    · rw [hstop] at h
      cases h
      exact ⟨houtcome.some, rfl⟩
    · rw [hstop] at h
      dsimp only at h ⊢
      rcases heach : updateEach u.sources message calls
          (selectRuleSets toLower (ruleSetEntries cfg) req) cache emptyResponse with
        ⟨cache', e | resp⟩
      · rw [heach] at h
        cases h
      · rw [heach] at h
        obtain ⟨outcomes, hresp⟩ := updateEach_results u.sources message calls _ cache
          (congrArg Prod.snd heach)
        refine ⟨outcomes, ?_⟩
        rw [← hresp]
        dsimp only at h ⊢
        rcases hstart : u.startKernel stopped k₁ with ⟨k₂, e | restarted⟩
        · rw [hstart] at h
          cases h
          rfl
        · rw [hstart] at h
          cases h
          rfl

structure RuleSetStatusItem where
  tag : String
  type : String
  format : String
  path : String
  url : String
  updateInterval : String
  downloadDetour : String
  builtin : Bool
  updatable : Bool
  lastUpdated : Option GoTime
  lastEtag : GoBytes
  fileSize : Nat
  note : String

def builtinRemoteRuleSetTags : List String :=
  ["geosite-cn", "geoip-cn", "geosite-google-play", "geosite-category-ads-all"]

def defaultRemoteRuleSetInterval : String := "1d"

def localStatus (sources : List RuleSetSource) (stat : String → Option (GoTime × Nat))
    (item : RuleSetStatusItem) : RuleSetStatusItem :=
  let builtin := (sourceByTag sources item.tag).isSome
  let item := { item with
    builtin := builtin
    updatable := builtin
    note := if builtin then "" else "custom local rule-set is managed by file path" }
  if item.path = "" then item
  else
    match stat item.path with
    | none => item
    | some (modTime, size) => { item with lastUpdated := some modTime, fileSize := size }

/-- There is no cache to look into when it cannot be opened. -/
def remoteStatus (openReadOnlyFails : Bool) (cache : RuleSetCache) (item : RuleSetStatusItem) :
    Except ReadError RuleSetStatusItem :=
  let item := { item with
    builtin := builtinRemoteRuleSetTags.contains item.tag
    updatable := item.url != ""
    updateInterval :=
      if item.updateInterval = "" then defaultRemoteRuleSetInterval else item.updateInterval }
  if openReadOnlyFails then .ok item
  else
    match loadRuleSetCache item.tag cache with
    | .error e => .error e
    | .ok none => .ok item
    | .ok (some saved) => .ok { item with
        lastUpdated := some saved.lastUpdated
        lastEtag := saved.lastEtag
        fileSize := saved.content.1.length }

/-- `stat` gives the time and the size of a file. -/
def statusOf (sources : List RuleSetSource) (stat : String → Option (GoTime × Nat))
    (openReadOnlyFails : Bool) (cache : RuleSetCache) (entry : Object) :
    Except ReadError RuleSetStatusItem :=
  let item : RuleSetStatusItem := {
    tag := Object.stringAt entry "tag"
    type := ruleSetType entry
    format := Object.stringAt entry "format"
    path := Object.stringAt entry "path"
    url := Object.stringAt entry "url"
    updateInterval := Object.stringAt entry "update_interval"
    downloadDetour := Object.stringAt entry "download_detour"
    builtin := false
    updatable := false
    lastUpdated := none
    lastEtag := noBytes
    fileSize := 0
    note := "" }
  match ruleSetType entry with
  | "local" => .ok (localStatus sources stat item)
  | "remote" => remoteStatus openReadOnlyFails cache item
  | _ => .ok { item with note := "inline rule-set has no remote update" }

def status (sources : List RuleSetSource) (codec : JSONCodec Bytes) (configFile : Option Bytes)
    (stat : String → Option (GoTime × Nat)) (openReadOnlyFails : Bool) (cache : RuleSetCache) :
    Except ReadError (Except RuleSetUpdateError (List RuleSetStatusItem)) :=
  match RuleSetUpdater.loadConfig codec configFile with
  | .error e => .ok (.error e)
  | .ok cfg =>
    ((ruleSetEntries cfg).mapM (statusOf sources stat openReadOnlyFails cache)).map .ok

end CachedUpdate
end Boxui.Core
