import Boxui.Core.RuleSetRemote
import Boxui.Library.Machine

/-! Histories of edits of the configuration, of changes on the servers and of updates of remote
rule-sets. The cache remembers an ETag for a tag, and a server confirms it for a URL. -/
namespace Boxui.Core
open GoValue GoBinary GoStrings Machine CachedUpdate

structure ServedRuleSet where
  content : GoBytes
  etag : GoBytes
  deriving DecidableEq

/-- What a server answers that knows conditional requests. -/
def ServedRuleSet.answer (served : ServedRuleSet) (ifNoneMatch : GoBytes) : RuleSetResponse :=
  if ifNoneMatch ≠ noBytes ∧ ifNoneMatch = served.etag then ⟨304, served.etag, .ok noBytes⟩
  else ⟨200, served.etag, .ok served.content⟩

/-- How the calls of an update turn out, the answer of the server apart. -/
structure UpdateCalls where
  openReadOnlyFails : Bool
  request : Option String
  send : Option String
  cache : RuleSetCacheOutcome
  now : GoTime

def UpdateCalls.toEntryCalls (calls : UpdateCalls) (served : String → ServedRuleSet) :
    EntryCalls where
  fetchAndConvert := none
  writeFile := none
  openReadOnlyFails := calls.openReadOnlyFails
  request := calls.request
  respond url ifNoneMatch :=
    match calls.send with
    | some err => .error err
    | none => .ok ((served url).answer ifNoneMatch)
  cache := calls.cache
  now := calls.now

/-- The configuration, the servers and the cache, and the URL that each record was saved from. -/
structure RuleSetHistory where
  cfg : Object
  served : String → ServedRuleSet
  cache : RuleSetCache
  origin : String → Option String

inductive RuleSetEvent where
  | edit (cfg : Object)
  | serve (served : String → ServedRuleSet)
  | update (index : Nat) (calls : UpdateCalls)

namespace RuleSetHistory

def remoteEntry (h : RuleSetHistory) (index : Nat) : Option Object :=
  (ruleSetEntries h.cfg)[index]?.filter fun entry => ruleSetType entry = "remote"

/-- The cache and the result of an update of a remote rule-set, unless there is none there or the
update panics. -/
def report (message : RuleSetCacheError → String) (h : RuleSetHistory) (entry : Object)
    (calls : UpdateCalls) : Except ReadError (RuleSetCache × RuleSetUpdateResult) :=
  CachedUpdate.updateRemote message entry (calls.toEntryCalls h.served)
    ⟨Object.stringAt entry "tag", "remote", false, false, "", none⟩ h.cache

def afterUpdate (message : RuleSetCacheError → String) (h : RuleSetHistory) (entry : Object)
    (calls : UpdateCalls) : RuleSetHistory :=
  match h.report message entry calls with
  | .error _ => h
  | .ok (cache, result) =>
    { h with
      cache := cache
      origin :=
        if result.ok && !result.notModified then
          Function.update h.origin (Object.stringAt entry "tag")
            (some (Object.stringAt entry "url"))
        else h.origin }

def next (message : RuleSetCacheError → String) (h : RuleSetHistory) :
    RuleSetEvent → RuleSetHistory
  | .edit cfg => { h with cfg := cfg }
  | .serve served => { h with served := served }
  | .update index calls =>
    match h.remoteEntry index with
    | none => h
    | some entry => h.afterUpdate message entry calls

/-- An update that reports success leaves under the tag what the URL serves. -/
def ReportsCurrent (message : RuleSetCacheError → String) (h : RuleSetHistory) :
    RuleSetEvent → Prop
  | .update index calls => ∀ entry cache result, h.remoteEntry index = some entry →
      h.report message entry calls = .ok (cache, result) → result.ok = true →
      ∃ saved, loadRuleSetCache (Object.stringAt entry "tag") cache = .ok (some saved) ∧
        saved.content = (h.served (Object.stringAt entry "url")).content
  | _ => True

/-- The URL of an entry has the ETag of the entry's record, and the calls turn out so that an
update finds that. -/
structure Confirmed (h : RuleSetHistory) (entry : Object) (calls : UpdateCalls)
    (saved : SavedRuleSetBinary) : Prop where
  url : trimSpace (Object.stringAt entry "url") ≠ ""
  reads : calls.openReadOnlyFails = false
  request : calls.request = none
  send : calls.send = none
  record : loadRuleSetCache (Object.stringAt entry "tag") h.cache = .ok (some saved)
  writes : calls.cache.openFails = true ∨ calls.cache.Stores (Object.stringAt entry "tag")
    (SavedRuleSetBinary.marshalBinary { saved with lastUpdated := calls.now })
  nonempty : saved.lastEtag ≠ noBytes
  current : saved.lastEtag = (h.served (Object.stringAt entry "url")).etag

/-- A record with the ETag of the URL has the content of the URL. -/
def NoCoincidence (h : RuleSetHistory) : RuleSetEvent → Prop
  | .update index calls => ∀ entry saved, h.remoteEntry index = some entry →
      h.Confirmed entry calls saved →
      saved.content = (h.served (Object.stringAt entry "url")).content
  | _ => True

variable (message : RuleSetCacheError → String) {h : RuleSetHistory} {entry : Object}
  {calls : UpdateCalls}

/-- The record stays when the server has confirmed it. -/
theorem report_confirmed {saved : SavedRuleSetBinary} (hconf : h.Confirmed entry calls saved) :
    ∃ cache result updated, h.report message entry calls = .ok (cache, result) ∧
      result.ok = true ∧ result.notModified = true ∧
      loadRuleSetCache (Object.stringAt entry "tag") cache =
        .ok (some { saved with lastUpdated := updated }) ∧
      ∀ other, other ≠ Object.stringAt entry "tag" →
        loadRuleSetCache other cache = loadRuleSetCache other h.cache := by
  have hanswer : (h.served (Object.stringAt entry "url")).answer saved.lastEtag =
      ⟨304, (h.served (Object.stringAt entry "url")).etag, .ok noBytes⟩ :=
    if_pos ⟨hconf.nonempty, hconf.current⟩
  unfold report CachedUpdate.updateRemote
  simp only [UpdateCalls.toEntryCalls, if_neg hconf.url, rememberedEtag, hconf.reads,
    Bool.false_eq_true, if_false, hconf.record, hconf.request, hconf.send, hanswer, if_true,
    CachedUpdate.updateNotModified]
  rcases touchRemoteCache_loaded calls.cache calls.now hconf.record with
    ⟨-, htouch⟩ | ⟨hopen, hfails, -⟩ | ⟨-, cache', htouch, hload, hother⟩
  · rw [htouch]
    exact ⟨h.cache, _, saved.lastUpdated, rfl, rfl, rfl, hconf.record, fun _ _ => rfl⟩
  · rcases hconf.writes with hclosed | hstores
    · rw [hopen] at hclosed
      cases hclosed
    · exact absurd hstores hfails
  · rw [htouch]
    exact ⟨cache', _, calls.now.truncate, rfl, rfl, rfl, hload, hother⟩

/-- The calls before the answer go through, with this ETag in the request. -/
structure Asked (h : RuleSetHistory) (entry : Object) (calls : UpdateCalls) (etag : GoBytes) :
    Prop where
  url : trimSpace (Object.stringAt entry "url") ≠ ""
  etag : rememberedEtag calls.openReadOnlyFails (Object.stringAt entry "tag") h.cache = .ok etag
  request : calls.request = none
  send : calls.send = none

/-- An update that does not get to ask the server panics, or reports an error and leaves the
cache. -/
theorem report_unasked (hasked : ∀ etag, ¬h.Asked entry calls etag) :
    (∀ r, h.report message entry calls ≠ .ok r) ∨
    ∃ result, h.report message entry calls = .ok (h.cache, result) ∧ result.ok = false := by
  have hreport : h.report message entry calls = CachedUpdate.updateRemote message entry
    (calls.toEntryCalls h.served)
    ⟨Object.stringAt entry "tag", "remote", false, false, "", none⟩ h.cache := rfl
  unfold CachedUpdate.updateRemote at hreport
  dsimp only [UpdateCalls.toEntryCalls] at hreport
  by_cases hurl : trimSpace (Object.stringAt entry "url") = ""
  · rw [if_pos hurl] at hreport
    exact .inr ⟨_, hreport, rfl⟩
  rw [if_neg hurl] at hreport
  cases hetag : rememberedEtag calls.openReadOnlyFails (Object.stringAt entry "tag") h.cache with
  | error e =>
    rw [hetag] at hreport
    exact .inl (fun r hr => by rw [hreport] at hr; cases hr)
  | ok etag =>
    rw [hetag] at hreport
    dsimp only at hreport
    cases hrequest : calls.request with
    | some err =>
      rw [hrequest] at hreport
      exact .inr ⟨_, hreport, rfl⟩
    | none =>
      rw [hrequest] at hreport
      cases hsend : calls.send with
      | some err =>
        rw [hsend] at hreport
        exact .inr ⟨_, hreport, rfl⟩
      | none => exact absurd ⟨hurl, hetag, hrequest, hsend⟩ (hasked etag)

/-- A confirmed record that the database does not take back is an error. -/
theorem report_untouched {saved : SavedRuleSetBinary}
    (hasked : h.Asked entry calls saved.lastEtag)
    (hrecord : loadRuleSetCache (Object.stringAt entry "tag") h.cache = .ok (some saved))
    (hsame : saved.lastEtag ≠ noBytes ∧
      saved.lastEtag = (h.served (Object.stringAt entry "url")).etag)
    (hopen : ¬calls.cache.openFails = true)
    (hstores : ¬calls.cache.Stores (Object.stringAt entry "tag")
      (SavedRuleSetBinary.marshalBinary { saved with lastUpdated := calls.now })) :
    ∃ result, h.report message entry calls = .ok (h.cache, result) ∧ result.ok = false := by
  have hanswer : (h.served (Object.stringAt entry "url")).answer saved.lastEtag =
      ⟨304, (h.served (Object.stringAt entry "url")).etag, .ok noBytes⟩ := if_pos hsame
  unfold report CachedUpdate.updateRemote
  simp only [UpdateCalls.toEntryCalls, if_neg hasked.url, hasked.etag, hasked.request,
    hasked.send, hanswer, if_true, CachedUpdate.updateNotModified]
  rcases touchRemoteCache_loaded calls.cache calls.now hrecord with
    ⟨hclosed, -⟩ | ⟨-, -, e, htouch, hdisabled, hpanic⟩ | ⟨hstored, -⟩
  · exact absurd hclosed hopen
  · rw [htouch]
    refine ⟨RuleSetUpdateResult.fail
      ⟨Object.stringAt entry "tag", "remote", false, false, "", none⟩ (message e), ?_, rfl⟩
    cases e with
    | cacheDisabled => exact absurd rfl hdisabled
    | decode e =>
      cases e with
      | makeslice => exact absurd rfl hpanic
      | _ => rfl
    | _ => rfl
  · exact absurd hstored hstores

/-- An answer with new content is saved when the database takes it. -/
theorem report_saved {etag : GoBytes} (hasked : h.Asked entry calls etag)
    (hnew : ¬(etag ≠ noBytes ∧ etag = (h.served (Object.stringAt entry "url")).etag))
    (hcontent : (h.served (Object.stringAt entry "url")).content.1.length ≠ 0) :
    h.report message entry calls =
      .ok (match saveRemoteCache calls.cache (Object.stringAt entry "tag")
          (h.served (Object.stringAt entry "url")).content
          (h.served (Object.stringAt entry "url")).etag calls.now h.cache with
        | (cache, .error e) => (cache,
          ⟨Object.stringAt entry "tag", "remote", false, false, message e, none⟩)
        | (cache, .ok ()) => (cache,
          ⟨Object.stringAt entry "tag", "remote", true, false, "", some calls.now.unixNano⟩)) := by
  have hanswer : (h.served (Object.stringAt entry "url")).answer etag =
      ⟨200, (h.served (Object.stringAt entry "url")).etag,
        .ok (h.served (Object.stringAt entry "url")).content⟩ := if_neg hnew
  unfold report CachedUpdate.updateRemote
  simp only [UpdateCalls.toEntryCalls, if_neg hasked.url, hasked.etag, hasked.request,
    hasked.send, hanswer, CachedUpdate.updateContent, if_neg hcontent]
  rfl

/-- An answer without content is an error. -/
theorem report_empty {etag : GoBytes} (hasked : h.Asked entry calls etag)
    (hnew : ¬(etag ≠ noBytes ∧ etag = (h.served (Object.stringAt entry "url")).etag))
    (hempty : (h.served (Object.stringAt entry "url")).content.1.length = 0) :
    ∃ result, h.report message entry calls = .ok (h.cache, result) ∧ result.ok = false := by
  have hanswer : (h.served (Object.stringAt entry "url")).answer etag =
      ⟨200, (h.served (Object.stringAt entry "url")).etag,
        .ok (h.served (Object.stringAt entry "url")).content⟩ := if_neg hnew
  unfold report CachedUpdate.updateRemote
  simp only [UpdateCalls.toEntryCalls, if_neg hasked.url, hasked.etag, hasked.request,
    hasked.send, hanswer, CachedUpdate.updateContent, if_pos hempty]
  exact ⟨_, rfl, rfl⟩

/-- Every other update panics, reports an error and leaves the cache, or saves what the URL
serves. -/
theorem report_unconfirmed (hconf : ∀ saved, ¬h.Confirmed entry calls saved) :
    (∀ r, h.report message entry calls ≠ .ok r) ∨
    (∃ result, h.report message entry calls = .ok (h.cache, result) ∧ result.ok = false) ∨
    ∃ cache result updated, h.report message entry calls = .ok (cache, result) ∧
      result.ok = true ∧ result.notModified = false ∧
      loadRuleSetCache (Object.stringAt entry "tag") cache =
        .ok (some ⟨(h.served (Object.stringAt entry "url")).content, updated,
          (h.served (Object.stringAt entry "url")).etag⟩) ∧
      ∀ other, other ≠ Object.stringAt entry "tag" →
        loadRuleSetCache other cache = loadRuleSetCache other h.cache := by
  by_cases hasked : ∃ etag, h.Asked entry calls etag
  · obtain ⟨etag, hasked⟩ := hasked
    by_cases hsame : etag ≠ noBytes ∧ etag = (h.served (Object.stringAt entry "url")).etag
    · -- the ETag is that of a record, so the touch of this record has failed
      obtain ⟨hreads, saved, hrecord, rfl⟩ := rememberedEtag_ne hasked.etag hsame.1
      have hwrites : ¬(calls.cache.openFails = true ∨ calls.cache.Stores
          (Object.stringAt entry "tag") (SavedRuleSetBinary.marshalBinary
            { saved with lastUpdated := calls.now })) := fun hwrites =>
        hconf saved ⟨hasked.url, hreads, hasked.request, hasked.send, hrecord, hwrites,
          hsame.1, hsame.2⟩
      obtain ⟨hopen, hstores⟩ := not_or.mp hwrites
      exact .inr (.inl (report_untouched message hasked hrecord hsame hopen hstores))
    · by_cases hempty : (h.served (Object.stringAt entry "url")).content.1.length = 0
      · exact .inr (.inl (report_empty message hasked hsame hempty))
      · have hsaved := report_saved message hasked hsame hempty
        rcases saveRemoteCache_cases calls.cache (Object.stringAt entry "tag")
            (h.served (Object.stringAt entry "url")).content
            (h.served (Object.stringAt entry "url")).etag calls.now h.cache with
          ⟨-, e, hsave⟩ | ⟨-, hok, hload, hother⟩
        · rw [hsave] at hsaved
          exact .inr (.inl ⟨_, hsaved, rfl⟩)
        · rcases hsave : saveRemoteCache calls.cache (Object.stringAt entry "tag")
              (h.served (Object.stringAt entry "url")).content
              (h.served (Object.stringAt entry "url")).etag calls.now h.cache with ⟨cache, r⟩
          rw [hsave] at hok hload hother hsaved
          dsimp only at hok
          rw [hok] at hsaved
          exact .inr (.inr ⟨cache, _, _, hsaved, rfl, rfl, hload, hother⟩)
  · rcases report_unasked message (not_exists.mp hasked) with hpanic | hfailed
    · exact .inl hpanic
    · exact .inr (.inl hfailed)

/-- An update reports what is current exactly when its record, if the server confirms it, is. -/
theorem reportsCurrent_iff (message : RuleSetCacheError → String) (h : RuleSetHistory)
    (event : RuleSetEvent) : h.ReportsCurrent message event ↔ h.NoCoincidence event := by
  cases event with
  | edit cfg => exact Iff.rfl
  | serve served => exact Iff.rfl
  | update index calls =>
    constructor
    · intro hcurrent entry saved hentry hconf
      obtain ⟨cache, result, updated, hreport, hok, -, hload, -⟩ :=
        report_confirmed message hconf
      obtain ⟨saved', hload', hcontent⟩ := hcurrent entry cache result hentry hreport hok
      rw [hload] at hload'
      cases hload'
      exact hcontent
    · intro hident entry cache result hentry hreport hok
      by_cases hconf : ∃ saved, h.Confirmed entry calls saved
      · obtain ⟨saved, hconf⟩ := hconf
        obtain ⟨cache', result', updated, hreport', -, -, hload, -⟩ :=
          report_confirmed message hconf
        rw [hreport] at hreport'
        cases hreport'
        exact ⟨_, hload, hident entry saved hentry hconf⟩
      · rcases report_unconfirmed message (not_exists.mp hconf) with
          hpanic | ⟨result', hfailed, hnot⟩ | ⟨cache', result', updated, hsaved, -, -, hload, -⟩
        · exact absurd hreport (hpanic _)
        · rw [hreport] at hfailed
          cases hfailed
          rw [hok] at hnot
          cases hnot
        · rw [hreport] at hsaved
          cases hsaved
          exact ⟨_, hload, rfl⟩

/-- An ETag stands for one content of its URL. -/
def Validators (ident : String → GoBytes → GoBytes) (h : RuleSetHistory) (_ : RuleSetEvent) :
    Prop :=
  ∀ url, (h.served url).etag ≠ noBytes → (h.served url).content = ident url (h.served url).etag

/-- Each record has the content that its ETag stands for at the URL it was saved from. -/
def Traced (ident : String → GoBytes → GoBytes) (h : RuleSetHistory) : Prop :=
  ∀ tag saved, loadRuleSetCache tag h.cache = .ok (some saved) → ∃ url, h.origin tag = some url ∧
    (saved.lastEtag ≠ noBytes → saved.content = ident url saved.lastEtag)

/-- Before anything is cached. -/
def start (cfg : Object) (served : String → ServedRuleSet) : RuleSetHistory :=
  ⟨cfg, served, none, fun _ => none⟩

theorem traced_start (ident : String → GoBytes → GoBytes) (cfg : Object)
    (served : String → ServedRuleSet) : Traced ident (start cfg served) := by
  intro tag saved hload
  cases hload

theorem traced_next (message : RuleSetCacheError → String) {ident : String → GoBytes → GoBytes}
    {h : RuleSetHistory} {event : RuleSetEvent} (hident : h.Validators ident event)
    (htraced : h.Traced ident) : (h.next message event).Traced ident := by
  cases event with
  | edit cfg => exact htraced
  | serve served => exact htraced
  | update index calls =>
    unfold next
    dsimp only
    cases hentry : h.remoteEntry index with
    | none => exact htraced
    | some entry =>
      dsimp only
      unfold afterUpdate
      by_cases hconf : ∃ saved, h.Confirmed entry calls saved
      · obtain ⟨saved, hconf⟩ := hconf
        obtain ⟨cache, result, updated, hreport, hok, hmodified, hload, hother⟩ :=
          report_confirmed message hconf
        rw [hreport]
        intro tag saved' hsaved
        simp only [hok, hmodified, Bool.not_true, Bool.and_false, Bool.false_eq_true,
          if_false] at hsaved ⊢
        by_cases htag : tag = Object.stringAt entry "tag"
        · subst htag
          rw [hload] at hsaved
          cases hsaved
          exact htraced _ saved hconf.record
        · rw [hother tag htag] at hsaved
          exact htraced tag saved' hsaved
      · rcases report_unconfirmed message (not_exists.mp hconf) with
          hpanic | ⟨result, hfailed, hnot⟩ |
            ⟨cache, result, updated, hsaved, hok, hmodified, hload, hother⟩
        · cases hreport : h.report message entry calls with
          | error e => exact htraced
          | ok r => exact absurd hreport (hpanic r)
        · rw [hfailed]
          simp only [hnot, Bool.false_and, Bool.false_eq_true, if_false]
          exact htraced
        · rw [hsaved]
          intro tag saved' hsaved'
          simp only [hok, hmodified, Bool.not_false, Bool.and_self, if_true] at hsaved' ⊢
          by_cases htag : tag = Object.stringAt entry "tag"
          · subst htag
            rw [hload] at hsaved'
            cases hsaved'
            exact ⟨_, Function.update_self .., hident _⟩
          · rw [Function.update_of_ne htag]
            rw [hother tag htag] at hsaved'
            exact htraced tag saved' hsaved'

/-- A record that was saved from another URL and has the ETag of the entry's has its content. -/
def NoForeignCoincidence (h : RuleSetHistory) : RuleSetEvent → Prop
  | .update index calls => ∀ entry saved, h.remoteEntry index = some entry →
      h.Confirmed entry calls saved →
      h.origin (Object.stringAt entry "tag") ≠ some (Object.stringAt entry "url") →
      saved.content = (h.served (Object.stringAt entry "url")).content
  | _ => True

theorem noCoincidence_iff {ident : String → GoBytes → GoBytes} {h : RuleSetHistory}
    {event : RuleSetEvent} (hident : h.Validators ident event) (htraced : h.Traced ident) :
    h.NoCoincidence event ↔ h.NoForeignCoincidence event := by
  cases event with
  | edit cfg => exact Iff.rfl
  | serve served => exact Iff.rfl
  | update index calls =>
    constructor
    · intro hsame entry saved hentry hconf _
      exact hsame entry saved hentry hconf
    · intro hforeign entry saved hentry hconf
      by_cases horigin : h.origin (Object.stringAt entry "tag") =
          some (Object.stringAt entry "url")
      · obtain ⟨url, hurl, hcontent⟩ := htraced _ saved hconf.record
        obtain rfl : Object.stringAt entry "url" = url := Option.some.inj (horigin.symm.trans hurl)
        rw [hcontent hconf.nonempty, hconf.current, hident]
        rw [← hconf.current]
        exact hconf.nonempty
      · exact hforeign entry saved hentry hconf horigin

/-- In every history the updates report what is current exactly when no record has the ETag of its
entry's URL and another content. Where an ETag stands for one content of its URL, only the records
saved from another URL matter. -/
theorem reportsCurrent_run (message : RuleSetCacheError → String) (cfg : Object)
    (served : String → ServedRuleSet) (events : List RuleSetEvent) :
    (Along (next message) (ReportsCurrent message) (start cfg served) events ↔
      Along (next message) NoCoincidence (start cfg served) events) ∧
    ∀ ident, Along (next message) (Validators ident) (start cfg served) events →
      (Along (next message) (ReportsCurrent message) (start cfg served) events ↔
        Along (next message) NoForeignCoincidence (start cfg served) events) := by
  have hiff : Along (next message) (ReportsCurrent message) (start cfg served) events ↔
      Along (next message) NoCoincidence (start cfg served) events :=
    Along.congr (reportsCurrent_iff message) (start cfg served) events
  refine ⟨hiff, ?_⟩
  intro ident hident
  rw [hiff]
  generalize hstart : start cfg served = h at hident ⊢
  have htraced : h.Traced ident := hstart ▸ traced_start ident cfg served
  clear hiff hstart
  induction events generalizing h with
  | nil => exact Iff.rfl
  | cons event events ih =>
    exact and_congr (noCoincidence_iff hident.1 htraced)
      (ih _ hident.2 (traced_next message hident.1 htraced))

/-- A configuration with one remote rule-set. -/
def geoConfig (url : String) : Object :=
  (∅ : Object).insert "route" (.obj [("rule_set", .list
    [.obj [("tag", .str "geo"), ("type", .str "remote"), ("url", .str url)]])])

def geoEntry (url : String) : Object :=
  .ofList [("tag", .str "geo"), ("type", .str "remote"), ("url", .str url)] compare

/-- Two servers with one ETag for different contents. -/
def twoServers (url : String) : ServedRuleSet :=
  if url = "https://a.example/geo.srs" then ⟨⟨[1], by decide⟩, ⟨[120], by decide⟩⟩
  else ⟨⟨[2], by decide⟩, ⟨[120], by decide⟩⟩

def cleanCalls : UpdateCalls := ⟨false, none, none, ⟨false, false⟩, GoTime.unix 0⟩

/-- An update from one server, and another when the entry has the URL of the other. -/
def movedRuleSet : List RuleSetEvent :=
  [.update 0 cleanCalls, .edit (geoConfig "https://b.example/geo.srs"), .update 0 cleanCalls]

def aHistory : RuleSetHistory := start (geoConfig "https://a.example/geo.srs") twoServers

/-- The record of the first server. -/
def aRecord : SavedRuleSetBinary := ⟨⟨[1], by decide⟩, GoTime.unix 0, ⟨[120], by decide⟩⟩

theorem stores_aRecord : cleanCalls.cache.Stores "geo" aRecord.marshalBinary where
  opens := rfl
  key := by decide
  keySize := by decide
  valueSize := by
    simp [aRecord, SavedRuleSetBinary.marshalBinary, writeBytes, writeInt64, putUvarint,
      maxValueSize]
  commits := rfl

theorem aHistory_first (message : RuleSetCacheError → String) :
    (aHistory.next message (.update 0 cleanCalls)).served = twoServers ∧
      loadRuleSetCache "geo" (aHistory.next message (.update 0 cleanCalls)).cache =
        .ok (some aRecord) := by
  have hnext : aHistory.next message (.update 0 cleanCalls) =
      aHistory.afterUpdate message (geoEntry "https://a.example/geo.srs") cleanCalls := rfl
  have hreport : aHistory.report message (geoEntry "https://a.example/geo.srs") cleanCalls = _ :=
    report_saved _ ⟨by decide, rfl, rfl, rfl⟩ (by decide) (by decide)
  rw [hnext, afterUpdate, hreport]
  rcases saveRemoteCache_cases cleanCalls.cache "geo" aRecord.content aRecord.lastEtag
      cleanCalls.now aHistory.cache with ⟨hfails, -⟩ | ⟨-, hok, hload, -⟩
  · exact absurd stores_aRecord hfails
  · rcases hsave : saveRemoteCache cleanCalls.cache "geo" aRecord.content aRecord.lastEtag
        cleanCalls.now aHistory.cache with ⟨cache, r⟩
    rw [hsave] at hok hload
    dsimp only at hok
    subst hok
    have hsave' : saveRemoteCache cleanCalls.cache
        (Object.stringAt (geoEntry "https://a.example/geo.srs") "tag")
        (aHistory.served (Object.stringAt (geoEntry "https://a.example/geo.srs") "url")).content
        (aHistory.served (Object.stringAt (geoEntry "https://a.example/geo.srs") "url")).etag
        cleanCalls.now aHistory.cache = (cache, .ok ()) := hsave
    rw [hsave']
    exact ⟨rfl, hload⟩

/-- The second update reports success and leaves what the first server serves. -/
theorem movedRuleSet_not_current :
    ¬Along (next fun _ => "") (ReportsCurrent fun _ => "") aHistory movedRuleSet := by
  rintro ⟨-, -, hlast, -⟩
  obtain ⟨hserved, hload⟩ := aHistory_first fun _ => ""
  have hconf : ((aHistory.next (fun _ => "") (.update 0 cleanCalls)).next (fun _ => "")
      (.edit (geoConfig "https://b.example/geo.srs"))).Confirmed
        (geoEntry "https://b.example/geo.srs") cleanCalls aRecord := by
    constructor
    · decide
    · rfl
    · rfl
    · rfl
    · exact hload
    · exact .inr stores_aRecord
    · decide
    · change _ = (twoServers _).etag
      decide
  have hcontent := (reportsCurrent_iff _ _ _).mp hlast _ _ rfl hconf
  exact absurd hcontent (by decide)

end RuleSetHistory
end Boxui.Core
