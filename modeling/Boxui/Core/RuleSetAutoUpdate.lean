import Mathlib.Data.List.ReduceOption
import Boxui.Core.RuleSetRemote
import Boxui.Library.GoDuration
import Boxui.Library.Machine

/-! The automatic update of the built-in rule-sets: its setting, the loops that `Start` and `Stop`
begin and cancel, and what a tick does. -/
namespace Boxui.Core
open GoValue GoStrings GoDuration

variable {Bytes : Type*}

structure RuleSetAutoUpdate where
  enabled : Bool
  interval : String
  deriving DecidableEq

def minute : ℤ := 60 * 1000000000
def hour : ℤ := 60 * minute

namespace RuleSetAutoUpdate

def defaultRuleSetAutoInterval : String := "24h"

def defaultRuleSetAutoUpdate : RuleSetAutoUpdate := ⟨false, defaultRuleSetAutoInterval⟩

def validateRuleSetAutoUpdate (cfg : RuleSetAutoUpdate) : Except String Unit :=
  if trimSpace cfg.interval = "" then .error "interval is required"
  else
    match parseDuration cfg.interval.toList with
    | none => .error "interval must be a positive duration such as 24h"
    | some d =>
      if d ≤ 0 then .error "interval must be a positive duration such as 24h" else .ok ()

def toObject (cfg : RuleSetAutoUpdate) : Object :=
  ((∅ : Object).insert "enabled" (.bool cfg.enabled)).insert "interval" (.str cfg.interval)

/-- A field that is missing or null keeps its zero value, one of another type is an error. -/
def ofObject (fields : Object) : Option RuleSetAutoUpdate := do
  let enabled ← match fields["enabled"]? with
    | none | some .null => some false
    | some (.bool b) => some b
    | some _ => none
  let interval ← match fields["interval"]? with
    | none | some .null => some ""
    | some (.str s) => some s
    | some _ => none
  return ⟨enabled, interval⟩

def ofValue : Value → Option RuleSetAutoUpdate
  | .null => some ⟨false, ""⟩
  | doc => doc.asMap?.bind ofObject

/-- `SettingsManager.RuleSetAutoUpdate`, where nothing is stored at first. -/
def ruleSetAutoUpdate (codec : JSONCodec Bytes) (stored : Option Bytes) :
    Option RuleSetAutoUpdate :=
  match stored with
  | none => some defaultRuleSetAutoUpdate
  | some data =>
    ((codec.unmarshal data).bind ofValue).map fun cfg =>
      if cfg.interval = "" then { cfg with interval := defaultRuleSetAutoInterval } else cfg

/-- `SetRuleSetAutoUpdate`; the write can fail. -/
def setRuleSetAutoUpdate (codec : JSONCodec Bytes) (fails : Bool) (cfg : RuleSetAutoUpdate)
    (stored : Option Bytes) : Option Bytes × Except String Unit :=
  match validateRuleSetAutoUpdate cfg with
  | .error e => (stored, .error e)
  | .ok () =>
    if fails then (stored, .error "database")
    else (some (codec.marshal cfg.toObject.toValue), .ok ())

def nextDelay (codec : JSONCodec Bytes) (stored : Option Bytes) : ℤ :=
  match ruleSetAutoUpdate codec stored with
  | none => hour
  | some cfg =>
    if cfg.enabled = false then hour
    else
      match parseDuration cfg.interval.toList with
      | none => hour
      | some d => if d ≤ 0 then hour else if d < minute then minute else d

end RuleSetAutoUpdate

def builtinLocalRuleSetTags : List String :=
  ["loyalsoldier-direct", "loyalsoldier-proxy", "loyalsoldier-reject"]

inductive LoopPhase where
  | waiting (delay : ℤ)
  | ticking
  | ended
  deriving DecidableEq

/-- A goroutine of `loop`, and whether its context is cancelled. -/
structure UpdateLoop where
  cancelled : Bool
  phase : LoopPhase

/-- The updater with the loops it has ever begun, and what the loops and the other parts of the
program share: the setting, the configuration, the kernel and the cache. -/
structure RuleSetAutoUpdater (Bytes : Type*) where
  running : Bool
  /-- The loop whose context the cancel function belongs to. -/
  cancel : Option ℕ
  loops : List UpdateLoop
  stored : Option Bytes
  configFile : Option Bytes
  kernel : Kernel Bytes
  cache : RuleSetCache

/-- A tick is the step of the timer: `calls` says how the calls of its update turn out, and `rules`
what the downloads are converted to. -/
inductive AutoUpdateStep (Bytes : Type*) where
  | start
  | stop
  | timer (loop : ℕ) (calls : ℕ → EntryCalls) (rules : ℕ → Bytes)
  | reset (loop : ℕ)
  | done (loop : ℕ)
  | setAutoUpdate (fails : Bool) (cfg : RuleSetAutoUpdate)
  | others (configFile : Option Bytes) (kernel : Kernel Bytes) (cache : RuleSetCache)
  /-- A new process, which finds the setting stored. -/
  | restart (configFile : Option Bytes) (kernel : Kernel Bytes) (cache : RuleSetCache)

namespace RuleSetAutoUpdater
open RuleSetAutoUpdate

/-- What does not change while the program runs. `samePath` tells which paths name one file. -/
structure Setup (Bytes : Type*) where
  updater : RuleSetUpdater Bytes
  codec : JSONCodec Bytes
  toLower : Char → Char
  message : RuleSetCacheError → String
  builtinPath : RuleSetSource → String
  configPath : String
  cachePath : String
  samePath : String → String → Bool

def newRuleSetAutoUpdater (configFile : Option Bytes) (kernel : Kernel Bytes)
    (cache : RuleSetCache) : RuleSetAutoUpdater Bytes :=
  ⟨false, none, [], none, configFile, kernel, cache⟩

def start (a : RuleSetAutoUpdater Bytes) : RuleSetAutoUpdater Bytes :=
  if a.running then a
  else
    { a with
      running := true
      cancel := some a.loops.length
      loops := a.loops ++ [⟨false, .waiting minute⟩] }

def cancelLoop (loops : List UpdateLoop) (i : ℕ) : List UpdateLoop :=
  loops.modify i fun loop => { loop with cancelled := true }

def stop (a : RuleSetAutoUpdater Bytes) : RuleSetAutoUpdater Bytes :=
  if a.running then
    { a with
      running := false
      cancel := none
      loops := a.cancel.elim a.loops (cancelLoop a.loops) }
  else a

/-- What a tick asks for. -/
def tickRequest : RuleSetUpdateRequest := ⟨builtinLocalRuleSetTags, ["local"]⟩

/-- The update of a tick, if there is one. What it returns is logged. -/
def tick (setup : Setup Bytes) (calls : ℕ → EntryCalls) (a : RuleSetAutoUpdater Bytes) :
    Option (CachedUpdate.Updated Bytes) :=
  match ruleSetAutoUpdate setup.codec a.stored with
  | none => none
  | some cfg =>
    if cfg.enabled then
      some (CachedUpdate.update setup.updater setup.codec setup.toLower setup.message a.configFile
        tickRequest calls a.kernel a.cache)
    else none

/-- The files that the update of a tick replaces. -/
def tickWrites (setup : Setup Bytes) (calls : ℕ → EntryCalls) (rules : ℕ → Bytes)
    (a : RuleSetAutoUpdater Bytes) : List (String × Bytes) :=
  match RuleSetUpdater.loadConfig setup.codec a.configFile with
  | .error _ => []
  | .ok cfg =>
    ((selectRuleSets setup.toLower (ruleSetEntries cfg) tickRequest).mapIdx fun i entry =>
      localWrite setup.updater.sources setup.builtinPath (rules i)
        (CachedUpdate.outcome setup.message (Object.stringAt entry "url")
          (Object.stringAt entry "tag") (calls i) a.cache) entry).reduceOption

/-- A cache file that is replaced by rules holds no records. -/
def replaceFile (setup : Setup Bytes) (a : RuleSetAutoUpdater Bytes) (file : String × Bytes) :
    RuleSetAutoUpdater Bytes :=
  { a with
    configFile := if setup.samePath file.1 setup.configPath then some file.2 else a.configFile
    cache := if setup.samePath file.1 setup.cachePath then none else a.cache }

def setPhase (phase : LoopPhase) (i : ℕ) (a : RuleSetAutoUpdater Bytes) :
    RuleSetAutoUpdater Bytes :=
  { a with loops := a.loops.modify i fun loop => { loop with phase := phase } }

/-- Where both the timer and the context are ready, either case of the `select` may be taken. -/
def step (setup : Setup Bytes) (a : RuleSetAutoUpdater Bytes) :
    AutoUpdateStep Bytes → RuleSetAutoUpdater Bytes
  | .start => a.start
  | .stop => a.stop
  | .timer i calls rules =>
    match a.loops[i]? with
    | some ⟨_, .waiting _⟩ =>
      let a := a.setPhase .ticking i
      match a.tick setup calls with
      | none => a
      | some updated =>
        (a.tickWrites setup calls rules).foldl (replaceFile setup)
          { a with kernel := updated.kernel, cache := updated.cache }
    | _ => a
  | .reset i =>
    match a.loops[i]? with
    | some ⟨_, .ticking⟩ => a.setPhase (.waiting (nextDelay setup.codec a.stored)) i
    | _ => a
  | .done i =>
    match a.loops[i]? with
    | some ⟨true, .waiting _⟩ => a.setPhase .ended i
    | _ => a
  | .setAutoUpdate fails cfg =>
    { a with stored := (setRuleSetAutoUpdate setup.codec fails cfg a.stored).1 }
  | .others configFile kernel cache =>
    { a with configFile := configFile, kernel := kernel, cache := cache }
  | .restart configFile kernel cache =>
    { newRuleSetAutoUpdater configFile kernel cache with stored := a.stored }

/-- Files that are replaced change the configuration and the cache at most. -/
theorem replaceFiles_cases (setup : Setup Bytes) (files : List (String × Bytes))
    (a : RuleSetAutoUpdater Bytes) :
    ∃ configFile cache,
      files.foldl (replaceFile setup) a = { a with configFile := configFile, cache := cache } := by
  induction files generalizing a with
  | nil => exact ⟨a.configFile, a.cache, rfl⟩
  | cons file files ih =>
    obtain ⟨configFile, cache, hrest⟩ := ih (replaceFile setup a file)
    exact ⟨configFile, cache, hrest⟩

variable {setup : Setup Bytes}

theorem replaceFiles_apart {files : List (String × Bytes)}
    (h : ∀ file ∈ files, setup.samePath file.1 setup.configPath = false ∧
      setup.samePath file.1 setup.cachePath = false) (a : RuleSetAutoUpdater Bytes) :
    files.foldl (replaceFile setup) a = a := by
  induction files with
  | nil => rfl
  | cons file files ih =>
    obtain ⟨⟨hconfig, hcache⟩, hrest⟩ := List.forall_mem_cons.mp h
    have hsame : replaceFile setup a file = a := by
      simp [replaceFile, hconfig, hcache]
    rw [List.foldl_cons, hsame]
    exact ih hrest

/-! ### The loops -/

theorem getElem?_modify_eq_some {f : UpdateLoop → UpdateLoop} {loops : List UpdateLoop} {i j : ℕ}
    {loop : UpdateLoop} : (loops.modify i f)[j]? = some loop ↔
      ∃ before, loops[j]? = some before ∧ (if i = j then f before else before) = loop := by
  rw [List.getElem?_modify]
  exact Option.map_eq_some_iff

/-- A loop goes on as long as it is the one that the cancel function belongs to. -/
structure HeldBy (cancel : Option ℕ) (i : ℕ) (loop : UpdateLoop) : Prop where
  live : loop.cancelled = false ↔ cancel = some i
  ended : loop.phase = .ended → loop.cancelled = true

structure Supervised (a : RuleSetAutoUpdater Bytes) : Prop where
  running : a.running = a.cancel.isSome
  begun : ∀ i, a.cancel = some i → i < a.loops.length
  heldBy : ∀ i loop, a.loops[i]? = some loop → HeldBy a.cancel i loop

theorem supervised_new (configFile : Option Bytes) (kernel : Kernel Bytes)
    (cache : RuleSetCache) : Supervised (newRuleSetAutoUpdater configFile kernel cache) :=
  ⟨rfl, nofun, nofun⟩

theorem Supervised.start {a : RuleSetAutoUpdater Bytes} (h : a.Supervised) :
    a.start.Supervised := by
  unfold RuleSetAutoUpdater.start
  split_ifs with hrunning
  · exact h
  · have hcancel : a.cancel = none := by
      rw [h.running] at hrunning
      exact Option.not_isSome_iff_eq_none.mp hrunning
    refine ⟨rfl, fun i hi => ?_, fun i loop hloop => ?_⟩
    · obtain rfl := Option.some.inj hi
      simp
    · rw [List.getElem?_append] at hloop
      split_ifs at hloop with hi
      · obtain ⟨hlive, hended⟩ := h.heldBy i loop hloop
        refine ⟨hlive.trans ?_, hended⟩
        rw [hcancel, Option.some_inj]
        exact ⟨nofun, fun heq => absurd heq (by omega)⟩
      · rw [List.getElem?_singleton] at hloop
        split_ifs at hloop with hzero
        obtain rfl := Option.some.inj hloop
        exact ⟨⟨fun _ => congrArg some (by omega), fun _ => rfl⟩, nofun⟩

theorem Supervised.stop {a : RuleSetAutoUpdater Bytes} (h : a.Supervised) :
    a.stop.Supervised := by
  unfold RuleSetAutoUpdater.stop
  split_ifs with hrunning
  · obtain ⟨current, hcurrent⟩ := Option.isSome_iff_exists.mp (h.running ▸ hrunning)
    refine ⟨rfl, nofun, fun i loop hloop => ?_⟩
    rw [hcurrent] at hloop
    obtain ⟨before, hbefore, rfl⟩ := getElem?_modify_eq_some.mp hloop
    split_ifs with hi
    · exact ⟨⟨nofun, nofun⟩, fun _ => rfl⟩
    · obtain ⟨hlive, hended⟩ := h.heldBy i before hbefore
      rw [hcurrent, Option.some_inj] at hlive
      exact ⟨⟨fun hfalse => absurd (hlive.mp hfalse) hi, nofun⟩, hended⟩
  · exact h

/-- A change of phase that ends no loop but a cancelled one. -/
theorem Supervised.setPhase {a : RuleSetAutoUpdater Bytes} (h : a.Supervised) {phase : LoopPhase}
    {i : ℕ} {loop : UpdateLoop} (hloop : a.loops[i]? = some loop)
    (hphase : phase = .ended → loop.cancelled = true) : (a.setPhase phase i).Supervised := by
  refine ⟨h.running, fun j hj => ?_, fun j after hafter => ?_⟩
  · exact (h.begun j hj).trans_eq (List.length_modify _ _ _).symm
  · obtain ⟨before, hbefore, rfl⟩ := getElem?_modify_eq_some.mp hafter
    obtain ⟨hlive, hended⟩ := h.heldBy j before hbefore
    split_ifs with hij
    · obtain rfl := hij
      obtain rfl := Option.some.inj (hbefore.symm.trans hloop)
      exact ⟨hlive, hphase⟩
    · exact ⟨hlive, hended⟩

theorem Supervised.step {a : RuleSetAutoUpdater Bytes} (h : a.Supervised)
    (label : AutoUpdateStep Bytes) : (step setup a label).Supervised := by
  cases label with
  | start => exact h.start
  | stop => exact h.stop
  | timer i calls rules =>
    unfold RuleSetAutoUpdater.step
    dsimp only
    split
    · rename_i hloop
      have hticking : (a.setPhase .ticking i).Supervised := h.setPhase hloop nofun
      split
      · exact hticking
      · rename_i updated _
        obtain ⟨configFile, cache, hwritten⟩ := replaceFiles_cases setup
          ((a.setPhase .ticking i).tickWrites setup calls rules)
          { a.setPhase .ticking i with kernel := updated.kernel, cache := updated.cache }
        rw [hwritten]
        exact ⟨hticking.running, hticking.begun, hticking.heldBy⟩
    · exact h
  | reset i =>
    unfold RuleSetAutoUpdater.step
    dsimp only
    split
    · rename_i hloop
      exact h.setPhase hloop nofun
    · exact h
  | done i =>
    unfold RuleSetAutoUpdater.step
    dsimp only
    split
    · rename_i hloop
      exact h.setPhase hloop fun _ => rfl
    · exact h
  | setAutoUpdate fails cfg => exact ⟨h.running, h.begun, h.heldBy⟩
  | others configFile kernel cache => exact ⟨h.running, h.begun, h.heldBy⟩
  | restart configFile kernel cache => exact ⟨rfl, nofun, nofun⟩

/-- Whatever the order of starts, stops and ticks, one loop goes on while the updater runs and
none while it does not: every other loop is cancelled, and a loop that has ended was. -/
theorem loops_supervised (setup : Setup Bytes) (configFile : Option Bytes) (kernel : Kernel Bytes)
    (cache : RuleSetCache) (labels : List (AutoUpdateStep Bytes)) :
    let a : RuleSetAutoUpdater Bytes :=
      Machine.run (step setup) (newRuleSetAutoUpdater configFile kernel cache) labels
    (a.running = true → ∃ (i : ℕ) (loop : UpdateLoop), a.loops[i]? = some loop ∧
      loop.cancelled = false ∧ loop.phase ≠ .ended ∧
        ∀ (j : ℕ) other, a.loops[j]? = some other → other.cancelled = false → j = i) ∧
      (a.running = false → ∀ loop ∈ a.loops, loop.cancelled = true) := by
  intro a
  have h : a.Supervised :=
    Machine.run_invariant (P := Supervised) (fun _ label h => h.step label)
      (supervised_new configFile kernel cache) labels
  constructor
  · intro hrunning
    obtain ⟨i, hi⟩ := Option.isSome_iff_exists.mp (h.running ▸ hrunning)
    have hloop := List.getElem?_eq_getElem (h.begun i hi)
    obtain ⟨hlive, hended⟩ := h.heldBy i _ hloop
    refine ⟨i, _, hloop, hlive.mpr hi, fun hphase => ?_, fun j other hother hcancelled => ?_⟩
    · rw [hended hphase] at hlive
      exact nomatch hlive.mpr hi
    · have hj := (h.heldBy j other hother).live.mp hcancelled
      exact Option.some.inj (hj.symm.trans hi)
  · intro hrunning loop hmem
    obtain ⟨i, hi⟩ := List.mem_iff_getElem?.mp hmem
    have hcancel : a.cancel = none := by
      rw [h.running] at hrunning
      exact Option.isNone_iff_eq_none.mp (Option.isSome_eq_false_iff.mp hrunning)
    rw [← Bool.not_eq_false, (h.heldBy i loop hi).live, hcancel]
    exact nofun

/-! ### What a tick leaves alone -/

/-- `unicode.ToLower` keeps the lower-case letters of ASCII. -/
def KeepsLower (toLower : Char → Char) : Prop := ∀ c, 'a' ≤ c → c ≤ 'z' → toLower c = c

theorem map_lower {toLower : Char → Char} (hlower : KeepsLower toLower) {s : String}
    (h : ∀ c ∈ s.toList, 'a' ≤ c ∧ c ≤ 'z') : s.map toLower = s := by
  apply String.toList_inj.mp
  rw [String.toList_map]
  exact (List.map_congr_left fun c hc => hlower c (h c hc).1 (h c hc).2).trans (List.map_id' _)

theorem type_of_selected {toLower : Char → Char} (hlower : KeepsLower toLower)
    {entries : List Object} {tags : List String} {entry : Object}
    (h : entry ∈ selectRuleSets toLower entries ⟨tags, ["local"]⟩) :
    ruleSetType entry = "local" := by
  have hfilter : (["local"].map fun typ => (trimSpace typ).map toLower) = ["local"] := by
    have htrim : trimSpace "local" = "local" := by decide +kernel
    have hlocal : "local".toList = ['l', 'o', 'c', 'a', 'l'] := rfl
    rw [List.map_singleton, htrim, map_lower hlower (by simp [hlocal])]
  rw [selectRuleSets, hfilter] at h
  obtain ⟨-, hkept⟩ := List.mem_filter.mp h
  obtain ⟨-, htype⟩ := Bool.and_eq_true_iff.mp hkept
  simpa using htype

/-- Local rule-sets neither read nor write the cache. -/
theorem updateEach_local (sources : List RuleSetSource) (message : RuleSetCacheError → String)
    (calls : ℕ → EntryCalls) {entries : List Object} (cache : RuleSetCache)
    (resp : RuleSetUpdateResponse) (h : ∀ entry ∈ entries, ruleSetType entry = "local") :
    ∃ resp', CachedUpdate.updateEach sources message calls entries cache resp =
      (cache, .ok resp') := by
  induction entries generalizing calls resp with
  | nil => exact ⟨resp, rfl⟩
  | cons entry entries ih =>
    obtain ⟨hentry, hrest⟩ := List.forall_mem_cons.mp h
    rw [CachedUpdate.updateEach, CachedUpdate.updateOne]
    simp only [hentry]
    exact ih _ _ hrest

/-- A tick returns, and leaves the kernel and the cache as they are. -/
theorem tick_leaves (hlower : KeepsLower setup.toLower) {calls : ℕ → EntryCalls}
    {a : RuleSetAutoUpdater Bytes} {updated : CachedUpdate.Updated Bytes}
    (h : a.tick setup calls = some updated) :
    updated.kernel = a.kernel ∧ updated.cache = a.cache ∧ updated.returned.isOk = true := by
  unfold tick at h
  split at h
  · cases h
  · split_ifs at h
    obtain rfl := Option.some.inj h
    unfold CachedUpdate.update
    cases hload : RuleSetUpdater.loadConfig setup.codec a.configFile with
    | error e => exact ⟨rfl, rfl, rfl⟩
    | ok cfg =>
      have hlocal : ∀ entry ∈ selectRuleSets setup.toLower (ruleSetEntries cfg)
          tickRequest, ruleSetType entry = "local" :=
        fun entry hentry => type_of_selected hlower hentry
      have hremote : (selectRuleSets setup.toLower (ruleSetEntries cfg) tickRequest).any
          RuleSetUpdater.isRemote = false := by
        rw [List.any_eq_false]
        intro entry hentry hremote
        have htype : Object.stringAt entry "type" = "remote" := eq_of_beq hremote
        have hruleSet := hlocal entry hentry
        rw [ruleSetType, htype] at hruleSet
        exact absurd hruleSet (by decide)
      obtain ⟨resp, hresp⟩ :=
        updateEach_local setup.updater.sources setup.message calls a.cache emptyResponse hlocal
      dsimp only
      rw [hremote]
      dsimp only [RuleSetUpdater.stopKernel]
      rw [hresp]
      exact ⟨rfl, rfl, rfl⟩

/-- The path is that of a local rule-set of the configuration that is built in. -/
def BuiltinLocalPath (setup : Setup Bytes) (configFile : Option Bytes) (path : String) : Prop :=
  ∃ cfg, RuleSetUpdater.loadConfig setup.codec configFile = .ok cfg ∧
    ∃ entry ∈ ruleSetEntries cfg, ruleSetType entry = "local" ∧
      ∃ src ∈ setup.updater.sources, src.tag = Object.stringAt entry "tag" ∧
        path = if Object.stringAt entry "path" = "" then setup.builtinPath src
          else Object.stringAt entry "path"

theorem tickWrites_builtin {calls : ℕ → EntryCalls} {rules : ℕ → Bytes}
    {a : RuleSetAutoUpdater Bytes} {file : String × Bytes}
    (h : file ∈ a.tickWrites setup calls rules) :
    BuiltinLocalPath setup a.configFile file.1 := by
  unfold tickWrites at h
  split at h
  · cases h
  · rename_i cfg hload
    obtain ⟨i, hi, hwrite⟩ := List.mem_mapIdx.mp (List.reduceOption_mem_iff.mp h)
    have hselected := List.mem_filter.mp (List.getElem_mem hi)
    exact ⟨cfg, hload, _, hselected.1, localWrite_builtin hwrite⟩

/-- What the updater shares with the other parts of the program. -/
def shared (a : RuleSetAutoUpdater Bytes) : Option Bytes × Kernel Bytes × RuleSetCache :=
  (a.configFile, a.kernel, a.cache)

/-- What a step of the other parts, or a new process, leaves. -/
def othersLeave : AutoUpdateStep Bytes → Option (Option Bytes × Kernel Bytes × RuleSetCache)
  | .others configFile kernel cache => some (configFile, kernel, cache)
  | .restart configFile kernel cache => some (configFile, kernel, cache)
  | _ => none

/-- A tick replaces neither the configuration file nor the cache with the rules of a built-in
rule-set. -/
def WritesApart (setup : Setup Bytes) (a : RuleSetAutoUpdater Bytes) :
    AutoUpdateStep Bytes → Prop
  | .timer _ calls rules => (a.tick setup calls).isSome = true →
      ∀ file ∈ a.tickWrites setup calls rules, setup.samePath file.1 setup.configPath = false ∧
        setup.samePath file.1 setup.cachePath = false
  | _ => True

theorem shared_step (hlower : KeepsLower setup.toLower) (a : RuleSetAutoUpdater Bytes)
    (label : AutoUpdateStep Bytes) (hlabel : a.WritesApart setup label) :
    (step setup a label).shared = (othersLeave label).elim a.shared id := by
  cases label with
  | start =>
    unfold step start
    split_ifs <;> rfl
  | stop =>
    unfold step stop
    split_ifs <;> rfl
  | timer i calls rules =>
    unfold step
    dsimp only
    split
    · split
      · rfl
      · rename_i updated htick
        obtain ⟨hkernel, hcache, -⟩ := tick_leaves hlower htick
        have htick' : a.tick setup calls = some updated := htick
        have hwritten := replaceFiles_apart (hlabel (by rw [htick', Option.isSome_some]))
          { a.setPhase .ticking i with kernel := updated.kernel, cache := updated.cache }
        have hwrites : (a.setPhase .ticking i).tickWrites setup calls rules =
            a.tickWrites setup calls rules := rfl
        rw [hwrites, hwritten]
        simp [shared, othersLeave, hkernel, hcache, setPhase]
    · rfl
  | reset i =>
    unfold step
    dsimp only
    split <;> rfl
  | done i =>
    unfold step
    dsimp only
    split <;> rfl
  | setAutoUpdate fails cfg => rfl
  | others configFile kernel cache => rfl
  | restart configFile kernel cache => rfl

/-- The updater never stops or starts the kernel, and where no built-in rule-set has the path of
the configuration or of the cache it writes neither: they end as if only the other parts of the
program had taken their steps. And the update of a tick does not panic, and replaces only files of
built-in local rule-sets. -/
theorem autoUpdate_invisible (setup : Setup Bytes) (hlower : KeepsLower setup.toLower)
    (a : RuleSetAutoUpdater Bytes) {labels : List (AutoUpdateStep Bytes)}
    (hapart : Machine.Along (step setup) (WritesApart setup) a labels) :
    (Machine.run (step setup) a labels).shared =
        (Machine.run (step setup) a
          (labels.filter fun label => (othersLeave label).isSome)).shared ∧
      ∀ calls updated, (Machine.run (step setup) a labels).tick setup calls = some updated →
        updated.returned.isOk = true ∧
          ∀ rules, ∀ file ∈ (Machine.run (step setup) a labels).tickWrites setup calls rules,
            BuiltinLocalPath setup (Machine.run (step setup) a labels).configFile file.1 := by
  have hsim : ∀ {labels}, Machine.Along (step setup) (WritesApart setup) a labels →
      (Machine.run (step setup) a labels).shared =
        Machine.run (fun _ left => left) a.shared (labels.filterMap othersLeave) :=
    fun h => Machine.run_simulation_along shared othersLeave
      (fun a label hlabel => shared_step hlower a label hlabel) h
  have hothers : Machine.Along (step setup) (WritesApart setup) a
      (labels.filter fun label => (othersLeave label).isSome) := by
    apply Machine.along_of_forall
    intro label hmem a
    have hleaves := (List.mem_filter.mp hmem).2
    cases label with
    | timer i calls rules => cases hleaves
    | _ => trivial
  refine ⟨?_, fun calls updated htick =>
    ⟨(tick_leaves hlower htick).2.2, fun rules file hfile => tickWrites_builtin hfile⟩⟩
  have hfilter : ∀ label : AutoUpdateStep Bytes, othersLeave label =
      if (othersLeave label).isSome then othersLeave label else none := by
    intro label
    cases othersLeave label <;> rfl
  rw [hsim hapart, hsim hothers, List.filterMap_filter]
  exact congrArg _ (List.filterMap_congr fun label _ => hfilter label)

/-- A configuration with a built-in rule-set that has a path. -/
def directConfigFile : Option { v : Value // v.json = v } :=
  let entry : Object := (((∅ : Object).insert "tag" (.str "loyalsoldier-direct")).insert "type"
    (.str "local")).insert "path" (.str "/data/rule-set/direct.json")
  let route : Object := (∅ : Object).insert "rule_set" (.list [Object.toValue entry])
  some (documentCodec.marshal
    (Object.toValue ((∅ : Object).insert "route" (Object.toValue route))))

def directSetup : Setup { v : Value // v.json = v } where
  updater := RuleSetUpdater.newRuleSetUpdater
    [⟨"loyalsoldier-direct", "direct.json", "https://rules.example/direct.txt"⟩] false
    directConfigFile ⟨false, false, false, 2⟩
  codec := documentCodec
  toLower := id
  message := fun _ => ""
  builtinPath := fun src => "/data/rule-set/" ++ src.fileName
  configPath := "/data/config.json"
  cachePath := "/data/cache.db"
  samePath := fun path path' => path == path'

/-- A tick that downloads the rules and writes them to their path. -/
def directTick : List (AutoUpdateStep { v : Value // v.json = v }) :=
  [.setAutoUpdate false ⟨true, "24h"⟩, .start,
    .timer 0 (fun _ => ⟨none, none, false, none, fun _ _ => .error "", ⟨false, false⟩,
      GoTime.unix 0⟩) (fun _ => documentCodec.marshal (.str "rules")),
    .reset 0, .stop, .done 0]

theorem autoUpdate_invisible_ticks :
    (Machine.run (step directSetup)
      (newRuleSetAutoUpdater directConfigFile startedKernel (some ∅)) directTick).shared =
        (directConfigFile, startedKernel, some ∅) := by
  refine (autoUpdate_invisible directSetup (fun _ _ _ => rfl) _ ?_).1.trans rfl
  refine ⟨trivial, trivial, fun _ => ?_, trivial, trivial, trivial, trivial⟩
  decide +kernel

/-! ### The setting and the delay -/

theorem ofValue_toObject (cfg : RuleSetAutoUpdate) :
    ofValue cfg.toObject.toValue.json = some cfg := by
  have henabled : (Object.json cfg.toObject)["enabled"]? = some (.bool cfg.enabled) := by
    rw [Object.getElem?_json, toObject, GoMap.getElem?_insert, if_neg (by decide),
      GoMap.getElem?_insert, if_pos rfl]
    rfl
  have hinterval : (Object.json cfg.toObject)["interval"]? = some (.str cfg.interval) := by
    rw [Object.getElem?_json, toObject, GoMap.getElem?_insert, if_pos rfl]
    rfl
  have hdoc : ofValue (Object.toValue (Object.json cfg.toObject)) =
      (Object.toValue (Object.json cfg.toObject)).asMap?.bind ofObject := rfl
  rw [Value.json_toValue, hdoc, Value.asMap?_toValue, Option.bind_some, ofObject, henabled,
    hinterval]
  rfl

theorem isDigit_of_isSpace {c : Char} (h : isSpace c = true) : Numerals.isDigit c = false := by
  have hbound : c.toNat < 48 ∨ 57 < c.toNat := by
    simp [isSpace] at h
    omega
  have hrange : ¬('0' ≤ c ∧ c ≤ '9') := by
    rintro ⟨hlow, hhigh⟩
    have hlow' : 48 ≤ c.toNat := hlow
    have hhigh' : c.toNat ≤ 57 := hhigh
    omega
  rw [Numerals.isDigit, Numerals.digitValue, if_neg hrange, decide_eq_false_iff_not]
  split_ifs <;> omega

theorem isSpace_of_blank {s : String} (h : trimSpace s = "") {c : Char} {rest : List Char}
    (hs : s.toList = c :: rest) : isSpace c = true := by
  by_contra hspace
  rw [trimSpace, hs, List.dropWhile_cons_of_neg hspace] at h
  have hnil := congrArg String.toList h
  rw [String.toList_ofList, String.toList_empty, List.rdropWhile_eq_nil_iff] at hnil
  exact hspace (hnil c List.mem_cons_self)

theorem parseDuration_of_blank {s : String} (h : trimSpace s = "") :
    parseDuration s.toList = none := by
  cases hs : s.toList with
  | nil => rfl
  | cons c rest =>
    have hspace := isSpace_of_blank h hs
    have hdigit := isDigit_of_isSpace hspace
    have hne : ∀ d, isSpace d = false → c ≠ d := by
      rintro d hd rfl
      exact absurd hspace (by rw [hd]; exact Bool.false_ne_true)
    have hsign : sign (c :: rest) = (false, c :: rest) := by
      rw [sign.eq_def]
      split
      · rename_i heq
        exact absurd (List.cons_eq_cons.mp heq).1 (hne '-' (by decide))
      · rename_i heq
        exact absurd (List.cons_eq_cons.mp heq).1 (hne '+' (by decide))
      · rfl
    have hzero : c :: rest ≠ ['0'] :=
      fun heq => hne '0' (by decide) (List.cons_eq_cons.mp heq).1
    have hpart : part (c :: rest) = none := by
      have hint : leadingInt 0 (c :: rest) = some (0, c :: rest) := by
        rw [leadingInt, hdigit]
        rfl
      rw [part, hint, Option.bind_some]
      dsimp only
      split
      · rename_i heq
        exact absurd (List.cons_eq_cons.mp heq).1 (hne '.' (by decide))
      · rw [if_pos rfl]
    rw [parseDuration, hsign]
    dsimp only
    rw [if_neg hzero, if_neg (List.cons_ne_nil c rest), parts, if_neg (List.cons_ne_nil c rest)]
    split
    · rfl
    · rename_i heq
      rw [hpart] at heq
      cases heq

/-- A setting that is in force: its interval is a positive duration. -/
structure AcceptedSetting where
  cfg : RuleSetAutoUpdate
  nanoseconds : ℤ
  parses : parseDuration cfg.interval.toList = some nanoseconds
  positive : 0 < nanoseconds

namespace AcceptedSetting

def ofConfig? (cfg : RuleSetAutoUpdate) : Option AcceptedSetting :=
  match h : parseDuration cfg.interval.toList with
  | none => none
  | some d => if hd : 0 < d then some ⟨cfg, d, h, hd⟩ else none

theorem ofConfig?_of_pos {cfg : RuleSetAutoUpdate} {d : ℤ}
    (hparse : parseDuration cfg.interval.toList = some d) (hd : 0 < d) :
    ofConfig? cfg = some ⟨cfg, d, hparse, hd⟩ := by
  unfold ofConfig?
  split
  · rename_i hnone
    exact nomatch hparse.symm.trans hnone
  · rename_i d' hsome
    obtain rfl := Option.some.inj (hparse.symm.trans hsome)
    rw [dif_pos hd]

theorem ofConfig?_eq_none {cfg : RuleSetAutoUpdate}
    (h : ¬∃ d, parseDuration cfg.interval.toList = some d ∧ 0 < d) : ofConfig? cfg = none := by
  unfold ofConfig?
  split
  · rfl
  · rename_i d hsome
    rw [dif_neg fun hd => h ⟨d, hsome, hd⟩]

/-- What the setting is until one is accepted. -/
def initial : AcceptedSetting where
  cfg := defaultRuleSetAutoUpdate
  nanoseconds := 24 * hour
  parses := by
    have hformed : (⟨['2', '4'], [], ['h']⟩ : Part).WellFormed :=
      ⟨by decide, List.forall_mem_cons.mpr ⟨by decide, List.forall_mem_singleton.mpr (by decide)⟩,
        List.forall_mem_nil _, by decide⟩
    have h := parseDuration_texts (List.forall_mem_singleton.mpr hformed) (List.cons_ne_nil _ _)
    exact h
  positive := by decide

/-- How long a loop waits: an hour where the update is off, and never less than a minute. -/
def delay (setting : AcceptedSetting) : ℤ :=
  if setting.cfg.enabled then max minute setting.nanoseconds else hour

theorem minute_le_delay (setting : AcceptedSetting) : minute ≤ setting.delay := by
  rw [delay]
  split_ifs
  · exact le_max_left _ _
  · decide

/-- A request that is accepted and saved replaces the setting, and no other does. -/
def change (setting : AcceptedSetting) : AutoUpdateStep Bytes → AcceptedSetting
  | .setAutoUpdate false cfg => (ofConfig? cfg).getD setting
  | _ => setting

end AcceptedSetting

/-- The stored bytes hold a setting. -/
def Holds (codec : JSONCodec Bytes) (stored : Option Bytes) (setting : AcceptedSetting) : Prop :=
  ruleSetAutoUpdate codec stored = some setting.cfg

/-- A request is accepted if and only if its interval is a positive duration. -/
theorem validate_iff (cfg : RuleSetAutoUpdate) :
    validateRuleSetAutoUpdate cfg = .ok () ↔
      ∃ d, parseDuration cfg.interval.toList = some d ∧ 0 < d := by
  unfold validateRuleSetAutoUpdate
  split_ifs with hblank
  · rw [parseDuration_of_blank hblank]
    exact ⟨nofun, nofun⟩
  · cases parseDuration cfg.interval.toList with
    | none => exact ⟨nofun, nofun⟩
    | some d =>
      dsimp only
      split_ifs with hd
      · refine ⟨nofun, ?_⟩
        rintro ⟨d', heq, hpos⟩
        obtain rfl := Option.some.inj heq
        exact absurd hd (not_le.mpr hpos)
      · exact iff_of_true rfl ⟨d, rfl, not_le.mp hd⟩

theorem nextDelay_of_holds {codec : JSONCodec Bytes} {stored : Option Bytes}
    {setting : AcceptedSetting} (h : Holds codec stored setting) :
    nextDelay codec stored = setting.delay := by
  have hpositive : ¬setting.nanoseconds ≤ 0 := not_le.mpr setting.positive
  rw [nextDelay, h, AcceptedSetting.delay]
  dsimp only
  rw [setting.parses]
  cases setting.cfg.enabled with
  | false => rfl
  | true =>
    simp only [Bool.true_eq_false, if_false, if_true, hpositive]
    split_ifs with hshort
    · exact (max_eq_left hshort.le).symm
    · exact (max_eq_right (not_lt.mp hshort)).symm

theorem Holds.change {codec : JSONCodec Bytes} {stored : Option Bytes}
    {setting : AcceptedSetting} (h : Holds codec stored setting) (fails : Bool)
    (cfg : RuleSetAutoUpdate) :
    Holds codec (setRuleSetAutoUpdate codec fails cfg stored).1
      (setting.change (.setAutoUpdate fails cfg : AutoUpdateStep Bytes)) := by
  unfold setRuleSetAutoUpdate
  by_cases haccepted : ∃ d, parseDuration cfg.interval.toList = some d ∧ 0 < d
  · rw [(validate_iff cfg).mpr haccepted]
    cases fails with
    | true => exact h
    | false =>
      obtain ⟨d, hparse, hd⟩ := haccepted
      have hinterval : cfg.interval ≠ "" := by
        intro hempty
        rw [hempty] at hparse
        cases hparse
      rw [AcceptedSetting.change, AcceptedSetting.ofConfig?_of_pos hparse hd, Option.getD_some]
      change ruleSetAutoUpdate codec (some (codec.marshal cfg.toObject.toValue)) = some cfg
      rw [ruleSetAutoUpdate, codec.unmarshal_marshal, Option.bind_some, ofValue_toObject,
        Option.map_some, if_neg hinterval]
  · have hrefused : validateRuleSetAutoUpdate cfg ≠ .ok () :=
      fun hok => haccepted ((validate_iff cfg).mp hok)
    cases hvalid : validateRuleSetAutoUpdate cfg with
    | ok _ => exact absurd hvalid hrefused
    | error e =>
      cases fails with
      | true => exact h
      | false =>
        rw [AcceptedSetting.change, AcceptedSetting.ofConfig?_eq_none haccepted]
        exact h

/-- Every loop that waits was given at least a minute. -/
def WaitsLong (a : RuleSetAutoUpdater Bytes) : Prop :=
  ∀ loop ∈ a.loops, ∀ d, loop.phase = .waiting d → minute ≤ d

/-- The setting in force, and what the updater shows of it. -/
structure InForce (codec : JSONCodec Bytes) (a : RuleSetAutoUpdater Bytes)
    (setting : AcceptedSetting) : Prop where
  holds : Holds codec a.stored setting
  waitsLong : WaitsLong a

theorem WaitsLong.setPhase {a : RuleSetAutoUpdater Bytes} (h : a.WaitsLong) {phase : LoopPhase}
    (hphase : ∀ d, phase = .waiting d → minute ≤ d) (i : ℕ) : (a.setPhase phase i).WaitsLong := by
  intro loop hloop d hd
  obtain ⟨j, hj⟩ := List.mem_iff_getElem?.mp hloop
  obtain ⟨before, hbefore, rfl⟩ := getElem?_modify_eq_some.mp hj
  split_ifs at hd
  · exact hphase d hd
  · exact h before (List.mem_of_getElem? hbefore) d hd

theorem InForce.step {a : RuleSetAutoUpdater Bytes} {setting : AcceptedSetting}
    (h : a.InForce setup.codec setting) (label : AutoUpdateStep Bytes) :
    (step setup a label).InForce setup.codec (setting.change label) := by
  obtain ⟨hholds, hlong⟩ := h
  cases label with
  | start =>
    unfold RuleSetAutoUpdater.step start
    split_ifs
    · exact ⟨hholds, hlong⟩
    · refine ⟨hholds, fun loop hloop d hd => ?_⟩
      obtain hloop | hloop := List.mem_append.mp hloop
      · exact hlong loop hloop d hd
      · obtain rfl := List.mem_singleton.mp hloop
        exact (LoopPhase.waiting.inj hd).le
  | stop =>
    unfold RuleSetAutoUpdater.step stop
    split_ifs
    · refine ⟨hholds, fun loop hloop d hd => ?_⟩
      cases hcancel : a.cancel with
      | none =>
        rw [hcancel] at hloop
        exact hlong loop hloop d hd
      | some current =>
        rw [hcancel] at hloop
        obtain ⟨j, hj⟩ := List.mem_iff_getElem?.mp hloop
        obtain ⟨before, hbefore, rfl⟩ := getElem?_modify_eq_some.mp hj
        apply hlong before (List.mem_of_getElem? hbefore) d
        split_ifs at hd <;> exact hd
    · exact ⟨hholds, hlong⟩
  | timer i calls rules =>
    unfold RuleSetAutoUpdater.step
    dsimp only
    split
    · have hticking : (a.setPhase .ticking i).WaitsLong :=
        hlong.setPhase (by intro d hd; cases hd) i
      split
      · exact ⟨hholds, hticking⟩
      · rename_i updated _
        obtain ⟨configFile, cache, hwritten⟩ := replaceFiles_cases setup
          ((a.setPhase .ticking i).tickWrites setup calls rules)
          { a.setPhase .ticking i with kernel := updated.kernel, cache := updated.cache }
        rw [hwritten]
        exact ⟨hholds, hticking⟩
    · exact ⟨hholds, hlong⟩
  | reset i =>
    unfold RuleSetAutoUpdater.step
    dsimp only
    split
    · refine ⟨hholds, hlong.setPhase (fun d hd => ?_) i⟩
      obtain rfl := LoopPhase.waiting.inj hd
      rw [nextDelay_of_holds hholds]
      exact setting.minute_le_delay
    · exact ⟨hholds, hlong⟩
  | done i =>
    unfold RuleSetAutoUpdater.step
    dsimp only
    split
    · have hended : (a.setPhase .ended i).WaitsLong :=
        hlong.setPhase (by intro d hd; cases hd) i
      exact ⟨hholds, hended⟩
    · exact ⟨hholds, hlong⟩
  | setAutoUpdate fails cfg => exact ⟨hholds.change fails cfg, hlong⟩
  | others configFile kernel cache => exact ⟨hholds, hlong⟩
  | restart configFile kernel cache => exact ⟨hholds, nofun⟩

/-- However requests, starts, stops and ticks are mixed, the stored setting is the last one that
was accepted and saved, at first the default, the next delay is the one it asks for, and no loop
ever waits less than a minute. -/
theorem setting_inForce (setup : Setup Bytes) (configFile : Option Bytes) (kernel : Kernel Bytes)
    (cache : RuleSetCache) (labels : List (AutoUpdateStep Bytes)) :
    let a : RuleSetAutoUpdater Bytes :=
      Machine.run (step setup) (newRuleSetAutoUpdater configFile kernel cache) labels
    let setting := Machine.run AcceptedSetting.change AcceptedSetting.initial labels
    ruleSetAutoUpdate setup.codec a.stored = some setting.cfg ∧
      nextDelay setup.codec a.stored = setting.delay ∧ minute ≤ setting.delay ∧
        ∀ loop ∈ a.loops, ∀ d, loop.phase = .waiting d → minute ≤ d := by
  have hrun : ∀ (a : RuleSetAutoUpdater Bytes) (setting : AcceptedSetting),
      a.InForce setup.codec setting →
        (Machine.run (step setup) a labels).InForce setup.codec
          (Machine.run AcceptedSetting.change setting labels) := by
    induction labels with
    | nil => exact fun _ _ h => h
    | cons label labels ih => exact fun a setting h => ih _ _ (h.step label)
  obtain ⟨hholds, hlong⟩ := hrun (newRuleSetAutoUpdater configFile kernel cache)
    AcceptedSetting.initial ⟨rfl, nofun⟩
  exact ⟨hholds, nextDelay_of_holds hholds, AcceptedSetting.minute_le_delay _, hlong⟩

end RuleSetAutoUpdater

end Boxui.Core
