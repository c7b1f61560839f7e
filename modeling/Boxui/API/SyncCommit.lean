import Boxui.API.SyncPlan
import Boxui.Core.Stores

/-! One synchronisation over the configuration file and the database: read, plan, write the
file, save the generated group tags, and put the previous bytes back when that fails. -/
namespace Boxui.API
open GoValue Boxui.Core

variable {Bytes : Type*}

/-- How the calls made by one synchronisation turn out; `true` is a failure. -/
structure SyncOutcome where
  readConfig : Bool
  urlTestDefaults : Bool
  managedGroups : Bool
  listSubscriptions : Bool
  write : WriteStep → Bool
  saveGroups : Bool
  rollback : WriteStep → Bool

structure SyncState (Bytes : Type*) where
  dir : Directory Bytes
  db : Database

/-- Decoding into a `map[string]any`; the document `null` yields the nil map. -/
def decodeConfig (codec : JSONCodec Bytes) (data : Bytes) : Option (Option Object) :=
  match codec.unmarshal data with
  | some .null => some none
  | some doc => doc.asMap?.map some
  | none => none

def readSyncConfig (codec : JSONCodec Bytes) (o : SyncOutcome) (dir : Directory Bytes) :
    Except SyncError (Option Object × Bytes) :=
  if o.readConfig then .error .readConfig
  else
    match dir.target with
    | none => .error .readConfig
    | some data =>
      match decodeConfig codec data with
      | none => .error .decodeConfig
      | some config => .ok (config, data)

theorem readSyncConfig_ok_iff {codec : JSONCodec Bytes} {o : SyncOutcome}
    {dir : Directory Bytes} {config : Option Object} {data : Bytes} :
    readSyncConfig codec o dir = .ok (config, data) ↔
      o.readConfig = false ∧ dir.target = some data ∧ decodeConfig codec data = some config := by
  unfold readSyncConfig
  cases o.readConfig with
  | true => simp
  | false =>
    cases dir.target with
    | none => simp
    | some data' =>
      cases hdecode : decodeConfig codec data' with
      | none =>
        simp only [hdecode, reduceCtorEq, false_iff, not_and, Bool.false_eq_true, if_false]
        rintro - h
        obtain rfl := Option.some.inj h
        simp [hdecode]
      | some config' =>
        simp only [hdecode, Bool.false_eq_true, if_false]
        constructor
        · intro h
          obtain ⟨rfl, rfl⟩ := Prod.mk.inj (Except.ok.inj h)
          exact ⟨trivial, rfl, hdecode⟩
        · rintro ⟨-, h, hdecode'⟩
          obtain rfl := Option.some.inj h
          rw [hdecode] at hdecode'
          obtain rfl := Option.some.inj hdecode'
          rfl

structure SyncCommit (Bytes : Type*) where
  previous : Bytes

def SyncCommit.write (codec : JSONCodec Bytes) (o : SyncOutcome) (c : SyncCommit Bytes)
    (config : Object) (groupTags : List String) (s : SyncState Bytes) :
    SyncState Bytes × Except SyncError Unit :=
  let written := codec.marshal (Object.toValue config)
  match atomicWriteFile o.write written s.dir with
  | (dir, .error step) => ({ s with dir := dir }, .error (.writeConfig step))
  | (dir, .ok ()) =>
    if o.saveGroups then
      match atomicWriteFile o.rollback c.previous dir with
      | (dir, .ok ()) => ({ s with dir := dir }, .error .saveGroups)
      | (dir, .error step) => ({ s with dir := dir }, .error (.saveGroupsAndRollback step))
    else (⟨dir, SettingsManager.setURLTestManagedGroups groupTags s.db⟩, .ok ())

/-- What a synchronisation reads from the database. -/
def syncInput (db : Database) : SyncInput where
  nodes := NodeManager.list db
  subscriptions := SubscriptionManager.list db
  defaults := SettingsManager.urlTestDefaults db
  previousGroups := SettingsManager.urlTestManagedGroups db

/-- Assigning to the nil map panics, after everything that can fail before it has. -/
def syncOutboundsToConfig (codec : JSONCodec Bytes) (o : SyncOutcome) (s : SyncState Bytes) :
    SyncState Bytes × Except SyncError Unit :=
  match readSyncConfig codec o s.dir with
  | .error e => (s, .error e)
  | .ok (config, previous) =>
    if o.urlTestDefaults then (s, .error .urlTestDefaults)
    else if o.managedGroups then (s, .error .managedGroups)
    else if o.listSubscriptions then (s, .error .listSubscriptions)
    else
      match syncOutbounds (syncInput s.db) (config.getD ∅) with
      | .error e => (s, .error e)
      | .ok (synced, groupTags) =>
        match config with
        | none => (s, .error .nilConfig)
        | some _ => SyncCommit.write codec o ⟨previous⟩ synced groupTags s

/-- No call fails. -/
def SyncOutcome.clean : SyncOutcome where
  readConfig := false
  urlTestDefaults := false
  managedGroups := false
  listSubscriptions := false
  write _ := false
  saveGroups := false
  rollback _ := false

/-- The configuration object the file holds. -/
def SyncState.config? (codec : JSONCodec Bytes) (s : SyncState Bytes) : Option Object :=
  s.dir.target.bind fun data => (decodeConfig codec data).join

/-- The outbounds in the file. -/
def SyncState.outbounds (codec : JSONCodec Bytes) (s : SyncState Bytes) : List Value :=
  ((s.config? codec).map existingOutbounds).getD []

def SyncState.outboundTags (codec : JSONCodec Bytes) (s : SyncState Bytes) : List String :=
  (s.outbounds codec).map tagOf

/-- What a successful synchronisation writes over a configuration. -/
def syncedConfig (input : SyncInput) (config : Object) : Object :=
  ensureRouteFinal (config.insert "outbounds" (.list (input.outbounds (existingOutbounds config))))

/-- The outbounds of a decoded configuration are documents. -/
theorem existingOutbounds_json {config : Object} (hconfig : Object.json config = config) :
    (existingOutbounds config).map Value.json = existingOutbounds config := by
  unfold existingOutbounds
  cases hv : config["outbounds"]? with
  | none => rfl
  | some v =>
    have hjson : v.json = v := by
      have h := Object.getElem?_json config "outbounds"
      rw [hconfig, hv] at h
      exact (Option.some.inj h).symm
    cases v with
    | list vs =>
      rw [Value.json, Value.jsonList_eq_map] at hjson
      exact Value.list.inj hjson
    | _ => rfl

theorem getElem?_ensureRouteFinal (config : Object) {k : String} (hk : k ≠ "route") :
    (ensureRouteFinal config)[k]? = config[k]? := by
  simp [ensureRouteFinal, Ne.symm hk]

theorem existingOutbounds_syncedConfig (input : SyncInput) (config : Object) :
    existingOutbounds (syncedConfig input config) =
      input.outbounds (existingOutbounds config) := by
  rw [syncedConfig, existingOutbounds, getElem?_ensureRouteFinal _ (by decide)]
  simp [Value.asList?]

theorem getElem?_syncedConfig_outbounds (input : SyncInput) (config : Object) :
    (Object.json (syncedConfig input config))["outbounds"]? =
      some (.list ((input.outbounds (existingOutbounds config)).map Value.json)) := by
  rw [Object.getElem?_json, syncedConfig, getElem?_ensureRouteFinal _ (by decide)]
  simp [Value.json, Value.jsonList_eq_map]

/-- The route section as the code reads it. -/
def routeOf (config : Object) : Object := (config["route"]?.bind Value.asMap?).getD ∅

theorem getElem?_ensureRouteFinal_route (config : Object) :
    (ensureRouteFinal config)["route"]? = some (Object.toValue
      (if (routeOf config).contains "final" then routeOf config
       else (routeOf config).insert "final" (.str "proxy"))) := by
  simp [ensureRouteFinal, routeOf]

/-- A configuration that went through one synchronisation keeps its route section. -/
theorem ensureRouteFinal_again (config config' : Object)
    (hroute : config'["route"]? = (Object.json (ensureRouteFinal config))["route"]?) :
    (Object.json (ensureRouteFinal config'))["route"]? =
      (Object.json (ensureRouteFinal config))["route"]? := by
  set route := if (routeOf config).contains "final" then routeOf config
    else (routeOf config).insert "final" (.str "proxy") with hset
  have hfinal : route.contains "final" = true := by
    rw [hset]
    split_ifs with h
    · exact h
    · simp
  have hread : (Object.json (ensureRouteFinal config))["route"]? =
      some (Object.toValue (Object.json route)) := by
    rw [Object.getElem?_json, getElem?_ensureRouteFinal_route]
    simp [hset]
  have hroute' : routeOf config' = Object.json route := by
    rw [routeOf, hroute, hread]
    simp
  have hfinal' : (Object.json route).contains "final" = true := by
    rw [Std.ExtTreeMap.contains_eq_isSome_getElem?] at hfinal ⊢
    simpa using hfinal
  rw [Object.getElem?_json, getElem?_ensureRouteFinal_route, hroute', hread, if_pos hfinal']
  simp

theorem decodeConfig_marshal (codec : JSONCodec Bytes) (config : Object) :
    decodeConfig codec (codec.marshal (Object.toValue config)) =
      some (some (Object.json config)) := by
  unfold decodeConfig
  rw [codec.unmarshal_marshal, Value.json_toValue]
  change (Object.toValue (Object.json config)).asMap?.map some = _
  rw [Value.asMap?_toValue]
  rfl

theorem decodeConfig_json {codec : JSONCodec Bytes} {data : Bytes} {config : Object}
    (h : decodeConfig codec data = some (some config)) : Object.json config = config := by
  unfold decodeConfig at h
  cases hdoc : codec.unmarshal data with
  | none => simp [hdoc] at h
  | some doc =>
    have hcanon := codec.unmarshal_json data doc hdoc
    have hmap : doc.asMap? = some config := by
      rw [hdoc] at h
      cases doc <;> simp_all
    have hjson := Value.asMap?_json doc
    rw [hcanon, hmap] at hjson
    exact (Option.some.inj hjson).symm

namespace SyncState

theorem config?_eq_some {codec : JSONCodec Bytes} {s : SyncState Bytes} {config : Object} :
    s.config? codec = some config ↔
      ∃ data, s.dir.target = some data ∧ decodeConfig codec data = some (some config) := by
  unfold config?
  cases s.dir.target with
  | none => simp
  | some data =>
    rcases hdecode : decodeConfig codec data with _ | _ | config' <;> simp [hdecode]

theorem config?_json {codec : JSONCodec Bytes} {s : SyncState Bytes} {config : Object}
    (h : s.config? codec = some config) : Object.json config = config := by
  obtain ⟨data, -, hdecode⟩ := config?_eq_some.mp h
  exact decodeConfig_json hdecode

/-- The file holds what a synchronisation of `input` makes of `config`. -/
def Wrote (codec : JSONCodec Bytes) (input : SyncInput) (config : Object)
    (s : SyncState Bytes) : Prop :=
  s.dir.target = some (codec.marshal (Object.toValue (syncedConfig input config)))

theorem Wrote.config? {codec : JSONCodec Bytes} {input : SyncInput} {config : Object}
    {s : SyncState Bytes} (h : Wrote codec input config s) :
    s.config? codec = some (Object.json (syncedConfig input config)) :=
  config?_eq_some.mpr ⟨_, h, decodeConfig_marshal codec _⟩

end SyncState

/-- The exits of the commit: written and saved, not written, written and rolled back, written
with the rollback failing. -/
theorem SyncCommit.write_cases (codec : JSONCodec Bytes) (o : SyncOutcome)
    (c : SyncCommit Bytes) (config : Object) (groupTags : List String) (s : SyncState Bytes) :
    ((SyncCommit.write codec o c config groupTags s).2 = .ok () ∧
      (SyncCommit.write codec o c config groupTags s).1.dir.target =
        some (codec.marshal (Object.toValue config)) ∧
      (SyncCommit.write codec o c config groupTags s).1.db =
        SettingsManager.setURLTestManagedGroups groupTags s.db) ∨
    ((∃ e, (SyncCommit.write codec o c config groupTags s).2 = .error e) ∧
      (SyncCommit.write codec o c config groupTags s).1.db = s.db ∧
      ((SyncCommit.write codec o c config groupTags s).1.dir.target = s.dir.target ∨
        (SyncCommit.write codec o c config groupTags s).1.dir.target = some c.previous ∨
        ((∃ step, o.rollback step = true) ∧
          (SyncCommit.write codec o c config groupTags s).1.dir.target =
            some (codec.marshal (Object.toValue config))))) := by
  dsimp only [SyncCommit.write]
  have hwrite := atomicWriteFile_cases o.write (codec.marshal (Object.toValue config)) s.dir
  rcases hw : atomicWriteFile o.write (codec.marshal (Object.toValue config)) s.dir with ⟨dir, r⟩
  rw [hw] at hwrite
  rcases hwrite with ⟨hok, htarget⟩ | ⟨step, -, herr, htarget⟩
  · obtain rfl : r = .ok () := hok
    dsimp only at htarget ⊢
    by_cases hsave : o.saveGroups = true
    · have hback := atomicWriteFile_cases o.rollback c.previous dir
      rcases hb : atomicWriteFile o.rollback c.previous dir with ⟨dir₁, r⟩
      rw [hb] at hback
      rcases hback with ⟨hok, hprevious⟩ | ⟨step, hstep, herr, hkept⟩
      · dsimp only at hok hprevious ⊢
        subst hok
        rw [if_pos hsave]
        exact .inr ⟨⟨_, rfl⟩, rfl, .inr (.inl hprevious)⟩
      · dsimp only at herr hkept ⊢
        subst herr
        rw [if_pos hsave]
        exact .inr ⟨⟨_, rfl⟩, rfl, .inr (.inr ⟨⟨step, hstep⟩, hkept.trans htarget⟩)⟩
    · rw [if_neg hsave]
      exact .inl ⟨rfl, htarget, rfl⟩
  · dsimp only at herr htarget ⊢
    subst herr
    exact .inr ⟨⟨_, rfl⟩, rfl, .inl htarget⟩

/-- The exits of a synchronisation. Unless it wrote the file, the file is as before; the
database changes only on success. -/
theorem syncOutboundsToConfig_cases (codec : JSONCodec Bytes) (o : SyncOutcome)
    (s : SyncState Bytes) :
    (∃ config, s.config? codec = some config ∧ (syncInput s.db).Decodable ∧
      (syncOutboundsToConfig codec o s).2 = .ok () ∧
      (syncOutboundsToConfig codec o s).1.Wrote codec (syncInput s.db) config ∧
      (syncOutboundsToConfig codec o s).1.db =
        SettingsManager.setURLTestManagedGroups (syncInput s.db).groupTags s.db) ∨
    ((∃ e, (syncOutboundsToConfig codec o s).2 = .error e) ∧
      (syncOutboundsToConfig codec o s).1.db = s.db ∧
      ((syncOutboundsToConfig codec o s).1.dir.target = s.dir.target ∨
        ((∃ step, o.rollback step = true) ∧ ∃ config, s.config? codec = some config ∧
          (syncOutboundsToConfig codec o s).1.Wrote codec (syncInput s.db) config))) := by
  unfold syncOutboundsToConfig
  cases hread : readSyncConfig codec o s.dir with
  | error e => exact .inr ⟨⟨e, rfl⟩, rfl, .inl rfl⟩
  | ok read =>
    obtain ⟨config, previous⟩ := read
    obtain ⟨-, htarget, hdecode⟩ := readSyncConfig_ok_iff.mp hread
    dsimp only
    cases o.urlTestDefaults with
    | true => exact .inr ⟨⟨_, rfl⟩, rfl, .inl rfl⟩
    | false =>
    cases o.managedGroups with
    | true => exact .inr ⟨⟨_, rfl⟩, rfl, .inl rfl⟩
    | false =>
    cases o.listSubscriptions with
    | true => exact .inr ⟨⟨_, rfl⟩, rfl, .inl rfl⟩
    | false =>
    simp only [Bool.false_eq_true, if_false]
    cases hsync : syncOutbounds (syncInput s.db) (config.getD ∅) with
    | error e => exact .inr ⟨⟨e, rfl⟩, rfl, .inl rfl⟩
    | ok synced =>
      obtain ⟨config', groupTags⟩ := synced
      cases config with
      | none => exact .inr ⟨⟨_, rfl⟩, rfl, .inl rfl⟩
      | some config =>
        obtain ⟨hdecodable, rfl, rfl⟩ := (syncOutbounds_ok_iff _ _ _ _).mp hsync
        have hconfig : s.config? codec = some config :=
          SyncState.config?_eq_some.mpr ⟨previous, htarget, hdecode⟩
        dsimp only [Option.getD_some]
        rcases SyncCommit.write_cases codec o ⟨previous⟩
            (syncedConfig (syncInput s.db) config) (syncInput s.db).groupTags s with
          ⟨hok, hwrote, hdb⟩ | ⟨herr, hdb, hfile⟩
        · exact .inl ⟨config, hconfig, hdecodable, hok, hwrote, hdb⟩
        · refine .inr ⟨herr, hdb, ?_⟩
          rcases hfile with hsame | hback | ⟨hstep, hwrote⟩
          · exact .inl hsame
          · exact .inl (hback.trans htarget.symm)
          · exact .inr ⟨hstep, config, hconfig, hwrote⟩

def SyncOutcome.NoFault (o : SyncOutcome) : Prop :=
  o.readConfig = false ∧ o.urlTestDefaults = false ∧ o.managedGroups = false ∧
    o.listSubscriptions = false ∧ (∀ step, o.write step = false) ∧ o.saveGroups = false

/-- Without faults a synchronisation succeeds on every configuration object, as long as every
stored raw configuration is an object. -/
theorem syncOutboundsToConfig_succeeds {codec : JSONCodec Bytes} {o : SyncOutcome}
    (ho : o.NoFault) {s : SyncState Bytes} {config : Object}
    (hconfig : s.config? codec = some config) (hdecodable : (syncInput s.db).Decodable) :
    (syncOutboundsToConfig codec o s).2 = .ok () := by
  obtain ⟨hread, hdefaults, hgroups, hlist, hwrite, hsave⟩ := ho
  obtain ⟨data, htarget, hdecode⟩ := SyncState.config?_eq_some.mp hconfig
  have hsync : syncOutbounds (syncInput s.db) config =
      .ok (syncedConfig (syncInput s.db) config, (syncInput s.db).groupTags) :=
    (syncOutbounds_ok_iff _ _ _ _).mpr ⟨hdecodable, rfl, rfl⟩
  have hok := (atomicWriteFile_ok hwrite
    (codec.marshal (Object.toValue (syncedConfig (syncInput s.db) config))) s.dir).1
  unfold syncOutboundsToConfig
  rw [readSyncConfig_ok_iff.mpr ⟨hread, htarget, hdecode⟩]
  simp only [hdefaults, hgroups, hlist, Option.getD_some, hsync,
    Bool.false_eq_true, if_false, SyncCommit.write]
  rcases hw : atomicWriteFile o.write
    (codec.marshal (Object.toValue (syncedConfig (syncInput s.db) config))) s.dir with ⟨dir, r⟩
  rw [hw] at hok
  obtain rfl : r = .ok () := hok
  simp [hsave]

theorem SyncOutcome.clean_noFault : SyncOutcome.clean.NoFault :=
  ⟨rfl, rfl, rfl, rfl, fun _ => rfl, rfl⟩

theorem SyncState.Wrote.outbounds {codec : JSONCodec Bytes} {input : SyncInput}
    {config : Object} {s : SyncState Bytes} (h : s.Wrote codec input config) :
    s.outbounds codec = (input.outbounds (existingOutbounds config)).map Value.json := by
  rw [SyncState.outbounds, h.config?, Option.map_some, Option.getD_some, existingOutbounds,
    getElem?_syncedConfig_outbounds]
  rfl

theorem SyncState.Wrote.outboundTags {codec : JSONCodec Bytes} {input : SyncInput}
    {config : Object} {s : SyncState Bytes} (h : s.Wrote codec input config) :
    s.outboundTags codec = (input.outbounds (existingOutbounds config)).map tagOf := by
  rw [SyncState.outboundTags, h.outbounds]
  simp [Function.comp_def]

/-- A synchronisation that succeeds has written the planned configuration. -/
theorem syncOutboundsToConfig_ok {codec : JSONCodec Bytes} {o : SyncOutcome}
    {s : SyncState Bytes} {config : Object} (hconfig : s.config? codec = some config)
    (hok : (syncOutboundsToConfig codec o s).2 = .ok ()) :
    (syncInput s.db).Decodable ∧
      (syncOutboundsToConfig codec o s).1.Wrote codec (syncInput s.db) config ∧
      (syncOutboundsToConfig codec o s).1.db =
        SettingsManager.setURLTestManagedGroups (syncInput s.db).groupTags s.db := by
  rcases syncOutboundsToConfig_cases codec o s with
    ⟨config', hconfig', hdecodable, -, hwrote, hdb⟩ | ⟨⟨e, herr⟩, -⟩
  · obtain rfl := Option.some.inj (hconfig.symm.trans hconfig')
    exact ⟨hdecodable, hwrote, hdb⟩
  · rw [hok] at herr
    cases herr

end Boxui.API
