import Boxui.API.InstallClosure
import Boxui.API.RequestFrames

/-! Reference closure over runs: requests, installations of the default outbounds and of the
default route rules, in any order. -/
namespace Boxui.API
open GoValue Boxui.Core Machine

variable {Bytes : Type*}

/-- What the handlers share. -/
structure Handlers (Bytes : Type*) where
  host : ConfigHost Bytes
  db : Database
  routeMetadata : RouteRuleMetadataBucket

inductive ConfigStep where
  | request (request : Request) (around : Surroundings)
  | installDefaultOutbounds (o : InstallOutcome)
  | installDefaultRouteRules (o : InstallOutcome)

def Handlers.syncState (s : Handlers Bytes) : SyncState Bytes := ⟨s.host.dir, s.db⟩

def Handlers.next (codec : JSONCodec Bytes) (d : Digest Bytes) (formatFloat : Rat → String)
    (s : Handlers Bytes) : ConfigStep → Handlers Bytes
  | .request request around =>
    let s' := (request.handle codec around s.syncState).1
    { s with host := { s.host with dir := s'.dir }, db := s'.db }
  | .installDefaultOutbounds o => { s with host := (installDefaultOutbounds codec o s.host).1 }
  | .installDefaultRouteRules o =>
    match installDefaultRouteRules codec d formatFloat o s.host s.routeMetadata with
    | (host, metadata, _) => { s with host := host, routeMetadata := metadata }

/-- The configuration in the file, if it is one, is closed. -/
def ClosedFile (codec : JSONCodec Bytes) (target : Option Bytes) : Prop :=
  ∀ data config, target = some data → decodeConfig codec data = some (some config) →
    Closed config

/-- What a step must meet to leave no reference dangling. Installing the default route rules
never does. -/
def Handlers.KeepsReferences (codec : JSONCodec Bytes) (s : Handlers Bytes) :
    ConfigStep → Prop
  | .request request around => ∀ db respond, request.store around s.db = (db, .sync respond) →
      ∀ config, s.syncState.config? codec = some config → (syncInput db).KeepsReferences config
  | .installDefaultOutbounds o =>
    ∀ config, readConfigMap codec o s.host.dir = .ok config → InstallKeepsReferences config
  | .installDefaultRouteRules _ => True

theorem closedFile_marshal (codec : JSONCodec Bytes) {config : Object} (hclosed : Closed config)
    (hlists : ObjectLists config) :
    ClosedFile codec (some (codec.marshal (Object.toValue config))) := by
  intro data config' htarget hdecode
  obtain rfl := Option.some.inj htarget
  rw [decodeConfig_marshal] at hdecode
  obtain rfl := Option.some.inj (Option.some.inj hdecode)
  exact hclosed.json hlists

theorem ClosedFile.config {codec : JSONCodec Bytes} {s : SyncState Bytes}
    (h : ClosedFile codec s.dir.target) {config : Object}
    (hconfig : s.config? codec = some config) :
    Closed config := by
  obtain ⟨data, htarget, hdecode⟩ := SyncState.config?_eq_some.mp hconfig
  exact h data config htarget hdecode

theorem ObjectLists.syncedConfig {config : Object} (h : ObjectLists config) (input : SyncInput) :
    ObjectLists (syncedConfig input config) := by
  constructor
  · intro ss
    rw [API.syncedConfig, getElem?_ensureRouteFinal _ (by decide)]
    simp
  · intro ss
    rw [SyncInput.routeOf_syncedConfig]
    split_ifs
    · exact h.2 ss
    · simpa using h.2 ss

theorem ObjectLists.withDefaultOutbounds {config : Object} (h : ObjectLists config) :
    ObjectLists (withDefaultOutbounds config) := by
  constructor
  · intro ss
    rw [API.withDefaultOutbounds, GoMap.getElem?_insert, GoMap.getElem?_insert]
    simp
  · intro ss
    rw [routeOf_withDefaultOutbounds]
    split
    · simpa using h.2 ss
    · simpa using h.2 ss
    · exact h.2 ss

theorem ObjectLists.withDefaultRouteRules (formatFloat : Rat → String) {config : Object}
    (h : ObjectLists config) : ObjectLists (withDefaultRouteRules formatFloat config) := by
  constructor
  · intro ss
    simpa [API.withDefaultRouteRules] using h.1 ss
  · intro ss
    simp [API.withDefaultRouteRules, routeOf]

theorem ClosedFile.readConfigMap {codec : JSONCodec Bytes} {o : InstallOutcome}
    {dir : Directory Bytes} (hfile : ClosedFile codec dir.target) {config : Object}
    (h : readConfigMap codec o dir = .ok config) : Closed config ∧ ObjectLists config := by
  obtain ⟨data, decoded, htarget, hdecode, rfl⟩ := readConfigMap_ok h
  cases decoded with
  | none => exact ⟨closed_empty, objectLists_of_json (by simp [Object.json])⟩
  | some config =>
    exact ⟨hfile data config htarget hdecode, objectLists_of_json (decodeConfig_json hdecode)⟩

theorem applyDefaults_target (codec : JSONCodec Bytes) (o : InstallOutcome) (cfg : Object)
    (installed : List Object) (host : ConfigHost Bytes) :
    (applyDefaults codec o cfg installed host).1.dir.target = host.dir.target ∨
      (applyDefaults codec o cfg installed host).1.dir.target =
        some (codec.marshal (Object.toValue cfg)) := by
  have h := applyConfigBytes_target (codec.marshal (Object.toValue cfg)) false o.apply host
  unfold applyDefaults
  rcases ha : applyConfigBytes (codec.marshal (Object.toValue cfg)) false o.apply host with
    ⟨host', e | result⟩ <;> rwa [ha] at h

theorem installDefaultOutbounds_target (codec : JSONCodec Bytes) (o : InstallOutcome)
    (host : ConfigHost Bytes) :
    (installDefaultOutbounds codec o host).1.dir.target = host.dir.target ∨
      ∃ config, readConfigMap codec o host.dir = .ok config ∧
        (installDefaultOutbounds codec o host).1.dir.target =
          some (codec.marshal (Object.toValue (withDefaultOutbounds config))) := by
  unfold installDefaultOutbounds
  cases hread : readConfigMap codec o host.dir with
  | error response => exact .inl rfl
  | ok config =>
    exact (applyDefaults_target codec o _ _ host).imp_right fun h => ⟨config, rfl, h⟩

theorem installDefaultRouteRules_target (codec : JSONCodec Bytes) (d : Digest Bytes)
    (formatFloat : Rat → String) (o : InstallOutcome) (host : ConfigHost Bytes)
    (metadata : RouteRuleMetadataBucket) :
    (installDefaultRouteRules codec d formatFloat o host metadata).1.dir.target =
        host.dir.target ∨
      ∃ config, readConfigMap codec o host.dir = .ok config ∧
        (installDefaultRouteRules codec d formatFloat o host metadata).1.dir.target =
          some (codec.marshal (Object.toValue (withDefaultRouteRules formatFloat config))) := by
  unfold installDefaultRouteRules
  cases hread : readConfigMap codec o host.dir with
  | error response => exact .inl rfl
  | ok config =>
    have h := applyDefaults_target codec o (withDefaultRouteRules formatFloat config)
      (DefaultRouteInstaller.install formatFloat config).installed host
    dsimp only
    rcases ha : applyDefaults codec o (withDefaultRouteRules formatFloat config)
      (DefaultRouteInstaller.install formatFloat config).installed host with ⟨host', response⟩
    rw [ha] at h
    refine Or.imp_right (fun h => ⟨config, rfl, h⟩) ?_
    dsimp only
    split_ifs
    · exact h
    · exact h
    · cases RouteRuleMetadataManager.applyDefaultNames d formatFloat
        (DefaultRouteInstaller.install formatFloat config).rules metadata <;> exact h

namespace Handlers

/-- Every subscription has a name, and no reference in the file dangles. -/
structure Sound (codec : JSONCodec Bytes) (s : Handlers Bytes) : Prop where
  named : Named s.db
  closed : ClosedFile codec s.host.dir.target

theorem Sound.request {codec : JSONCodec Bytes} {s : Handlers Bytes} (h : s.Sound codec)
    {request : Request} {around : Surroundings}
    (hkeeps : s.KeepsReferences codec (.request request around)) :
    Named (request.handle codec around s.syncState).1.db ∧
      ClosedFile codec (request.handle codec around s.syncState).1.dir.target := by
  have hnamed := (request.store_keepsGroups around s.db).named h.named
  unfold Request.handle
  rcases hstore : request.store around s.syncState.db with ⟨db, response | respond⟩
  · have hdb : Named db := by
      rw [show request.store around s.db = (db, .respond response) from hstore] at hnamed
      exact hnamed
    exact ⟨hdb, h.closed⟩
  · replace hstore : request.store around s.db = (db, .sync respond) := hstore
    rw [hstore] at hnamed
    have hgrouped : ∀ sub ∈ (syncInput db).grouped, sub.name ≠ "" :=
      fun sub hmem => groupTags_named hnamed hmem
    have hwrote {config : Object} (hconfig : s.syncState.config? codec = some config)
        {s' : SyncState Bytes} (hfile : s'.Wrote codec (syncInput db) config) :
        ClosedFile codec s'.dir.target := by
      have hclosed := SyncInput.closed_syncedConfig hgrouped
        (hkeeps db respond hstore config hconfig) (ClosedFile.config h.closed hconfig)
      rw [hfile]
      exact closedFile_marshal codec hclosed
        ((objectLists_of_json (SyncState.config?_json hconfig)).syncedConfig _)
    dsimp only
    rcases syncOutboundsToConfig_cases codec around.sync ⟨s.syncState.dir, db⟩ with
      ⟨config, hconfig, -, -, hfile, hdb⟩ | ⟨-, hdb, hsame | ⟨-, config, hconfig, hfile⟩⟩
    · refine ⟨?_, hwrote hconfig hfile⟩
      rw [hdb]
      exact hnamed
    · refine ⟨?_, ?_⟩
      · rw [hdb]
        exact hnamed
      · rw [hsame]
        exact h.closed
    · refine ⟨?_, hwrote hconfig hfile⟩
      rw [hdb]
      exact hnamed

theorem Sound.next {codec : JSONCodec Bytes} (d : Digest Bytes) (formatFloat : Rat → String)
    {s : Handlers Bytes} (h : s.Sound codec) {i : ConfigStep}
    (hkeeps : s.KeepsReferences codec i) : (s.next codec d formatFloat i).Sound codec := by
  cases i with
  | request request around =>
    obtain ⟨hnamed, hclosed⟩ := h.request hkeeps
    exact ⟨hnamed, hclosed⟩
  | installDefaultOutbounds o =>
    refine ⟨h.named, ?_⟩
    dsimp only [Handlers.next]
    rcases installDefaultOutbounds_target codec o s.host with hsame | ⟨config, hread, hfile⟩
    · rw [hsame]
      exact h.closed
    · obtain ⟨hclosed, hlists⟩ := ClosedFile.readConfigMap h.closed hread
      rw [hfile]
      exact closedFile_marshal codec
        (closed_withDefaultOutbounds (hkeeps config hread) hclosed) hlists.withDefaultOutbounds
  | installDefaultRouteRules o =>
    refine ⟨h.named, ?_⟩
    change ClosedFile codec (installDefaultRouteRules codec d formatFloat o s.host
      s.routeMetadata).1.dir.target
    rcases installDefaultRouteRules_target codec d formatFloat o s.host s.routeMetadata with
      hsame | ⟨config, hread, hfile⟩
    · rw [hsame]
      exact h.closed
    · obtain ⟨hclosed, hlists⟩ := ClosedFile.readConfigMap h.closed hread
      rw [hfile]
      exact closedFile_marshal codec (closed_withDefaultRouteRules formatFloat hclosed)
        (hlists.withDefaultRouteRules formatFloat)

end Handlers

/-- In every run whose steps keep the references, the file is closed after every step. -/
theorem closedFile_run (codec : JSONCodec Bytes) (d : Digest Bytes) (formatFloat : Rat → String)
    {s : Handlers Bytes} (hnamed : Named s.db) (hclosed : ClosedFile codec s.host.dir.target)
    {steps : List ConfigStep}
    (hkeeps : Along (Handlers.next codec d formatFloat) (Handlers.KeepsReferences codec) s steps)
    {visited : List ConfigStep} (hvisited : visited <+: steps) :
    ClosedFile codec (run (Handlers.next codec d formatFloat) s visited).host.dir.target := by
  obtain ⟨rest, rfl⟩ := hvisited
  have hsound : (run (Handlers.next codec d formatFloat) s visited).Sound codec :=
    run_along (P := Handlers.Sound codec) (fun s i hi h => h.next d formatFloat hi)
      hkeeps.of_append ⟨hnamed, hclosed⟩
  exact hsound.closed

/-- No call of an installation fails. -/
def InstallOutcome.clean : InstallOutcome where
  readConfig := false
  apply := .clean
  saveMetadata := false

def savedNode : Outbound := ⟨"hk", "vless", "192.0.2.1", 443, .null⟩

/-- Nothing is asked for over the network, and no call fails. -/
def offline : Surroundings where
  stx := ⟨fun _ => true, fun _ => true⟩
  download _ := .error "offline"
  now := 1
  sync := .clean

/-- An empty configuration, a stopped kernel and empty stores. -/
def emptyHandlers : Handlers { v : Value // v.json = v } where
  host := ⟨⟨some (documentCodec.marshal (Object.toValue ∅)), none⟩, some Kernel.newKernel⟩
  db := emptyDatabase
  routeMetadata := ⟨none⟩

/-- The digest of every document is that of the empty one; no rule is named below. -/
def documentDigest : Digest { v : Value // v.json = v } where
  marshal := documentCodec.marshal
  sum256 _ := "44136fa355b3678a1146ad16f7e8649e94fb4fc21fe77e8310c060f61caaff8a"

abbrev documentRun (steps : List ConfigStep) : Handlers { v : Value // v.json = v } :=
  run (Handlers.next documentCodec documentDigest fun _ => "0") emptyHandlers steps

theorem emptyHandlers_named : Named emptyHandlers.db := by
  intro id sub hget
  simp [emptyHandlers, emptyDatabase] at hget

theorem emptyHandlers_closed : ClosedFile documentCodec emptyHandlers.host.dir.target :=
  closedFile_marshal documentCodec closed_empty (objectLists_of_json (by simp [Object.json]))

def savedDatabase : Database :=
  { emptyDatabase with nodes := (∅ : GoMap Outbound).insert "hk" savedNode }

theorem savedDatabase_keepsReferences : (syncInput savedDatabase).KeepsReferences ∅ := by
  have hexisting : existingOutbounds ∅ = [] := by simp [existingOutbounds]
  have hgrouped : (syncInput savedDatabase).grouped = [] := by rfl
  have hstored : (syncInput savedDatabase).stored = [savedNode] := by rfl
  constructor
  · rw [hexisting]
    intro outbound hmem
    cases hmem
  · intro tag htag
    simp [routeReferences, routeRules, routeOf, Object.stringAt] at htag
  · intro
    rw [hexisting]
    exact .inr (.inr (.inr (.inr ⟨by decide, rfl⟩)))
  · intro outbound hmem tag htag
    rw [hstored, List.mem_singleton] at hmem
    subst hmem
    rw [hexisting] at htag
    have hnone : groupReferences (Object.toValue (managedEntry
      (indexExistingOutbounds [])[savedNode.tag]? savedNode)) = [] := by decide
    rw [hnone] at htag
    cases htag
  · rw [hgrouped]
    intro subscription hmem
    cases hmem
  · rw [hgrouped]
    intro subscription hmem
    cases hmem

def savedThenDeleted : List ConfigStep :=
  [.request (.saveNode savedNode) offline, .request (.deleteNode "hk") offline]

theorem savedThenDeleted_closed :
    (documentRun savedThenDeleted).syncState.outboundTags documentCodec =
        ["direct", "hk", "proxy"] ∧
      ClosedFile documentCodec (documentRun savedThenDeleted).host.dir.target := by
  refine ⟨by decide, ?_⟩
  have hsave : emptyHandlers.KeepsReferences documentCodec
      (.request (.saveNode savedNode) offline) := by
    intro db respond hstore config hconfig
    obtain rfl : savedDatabase = db := congrArg Prod.fst hstore
    obtain rfl : ∅ = config := by
      have hempty : emptyHandlers.syncState.config? documentCodec = some ∅ := by
        rw [SyncState.config?_eq_some]
        exact ⟨_, rfl, by rw [decodeConfig_marshal]; simp [Object.json]⟩
      exact Option.some.inj (hempty.symm.trans hconfig)
    exact savedDatabase_keepsReferences
  have hkeeps : Along (Handlers.next documentCodec documentDigest fun _ => "0")
      (Handlers.KeepsReferences documentCodec) emptyHandlers savedThenDeleted := by
    refine ⟨hsave, ?_, trivial⟩
    intro db respond hstore
    cases congrArg Prod.snd hstore
  exact closedFile_run documentCodec documentDigest (fun _ => "0") emptyHandlers_named
    emptyHandlers_closed hkeeps (List.prefix_refl _)

theorem ClosedFile.subset {codec : JSONCodec Bytes} {s : SyncState Bytes}
    (h : ClosedFile codec s.dir.target) :
    (s.outbounds codec).flatMap groupReferences ⊆ s.outboundTags codec := by
  intro tag htag
  obtain ⟨outbound, hmem, htag⟩ := List.mem_flatMap.mp htag
  unfold SyncState.outboundTags
  cases hconfig : s.config? codec with
  | none => simp [SyncState.outbounds, hconfig] at hmem
  | some config =>
    simp only [SyncState.outbounds, hconfig, Option.map_some, Option.getD_some] at hmem ⊢
    exact ((ClosedFile.config h hconfig).group outbound hmem tag htag).2

/-- The node's synchronisation drops the default outbound "bypass", which the default group
"whitelist" still names. -/
def installedThenSaved : List ConfigStep :=
  [.installDefaultOutbounds .clean, .request (.saveNode savedNode) offline]

theorem installedThenSaved_dangles :
    ClosedFile documentCodec emptyHandlers.host.dir.target ∧
    (Request.saveNode savedNode).synchronised documentCodec offline
      (documentRun [.installDefaultOutbounds .clean]).syncState = true ∧
    ¬ClosedFile documentCodec (documentRun installedThenSaved).host.dir.target := by
  refine ⟨emptyHandlers_closed, by decide, fun h => ?_⟩
  have hnamed : "bypass" ∈ ((documentRun installedThenSaved).syncState.outbounds
      documentCodec).flatMap groupReferences := by decide
  have hdropped : "bypass" ∉ (documentRun installedThenSaved).syncState.outboundTags
      documentCodec := by decide
  exact hdropped (ClosedFile.subset (s := (documentRun installedThenSaved).syncState) h hnamed)

end Boxui.API
