import Boxui.API.ConfigDefaults
import Boxui.API.Requests
import Boxui.Core.KernelCalls

/-! The requests for the configuration, the installers, the nodes and subscriptions, and the
service, one after another. The answers alone tell what is deployed: which bytes the file holds,
whether the kernel runs, and whether it runs what the file holds. The update of the rule-sets, which
stops and starts the kernel, is not among them, and no call of the database fails. -/
namespace Boxui.Core.Kernel

variable {Bytes : Type*}

/-- The bytes that the kernel runs. -/
def loaded (k : Kernel Bytes) : Option Bytes := k.1.box.map Box.config

theorem isSome_loaded (k : Kernel Bytes) : k.loaded.isSome = k.1.running := by
  rw [loaded, Option.isSome_map, k.2.running_eq]

theorem loaded_of_stopped {k : Kernel Bytes} (h : k.1.running = false) : k.loaded = none := by
  rw [loaded, (k.2.stopped h).1]
  rfl

theorem loaded_stop (k : Kernel Bytes) (closeFails : Bool) :
    (k.stop closeFails).1.loaded = none :=
  loaded_of_stopped (k.stop_running closeFails)

/-- A start leaves a running kernel alone; a stopped one runs the file, or is still stopped. -/
theorem loaded_start (k : Kernel Bytes) (file : Option Bytes) (o : StartOutcome) :
    match (k.start file o).2 with
    | .ok () => (k.start file o).1.loaded = k.loaded.or file
    | .error _ => k.loaded = none ∧ (k.start file o).1.loaded = none := by
  have hstart := SBInstance.start_cases file o k.1
  have hbox : (k.start file o).1.loaded = (k.1.start file o).1.box.map Box.config := rfl
  have hanswer : (k.start file o).2 = (k.1.start file o).2 := rfl
  rw [hbox, hanswer]
  rcases hstart with ⟨hrun, h⟩ | ⟨hrun, -, h⟩ | ⟨hrun, e, h⟩ | ⟨hrun, h⟩ |
    ⟨hrun, configData, hfile, h⟩
  · have hsome := k.2.running_eq
    rw [hrun] at hsome
    obtain ⟨box, hbox⟩ := Option.isSome_iff_exists.mp hsome.symm
    simp [h, loaded, hbox]
  · have hnone := loaded_of_stopped hrun
    rw [h]
    exact ⟨hnone, hnone⟩
  · have hnone := loaded_of_stopped hrun
    rw [h]
    exact ⟨hnone, hnone⟩
  · have hnone := loaded_of_stopped hrun
    rw [h]
    exact ⟨hnone, hnone⟩
  · rw [h, loaded_of_stopped hrun, hfile]
    rfl

/-- A restart loads the file or leaves the kernel stopped. -/
theorem loaded_restart (k : Kernel Bytes) (file : Option Bytes) (o : SBInstance.RestartOutcome) :
    match (k.restart file o).2 with
    | .ok () => ∃ data, file = some data ∧ (k.restart file o).1.loaded = some data
    | .error _ => (k.restart file o).1.loaded = none := by
  rcases hanswer : (k.restart file o).2 with e | u
  · have hstop := k.loaded_stop o.closeFails
    have hstart := (k.stop o.closeFails).1.loaded_start file o.start
    unfold restart SBInstance.restart loaded at *
    unfold start stop at hstart
    unfold stop at hstop
    dsimp only at hanswer hstop hstart ⊢
    rcases hS : k.1.stop o.closeFails with ⟨stopped, e' | u⟩
    · rw [hS] at hstop
      exact hstop
    · simp only [hS] at hstart hanswer ⊢
      rcases hT : stopped.start file o.start with ⟨started, e' | u⟩
      · rw [hT] at hstart
        exact hstart.2
      · rw [hT] at hanswer
        cases hanswer
  · obtain ⟨data, hfile, -, box, hbox, hconfig, -⟩ := restart_ok hanswer
    exact ⟨data, hfile, by rw [loaded, hbox, Option.map_some, hconfig]⟩

end Boxui.Core.Kernel

namespace Boxui.API
open GoValue Boxui.Core

variable {Bytes : Type*}

/-- The requests that apply a configuration, with how their calls turn out. -/
inductive ConfigRequest (Bytes : Type*) where
  | updateConfig (body : Bytes) (o : ApplyOutcome)
  | updateRawConfig (body : Bytes) (o : ApplyOutcome)
  | installDefaultOutbounds (o : InstallOutcome)
  | installDefaultRouteRules (o : InstallOutcome)
  | installDefaultDNS (o : InstallOutcome)
  | installDefaultRuleSets (entries : Except String (List Object)) (o : InstallOutcome)

inductive ServerRequest (Bytes : Type*) where
  | config (request : ConfigRequest Bytes)
  | node (request : Request) (around : Surroundings)
  | start (o : StartOutcome)
  | stop (closeFails : Bool)
  | restart (o : SBInstance.RestartOutcome)

structure Server (Bytes : Type*) where
  dir : Directory Bytes
  db : Database
  metadata : RouteRuleMetadataBucket
  kernel : Kernel Bytes

/-- What a client sees of an answer. -/
structure Answer where
  statusCode : Nat
  status : String
  deriving DecidableEq, Repr

def ConfigRequest.handle (codec : JSONCodec Bytes) (d : Digest Bytes)
    (formatFloat : Rat → String) (host : ConfigHost Bytes) (metadata : RouteRuleMetadataBucket) :
    ConfigRequest Bytes → ConfigHost Bytes × RouteRuleMetadataBucket × ConfigResponse
  | .updateConfig body o =>
    let (host, response) := API.updateConfig codec body o host
    (host, metadata, response)
  | .updateRawConfig body o =>
    let (host, response) := API.updateRawConfig body o host
    (host, metadata, response)
  | .installDefaultOutbounds o =>
    let (host, response) := API.installDefaultOutbounds codec o host
    (host, metadata, response)
  | .installDefaultRouteRules o => API.installDefaultRouteRules codec d formatFloat o host metadata
  | .installDefaultDNS o =>
    let (host, response) := API.installDefaultDNS codec o host
    (host, metadata, response)
  | .installDefaultRuleSets entries o =>
    let (host, response) := API.installDefaultRuleSets codec entries o host
    (host, metadata, response)

/-- The answer of `Start`, `Stop` and `Restart`. -/
def serviceAnswer {ε : Type*} : Except ε Unit → Answer
  | .error _ => ⟨500, "error"⟩
  | .ok () => ⟨200, statusOK⟩

namespace Server

def handle (codec : JSONCodec Bytes) (d : Digest Bytes) (formatFloat : Rat → String)
    (s : Server Bytes) : ServerRequest Bytes → Server Bytes × Answer
  | .config request =>
    let (host, metadata, response) :=
      request.handle codec d formatFloat ⟨s.dir, some s.kernel⟩ s.metadata
    (⟨host.dir, s.db, metadata, host.inst.getD s.kernel⟩, ⟨response.statusCode, response.status⟩)
  | .node request around =>
    let (state, response) := request.handle codec around ⟨s.dir, s.db⟩
    (⟨state.dir, state.db, s.metadata, s.kernel⟩, ⟨response.statusCode, response.status⟩)
  | .start o =>
    let (kernel, r) := s.kernel.start s.dir.target o
    ({ s with kernel := kernel }, serviceAnswer r)
  | .stop closeFails =>
    let (kernel, r) := s.kernel.stop closeFails
    ({ s with kernel := kernel }, serviceAnswer r)
  | .restart o =>
    let (kernel, r) := s.kernel.restart s.dir.target o
    ({ s with kernel := kernel }, serviceAnswer r)

/-- The server after the requests, and the log of what it answered. -/
def serve (codec : JSONCodec Bytes) (d : Digest Bytes) (formatFloat : Rat → String) :
    Server Bytes → List (ServerRequest Bytes) → Server Bytes × List (ServerRequest Bytes × Answer)
  | s, [] => (s, [])
  | s, request :: requests =>
    let (s, answer) := s.handle codec d formatFloat request
    let (s, log) := serve codec d formatFloat s requests
    (s, (request, answer) :: log)

end Server

/-! ### What the answers tell -/

/-- What is known from the outside: the bytes of the file, whether the kernel runs, and whether
it runs the bytes of the file if it does. -/
structure Audit (Bytes : Type*) where
  file : Option Bytes
  running : Option Bool
  coherent : Bool

namespace Audit

def unknown : Audit Bytes := ⟨none, none, false⟩

/-- The bytes that a request asks to deploy, where it carries them. -/
def requested : ConfigRequest Bytes → Option Bytes
  | .updateConfig body _ | .updateRawConfig body _ => some body
  | _ => none

/-- A request answered by a configuration in place has restarted the kernel on it. An internal
error leaves open what the file holds and whether the kernel runs. -/
def observeConfig (a : Audit Bytes) (request : ConfigRequest Bytes) (answer : Answer) :
    Audit Bytes :=
  if answer.statusCode = 200 then
    ⟨if answer.status = statusRolledBack then a.file else requested request, some true, true⟩
  else if answer.statusCode = 500 then ⟨none, none, a.coherent⟩
  else a

/-- The requests whose handler may synchronise the nodes into the file. -/
def mayWrite : Request → Bool
  | .saveNode _ | .updateNode _ _ | .syncToConfig | .refreshSubscription _
  | .refreshAllSubscriptions => true
  | _ => false

/-- A synchronisation leaves the kernel on what it runs. -/
def observe (a : Audit Bytes) : ServerRequest Bytes × Answer → Audit Bytes
  | (.config request, answer) => a.observeConfig request answer
  | (.node request _, _) =>
    if mayWrite request then ⟨none, a.running, a.running == some false⟩ else a
  | (.start _, answer) =>
    if answer.statusCode = 200 then ⟨a.file, some true, a.coherent⟩
    else ⟨a.file, some false, true⟩
  | (.stop _, _) => ⟨a.file, some false, true⟩
  | (.restart _, answer) => ⟨a.file, some (answer.statusCode = 200), true⟩

/-- What is known is so. -/
structure Describes (a : Audit Bytes) (file loaded : Option Bytes) : Prop where
  file_eq : ∀ data, a.file = some data → file = some data
  running_eq : ∀ b, a.running = some b → loaded.isSome = b
  coherent : a.coherent = true → ∀ data, loaded = some data → file = some data

end Audit

/-! ### The handlers, seen from the outside -/

theorem rollbackConfig_exits (previous : Option Bytes) (o : ApplyOutcome) (dir : Directory Bytes) :
    match rollbackConfig previous o dir with
    | (dir', .ok ()) => dir'.target = previous
    | (_, .error e) => e ≠ .invalidRuntimeConfig := by
  cases previous with
  | some previousBody =>
    have hwrite := atomicWriteFile_cases o.rollbackWrite previousBody dir
    dsimp only [rollbackConfig]
    rcases hw : atomicWriteFile o.rollbackWrite previousBody dir with ⟨dir', e | u⟩
    · exact ApplyError.noConfusion
    · rw [hw] at hwrite
      simpa using hwrite
  | none =>
    cases htarget : dir.target <;> cases hremove : o.rollbackRemove <;>
      simp [rollbackConfig, removeConfig, htarget, hremove]

/-- The exits of an application with a kernel at hand. An error that changed anything has left
the kernel stopped. -/
theorem applyConfigBytes_exits (body : Bytes) (shouldValidate : Bool) (o : ApplyOutcome)
    (dir : Directory Bytes) (kernel : Kernel Bytes) :
    ∃ dir' kernel' r, applyConfigBytes body shouldValidate o ⟨dir, some kernel⟩ =
        (⟨dir', some kernel'⟩, r) ∧
      match r with
      | .ok result =>
        result.status = statusOK ∧ dir'.target = some body ∧ kernel'.loaded = some body ∨
        result.status = statusRolledBack ∧ ∃ prior, dir.target = some prior ∧
          dir'.target = some prior ∧ kernel'.loaded = some prior
      | .error e =>
        dir'.target = dir.target ∧ kernel' = kernel ∨
        e ≠ .invalidRuntimeConfig ∧ kernel'.loaded = none := by
  unfold applyConfigBytes
  split_ifs
  · exact ⟨dir, kernel, _, rfl, .inl ⟨rfl, rfl⟩⟩
  · exact ⟨dir, kernel, _, rfl, .inl ⟨rfl, rfl⟩⟩
  dsimp only
  have hwrite := atomicWriteFile_cases o.write body dir
  rcases hw : atomicWriteFile o.write body dir with ⟨dir₁, r⟩
  rw [hw] at hwrite
  rcases hwrite with ⟨hok, htarget⟩ | ⟨step, -, herr, htarget⟩
  swap
  · obtain rfl : r = .error step := herr
    exact ⟨dir₁, kernel, _, rfl, .inl ⟨htarget, rfl⟩⟩
  obtain rfl : r = .ok () := hok
  dsimp only at htarget ⊢
  have hfirst := kernel.loaded_restart dir₁.target o.restart
  rcases hr : kernel.restart dir₁.target o.restart with ⟨kernel₁, e | u⟩
  · rw [hr] at hfirst
    dsimp only at hfirst ⊢
    have hback := rollbackConfig_exits dir.target o dir₁
    rcases hb : rollbackConfig dir.target o dir₁ with ⟨dir₂, e' | u⟩
    · rw [hb] at hback
      exact ⟨dir₂, kernel₁, _, rfl, .inr ⟨hback, hfirst⟩⟩
    · rw [hb] at hback
      have hsecond := kernel₁.loaded_restart dir₂.target o.rollbackRestart
      dsimp only at hback ⊢
      rcases hr₁ : kernel₁.restart dir₂.target o.rollbackRestart with ⟨kernel₂, e' | u⟩
      · rw [hr₁] at hsecond
        exact ⟨dir₂, kernel₂, _, rfl, .inr ⟨ApplyError.noConfusion, hsecond⟩⟩
      · rw [hr₁] at hsecond
        obtain ⟨prior, hprior, hloaded⟩ := hsecond
        exact ⟨dir₂, kernel₂, _, rfl, .inr ⟨rfl, prior, hback ▸ hprior, hprior, hloaded⟩⟩
  · rw [hr] at hfirst
    obtain ⟨data, hdata, hloaded⟩ := hfirst
    obtain rfl : body = data := Option.some.inj (htarget.symm.trans hdata)
    exact ⟨dir₁, kernel₁, _, rfl, .inl ⟨rfl, htarget, hloaded⟩⟩

/-- What an answer to an application of a configuration tells of the file and the kernel. -/
inductive Applied (requested file loaded : Option Bytes) :
    Answer → Option Bytes → Option Bytes → Prop where
  | deployed {body : Bytes} (h : ∀ data, requested = some data → data = body) :
    Applied requested file loaded ⟨200, statusOK⟩ (some body) (some body)
  | rolledBack {prior : Bytes} (h : file = some prior) :
    Applied requested file loaded ⟨200, statusRolledBack⟩ (some prior) (some prior)
  | failed {file' loaded' : Option Bytes}
    (h : file' = file ∧ loaded' = loaded ∨ ∀ data, loaded' = some data → file' = some data) :
    Applied requested file loaded ⟨500, "error"⟩ file' loaded'
  | refused {statusCode : Nat} (h : statusCode ≠ 200 ∧ statusCode ≠ 500) :
    Applied requested file loaded ⟨statusCode, "error"⟩ file loaded

theorem Applied.coherent {requested file loaded file' loaded' : Option Bytes} {answer : Answer}
    (h : Applied requested file loaded answer file' loaded') (hcode : answer.statusCode = 200) :
    ∀ data, loaded' = some data → file' = some data := by
  cases h with
  | deployed hbody => exact fun data hdata => hdata
  | rolledBack hprior => exact fun data hdata => hdata
  | failed hfailed => exact absurd hcode (by decide)
  | refused hrefused => exact absurd hcode hrefused.1

def ConfigResponse.answer (r : ConfigResponse) : Answer := ⟨r.statusCode, r.status⟩

theorem updateRawConfig_applied (body : Bytes) (o : ApplyOutcome) (dir : Directory Bytes)
    (kernel : Kernel Bytes) :
    ∃ dir' kernel' response,
      updateRawConfig body o ⟨dir, some kernel⟩ = (⟨dir', some kernel'⟩, response) ∧
      Applied (some body) dir.target kernel.loaded response.answer dir'.target kernel'.loaded := by
  obtain ⟨dir', kernel', r, happly, hexit⟩ := applyConfigBytes_exits body true o dir kernel
  refine ⟨dir', kernel', updateResponse r, by rw [updateRawConfig, happly], ?_⟩
  rcases r with e | ⟨status, apiErr⟩
  · have hfailed : e ≠ .invalidRuntimeConfig →
        (updateResponse (.error e)).answer = ⟨500, "error"⟩ := by
      cases e <;> simp [updateResponse, ConfigResponse.error, ConfigResponse.answer]
    rcases hexit with ⟨htarget, rfl⟩ | ⟨hne, hstopped⟩
    · by_cases he : e = .invalidRuntimeConfig
      · subst he
        rw [htarget]
        exact .refused (by decide)
      · rw [hfailed he]
        exact .failed (.inl ⟨htarget, rfl⟩)
    · rw [hfailed hne]
      exact .failed (.inr fun data h => by simp [hstopped] at h)
  · rcases hexit with ⟨hstatus, htarget, hloaded⟩ | ⟨hstatus, prior, hprior, htarget, hloaded⟩
    · obtain rfl : status = statusOK := hstatus
      rw [htarget, hloaded]
      exact .deployed fun data h => (Option.some.inj h).symm
    · obtain rfl : status = statusRolledBack := hstatus
      rw [htarget, hloaded]
      exact .rolledBack hprior

theorem applyDefaults_applied (codec : JSONCodec Bytes) (o : InstallOutcome) (cfg : Object)
    (installed : List Object) (dir : Directory Bytes) (kernel : Kernel Bytes) :
    ∃ dir' kernel' response,
      applyDefaults codec o cfg installed ⟨dir, some kernel⟩ = (⟨dir', some kernel'⟩, response) ∧
      Applied none dir.target kernel.loaded response.answer dir'.target kernel'.loaded := by
  obtain ⟨dir', kernel', r, happly, hexit⟩ := applyConfigBytes_exits
    (codec.marshal (Object.toValue cfg)) false o.apply dir kernel
  unfold applyDefaults
  rw [happly]
  rcases r with e | ⟨status, apiErr⟩
  · refine ⟨dir', kernel', _, rfl, ?_⟩
    rcases hexit with ⟨htarget, rfl⟩ | ⟨-, hstopped⟩
    · exact .failed (.inl ⟨htarget, rfl⟩)
    · exact .failed (.inr fun data h => by simp [hstopped] at h)
  · refine ⟨dir', kernel', _, rfl, ?_⟩
    rcases hexit with ⟨hstatus, htarget, hloaded⟩ | ⟨hstatus, prior, hprior, htarget, hloaded⟩
    · obtain rfl : status = statusOK := hstatus
      rw [htarget, hloaded]
      exact .deployed fun data h => by cases h
    · obtain rfl : status = statusRolledBack := hstatus
      rw [htarget, hloaded]
      exact .rolledBack hprior

theorem readConfigMap_refused {codec : JSONCodec Bytes} {o : InstallOutcome}
    {dir : Directory Bytes} {response : ConfigResponse}
    (h : readConfigMap codec o dir = .error response) (loaded : Option Bytes) :
    Applied none dir.target loaded response.answer dir.target loaded := by
  unfold readConfigMap at h
  split at h
  · obtain rfl := Except.error.inj h
    exact .refused (by decide)
  · obtain rfl := Except.error.inj h
    exact .refused (by decide)
  · split at h
    · obtain rfl := Except.error.inj h
      exact .failed (.inl ⟨rfl, rfl⟩)
    · cases h

/-- An installation that cannot read the configuration refuses, and applies its own otherwise. -/
theorem installation_applied {codec : JSONCodec Bytes} {o : InstallOutcome}
    {dir : Directory Bytes} {kernel : Kernel Bytes} (handled : ConfigHost Bytes × ConfigResponse)
    (install : Object → Object × List Object)
    (h : handled = match readConfigMap codec o dir with
      | .error response => (⟨dir, some kernel⟩, response)
      | .ok cfg => applyDefaults codec o (install cfg).1 (install cfg).2 ⟨dir, some kernel⟩) :
    ∃ dir' kernel' response, handled = (⟨dir', some kernel'⟩, response) ∧
      Applied none dir.target kernel.loaded response.answer dir'.target kernel'.loaded := by
  subst h
  cases hread : readConfigMap codec o dir with
  | error response => exact ⟨dir, kernel, response, rfl, readConfigMap_refused hread kernel.loaded⟩
  | ok cfg => exact applyDefaults_applied codec o (install cfg).1 (install cfg).2 dir kernel

/-- A failure to name the rules comes after they are in the file and the kernel runs them. -/
theorem installDefaultRouteRules_audited (codec : JSONCodec Bytes) (d : Digest Bytes)
    (formatFloat : Rat → String) (o : InstallOutcome) (dir : Directory Bytes)
    (kernel : Kernel Bytes) (metadata : RouteRuleMetadataBucket) :
    ∃ dir' kernel' metadata' response,
      installDefaultRouteRules codec d formatFloat o ⟨dir, some kernel⟩ metadata =
        (⟨dir', some kernel'⟩, metadata', response) ∧
      Applied none dir.target kernel.loaded response.answer dir'.target kernel'.loaded := by
  unfold installDefaultRouteRules
  cases hread : readConfigMap codec o dir with
  | error response =>
    exact ⟨dir, kernel, metadata, response, rfl, readConfigMap_refused hread kernel.loaded⟩
  | ok cfg =>
    obtain ⟨dir', kernel', response, happly, happlied⟩ := applyDefaults_applied codec o
      (withDefaultRouteRules formatFloat cfg)
      (DefaultRouteInstaller.install formatFloat cfg).installed dir kernel
    dsimp only
    rw [happly]
    dsimp only
    have hnew : ¬(response.statusCode ≠ 200 ∨ response.status = statusRolledBack) →
        ∀ data, kernel'.loaded = some data → dir'.target = some data := fun hkept =>
      happlied.coherent (not_not.mp (not_or.mp hkept).1)
    split_ifs with hkept hsave
    · exact ⟨dir', kernel', metadata, response, rfl, happlied⟩
    · exact ⟨dir', kernel', metadata, _, rfl, .failed (.inr (hnew hkept))⟩
    · cases RouteRuleMetadataManager.applyDefaultNames d formatFloat
        (DefaultRouteInstaller.install formatFloat cfg).rules metadata with
      | error e => exact ⟨dir', kernel', metadata, _, rfl, .failed (.inr (hnew hkept))⟩
      | ok named => exact ⟨dir', kernel', named, response, rfl, happlied⟩

theorem ConfigRequest.handle_applied (codec : JSONCodec Bytes) (d : Digest Bytes)
    (formatFloat : Rat → String) (dir : Directory Bytes) (kernel : Kernel Bytes)
    (metadata : RouteRuleMetadataBucket) (request : ConfigRequest Bytes) :
    ∃ dir' kernel' metadata' response,
      request.handle codec d formatFloat ⟨dir, some kernel⟩ metadata =
        (⟨dir', some kernel'⟩, metadata', response) ∧
      Applied (Audit.requested request) dir.target kernel.loaded response.answer dir'.target
        kernel'.loaded := by
  cases request with
  | updateConfig body o =>
    cases hjson : codec.unmarshal body with
    | none =>
      refine ⟨dir, kernel, metadata, .error 400 "invalid_request" "invalid JSON", ?_,
        .refused (by decide)⟩
      simp [handle, API.updateConfig, hjson]
    | some doc =>
      obtain ⟨dir', kernel', response, h, happlied⟩ := updateRawConfig_applied body o dir kernel
      refine ⟨dir', kernel', metadata, response, ?_, happlied⟩
      simp [handle, API.updateConfig, hjson, h]
  | updateRawConfig body o =>
    obtain ⟨dir', kernel', response, h, happlied⟩ := updateRawConfig_applied body o dir kernel
    exact ⟨dir', kernel', metadata, response, by simp [handle, h], happlied⟩
  | installDefaultOutbounds o =>
    obtain ⟨dir', kernel', response, h, happlied⟩ := installation_applied
      (API.installDefaultOutbounds codec o ⟨dir, some kernel⟩)
      (fun cfg => (withDefaultOutbounds cfg, (DefaultOutboundsInstaller.install cfg).installed)) rfl
    exact ⟨dir', kernel', metadata, response, by rw [handle, h], happlied⟩
  | installDefaultRouteRules o =>
    exact installDefaultRouteRules_audited codec d formatFloat o dir kernel metadata
  | installDefaultDNS o =>
    obtain ⟨dir', kernel', response, h, happlied⟩ := installation_applied
      (API.installDefaultDNS codec o ⟨dir, some kernel⟩)
      (fun cfg => (cfg.insert "dns" (Object.toValue (DefaultDNSInstaller.install cfg).dns),
        [(DefaultDNSInstaller.install cfg).installed])) rfl
    exact ⟨dir', kernel', metadata, response, by rw [handle, h], happlied⟩
  | installDefaultRuleSets entries o =>
    cases entries with
    | error message =>
      refine ⟨dir, kernel, metadata, .error 502 "bad_gateway" message, rfl, .refused ?_⟩
      exact ⟨(by decide : 502 ≠ 200), (by decide : 502 ≠ 500)⟩
    | ok entries =>
      obtain ⟨dir', kernel', response, h, happlied⟩ := installation_applied
        (API.installDefaultRuleSets codec (.ok entries) o ⟨dir, some kernel⟩)
        (fun cfg => (withRuleSets cfg entries, entries)) rfl
      exact ⟨dir', kernel', metadata, response, by rw [handle, h], happlied⟩

/-- A request that never synchronises leaves the file to the others. -/
theorem handle_dir_of_not_mayWrite {request : Request} (hrequest : Audit.mayWrite request = false)
    (codec : JSONCodec Bytes) (around : Surroundings) (s : SyncState Bytes) :
    (request.handle codec around s).1.dir = s.dir := by
  have hstore : ∃ response, (request.store around s.db).2 = .respond response := by
    cases request with
    | deleteNode tag =>
      simp only [Request.store, Request.deleteNodeStore]
      split_ifs <;> exact ⟨_, rfl⟩
    | createSubscription params =>
      simp only [Request.store, Request.createSubscriptionStore]
      by_cases hblank : params.name = "" ∨ params.url = ""
      · rw [if_pos hblank]
        exact ⟨_, rfl⟩
      · rw [if_neg hblank]
        split
        · exact ⟨_, rfl⟩
        · split <;> exact ⟨_, rfl⟩
    | updateSubscription id params =>
      simp only [Request.store, Request.updateSubscriptionStore]
      split
      · exact ⟨_, rfl⟩
      · split <;> exact ⟨_, rfl⟩
    | deleteSubscription id =>
      simp only [Request.store, Request.deleteSubscriptionStore]
      split <;> exact ⟨_, rfl⟩
    | setURLTestDefaults request =>
      simp only [Request.store, Request.setURLTestDefaultsStore]
      split
      · exact ⟨_, rfl⟩
      · split
        · exact ⟨_, rfl⟩
        · split <;> exact ⟨_, rfl⟩
    | saveNode | updateNode | syncToConfig | refreshSubscription | refreshAllSubscriptions =>
      cases hrequest
  obtain ⟨response, hresponse⟩ := hstore
  unfold Request.handle
  rcases h : request.store around s.db with ⟨db, followup⟩
  rw [h] at hresponse
  obtain rfl : followup = .respond response := hresponse
  rfl

theorem Audit.Describes.observeConfig {a : Audit Bytes} {file loaded file' loaded' : Option Bytes}
    {request : ConfigRequest Bytes} {answer : Answer} (ha : a.Describes file loaded)
    (h : Applied (Audit.requested request) file loaded answer file' loaded') :
    (a.observeConfig request answer).Describes file' loaded' := by
  have hcoherent := h.coherent
  cases h with
  | deployed hbody =>
    rw [Audit.observeConfig, if_pos rfl, if_neg (by decide)]
    exact ⟨fun data hdata => congrArg some (hbody data hdata).symm,
      fun b hb => Option.some.inj hb, fun _ => hcoherent rfl⟩
  | rolledBack hprior =>
    rw [Audit.observeConfig, if_pos rfl, if_pos rfl]
    exact ⟨fun data hdata => hprior ▸ ha.file_eq data hdata, fun b hb => Option.some.inj hb,
      fun _ => hcoherent rfl⟩
  | failed hfailed =>
    rw [Audit.observeConfig, if_neg (by decide), if_pos rfl]
    refine ⟨fun data hdata => (by cases hdata), fun b hb => (by cases hb), fun hknown => ?_⟩
    rcases hfailed with ⟨rfl, rfl⟩ | hnew
    · exact ha.coherent hknown
    · exact hnew
  | refused hcode =>
    rw [Audit.observeConfig, if_neg hcode.1, if_neg hcode.2]
    exact ha

/-- A stopped kernel is at odds with no file. -/
theorem Audit.Describes.stopped {file loaded : Option Bytes} {a : Audit Bytes}
    (ha : ∀ data, a.file = some data → file = some data) (hloaded : loaded = none) :
    (⟨a.file, some false, true⟩ : Audit Bytes).Describes file loaded := by
  subst hloaded
  exact ⟨ha, fun b hb => Option.some.inj hb, fun _ data h => by cases h⟩

theorem Server.handle_describes (codec : JSONCodec Bytes) (d : Digest Bytes)
    (formatFloat : Rat → String) {s : Server Bytes} (request : ServerRequest Bytes)
    {a : Audit Bytes} (ha : a.Describes s.dir.target s.kernel.loaded) :
    (a.observe (request, (s.handle codec d formatFloat request).2)).Describes
      (s.handle codec d formatFloat request).1.dir.target
      (s.handle codec d formatFloat request).1.kernel.loaded := by
  cases request with
  | config request =>
    obtain ⟨dir', kernel', metadata', response, h, happlied⟩ :=
      request.handle_applied codec d formatFloat s.dir s.kernel s.metadata
    simp only [handle, h]
    exact ha.observeConfig happlied
  | node request around =>
    simp only [handle, Audit.observe]
    split_ifs with hrequest
    · -- the file may be new, and only a kernel that is known not to run is not at odds with it
      refine ⟨fun data h => (by cases h), ha.running_eq, fun hstopped data hdata => ?_⟩
      have hnone := ha.running_eq false (by simpa using hstopped)
      rw [hdata] at hnone
      cases hnone
    · rw [handle_dir_of_not_mayWrite (by simpa using hrequest)]
      exact ha
  | start o =>
    have hstart := s.kernel.loaded_start s.dir.target o
    simp only [handle]
    rcases h : s.kernel.start s.dir.target o with ⟨kernel, e | u⟩
    · rw [h] at hstart
      exact .stopped ha.file_eq hstart.2
    · have hrunning := Kernel.start_running (congrArg Prod.snd h)
      rw [h] at hstart hrunning
      refine ⟨ha.file_eq, fun b hb => ?_, fun hknown data hdata => ?_⟩
      · obtain rfl : true = b := Option.some.inj hb
        rw [Kernel.isSome_loaded]
        exact hrunning
      · dsimp only at hstart hdata ⊢
        rw [hstart] at hdata
        cases hloaded : s.kernel.loaded with
        | none => simpa [hloaded] using hdata
        | some running =>
          obtain rfl : running = data := by simpa [hloaded] using hdata
          exact ha.coherent hknown running hloaded
  | stop closeFails => exact .stopped ha.file_eq (s.kernel.loaded_stop closeFails)
  | restart o =>
    have hrestart := s.kernel.loaded_restart s.dir.target o
    simp only [handle]
    rcases h : s.kernel.restart s.dir.target o with ⟨kernel, e | u⟩
    · rw [h] at hrestart
      exact .stopped ha.file_eq hrestart
    · rw [h] at hrestart
      obtain ⟨data, hfile, hloaded⟩ := hrestart
      dsimp only at hloaded ⊢
      rw [hfile, hloaded]
      exact ⟨hfile ▸ ha.file_eq, fun b hb => Option.some.inj hb, fun _ data h => h⟩

/-- After any run, from whatever state, what the answers tell of the file and the kernel is so. -/
theorem Server.audit_sound (codec : JSONCodec Bytes) (d : Digest Bytes)
    (formatFloat : Rat → String) (s : Server Bytes) (requests : List (ServerRequest Bytes)) :
    ((s.serve codec d formatFloat requests).2.foldl Audit.observe Audit.unknown).Describes
      (s.serve codec d formatFloat requests).1.dir.target
      (s.serve codec d formatFloat requests).1.kernel.loaded := by
  have hrun : ∀ (a : Audit Bytes), a.Describes s.dir.target s.kernel.loaded →
      ((s.serve codec d formatFloat requests).2.foldl Audit.observe a).Describes
        (s.serve codec d formatFloat requests).1.dir.target
        (s.serve codec d formatFloat requests).1.kernel.loaded := by
    induction requests generalizing s with
    | nil => exact fun a ha => ha
    | cons request requests ih =>
      intro a ha
      exact ih _ _ (handle_describes codec d formatFloat request ha)
  exact hrun Audit.unknown ⟨fun data h => (by cases h), fun b h => (by cases h),
    fun h => (by cases h)⟩

end Boxui.API
