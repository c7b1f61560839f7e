import Boxui.API.ConfigDefaults
import Boxui.Library.SharedFile

/-! The requests that change the configuration file, cut into their reads and writes of it. No
lock orders these between requests. A synchronisation reads the file once; the other handlers
read it again just before they write it. -/
namespace Boxui.API
open GoValue Boxui.Core SharedFile

variable {Bytes : Type*}

/-- A request that changes the configuration, with what it meets outside the file: the stores
as it reads them, the kernel it restarts, and how its calls turn out. -/
inductive ConfigMutation (Bytes : Type*) where
  | syncOutboundsToConfig (db : Database) (o : SyncOutcome)
  | updateConfig (inst : Option (Kernel Bytes)) (body : Bytes) (o : ApplyOutcome)
  | updateRawConfig (inst : Option (Kernel Bytes)) (body : Bytes) (o : ApplyOutcome)
  | installDefaultOutbounds (inst : Option (Kernel Bytes)) (o : InstallOutcome)
  | installDefaultRouteRules (inst : Option (Kernel Bytes)) (metadata : RouteRuleMetadataBucket)
    (o : InstallOutcome)
  | installDefaultDNS (inst : Option (Kernel Bytes)) (o : InstallOutcome)
  | installDefaultRuleSets (inst : Option (Kernel Bytes)) (entries : Except String (List Object))
    (o : InstallOutcome)

def ConfigResponse.succeeded (r : ConfigResponse) : Bool :=
  r.statusCode == 200 && r.status == statusOK

/-- The write of a configuration, the restart on it, and the way back. -/
def applyPlan (inst : Option (Kernel Bytes)) (body : Bytes) (o : ApplyOutcome)
    (reportFails : Bool) : Plan Bytes where
  body := body
  rereadFails := o.readFile
  writeFails := writeFails o.write
  commitFails :=
    match inst with
    | none => false
    | some inst => !(inst.restart (some body) o.restart).2.isOk
  rollbackFails previous :=
    match previous with
    | some _ => writeFails o.rollbackWrite
    | none => o.rollbackRemove
  reportFails := reportFails

namespace ConfigMutation

/-- The request alone: what it leaves in the file, and whether it reports success. -/
def handle (codec : JSONCodec Bytes) (d : Digest Bytes) (formatFloat : Rat → String)
    (target : Option Bytes) : ConfigMutation Bytes → Option Bytes × Bool
  | .syncOutboundsToConfig db o =>
    let r := API.syncOutboundsToConfig codec o ⟨⟨target, none⟩, db⟩
    (r.1.dir.target, r.2.isOk)
  | .updateConfig inst body o => respond (API.updateConfig codec body o ⟨⟨target, none⟩, inst⟩)
  | .updateRawConfig inst body o => respond (API.updateRawConfig body o ⟨⟨target, none⟩, inst⟩)
  | .installDefaultOutbounds inst o =>
    respond (API.installDefaultOutbounds codec o ⟨⟨target, none⟩, inst⟩)
  | .installDefaultRouteRules inst metadata o =>
    let r := API.installDefaultRouteRules codec d formatFloat o ⟨⟨target, none⟩, inst⟩ metadata
    respond (r.1, r.2.2)
  | .installDefaultDNS inst o => respond (API.installDefaultDNS codec o ⟨⟨target, none⟩, inst⟩)
  | .installDefaultRuleSets inst entries o =>
    respond (API.installDefaultRuleSets codec entries o ⟨⟨target, none⟩, inst⟩)
where
  respond (r : ConfigHost Bytes × ConfigResponse) : Option Bytes × Bool :=
    (r.1.dir.target, r.2.succeeded)

def syncPlan (codec : JSONCodec Bytes) (db : Database) (o : SyncOutcome)
    (target : Option Bytes) : Option (Plan Bytes) :=
  match readSyncConfig codec o ⟨target, none⟩ with
  | .error _ => none
  | .ok (config, _) =>
    if o.urlTestDefaults || o.managedGroups || o.listSubscriptions then none
    else
      match syncOutbounds (syncInput db) (config.getD ∅), config with
      | .ok (synced, _), some _ => some {
        body := codec.marshal (Object.toValue synced)
        rereadFails := false
        writeFails := writeFails o.write
        commitFails := o.saveGroups
        rollbackFails _ := writeFails o.rollback
        reportFails := false }
      | _, _ => none

/-- An installation reads the configuration and lays `install` over it. -/
def installMutation (codec : JSONCodec Bytes) (inst : Option (Kernel Bytes)) (o : InstallOutcome)
    (install : Object → Object) (reportFails : Object → Bool) : Mutation Bytes where
  plan target :=
    match readConfigMap codec o ⟨target, none⟩ with
    | .error _ => none
    | .ok cfg => some (applyPlan inst (codec.marshal (Object.toValue (install cfg))) o.apply
        (reportFails cfg))
  rereads := true

/-- The request as a mutation of the shared file. -/
def shared (codec : JSONCodec Bytes) (d : Digest Bytes) (formatFloat : Rat → String) :
    ConfigMutation Bytes → Mutation Bytes
  | .syncOutboundsToConfig db o => { plan := syncPlan codec db o, rereads := false }
  | .updateConfig inst body o => {
    plan _ :=
      if (codec.unmarshal body).isNone || o.invalid then none
      else some (applyPlan inst body o false)
    rereads := true }
  | .updateRawConfig inst body o => {
    plan _ := if o.invalid then none else some (applyPlan inst body o false)
    rereads := true }
  | .installDefaultOutbounds inst o =>
    installMutation codec inst o withDefaultOutbounds fun _ => false
  | .installDefaultRouteRules inst metadata o =>
    installMutation codec inst o (withDefaultRouteRules formatFloat) fun cfg =>
      o.saveMetadata || !(RouteRuleMetadataManager.applyDefaultNames d formatFloat
        (DefaultRouteInstaller.install formatFloat cfg).rules metadata).isOk
  | .installDefaultDNS inst o =>
    installMutation codec inst o
      (fun cfg => cfg.insert "dns" (Object.toValue (DefaultDNSInstaller.install cfg).dns))
      fun _ => false
  | .installDefaultRuleSets inst entries o =>
    match entries with
    | .error _ => { plan _ := none, rereads := true }
    | .ok entries => installMutation codec inst o (withRuleSets · entries) fun _ => false

end ConfigMutation

theorem rollbackConfig_finish {body : Bytes} {dir : Directory Bytes}
    (hdir : dir.target = some body) (previous : Option Bytes) (inst : Option (Kernel Bytes))
    (o : ApplyOutcome) (reportFails : Bool) :
    (rollbackConfig previous o dir).2.isOk =
        !(applyPlan inst body o reportFails).rollbackFails previous ∧
      (rollbackConfig previous o dir).1.target =
        if (applyPlan inst body o reportFails).rollbackFails previous then some body
        else previous := by
  cases previous with
  | none =>
    cases hremove : o.rollbackRemove <;>
      simp [rollbackConfig, removeConfig, applyPlan, hdir, hremove]
  | some previousBody =>
    have hok := atomicWriteFile_isOk o.rollbackWrite previousBody dir
    have hcases := atomicWriteFile_cases o.rollbackWrite previousBody dir
    dsimp only [rollbackConfig, applyPlan]
    rcases hw : atomicWriteFile o.rollbackWrite previousBody dir with ⟨dir', r⟩
    rw [hw] at hok hcases
    rcases hcases with ⟨hr, htarget⟩ | ⟨_, -, hr, htarget⟩
    · dsimp only at hok hr htarget ⊢
      subst hr
      have hfails : writeFails o.rollbackWrite = false := by
        simpa using hok
      simp [hfails, htarget]
    · dsimp only at hok hr htarget ⊢
      subst hr
      have hfails : writeFails o.rollbackWrite = true := by
        simpa using hok
      simp [hfails, htarget, hdir]

def applySucceeded : Except ApplyError ApplyResult → Bool
  | .ok result => result.status == statusOK
  | .error _ => false

/-- Applying a configuration is its plan, carried out alone. -/
theorem applyConfigBytes_finish {shouldValidate : Bool} {o : ApplyOutcome}
    (hvalid : (shouldValidate && o.invalid) = false) (inst : Option (Kernel Bytes))
    (body : Bytes) (reportFails : Bool) (target : Option Bytes) :
    ((applyPlan inst body o reportFails).finish true target).1 =
        (applyConfigBytes body shouldValidate o ⟨⟨target, none⟩, inst⟩).1.dir.target ∧
      (((applyPlan inst body o reportFails).finish true target).2 = .succeeded ↔
        applySucceeded (applyConfigBytes body shouldValidate o ⟨⟨target, none⟩, inst⟩).2 = true ∧
          reportFails = false) := by
  unfold applyConfigBytes Plan.finish
  rw [hvalid]
  by_cases hread : o.readFile = true
  · simp [applyPlan, hread, applySucceeded]
  have hreread : (true && (applyPlan inst body o reportFails).rereadFails) = false := by
    simpa [applyPlan] using hread
  rw [hreread, if_neg hread]
  simp only [Bool.false_eq_true, if_false]
  have hok := atomicWriteFile_isOk o.write body ⟨target, none⟩
  have hcases := atomicWriteFile_cases o.write body ⟨target, none⟩
  rcases hw : atomicWriteFile o.write body ⟨target, none⟩ with ⟨dir, r⟩
  rw [hw] at hok hcases
  have hfails : (applyPlan inst body o reportFails).writeFails = !r.isOk := by
    simpa [applyPlan] using (congrArg not hok).symm
  rw [hfails]
  rcases hcases with ⟨hr, htarget⟩ | ⟨_, -, hr, htarget⟩
  swap
  · dsimp only at hr htarget ⊢
    subst hr
    simp [htarget, applySucceeded]
  dsimp only at hr htarget ⊢
  subst hr
  have hbody : (applyPlan inst body o reportFails).body = body := rfl
  have hreport : (applyPlan inst body o reportFails).reportFails = reportFails := rfl
  rw [show (!(Except.ok () : Except WriteStep Unit).isOk) = false from rfl, hbody, hreport]
  simp only [Bool.false_eq_true, if_false]
  have hrollback := rollbackConfig_finish htarget target inst o reportFails
  cases inst with
  | none => cases reportFails <;> simp [applyPlan, htarget, applySucceeded]
  | some inst =>
    dsimp only
    rw [htarget]
    rcases hrestart : inst.restart (some body) o.restart with ⟨inst₁, e | u⟩
    · have hcommit : (applyPlan (some inst) body o reportFails).commitFails = true := by
        simp [applyPlan, hrestart]
      rw [hcommit, if_pos rfl]
      dsimp only
      rcases hb : rollbackConfig target o dir with ⟨dir₁, e | u⟩
      · rw [hb] at hrollback
        have hfailed : (applyPlan (some inst) body o reportFails).rollbackFails target = true := by
          simpa using hrollback.1
        rw [hfailed] at hrollback ⊢
        simpa [applySucceeded] using hrollback.2.symm
      · rw [hb] at hrollback
        have hfailed :
            (applyPlan (some inst) body o reportFails).rollbackFails target = false := by
          simpa using hrollback.1
        rw [hfailed] at hrollback ⊢
        dsimp only at hrollback ⊢
        rcases inst₁.restart dir₁.target o.rollbackRestart with ⟨inst₂, e | u⟩
        · simpa [applySucceeded] using hrollback.2.symm
        · simpa [applySucceeded, statusRolledBack, statusOK] using hrollback.2.symm
    · have hcommit : (applyPlan (some inst) body o reportFails).commitFails = false := by
        simp [applyPlan, hrestart]
      rw [hcommit]
      cases reportFails <;> simp [htarget, applySucceeded]

theorem applyDefaults_finish (codec : JSONCodec Bytes) (o : InstallOutcome) (cfg : Object)
    (installed : List Object) (inst : Option (Kernel Bytes)) (reportFails : Bool)
    (target : Option Bytes) :
    ((applyPlan inst (codec.marshal (Object.toValue cfg)) o.apply reportFails).finish true
        target).1 = (applyDefaults codec o cfg installed ⟨⟨target, none⟩, inst⟩).1.dir.target ∧
      (((applyPlan inst (codec.marshal (Object.toValue cfg)) o.apply reportFails).finish true
          target).2 = .succeeded ↔
        (applyDefaults codec o cfg installed ⟨⟨target, none⟩, inst⟩).2.succeeded = true ∧
          reportFails = false) := by
  have h := applyConfigBytes_finish (show (false && o.apply.invalid) = false from rfl) inst
    (codec.marshal (Object.toValue cfg)) reportFails target
  unfold applyDefaults
  rcases ha : applyConfigBytes (codec.marshal (Object.toValue cfg)) false o.apply
    ⟨⟨target, none⟩, inst⟩ with ⟨host, e | result⟩
  · rw [ha] at h
    exact h
  · rw [ha] at h
    simpa [ConfigResponse.succeeded, applySucceeded] using h

theorem readConfigMap_error {codec : JSONCodec Bytes} {o : InstallOutcome} {dir : Directory Bytes}
    {response : ConfigResponse} (h : readConfigMap codec o dir = .error response) :
    response.succeeded = false := by
  have hcode := readConfigMap_error_statusCode h
  simp [ConfigResponse.succeeded, hcode]

namespace ConfigMutation

/-- An installation whose handler applies what it lays over the configuration. -/
theorem installMutation_alone {codec : JSONCodec Bytes} {inst : Option (Kernel Bytes)}
    {o : InstallOutcome} {install : Object → Object} {reportFails : Object → Bool}
    {target : Option Bytes} {handled : ConfigHost Bytes × ConfigResponse}
    (herror : ∀ response, readConfigMap codec o ⟨target, none⟩ = .error response →
      handled = (⟨⟨target, none⟩, inst⟩, response))
    (hok : ∀ cfg, readConfigMap codec o ⟨target, none⟩ = .ok cfg → ∃ installed,
      handled.1 = (applyDefaults codec o (install cfg) installed ⟨⟨target, none⟩, inst⟩).1 ∧
      (handled.2.succeeded = true ↔
        (applyDefaults codec o (install cfg) installed ⟨⟨target, none⟩, inst⟩).2.succeeded = true ∧
          reportFails cfg = false)) :
    ((installMutation codec inst o install reportFails).alone target).1 =
        (handle.respond handled).1 ∧
      (((installMutation codec inst o install reportFails).alone target).2 = .succeeded ↔
        (handle.respond handled).2 = true) := by
  unfold installMutation Mutation.alone handle.respond
  dsimp only
  cases hread : readConfigMap codec o ⟨target, none⟩ with
  | error response =>
    rw [herror response hread]
    simp [readConfigMap_error hread]
  | ok cfg =>
    obtain ⟨installed, hhost, hsucceeded⟩ := hok cfg hread
    have h := applyDefaults_finish codec o (install cfg) installed inst (reportFails cfg) target
    rw [hhost, hsucceeded]
    exact h

theorem updateRawConfig_finish {o : ApplyOutcome} (hvalid : o.invalid = false)
    (inst : Option (Kernel Bytes)) (body : Bytes) (target : Option Bytes) :
    ((applyPlan inst body o false).finish true target).1 =
        (handle.respond (API.updateRawConfig body o ⟨⟨target, none⟩, inst⟩)).1 ∧
      (((applyPlan inst body o false).finish true target).2 = .succeeded ↔
        (handle.respond (API.updateRawConfig body o ⟨⟨target, none⟩, inst⟩)).2 = true) := by
  have h := applyConfigBytes_finish (show (true && o.invalid) = false by simpa using hvalid) inst
    body false target
  unfold API.updateRawConfig handle.respond
  rcases ha : applyConfigBytes body true o ⟨⟨target, none⟩, inst⟩ with ⟨host, e | result⟩
  · rw [ha] at h
    cases e <;> simpa [ConfigResponse.succeeded, updateResponse, ConfigResponse.error,
      applySucceeded] using h
  · rw [ha] at h
    simpa [ConfigResponse.succeeded, updateResponse, applySucceeded] using h

theorem updateRawConfig_invalid {o : ApplyOutcome} (hinvalid : o.invalid = true)
    (inst : Option (Kernel Bytes)) (body : Bytes) (target : Option Bytes) :
    handle.respond (API.updateRawConfig body o ⟨⟨target, none⟩, inst⟩) = (target, false) := by
  simp [handle.respond, API.updateRawConfig, applyConfigBytes, hinvalid, updateResponse,
    ConfigResponse.error, ConfigResponse.succeeded]

/-- The commit of a synchronisation is its plan, carried out alone. -/
theorem syncCommit_finish (codec : JSONCodec Bytes) (o : SyncOutcome) (config : Object)
    (groupTags : List String) (previous : Bytes) (db : Database) :
    let p : Plan Bytes := {
      body := codec.marshal (Object.toValue config)
      rereadFails := false
      writeFails := writeFails o.write
      commitFails := o.saveGroups
      rollbackFails _ := writeFails o.rollback
      reportFails := false }
    let r := SyncCommit.write codec o ⟨previous⟩ config groupTags ⟨⟨some previous, none⟩, db⟩
    (p.finish false (some previous)).1 = r.1.dir.target ∧
      ((p.finish false (some previous)).2 = .succeeded ↔ r.2.isOk = true) := by
  intro p r
  have hok := atomicWriteFile_isOk o.write (codec.marshal (Object.toValue config))
    ⟨some previous, none⟩
  have hcases := atomicWriteFile_cases o.write (codec.marshal (Object.toValue config))
    ⟨some previous, none⟩
  simp only [r, p, SyncCommit.write, Plan.finish, Bool.false_and, Bool.false_eq_true, if_false]
  rcases hw : atomicWriteFile o.write (codec.marshal (Object.toValue config))
    ⟨some previous, none⟩ with ⟨dir, r₁⟩
  rw [hw] at hok hcases
  rcases hcases with ⟨hr, htarget⟩ | ⟨_, -, hr, htarget⟩
  swap
  · dsimp only at hr htarget hok ⊢
    subst hr
    have hfails : writeFails o.write = true := by simpa using hok
    simp [hfails, htarget]
  dsimp only at hr htarget hok ⊢
  subst hr
  have hfails : writeFails o.write = false := by simpa using hok
  rw [hfails]
  simp only [Bool.false_eq_true, if_false]
  by_cases hsave : o.saveGroups = true
  swap
  · simp [hsave, htarget]
  rw [if_pos hsave, if_pos hsave]
  have hok := atomicWriteFile_isOk o.rollback previous dir
  have hcases := atomicWriteFile_cases o.rollback previous dir
  rcases hb : atomicWriteFile o.rollback previous dir with ⟨dir₁, r₁⟩
  rw [hb] at hok hcases
  rcases hcases with ⟨hr, hback⟩ | ⟨_, -, hr, hback⟩
  · dsimp only at hr hback hok ⊢
    subst hr
    have hfails : writeFails o.rollback = false := by simpa using hok
    simp [hfails, hback]
  · dsimp only at hr hback hok ⊢
    subst hr
    have hfails : writeFails o.rollback = true := by simpa using hok
    simp [hfails, hback, htarget]

theorem syncOutboundsToConfig_alone (codec : JSONCodec Bytes) (db : Database) (o : SyncOutcome)
    (target : Option Bytes) :
    let m : Mutation Bytes := { plan := syncPlan codec db o, rereads := false }
    let r := API.syncOutboundsToConfig codec o ⟨⟨target, none⟩, db⟩
    (m.alone target).1 = r.1.dir.target ∧ ((m.alone target).2 = .succeeded ↔ r.2.isOk = true) := by
  simp only [Mutation.alone, syncPlan, API.syncOutboundsToConfig]
  cases hread : readSyncConfig codec o ⟨target, none⟩ with
  | error e => simp
  | ok read =>
    obtain ⟨config, previous⟩ := read
    obtain ⟨-, htarget, -⟩ := readSyncConfig_ok_iff.mp hread
    dsimp only at htarget ⊢
    subst htarget
    cases o.urlTestDefaults with
    | true => simp
    | false =>
    cases o.managedGroups with
    | true => simp
    | false =>
    cases o.listSubscriptions with
    | true => simp
    | false =>
    simp only [Bool.or_self, Bool.false_eq_true, if_false]
    cases syncOutbounds (syncInput db) (config.getD ∅) with
    | error e => simp
    | ok synced =>
      obtain ⟨synced, groupTags⟩ := synced
      cases config with
      | none => simp
      | some config => exact syncCommit_finish codec o synced groupTags previous db

/-- The names of the default rules are given last, and a failure there leaves the file alone. -/
theorem installDefaultRouteRules_applied {codec : JSONCodec Bytes} {d : Digest Bytes}
    {formatFloat : Rat → String} {o : InstallOutcome} {host : ConfigHost Bytes}
    {metadata : RouteRuleMetadataBucket} {cfg : Object}
    (hread : readConfigMap codec o host.dir = .ok cfg) :
    let applied := applyDefaults codec o (withDefaultRouteRules formatFloat cfg)
      (DefaultRouteInstaller.install formatFloat cfg).installed host
    let handled := API.installDefaultRouteRules codec d formatFloat o host metadata
    handled.1 = applied.1 ∧ (handled.2.2.succeeded = true ↔ applied.2.succeeded = true ∧
      (o.saveMetadata || !(RouteRuleMetadataManager.applyDefaultNames d formatFloat
        (DefaultRouteInstaller.install formatFloat cfg).rules metadata).isOk) = false) := by
  intro applied handled
  simp only [handled, API.installDefaultRouteRules, hread]
  rcases happlied : applied with ⟨host', response⟩
  rw [show applyDefaults codec o (withDefaultRouteRules formatFloat cfg)
    (DefaultRouteInstaller.install formatFloat cfg).installed host =
      (host', response) from happlied]
  dsimp only
  by_cases hfailed : response.statusCode ≠ 200 ∨ response.status = statusRolledBack
  · have hnot : response.succeeded = false := by
      rcases hfailed with h | h
      · simp [ConfigResponse.succeeded, h]
      · simp [ConfigResponse.succeeded, h, statusRolledBack, statusOK]
    rw [if_pos hfailed]
    simp [hnot]
  · rw [if_neg hfailed]
    cases hsave : o.saveMetadata with
    | true => simp [ConfigResponse.succeeded, ConfigResponse.error]
    | false =>
      cases RouteRuleMetadataManager.applyDefaultNames d formatFloat
        (DefaultRouteInstaller.install formatFloat cfg).rules metadata <;>
          simp [ConfigResponse.succeeded, ConfigResponse.error]

/-- The steps of a request, taken alone, are what its handler does. -/
theorem shared_alone (codec : JSONCodec Bytes) (d : Digest Bytes) (formatFloat : Rat → String)
    (m : ConfigMutation Bytes) (target : Option Bytes) :
    ((m.shared codec d formatFloat).alone target).1 = (m.handle codec d formatFloat target).1 ∧
      (((m.shared codec d formatFloat).alone target).2 = .succeeded ↔
        (m.handle codec d formatFloat target).2 = true) := by
  cases m with
  | syncOutboundsToConfig db o => exact syncOutboundsToConfig_alone codec db o target
  | updateConfig inst body o =>
    cases hjson : codec.unmarshal body with
    | none =>
      simp [shared, handle, handle.respond, API.updateConfig, Mutation.alone, hjson,
        ConfigResponse.error, ConfigResponse.succeeded]
    | some doc =>
      cases hinvalid : o.invalid with
      | true =>
        simp [shared, handle, API.updateConfig, Mutation.alone, hjson, hinvalid,
          updateRawConfig_invalid hinvalid]
      | false =>
        simpa [shared, handle, API.updateConfig, Mutation.alone, hjson, hinvalid] using
          updateRawConfig_finish hinvalid inst body target
  | updateRawConfig inst body o =>
    cases hinvalid : o.invalid with
    | true =>
      simp [shared, handle, Mutation.alone, hinvalid, updateRawConfig_invalid hinvalid]
    | false =>
      simpa [shared, handle, Mutation.alone, hinvalid] using
        updateRawConfig_finish hinvalid inst body target
  | installDefaultOutbounds inst o =>
    refine installMutation_alone (fun response hread => ?_) fun cfg hread =>
      ⟨(DefaultOutboundsInstaller.install cfg).installed, ?_, ?_⟩ <;>
        simp [API.installDefaultOutbounds, hread]
  | installDefaultRouteRules inst metadata o =>
    refine installMutation_alone (fun response hread => ?_) fun cfg hread =>
      ⟨(DefaultRouteInstaller.install formatFloat cfg).installed,
        installDefaultRouteRules_applied hread⟩
    simp [API.installDefaultRouteRules, hread]
  | installDefaultDNS inst o =>
    refine installMutation_alone (fun response hread => ?_) fun cfg hread =>
      ⟨[(DefaultDNSInstaller.install cfg).installed], ?_, ?_⟩ <;>
        simp [API.installDefaultDNS, hread]
  | installDefaultRuleSets inst entries o =>
    cases entries with
    | error message =>
      simp [shared, handle, handle.respond, API.installDefaultRuleSets, Mutation.alone,
        ConfigResponse.error, ConfigResponse.succeeded]
    | ok entries =>
      refine installMutation_alone (fun response hread => ?_) fun cfg hread => ⟨entries, ?_, ?_⟩ <;>
        simp [API.installDefaultRuleSets, hread]

end ConfigMutation

end Boxui.API
