import Boxui.API.AtomicWrite
import Boxui.Core.SBInstance

/-! Applying a new configuration: the file is written and the kernel restarted on it, and both
go back to the previous bytes when the kernel does not come up on the new ones. -/
namespace Boxui.API
open Boxui.Core

variable {Bytes : Type*}

/-- `os.Remove` on the configuration file, with a missing file not counted as an error. -/
def removeConfig (fails : Bool) (dir : Directory Bytes) : Directory Bytes × Except Unit Unit :=
  match dir.target with
  | none => (dir, .ok ())
  | some _ => if fails then (dir, .error ()) else ({ dir with target := none }, .ok ())

structure APIError where
  code : String
  message : String
  deriving DecidableEq, Repr

structure ApplyResult where
  status : String
  apiErr : Option APIError
  deriving DecidableEq, Repr

def statusOK : String := "ok"

def statusRolledBack : String := "rolled_back"

inductive ApplyError where
  | invalidRuntimeConfig
  | readFile
  | write (step : WriteStep)
  | rollbackWrite (step : WriteStep)
  | rollbackRemove
  | rollbackRestart (e : SBInstance.RestartError)
  deriving DecidableEq, Repr

/-- How the calls made by one application of a configuration turn out. `readFile` is a read
error other than a missing file. -/
structure ApplyOutcome where
  invalid : Bool
  readFile : Bool
  write : WriteStep → Bool
  restart : SBInstance.RestartOutcome
  rollbackWrite : WriteStep → Bool
  rollbackRemove : Bool
  rollbackRestart : SBInstance.RestartOutcome

/-- What an application of a configuration acts on. -/
structure ConfigHost (Bytes : Type*) where
  dir : Directory Bytes
  inst : Option (Kernel Bytes)

def rollbackConfig (previous : Option Bytes) (o : ApplyOutcome) (dir : Directory Bytes) :
    Directory Bytes × Except ApplyError Unit :=
  match previous with
  | some previousBody =>
    match atomicWriteFile o.rollbackWrite previousBody dir with
    | (dir, .error step) => (dir, .error (.rollbackWrite step))
    | (dir, .ok ()) => (dir, .ok ())
  | none =>
    match removeConfig o.rollbackRemove dir with
    | (dir, .error ()) => (dir, .error .rollbackRemove)
    | (dir, .ok ()) => (dir, .ok ())

def applyConfigBytes (body : Bytes) (shouldValidate : Bool) (o : ApplyOutcome)
    (host : ConfigHost Bytes) : ConfigHost Bytes × Except ApplyError ApplyResult :=
  if shouldValidate && o.invalid then (host, .error .invalidRuntimeConfig)
  else if o.readFile then (host, .error .readFile)
  else
    let previous := host.dir.target
    match atomicWriteFile o.write body host.dir with
    | (dir, .error step) => ({ host with dir := dir }, .error (.write step))
    | (dir, .ok ()) =>
      match host.inst with
      | none => ({ host with dir := dir }, .ok ⟨statusOK, none⟩)
      | some inst =>
        match inst.restart dir.target o.restart with
        | (inst, .ok ()) => (⟨dir, some inst⟩, .ok ⟨statusOK, none⟩)
        | (inst, .error _) =>
          match rollbackConfig previous o dir with
          | (dir, .error e) => (⟨dir, some inst⟩, .error e)
          | (dir, .ok ()) =>
            match inst.restart dir.target o.rollbackRestart with
            | (inst, .error e) => (⟨dir, some inst⟩, .error (.rollbackRestart e))
            | (inst, .ok ()) =>
              (⟨dir, some inst⟩, .ok ⟨statusRolledBack,
                some ⟨"config_restart_failed", "restart failed after config save"⟩⟩)

/-- No call fails. -/
def ApplyOutcome.clean : ApplyOutcome where
  invalid := false
  readFile := false
  write _ := false
  restart := ⟨false, ⟨false, false, false, 1⟩⟩
  rollbackWrite _ := false
  rollbackRemove := false
  rollbackRestart := ⟨false, ⟨false, false, false, 2⟩⟩

def ApplyOutcome.RollbackSucceeds (o : ApplyOutcome) : Prop :=
  (∀ step, o.rollbackWrite step = false) ∧ o.rollbackRemove = false

theorem rollbackConfig_ok {o : ApplyOutcome} (ho : o.RollbackSucceeds) (previous : Option Bytes)
    (dir : Directory Bytes) :
    (rollbackConfig previous o dir).2 = .ok () ∧
      (rollbackConfig previous o dir).1.target = previous := by
  cases previous with
  | some previousBody =>
    obtain ⟨hok, htarget⟩ := atomicWriteFile_ok ho.1 previousBody dir
    dsimp only [rollbackConfig]
    rcases hw : atomicWriteFile o.rollbackWrite previousBody dir with ⟨dir', r⟩
    rw [hw] at hok htarget
    cases r with
    | error step => cases hok
    | ok u => exact ⟨rfl, htarget⟩
  | none =>
    cases htarget : dir.target <;> simp [rollbackConfig, removeConfig, htarget, ho.2]

theorem rollbackConfig_target (previous : Option Bytes) (o : ApplyOutcome)
    (dir : Directory Bytes) :
    (rollbackConfig previous o dir).1.target = previous ∨
      (rollbackConfig previous o dir).1.target = dir.target := by
  cases previous with
  | some previousBody =>
    dsimp only [rollbackConfig]
    have hwrite := atomicWriteFile_cases o.rollbackWrite previousBody dir
    rcases hw : atomicWriteFile o.rollbackWrite previousBody dir with ⟨dir', r⟩
    rw [hw] at hwrite
    rcases hwrite with ⟨-, htarget⟩ | ⟨_, -, -, htarget⟩
    · cases r <;> exact .inl htarget
    · cases r <;> exact .inr htarget
  | none =>
    cases htarget : dir.target with
    | none => exact .inl (by simp [rollbackConfig, removeConfig, htarget])
    | some body =>
      cases hfails : o.rollbackRemove <;> simp [rollbackConfig, removeConfig, htarget, hfails]

/-- Whatever fails, the file holds the new bytes or is as before. -/
theorem applyConfigBytes_target (body : Bytes) (shouldValidate : Bool) (o : ApplyOutcome)
    (host : ConfigHost Bytes) :
    (applyConfigBytes body shouldValidate o host).1.dir.target = host.dir.target ∨
      (applyConfigBytes body shouldValidate o host).1.dir.target = some body := by
  unfold applyConfigBytes
  split_ifs
  · exact .inl rfl
  · exact .inl rfl
  · dsimp only
    have hwrite := atomicWriteFile_cases o.write body host.dir
    rcases hw : atomicWriteFile o.write body host.dir with ⟨dir, r⟩
    rw [hw] at hwrite
    rcases hwrite with ⟨hok, htarget⟩ | ⟨_, -, herr, htarget⟩
    · obtain rfl : r = .ok () := hok
      dsimp only at htarget ⊢
      cases host.inst with
      | none => exact .inr htarget
      | some inst =>
        dsimp only
        rcases inst.restart dir.target o.restart with ⟨inst₁, e | u⟩
        · have hback : (rollbackConfig host.dir.target o dir).1.target = host.dir.target ∨
              (rollbackConfig host.dir.target o dir).1.target = some body :=
            (rollbackConfig_target host.dir.target o dir).imp_right (·.trans htarget)
          dsimp only
          rcases hb : rollbackConfig host.dir.target o dir with ⟨dir₁, e | u⟩
          · rwa [hb] at hback
          · rw [hb] at hback
            dsimp only
            rcases inst₁.restart dir₁.target o.rollbackRestart with ⟨inst₂, e | u⟩ <;> exact hback
        · exact .inr htarget
    · dsimp only at herr htarget ⊢
      subst herr
      exact .inl htarget

/-- A configuration that was applied and not rolled back is the one in the file. -/
theorem applyConfigBytes_written {body : Bytes} {shouldValidate : Bool} {o : ApplyOutcome}
    {host host' : ConfigHost Bytes} {result : ApplyResult}
    (h : applyConfigBytes body shouldValidate o host = (host', .ok result))
    (hstatus : result.status ≠ statusRolledBack) : host'.dir.target = some body := by
  unfold applyConfigBytes at h
  split_ifs at h
  · cases h
  · cases h
  · dsimp only at h
    have hwrite := atomicWriteFile_cases o.write body host.dir
    rcases hw : atomicWriteFile o.write body host.dir with ⟨dir, r⟩
    rw [hw] at hwrite h
    rcases hwrite with ⟨hok, htarget⟩ | ⟨_, -, herr, -⟩
    · obtain rfl : r = .ok () := hok
      dsimp only at htarget h
      cases hinst : host.inst with
      | none =>
        rw [hinst] at h
        cases h
        exact htarget
      | some inst =>
        rw [hinst] at h
        dsimp only at h
        rcases hr : inst.restart dir.target o.restart with ⟨inst₁, e | u⟩
        · -- the kernel did not come up, so the status is that of a rollback
          rw [hr] at h
          dsimp only at h
          rcases hb : rollbackConfig host.dir.target o dir with ⟨dir₁, e | u⟩
          · rw [hb] at h
            cases h
          · rw [hb] at h
            dsimp only at h
            rcases hs : inst₁.restart dir₁.target o.rollbackRestart with ⟨inst₂, e | u⟩
            · rw [hs] at h
              cases h
            · rw [hs] at h
              cases h
              exact absurd rfl hstatus
        · rw [hr] at h
          cases h
          exact htarget
    · obtain rfl : r = .error _ := herr
      cases h

/-- Applying a configuration is a transaction: the file and the kernel are on the new bytes,
or both are back on the prior ones, or an error is reported and the file is as before. -/
theorem applyConfigBytes_transaction (body : Bytes) (shouldValidate : Bool) (o : ApplyOutcome)
    (host : ConfigHost Bytes) (hrollback : o.RollbackSucceeds) :
    match applyConfigBytes body shouldValidate o host with
    | (host', .ok result) =>
      (result.status = statusOK ∧ host'.dir.target = some body ∧
        ∀ inst, host.inst = some inst →
          ∃ inst', host'.inst = some inst' ∧ inst.RestartedOn body inst') ∨
      (result.status = statusRolledBack ∧ ∃ prior, host.dir.target = some prior ∧
        host'.dir.target = some prior ∧
        ∃ inst inst', host.inst = some inst ∧ host'.inst = some inst' ∧
          inst.RestartedOn prior inst')
    | (host', .error _) => host'.dir.target = host.dir.target := by
  unfold applyConfigBytes
  split_ifs
  · rfl
  · rfl
  · dsimp only
    have hwrite := atomicWriteFile_cases o.write body host.dir
    rcases hw : atomicWriteFile o.write body host.dir with ⟨dir, r⟩
    rw [hw] at hwrite
    cases r with
    | error step =>
      rcases hwrite with ⟨hok, -⟩ | ⟨_, -, -, htarget⟩
      · cases hok
      · exact htarget
    | ok u =>
      rcases hwrite with ⟨-, htarget⟩ | ⟨_, -, herr, -⟩
      swap
      · cases herr
      dsimp only at htarget ⊢
      cases hhost : host.inst with
      | none => exact .inl ⟨rfl, htarget, fun _ h => by cases h⟩
      | some inst =>
        dsimp only
        have hfirst : (inst.restart dir.target o.restart).2 = .ok () → _ :=
          Kernel.restart_ok
        have hattempts := inst.restart_attempts_le dir.target o.restart
        rcases hr : inst.restart dir.target o.restart with ⟨inst₁, r⟩
        rw [hr] at hfirst hattempts
        cases r with
        | ok u =>
          obtain ⟨configData, hdata, hon⟩ := hfirst rfl
          obtain rfl := Option.some.inj (htarget.symm.trans hdata)
          refine .inl ⟨rfl, htarget, fun _ h => ?_⟩
          obtain rfl := Option.some.inj h
          exact ⟨inst₁, rfl, hon⟩
        | error e =>
          obtain ⟨hback, hprior⟩ := rollbackConfig_ok hrollback host.dir.target dir
          dsimp only at hattempts ⊢
          rcases hb : rollbackConfig host.dir.target o dir with ⟨dir₁, r⟩
          rw [hb] at hback hprior
          cases r with
          | error e => cases hback
          | ok u =>
            have hsecond : (inst₁.restart dir₁.target o.rollbackRestart).2 = .ok () → _ :=
              Kernel.restart_ok
            dsimp only at hprior ⊢
            rcases hr₁ : inst₁.restart dir₁.target o.rollbackRestart with ⟨inst₂, r⟩
            rw [hr₁] at hsecond
            cases r with
            | error e => exact hprior
            | ok u =>
              obtain ⟨prior, hdata, hon⟩ := hsecond rfl
              rw [hprior] at hdata
              exact .inr ⟨rfl, prior, hdata, hprior.trans hdata, inst, inst₂, rfl, rfl,
                hon.mono hattempts⟩

/-- The kernel refuses the new configuration and comes up again on the prior one. -/
def refusedOutcome : ApplyOutcome where
  invalid := false
  readFile := false
  write _ := false
  restart := ⟨false, ⟨false, true, false, 1⟩⟩
  rollbackWrite _ := false
  rollbackRemove := false
  rollbackRestart := ⟨false, ⟨false, false, false, 2⟩⟩

def priorHost : ConfigHost String := ⟨⟨some "prior", none⟩, some Kernel.newKernel⟩

theorem refused_rolledBack :
    (applyConfigBytes "body" true refusedOutcome priorHost).1.dir.target = some "prior" ∧
      ∃ inst', (applyConfigBytes "body" true refusedOutcome priorHost).1.inst = some inst' ∧
        Kernel.newKernel.RestartedOn "prior" inst' := by
  have h := applyConfigBytes_transaction "body" true refusedOutcome priorHost
    ⟨fun _ => rfl, rfl⟩
  rcases h with ⟨hstatus, -⟩ | ⟨-, prior, hprior, htarget, inst, inst', hinst, hinst', hon⟩
  · exact absurd hstatus (by decide)
  · obtain rfl : "prior" = prior := Option.some.inj hprior
    obtain rfl : Kernel.newKernel = inst := Option.some.inj hinst
    exact ⟨htarget, inst', hinst', hon⟩

end Boxui.API
