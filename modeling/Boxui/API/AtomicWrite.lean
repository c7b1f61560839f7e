import Boxui.Library.GoValue

/-! The atomic write of the configuration file: a temporary file in the same directory is
filled, synced and renamed over the target, and removed when anything fails before that. -/
namespace Boxui.API

variable {Bytes : Type*}

inductive WriteStep where
  | mkdirAll
  | createTemp
  | chmod
  | write
  | sync
  | close
  | rename
  | removeTemp
  deriving DecidableEq, Repr

/-- The configuration file, absent or with some content, and the temporary file of a write
in progress, which is empty at first. -/
structure Directory (Bytes : Type*) where
  target : Option Bytes
  temp : Option (Option Bytes)

namespace Directory

def createTemp (dir : Directory Bytes) : Directory Bytes := { dir with temp := some none }

def writeTemp (body : Bytes) (dir : Directory Bytes) : Directory Bytes :=
  { dir with temp := some (some body) }

def renameTemp (dir : Directory Bytes) : Directory Bytes :=
  match dir.temp with
  | none => dir
  | some content => ⟨content, none⟩

/-- The deferred removal, whose own error is ignored. -/
def removeTemp (fails : Bool) (dir : Directory Bytes) : Directory Bytes :=
  if fails then dir else { dir with temp := none }

end Directory

def atomicWriteFile (fails : WriteStep → Bool) (body : Bytes) (dir : Directory Bytes) :
    Directory Bytes × Except WriteStep Unit :=
  if fails .mkdirAll then (dir, .error .mkdirAll)
  else if fails .createTemp then (dir, .error .createTemp)
  else
    let dir := dir.createTemp
    if fails .chmod then (dir.removeTemp (fails .removeTemp), .error .chmod)
    else if fails .write then (dir.removeTemp (fails .removeTemp), .error .write)
    else
      let dir := dir.writeTemp body
      if fails .sync then (dir.removeTemp (fails .removeTemp), .error .sync)
      else if fails .close then (dir.removeTemp (fails .removeTemp), .error .close)
      else if fails .rename then (dir.removeTemp (fails .removeTemp), .error .rename)
      else (dir.renameTemp.removeTemp (fails .removeTemp), .ok ())

@[simp] theorem target_removeTemp (fails : Bool) (dir : Directory Bytes) :
    (dir.removeTemp fails).target = dir.target := by
  cases fails <;> rfl

/-- The file has the new content or is untouched, and the result says which. -/
theorem atomicWriteFile_cases (fails : WriteStep → Bool) (body : Bytes) (dir : Directory Bytes) :
    ((atomicWriteFile fails body dir).2 = .ok () ∧
      (atomicWriteFile fails body dir).1.target = some body) ∨
    (∃ step, fails step = true ∧ (atomicWriteFile fails body dir).2 = .error step ∧
      (atomicWriteFile fails body dir).1.target = dir.target) := by
  generalize hr : atomicWriteFile fails body dir = r
  unfold atomicWriteFile at hr
  split_ifs at hr with hmkdir hcreate hchmod hwrite hsync hclose hrename <;> subst hr
  · exact .inr ⟨_, hmkdir, rfl, rfl⟩
  · exact .inr ⟨_, hcreate, rfl, rfl⟩
  · exact .inr ⟨_, hchmod, rfl, target_removeTemp _ _⟩
  · exact .inr ⟨_, hwrite, rfl, target_removeTemp _ _⟩
  · exact .inr ⟨_, hsync, rfl, target_removeTemp _ _⟩
  · exact .inr ⟨_, hclose, rfl, target_removeTemp _ _⟩
  · exact .inr ⟨_, hrename, rfl, target_removeTemp _ _⟩
  · exact .inl ⟨rfl, target_removeTemp _ _⟩

theorem atomicWriteFile_ok {fails : WriteStep → Bool} (hfails : ∀ step, fails step = false)
    (body : Bytes) (dir : Directory Bytes) :
    (atomicWriteFile fails body dir).2 = .ok () ∧
      (atomicWriteFile fails body dir).1.target = some body := by
  rcases atomicWriteFile_cases fails body dir with h | ⟨step, hstep, -⟩
  · exact h
  · rw [hfails step] at hstep
    cases hstep

/-- A failed write is a fault of some step. -/
theorem atomicWriteFile_error {fails : WriteStep → Bool} {body : Bytes} {dir : Directory Bytes}
    {step : WriteStep} (h : (atomicWriteFile fails body dir).2 = .error step) :
    (atomicWriteFile fails body dir).1.target = dir.target := by
  rcases atomicWriteFile_cases fails body dir with ⟨hok, -⟩ | ⟨_, -, -, htarget⟩
  · rw [hok] at h
    cases h
  · exact htarget

/-- The steps whose failure is that of the write; the removal of the temporary file is not. -/
def writeFails (fails : WriteStep → Bool) : Bool :=
  [WriteStep.mkdirAll, .createTemp, .chmod, .write, .sync, .close, .rename].any fails

theorem atomicWriteFile_isOk (fails : WriteStep → Bool) (body : Bytes) (dir : Directory Bytes) :
    (atomicWriteFile fails body dir).2.isOk = !writeFails fails := by
  simp only [atomicWriteFile, apply_ite Prod.snd, apply_ite Except.isOk, GoValue.isOk_ok,
    GoValue.isOk_error]
  simp [writeFails]

end Boxui.API
