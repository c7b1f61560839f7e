import Boxui.Library.GoStrings

/-! The administrator's credential: the record of the password and the secret that signs
tokens. A change of the password replaces both in one transaction. -/
namespace Boxui.Core
open GoStrings

def credentialVersion : Nat := 1
def credentialMemory : Nat := 64 * 1024
def credentialIterations : Nat := 3
def credentialParallelism : Nat := 2
def credentialKeyLength : Nat := 32

/-- `salt` and `hash` are the bytes that the stored base64 stands for. -/
structure PasswordRecord where
  version : Nat
  memory : Nat
  iterations : Nat
  parallelism : Nat
  salt : List UInt8
  hash : List UInt8
  deriving DecidableEq

/-- The settings of the administrator. `record` is missing also when what is stored cannot be
decoded. -/
structure CredentialStore where
  record : Option PasswordRecord
  isDefault : Bool
  jwtSecret : String
  deriving DecidableEq

inductive CredentialError where
  | currentPasswordInvalid
  | weakPassword
  deriving DecidableEq, Repr

/-- `argon2.IDKey` of a password, a salt, the costs and the key length, and the letter case of
Unicode. -/
structure CredentialPrimitives where
  idKey : List UInt8 → List UInt8 → Nat → Nat → Nat → Nat → List UInt8
  equalFold : String → String → Bool
  toLower : String → String

def PasswordRecord.supported (record : PasswordRecord) : Bool :=
  record.version == credentialVersion && record.memory == credentialMemory &&
    record.iterations == credentialIterations && record.parallelism == credentialParallelism

variable (prim : CredentialPrimitives)

def verifyAdminPassword (store : CredentialStore) (password : String) : Bool :=
  match store.record with
  | none => false
  | some record =>
    record.supported &&
      prim.idKey (bytes password) record.salt record.iterations record.memory record.parallelism
        credentialKeyLength == record.hash

def validateAdminPassword (username password : String) : Except CredentialError Unit :=
  if password.utf8ByteSize < 12 ∨ prim.equalFold password username = true then
    .error .weakPassword
  else if ["admin123", "password", "12345678", "qwerty123"].contains (prim.toLower password) then
    .error .weakPassword
  else .ok ()

/-- `salt` is what `rand.Read` returned. -/
def hashAdminPassword (salt : List UInt8) (password : String) : PasswordRecord where
  version := credentialVersion
  memory := credentialMemory
  iterations := credentialIterations
  parallelism := credentialParallelism
  salt := salt
  hash := prim.idKey (bytes password) salt credentialIterations credentialMemory
    credentialParallelism credentialKeyLength

/-- What `ChangeAdminPassword` does before its transaction. -/
def preparePasswordChange (username current new : String) (salt : List UInt8)
    (store : CredentialStore) : Except CredentialError PasswordRecord := do
  if !verifyAdminPassword prim store current then throw .currentPasswordInvalid
  validateAdminPassword prim username new
  return hashAdminPassword prim salt new

/-- The transaction of `ChangeAdminPassword`. -/
def commitPasswordChange (record : PasswordRecord) (secret : String) : CredentialStore where
  record := some record
  isDefault := false
  jwtSecret := secret

def changeAdminPassword (username current new : String) (salt : List UInt8) (secret : String)
    (store : CredentialStore) : Except CredentialError CredentialStore := do
  let record ← preparePasswordChange prim username current new salt store
  return commitPasswordChange record secret

theorem verify_of_prepare {username current new : String} {salt : List UInt8}
    {store : CredentialStore} {record : PasswordRecord}
    (h : preparePasswordChange prim username current new salt store = .ok record) :
    verifyAdminPassword prim store current = true := by
  by_contra hnot
  rw [Bool.not_eq_true] at hnot
  simp only [preparePasswordChange, hnot, Bool.not_false, if_true] at h
  cases h

/-- The new password is in force after the change. -/
theorem changeAdminPassword_inForce {username current new : String} {salt : List UInt8}
    {secret : String} {store store' : CredentialStore}
    (h : changeAdminPassword prim username current new salt secret store = .ok store') :
    verifyAdminPassword prim store' new = true ∧ store'.jwtSecret = secret := by
  unfold changeAdminPassword at h
  cases hprepare : preparePasswordChange prim username current new salt store with
  | error e =>
    rw [hprepare] at h
    cases h
  | ok record =>
    rw [hprepare] at h
    obtain rfl := Except.ok.inj h
    refine ⟨?_, rfl⟩
    have hrecord : record = hashAdminPassword prim salt new := by
      have hverify := verify_of_prepare prim hprepare
      simp only [preparePasswordChange, hverify, Bool.not_true, Bool.false_eq_true, if_false]
        at hprepare
      cases hvalid : validateAdminPassword prim username new with
      | error e =>
        rw [hvalid] at hprepare
        cases hprepare
      | ok u =>
        rw [hvalid] at hprepare
        exact (Except.ok.inj hprepare).symm
    subst hrecord
    simp [verifyAdminPassword, commitPasswordChange, hashAdminPassword, PasswordRecord.supported]

end Boxui.Core
