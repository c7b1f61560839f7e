import Boxui.Core.Credential
import Boxui.Core.Stores
import Boxui.Library.Machine

/-! The administrator's credential in the settings bucket: three keys, written when a fresh
store gets its first password and when the password is changed. -/
namespace Boxui.Core
open GoValue

def adminPasswordHashKey : String := "admin_password_hash"
def adminPasswordDefaultKey : String := "admin_password_default"
def jwtSecretKey : String := "jwt_secret"
def defaultAdminPassword : String := "admin123"

/-- A value of the bucket: the JSON of a password record, or any other text. -/
inductive SettingValue where
  | text (s : String)
  | passwordRecord (record : PasswordRecord)
  deriving DecidableEq

abbrev Settings := GoMap SettingValue

inductive CredentialFailure where
  | rejected (e : CredentialError)
  | persistDefaultState
  | hashPassword
  | rotateSecret
  | commit
  deriving DecidableEq, Repr

/-- What `rand.Read` returns for the salt and for the secret, if anything, and whether the
transaction fails. -/
structure CredentialOutcome where
  salt : Option (List UInt8)
  secret : Option String
  commitFails : Bool

namespace SettingsManager

/-- A key that is not there reads as the empty text. -/
def get (key : String) (settings : Settings) : SettingValue := (settings[key]?).getD (.text "")

/-- `decodePasswordRecord`, up to the check of the costs. -/
def decodeRecord : SettingValue → Option PasswordRecord
  | .text _ => none
  | .passwordRecord record => some record

def textOf : SettingValue → String
  | .text s => s
  | .passwordRecord _ => ""

/-- The credential that the settings hold. -/
def credential (settings : Settings) : CredentialStore where
  record := decodeRecord (get adminPasswordHashKey settings)
  isDefault := get adminPasswordDefaultKey settings == .text "true"
  jwtSecret := textOf (get jwtSecretKey settings)

def adminPasswordIsDefault (settings : Settings) : Bool := (credential settings).isDefault

variable (prim : CredentialPrimitives)

def verifyAdminPassword (settings : Settings) (password : String) : Bool :=
  Core.verifyAdminPassword prim (credential settings) password

/-- A stored credential is only repaired: its flag is set when the default password verifies. -/
def ensureAdminCredential (o : CredentialOutcome) (_username initialPassword : String)
    (settings : Settings) : Settings × Except CredentialFailure Bool :=
  if get adminPasswordHashKey settings ≠ .text "" then
    if verifyAdminPassword prim settings defaultAdminPassword &&
        !adminPasswordIsDefault settings then
      if o.commitFails then (settings, .error .persistDefaultState)
      else
        let settings := settings.insert adminPasswordDefaultKey (.text "true")
        (settings, .ok (adminPasswordIsDefault settings))
    else (settings, .ok (adminPasswordIsDefault settings))
  else
    let isDefault := initialPassword == "" || initialPassword == defaultAdminPassword
    let initialPassword := if isDefault then defaultAdminPassword else initialPassword
    match o.salt with
    | none => (settings, .error .hashPassword)
    | some salt =>
      let record := hashAdminPassword prim salt initialPassword
      if o.commitFails then (settings, .error .commit)
      else if (settings[adminPasswordHashKey]?).isSome then (settings, .ok isDefault)
      else
        ((settings.insert adminPasswordHashKey (.passwordRecord record)).insert
          adminPasswordDefaultKey (.text (if isDefault then "true" else "false")), .ok isDefault)

/-- The transaction of a password change. -/
def writeCredential (record : PasswordRecord) (secret : String) (settings : Settings) : Settings :=
  ((settings.insert adminPasswordHashKey (.passwordRecord record)).insert
    adminPasswordDefaultKey (.text "false")).insert jwtSecretKey (.text secret)

theorem writeCredential_hash (record : PasswordRecord) (secret : String) (settings : Settings) :
    (writeCredential record secret settings)[adminPasswordHashKey]? =
      some (.passwordRecord record) := by
  rw [writeCredential, GoMap.getElem?_insert, if_neg (by decide), GoMap.getElem?_insert,
    if_neg (by decide), GoMap.getElem?_insert, if_pos rfl]

theorem writeCredential_flag (record : PasswordRecord) (secret : String) (settings : Settings) :
    (writeCredential record secret settings)[adminPasswordDefaultKey]? =
      some (.text "false") := by
  rw [writeCredential, GoMap.getElem?_insert, if_neg (by decide), GoMap.getElem?_insert,
    if_pos rfl]

theorem writeCredential_secret (record : PasswordRecord) (secret : String)
    (settings : Settings) :
    (writeCredential record secret settings)[jwtSecretKey]? = some (.text secret) := by
  rw [writeCredential, GoMap.getElem?_insert, if_pos rfl]

def changeAdminPassword (o : CredentialOutcome) (username currentPassword newPassword : String)
    (settings : Settings) : Settings × Except CredentialFailure Unit :=
  if !verifyAdminPassword prim settings currentPassword then
    (settings, .error (.rejected .currentPasswordInvalid))
  else
    match validateAdminPassword prim username newPassword with
    | .error e => (settings, .error (.rejected e))
    | .ok () =>
      match o.salt with
      | none => (settings, .error .hashPassword)
      | some salt =>
        let record := hashAdminPassword prim salt newPassword
        match o.secret with
        | none => (settings, .error .rotateSecret)
        | some secret =>
          if o.commitFails then (settings, .error .commit)
          else (writeCredential record secret settings, .ok ())

/-- The password that a fresh store gets. -/
def initialAdminPassword (initialPassword : String) : String :=
  if initialPassword == "" || initialPassword == defaultAdminPassword then defaultAdminPassword
  else initialPassword

def defaultFlag (password : String) : SettingValue :=
  .text (if password = defaultAdminPassword then "true" else "false")

/-- The settings hold a record of the password, made with some salt, and its flag. -/
structure Holds (settings : Settings) (password : String) : Prop where
  record : ∃ salt, settings[adminPasswordHashKey]? =
    some (.passwordRecord (hashAdminPassword prim salt password))
  flag : settings[adminPasswordDefaultKey]? = some (defaultFlag password)

/-- The record and the flag of the password in force, or neither of them. -/
def CredentialIs (settings : Settings) : Option String → Prop
  | none => settings[adminPasswordHashKey]? = none ∧ settings[adminPasswordDefaultKey]? = none
  | some password => Holds prim settings password

theorem isDefault_initialAdminPassword (initialPassword : String) :
    (if initialPassword == "" || initialPassword == defaultAdminPassword then "true"
      else "false") =
      if initialAdminPassword initialPassword = defaultAdminPassword then "true"
      else "false" := by
  unfold initialAdminPassword
  by_cases h : (initialPassword == "" || initialPassword == defaultAdminPassword) = true
  · rw [if_pos h, if_pos h, if_pos rfl]
  · have hne : initialPassword ≠ defaultAdminPassword := by
      rintro rfl
      simp at h
    rw [if_neg h, if_neg h, if_neg hne]

variable {prim}

theorem Holds.get_hash {settings : Settings} {password : String}
    (h : Holds prim settings password) : get adminPasswordHashKey settings ≠ .text "" := by
  obtain ⟨salt, hrecord⟩ := h.record
  rw [get, hrecord]
  exact SettingValue.noConfusion

theorem Holds.isDefault {settings : Settings} {password : String}
    (h : Holds prim settings password) :
    adminPasswordIsDefault settings = true ↔ password = defaultAdminPassword := by
  have hget : get adminPasswordDefaultKey settings = defaultFlag password := by
    rw [get, h.flag]
    rfl
  simp only [adminPasswordIsDefault, credential, hget, defaultFlag]
  by_cases hp : password = defaultAdminPassword <;> simp [hp]

/-- Argon2 at the costs of the program, with one salt, gives every password its own hash. -/
def Argon2Injective (prim : CredentialPrimitives) : Prop :=
  ∀ (salt : List UInt8) (p q : String),
    prim.idKey (GoStrings.bytes p) salt credentialIterations credentialMemory
        credentialParallelism credentialKeyLength =
      prim.idKey (GoStrings.bytes q) salt credentialIterations credentialMemory
        credentialParallelism credentialKeyLength → p = q

theorem Holds.verify_iff (hinj : Argon2Injective prim) {settings : Settings} {password : String}
    (h : Holds prim settings password) (p : String) :
    verifyAdminPassword prim settings p = true ↔ password = p := by
  obtain ⟨salt, hrecord⟩ := h.record
  have hdecode : (credential settings).record = some (hashAdminPassword prim salt password) := by
    simp only [credential, get, hrecord]
    rfl
  have hsupported : (hashAdminPassword prim salt password).supported = true := by
    simp [hashAdminPassword, PasswordRecord.supported]
  rw [verifyAdminPassword, Core.verifyAdminPassword, hdecode]
  simp only [hsupported, Bool.true_and, beq_iff_eq]
  constructor
  · intro heq
    exact (hinj salt p password heq).symm
  · rintro rfl
    rfl

theorem CredentialIs.verify_iff (hinj : Argon2Injective prim) {settings : Settings}
    {password : Option String} (h : CredentialIs prim settings password) (p : String) :
    verifyAdminPassword prim settings p = true ↔ password = some p := by
  cases password with
  | none =>
    have hdecode : (credential settings).record = none := by
      simp only [credential, get, h.1]
      rfl
    simp [verifyAdminPassword, Core.verifyAdminPassword, hdecode]
  | some password => simpa using Holds.verify_iff hinj h p

theorem CredentialIs.isDefault_iff {settings : Settings} {password : Option String}
    (h : CredentialIs prim settings password) :
    adminPasswordIsDefault settings = true ↔ password = some defaultAdminPassword := by
  cases password with
  | none => simp [adminPasswordIsDefault, credential, get, h.2]
  | some password => simpa using Holds.isDefault h

/-- The exits of `EnsureAdminCredential`: an error, which changes nothing; success on settings
that hold a password, which changes nothing either; success on settings that hold none. -/
theorem ensureAdminCredential_cases {settings : Settings} {password : Option String}
    (hinj : Argon2Injective prim) (h : CredentialIs prim settings password)
    (o : CredentialOutcome) (username initialPassword : String) :
    ((∃ e, (ensureAdminCredential prim o username initialPassword settings).2 = .error e) ∧
      (ensureAdminCredential prim o username initialPassword settings).1 = settings) ∨
    (password ≠ none ∧
      (ensureAdminCredential prim o username initialPassword settings).2 =
        .ok (adminPasswordIsDefault settings) ∧
      (ensureAdminCredential prim o username initialPassword settings).1 = settings) ∨
    (password = none ∧
      (∃ b, (ensureAdminCredential prim o username initialPassword settings).2 = .ok b) ∧
      Holds prim (ensureAdminCredential prim o username initialPassword settings).1
        (initialAdminPassword initialPassword)) := by
  unfold ensureAdminCredential
  cases password with
  | some password =>
    -- the flag needs no repair: it is set exactly when the default password verifies
    have hflag : (verifyAdminPassword prim settings defaultAdminPassword &&
        !adminPasswordIsDefault settings) = false := by
      have hiff := (CredentialIs.verify_iff hinj h defaultAdminPassword).trans h.isDefault_iff.symm
      cases hd : adminPasswordIsDefault settings with
      | true => simp
      | false => simpa [hd] using hiff
    rw [if_pos (Holds.get_hash h), hflag]
    exact .inr (.inl ⟨Option.some_ne_none _, rfl, rfl⟩)
  | none =>
    rw [if_neg (by simp [get, h.1])]
    dsimp only
    cases o.salt with
    | none => exact .inl ⟨⟨_, rfl⟩, rfl⟩
    | some salt =>
      dsimp only
      cases o.commitFails with
      | true => exact .inl ⟨⟨_, rfl⟩, rfl⟩
      | false =>
        rw [h.1, if_neg Bool.false_ne_true, Option.isSome_none, if_neg Bool.false_ne_true]
        refine .inr (.inr ⟨rfl, ⟨_, rfl⟩, ⟨salt, ?_⟩, ?_⟩)
        · rw [GoMap.getElem?_insert, if_neg (by decide), GoMap.getElem?_insert, if_pos rfl]
          rfl
        · rw [GoMap.getElem?_insert, if_pos rfl, isDefault_initialAdminPassword]
          rfl

/-- The exits of `ChangeAdminPassword`: an error, which changes nothing, or the three keys
written together. -/
theorem changeAdminPassword_cases (prim : CredentialPrimitives) (settings : Settings)
    (o : CredentialOutcome) (username current new : String) :
    ((∃ e, (changeAdminPassword prim o username current new settings).2 = .error e) ∧
      (changeAdminPassword prim o username current new settings).1 = settings) ∨
    (verifyAdminPassword prim settings current = true ∧
      validateAdminPassword prim username new = .ok () ∧
      ∃ salt secret, o.salt = some salt ∧ o.secret = some secret ∧
        changeAdminPassword prim o username current new settings =
          (writeCredential (hashAdminPassword prim salt new) secret settings, .ok ())) := by
  unfold changeAdminPassword
  cases verifyAdminPassword prim settings current with
  | false => exact .inl ⟨⟨_, rfl⟩, rfl⟩
  | true =>
    cases validateAdminPassword prim username new with
    | error e => exact .inl ⟨⟨_, rfl⟩, rfl⟩
    | ok u =>
      cases o.salt with
      | none => exact .inl ⟨⟨_, rfl⟩, rfl⟩
      | some salt =>
        cases o.secret with
        | none => exact .inl ⟨⟨_, rfl⟩, rfl⟩
        | some secret =>
          cases o.commitFails with
          | true => exact .inl ⟨⟨_, rfl⟩, rfl⟩
          | false => exact .inr ⟨rfl, rfl, salt, secret, rfl, rfl, rfl⟩

theorem credential_writeCredential (record : PasswordRecord) (secret : String)
    (settings : Settings) :
    credential (writeCredential record secret settings) = commitPasswordChange record secret := by
  simp only [credential, get, writeCredential_hash, writeCredential_flag, writeCredential_secret]
  rfl

/-- A change that succeeds is the one of the credential that the settings hold. -/
theorem changeAdminPassword_credential {prim : CredentialPrimitives} {settings : Settings}
    {o : CredentialOutcome} {username current new : String}
    (hok : (changeAdminPassword prim o username current new settings).2 = .ok ()) :
    ∃ salt secret, Core.changeAdminPassword prim username current new salt secret
      (credential settings) =
        .ok (credential (changeAdminPassword prim o username current new settings).1) := by
  rcases changeAdminPassword_cases prim settings o username current new with
    ⟨⟨e, he⟩, -⟩ | ⟨hverify, hvalid, salt, secret, -, -, hr⟩
  · rw [hok] at he
    cases he
  · refine ⟨salt, secret, ?_⟩
    rw [verifyAdminPassword] at hverify
    rw [hr, credential_writeCredential, Core.changeAdminPassword, preparePasswordChange, hverify,
      hvalid]
    rfl

/-- The policy refuses the default password. -/
theorem validateAdminPassword_ne_default {username new : String}
    (h : validateAdminPassword prim username new = .ok ()) : new ≠ defaultAdminPassword := by
  rintro rfl
  have hshort : defaultAdminPassword.utf8ByteSize < 12 := by decide
  rw [validateAdminPassword, if_pos (.inl hshort)] at h
  cases h

theorem Holds.writeCredential {new : String} (hnew : new ≠ defaultAdminPassword)
    (salt : List UInt8) (secret : String) (settings : Settings) :
    Holds prim (writeCredential (hashAdminPassword prim salt new) secret settings) new := by
  refine ⟨⟨salt, writeCredential_hash _ _ _⟩, ?_⟩
  rw [writeCredential_flag, defaultFlag, if_neg hnew]

end SettingsManager

inductive CredentialCall where
  | ensure (o : CredentialOutcome) (username initialPassword : String)
  | change (o : CredentialOutcome) (username currentPassword newPassword : String)

/-- The settings, and the password that the last successful call put in force. -/
structure CredentialHistory where
  settings : Settings
  password : Option String

namespace CredentialHistory
open SettingsManager

/-- A store that starts empty. -/
def initial : CredentialHistory := ⟨∅, none⟩

variable (prim : CredentialPrimitives)

/-- The settings after a call, and whether it succeeded. -/
def perform (settings : Settings) : CredentialCall → Settings × Except CredentialFailure Unit
  | .ensure o username initialPassword =>
    let r := ensureAdminCredential prim o username initialPassword settings
    (r.1, r.2.map fun _ => ())
  | .change o username current new =>
    SettingsManager.changeAdminPassword prim o username current new settings

/-- The first call of `EnsureAdminCredential` to succeed puts the initial password in force, and
a successful change the new one. -/
def step (h : CredentialHistory) (call : CredentialCall) : CredentialHistory :=
  match perform prim h.settings call with
  | (settings, .error _) => ⟨settings, h.password⟩
  | (settings, .ok ()) =>
    match call with
    | .ensure _ _ initialPassword =>
      ⟨settings, h.password.or (some (initialAdminPassword initialPassword))⟩
    | .change _ _ _ new => ⟨settings, some new⟩

variable {prim}

theorem step_credentialIs (hinj : Argon2Injective prim) (h : CredentialHistory)
    (call : CredentialCall) (hh : CredentialIs prim h.settings h.password) :
    CredentialIs prim (step prim h call).settings (step prim h call).password := by
  cases call with
  | ensure o username initialPassword =>
    have hcases := ensureAdminCredential_cases hinj hh o username initialPassword
    rcases hr : ensureAdminCredential prim o username initialPassword h.settings with ⟨settings, r⟩
    rw [hr] at hcases
    dsimp only at hcases
    rcases hcases with ⟨⟨e, rfl⟩, rfl⟩ | ⟨hsome, rfl, rfl⟩ | ⟨hnone, ⟨b, rfl⟩, hholds⟩
    · simpa only [step, perform, hr, Except.map] using hh
    · obtain ⟨password, hpassword⟩ := Option.ne_none_iff_exists'.mp hsome
      simpa only [step, perform, hr, Except.map, hpassword, Option.some_or] using hh
    · simpa only [step, perform, hr, Except.map, hnone, Option.none_or, CredentialIs] using hholds
  | change o username current new =>
    rcases changeAdminPassword_cases prim h.settings o username current new with
      ⟨⟨e, he⟩, hsame⟩ | ⟨-, hvalid, salt, secret, -, -, hr⟩
    · have hr : SettingsManager.changeAdminPassword prim o username current new h.settings =
          (h.settings, .error e) := Prod.ext hsame he
      simpa only [step, perform, hr] using hh
    · simpa only [step, perform, hr, CredentialIs] using
        Holds.writeCredential (validateAdminPassword_ne_default hvalid) salt secret h.settings

theorem run_credentialIs (hinj : Argon2Injective prim) (calls : List CredentialCall) :
    CredentialIs prim (Machine.run (step prim) initial calls).settings
      (Machine.run (step prim) initial calls).password := by
  apply Machine.run_invariant
    (P := fun h : CredentialHistory => CredentialIs prim h.settings h.password)
    (step_credentialIs hinj)
  exact ⟨by simp [initial], by simp [initial]⟩

/-- A call that returns an error changes nothing. -/
theorem perform_error (hinj : Argon2Injective prim) {settings : Settings}
    {password : Option String} (h : CredentialIs prim settings password) {call : CredentialCall}
    {e : CredentialFailure} (herr : (perform prim settings call).2 = .error e) :
    (perform prim settings call).1 = settings := by
  cases call with
  | ensure o username initialPassword =>
    simp only [perform] at herr ⊢
    rcases ensureAdminCredential_cases hinj h o username initialPassword with
      ⟨-, hsame⟩ | ⟨-, -, hsame⟩ | ⟨-, ⟨b, hok⟩, -⟩
    · exact hsame
    · exact hsame
    · rw [hok] at herr
      cases herr
  | change o username current new =>
    simp only [perform] at herr ⊢
    rcases changeAdminPassword_cases prim settings o username current new with
      ⟨-, hsame⟩ | ⟨-, -, salt, secret, -, -, hr⟩
    · exact hsame
    · rw [hr] at herr
      cases herr

/-- After any run of calls over a store that starts empty, the flag is set exactly when the
default password verifies, and the password in force verifies and no other does. From there a
successful change writes the hash, the flag and a new secret in one transaction, and a call that
returns an error changes nothing. -/
theorem credential_run (hinj : Argon2Injective prim) (calls : List CredentialCall) :
    let h := Machine.run (step prim) initial calls
    (adminPasswordIsDefault h.settings = true ↔
      SettingsManager.verifyAdminPassword prim h.settings defaultAdminPassword = true) ∧
    (∀ p, SettingsManager.verifyAdminPassword prim h.settings p = true ↔ h.password = some p) ∧
    (∀ o username current new,
      (SettingsManager.changeAdminPassword prim o username current new h.settings).2 = .ok () →
        ∃ salt secret, o.salt = some salt ∧ o.secret = some secret ∧
          (SettingsManager.changeAdminPassword prim o username current new h.settings).1 =
            writeCredential (hashAdminPassword prim salt new) secret h.settings) ∧
    ∀ call e, (perform prim h.settings call).2 = .error e →
      (perform prim h.settings call).1 = h.settings := by
  intro h
  have hh : CredentialIs prim h.settings h.password := run_credentialIs hinj calls
  refine ⟨?_, CredentialIs.verify_iff hinj hh, ?_, fun call e => perform_error hinj hh⟩
  · exact hh.isDefault_iff.trans (CredentialIs.verify_iff hinj hh defaultAdminPassword).symm
  · intro o username current new hok
    rcases changeAdminPassword_cases prim h.settings o username current new with
      ⟨⟨e, he⟩, -⟩ | ⟨-, -, salt, secret, hsalt, hsecret, hr⟩
    · rw [hok] at he
      cases he
    · exact ⟨salt, secret, hsalt, hsecret, congrArg Prod.fst hr⟩

/-- `argon2.IDKey` at the costs of the program, by password and byte of the salt. -/
def argon2Sample : List (String × UInt8 × List UInt8) :=
  [("", 1, [48, 12, 126, 160, 21, 251, 7, 223, 176, 42, 247, 152, 32, 234, 69, 135, 97, 209, 52,
      9, 251, 78, 182, 15, 155, 211, 49, 120, 228, 34, 21, 97]),
    ("admin123", 1, [131, 163, 58, 78, 202, 125, 10, 94, 42, 20, 141, 241, 152, 227, 141, 251,
      131, 23, 177, 149, 215, 126, 3, 226, 99, 220, 32, 154, 157, 225, 53, 28]),
    ("correct-horse-1", 2, [86, 237, 64, 51, 222, 237, 127, 247, 71, 3, 101, 97, 173, 205, 12,
      228, 247, 219, 224, 90, 39, 123, 19, 11, 23, 142, 146, 207, 209, 254, 203, 95])]

/-- The values of the sample; other passwords, which the runs below do not meet, get longer ones. -/
def samplePrimitives : CredentialPrimitives where
  idKey password salt _ _ _ _ :=
    match argon2Sample.find? fun v =>
      GoStrings.bytes v.1 == password && List.replicate 16 v.2.1 == salt with
    | some v => v.2.2
    | none => List.replicate 33 0 ++ password
  equalFold s t := s == t
  toLower s := String.ofList (s.toList.map Char.toLower)

theorem bytes_injective {p q : String} (h : GoStrings.bytes p = GoStrings.bytes q) : p = q := by
  have harray : p.toUTF8.data = q.toUTF8.data := Array.toList_inj.mp h
  exact String.toByteArray_inj.mp (ByteArray.ext harray)

theorem samplePrimitives_injective : Argon2Injective samplePrimitives := by
  intro salt p q h
  apply bytes_injective
  have hlength : ∀ v ∈ argon2Sample, v.2.2.length = 32 := by decide
  have hdistinct : ∀ v ∈ argon2Sample, ∀ w ∈ argon2Sample, v.2.2 = w.2.2 → v.1 = w.1 := by decide
  simp only [samplePrimitives] at h
  cases hv : argon2Sample.find? fun v =>
      GoStrings.bytes v.1 == GoStrings.bytes p && List.replicate 16 v.2.1 == salt with
  | some v =>
    have hvmem := List.mem_of_find?_eq_some hv
    have hp := List.find?_some hv
    cases hw : argon2Sample.find? fun v =>
        GoStrings.bytes v.1 == GoStrings.bytes q && List.replicate 16 v.2.1 == salt with
    | some w =>
      have hq := List.find?_some hw
      simp only [Bool.and_eq_true, beq_iff_eq] at hp hq
      rw [hv, hw] at h
      rw [← hp.1, ← hq.1, hdistinct v hvmem w (List.mem_of_find?_eq_some hw) h]
    | none =>
      have hlen := hlength v hvmem
      rw [hv, hw] at h
      dsimp only at h
      rw [h, List.length_append, List.length_replicate] at hlen
      omega
  | none =>
    cases hw : argon2Sample.find? fun v =>
        GoStrings.bytes v.1 == GoStrings.bytes q && List.replicate 16 v.2.1 == salt with
    | some w =>
      have hlen := hlength w (List.mem_of_find?_eq_some hw)
      rw [hv, hw] at h
      dsimp only at h
      rw [← h, List.length_append, List.length_replicate] at hlen
      omega
    | none =>
      rw [hv, hw] at h
      exact List.append_cancel_left h

def granted (b : UInt8) (secret : String) : CredentialOutcome :=
  ⟨some (List.replicate 16 b), some secret, false⟩

/-- A fresh store with no initial password, then a change. -/
def firstChange : List CredentialCall :=
  [.ensure (granted 1 "") "admin" "",
    .change (granted 2 "second-secret") "admin" "admin123" "correct-horse-1"]

theorem firstChange_credential :
    let h := Machine.run (step samplePrimitives) initial firstChange
    h.password = some "correct-horse-1" ∧
      ∀ p, SettingsManager.verifyAdminPassword samplePrimitives h.settings p = true ↔
        h.password = some p :=
  ⟨by decide +kernel, (credential_run samplePrimitives_injective firstChange).2.1⟩

/-- Before the first call no password verifies, and after a first call without an initial
password that empty password does not verify. -/
theorem emptyInitial_not_inForce :
    (∀ p, SettingsManager.verifyAdminPassword samplePrimitives initial.settings p = false) ∧
      (perform samplePrimitives initial.settings (.ensure (granted 1 "") "admin" "")).2 = .ok () ∧
      SettingsManager.verifyAdminPassword samplePrimitives
        (Machine.run (step samplePrimitives) initial
          [.ensure (granted 1 "") "admin" ""]).settings "" = false := by
  refine ⟨fun p => ?_, by decide +kernel, by decide +kernel⟩
  rfl

end CredentialHistory

end Boxui.Core
