import Boxui.API.AuthSteps
import Boxui.Core.JWTSecret

/-! The tokens of a data directory over its whole life: starts of the process, also those that
fail, backups, restores, logins and rotations of the secret. The secret is read from the store at
every request, so a token lives as long as the secret that signed it, over every restart. A
restore replaces the database file, and a process that serves keeps the one it has open. -/
namespace Boxui.API
open Boxui.Core Boxui.Core.SettingsManager Machine

/-- What a token says before its signature is checked. -/
structure UnverifiedToken where
  hmac : Bool
  sub : Option String
  exp : Option ℕ
  nbf : Option ℕ
  deriving DecidableEq

/-- The block that HMAC makes of a key: a key over 64 bytes is hashed, a short one is filled up
with zeros. -/
def hmacBlock (sha256 : List UInt8 → List UInt8) (secret : String) : List UInt8 :=
  let key := if 64 < (GoStrings.bytes secret).length then sha256 (GoStrings.bytes secret)
    else GoStrings.bytes secret
  key ++ List.replicate (64 - key.length) 0

/-- The library that signs and parses tokens, with the hash that its signatures use. -/
structure TokenLibrary (τ : Type*) extends TokenSigner τ where
  sha256 : List UInt8 → List UInt8
  parseUnverified : τ → Option UnverifiedToken
  validate : UnverifiedToken → ℕ → Bool

/-- The claims of a login, as the library reads them back. -/
def Claims.unverified (claims : Claims) : UnverifiedToken :=
  ⟨true, some claims.sub, some claims.exp, none⟩

@[simp] theorem Claims.unverified_hmac (claims : Claims) : claims.unverified.hmac = true := rfl

namespace TokenLibrary

variable {τ : Type*} (lib : TokenLibrary τ)

/-- The block that keys the signatures. -/
def hmacKey (secret : String) : List UInt8 := hmacBlock lib.sha256 secret

/-- A signed token is read back with its claims, verifies under the keys of the same block and
no others, and is valid until it expires. -/
structure Documented : Prop where
  parse : ∀ secret claims,
    lib.parseUnverified (lib.sign secret claims) = some claims.unverified
  verifies : ∀ key secret claims,
    lib.verifies key (lib.sign secret claims) = true ↔ lib.hmacKey key = lib.hmacKey secret
  validate : ∀ claims : Claims, ∀ now,
    lib.validate claims.unverified now = true ↔ now < claims.exp

/-- `jwt.Parse` with the key function of `AuthMiddleware`, which refuses other methods. -/
def parse (settings : Settings) (now : ℕ) (token : τ) : Option UnverifiedToken := do
  let unverified ← lib.parseUnverified token
  if !unverified.hmac then none
  if !lib.verifies (jwtSecret settings) token then none
  if !lib.validate unverified now then none
  return unverified

def accepts (settings : Settings) (now : ℕ) (token : τ) : Bool :=
  (lib.parse settings now token).isSome

variable {lib}

theorem accepts_sign (hlib : lib.Documented) (settings : Settings) (now : ℕ) (secret : String)
    (claims : Claims) :
    lib.accepts settings now (lib.sign secret claims) = true ↔
      lib.hmacKey (jwtSecret settings) = lib.hmacKey secret ∧ now < claims.exp := by
  rw [← hlib.verifies (jwtSecret settings) secret claims, ← hlib.validate claims now]
  unfold accepts parse
  rw [hlib.parse]
  cases hverifies : lib.verifies (jwtSecret settings) (lib.sign secret claims) with
  | false => simp
  | true =>
    cases hvalidate : lib.validate claims.unverified now with
    | false => simp [hvalidate]
    | true => simp [hvalidate]

/-- Only the secret of the settings counts. -/
theorem accepts_congr {settings settings' : Settings}
    (h : jwtSecret settings' = jwtSecret settings) (now : ℕ) (token : τ) :
    lib.accepts settings' now token = lib.accepts settings now token := by
  rw [accepts, accepts, parse, parse, h]

end TokenLibrary

/-- What the start of the process meets: the salt and the transaction of the credential, the
random bytes and the transaction of the secret. -/
structure BootOutcome where
  credential : CredentialOutcome
  random : RandomSecret
  commitFails : Bool

/-- What a change of the password meets. -/
structure ChangeOutcome where
  salt : Option (List UInt8)
  random : RandomSecret
  commitFails : Bool

def ChangeOutcome.credential (o : ChangeOutcome) : CredentialOutcome :=
  ⟨o.salt, generateJWTSecret o.random, o.commitFails⟩

/-- A token that a login handed out, with what signed it. -/
structure IssuedToken (τ : Type*) where
  token : τ
  secret : String
  claims : Claims

/-- A database file, with the administrator of the process that holds it open, if one does. -/
structure DatabaseFile where
  settings : Settings
  username : Option String

/-- `files` has the file under the data directory first, and then those that a restore replaced
while a process held them. -/
structure Sessions (τ : Type*) where
  files : List DatabaseFile
  backups : List Settings
  issued : List (IssuedToken τ)

/-- The process of a request or a stop is the one that holds the file with that index. A restore is
one step, and rolled back where there is no backup with its index. -/
inductive SessionStep (τ : Type*) where
  | serve (o : BootOutcome) (username password : String)
  | backup (o : BootOutcome) (username password : String)
  | restore (index : ℕ)
  | stop (process : ℕ)
  | login (process : ℕ) (username password : String) (now issuedAt : ℕ)
  | setJWTSecret (process : ℕ) (token : τ) (now : ℕ) (commitFails : Bool) (secret : String)
  | changePassword (process : ℕ) (token : τ) (now : ℕ) (o : ChangeOutcome)
      (current new : String)

variable {τ : Type*} (prim : CredentialPrimitives) (lib : TokenLibrary τ)

/-- `run` of the program, up to the secret. -/
def startSettings (o : BootOutcome) (username password : String) (settings : Settings) :
    Settings × Except String Unit :=
  match ensureAdminCredential prim o.credential username password settings with
  | (settings, .error _) => (settings, .error "init administrator credential")
  | (settings, .ok _) =>
    match ensureJWTSecret o.random o.commitFails settings with
    | (settings, .error _) => (settings, .error "init jwt secret")
    | (settings, .ok _) => (settings, .ok ())

theorem ensureAdminCredential_secret (o : CredentialOutcome) (username password : String)
    (settings : Settings) :
    jwtSecret (ensureAdminCredential prim o username password settings).1 =
      jwtSecret settings := by
  have hkeep : ∀ key value, key ≠ jwtSecretKey → ∀ settings : Settings,
      jwtSecret (settings.insert key value) = jwtSecret settings := by
    intro key value hkey settings
    rw [jwtSecret, jwtSecret, SettingsManager.get, SettingsManager.get,
      GoValue.GoMap.getElem?_insert, if_neg hkey]
  have hhash : adminPasswordHashKey ≠ jwtSecretKey := by decide
  have hflag : adminPasswordDefaultKey ≠ jwtSecretKey := by decide
  unfold ensureAdminCredential
  split
  · split
    · split
      · rfl
      · exact hkeep _ _ hflag _
    · rfl
  · dsimp only
    split
    · rfl
    · split
      · rfl
      · split
        · rfl
        · rw [hkeep _ _ hflag, hkeep _ _ hhash]

/-- A start keeps a secret that is ready, and one that succeeds leaves a ready one. -/
theorem startSettings_secret (o : BootOutcome) (username password : String)
    (settings : Settings) :
    (SecretReady settings →
      jwtSecret (startSettings prim o username password settings).1 = jwtSecret settings) ∧
    ((startSettings prim o username password settings).2 = .ok () →
      SecretReady (startSettings prim o username password settings).1) := by
  have hsecret := ensureAdminCredential_secret prim o.credential username password settings
  unfold startSettings
  cases hensure : ensureAdminCredential prim o.credential username password settings with
  | mk settings' result =>
    rw [hensure] at hsecret
    dsimp only at hsecret
    cases result with
    | error e => exact ⟨fun _ => hsecret, fun h => by cases h⟩
    | ok isDefault =>
      have hready : SecretReady settings' ↔ SecretReady settings := by
        rw [SecretReady, SecretReady, hsecret]
      rcases ensureJWTSecret_cases o.random o.commitFails settings' with
        ⟨hkept, hr⟩ | ⟨secret, hempty, hgenerate, -, hr⟩ | ⟨e, hnot, hr⟩
      · simp only [hr]
        exact ⟨fun _ => hsecret, fun _ => hkept⟩
      · simp only [hr]
        refine ⟨fun h => absurd hempty (hready.mpr h).ne_empty, fun _ => ?_⟩
        have hsize := generateJWTSecret_size hgenerate
        rw [SecretReady, jwtSecret_insert, minJWTSecretLen]
        omega
      · simp only [hr]
        exact ⟨fun h => absurd (hready.mpr h) hnot, fun h => by cases h⟩

/-- The secret after a change of the password is the old one or a generated one. -/
theorem changeAdminPassword_ready (o : ChangeOutcome) (username current new : String)
    {settings : Settings} (h : SecretReady settings) :
    SecretReady (changeAdminPassword prim o.credential username current new settings).1 := by
  rcases changeAdminPassword_cases prim settings o.credential username current new with
    ⟨-, hsame⟩ | ⟨-, -, salt, secret, -, hsecret, hr⟩
  · rw [hsame]
    exact h
  · have hsize := generateJWTSecret_size hsecret
    rw [hr, SecretReady, jwtSecret_writeCredential, minJWTSecretLen]
    omega

theorem setJWTSecret_ready (commitFails : Bool) (secret : String) {settings : Settings}
    (h : SecretReady settings) : SecretReady (setJWTSecret commitFails secret settings).1 := by
  rcases setJWTSecret_cases commitFails secret settings with hsame | ⟨hsize, hset⟩
  · rw [hsame]
    exact h
  · rw [hset, SecretReady, jwtSecret_insert]
    exact hsize

namespace DatabaseFile

/-- A start that serves. A second process does not get the lock of the file. -/
def serve (o : BootOutcome) (username password : String) (file : DatabaseFile) : DatabaseFile :=
  if file.username.isSome then file
  else
    match startSettings prim o username password file.settings with
    | (settings, .error _) => ⟨settings, none⟩
    | (settings, .ok ()) => ⟨settings, some username⟩

/-- A start that ends after the backup, with what the backup has. -/
def backup (o : BootOutcome) (username password : String) (file : DatabaseFile) :
    DatabaseFile × Option Settings :=
  if file.username.isSome then (file, none)
  else
    match startSettings prim o username password file.settings with
    | (settings, .error _) => (⟨settings, none⟩, none)
    | (settings, .ok ()) => (⟨settings, none⟩, some settings)

def stop (file : DatabaseFile) : DatabaseFile := { file with username := none }

def login (username password : String) (now issuedAt : ℕ) (file : DatabaseFile) :
    Option (IssuedToken τ) :=
  if file.username ≠ some username ∨ verifyAdminPassword prim file.settings password = false then
    none
  else
    let secret := jwtSecret file.settings
    let claims := ⟨username, now + tokenLifetime, issuedAt⟩
    some ⟨lib.sign secret claims, secret, claims⟩

/-- A request that the middleware lets through. -/
def authorized (now : ℕ) (token : τ) (file : DatabaseFile) : Bool :=
  file.username.isSome && lib.accepts file.settings now token

def setJWTSecret (token : τ) (now : ℕ) (commitFails : Bool) (secret : String)
    (file : DatabaseFile) : DatabaseFile :=
  if file.authorized lib now token then
    { file with settings := (SettingsManager.setJWTSecret commitFails secret file.settings).1 }
  else file

def changePassword (token : τ) (now : ℕ) (o : ChangeOutcome) (current new : String)
    (file : DatabaseFile) : DatabaseFile :=
  if file.authorized lib now token then
    { file with settings := (changeAdminPassword prim o.credential (file.username.getD "") current
        new file.settings).1 }
  else file

variable {prim lib}

theorem serve_cases (o : BootOutcome) (username password : String) (file : DatabaseFile) :
    (file.username ≠ none ∧ file.serve prim o username password = file) ∨
      (file.username = none ∧ ∃ settings result,
        startSettings prim o username password file.settings = (settings, result) ∧
          file.serve prim o username password =
            ⟨settings, if result = .ok () then some username else none⟩) := by
  unfold serve
  cases hheld : file.username with
  | some holder => exact .inl ⟨by simp, rfl⟩
  | none =>
    cases hstart : startSettings prim o username password file.settings with
    | mk settings result =>
      refine .inr ⟨rfl, settings, result, rfl, ?_⟩
      cases result <;> rfl

theorem backup_cases (o : BootOutcome) (username password : String) (file : DatabaseFile) :
    (file.username ≠ none ∧ file.backup prim o username password = (file, none)) ∨
      (file.username = none ∧ ∃ settings result,
        startSettings prim o username password file.settings = (settings, result) ∧
          file.backup prim o username password =
            (⟨settings, none⟩, if result = .ok () then some settings else none)) := by
  unfold backup
  cases hheld : file.username with
  | some holder => exact .inl ⟨by simp, rfl⟩
  | none =>
    cases hstart : startSettings prim o username password file.settings with
    | mk settings result =>
      refine .inr ⟨rfl, settings, result, rfl, ?_⟩
      cases result <;> rfl

/-- A start keeps a secret that is ready. -/
theorem serve_secret (o : BootOutcome) (username password : String) {file : DatabaseFile}
    (h : SecretReady file.settings) :
    jwtSecret (file.serve prim o username password).settings = jwtSecret file.settings := by
  rcases @serve_cases prim o username password file with
    ⟨-, hkept⟩ | ⟨-, settings, result, hstart, hserve⟩
  · rw [hkept]
  · have hsecret := (startSettings_secret prim o username password file.settings).1 h
    rw [hstart] at hsecret
    rw [hserve]
    exact hsecret

/-- A backup and a server start alike. -/
theorem backup_settings (o : BootOutcome) (username password : String) (file : DatabaseFile) :
    (file.backup prim o username password).1.settings =
      (file.serve prim o username password).settings := by
  unfold backup serve
  cases file.username.isSome with
  | true => rfl
  | false =>
    rcases startSettings prim o username password file.settings with ⟨settings, _ | _⟩ <;> rfl

theorem backup_secret (o : BootOutcome) (username password : String) {file : DatabaseFile}
    (h : SecretReady file.settings) :
    jwtSecret (file.backup prim o username password).1.settings = jwtSecret file.settings := by
  rw [backup_settings]
  exact serve_secret o username password h

theorem backup_ready {o : BootOutcome} {username password : String} {file : DatabaseFile}
    {settings : Settings} (h : (file.backup prim o username password).2 = some settings) :
    SecretReady settings := by
  rcases @backup_cases prim o username password file with
    ⟨-, hkept⟩ | ⟨-, settings', result, hstart, hbackup⟩
  · rw [hkept] at h
    cases h
  · rw [hbackup] at h
    obtain ⟨hok, hsome⟩ := Option.ite_none_right_eq_some.mp h
    obtain rfl := Option.some.inj hsome
    have hready := (startSettings_secret prim o username password file.settings).2
    rw [hstart] at hready
    exact hready hok

theorem setJWTSecret_ready (token : τ) (now : ℕ) (commitFails : Bool) (secret : String)
    {file : DatabaseFile} (h : SecretReady file.settings) :
    SecretReady (file.setJWTSecret lib token now commitFails secret).settings := by
  unfold setJWTSecret
  split_ifs
  · exact API.setJWTSecret_ready commitFails secret h
  · exact h

theorem changePassword_ready (token : τ) (now : ℕ) (o : ChangeOutcome) (current new : String)
    {file : DatabaseFile} (h : SecretReady file.settings) :
    SecretReady (file.changePassword prim lib token now o current new).settings := by
  unfold changePassword
  split_ifs
  · exact changeAdminPassword_ready prim o _ current new h
  · exact h

end DatabaseFile

namespace Sessions

def empty : Sessions τ := ⟨[⟨∅, none⟩], [], []⟩

/-- What a restore leaves under the data directory: a backup, or a copy of the file that was there
if it is rolled back. A process keeps the file that it holds. -/
def restored (settings : Settings) : List DatabaseFile → List DatabaseFile
  | [] => []
  | file :: replaced =>
    ⟨settings, none⟩ :: if file.username.isSome then file :: replaced else replaced

def step (s : Sessions τ) : SessionStep τ → Sessions τ
  | .serve o username password =>
    { s with files := s.files.modify 0 (·.serve prim o username password) }
  | .backup o username password =>
    let made := s.files.head?.bind fun file => (file.backup prim o username password).2
    { s with
      files := s.files.modify 0 fun file => (file.backup prim o username password).1
      backups := made.toList ++ s.backups }
  | .restore index =>
    match s.files with
    | [] => s
    | file :: _ => { s with files := restored (s.backups.getD index file.settings) s.files }
  | .stop process => { s with files := s.files.modify process DatabaseFile.stop }
  | .login process username password now issuedAt =>
    let token := s.files[process]?.bind (·.login prim lib username password now issuedAt)
    { s with issued := token.toList ++ s.issued }
  | .setJWTSecret process token now commitFails secret =>
    { s with files := s.files.modify process (·.setJWTSecret lib token now commitFails secret) }
  | .changePassword process token now o current new =>
    { s with files := s.files.modify process (·.changePassword prim lib token now o current new) }

/-- The process accepts the token. -/
def Authorized (s : Sessions τ) (process now : ℕ) (token : τ) : Prop :=
  ∃ file, s.files[process]? = some file ∧ file.authorized lib now token = true

/-- The steps that may replace a secret: a restore, and a request with a token that is
accepted. -/
def Privileged (s : Sessions τ) : SessionStep τ → Prop
  | .restore _ => True
  | .setJWTSecret process token now _ _ => s.Authorized lib process now token
  | .changePassword process token now _ _ _ => s.Authorized lib process now token
  | _ => False

/-- Every file has a secret that is ready. -/
def Ready (s : Sessions τ) : Prop := ∀ file ∈ s.files, SecretReady file.settings

/-- No start has succeeded. -/
def Fresh (s : Sessions τ) : Prop := s.issued = [] ∧ ∃ settings, s.files = [⟨settings, none⟩]

/-- Once a start has succeeded, every file has a ready secret, as every backup has; every token is
the library's, for the secret and the claims it was handed out with. -/
structure Sound (s : Sessions τ) : Prop where
  files : s.Fresh ∨ s.Ready
  backups : ∀ settings ∈ s.backups, SecretReady settings
  tokens : ∀ i ∈ s.issued, i.token = lib.sign i.secret i.claims

variable {prim lib}

theorem forall_mem_modify {α : Type*} {P : α → Prop} {l : List α} {f : α → α} (n : ℕ)
    (h : ∀ a ∈ l, P a) (hf : ∀ a ∈ l, P a → P (f a)) : ∀ a ∈ l.modify n f, P a := by
  intro a ha
  obtain ⟨i, hi⟩ := List.mem_iff_getElem?.mp ha
  rw [List.getElem?_modify] at hi
  obtain ⟨b, hb, rfl⟩ := Option.map_eq_some_iff.mp hi
  have hmem := List.mem_of_getElem? hb
  split_ifs
  · exact hf b hmem (h b hmem)
  · exact h b hmem

theorem map_modify {α β : Type*} {l : List α} {f : α → α} {g : α → β} (n : ℕ)
    (h : ∀ a ∈ l, g (f a) = g a) : (l.modify n f).map g = l.map g := by
  apply List.ext_getElem?
  intro i
  rw [List.getElem?_map, List.getElem?_map, List.getElem?_modify]
  cases ha : l[i]? with
  | none => rfl
  | some a =>
    simp only [Option.map_eq_map, Option.map_some, Option.some_inj]
    split_ifs
    · exact h a (List.mem_of_getElem? ha)
    · rfl

theorem modify_of_fixed {α : Type*} {l : List α} {f : α → α} {n : ℕ}
    (h : ∀ a, l[n]? = some a → f a = a) : l.modify n f = l := by
  apply List.ext_getElem?
  intro i
  rw [List.getElem?_modify]
  cases ha : l[i]? with
  | none => rfl
  | some a =>
    simp only [Option.map_eq_map, Option.map_some, Option.some_inj]
    split_ifs with hi
    · exact h a (hi ▸ ha)
    · rfl

/-- The secrets of the files, which tell the tokens that are accepted. -/
def secrets (s : Sessions τ) : List String := s.files.map fun file => jwtSecret file.settings

/-- A request that is not authorized leaves its file as it is. -/
theorem modify_unauthorized {s : Sessions τ} {process now : ℕ} {token : τ}
    {f : DatabaseFile → DatabaseFile} (h : ¬s.Authorized lib process now token)
    (hf : ∀ file, ¬file.authorized lib now token = true → f file = file) :
    s.files.modify process f = s.files :=
  modify_of_fixed fun file hfile => hf file fun hauthorized => h ⟨file, hfile, hauthorized⟩

/-- A step that restores nothing and that no token is accepted for keeps every ready secret. -/
theorem step_secrets {s : Sessions τ} (hready : s.Ready) {label : SessionStep τ}
    (hlabel : ¬s.Privileged lib label) : (s.step prim lib label).secrets = s.secrets := by
  cases label with
  | serve o username password =>
    exact map_modify 0 fun file hfile => file.serve_secret o username password (hready file hfile)
  | backup o username password =>
    exact map_modify 0 fun file hfile => file.backup_secret o username password (hready file hfile)
  | restore index => exact absurd trivial hlabel
  | stop process => exact map_modify process fun _ _ => rfl
  | login process username password now issuedAt => rfl
  | setJWTSecret process token now commitFails secret =>
    have hsame : s.files.modify process
        (·.setJWTSecret lib token now commitFails secret) = s.files :=
      modify_unauthorized hlabel fun _ hnot => if_neg hnot
    exact congrArg (List.map fun file => jwtSecret file.settings) hsame
  | changePassword process token now o current new =>
    have hsame : s.files.modify process
        (·.changePassword prim lib token now o current new) = s.files :=
      modify_unauthorized hlabel fun _ hnot => if_neg hnot
    exact congrArg (List.map fun file => jwtSecret file.settings) hsame

theorem Fresh.unheld {s : Sessions τ} (h : s.Fresh) : ∀ file ∈ s.files, file.username = none := by
  obtain ⟨-, settings, hfiles⟩ := h
  rw [hfiles]
  exact List.forall_mem_singleton.mpr rfl

theorem Fresh.not_authorized {s : Sessions τ} (h : s.Fresh) (process now : ℕ) (token : τ) :
    ¬s.Authorized lib process now token := by
  rintro ⟨file, hfile, hauthorized⟩
  have hunheld := h.unheld file (List.mem_of_getElem? hfile)
  rw [DatabaseFile.authorized, hunheld] at hauthorized
  cases hauthorized

/-- Until a start succeeds nothing else than the settings changes. -/
theorem Fresh.step {s : Sessions τ} (h : s.Fresh) (label : SessionStep τ) :
    (s.step prim lib label).Fresh ∨ (s.step prim lib label).Ready := by
  have hunauthorized : ∀ process now token, ¬s.Authorized lib process now token :=
    h.not_authorized
  have hunheld := h.unheld
  obtain ⟨hissued, settings, hfiles⟩ := h
  cases label with
  | serve o username password =>
    have hstep : (s.step prim lib (.serve o username password)).files =
        [DatabaseFile.serve prim o username password ⟨settings, none⟩] := by
      rw [Sessions.step, hfiles]
      rfl
    rcases @DatabaseFile.serve_cases prim o username password ⟨settings, none⟩ with
      ⟨hheld, -⟩ | ⟨-, settings', result, hstart, hserve⟩
    · exact absurd rfl hheld
    · rw [hserve] at hstep
      by_cases hok : result = .ok ()
      · have hready := (startSettings_secret prim o username password settings).2
        rw [hstart] at hready
        right
        rw [Ready, hstep]
        exact List.forall_mem_singleton.mpr (hready hok)
      · rw [if_neg hok] at hstep
        exact .inl ⟨hissued, settings', hstep⟩
  | backup o username password =>
    have hstep : (s.step prim lib (.backup o username password)).files =
        [(DatabaseFile.backup prim o username password ⟨settings, none⟩).1] := by
      rw [Sessions.step, hfiles]
      rfl
    rcases @DatabaseFile.backup_cases prim o username password ⟨settings, none⟩ with
      ⟨hheld, -⟩ | ⟨-, settings', result, -, hbackup⟩
    · exact absurd rfl hheld
    · rw [hbackup] at hstep
      exact .inl ⟨hissued, settings', hstep⟩
  | restore index =>
    refine .inl ⟨?_, s.backups.getD index settings, ?_⟩
    · rw [Sessions.step, hfiles]
      exact hissued
    · rw [Sessions.step, hfiles]
      rfl
  | stop process =>
    refine .inl ⟨hissued, settings, ?_⟩
    have hsame : s.files.modify process DatabaseFile.stop = s.files := by
      refine modify_of_fixed fun file hfile => ?_
      rw [DatabaseFile.stop, ← hunheld file (List.mem_of_getElem? hfile)]
    exact hsame.trans hfiles
  | login process username password now issuedAt =>
    refine .inl ⟨?_, settings, hfiles⟩
    have hnone : (s.files[process]?.bind
        (·.login prim lib username password now issuedAt)) = none := by
      rw [Option.bind_eq_none_iff]
      intro file hfile
      have hfree := hunheld file (List.mem_of_getElem? hfile)
      exact if_pos (.inl (by rw [hfree]; exact (Option.some_ne_none username).symm))
    simp only [Sessions.step, hnone, hissued]
    rfl
  | setJWTSecret process token now commitFails secret =>
    exact .inl ⟨hissued, settings, (modify_unauthorized (hunauthorized process now token)
      fun _ hnot => if_neg hnot).trans hfiles⟩
  | changePassword process token now o current new =>
    exact .inl ⟨hissued, settings, (modify_unauthorized (hunauthorized process now token)
      fun _ hnot => if_neg hnot).trans hfiles⟩

theorem secretReady_of_eq {settings settings' : Settings} (h : SecretReady settings)
    (hsecret : jwtSecret settings' = jwtSecret settings) : SecretReady settings' := by
  rw [SecretReady, hsecret]
  exact h

theorem Ready.step {s : Sessions τ} (h : s.Ready)
    (hbackups : ∀ settings ∈ s.backups, SecretReady settings) (label : SessionStep τ) :
    (s.step prim lib label).Ready := by
  cases label with
  | serve o username password =>
    exact forall_mem_modify 0 h fun file _ hfile =>
      secretReady_of_eq hfile (file.serve_secret o username password hfile)
  | backup o username password =>
    exact forall_mem_modify 0 h fun file _ hfile =>
      secretReady_of_eq hfile (file.backup_secret o username password hfile)
  | restore index =>
    cases hfiles : s.files with
    | nil =>
      rw [Sessions.step, hfiles]
      exact h
    | cons file replaced =>
      rw [Ready, hfiles] at h
      obtain ⟨hfile, hreplaced⟩ := List.forall_mem_cons.mp h
      rw [Ready, Sessions.step, hfiles]
      refine List.forall_mem_cons.mpr ⟨?_, ?_⟩
      · rw [List.getD_eq_getElem?_getD]
        cases hbackup : s.backups[index]? with
        | none => exact hfile
        | some settings => exact hbackups settings (List.mem_of_getElem? hbackup)
      · split_ifs
        · exact h
        · exact hreplaced
  | stop process => exact forall_mem_modify process h fun file _ hfile => hfile
  | login process username password now issuedAt => exact h
  | setJWTSecret process token now commitFails secret =>
    exact forall_mem_modify process h fun file _ hfile =>
      file.setJWTSecret_ready token now commitFails secret hfile
  | changePassword process token now o current new =>
    exact forall_mem_modify process h fun file _ hfile =>
      file.changePassword_ready token now o current new hfile

theorem step_backups {s : Sessions τ} (h : ∀ settings ∈ s.backups, SecretReady settings)
    (label : SessionStep τ) :
    ∀ settings ∈ (s.step prim lib label).backups, SecretReady settings := by
  cases label with
  | backup o username password =>
    intro settings hmem
    obtain hmade | hkept := List.mem_append.mp hmem
    · obtain ⟨file, -, hfile⟩ := Option.bind_eq_some_iff.mp (Option.mem_toList.mp hmade)
      exact DatabaseFile.backup_ready hfile
    · exact h settings hkept
  | restore index =>
    rw [Sessions.step]
    split <;> exact h
  | _ => exact h

theorem step_tokens {s : Sessions τ} (h : ∀ i ∈ s.issued, i.token = lib.sign i.secret i.claims)
    (label : SessionStep τ) :
    ∀ i ∈ (s.step prim lib label).issued, i.token = lib.sign i.secret i.claims := by
  cases label with
  | login process username password now issuedAt =>
    intro i hmem
    obtain hnew | hkept := List.mem_append.mp hmem
    · obtain ⟨file, -, hfile⟩ := Option.bind_eq_some_iff.mp (Option.mem_toList.mp hnew)
      unfold DatabaseFile.login at hfile
      split_ifs at hfile
      obtain rfl := Option.some.inj hfile
      rfl
    · exact h i hkept
  | restore index =>
    rw [Sessions.step]
    split <;> exact h
  | _ => exact h

theorem Sound.step {s : Sessions τ} (hs : s.Sound lib) (label : SessionStep τ) :
    (s.step prim lib label).Sound lib where
  files := by
    obtain hfresh | hready := hs.files
    · exact hfresh.step label
    · exact .inr (hready.step hs.backups label)
  backups := step_backups hs.backups label
  tokens := step_tokens hs.tokens label

theorem sound_empty : (empty : Sessions τ).Sound lib :=
  ⟨.inl ⟨rfl, ∅, rfl⟩, by simp [empty], by simp [empty]⟩

/-- The secrets over steps that no token is accepted for and that restore nothing. -/
theorem run_secrets {s : Sessions τ} (hs : s.Sound lib) (hready : s.Ready)
    {labels : List (SessionStep τ)}
    (hlabels : Along (step prim lib) (fun s label => ¬s.Privileged lib label) s labels) :
    (run (step prim lib) s labels).secrets = s.secrets := by
  have hrun : (run (step prim lib) s labels).secrets = s.secrets ∧
      (run (step prim lib) s labels).Ready ∧ (run (step prim lib) s labels).Sound lib := by
    apply run_along (P := fun s' => s'.secrets = s.secrets ∧ s'.Ready ∧ s'.Sound lib) _ hlabels
      ⟨rfl, hready, hs⟩
    rintro s' label hlabel ⟨hsecrets, hready', hs'⟩
    exact ⟨(step_secrets hready' hlabel).trans hsecrets, hready'.step hs'.backups label,
      hs'.step label⟩
  exact hrun.1

theorem Sound.ready {s : Sessions τ} (hs : s.Sound lib) {i : IssuedToken τ} (hi : i ∈ s.issued) :
    s.Ready := by
  refine hs.files.resolve_left fun hfresh => ?_
  rw [hfresh.1] at hi
  cases hi

theorem Sound.serving {s : Sessions τ} (hs : s.Sound lib) {file : DatabaseFile}
    (hfile : file ∈ s.files) (hheld : file.username ≠ none) : SecretReady file.settings := by
  obtain hfresh | hready := hs.files
  · exact absurd (hfresh.unheld file hfile) hheld
  · exact hready file hfile

/-- Over every run of starts, backups, restores, also under a process that serves, stops, logins
and requests from an empty data directory: a process that serves has a secret of sixteen bytes at
least; a token that was handed out is accepted with a database file exactly as long as the secret
in it makes the same key as the one that signed the token and the token has not expired; and
neither a start, a backup, a stop nor any request without an accepted token changes which tokens
those are. -/
theorem token_accepted_iff (hlib : lib.Documented) (labels : List (SessionStep τ)) :
    let s := run (step prim lib) empty labels
    ∀ (process : ℕ) (file : DatabaseFile), s.files[process]? = some file →
      (file.username ≠ none → minJWTSecretLen ≤ (jwtSecret file.settings).utf8ByteSize) ∧
        ∀ i ∈ s.issued, ∀ now,
          (lib.accepts file.settings now i.token = true ↔
            lib.hmacKey (jwtSecret file.settings) = lib.hmacKey i.secret ∧ now < i.claims.exp) ∧
          ∀ more, Along (step prim lib) (fun s label => ¬s.Privileged lib label) s more →
            ∃ file', (run (step prim lib) s more).files[process]? = some file' ∧
              lib.accepts file'.settings now i.token = lib.accepts file.settings now i.token := by
  intro s process file hfile
  have hs : s.Sound lib := run_invariant (P := Sound lib) (fun s label hs => hs.step label)
    sound_empty labels
  refine ⟨hs.serving (List.mem_of_getElem? hfile), fun i hi now => ⟨?_, fun more hmore => ?_⟩⟩
  · rw [hs.tokens i hi]
    exact TokenLibrary.accepts_sign hlib file.settings now i.secret i.claims
  · have hsecrets := congrArg (·[process]?) (run_secrets hs (hs.ready hi) hmore)
    dsimp only [secrets] at hsecrets
    rw [List.getElem?_map, List.getElem?_map, hfile] at hsecrets
    obtain ⟨file', hfile', hsecret⟩ := Option.map_eq_some_iff.mp hsecrets
    exact ⟨file', hfile', TokenLibrary.accepts_congr hsecret now i.token⟩

/-- A library whose tokens say what signed them, for secrets that HMAC does not hash. -/
def sampleLibrary : TokenLibrary (String × Claims) where
  sign secret claims := (secret, claims)
  verifies key token := hmacBlock id key == hmacBlock id token.1
  sha256 := id
  parseUnverified token := some token.2.unverified
  validate token now := token.exp.all (decide <| now < ·)

theorem sampleLibrary_documented : sampleLibrary.Documented where
  parse _ _ := rfl
  verifies _ _ _ := beq_iff_eq
  validate claims now := by
    show decide (now < claims.exp) = true ↔ now < claims.exp
    exact decide_eq_true_iff

/-- A fresh data directory, a backup, a login, a rotation with the token of the login, and a
restore while the process serves. -/
def firstDay : List (SessionStep (String × Claims)) :=
  let o : BootOutcome := ⟨⟨some (List.replicate 16 1), none, false⟩,
    some ⟨List.replicate 32 0, List.length_replicate⟩, false⟩
  [.backup o "admin" "", .serve o "admin" "", .login 0 "admin" "admin123" 1000 1000,
    .setJWTSecret 0 ("AAAAAAAAAAAAAAAAAAAAAAAAAAAAAAAAAAAAAAAAAAA", ⟨"admin", 87400, 1000⟩) 2000
      false "another-secret-of-some-length",
    .restore 0]

/-- The token is accepted with the file that the restore has put there, and not by the process. -/
theorem accepted_firstDay :
    let s := run (step CredentialHistory.samplePrimitives sampleLibrary) empty firstDay
    ∃ restored held, s.files = [restored, held] ∧ s.issued.length = 1 ∧ ∀ i ∈ s.issued,
      sampleLibrary.accepts restored.settings 2000 i.token = true ∧
        sampleLibrary.accepts held.settings 2000 i.token ≠ true := by
  intro s
  have hlength : s.files.length = 2 ∧ s.issued.length = 1 := by decide
  obtain ⟨restored, held, hfiles⟩ := List.length_eq_two.mp hlength.1
  have hkeys : s.files.map (fun file => sampleLibrary.hmacKey (jwtSecret file.settings)) =
      [sampleLibrary.hmacKey "AAAAAAAAAAAAAAAAAAAAAAAAAAAAAAAAAAAAAAAAAAA",
        sampleLibrary.hmacKey "another-secret-of-some-length"] := by decide
  have hissued : ∀ i ∈ s.issued,
      i.secret = "AAAAAAAAAAAAAAAAAAAAAAAAAAAAAAAAAAAAAAAAAAA" ∧ 2000 < i.claims.exp := by decide
  have hdistinct : sampleLibrary.hmacKey "another-secret-of-some-length" ≠
      sampleLibrary.hmacKey "AAAAAAAAAAAAAAAAAAAAAAAAAAAAAAAAAAAAAAAAAAA" := by decide
  rw [hfiles, List.map_cons, List.map_cons, List.map_nil] at hkeys
  obtain ⟨hrestored, hheld⟩ := List.cons_eq_cons.mp hkeys
  have hat (process : ℕ) (file : DatabaseFile) (hfile : s.files[process]? = some file)
      (i : IssuedToken (String × Claims)) (hi : i ∈ s.issued) :=
    ((token_accepted_iff sampleLibrary_documented firstDay process file hfile).2 i hi 2000).1
  refine ⟨restored, held, hfiles, hlength.2, fun i hi => ?_⟩
  obtain ⟨hsecret, hexp⟩ := hissued i hi
  constructor
  · rw [hat 0 restored (by rw [hfiles]; rfl) i hi, hrestored, hsecret]
    exact ⟨rfl, hexp⟩
  · rw [ne_eq, hat 1 held (by rw [hfiles]; rfl) i hi, hsecret]
    exact fun h => hdistinct ((List.singleton_inj.mp hheld).symm.trans h.1)

end Sessions

end Boxui.API
