import Boxui.Core.AdminSettings

/-! The secret that signs tokens: read, checked, generated at the first start and rotated. -/
namespace Boxui.Core
open GoValue

def minJWTSecretLen : ℕ := 16

/-- The alphabet of `base64.RawURLEncoding`. -/
def urlAlphabet : List Char :=
  "ABCDEFGHIJKLMNOPQRSTUVWXYZabcdefghijklmnopqrstuvwxyz0123456789-_".toList

def urlDigit (n : ℕ) : Char := urlAlphabet.getD n 'A'

def rawURLEncoding : List UInt8 → List Char
  | a :: b :: c :: rest =>
    let n := a.toNat * 65536 + b.toNat * 256 + c.toNat
    urlDigit (n / 262144) :: urlDigit (n / 4096 % 64) :: urlDigit (n / 64 % 64) ::
      urlDigit (n % 64) :: rawURLEncoding rest
  | [a, b] =>
    let n := a.toNat * 1024 + b.toNat * 4
    [urlDigit (n / 4096), urlDigit (n / 64 % 64), urlDigit (n % 64)]
  | [a] => [urlDigit (a.toNat / 4), urlDigit (a.toNat * 16 % 64)]
  | [] => []

example : rawURLEncoding [77, 97, 110, 255] = "TWFu_w".toList := by decide

theorem urlDigit_size (n : ℕ) : (urlDigit n).utf8Size = 1 := by
  have hall : urlAlphabet.all (fun c => c.utf8Size == 1) = true := by decide
  rw [urlDigit, List.getD_eq_getElem?_getD]
  cases hdigit : urlAlphabet[n]? with
  | none => rfl
  | some c => exact beq_iff_eq.mp (List.all_eq_true.mp hall c (List.mem_of_getElem? hdigit))

theorem utf8ByteSize_cons (c : Char) (s : List Char) :
    (String.ofList (c :: s)).utf8ByteSize = c.utf8Size + (String.ofList s).utf8ByteSize := by
  rw [String.ofList_cons, String.utf8ByteSize_append, String.utf8ByteSize_singleton]

/-- Three bytes make four characters, each of one byte. -/
theorem rawURLEncoding_size (bytes : List UInt8) :
    (String.ofList (rawURLEncoding bytes)).utf8ByteSize = (4 * bytes.length + 2) / 3 := by
  induction bytes using rawURLEncoding.induct with
  | case1 a b c rest ih =>
    simp only [rawURLEncoding, utf8ByteSize_cons, urlDigit_size, ih, List.length_cons]
    omega
  | case2 a b =>
    simp only [rawURLEncoding, utf8ByteSize_cons, urlDigit_size, List.length_cons]
    rfl
  | case3 a =>
    simp only [rawURLEncoding, utf8ByteSize_cons, urlDigit_size, List.length_cons]
    rfl
  | case4 => rfl

/-- What `rand.Read` returns for the thirty-two bytes of a secret, if anything. -/
abbrev RandomSecret := Option {bytes : List UInt8 // bytes.length = 32}

def generateJWTSecret : RandomSecret → Option String
  | none => none
  | some bytes => some (String.ofList (rawURLEncoding bytes.val))

def validateJWTSecret (secret : String) : Except String Unit :=
  if secret = "" then .error "jwt secret must not be empty"
  else if secret.utf8ByteSize < minJWTSecretLen then
    .error s!"jwt secret must be at least {minJWTSecretLen} characters"
  else .ok ()

theorem validateJWTSecret_ok {secret : String} :
    validateJWTSecret secret = .ok () ↔ minJWTSecretLen ≤ secret.utf8ByteSize := by
  unfold validateJWTSecret
  by_cases hempty : secret = ""
  · subst hempty
    simp [minJWTSecretLen]
  · rw [if_neg hempty]
    by_cases hshort : secret.utf8ByteSize < minJWTSecretLen
    · rw [if_pos hshort]
      simpa using hshort
    · rw [if_neg hshort]
      simpa using hshort

theorem generateJWTSecret_size {random : RandomSecret} {secret : String}
    (h : generateJWTSecret random = some secret) : secret.utf8ByteSize = 43 := by
  cases random with
  | none => cases h
  | some bytes =>
    obtain rfl := Option.some.inj h
    rw [rawURLEncoding_size, bytes.property]

namespace SettingsManager

def jwtSecret (settings : Settings) : String := textOf (get jwtSecretKey settings)

def setJWTSecret (commitFails : Bool) (secret : String) (settings : Settings) :
    Settings × Except String Unit :=
  match validateJWTSecret secret with
  | .error e => (settings, .error e)
  | .ok () =>
    if commitFails then (settings, .error "commit")
    else (settings.insert jwtSecretKey (.text secret), .ok ())

/-- A stored secret is kept, and refused when it is too short. -/
def ensureJWTSecret (random : RandomSecret) (commitFails : Bool) (settings : Settings) :
    Settings × Except String (String × Bool) :=
  if jwtSecret settings ≠ "" then
    match validateJWTSecret (jwtSecret settings) with
    | .error e => (settings, .error ("stored jwt secret invalid: " ++ e))
    | .ok () => (settings, .ok (jwtSecret settings, false))
  else
    match generateJWTSecret random with
    | none => (settings, .error "generate jwt secret")
    | some secret =>
      if commitFails then (settings, .error "persist jwt secret")
      else (settings.insert jwtSecretKey (.text secret), .ok (secret, true))

theorem jwtSecret_insert (secret : String) (settings : Settings) :
    jwtSecret (settings.insert jwtSecretKey (.text secret)) = secret := by
  rw [jwtSecret, get, GoMap.getElem?_insert, if_pos rfl]
  rfl

theorem jwtSecret_writeCredential (record : PasswordRecord) (secret : String)
    (settings : Settings) : jwtSecret (writeCredential record secret settings) = secret := by
  rw [jwtSecret, get, writeCredential_secret]
  rfl

/-- The settings hold a secret that may sign. -/
def SecretReady (settings : Settings) : Prop :=
  minJWTSecretLen ≤ (jwtSecret settings).utf8ByteSize

theorem SecretReady.ne_empty {settings : Settings} (h : SecretReady settings) :
    jwtSecret settings ≠ "" := by
  intro hempty
  rw [SecretReady, hempty] at h
  exact absurd h (by decide)

/-- The exits of `SetJWTSecret`: an error, which changes nothing, or a secret that may sign. -/
theorem setJWTSecret_cases (commitFails : Bool) (secret : String) (settings : Settings) :
    (setJWTSecret commitFails secret settings).1 = settings ∨
      minJWTSecretLen ≤ secret.utf8ByteSize ∧
        (setJWTSecret commitFails secret settings).1 =
          settings.insert jwtSecretKey (.text secret) := by
  unfold setJWTSecret
  cases hvalid : validateJWTSecret secret with
  | error e => exact .inl rfl
  | ok u =>
    cases commitFails with
    | true => exact .inl rfl
    | false => exact .inr ⟨validateJWTSecret_ok.mp hvalid, rfl⟩

/-- The exits of `EnsureJWTSecret`: a ready secret is kept; where it is missing, one of forty-three
bytes is stored, or nothing; a short one is refused. -/
theorem ensureJWTSecret_cases (random : RandomSecret) (commitFails : Bool) (settings : Settings) :
    (SecretReady settings ∧ ensureJWTSecret random commitFails settings =
      (settings, .ok (jwtSecret settings, false))) ∨
    (∃ secret, jwtSecret settings = "" ∧ generateJWTSecret random = some secret ∧
      commitFails = false ∧ ensureJWTSecret random commitFails settings =
        (settings.insert jwtSecretKey (.text secret), .ok (secret, true))) ∨
    ∃ e, ¬SecretReady settings ∧
      ensureJWTSecret random commitFails settings = (settings, .error e) := by
  unfold ensureJWTSecret
  by_cases hempty : jwtSecret settings = ""
  · have hnot : ¬SecretReady settings := fun h => h.ne_empty hempty
    rw [if_neg (not_not.mpr hempty)]
    cases hgenerate : generateJWTSecret random with
    | none => exact .inr (.inr ⟨_, hnot, rfl⟩)
    | some secret =>
      cases commitFails with
      | true => exact .inr (.inr ⟨_, hnot, rfl⟩)
      | false => exact .inr (.inl ⟨secret, hempty, rfl, rfl, rfl⟩)
  · rw [if_pos hempty]
    cases hvalid : validateJWTSecret (jwtSecret settings) with
    | error e =>
      refine .inr (.inr ⟨_, fun hready => ?_, rfl⟩)
      rw [validateJWTSecret_ok.mpr hready] at hvalid
      cases hvalid
    | ok u => exact .inl ⟨validateJWTSecret_ok.mp hvalid, rfl⟩

end SettingsManager

end Boxui.Core
