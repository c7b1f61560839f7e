import Boxui.Core.Credential
import Boxui.Library.Machine
import Mathlib.Logic.Function.Basic

/-! Logins and password changes under any interleaving. Both verify a password first and act on
it later: a login reads the secret and signs a token, a change commits its transaction. -/
namespace Boxui.API
open Boxui.Core Machine

variable {κ τ : Type*}

structure Claims where
  sub : String
  exp : Nat
  iat : Nat
  deriving DecidableEq

/-- How tokens are signed with a secret, and which tokens verify under one. -/
structure TokenSigner (τ : Type*) where
  sign : String → Claims → τ
  verifies : String → τ → Bool

/-- A request that has verified the password it presented. A change has prepared its record and
its secret. -/
inductive PendingAuth where
  | login (username password : String)
  | change (current : String) (record : PasswordRecord) (secret : String)

def PendingAuth.presented : PendingAuth → String
  | .login _ password => password
  | .change current _ _ => current

/-- `issued` are the tokens handed out, each with the password that its login presented.
A request is `overtaken` when, after it verified its password, another request committed a
record which that password does not match. -/
structure AuthService (κ τ : Type*) where
  store : CredentialStore
  pending : κ → Option PendingAuth
  issued : List (τ × String)
  overtaken : κ → Bool

inductive AuthStep (κ : Type*) where
  | loginVerify (request : κ) (username password : String)
  | loginSign (request : κ) (now : Nat)
  | changeVerify (request : κ) (current new : String) (salt : List UInt8) (secret : String)
  | changeCommit (request : κ)

/-- The lifetime of a token, in seconds. -/
def tokenLifetime : Nat := 24 * 60 * 60

namespace AuthService

def start (store : CredentialStore) : AuthService κ τ := ⟨store, fun _ => none, [], fun _ => false⟩

variable [DecidableEq κ]

/-- A request that starts with a verified password. -/
def accept (request : κ) (auth : PendingAuth) (s : AuthService κ τ) : AuthService κ τ :=
  { s with
    pending := Function.update s.pending request (some auth)
    overtaken := Function.update s.overtaken request false }

variable (prim : CredentialPrimitives) (signer : TokenSigner τ) (admin : String)

def step (s : AuthService κ τ) : AuthStep κ → AuthService κ τ
  | .loginVerify request username password =>
    if s.pending request = none ∧ username = admin ∧
        verifyAdminPassword prim s.store password = true then
      s.accept request (.login username password)
    else s
  | .loginSign request now =>
    match s.pending request with
    | some (.login username password) =>
      { s with
        pending := Function.update s.pending request none
        issued := (signer.sign s.store.jwtSecret ⟨username, now + tokenLifetime, now⟩, password)
          :: s.issued }
    | _ => s
  | .changeVerify request current new salt secret =>
    match s.pending request, preparePasswordChange prim admin current new salt s.store with
    | none, .ok record => s.accept request (.change current record secret)
    | _, _ => s
  | .changeCommit request =>
    match s.pending request with
    | some (.change _ record secret) =>
      let store := commitPasswordChange record secret
      { s with
        store := store
        pending := Function.update s.pending request none
        overtaken := fun other => s.overtaken other ||
          !((s.pending other).all fun auth => verifyAdminPassword prim store auth.presented) }
    | _ => s

/-- The second step of a request is not overtaken by a change that committed since its first. -/
def NotOvertaken (s : AuthService κ τ) : AuthStep κ → Prop
  | .loginSign request _ => s.pending request ≠ none → s.overtaken request = false
  | .changeCommit request => s.pending request ≠ none → s.overtaken request = false
  | _ => True

/-- A change commits a secret under which no token that was issued verifies. -/
def FreshSecret (s : AuthService κ τ) : AuthStep κ → Prop
  | .changeCommit request => ∀ current record secret,
      s.pending request = some (.change current record secret) →
        ∀ token ∈ s.issued, signer.verifies secret token.1 = false
  | _ => True

/-- Every token that verifies now was issued for a password in force. -/
def TokensInForce (s : AuthService κ τ) : Prop :=
  ∀ token ∈ s.issued, signer.verifies s.store.jwtSecret token.1 = true →
    verifyAdminPassword prim s.store token.2 = true

/-- A request that was not overtaken presented a password in force. -/
def PendingInForce (s : AuthService κ τ) : Prop :=
  ∀ request auth, s.pending request = some auth → s.overtaken request = false →
    verifyAdminPassword prim s.store auth.presented = true

variable {prim signer admin}

theorem PendingInForce.accept {s : AuthService κ τ} (h : s.PendingInForce prim) {request : κ}
    {auth : PendingAuth} (hauth : verifyAdminPassword prim s.store auth.presented = true) :
    (s.accept request auth).PendingInForce prim := by
  intro other auth' hpending hnot
  by_cases hother : other = request
  · subst hother
    simp only [AuthService.accept, Function.update_self, Option.some.injEq] at hpending
    subst hpending
    exact hauth
  · simp only [AuthService.accept, Function.update_of_ne hother] at hpending hnot
    exact h other auth' hpending hnot

/-- A request that is through leaves the others as they were. -/
theorem PendingInForce.finish {s : AuthService κ τ} (h : s.PendingInForce prim) (request : κ)
    (issued : List (τ × String)) :
    PendingInForce prim { s with
      pending := Function.update s.pending request none, issued := issued } := by
  intro other auth hpending hnot
  by_cases hother : other = request
  · subst hother
    simp only [Function.update_self] at hpending
    cases hpending
  · simp only [Function.update_of_ne hother] at hpending
    exact h other auth hpending hnot

theorem PendingInForce.step {s : AuthService κ τ} (h : s.PendingInForce prim)
    (label : AuthStep κ) : (s.step prim signer admin label).PendingInForce prim := by
  cases label with
  | loginVerify request username password =>
    simp only [AuthService.step]
    split
    · next hverify => exact h.accept hverify.2.2
    · exact h
  | loginSign request now =>
    simp only [AuthService.step]
    split
    · exact h.finish request _
    · exact h
  | changeVerify request current new salt secret =>
    simp only [AuthService.step]
    split
    · next hprepare => exact h.accept (verify_of_prepare prim hprepare)
    · exact h
  | changeCommit request =>
    simp only [AuthService.step]
    split
    · intro other auth hpending hnot
      by_cases hother : other = request
      · subst hother
        simp only [Function.update_self] at hpending
        cases hpending
      · simp only [Function.update_of_ne hother] at hpending
        simp only [hpending, Option.all_some, Bool.or_eq_false_iff, Bool.not_eq_false'] at hnot
        exact hnot.2
    · exact h

theorem TokensInForce.step {s : AuthService κ τ} (h : s.TokensInForce prim signer)
    (hpending : s.PendingInForce prim) {label : AuthStep κ} (hnot : s.NotOvertaken label)
    (hfresh : s.FreshSecret signer label) :
    (s.step prim signer admin label).TokensInForce prim signer := by
  cases label with
  | loginVerify request username password =>
    simp only [AuthService.step]
    split <;> exact h
  | loginSign request now =>
    simp only [AuthService.step]
    split
    · next username password hlogin =>
      intro token htoken hverifies
      obtain rfl | htoken := List.mem_cons.mp htoken
      · exact hpending request _ hlogin (hnot (by rw [hlogin]; exact Option.some_ne_none _))
      · exact h token htoken hverifies
    · exact h
  | changeVerify request current new salt secret =>
    simp only [AuthService.step]
    split <;> exact h
  | changeCommit request =>
    simp only [AuthService.step]
    split
    · next current record secret hchange =>
      intro token htoken hverifies
      have hnever := hfresh current record secret hchange token htoken
      change signer.verifies secret token.1 = true at hverifies
      rw [hnever] at hverifies
      cases hverifies
    · exact h

/-- Only a commit replaces the record. -/
theorem store_step {s : AuthService κ τ} {label : AuthStep κ}
    (h : (s.step prim signer admin label).store ≠ s.store) :
    ∃ request current record secret, label = .changeCommit request ∧
      s.pending request = some (.change current record secret) := by
  cases label with
  | loginVerify request username password =>
    simp only [AuthService.step] at h
    split at h <;> exact absurd rfl h
  | loginSign request now =>
    simp only [AuthService.step] at h
    split at h <;> exact absurd rfl h
  | changeVerify request current new salt secret =>
    simp only [AuthService.step] at h
    split at h <;> exact absurd rfl h
  | changeCommit request =>
    simp only [AuthService.step] at h
    split at h
    · next current record secret hchange => exact ⟨request, current, record, secret, rfl, hchange⟩
    · exact absurd rfl h

end AuthService

/-- In a run in which no second step is overtaken, and in which the secrets of the changes are
fresh, every token that verifies was issued for a password in force, and the stored password is
only replaced by a request that presented the password in force. -/
theorem passwordChange_cutsOff [DecidableEq κ] (prim : CredentialPrimitives)
    (signer : TokenSigner τ) (admin : String) (store : CredentialStore)
    {labels : List (AuthStep κ)}
    (hfresh : Along (AuthService.step prim signer admin) (AuthService.FreshSecret signer)
      (.start store) labels)
    (hnot : Along (AuthService.step prim signer admin) AuthService.NotOvertaken
      (.start store) labels) :
    let last := run (AuthService.step prim signer admin) (.start store) labels
    last.TokensInForce prim signer ∧
      ∀ label, last.NotOvertaken label → (last.step prim signer admin label).store ≠ last.store →
        ∃ request current record secret, label = .changeCommit request ∧
          last.pending request = some (.change current record secret) ∧
          verifyAdminPassword prim last.store current = true := by
  intro last
  have hlast := run_along
    (P := fun s : AuthService κ τ => s.PendingInForce prim ∧ s.TokensInForce prim signer)
    (fun s label hlabel h => ⟨h.1.step label, h.2.step h.1 hlabel.1 hlabel.2⟩) (hnot.and hfresh)
    ⟨fun _ _ h => (by cases h), fun _ h => absurd h List.not_mem_nil⟩
  refine ⟨hlast.2, fun label hlabel hstore => ?_⟩
  obtain ⟨request, current, record, secret, rfl, hchange⟩ := AuthService.store_step hstore
  refine ⟨request, current, record, secret, rfl, hchange, ?_⟩
  exact hlast.1 request _ hchange (hlabel (by rw [hchange]; exact Option.some_ne_none _))

/-- `argon2.IDKey` at the costs of the program, for the passwords and salts used below. -/
def argon2Values : List (String × UInt8 × List UInt8) :=
  [("admin123", 1, [131, 163, 58, 78, 202, 125, 10, 94, 42, 20, 141, 241, 152, 227, 141, 251,
      131, 23, 177, 149, 215, 126, 3, 226, 99, 220, 32, 154, 157, 225, 53, 28]),
    ("admin123", 2, [164, 1, 77, 70, 199, 96, 159, 18, 173, 166, 228, 126, 19, 228, 251, 18,
      19, 36, 29, 0, 68, 33, 40, 224, 135, 213, 39, 208, 172, 152, 128, 122]),
    ("correct-horse-1", 2, [86, 237, 64, 51, 222, 237, 127, 247, 71, 3, 101, 97, 173, 205, 12,
      228, 247, 219, 224, 90, 39, 123, 19, 11, 23, 142, 146, 207, 209, 254, 203, 95]),
    ("correct-horse-2", 3, [186, 28, 88, 93, 229, 208, 126, 30, 136, 86, 245, 99, 78, 53, 182,
      168, 14, 221, 40, 8, 247, 92, 82, 211, 169, 242, 165, 59, 69, 31, 191, 196])]

def salt (b : UInt8) : List UInt8 := List.replicate 16 b

def argon2Table : CredentialPrimitives where
  idKey password s _ _ _ _ :=
    ((argon2Values.find? fun v => GoStrings.bytes v.1 == password && salt v.2.1 == s).map
      fun v => v.2.2).getD []
  equalFold s t := s == t
  toLower s := String.ofList (s.toList.map Char.toLower)

/-- Tokens that show their secret. -/
def openSigner : TokenSigner (String × Claims) where
  sign := Prod.mk
  verifies secret token := token.1 == secret

def defaultStore : CredentialStore where
  record := some (hashAdminPassword argon2Table (salt 1) "admin123")
  isDefault := true
  jwtSecret := "first-secret"

/-- A login, then a change of the password, one after the other. -/
def loginThenChange : List (AuthStep Bool) :=
  [.loginVerify false "admin" "admin123", .loginSign false 0,
    .changeVerify true "admin123" "correct-horse-1" (salt 2) "second-secret", .changeCommit true]

theorem loginThenChange_cutsOff :
    (run (AuthService.step argon2Table openSigner "admin") (.start defaultStore)
      loginThenChange).TokensInForce argon2Table openSigner := by
  refine (passwordChange_cutsOff argon2Table openSigner "admin" defaultStore ?_ ?_).1
  · refine ⟨trivial, trivial, trivial, ?_, trivial⟩
    intro current record secret hpending
    cases hpending
    decide
  · exact ⟨trivial, fun _ => rfl, trivial, fun _ => rfl, trivial⟩

/-- The password is changed between the verification of a login and its signature. -/
def lateLogin : List (AuthStep Bool) :=
  [.loginVerify false "admin" "admin123",
    .changeVerify true "admin123" "correct-horse-1" (salt 2) "second-secret", .changeCommit true,
    .loginSign false 0]

/-- Two changes verify the same password; the first has committed. -/
def lateChange : List (AuthStep Bool) :=
  [.changeVerify false "admin123" "correct-horse-1" (salt 2) "second-secret",
    .changeVerify true "admin123" "correct-horse-2" (salt 3) "third-secret", .changeCommit false]

/-- The old password gets a token that verifies, and it replaces the new password. -/
theorem late_not_cutOff :
    let afterLogin := run (AuthService.step argon2Table openSigner "admin")
      (.start defaultStore) lateLogin
    let beforeCommit := run (AuthService.step argon2Table openSigner "admin")
      (.start defaultStore) lateChange
    ¬afterLogin.TokensInForce argon2Table openSigner ∧
      verifyAdminPassword argon2Table beforeCommit.store "admin123" = false ∧
      (beforeCommit.pending true).map PendingAuth.presented = some "admin123" ∧
      (beforeCommit.step argon2Table openSigner "admin" (.changeCommit true)).store ≠
        beforeCommit.store := by
  refine ⟨fun h => ?_, by decide, by decide, by decide⟩
  have hold := h (("second-secret", ⟨"admin", tokenLifetime, 0⟩), "admin123") (by decide)
    (by decide)
  exact absurd hold (by decide)

end Boxui.API
