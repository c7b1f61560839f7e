import Boxui.Library.GoValue
import Boxui.Library.Machine
import Mathlib.Data.List.Perm.Subperm

/-! The login rate limiter and concurrent logins. A login asks the limiter, verifies the
password, and only then tells the limiter how it went. -/
namespace Boxui.API
open GoValue Machine

def maxLoginFailures : Nat := 5

/-- Durations are in nanoseconds, times in nanoseconds since the zero time. -/
def loginLockDuration : Nat := 60 * 10 ^ 9
def loginEntryTTL : Nat := 600 * 10 ^ 9
def loginCleanupThreshold : Nat := 500

structure LoginEntry where
  failures : Nat
  lockedUntil : Nat
  lastSeen : Nat
  deriving DecidableEq

abbrev LoginLimiter := GoMap LoginEntry

def newLoginRateLimiter : LoginLimiter := ∅

namespace LoginLimiter

/-- `entries[key]`, the zero entry when there is none. -/
def entry (key : String) (limiter : LoginLimiter) : LoginEntry := limiter[key]?.getD ⟨0, 0, 0⟩

def allow (key : String) (now : Nat) (limiter : LoginLimiter) : LoginLimiter × Bool :=
  match limiter[key]? with
  | none => (limiter, true)
  | some entry =>
    if now < entry.lockedUntil then (limiter, false)
    else if entry.lockedUntil ≠ 0 then (limiter.erase key, true)
    else (limiter, true)

/-- The entry was last seen before the cutoff and is not locked. -/
def stale (now : Nat) (entry : LoginEntry) : Bool :=
  decide (entry.lastSeen + loginEntryTTL < now) && !decide (now < entry.lockedUntil)

def cleanupLocked (now : Nat) (limiter : LoginLimiter) : LoginLimiter :=
  limiter.filter fun _ entry => !stale now entry

/-- The entries a failure is counted in. -/
def cleaned (now : Nat) (limiter : LoginLimiter) : LoginLimiter :=
  if loginCleanupThreshold < limiter.size then cleanupLocked now limiter else limiter

/-- An entry with one failure more; the last one allowed locks it. -/
def countFailure (now : Nat) (entry : LoginEntry) : LoginEntry :=
  if maxLoginFailures ≤ entry.failures + 1 then ⟨0, now + loginLockDuration, now⟩
  else ⟨entry.failures + 1, entry.lockedUntil, now⟩

def recordFailure (key : String) (now : Nat) (limiter : LoginLimiter) : LoginLimiter :=
  let limiter := cleaned now limiter
  limiter.insert key (countFailure now (entry key limiter))

def recordSuccess (key : String) (limiter : LoginLimiter) : LoginLimiter := limiter.erase key

def Locked (key : String) (now : Nat) (limiter : LoginLimiter) : Prop :=
  now < (entry key limiter).lockedUntil

@[simp] theorem entry_empty (key : String) : entry key newLoginRateLimiter = ⟨0, 0, 0⟩ := by
  simp [entry, newLoginRateLimiter]

theorem entry_insert (key key' : String) (e : LoginEntry) (limiter : LoginLimiter) :
    entry key' (limiter.insert key e) = if key = key' then e else entry key' limiter := by
  simp only [entry, GoMap.getElem?_insert]
  split <;> rfl

theorem entry_erase (key key' : String) (limiter : LoginLimiter) :
    entry key' (limiter.erase key) = if key = key' then ⟨0, 0, 0⟩ else entry key' limiter := by
  simp only [entry, GoMap.getElem?_erase]
  split <;> rfl

/-- A cleanup forgets an entry or leaves it. -/
theorem entry_cleaned (key : String) (now : Nat) (limiter : LoginLimiter) :
    entry key (cleaned now limiter) =
      if loginCleanupThreshold < limiter.size ∧ stale now (entry key limiter) = true then ⟨0, 0, 0⟩
      else entry key limiter := by
  unfold cleaned
  by_cases hsize : loginCleanupThreshold < limiter.size
  · rw [if_pos hsize]
    unfold entry
    have hfilter : (cleanupLocked now limiter)[key]? =
        (limiter[key]?).filter fun e => !stale now e := Std.ExtTreeMap.getElem?_filter'
    rw [hfilter]
    cases hentry : limiter[key]? with
    | none => simp
    | some e => cases h : stale now e <;> simp [hsize, Option.filter, h]
  · simp [hsize]

theorem mem_of_mem_allow {key key' : String} {now : Nat} {limiter : LoginLimiter}
    (h : key' ∈ (allow key now limiter).1) : key' ∈ limiter := by
  unfold allow at h
  split at h
  · exact h
  · split_ifs at h
    · exact h
    · exact Std.ExtTreeMap.mem_of_mem_erase h
    · exact h

theorem mem_of_mem_recordFailure {key key' : String} {now : Nat} {limiter : LoginLimiter}
    (h : key' ∈ recordFailure key now limiter) : key' = key ∨ key' ∈ limiter := by
  rcases Std.ExtTreeMap.mem_insert.mp h with hkey | hold
  · exact .inl (compare_eq_iff_eq.mp hkey).symm
  · refine .inr ?_
    unfold cleaned at hold
    split_ifs at hold
    · exact Std.ExtTreeMap.mem_of_mem_filter hold
    · exact hold

/-- What a login that is let through finds: no entry, or one that counts without a lock. -/
theorem entry_allow {key : String} {now : Nat} {limiter : LoginLimiter}
    (h : (allow key now limiter).2 = true) :
    entry key (allow key now limiter).1 =
      if (entry key limiter).lockedUntil = 0 then entry key limiter else ⟨0, 0, 0⟩ := by
  unfold allow at h ⊢
  cases hentry : limiter[key]? with
  | none => simp [entry, hentry]
  | some e =>
    simp only [hentry] at h ⊢
    by_cases hlocked : now < e.lockedUntil
    · simp [hlocked] at h
    · by_cases hzero : e.lockedUntil = 0
      · simp [entry, hentry, hzero]
      · simp [entry, hentry, hlocked, hzero]

theorem entry_allow_of_ne {key key' : String} (hne : key ≠ key') (now : Nat)
    (limiter : LoginLimiter) : entry key' (allow key now limiter).1 = entry key' limiter := by
  unfold allow
  split
  · rfl
  · split_ifs
    · rfl
    · rw [entry_erase, if_neg hne]
    · rfl

theorem allow_eq_of_rejected {key : String} {now : Nat} {limiter : LoginLimiter}
    (h : (allow key now limiter).2 = false) : (allow key now limiter).1 = limiter := by
  unfold allow at h ⊢
  cases hentry : limiter[key]? with
  | none => rfl
  | some e =>
    simp only [hentry] at h ⊢
    split_ifs at h ⊢
    rfl

end LoginLimiter

/-- A login between its steps: it passed the limiter, or it has verified its password. -/
inductive LoginStage where
  | checked
  | verified (accepted : Bool)
  deriving DecidableEq

/-- `inFlight` are the logins under way with their client's key. `verifications` counts, for
each key, the passwords verified since its last recorded success or lock. -/
structure LoginGate where
  limiter : LoginLimiter
  inFlight : List (String × LoginStage)
  verifications : String → Nat

def newLoginGate : LoginGate := ⟨newLoginRateLimiter, [], fun _ => 0⟩

/-- A login in flight is named by its place in the list. Its password is verified only when the
user name matches. -/
inductive LoginStep where
  | allow (key : String) (now : Nat)
  | badBody (login : Nat)
  | verify (login : Nat) (knownUser accepted : Bool)
  | record (login : Nat) (now : Nat)
  deriving DecidableEq

namespace LoginGate

def step (s : LoginGate) : LoginStep → LoginGate
  | .allow key now =>
    let (limiter, allowed) := s.limiter.allow key now
    { s with
      limiter := limiter
      inFlight := if allowed then s.inFlight ++ [(key, .checked)] else s.inFlight }
  | .badBody login =>
    match s.inFlight[login]? with
    | some (_, .checked) => { s with inFlight := s.inFlight.eraseIdx login }
    | _ => s
  | .verify login knownUser accepted =>
    match s.inFlight[login]? with
    | some (key, .checked) =>
      { s with
        inFlight := s.inFlight.set login (key, .verified (knownUser && accepted))
        verifications := fun k =>
          if k = key ∧ knownUser then s.verifications k + 1 else s.verifications k }
    | _ => s
  | .record login now =>
    match s.inFlight[login]? with
    | some (key, .verified true) =>
      { limiter := s.limiter.recordSuccess key
        inFlight := s.inFlight.eraseIdx login
        verifications := fun k => if k = key then 0 else s.verifications k }
    | some (key, .verified false) =>
      let limiter := s.limiter.recordFailure key now
      { limiter := limiter
        inFlight := s.inFlight.eraseIdx login
        verifications := fun k =>
          if k = key ∧ (limiter.entry key).failures = 0 then 0 else s.verifications k }
    | _ => s

/-- The logins of a client in flight, and those that have verified their password. -/
def underWay (key : String) (s : LoginGate) : Nat := s.inFlight.countP fun login => login.1 == key

def decided (key : String) (s : LoginGate) : Nat :=
  s.inFlight.countP fun login => login.1 == key && login.2 != .checked

/-- A login is let through only while the failures counted for its client and the logins of the
client in flight are together fewer than the failures allowed. -/
def Counted (key : String) (s : LoginGate) : LoginStep → Prop
  | .allow key' now => key' = key → (s.limiter.allow key now).2 = true →
      (s.limiter.entry key).failures + s.underWay key < maxLoginFailures
  | _ => True

/-- The cleanup of a failure does not forget the failures counted for the client. -/
def Remembered (key : String) (s : LoginGate) : LoginStep → Prop
  | .record _ now => loginCleanupThreshold < s.limiter.size →
      LoginLimiter.stale now (s.limiter.entry key) = true → (s.limiter.entry key).failures = 0
  | _ => True

end LoginGate

/-- An entry beside the logins under way, those of them that have verified a password, and the
verifications since the last success or lock. Every verification is counted or about to be, and
a client that was locked has nothing under way. -/
structure Tally (entry : LoginEntry) (underWay decided verifications : Nat) : Prop where
  decided_le : decided ≤ underWay
  room : entry.failures + underWay ≤ maxLoginFailures
  counted : verifications ≤ entry.failures + decided
  locked : entry.lockedUntil ≠ 0 → underWay = 0 ∧ entry.failures = 0

namespace Tally

variable {entry : LoginEntry} {underWay decided verifications : Nat}

theorem enter (h : Tally entry underWay decided verifications)
    (hroom : entry.failures + underWay < maxLoginFailures) :
    Tally (if entry.lockedUntil = 0 then entry else ⟨0, 0, 0⟩) (underWay + 1) decided
      verifications := by
  obtain ⟨hle, -, hcounted, hlocked⟩ := h
  split_ifs with hzero
  · exact ⟨by omega, by omega, hcounted, fun hne => absurd hzero hne⟩
  · obtain ⟨hnone, hfailures⟩ := hlocked hzero
    refine ⟨by omega, ?_, by omega, fun hne => absurd rfl hne⟩
    simp only [maxLoginFailures]
    omega

theorem leave (h : Tally entry (underWay + 1) decided verifications) (hle : decided ≤ underWay) :
    Tally entry underWay decided verifications := by
  obtain ⟨-, hroom, hcounted, hlocked⟩ := h
  exact ⟨hle, by omega, hcounted, fun hne => by have := hlocked hne; omega⟩

theorem verify (h : Tally entry underWay decided verifications) (hle : decided < underWay)
    {verifications' : Nat} (hverified : verifications' ≤ verifications + 1) :
    Tally entry underWay (decided + 1) verifications' := by
  obtain ⟨-, hroom, hcounted, hlocked⟩ := h
  exact ⟨by omega, hroom, by omega, hlocked⟩

/-- A success, which also forgets the entry. -/
theorem succeed (h : Tally entry (underWay + 1) (decided + 1) verifications) :
    Tally ⟨0, 0, 0⟩ underWay decided 0 := by
  obtain ⟨hle, hroom, -, -⟩ := h
  exact ⟨by omega, by simp only; omega, by omega, fun hne => absurd rfl hne⟩

theorem forget (h : Tally entry underWay decided verifications) (hfailures : entry.failures = 0) :
    Tally ⟨0, 0, 0⟩ underWay decided verifications := by
  obtain ⟨hle, hroom, hcounted, -⟩ := h
  exact ⟨hle, by simp only; omega, by simp only; omega, fun hne => absurd rfl hne⟩

theorem fail (h : Tally entry (underWay + 1) (decided + 1) verifications) (now : Nat) :
    Tally (LoginLimiter.countFailure now entry) underWay decided
      (if (LoginLimiter.countFailure now entry).failures = 0 then 0 else verifications) := by
  obtain ⟨hle, hroom, hcounted, hlocked⟩ := h
  have hunlocked : entry.lockedUntil = 0 := by
    by_contra hne
    have := hlocked hne
    omega
  by_cases hmax : maxLoginFailures ≤ entry.failures + 1
  · -- the last failure allowed: this was the only login under way
    simp only [LoginLimiter.countFailure, if_pos hmax, if_true]
    simp only [maxLoginFailures] at hmax hroom
    refine ⟨by omega, ?_, by omega, fun _ => ⟨by omega, rfl⟩⟩
    simp only [maxLoginFailures]
    omega
  · simp only [LoginLimiter.countFailure, if_neg hmax, Nat.add_eq_zero_iff, Nat.one_ne_zero,
      and_false, if_false]
    exact ⟨by omega, by simp only; omega, by simp only; omega, fun hne => absurd hunlocked hne⟩

end Tally

theorem countP_eraseIdx_add {α : Type*} (p : α → Bool) {l : List α} {i : Nat} {x : α}
    (h : l[i]? = some x) : (l.eraseIdx i).countP p + (if p x then 1 else 0) = l.countP p := by
  induction l generalizing i with
  | nil => cases h
  | cons y l ih =>
    cases i with
    | zero =>
      obtain rfl := Option.some.inj h
      simp [List.countP_cons]
    | succ i =>
      have hi := ih (i := i) h
      simp only [List.eraseIdx_cons_succ, List.countP_cons]
      omega

theorem countP_set_add {α : Type*} (p : α → Bool) {l : List α} {i : Nat} {x : α} (y : α)
    (h : l[i]? = some x) :
    (l.set i y).countP p + (if p x then 1 else 0) = l.countP p + (if p y then 1 else 0) := by
  induction l generalizing i with
  | nil => cases h
  | cons z l ih =>
    cases i with
    | zero =>
      obtain rfl := Option.some.inj h
      simp only [List.set_cons_zero, List.countP_cons]
      omega
    | succ i =>
      have hi := ih (i := i) h
      simp only [List.set_cons_succ, List.countP_cons]
      omega

namespace LoginGate

def Bounded (key : String) (s : LoginGate) : Prop :=
  Tally (s.limiter.entry key) (s.underWay key) (s.decided key) (s.verifications key)

theorem decided_le_underWay (key : String) (s : LoginGate) : s.decided key ≤ s.underWay key := by
  refine List.countP_mono_left fun login _ h => ?_
  simp only [Bool.and_eq_true] at h
  exact h.1

theorem initial_bounded (key : String) : newLoginGate.Bounded key := by
  have hentry : newLoginGate.limiter.entry key = ⟨0, 0, 0⟩ := LoginLimiter.entry_empty key
  rw [Bounded, hentry]
  exact ⟨Nat.le_refl _, Nat.zero_le _, Nat.le_refl _, fun hne => absurd rfl hne⟩

theorem bounded_allow {s : LoginGate} {key : String} (h : s.Bounded key) {key' : String}
    {now : Nat} (hcounted : s.Counted key (.allow key' now)) :
    (s.step (.allow key' now)).Bounded key := by
  simp only [step]
  cases hallow : (s.limiter.allow key' now).2 with
  | false =>
    rw [LoginLimiter.allow_eq_of_rejected hallow]
    exact h
  | true =>
    simp only [if_true, Bounded, underWay, decided, List.countP_append, List.countP_singleton]
    by_cases hkey : key' = key
    · subst hkey
      rw [LoginLimiter.entry_allow hallow]
      simpa [Bounded, underWay, decided] using Tally.enter h (hcounted rfl hallow)
    · rw [LoginLimiter.entry_allow_of_ne hkey]
      simpa [Bounded, underWay, decided, hkey] using h

theorem bounded_badBody {s : LoginGate} {key : String} (h : s.Bounded key) (login : Nat) :
    (s.step (.badBody login)).Bounded key := by
  simp only [step]
  split
  · next key' hget =>
    have hunder := countP_eraseIdx_add (fun l => l.1 == key) hget
    have hdecided := countP_eraseIdx_add (fun l => l.1 == key && l.2 != .checked) hget
    simp only [bne_self_eq_false, Bool.and_false, Bool.false_eq_true, if_false, Nat.add_zero]
      at hdecided
    have hle := decided_le_underWay key { s with inFlight := s.inFlight.eraseIdx login }
    unfold Bounded underWay decided at h ⊢
    simp only [decided, underWay] at hle
    rw [← hunder, ← hdecided] at h
    by_cases hkey : key' = key
    · simp only [hkey, beq_self_eq_true, if_true] at h
      exact h.leave hle
    · simpa [hkey] using h
  · exact h

theorem bounded_verify {s : LoginGate} {key : String} (h : s.Bounded key) (login : Nat)
    (knownUser accepted : Bool) : (s.step (.verify login knownUser accepted)).Bounded key := by
  simp only [step]
  split
  · next key' hget =>
    have hunder := countP_set_add (fun l => l.1 == key)
      (key', LoginStage.verified (knownUser && accepted)) hget
    have hdecided := countP_set_add (fun l => l.1 == key && l.2 != .checked)
      (key', LoginStage.verified (knownUser && accepted)) hget
    have hle := decided_le_underWay key { s with
      inFlight := s.inFlight.set login (key', .verified (knownUser && accepted)) }
    unfold Bounded underWay decided at h ⊢
    simp only [decided, underWay] at hle
    by_cases hkey : key' = key
    · subst hkey
      simp at hunder hdecided
      rw [hdecided, hunder] at hle ⊢
      refine h.verify (by omega) ?_
      dsimp only
      split_ifs <;> omega
    · simp only [beq_eq_false_iff_ne.mpr hkey, Bool.false_and, Bool.false_eq_true, if_false,
        Nat.add_zero] at hunder hdecided
      rw [hunder, hdecided]
      simpa [Ne.symm hkey] using h
  · exact h

/-- A verified login leaves: its client counts one login under way less, and one decided less. -/
theorem leave_counts {s : LoginGate} {login : Nat} {key : String} {accepted : Bool}
    (hget : s.inFlight[login]? = some (key, .verified accepted)) (key' : String) :
    let inFlight := s.inFlight.eraseIdx login
    s.underWay key' = (inFlight.countP fun l => l.1 == key') + (if key = key' then 1 else 0) ∧
      s.decided key' = (inFlight.countP fun l => l.1 == key' && l.2 != .checked) +
        (if key = key' then 1 else 0) := by
  have hunder := countP_eraseIdx_add (fun l => l.1 == key') hget
  have hdecided := countP_eraseIdx_add (fun l => l.1 == key' && l.2 != .checked) hget
  simp only [beq_iff_eq] at hunder
  refine ⟨hunder.symm, ?_⟩
  rw [decided, ← hdecided]
  by_cases hkey : key = key' <;> simp [hkey]

theorem bounded_success {s : LoginGate} {key : String} (h : s.Bounded key) {login : Nat}
    {key' : String} (hget : s.inFlight[login]? = some (key', .verified true)) (now : Nat) :
    (s.step (.record login now)).Bounded key := by
  obtain ⟨hunder, hdecided⟩ := leave_counts hget key
  simp only [step, hget, Bounded, LoginLimiter.recordSuccess, LoginLimiter.entry_erase]
  rw [Bounded, hunder, hdecided] at h
  by_cases hkey : key' = key
  · simp only [hkey, if_true] at h ⊢
    exact h.succeed
  · simpa [hkey, Ne.symm hkey, underWay, decided] using h

theorem bounded_failure {s : LoginGate} {key : String} (h : s.Bounded key) {login : Nat}
    {key' : String} (hget : s.inFlight[login]? = some (key', .verified false)) {now : Nat}
    (hremembered : s.Remembered key (.record login now)) :
    (s.step (.record login now)).Bounded key := by
  obtain ⟨hunder, hdecided⟩ := leave_counts hget key
  simp only [step, hget, Bounded, LoginLimiter.recordFailure, LoginLimiter.entry_insert]
  -- the cleanup comes first: it leaves the client's entry or forgets one without failures
  have hcleaned : Tally ((LoginLimiter.cleaned now s.limiter).entry key) (s.underWay key)
      (s.decided key) (s.verifications key) := by
    rw [LoginLimiter.entry_cleaned]
    split_ifs with hforget
    · exact Tally.forget h (hremembered hforget.1 hforget.2)
    · exact h
  rw [hunder, hdecided] at hcleaned
  by_cases hkey : key' = key
  · subst hkey
    simp only [if_true, true_and] at hcleaned ⊢
    exact hcleaned.fail now
  · simpa [hkey, Ne.symm hkey, underWay, decided] using hcleaned

theorem Bounded.step {s : LoginGate} {key : String} (h : s.Bounded key) {label : LoginStep}
    (hcounted : s.Counted key label) (hremembered : s.Remembered key label) :
    (s.step label).Bounded key := by
  cases label with
  | allow key' now => exact bounded_allow h hcounted
  | badBody login => exact bounded_badBody h login
  | verify login knownUser accepted => exact bounded_verify h login knownUser accepted
  | record login now =>
    cases hget : s.inFlight[login]? with
    | none => simpa only [LoginGate.step, hget] using h
    | some found =>
      obtain ⟨key', stage⟩ := found
      cases stage with
      | checked => simpa only [LoginGate.step, hget] using h
      | verified accepted =>
        cases accepted with
        | true => exact bounded_success h hget now
        | false => exact bounded_failure h hget hremembered

/-- A bounded gate has verified no more passwords than failures are allowed, and verifies none
while the client is locked. -/
theorem Bounded.holds {s : LoginGate} {key : String} (h : s.Bounded key) :
    s.verifications key ≤ maxLoginFailures ∧
      ∀ (login now : Nat), s.inFlight[login]? = some (key, .checked) →
        ¬LoginLimiter.Locked key now s.limiter := by
  obtain ⟨hle, hroom, hcounted, hlocked⟩ := h
  refine ⟨by omega, fun login now hget hnow => ?_⟩
  have hnone := (hlocked (by unfold LoginLimiter.Locked at hnow; omega)).1
  rw [underWay, List.countP_eq_zero] at hnone
  exact hnone _ (List.mem_of_getElem? hget) (beq_self_eq_true key)

/-- Every login of the run comes from the one client. -/
def OnlyFrom (key : String) (_ : LoginGate) : LoginStep → Prop
  | .allow key' _ => key' = key
  | _ => True

structure OneClient (key : String) (s : LoginGate) : Prop where
  entries : ∀ key' ∈ s.limiter, key' = key
  inFlight : ∀ login ∈ s.inFlight, login.1 = key

/-- With one client there is one entry at most, so no cleanup ever runs. -/
theorem OneClient.size_le {s : LoginGate} {key : String} (h : s.OneClient key) :
    s.limiter.size ≤ 1 := by
  have hnodup : s.limiter.keys.Nodup := Std.ExtTreeMap.nodup_keys
  have hsub : s.limiter.keys ⊆ [key] := fun key' hkey' =>
    List.mem_singleton.mpr (h.entries key' (Std.ExtTreeMap.mem_keys.mp hkey'))
  rw [← Std.ExtTreeMap.length_keys]
  exact (List.subperm_of_subset hnodup hsub).length_le

theorem OneClient.step {s : LoginGate} {key : String} (h : s.OneClient key) {label : LoginStep}
    (honly : OnlyFrom key s label) : (s.step label).OneClient key := by
  obtain ⟨hentries, hinFlight⟩ := h
  cases label with
  | allow key' now =>
    obtain rfl : key' = key := honly
    refine ⟨fun k hk => hentries k (LoginLimiter.mem_of_mem_allow hk), fun login hlogin => ?_⟩
    simp only [LoginGate.step] at hlogin
    split_ifs at hlogin
    · rcases List.mem_append.mp hlogin with hold | hnew
      · exact hinFlight login hold
      · rw [List.mem_singleton.mp hnew]
    · exact hinFlight login hlogin
  | badBody login =>
    simp only [LoginGate.step]
    split
    · exact ⟨hentries, fun l hl => hinFlight l (List.mem_of_mem_eraseIdx hl)⟩
    · exact ⟨hentries, hinFlight⟩
  | verify login knownUser accepted =>
    simp only [LoginGate.step]
    split
    · next key' hget =>
      refine ⟨hentries, fun l hl => ?_⟩
      rcases List.mem_or_eq_of_mem_set hl with hold | rfl
      · exact hinFlight l hold
      · exact hinFlight (key', .checked) (List.mem_of_getElem? hget)
    · exact ⟨hentries, hinFlight⟩
  | record login now =>
    simp only [LoginGate.step]
    split
    · exact ⟨fun k hk => hentries k (Std.ExtTreeMap.mem_of_mem_erase hk),
        fun l hl => hinFlight l (List.mem_of_mem_eraseIdx hl)⟩
    · next key' hget =>
      refine ⟨fun k hk => ?_, fun l hl => hinFlight l (List.mem_of_mem_eraseIdx hl)⟩
      rcases LoginLimiter.mem_of_mem_recordFailure hk with rfl | hold
      · exact hinFlight _ (List.mem_of_getElem? hget)
      · exact hentries k hold
    · exact ⟨hentries, hinFlight⟩

end LoginGate

/-- In a run in which every login is let through only while the failures counted for the client
and its logins under way are fewer than the failures allowed, and in which no cleanup forgets
counted failures, the client has verified at most that many passwords since its last success or
lock, and none of its logins reaches the verification while it is locked. -/
theorem logins_bounded (key : String) {labels : List LoginStep}
    (hcounted : Along LoginGate.step (LoginGate.Counted key) newLoginGate labels)
    (hremembered : Along LoginGate.step (LoginGate.Remembered key) newLoginGate labels) :
    let last := run LoginGate.step newLoginGate labels
    last.verifications key ≤ maxLoginFailures ∧
      ∀ (login now : Nat), last.inFlight[login]? = some (key, .checked) →
        ¬LoginLimiter.Locked key now last.limiter :=
  (run_along (P := LoginGate.Bounded key) (fun _ _ hlabel h => h.step hlabel.1 hlabel.2)
    (hcounted.and hremembered) (LoginGate.initial_bounded key)).holds

/-- With the logins of one client alone the cleanup condition is met. -/
theorem onlyFrom_remembered (key : String) {labels : List LoginStep}
    (h : Along LoginGate.step (LoginGate.OnlyFrom key) newLoginGate labels) :
    Along LoginGate.step (LoginGate.Remembered key) newLoginGate labels := by
  refine h.of_invariant (P := LoginGate.OneClient key) (fun _ _ hlabel hs => hs.step hlabel)
    (fun s label _ hs => ?_) ⟨fun key' hkey' => absurd hkey' Std.ExtTreeMap.not_mem_empty,
      fun _ h => absurd h List.not_mem_nil⟩
  cases label with
  | record login now =>
    intro hsize
    have hone := hs.size_le
    simp only [loginCleanupThreshold] at hsize
    omega
  | _ => trivial

/-- Two logins that overlap: a wrong password, then the right one. -/
def twoLogins : List LoginStep :=
  [.allow "192.0.2.7" 0, .allow "192.0.2.7" 1, .verify 0 true false, .verify 1 true true,
    .record 0 2, .record 0 3]

theorem twoLogins_bounded :
    (run LoginGate.step newLoginGate twoLogins).verifications "192.0.2.7" ≤ maxLoginFailures := by
  refine (logins_bounded "192.0.2.7" ?_ ?_).1
  · exact ⟨fun _ _ => by decide, fun _ _ => by decide, trivial, trivial, trivial, trivial, trivial⟩
  · exact onlyFrom_remembered "192.0.2.7" ⟨rfl, rfl, trivial, trivial, trivial, trivial, trivial⟩

/-- Six logins pass the limiter before the first of them records its failure. -/
def sixAllowed : List LoginStep := List.replicate 6 (.allow "192.0.2.7" 0)

/-- All of them verify a wrong password; or five do, and their failures lock the client. -/
def sixVerified : List LoginStep :=
  sixAllowed ++ (List.range 6).map fun login => .verify login true false

def fiveRecorded : List LoginStep :=
  sixAllowed ++ (List.range 5).map (fun login => .verify login true false) ++
    List.replicate 5 (.record 0 1)

theorem overlapping_notBounded :
    (run LoginGate.step newLoginGate sixVerified).verifications "192.0.2.7" = 6 ∧
      (run LoginGate.step newLoginGate fiveRecorded).inFlight = [("192.0.2.7", .checked)] ∧
      LoginLimiter.Locked "192.0.2.7" 2 (run LoginGate.step newLoginGate fiveRecorded).limiter := by
  refine ⟨by decide, by decide, ?_⟩
  unfold LoginLimiter.Locked
  decide

end Boxui.API
