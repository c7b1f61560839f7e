import Boxui.API.LoginLimiter

/-! How long the login rate limiter keeps a key locked, over every sequence of its calls. -/
namespace Boxui.API
open GoValue Machine

inductive LimiterCall where
  | allow (key : String) (now : Nat)
  | recordFailure (key : String) (now : Nat)
  | recordSuccess (key : String)
  deriving DecidableEq

namespace LimiterCall

def time? : LimiterCall → Option Nat
  | allow _ now => some now
  | recordFailure _ now => some now
  | recordSuccess _ => none

/-- The failures of a key, one call later. -/
def count (key : String) (failures : Nat) : LimiterCall → Nat
  | allow _ _ => failures
  | recordFailure key' _ => if key' = key then failures + 1 else failures
  | recordSuccess key' => if key' = key then 0 else failures

end LimiterCall

/-- The times of the calls do not decrease. -/
def Chronological (calls : List LimiterCall) : Prop :=
  (calls.filterMap LimiterCall.time?).Pairwise (· ≤ ·)

/-- The failures of a key since its last success, or since the start. -/
def failuresSince (key : String) (calls : List LimiterCall) : Nat :=
  run (LimiterCall.count key) 0 calls

namespace LoginLimiter

def call (limiter : LoginLimiter) : LimiterCall → LoginLimiter
  | .allow key now => (limiter.allow key now).1
  | .recordFailure key now => limiter.recordFailure key now
  | .recordSuccess key => limiter.recordSuccess key

/-- A failure that locks its key from its time on. -/
def Locks (key : String) (now : Nat) (limiter : LoginLimiter) : Prop :=
  ((limiter.recordFailure key now).entry key).lockedUntil = now + loginLockDuration

theorem allow_eq_false_iff (key : String) (now : Nat) (limiter : LoginLimiter) :
    (limiter.allow key now).2 = false ↔ now < (limiter.entry key).lockedUntil := by
  unfold allow entry
  cases limiter[key]? with
  | none => simp
  | some e =>
    dsimp only
    split_ifs with hlocked hzero <;> simp [hlocked]

theorem allow_locked {key : String} {now : Nat} {limiter : LoginLimiter}
    (h : now < (limiter.entry key).lockedUntil) : (limiter.allow key now).1 = limiter :=
  allow_eq_of_rejected ((allow_eq_false_iff key now limiter).mpr h)

/-- No cleanup forgets an entry while it is locked. -/
theorem entry_cleaned_locked {key : String} {now : Nat} {limiter : LoginLimiter}
    (h : now < (limiter.entry key).lockedUntil) :
    (limiter.cleaned now).entry key = limiter.entry key := by
  rw [entry_cleaned]
  exact if_neg fun hforget => by simp [stale, h] at hforget

theorem entry_recordFailure (key key' : String) (now : Nat) (limiter : LoginLimiter) :
    (limiter.recordFailure key now).entry key' =
      if key = key' then countFailure now ((limiter.cleaned now).entry key)
      else (limiter.cleaned now).entry key' :=
  entry_insert _ _ _ _

/-- A failure never brings a lock forward that ends within the time of a new one. -/
theorem le_lockedUntil_countFailure {deadline now : Nat} {e : LoginEntry}
    (h : deadline ≤ e.lockedUntil) (hnow : deadline ≤ now + loginLockDuration) :
    deadline ≤ (countFailure now e).lockedUntil := by
  unfold countFailure
  split_ifs
  · exact hnow
  · exact h

/-- A call between the start and the end of a lock that is no success of its key. -/
structure Within (key : String) (start : Nat) (c : LimiterCall) : Prop where
  success : c ≠ .recordSuccess key
  time : ∀ now, c.time? = some now → start ≤ now ∧ now < start + loginLockDuration

/-- Such a call leaves the lock. -/
theorem le_lockedUntil_call {key : String} {start : Nat} {limiter : LoginLimiter}
    {c : LimiterCall} (hc : Within key start c)
    (h : start + loginLockDuration ≤ (limiter.entry key).lockedUntil) :
    start + loginLockDuration ≤ ((limiter.call c).entry key).lockedUntil := by
  cases c with
  | allow key' now =>
    have htime := hc.time now rfl
    by_cases hkey : key' = key
    · subst hkey
      rw [call, allow_locked (by omega)]
      exact h
    · rw [call, entry_allow_of_ne hkey]
      exact h
  | recordFailure key' now =>
    have htime := hc.time now rfl
    have hcleaned : (limiter.cleaned now).entry key = limiter.entry key :=
      entry_cleaned_locked (by omega)
    rw [call, entry_recordFailure]
    split_ifs with hkey
    · rw [hkey, hcleaned]
      exact le_lockedUntil_countFailure h (by omega)
    · rw [hcleaned]
      exact h
  | recordSuccess key' =>
    have hkey : key' ≠ key := by
      rintro rfl
      exact hc.success rfl
    rw [call, recordSuccess, entry_erase, if_neg hkey]
    exact h

theorem le_lockedUntil_run {key : String} {start : Nat} {limiter : LoginLimiter}
    {calls : List LimiterCall} (hcalls : ∀ c ∈ calls, Within key start c)
    (h : start + loginLockDuration ≤ (limiter.entry key).lockedUntil) :
    start + loginLockDuration ≤ ((run call limiter calls).entry key).lockedUntil := by
  induction calls generalizing limiter with
  | nil => exact h
  | cons c calls ih =>
    obtain ⟨hc, hrest⟩ := List.forall_mem_cons.mp hcalls
    rw [run_cons]
    exact ih hrest (le_lockedUntil_call hc h)

/-- What an entry may hold for a key with so many failures since its last success. -/
structure Owed (e : LoginEntry) (failures : Nat) : Prop where
  counted : e.failures ≤ failures
  locked : e.lockedUntil ≠ 0 → maxLoginFailures ≤ failures

theorem owed_zero (failures : Nat) : Owed ⟨0, 0, 0⟩ failures :=
  ⟨Nat.zero_le _, fun hne => absurd rfl hne⟩

theorem Owed.cleaned {key : String} {failures : Nat} {limiter : LoginLimiter}
    (h : Owed (limiter.entry key) failures) (now : Nat) :
    Owed ((limiter.cleaned now).entry key) failures := by
  rw [entry_cleaned]
  split_ifs
  · exact owed_zero _
  · exact h

theorem Owed.countFailure {e : LoginEntry} {failures : Nat} (h : Owed e failures) (now : Nat) :
    Owed (countFailure now e) (failures + 1) := by
  obtain ⟨hcounted, hlocked⟩ := h
  unfold LoginLimiter.countFailure
  split_ifs with hmax
  · exact ⟨Nat.zero_le _, fun _ => by omega⟩
  · exact ⟨Nat.succ_le_succ hcounted, fun hne => Nat.le_succ_of_le (hlocked hne)⟩

theorem Owed.call {key : String} {failures : Nat} {limiter : LoginLimiter}
    (h : Owed (limiter.entry key) failures) (c : LimiterCall) :
    Owed ((limiter.call c).entry key) (c.count key failures) := by
  cases c with
  | allow key' now =>
    by_cases hkey : key' = key
    · subst hkey
      cases hallow : (limiter.allow key' now).2 with
      | false =>
        rw [LoginLimiter.call, allow_eq_of_rejected hallow]
        exact h
      | true =>
        rw [LoginLimiter.call, entry_allow hallow]
        split_ifs
        · exact h
        · exact owed_zero _
    · rw [LoginLimiter.call, entry_allow_of_ne hkey]
      exact h
  | recordFailure key' now =>
    rw [LoginLimiter.call, entry_recordFailure, LimiterCall.count]
    split_ifs with hkey
    · rw [hkey]
      exact (h.cleaned now).countFailure now
    · exact h.cleaned now
  | recordSuccess key' =>
    rw [LoginLimiter.call, recordSuccess, entry_erase, LimiterCall.count]
    split_ifs
    · exact owed_zero _
    · exact h

theorem Owed.run {key : String} {failures : Nat} {limiter : LoginLimiter}
    (h : Owed (limiter.entry key) failures) (calls : List LimiterCall) :
    Owed ((run LoginLimiter.call limiter calls).entry key)
      (run (LimiterCall.count key) failures calls) := by
  induction calls generalizing limiter failures with
  | nil => exact h
  | cons c calls ih => exact ih (h.call c)

end LoginLimiter

/-- What comes between two calls is neither before the first nor after the second. -/
theorem Chronological.between {before between : List LimiterCall} {key : String} {t now : Nat}
    (h : Chronological (before ++ .recordFailure key t :: (between ++ [.allow key now]))) :
    ∀ c ∈ between, ∀ n, c.time? = some n → t ≤ n ∧ n ≤ now := by
  have hfailure : (LimiterCall.recordFailure key t).time? = some t := rfl
  unfold Chronological at h
  rw [List.filterMap_append, List.filterMap_cons_some hfailure, List.pairwise_append,
    List.pairwise_cons, List.filterMap_append, List.pairwise_append] at h
  obtain ⟨-, ⟨hstart, -, -, hend⟩, -⟩ := h
  intro c hc n hn
  have hmem : n ∈ between.filterMap LimiterCall.time? := List.mem_filterMap.mpr ⟨c, hc, hn⟩
  exact ⟨hstart n (List.mem_append_left _ hmem), hend n hmem now (by simp [LimiterCall.time?])⟩

open LoginLimiter in
/-- In every sequence of calls a failure that locks its key keeps it locked for its whole time,
unless the key has a success, and a key with fewer failures than are allowed is never locked. -/
theorem loginLocks_hold (key : String) :
    (∀ before between t now,
      Chronological (before ++ .recordFailure key t :: (between ++ [.allow key now])) →
        Locks key t (run call newLoginRateLimiter before) → .recordSuccess key ∉ between →
        now < t + loginLockDuration →
          (allow key now (run call newLoginRateLimiter
            (before ++ .recordFailure key t :: between))).2 = false) ∧
    ∀ calls, failuresSince key calls < maxLoginFailures → ∀ now,
      (allow key now (run call newLoginRateLimiter calls)).2 = true := by
  constructor
  · intro before between t now htimes hlocks hsuccess hnow
    have hwithin : ∀ c ∈ between, Within key t c := by
      refine fun c hc => ⟨fun heq => hsuccess (heq ▸ hc), fun n hn => ?_⟩
      obtain ⟨hstart, hend⟩ := htimes.between c hc n hn
      exact ⟨hstart, by omega⟩
    rw [allow_eq_false_iff, run_append, run_cons]
    exact Nat.lt_of_lt_of_le hnow (le_lockedUntil_run hwithin (Nat.le_of_eq hlocks.symm))
  · intro calls hfew now
    have howed : Owed ((run call newLoginRateLimiter calls).entry key) (failuresSince key calls) :=
      Owed.run (by rw [entry_empty]; exact owed_zero 0) calls
    have hzero : ((run call newLoginRateLimiter calls).entry key).lockedUntil = 0 := by
      by_contra hne
      exact absurd (howed.locked hne) (Nat.not_le.mpr hfew)
    rw [← Bool.not_eq_false, allow_eq_false_iff, hzero]
    exact Nat.not_lt_zero now

/-- The failures of a client before the one that locks it. -/
def lockedCalls : List LimiterCall := (List.range 4).map fun n => .recordFailure "192.0.2.7" n

theorem lockedClient_held : (LoginLimiter.allow "192.0.2.7" (59 * 10 ^ 9)
    (run LoginLimiter.call newLoginRateLimiter (lockedCalls ++ .recordFailure "192.0.2.7" 4 ::
      [.recordFailure "192.0.2.7" 5, .recordSuccess "192.0.2.8"]))).2 = false := by
  refine (loginLocks_hold "192.0.2.7").1 _ _ _ _ ?_ ?_ (by decide) (by decide)
  · unfold Chronological
    decide
  · unfold LoginLimiter.Locks
    decide

end Boxui.API
