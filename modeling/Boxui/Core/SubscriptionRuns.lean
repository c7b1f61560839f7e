import Boxui.Core.SubscriptionRefresh
import Boxui.Library.Machine
import Mathlib.Logic.Function.Basic

/-! The subscription store under concurrent calls. A refresh reads the record, downloads
without a lock and writes back; creating, updating and deleting are one transaction each. -/
namespace Boxui.Core
open GoValue Machine

variable {κ : Type*}

/-- A call of `Refresh` that has read its URL, and what the download returned. -/
structure RefreshCall where
  id : String
  url : String
  downloaded : Option (Except String (List Outbound))

/-- `calls` are the refreshes in flight. -/
structure SubscriptionService (κ : Type*) where
  db : Database
  calls : κ → Option RefreshCall

inductive SubscriptionStep (κ : Type*) where
  | create (params : SubscriptionParams)
  | update (id : String) (params : SubscriptionParams)
  | delete (id : String)
  | read (call : κ) (id : String)
  | download (call : κ) (result : Except String (List Outbound))
  | settle (call : κ) (now : Nat)

/-- A transaction that fails leaves the database alone. -/
def committed (db : Database) : Except StoreError Database → Database
  | .ok db' => db'
  | .error _ => db

namespace SubscriptionService

variable [DecidableEq κ]

def step (stx : URLTestSyntax) (s : SubscriptionService κ) :
    SubscriptionStep κ → SubscriptionService κ
  | .create params => { s with db := committed s.db (SubscriptionManager.create stx params s.db) }
  | .update id params =>
    { s with db := committed s.db (SubscriptionManager.update stx id params s.db) }
  | .delete id => { s with db := committed s.db (SubscriptionManager.delete id s.db) }
  | .read call id =>
    match s.calls call, SubscriptionManager.get id s.db with
    | none, some sub => { s with calls := Function.update s.calls call (some ⟨id, sub.url, none⟩) }
    | _, _ => s
  | .download call result =>
    match s.calls call with
    | some ⟨id, url, none⟩ =>
      { s with calls := Function.update s.calls call (some ⟨id, url, some result⟩) }
    | _ => s
  | .settle call now =>
    match s.calls call with
    | some ⟨id, _, some (.error message)⟩ =>
      { db := SubscriptionManager.setError id message s.db
        calls := Function.update s.calls call none }
    | some ⟨id, _, some (.ok outbounds)⟩ =>
      { db := committed s.db (SubscriptionManager.saveRefreshedSubscription now id outbounds s.db)
        calls := Function.update s.calls call none }
    | _ => s

/-- A refresh that nothing comes between is the sequential one. -/
theorem run_refresh (stx : URLTestSyntax) (download : String → Except String (List Outbound))
    (now : Nat) {s : SubscriptionService κ} {call : κ} {id : String} {sub : Subscription}
    (hidle : s.calls call = none) (hsub : SubscriptionManager.get id s.db = some sub) :
    run (step stx) s [.read call id, .download call (download sub.url), .settle call now] =
      { s with db := (SubscriptionManager.refresh download now id s.db).1 } := by
  have hcalls : Function.update s.calls call none = s.calls := by
    rw [← hidle, Function.update_eq_self]
  obtain ⟨message, hdownload, heq⟩ | ⟨outbounds, db', hdownload, hsave, heq⟩ :=
    SubscriptionManager.refresh_of_get download now hsub
  · simp [step, hidle, hsub, hdownload, heq, hcalls]
  · simp [step, hidle, hsub, hdownload, heq, hsave, committed, hcalls]

end SubscriptionService

end Boxui.Core
