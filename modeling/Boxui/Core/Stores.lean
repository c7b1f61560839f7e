import Boxui.Core.Records

/-! The node store, the subscription store and the URLTest settings. A bucket is enumerated
in key order, and what is put into it goes through JSON. -/
namespace Boxui.Core
open GoValue

structure Database where
  nodes : GoMap Outbound
  subscriptions : GoMap Subscription
  sequence : Nat
  urlTestDefaults : Option URLTestDefaults
  managedGroups : Option (List String)

def emptyDatabase : Database := ⟨∅, ∅, 0, none, none⟩

inductive StoreError where
  | keyRequired
  | keyTooLarge
  | subscriptionNotFound (id : String)
  | invalidURLTestURL
  | invalidURLTestInterval
  | download (message : String)
  deriving DecidableEq, Repr

/-- The largest key of a bucket, in bytes. -/
def maxKeySize : Nat := 32768

/-- A record as it is read back: its raw configuration has become plain JSON. -/
def storedOutbound (outbound : Outbound) : Outbound := { outbound with raw := outbound.raw.json }

namespace NodeManager

def list (db : Database) : List Outbound := db.nodes.toList.map Prod.snd

def add (outbound : Outbound) (db : Database) : Except StoreError Database :=
  if outbound.tag = "" then .error .keyRequired
  else if maxKeySize < outbound.tag.utf8ByteSize then .error .keyTooLarge
  else .ok { db with nodes := db.nodes.insert outbound.tag (storedOutbound outbound) }

def delete (tag : String) (db : Database) : Database := { db with nodes := db.nodes.erase tag }

def get (tag : String) (db : Database) : Option Outbound := db.nodes[tag]?

theorem add_ok {outbound : Outbound} {db db' : Database} (h : add outbound db = .ok db') :
    db' = { db with nodes := db.nodes.insert outbound.tag (storedOutbound outbound) } := by
  unfold add at h
  split_ifs at h
  exact (Except.ok.inj h).symm

theorem get_add {outbound : Outbound} {db db' : Database} (h : add outbound db = .ok db')
    (tag : String) : get tag db' =
      if outbound.tag = tag then some (storedOutbound outbound) else get tag db := by
  rw [add_ok h, get, GoMap.getElem?_insert]
  rfl

end NodeManager

/-- Which URLs and durations `net/url` and `time` accept for a URLTest. -/
structure URLTestSyntax where
  url : String → Bool
  interval : String → Bool

def validateURLTestDefaults (stx : URLTestSyntax) (config : URLTestDefaults) :
    Except StoreError Unit :=
  if !stx.url config.url then .error .invalidURLTestURL
  else if !stx.interval config.interval then .error .invalidURLTestInterval
  else .ok ()

def validateURLTestOverrides (stx : URLTestSyntax) :
    Option URLTestOverrides → Except StoreError Unit
  | none => .ok ()
  | some overrides =>
    if !overrides.url.all stx.url then .error .invalidURLTestURL
    else if !overrides.interval.all stx.interval then .error .invalidURLTestInterval
    else .ok ()

structure SubscriptionParams where
  name : String
  url : String
  intervalMin : Int
  urltest : Option URLTestOverrides

namespace SubscriptionManager

def list (db : Database) : List Subscription := db.subscriptions.toList.map Prod.snd

def get (id : String) (db : Database) : Option Subscription := db.subscriptions[id]?

def create (stx : URLTestSyntax) (params : SubscriptionParams) (db : Database) :
    Except StoreError Database := do
  validateURLTestOverrides stx params.urltest
  let id := toString (db.sequence + 1)
  let sub : Subscription :=
    { id := id, name := params.name, url := params.url, intervalMin := params.intervalMin
      urltest := params.urltest, lastUpdated := 0, error := "", outbounds := [] }
  return { db with sequence := db.sequence + 1, subscriptions := db.subscriptions.insert id sub }

def update (stx : URLTestSyntax) (id : String) (params : SubscriptionParams) (db : Database) :
    Except StoreError Database := do
  validateURLTestOverrides stx params.urltest
  let some sub := get id db | throw (.subscriptionNotFound id)
  let sub :=
    { sub with
      name := if params.name ≠ "" then params.name else sub.name
      url := if params.url ≠ "" then params.url else sub.url
      intervalMin := if 0 < params.intervalMin then params.intervalMin else sub.intervalMin
      urltest := params.urltest }
  return { db with subscriptions := db.subscriptions.insert id sub }

def delete (id : String) (db : Database) : Except StoreError Database := do
  let some _ := get id db | throw (.subscriptionNotFound id)
  return { db with subscriptions := db.subscriptions.erase id }

def saveRefreshedSubscription (now : Nat) (id : String) (outbounds : List Outbound)
    (db : Database) : Except StoreError Database := do
  let some sub := get id db | throw (.subscriptionNotFound id)
  let sub :=
    { sub with outbounds := outbounds.map storedOutbound, lastUpdated := now, error := "" }
  return { db with subscriptions := db.subscriptions.insert id sub }

def setError (id message : String) (db : Database) : Database :=
  match get id db with
  | none => db
  | some sub =>
    { db with subscriptions := db.subscriptions.insert id { sub with error := message } }

/-- `download` is what each URL serves: the parsed outbounds, or an error. -/
def refresh (download : String → Except String (List Outbound)) (now : Nat) (id : String)
    (db : Database) : Database × Except StoreError Unit :=
  match get id db with
  | none => (db, .error (.subscriptionNotFound id))
  | some sub =>
    match download sub.url with
    | .error message => (setError id message db, .error (.download message))
    | .ok outbounds =>
      match saveRefreshedSubscription now id outbounds db with
      | .error e => (db, .error e)
      | .ok db => (db, .ok ())

/-- Every subscription is refreshed in turn; the errors are collected. -/
def refreshAll (download : String → Except String (List Outbound)) (now : Nat) (db : Database) :
    Database × List StoreError :=
  (list db).foldl (fun acc sub =>
    match refresh download now sub.id acc.1 with
    | (db, .error e) => (db, acc.2 ++ [e])
    | (db, .ok ()) => (db, acc.2)) (db, [])

end SubscriptionManager

namespace SettingsManager

def urlTestDefaults (db : Database) : URLTestDefaults :=
  db.urlTestDefaults.getD defaultURLTestDefaults

def setURLTestDefaults (stx : URLTestSyntax) (config : URLTestDefaults) (db : Database) :
    Except StoreError Database := do
  validateURLTestDefaults stx config
  return { db with urlTestDefaults := some config }

def urlTestManagedGroups (db : Database) : List String := db.managedGroups.getD []

def setURLTestManagedGroups (groups : List String) (db : Database) : Database :=
  { db with managedGroups := some groups }

end SettingsManager

end Boxui.Core
