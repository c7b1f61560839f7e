import Boxui.API.ConfigApply
import Boxui.API.SyncCommit
import Boxui.Library.Machine

/-! The requests that change the stores or synchronise them into the configuration file. A
handler works on the database first; some then synchronise, and most of those ignore how
the synchronisation went. -/
namespace Boxui.API
open GoValue Boxui.Core

variable {Bytes : Type*}

inductive ErrorMessage where
  | text (s : String)
  | store (e : StoreError)
  | sync (e : SyncError)

structure Response where
  statusCode : Nat
  status : String
  error : Option (String × ErrorMessage)

def writeJSON (statusCode : Nat) : Response := ⟨statusCode, statusOK, none⟩

def writeJSONErrorCode (statusCode : Nat) (code : String) (message : ErrorMessage) : Response :=
  ⟨statusCode, "error", some (code, message)⟩

/-- What a handler does after its work on the database. -/
inductive Followup where
  | respond (response : Response)
  | sync (respond : Except SyncError Unit → Response)

/-- The request body that sets the URLTest defaults; every field has to be there. -/
abbrev URLTestDefaultsRequest := URLTestOverrides

def URLTestDefaultsRequest.defaults (request : URLTestDefaultsRequest) : Option URLTestDefaults :=
  match request.enabled, request.url, request.interval, request.tolerance with
  | some enabled, some url, some interval, some tolerance =>
    some ⟨enabled, url, interval, tolerance⟩
  | _, _, _, _ => none

inductive Request where
  | saveNode (outbound : Outbound)
  | updateNode (tag : String) (updated : Outbound)
  | deleteNode (tag : String)
  | syncToConfig
  | createSubscription (params : SubscriptionParams)
  | updateSubscription (id : String) (params : SubscriptionParams)
  | deleteSubscription (id : String)
  | refreshSubscription (id : String)
  | refreshAllSubscriptions
  | setURLTestDefaults (request : URLTestDefaultsRequest)

/-- What a request meets outside the program: accepted syntax, served subscriptions, the
clock, and how the calls of a synchronisation turn out. -/
structure Surroundings where
  stx : URLTestSyntax
  download : String → Except String (List Outbound)
  now : Nat
  sync : SyncOutcome

namespace Request

def saveNodeStore (outbound : Outbound) (db : Database) : Database × Followup :=
  match NodeManager.add outbound db with
  | .error _ =>
    (db, .respond (writeJSONErrorCode 500 "internal_error" (.text "failed to save node")))
  | .ok db => (db, .sync fun _ => writeJSON 200)

/-- The old record is deleted before the new one is stored, and stays deleted when that fails. -/
def updateNodeStore (tag : String) (updated : Outbound) (db : Database) : Database × Followup :=
  if tag = "" then
    (db, .respond (writeJSONErrorCode 400 "invalid_request" (.text "tag is required")))
  else
    match NodeManager.get tag db with
    | none => (db, .respond (writeJSONErrorCode 404 "node_not_found" (.text "node not found")))
    | some _ =>
      if updated.tag = "" ∨ updated.type = "" then
        (db, .respond (writeJSONErrorCode 400 "invalid_request"
          (.text "tag and type are required")))
      else
        let db := if updated.tag ≠ tag then NodeManager.delete tag db else db
        match NodeManager.add updated db with
        | .error _ =>
          (db, .respond (writeJSONErrorCode 500 "node_update_failed"
            (.text "failed to update node")))
        | .ok db => (db, .sync fun _ => writeJSON 200)

def deleteNodeStore (tag : String) (db : Database) : Database × Followup :=
  if tag = "" then
    (db, .respond (writeJSONErrorCode 400 "invalid_request" (.text "tag is required")))
  else (NodeManager.delete tag db, .respond (writeJSON 200))

def createSubscriptionStore (stx : URLTestSyntax) (params : SubscriptionParams) (db : Database) :
    Database × Followup :=
  if params.name = "" ∨ params.url = "" then
    (db, .respond (writeJSONErrorCode 400 "invalid_request" (.text "name and url are required")))
  else
    let params :=
      { params with intervalMin := if params.intervalMin ≤ 0 then 60 else params.intervalMin }
    match validateURLTestOverrides stx params.urltest with
    | .error e => (db, .respond (writeJSONErrorCode 400 "invalid_request" (.store e)))
    | .ok () =>
      match SubscriptionManager.create stx params db with
      | .error e => (db, .respond (writeJSONErrorCode 500 "internal_error" (.store e)))
      | .ok db => (db, .respond (writeJSON 201))

def updateSubscriptionStore (stx : URLTestSyntax) (id : String) (params : SubscriptionParams)
    (db : Database) : Database × Followup :=
  match validateURLTestOverrides stx params.urltest with
  | .error e => (db, .respond (writeJSONErrorCode 400 "invalid_request" (.store e)))
  | .ok () =>
    match SubscriptionManager.update stx id params db with
    | .error e => (db, .respond (writeJSONErrorCode 404 "subscription_not_found" (.store e)))
    | .ok db => (db, .respond (writeJSON 200))

def deleteSubscriptionStore (id : String) (db : Database) : Database × Followup :=
  match SubscriptionManager.delete id db with
  | .error e => (db, .respond (writeJSONErrorCode 404 "subscription_not_found" (.store e)))
  | .ok db => (db, .respond (writeJSON 200))

def refreshSubscriptionStore (around : Surroundings) (id : String) (db : Database) :
    Database × Followup :=
  match SubscriptionManager.refresh around.download around.now id db with
  | (db, .error e) =>
    (db, .respond (writeJSONErrorCode 500 "subscription_refresh_failed" (.store e)))
  | (db, .ok ()) => (db, .sync fun _ => writeJSON 200)

def refreshAllStore (around : Surroundings) (db : Database) : Database × Followup :=
  match SubscriptionManager.refreshAll around.download around.now db with
  | (db, []) => (db, .sync fun _ => writeJSON 200)
  | (db, _ :: _) => (db, .sync fun _ => ⟨200, "partial",
      some ("subscription_refresh_failed", .text "some subscriptions failed to refresh")⟩)

def setURLTestDefaultsStore (stx : URLTestSyntax) (request : URLTestDefaultsRequest)
    (db : Database) : Database × Followup :=
  match request.defaults with
  | none =>
    (db, .respond (writeJSONErrorCode 400 "invalid_request"
      (.text "enabled, url, interval and tolerance are required")))
  | some config =>
    match validateURLTestDefaults stx config with
    | .error e => (db, .respond (writeJSONErrorCode 400 "invalid_request" (.store e)))
    | .ok () =>
      match SettingsManager.setURLTestDefaults stx config db with
      | .error _ =>
        (db, .respond (writeJSONErrorCode 500 "internal_error"
          (.text "failed to save urltest defaults")))
      | .ok db => (db, .respond (writeJSON 200))

/-- The work of each handler on the database. -/
def store (around : Surroundings) (db : Database) : Request → Database × Followup
  | .saveNode outbound => saveNodeStore outbound db
  | .updateNode tag updated => updateNodeStore tag updated db
  | .deleteNode tag => deleteNodeStore tag db
  | .syncToConfig => (db, .sync fun
      | .error e => writeJSONErrorCode 500 "internal_error" (.sync e)
      | .ok () => writeJSON 200)
  | .createSubscription params => createSubscriptionStore around.stx params db
  | .updateSubscription id params => updateSubscriptionStore around.stx id params db
  | .deleteSubscription id => deleteSubscriptionStore id db
  | .refreshSubscription id => refreshSubscriptionStore around id db
  | .refreshAllSubscriptions => refreshAllStore around db
  | .setURLTestDefaults request => setURLTestDefaultsStore around.stx request db

def handle (codec : JSONCodec Bytes) (around : Surroundings) (request : Request)
    (s : SyncState Bytes) : SyncState Bytes × Response :=
  match request.store around s.db with
  | (db, .respond response) => (⟨s.dir, db⟩, response)
  | (db, .sync respond) =>
    match syncOutboundsToConfig codec around.sync ⟨s.dir, db⟩ with
    | (s, r) => (s, respond r)

end Request

end Boxui.API
