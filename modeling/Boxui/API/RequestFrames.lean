import Boxui.API.Requests

/-! What a request leaves alone: the handlers keep the saved group tags and give every
subscription a name, and only a synchronisation that succeeds changes the file. -/
namespace Boxui.API
open GoValue Boxui.Core

variable {Bytes : Type*}

/-- Every subscription has a name. -/
def Named (db : Database) : Prop :=
  ∀ (id : String) (sub : Subscription), db.subscriptions[id]? = some sub → sub.name ≠ ""

theorem mem_subscriptions_list {db : Database} {sub : Subscription} :
    sub ∈ SubscriptionManager.list db ↔ ∃ id : String, db.subscriptions[id]? = some sub := by
  simp only [SubscriptionManager.list, List.mem_map, Prod.exists, exists_eq_right,
    Std.ExtTreeMap.mem_toList_iff_getElem?_eq_some]

theorem Named.insert {db : Database} (h : Named db) {id : String} {sub : Subscription}
    (hsub : sub.name ≠ "") :
    Named { db with subscriptions := db.subscriptions.insert id sub } := by
  intro id' sub' hget
  simp only [GoMap.getElem?_insert] at hget
  split_ifs at hget with hid
  · obtain rfl := Option.some.inj hget
    exact hsub
  · exact h id' sub' hget

theorem get_named {db : Database} (h : Named db) {id : String} {sub : Subscription}
    (hget : SubscriptionManager.get id db = some sub) : sub.name ≠ "" :=
  h id sub hget

theorem groupTags_named {db : Database} (h : Named db) {subscription : Subscription}
    (hmem : subscription ∈ (syncInput db).grouped) : subscription.name ≠ "" := by
  obtain ⟨id, hget⟩ := mem_subscriptions_list.mp (List.mem_of_mem_filter hmem)
  exact h id subscription hget

theorem Named.erase {db : Database} (h : Named db) (id : String) :
    Named { db with subscriptions := db.subscriptions.erase id } := by
  intro id' sub' hget
  simp only [GoMap.getElem?_erase] at hget
  split_ifs at hget
  exact h id' sub' hget

/-- A database that differs from a named one in nothing that names or groups depend on. -/
structure KeepsGroups (db db' : Database) : Prop where
  named : Named db → Named db'
  managedGroups : db'.managedGroups = db.managedGroups

theorem KeepsGroups.refl (db : Database) : KeepsGroups db db := ⟨id, rfl⟩

theorem KeepsGroups.trans {db db' db'' : Database} (h : KeepsGroups db db')
    (h' : KeepsGroups db' db'') : KeepsGroups db db'' :=
  ⟨h'.named ∘ h.named, h'.managedGroups.trans h.managedGroups⟩

theorem refresh_keepsGroups (download : String → Except String (List Outbound)) (now : Nat)
    (id : String) (db : Database) :
    KeepsGroups db (SubscriptionManager.refresh download now id db).1 := by
  unfold SubscriptionManager.refresh
  cases hget : SubscriptionManager.get id db with
  | none => exact .refl db
  | some sub =>
    dsimp only
    cases download sub.url with
    | error message =>
      simp only [SubscriptionManager.setError, hget]
      exact ⟨fun h => h.insert (show sub.name ≠ "" from get_named h hget), rfl⟩
    | ok outbounds =>
      dsimp only [SubscriptionManager.saveRefreshedSubscription]
      rw [hget]
      exact ⟨fun h => h.insert (show sub.name ≠ "" from get_named h hget), rfl⟩

theorem refreshAll_keepsGroups (download : String → Except String (List Outbound)) (now : Nat)
    (db : Database) : KeepsGroups db (SubscriptionManager.refreshAll download now db).1 := by
  unfold SubscriptionManager.refreshAll
  refine List.foldlRecOn
    (motive := fun acc : Database × List StoreError => KeepsGroups db acc.1) _ _ (.refl db) ?_
  intro acc hacc sub _
  have hstep := refresh_keepsGroups download now sub.id acc.1
  rcases hr : SubscriptionManager.refresh download now sub.id acc.1 with ⟨db', r⟩
  rw [hr] at hstep
  cases r with
  | error e => exact hacc.trans hstep
  | ok u => exact hacc.trans hstep

namespace Request

theorem add_keepsGroups {outbound : Outbound} {db db' : Database}
    (h : NodeManager.add outbound db = .ok db') : KeepsGroups db db' := by
  unfold NodeManager.add at h
  split_ifs at h
  obtain rfl := Except.ok.inj h
  exact ⟨id, rfl⟩

theorem saveNodeStore_keepsGroups (outbound : Outbound) (db : Database) :
    KeepsGroups db (saveNodeStore outbound db).1 := by
  unfold saveNodeStore
  cases hadd : NodeManager.add outbound db with
  | error e => exact .refl db
  | ok db' => exact add_keepsGroups hadd

theorem updateNodeStore_keepsGroups (tag : String) (updated : Outbound) (db : Database) :
    KeepsGroups db (updateNodeStore tag updated db).1 := by
  unfold updateNodeStore
  by_cases htag : tag = ""
  · rw [if_pos htag]
    exact .refl db
  rw [if_neg htag]
  cases NodeManager.get tag db with
  | none => exact .refl db
  | some node =>
    dsimp only
    by_cases hrequired : updated.tag = "" ∨ updated.type = ""
    · rw [if_pos hrequired]
      exact .refl db
    rw [if_neg hrequired]
    have hdelete :
        KeepsGroups db (if updated.tag ≠ tag then NodeManager.delete tag db else db) := by
      split_ifs
      · exact ⟨id, rfl⟩
      · exact .refl db
    cases hadd : NodeManager.add updated
        (if updated.tag ≠ tag then NodeManager.delete tag db else db) with
    | error e => exact hdelete
    | ok db' => exact hdelete.trans (add_keepsGroups hadd)

theorem createSubscriptionStore_keepsGroups (stx : URLTestSyntax) (params : SubscriptionParams)
    (db : Database) : KeepsGroups db (createSubscriptionStore stx params db).1 := by
  unfold createSubscriptionStore
  by_cases hrequired : params.name = "" ∨ params.url = ""
  · rw [if_pos hrequired]
    exact .refl db
  rw [if_neg hrequired]
  rw [not_or] at hrequired
  dsimp only [SubscriptionManager.create]
  cases hvalid : validateURLTestOverrides stx params.urltest with
  | error e => exact .refl db
  | ok u =>
    exact ⟨fun h => Named.insert (show Named { db with sequence := db.sequence + 1 } from h)
      hrequired.1, rfl⟩

theorem updateSubscriptionStore_keepsGroups (stx : URLTestSyntax) (id : String)
    (params : SubscriptionParams) (db : Database) :
    KeepsGroups db (updateSubscriptionStore stx id params db).1 := by
  unfold updateSubscriptionStore
  cases hvalid : validateURLTestOverrides stx params.urltest with
  | error e => exact .refl db
  | ok u =>
    simp only [hvalid, SubscriptionManager.update]
    cases hget : SubscriptionManager.get id db with
    | none => exact .refl db
    | some sub =>
      refine ⟨fun h => h.insert ?_, rfl⟩
      dsimp only
      split_ifs with hname
      · exact hname
      · exact get_named h hget

theorem deleteSubscriptionStore_keepsGroups (id : String) (db : Database) :
    KeepsGroups db (deleteSubscriptionStore id db).1 := by
  unfold deleteSubscriptionStore SubscriptionManager.delete
  cases SubscriptionManager.get id db with
  | none => exact .refl db
  | some sub => exact ⟨fun h => h.erase id, rfl⟩

theorem setURLTestDefaultsStore_keepsGroups (stx : URLTestSyntax)
    (request : URLTestDefaultsRequest) (db : Database) :
    KeepsGroups db (setURLTestDefaultsStore stx request db).1 := by
  unfold setURLTestDefaultsStore
  cases request.defaults with
  | none => exact .refl db
  | some config =>
    dsimp only
    cases hvalid : validateURLTestDefaults stx config with
    | error e => exact .refl db
    | ok u =>
      simp only [SettingsManager.setURLTestDefaults, hvalid]
      exact ⟨id, rfl⟩

theorem store_keepsGroups (around : Surroundings) (db : Database) (request : Request) :
    KeepsGroups db (request.store around db).1 := by
  cases request with
  | saveNode outbound => exact saveNodeStore_keepsGroups outbound db
  | updateNode tag updated => exact updateNodeStore_keepsGroups tag updated db
  | deleteNode tag =>
    simp only [store, deleteNodeStore]
    split_ifs
    · exact .refl db
    · exact ⟨id, rfl⟩
  | syncToConfig => exact .refl db
  | createSubscription params => exact createSubscriptionStore_keepsGroups around.stx params db
  | updateSubscription id params =>
    exact updateSubscriptionStore_keepsGroups around.stx id params db
  | deleteSubscription id => exact deleteSubscriptionStore_keepsGroups id db
  | refreshSubscription id =>
    have h := refresh_keepsGroups around.download around.now id db
    simp only [store, refreshSubscriptionStore]
    rcases hr : SubscriptionManager.refresh around.download around.now id db with ⟨db', r⟩
    rw [hr] at h
    cases r <;> exact h
  | refreshAllSubscriptions =>
    have h := refreshAll_keepsGroups around.download around.now db
    simp only [store, refreshAllStore]
    rcases hr : SubscriptionManager.refreshAll around.download around.now db with ⟨db', errors⟩
    rw [hr] at h
    cases errors <;> exact h
  | setURLTestDefaults request =>
    exact setURLTestDefaultsStore_keepsGroups around.stx request db

/-- The request reached a synchronisation, and that succeeded. -/
def synchronised (codec : JSONCodec Bytes) (around : Surroundings) (request : Request)
    (s : SyncState Bytes) : Bool :=
  match request.store around s.db with
  | (_, .respond _) => false
  | (db, .sync _) => (syncOutboundsToConfig codec around.sync ⟨s.dir, db⟩).2.isOk

/-- What a request does to file and database when rolling back does not fail: the file changes
with a synchronisation that succeeds, and with nothing else. -/
theorem handle_cases (codec : JSONCodec Bytes) {around : Surroundings}
    (hrollback : ∀ step, around.sync.rollback step = false) (request : Request)
    (s : SyncState Bytes) :
    let db := (request.store around s.db).1
    let s' := (request.handle codec around s).1
    (request.synchronised codec around s = true ∧
      (∃ config, s.config? codec = some config ∧ s'.Wrote codec (syncInput db) config) ∧
      s'.db = SettingsManager.setURLTestManagedGroups (syncInput db).groupTags db) ∨
    (request.synchronised codec around s = false ∧ s'.dir.target = s.dir.target ∧ s'.db = db) := by
  unfold handle synchronised
  rcases request.store around s.db with ⟨db, response | respond⟩
  · exact .inr ⟨rfl, rfl, rfl⟩
  · dsimp only
    rcases syncOutboundsToConfig_cases codec around.sync ⟨s.dir, db⟩ with
      ⟨config, hconfig, -, hok, hwrote, hdb⟩ | ⟨⟨e, herr⟩, hdb, hfile⟩
    · refine .inl ⟨?_, ⟨config, hconfig, hwrote⟩, hdb⟩
      rw [hok]
      rfl
    · refine .inr ⟨?_, ?_, hdb⟩
      · rw [herr]
        rfl
      · rcases hfile with hsame | ⟨⟨step, hstep⟩, -⟩
        · exact hsame
        · rw [hrollback step] at hstep
          cases hstep

end Request

end Boxui.API
