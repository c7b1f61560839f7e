import Boxui.Core.SubscriptionRuns
import Std.Data.String.ToNat

/-! The settings of the subscriptions are decided by the edits alone: refreshes in flight are
invisible to them, whatever the order of the steps. -/
namespace Boxui.Core
open GoValue Machine

/-- What a user sets of a subscription. -/
structure SubscriptionSettings where
  name : String
  url : String
  intervalMin : Int
  urltest : Option URLTestOverrides

def Subscription.settings (sub : Subscription) : SubscriptionSettings :=
  ⟨sub.name, sub.url, sub.intervalMin, sub.urltest⟩

/-- The store as its users know it, without refreshes. -/
structure SettingsStore where
  settings : GoMap SubscriptionSettings
  sequence : Nat

inductive SettingsEdit where
  | create (params : SubscriptionParams)
  | update (id : String) (params : SubscriptionParams)
  | delete (id : String)

/-- The existing record an edit names. -/
def SettingsEdit.names : SettingsEdit → Option String
  | .create _ => none
  | .update id _ => some id
  | .delete id => some id

namespace SettingsStore

/-- What an edit asks for; an edit with invalid overrides or of a missing record is refused. -/
def edit (stx : URLTestSyntax) (store : SettingsStore) : SettingsEdit → SettingsStore
  | .create params =>
    match validateURLTestOverrides stx params.urltest with
    | .ok () =>
      { settings := store.settings.insert (toString (store.sequence + 1))
          ⟨params.name, params.url, params.intervalMin, params.urltest⟩
        sequence := store.sequence + 1 }
    | .error _ => store
  | .update id params =>
    match validateURLTestOverrides stx params.urltest, store.settings[id]? with
    | .ok (), some old =>
      { store with
        settings := store.settings.insert id
          { name := if params.name ≠ "" then params.name else old.name
            url := if params.url ≠ "" then params.url else old.url
            intervalMin := if 0 < params.intervalMin then params.intervalMin else old.intervalMin
            urltest := params.urltest } }
    | _, _ => store
  | .delete id => { store with settings := store.settings.erase id }

/-- The identifier has been given out. -/
def Issued (store : SettingsStore) (id : String) : Prop :=
  ∃ n ≤ store.sequence, id = toString n

/-- Every record has an identifier that was given out. -/
def Sequenced (store : SettingsStore) : Prop :=
  ∀ id, store.settings[id]?.isSome → store.Issued id

/-- The identifier an edit is about. -/
def target (store : SettingsStore) : SettingsEdit → String
  | .create _ => toString (store.sequence + 1)
  | .update id _ => id
  | .delete id => id

theorem toString_injective : Function.Injective (toString : Nat → String) :=
  fun _ _ h => Nat.repr_injective h

theorem Issued.ne_next {store : SettingsStore} {id : String} (h : store.Issued id) :
    toString (store.sequence + 1) ≠ id := by
  obtain ⟨n, hn, rfl⟩ := h
  intro heq
  have := toString_injective heq
  omega

theorem edit_of_ne (stx : URLTestSyntax) (store : SettingsStore) (e : SettingsEdit) {id : String}
    (h : store.target e ≠ id) : (store.edit stx e).settings[id]? = store.settings[id]? := by
  cases e with
  | create params =>
    simp only [edit]
    split
    · rw [GoMap.getElem?_insert]
      exact if_neg h
    · rfl
  | update id' params =>
    simp only [edit]
    split
    · rw [GoMap.getElem?_insert]
      exact if_neg h
    · rfl
  | delete id' =>
    simp only [edit]
    rw [GoMap.getElem?_erase]
    exact if_neg h

theorem sequence_le_edit (stx : URLTestSyntax) (store : SettingsStore) (e : SettingsEdit) :
    store.sequence ≤ (store.edit stx e).sequence := by
  cases e with
  | create params =>
    simp only [edit]
    split
    · exact Nat.le_succ _
    · exact Nat.le_refl _
  | update id params =>
    simp only [edit]
    split <;> exact Nat.le_refl _
  | delete id => exact Nat.le_refl _

theorem Issued.edit {store : SettingsStore} {id : String} (h : store.Issued id)
    (stx : URLTestSyntax) (e : SettingsEdit) : (store.edit stx e).Issued id := by
  obtain ⟨n, hn, rfl⟩ := h
  exact ⟨n, hn.trans (sequence_le_edit stx store e), rfl⟩

theorem Sequenced.edit {store : SettingsStore} (h : store.Sequenced) (stx : URLTestSyntax)
    (e : SettingsEdit) : (store.edit stx e).Sequenced := by
  intro id hid
  by_cases htarget : store.target e = id
  · cases e with
    | create params =>
      simp only [SettingsStore.edit] at hid ⊢
      split at hid
      · exact ⟨store.sequence + 1, Nat.le_refl _, htarget.symm⟩
      · exact h id hid
    | update id' params =>
      obtain rfl : id' = id := htarget
      refine Issued.edit (h id' ?_) stx _
      simp only [SettingsStore.edit] at hid
      split at hid
      · next hold => simp [hold]
      · exact hid
    | delete id' =>
      obtain rfl : id' = id := htarget
      simp [SettingsStore.edit] at hid
  · rw [edit_of_ne stx store e htarget] at hid
    exact (h id hid).edit stx e

/-- A record that is gone does not come back: its identifier is never given out again. -/
theorem Issued.edit_eq_none {store : SettingsStore} {id : String} (h : store.Issued id)
    (hnone : store.settings[id]? = none) (stx : URLTestSyntax) (e : SettingsEdit) :
    (store.edit stx e).settings[id]? = none := by
  by_cases htarget : store.target e = id
  · cases e with
    | create params => exact absurd htarget h.ne_next
    | update id' params =>
      obtain rfl : id' = id := htarget
      simp only [SettingsStore.edit, hnone]
      split
      · next hold => cases hold
      · exact hnone
    | delete id' =>
      obtain rfl : id' = id := htarget
      simp [SettingsStore.edit]
  · rw [edit_of_ne stx store e htarget, hnone]

theorem Issued.run_eq_none {store : SettingsStore} {id : String} (h : store.Issued id)
    (hnone : store.settings[id]? = none) (stx : URLTestSyntax) (edits : List SettingsEdit) :
    (run (SettingsStore.edit stx) store edits).settings[id]? = none :=
  (run_invariant (P := fun store : SettingsStore => store.Issued id ∧ store.settings[id]? = none)
    (fun _ e hs => ⟨hs.1.edit stx e, hs.1.edit_eq_none hs.2 stx e⟩) ⟨h, hnone⟩ edits).2

theorem Issued.target_ne {store : SettingsStore} {id : String} (h : store.Issued id)
    {e : SettingsEdit} (he : e.names ≠ some id) : store.target e ≠ id := by
  cases e with
  | create params => exact h.ne_next
  | update id' params => exact fun heq => he (congrArg some heq)
  | delete id' => exact fun heq => he (congrArg some heq)

/-- Edits that do not name a record leave its settings alone. -/
theorem Issued.run_eq {store : SettingsStore} {id : String} (h : store.Issued id)
    (stx : URLTestSyntax) {edits : List SettingsEdit} (hedits : ∀ e ∈ edits, e.names ≠ some id) :
    (run (SettingsStore.edit stx) store edits).settings[id]? = store.settings[id]? := by
  induction edits generalizing store with
  | nil => rfl
  | cons e edits ih =>
    have hhead := hedits e (List.mem_cons_self ..)
    rw [run_cons, ih (h.edit stx e) fun e' he' => hedits e' (List.mem_cons_of_mem _ he'),
      edit_of_ne stx store e (h.target_ne hhead)]

theorem Sequenced.run {store : SettingsStore} (h : store.Sequenced) (stx : URLTestSyntax)
    (edits : List SettingsEdit) : (run (SettingsStore.edit stx) store edits).Sequenced :=
  run_invariant (P := Sequenced) (fun _ e hs => hs.edit stx e) h edits

end SettingsStore

def SubscriptionStep.edit? {κ : Type*} : SubscriptionStep κ → Option SettingsEdit
  | .create params => some (.create params)
  | .update id params => some (.update id params)
  | .delete id => some (.delete id)
  | _ => none

def settingsStore (db : Database) : SettingsStore where
  settings := db.subscriptions.map fun _ sub => Subscription.settings sub
  sequence := db.sequence

theorem settingsStore_insert (db : Database) (id : String) (sub : Subscription) (n : Nat) :
    settingsStore { db with subscriptions := db.subscriptions.insert id sub, sequence := n } =
      ⟨(settingsStore db).settings.insert id (Subscription.settings sub), n⟩ := by
  simp only [settingsStore, SettingsStore.mk.injEq, and_true]
  apply Std.ExtTreeMap.ext_getElem?
  intro k
  simp only [Std.ExtTreeMap.getElem?_map, GoMap.getElem?_insert]
  split <;> rfl

/-- Writing back a record whose settings are those stored changes no settings. -/
theorem settingsStore_insert_of_get {db : Database} {id : String} {old sub : Subscription}
    (hold : SubscriptionManager.get id db = some old)
    (hsub : Subscription.settings sub = Subscription.settings old) :
    settingsStore { db with subscriptions := db.subscriptions.insert id sub } =
      settingsStore db := by
  rw [settingsStore_insert, hsub]
  simp only [settingsStore, SettingsStore.mk.injEq, and_true]
  apply Std.ExtTreeMap.ext_getElem?
  intro k
  simp only [Std.ExtTreeMap.getElem?_map, GoMap.getElem?_insert]
  split
  · next hk =>
    subst hk
    rw [show db.subscriptions[id]? = some old from hold, Option.map_some]
  · rfl

theorem getElem?_settingsStore (db : Database) (id : String) :
    (settingsStore db).settings[id]? =
      (SubscriptionManager.get id db).map Subscription.settings := by
  simp [settingsStore, SubscriptionManager.get]

namespace SubscriptionManager

theorem settingsStore_setError (id message : String) (db : Database) :
    settingsStore (setError id message db) = settingsStore db := by
  unfold setError
  cases h : get id db with
  | none => rfl
  | some sub => exact settingsStore_insert_of_get h rfl

theorem settingsStore_saveRefreshedSubscription (now : Nat) (id : String)
    (outbounds : List Outbound) (db : Database) :
    settingsStore (committed db (saveRefreshedSubscription now id outbounds db)) =
      settingsStore db := by
  cases h : get id db with
  | none =>
    simp only [saveRefreshedSubscription, h]
    rfl
  | some sub =>
    rw [saveRefreshedSubscription_of_get now outbounds h]
    exact settingsStore_insert_of_get h rfl

theorem settingsStore_create (stx : URLTestSyntax) (params : SubscriptionParams) (db : Database) :
    settingsStore (committed db (create stx params db)) =
      (settingsStore db).edit stx (.create params) := by
  cases hvalid : validateURLTestOverrides stx params.urltest with
  | error e =>
    simp only [create, SettingsStore.edit, hvalid]
    rfl
  | ok u =>
    simp only [create, SettingsStore.edit, hvalid]
    exact settingsStore_insert db _ _ _

theorem settingsStore_update (stx : URLTestSyntax) (id : String) (params : SubscriptionParams)
    (db : Database) :
    settingsStore (committed db (update stx id params db)) =
      (settingsStore db).edit stx (.update id params) := by
  cases hvalid : validateURLTestOverrides stx params.urltest with
  | error e =>
    simp only [update, SettingsStore.edit, hvalid]
    rfl
  | ok u =>
    cases h : get id db with
    | none =>
      simp only [update, SettingsStore.edit, hvalid, getElem?_settingsStore, h]
      rfl
    | some sub =>
      simp only [update, SettingsStore.edit, hvalid, getElem?_settingsStore, h]
      exact settingsStore_insert db _ _ _

theorem settingsStore_delete (stx : URLTestSyntax) (id : String) (db : Database) :
    settingsStore (committed db (delete id db)) = (settingsStore db).edit stx (.delete id) := by
  have herase : (settingsStore db).edit stx (.delete id) =
      settingsStore { db with subscriptions := db.subscriptions.erase id } := by
    simp only [SettingsStore.edit, settingsStore, SettingsStore.mk.injEq, and_true]
    apply Std.ExtTreeMap.ext_getElem?
    intro k
    simp only [Std.ExtTreeMap.getElem?_map, GoMap.getElem?_erase]
    split <;> rfl
  rw [herase]
  cases h : get id db with
  | some sub =>
    simp only [delete, h]
    rfl
  | none =>
    -- the record is missing: erasing it changes nothing
    have hsame : db.subscriptions.erase id = db.subscriptions := by
      apply Std.ExtTreeMap.ext_getElem?
      intro k
      rw [GoMap.getElem?_erase]
      split
      · next hk => rw [← hk, show db.subscriptions[id]? = none from h]
      · rfl
    simp only [delete, h, hsame]
    rfl

end SubscriptionManager

namespace SubscriptionService

variable {κ : Type*} [DecidableEq κ]

/-- One step does to the settings what its edit does, and nothing when it is no edit. -/
theorem settingsStore_step (stx : URLTestSyntax) (s : SubscriptionService κ)
    (label : SubscriptionStep κ) :
    settingsStore (step stx s label).db =
      label.edit?.elim (settingsStore s.db) ((settingsStore s.db).edit stx) := by
  cases label with
  | create params => exact SubscriptionManager.settingsStore_create stx params s.db
  | update id params => exact SubscriptionManager.settingsStore_update stx id params s.db
  | delete id => exact SubscriptionManager.settingsStore_delete stx id s.db
  | read call id =>
    simp only [step]
    split <;> rfl
  | download call result =>
    simp only [step]
    split <;> rfl
  | settle call now =>
    simp only [step]
    split
    · exact SubscriptionManager.settingsStore_setError _ _ s.db
    · exact SubscriptionManager.settingsStore_saveRefreshedSubscription _ _ _ s.db
    · rfl

/-- Over a whole run the settings are those the edits alone leave. -/
theorem settingsStore_run (stx : URLTestSyntax) (s : SubscriptionService κ)
    (labels : List (SubscriptionStep κ)) :
    settingsStore (run (step stx) s labels).db =
      run (SettingsStore.edit stx) (settingsStore s.db) (labels.filterMap SubscriptionStep.edit?) :=
  run_simulation (fun s : SubscriptionService κ => settingsStore s.db) SubscriptionStep.edit?
    (settingsStore_step stx) s labels

/-- The record a step may write. -/
def target (s : SubscriptionService κ) : SubscriptionStep κ → Option String
  | .create _ => some (toString (s.db.sequence + 1))
  | .update id _ => some id
  | .delete id => some id
  | .read _ _ => none
  | .download _ _ => none
  | .settle call _ => (s.calls call).map RefreshCall.id

/-- A step leaves every record alone but its own. -/
theorem get_step_of_ne (stx : URLTestSyntax) (s : SubscriptionService κ)
    (label : SubscriptionStep κ) {id : String} (h : target s label ≠ some id) :
    SubscriptionManager.get id (step stx s label).db = SubscriptionManager.get id s.db := by
  have hinsert : ∀ id' (sub : Subscription) n, id' ≠ id →
      SubscriptionManager.get id
        { s.db with subscriptions := s.db.subscriptions.insert id' sub, sequence := n } =
          SubscriptionManager.get id s.db := by
    intro id' sub n hne
    simp only [SubscriptionManager.get, GoMap.getElem?_insert, if_neg hne]
  cases label with
  | create params =>
    simp only [step, SubscriptionManager.create]
    cases validateURLTestOverrides stx params.urltest with
    | error e => rfl
    | ok u => exact hinsert _ _ _ fun heq => h (congrArg some heq)
  | update id' params =>
    simp only [step, SubscriptionManager.update]
    cases validateURLTestOverrides stx params.urltest with
    | error e => rfl
    | ok u =>
      cases SubscriptionManager.get id' s.db with
      | none => rfl
      | some sub => exact hinsert _ _ _ fun heq => h (congrArg some heq)
  | delete id' =>
    simp only [step, SubscriptionManager.delete]
    cases SubscriptionManager.get id' s.db with
    | none => rfl
    | some sub =>
      simp only [SubscriptionManager.get]
      exact (GoMap.getElem?_erase _ _ _).trans (if_neg fun heq => h (congrArg some heq))
  | read call id' =>
    simp only [step]
    split <;> rfl
  | download call result =>
    simp only [step]
    split <;> rfl
  | settle call now =>
    simp only [target] at h
    simp only [step]
    split
    · next id' url message hcall =>
      rw [hcall] at h
      rw [SubscriptionManager.get_setError, if_neg fun heq => h (congrArg some heq)]
    · next id' url outbounds hcall =>
      rw [hcall] at h
      cases hget : SubscriptionManager.get id' s.db with
      | none =>
        simp only [SubscriptionManager.saveRefreshedSubscription, hget]
        rfl
      | some sub =>
        rw [SubscriptionManager.saveRefreshedSubscription_of_get now outbounds hget]
        exact hinsert _ _ _ fun heq => h (congrArg some heq)
    · rfl

theorem sequenced_run (stx : URLTestSyntax) {s : SubscriptionService κ}
    (hs : (settingsStore s.db).Sequenced) (labels : List (SubscriptionStep κ)) :
    (settingsStore (run (step stx) s labels).db).Sequenced := by
  rw [settingsStore_run]
  exact hs.run stx _

theorem sequenced_step (stx : URLTestSyntax) {s : SubscriptionService κ}
    (hs : (settingsStore s.db).Sequenced) (label : SubscriptionStep κ) :
    (settingsStore (s.step stx label).db).Sequenced :=
  sequenced_run stx hs [label]

/-- A record that was deleted stays away. -/
theorem get_run_after_delete (stx : URLTestSyntax) {s : SubscriptionService κ}
    (hs : (settingsStore s.db).Sequenced) {id : String} {sub : Subscription}
    (hsub : SubscriptionManager.get id s.db = some sub) (labels : List (SubscriptionStep κ)) :
    SubscriptionManager.get id (run (step stx) s (.delete id :: labels)).db = none := by
  have hissued : (settingsStore s.db).Issued id := hs id (by simp [getElem?_settingsStore, hsub])
  have hgone : ((settingsStore s.db).edit stx (.delete id)).settings[id]? = none := by
    simp [SettingsStore.edit]
  have hrun :
      (settingsStore (run (step stx) s (.delete id :: labels)).db).settings[id]? = none := by
    rw [settingsStore_run]
    exact (hissued.edit stx (.delete id)).run_eq_none hgone stx _
  rwa [getElem?_settingsStore, Option.map_eq_none_iff] at hrun

/-- The settings of a record stay until an edit names it. -/
theorem settings_run (stx : URLTestSyntax) {s : SubscriptionService κ}
    (hs : (settingsStore s.db).Sequenced) {id : String} {sub : Subscription}
    (hsub : SubscriptionManager.get id s.db = some sub) {labels : List (SubscriptionStep κ)}
    (hlabels : ∀ label ∈ labels, ∀ e, label.edit? = some e → e.names ≠ some id) :
    (SubscriptionManager.get id (run (step stx) s labels).db).map Subscription.settings =
      some (Subscription.settings sub) := by
  have hissued : (settingsStore s.db).Issued id := hs id (by simp [getElem?_settingsStore, hsub])
  have hedits : ∀ e ∈ labels.filterMap SubscriptionStep.edit?, e.names ≠ some id := by
    intro e he
    obtain ⟨label, hlabel, hedit⟩ := List.mem_filterMap.mp he
    exact hlabels label hlabel e hedit
  rw [← getElem?_settingsStore, settingsStore_run, hissued.run_eq stx hedits,
    getElem?_settingsStore, hsub, Option.map_some]

end SubscriptionService

/-- Concurrent refreshes never revert an edit. At every moment of a run the settings are those
that the edits so far leave on their own, and each record keeps its settings until an edit
names it; a deleted record stays away, and a step touches no record but its own. -/
theorem refreshes_keep_edits {κ : Type*} [DecidableEq κ] (stx : URLTestSyntax)
    {s : SubscriptionService κ} (hs : (settingsStore s.db).Sequenced)
    (before : List (SubscriptionStep κ)) :
    let now := run (SubscriptionService.step stx) s before
    settingsStore now.db = run (SettingsStore.edit stx) (settingsStore s.db)
        (before.filterMap SubscriptionStep.edit?) ∧
      (∀ id sub after, SubscriptionManager.get id now.db = some sub →
        (∀ label ∈ after, ∀ e, label.edit? = some e → e.names ≠ some id) →
        (SubscriptionManager.get id (run (SubscriptionService.step stx) now after).db).map
          Subscription.settings = some (Subscription.settings sub)) ∧
      (∀ id sub after, SubscriptionManager.get id now.db = some sub →
        SubscriptionManager.get id
          (run (SubscriptionService.step stx) now (.delete id :: after)).db = none) ∧
      ∀ id label, SubscriptionService.target now label ≠ some id →
        SubscriptionManager.get id (SubscriptionService.step stx now label).db =
          SubscriptionManager.get id now.db := by
  intro now
  have hnow := SubscriptionService.sequenced_run stx hs before
  refine ⟨SubscriptionService.settingsStore_run stx s before, ?_, ?_, ?_⟩
  · intro id sub after hsub hafter
    exact SubscriptionService.settings_run stx hnow hsub hafter
  · intro id sub after hsub
    exact SubscriptionService.get_run_after_delete stx hnow hsub after
  · intro id label hlabel
    exact SubscriptionService.get_step_of_ne stx now label hlabel

theorem emptyDatabase_sequenced : (settingsStore emptyDatabase).Sequenced := by
  intro id hid
  simp [settingsStore, emptyDatabase] at hid

/-- A subscription is renamed while its refresh is downloading. -/
def renamedDuringRefresh : List (SubscriptionStep Unit) :=
  [.create ⟨"home", "https://example.test/sub", 60, none⟩, .read () "1",
    .update "1" ⟨"work", "", 0, none⟩, .download () (.ok []), .settle () 5]

def lenientURLTest : URLTestSyntax := ⟨fun _ => true, fun _ => true⟩

theorem renamedDuringRefresh_keeps_edits :
    ((settingsStore (run (SubscriptionService.step lenientURLTest) ⟨emptyDatabase, fun _ => none⟩
      renamedDuringRefresh).db).settings["1"]?.map fun set => (set.name, set.url)) =
        some ("work", "https://example.test/sub") := by
  have h := (refreshes_keep_edits (κ := Unit) lenientURLTest (s := ⟨emptyDatabase, fun _ => none⟩)
    emptyDatabase_sequenced renamedDuringRefresh).1
  rw [h]
  rfl

end Boxui.Core
