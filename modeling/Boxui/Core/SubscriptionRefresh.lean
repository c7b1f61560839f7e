import Boxui.Core.Stores
import Boxui.Core.SubscriptionContent

/-! A refresh over HTTP: what is fetched, and what the store keeps of it. Neither the status
of the response nor an empty result is looked at. -/
namespace Boxui.Core
open GoValue

structure HTTPResponse where
  statusCode : Nat
  body : List UInt8

def HTTPResponse.IsError (resp : HTTPResponse) : Prop := 400 ≤ resp.statusCode

instance (resp : HTTPResponse) : Decidable resp.IsError := inferInstanceAs (Decidable (_ ≤ _))

/-- `client` is the network: a request that cannot be built or sent, or whose response is cut
off, is an error; otherwise the whole response is there. -/
def downloadSubscriptionOutbounds (stx : ContentSyntax)
    (client : String → Except String HTTPResponse) (rawURL : String) :
    Except String (List Outbound) := do
  let resp ← client rawURL
  return parseSubscriptionContent stx resp.body

namespace SubscriptionManager

theorem get_setError (id message : String) (db : Database) (id' : String) :
    get id' (setError id message db) =
      if id = id' then (get id db).map fun sub => { sub with error := message }
      else get id' db := by
  unfold setError get
  cases h : db.subscriptions[id]? with
  | none =>
    by_cases hid : id = id'
    · subst hid
      simp [h]
    · simp [hid]
  | some sub => simp

/-- A record after a refresh saved its outbounds. -/
def refreshed (now : Nat) (outbounds : List Outbound) (sub : Subscription) : Subscription :=
  { sub with outbounds := outbounds.map storedOutbound, lastUpdated := now, error := "" }

theorem saveRefreshedSubscription_of_get (now : Nat) (outbounds : List Outbound) {id : String}
    {db : Database} {sub : Subscription} (h : get id db = some sub) :
    saveRefreshedSubscription now id outbounds db =
      .ok { db with
        subscriptions := db.subscriptions.insert id (refreshed now outbounds sub) } := by
  simp only [saveRefreshedSubscription, h]
  rfl

/-- What a refresh of a stored subscription comes to: the error is recorded, or the download
replaces the outbounds. -/
theorem refresh_of_get (download : String → Except String (List Outbound)) (now : Nat)
    {id : String} {db : Database} {sub : Subscription} (hsub : get id db = some sub) :
    (∃ message, download sub.url = .error message ∧
      refresh download now id db = (setError id message db, .error (.download message))) ∨
    ∃ outbounds db', download sub.url = .ok outbounds ∧
      saveRefreshedSubscription now id outbounds db = .ok db' ∧
      refresh download now id db = (db', .ok ()) := by
  cases hdownload : download sub.url with
  | error message =>
    refine .inl ⟨message, rfl, ?_⟩
    simp only [refresh, hsub, hdownload]
  | ok outbounds =>
    have hsave := saveRefreshedSubscription_of_get now outbounds hsub
    refine .inr ⟨outbounds, _, rfl, hsave, ?_⟩
    simp only [refresh, hsub, hdownload, hsave]

end SubscriptionManager

/-- The response has no error status and lists an outbound or a link. -/
def Usable (stx : ContentSyntax) (fetched : Except String HTTPResponse) : Prop :=
  ∃ resp, fetched = .ok resp ∧ ¬resp.IsError ∧
    (stx.ListsOutbounds resp.body ∨ stx.ListsLinks resp.body)

/-- The refresh failed with an error, which is all that the subscription recorded. -/
def RefreshFailed (id : String) (before : Database)
    (refreshed : Database × Except StoreError Unit) : Prop :=
  ∃ sub message, SubscriptionManager.get id before = some sub ∧
    refreshed.2 = .error (.download message) ∧
    SubscriptionManager.get id refreshed.1 = some { sub with error := message }

/-- A refresh from which nothing usable came failed and lost nothing. -/
def RefreshLosesNothing (stx : ContentSyntax) (client : String → Except String HTTPResponse)
    (now : Nat) (id : String) (db : Database) : Prop :=
  ∀ sub, SubscriptionManager.get id db = some sub → ¬Usable stx (client sub.url) →
    RefreshFailed id db
      (SubscriptionManager.refresh (downloadSubscriptionOutbounds stx client) now id db)

/-- It holds for the responses that are usable and for no other: only a request without a
response reaches the error path. -/
theorem refreshLosesNothing_iff (stx : ContentSyntax)
    (client : String → Except String HTTPResponse) (now : Nat) {id : String} {db : Database}
    {sub : Subscription} (hsub : SubscriptionManager.get id db = some sub) :
    RefreshLosesNothing stx client now id db ↔
      (∃ message, client sub.url = .error message) ∨ Usable stx (client sub.url) := by
  have hrefresh := SubscriptionManager.refresh_of_get (downloadSubscriptionOutbounds stx client) now
    hsub
  constructor
  · intro h
    by_cases husable : Usable stx (client sub.url)
    · exact .inr husable
    · obtain ⟨_, message, -, hresult, -⟩ := h sub hsub husable
      obtain ⟨message, hdownload, -⟩ | ⟨outbounds, db', -, -, heq⟩ := hrefresh
      · cases hclient : client sub.url with
        | error message => exact .inl ⟨message, rfl⟩
        | ok resp =>
          simp [downloadSubscriptionOutbounds, hclient, bind, Except.bind, pure, Except.pure]
            at hdownload
      · rw [heq] at hresult
        cases hresult
  · rintro h sub' hsub' hnot
    obtain rfl := Option.some.inj (hsub.symm.trans hsub')
    obtain ⟨message, hclient⟩ := h.resolve_right hnot
    have hdownload : downloadSubscriptionOutbounds stx client sub.url = .error message := by
      simp [downloadSubscriptionOutbounds, hclient, bind, Except.bind]
    obtain ⟨message', hdownload', heq⟩ | ⟨outbounds, db', hdownload', -, -⟩ := hrefresh
    · obtain rfl := Except.error.inj (hdownload.symm.trans hdownload')
      refine ⟨sub, message, hsub, by rw [heq], ?_⟩
      rw [heq, SubscriptionManager.get_setError, if_pos rfl, hsub, Option.map_some]
    · rw [hdownload] at hdownload'
      cases hdownload'

/-- A subscription that served one node an hour ago. -/
def servedSubscription : Subscription where
  id := "1"
  name := "home"
  url := "https://example.test/sub"
  intervalMin := 60
  urltest := none
  lastUpdated := 1
  error := ""
  outbounds := [⟨"hk", "trojan", "1.2.3.4", 443, .null⟩]

def servedDatabase : Database :=
  { emptyDatabase with
    subscriptions := emptyDatabase.subscriptions.insert "1" servedSubscription, sequence := 1 }

/-- What the parsers make of an empty body. -/
def emptyContent : ContentSyntax := ⟨fun _ => none, fun _ => none⟩

theorem refreshLosesNothing_offline :
    RefreshLosesNothing emptyContent (fun _ => .error "connection refused") 2 "1"
      servedDatabase :=
  (refreshLosesNothing_iff emptyContent (fun _ => .error "connection refused") 2
    (show SubscriptionManager.get "1" servedDatabase = some servedSubscription from rfl)).mpr
    (.inl ⟨"connection refused", rfl⟩)

/-- A server error empties the subscription, and the refresh reports success. -/
theorem serverError_empties :
    let client : String → Except String HTTPResponse := fun _ => .ok ⟨500, []⟩
    let refreshed := SubscriptionManager.refresh (downloadSubscriptionOutbounds emptyContent client)
      2 "1" servedDatabase
    ¬RefreshLosesNothing emptyContent client 2 "1" servedDatabase ∧ refreshed.2 = .ok () ∧
      (SubscriptionManager.get "1" refreshed.1).map
        (fun sub => (sub.outbounds.length, sub.lastUpdated, sub.error)) = some (0, 2, "") := by
  refine ⟨fun h => ?_, rfl, rfl⟩
  have hnot : ¬Usable emptyContent (.ok ⟨500, []⟩) := by
    rintro ⟨resp, hresp, hstatus, -⟩
    obtain rfl := Except.ok.inj hresp
    exact hstatus (show 400 ≤ 500 by decide)
  obtain ⟨sub, message, -, hresult, -⟩ := h servedSubscription rfl hnot
  cases hresult

end Boxui.Core
