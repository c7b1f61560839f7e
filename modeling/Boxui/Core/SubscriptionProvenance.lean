import Boxui.Core.SubscriptionEdits

/-! Which URL the stored outbounds came from. The runs of the subscription service are traced
by the downloads that completed, the refreshes that read the URL now stored, and the
subscriptions that such a refresh has brought up to date. -/
namespace Boxui.Core
open GoValue Machine

variable {κ : Type*}

def storedURL (id : String) (db : Database) : Option String :=
  (SubscriptionManager.get id db).map Subscription.url

/-- `fetched` pairs each completed download with its URL. A call is `current` when it read its
URL after the last change of it, and `fresh` are the subscriptions that a current call has
saved since. -/
structure TracedService (κ : Type*) where
  service : SubscriptionService κ
  fetched : List (String × List Outbound)
  current : κ → Bool
  fresh : String → Bool

namespace TracedService

variable [DecidableEq κ]

def untraced (s : SubscriptionService κ) : TracedService κ :=
  ⟨s, [], fun _ => false, fun _ => false⟩

/-- The subscription whose outbounds a step replaces, and what replaces them. -/
def saving (s : SubscriptionService κ) : SubscriptionStep κ → Option (RefreshCall × List Outbound)
  | .settle call _ =>
    match s.calls call with
    | some ⟨id, url, some (.ok outbounds)⟩ => some (⟨id, url, some (.ok outbounds)⟩, outbounds)
    | _ => none
  | _ => none

def step (stx : URLTestSyntax) (s : TracedService κ) (label : SubscriptionStep κ) :
    TracedService κ :=
  let service := s.service.step stx label
  let changed id := storedURL id service.db ≠ storedURL id s.service.db
  { service := service
    fetched :=
      match label with
      | .download call (.ok outbounds) =>
        match s.service.calls call with
        | some ⟨_, url, none⟩ => (url, outbounds) :: s.fetched
        | _ => s.fetched
      | _ => s.fetched
    current := fun c =>
      match s.service.calls c, service.calls c with
      | none, some _ => true
      | _, some call => s.current c && !decide (changed call.id)
      | _, none => false
    fresh := fun id => !decide (changed id) && (s.fresh id ||
      match label with
      | .settle c _ => s.current c && decide ((saving s.service label).map (·.1.id) = some id)
      | _ => false) }

/-- The trace only watches. -/
theorem run_service (stx : URLTestSyntax) (s : TracedService κ)
    (labels : List (SubscriptionStep κ)) :
    (run (step stx) s labels).service = run (SubscriptionService.step stx) s.service labels := by
  induction labels generalizing s with
  | nil => rfl
  | cons label labels ih => exact ih (step stx s label)

/-- A subscription that was brought up to date holds what a download of its URL returned. -/
def UpToDate (s : TracedService κ) : Prop :=
  ∀ id sub, SubscriptionManager.get id s.service.db = some sub → s.fresh id = true →
    ∃ outbounds, (sub.url, outbounds) ∈ s.fetched ∧ sub.outbounds = outbounds.map storedOutbound

/-- A call that saves to an up-to-date subscription has read the URL that is stored. -/
def OnTime (s : TracedService κ) (label : SubscriptionStep κ) : Prop :=
  ∀ call outbounds, saving s.service label = some (call, outbounds) → s.fresh call.id = true →
    storedURL call.id s.service.db = some call.url

omit [DecidableEq κ] in
theorem saving_eq_some {s : SubscriptionService κ} {label : SubscriptionStep κ}
    {call : RefreshCall} {outbounds : List Outbound} (h : saving s label = some (call, outbounds)) :
    ∃ c now, label = .settle c now ∧ s.calls c = some call ∧
      call.downloaded = some (.ok outbounds) := by
  cases label with
  | settle c now =>
    simp only [saving] at h
    split at h
    · next id url outbounds' hcall =>
      obtain ⟨rfl, rfl⟩ := Prod.mk.inj (Option.some.inj h)
      exact ⟨c, now, rfl, hcall, rfl⟩
    · cases h
  | _ => cases h

omit [DecidableEq κ] in
theorem onTime_of_ne_settle {s : TracedService κ} {label : SubscriptionStep κ}
    (h : ∀ c now, label ≠ .settle c now) : s.OnTime label := by
  intro call outbounds hsave
  obtain ⟨c, now, hlabel, -⟩ := saving_eq_some hsave
  exact absurd hlabel (h c now)

theorem outbounds_of_saving (stx : URLTestSyntax) {s : SubscriptionService κ}
    {label : SubscriptionStep κ} {call : RefreshCall} {outbounds : List Outbound}
    {sub : Subscription} (h : saving s label = some (call, outbounds))
    (hsub : SubscriptionManager.get call.id (s.step stx label).db = some sub) :
    sub.outbounds = outbounds.map storedOutbound := by
  obtain ⟨c, now, rfl, hcall, hdownloaded⟩ := saving_eq_some h
  obtain ⟨id, url, downloaded⟩ := call
  obtain rfl : downloaded = some (.ok outbounds) := hdownloaded
  simp only [SubscriptionService.step, hcall] at hsub
  cases hget : SubscriptionManager.get id s.db with
  | none =>
    simp only [SubscriptionManager.saveRefreshedSubscription, hget] at hsub
    change SubscriptionManager.get id s.db = some sub at hsub
    rw [hget] at hsub
    cases hsub
  | some old =>
    rw [SubscriptionManager.saveRefreshedSubscription_of_get now outbounds hget] at hsub
    simp only [committed, SubscriptionManager.get, GoMap.getElem?_insert, if_pos] at hsub
    rw [← Option.some.inj hsub, SubscriptionManager.refreshed]

/-- Without a save the outbounds of a record stay, as long as its URL does. -/
theorem outbounds_of_not_saving (stx : URLTestSyntax) {s : SubscriptionService κ}
    (hs : (settingsStore s.db).Sequenced) {label : SubscriptionStep κ} {id : String}
    {sub : Subscription} (h : (saving s label).map (fun save => save.1.id) ≠ some id)
    (hsub : SubscriptionManager.get id (s.step stx label).db = some sub)
    (hurl : storedURL id (s.step stx label).db = storedURL id s.db) :
    ∃ old, SubscriptionManager.get id s.db = some old ∧ old.outbounds = sub.outbounds := by
  by_cases htarget : SubscriptionService.target s label = some id
  case neg =>
    rw [SubscriptionService.get_step_of_ne stx s label htarget] at hsub
    exact ⟨sub, hsub, rfl⟩
  cases label with
  | create params =>
    -- the identifier is new, so its URL has changed
    obtain rfl : toString (s.db.sequence + 1) = id := Option.some.inj htarget
    have hnew : SubscriptionManager.get (toString (s.db.sequence + 1)) s.db = none := by
      rw [Option.eq_none_iff_forall_ne_some]
      intro old hold
      have hissued := hs (toString (s.db.sequence + 1)) (by
        rw [getElem?_settingsStore, hold]
        rfl)
      exact hissued.ne_next rfl
    simp only [storedURL, hsub, hnew, Option.map_some, Option.map_none] at hurl
    cases hurl
  | update id' params =>
    obtain rfl : id' = id := Option.some.inj htarget
    simp only [SubscriptionService.step, SubscriptionManager.update] at hsub
    cases hvalid : validateURLTestOverrides stx params.urltest with
    | error e =>
      rw [hvalid] at hsub
      exact ⟨sub, hsub, rfl⟩
    | ok u =>
      cases hget : SubscriptionManager.get id' s.db with
      | none =>
        rw [hvalid, hget] at hsub
        change SubscriptionManager.get id' s.db = some sub at hsub
        rw [hget] at hsub
        cases hsub
      | some old =>
        rw [hvalid, hget] at hsub
        simp only [bind, Except.bind, pure, Except.pure, committed, SubscriptionManager.get,
          GoMap.getElem?_insert, if_pos] at hsub
        exact ⟨old, rfl, by rw [← Option.some.inj hsub]⟩
  | delete id' =>
    obtain rfl : id' = id := Option.some.inj htarget
    simp only [SubscriptionService.step, SubscriptionManager.delete] at hsub
    cases hget : SubscriptionManager.get id' s.db with
    | none =>
      rw [hget] at hsub
      change SubscriptionManager.get id' s.db = some sub at hsub
      rw [hget] at hsub
      cases hsub
    | some old =>
      rw [hget] at hsub
      simp [committed, pure, Except.pure, SubscriptionManager.get] at hsub
  | read c id' => cases htarget
  | download c result => cases htarget
  | settle c now =>
    simp only [SubscriptionService.target] at htarget
    simp only [saving] at h
    simp only [SubscriptionService.step] at hsub
    split at hsub
    · next id' url message hcall =>
      rw [hcall] at htarget
      obtain rfl : id' = id := Option.some.inj htarget
      rw [SubscriptionManager.get_setError, if_pos rfl] at hsub
      obtain ⟨old, hold, rfl⟩ := Option.map_eq_some_iff.mp hsub
      exact ⟨old, hold, rfl⟩
    · next id' url outbounds hcall =>
      rw [hcall] at htarget h
      exact absurd htarget h
    · exact ⟨sub, hsub, rfl⟩

/-- What holds of every state: downloads are recorded, and a current call has the stored URL. -/
structure Consistent (s : TracedService κ) : Prop where
  recorded : ∀ c id url outbounds, s.service.calls c = some ⟨id, url, some (.ok outbounds)⟩ →
    (url, outbounds) ∈ s.fetched
  current_url : ∀ c call, s.service.calls c = some call → s.current c = true →
    storedURL call.id s.service.db = some call.url
  upToDate : s.UpToDate

/-- The calls in flight after a step: those before, one that has just read its URL, or one
whose download has just returned. -/
theorem calls_step (stx : URLTestSyntax) (s : SubscriptionService κ) (label : SubscriptionStep κ)
    {c : κ} {call : RefreshCall} (h : (s.step stx label).calls c = some call) :
    s.calls c = some call ∨
      (s.calls c = none ∧ call.downloaded = none ∧
        storedURL call.id (s.step stx label).db = some call.url) ∨
      ∃ result, label = .download c result ∧ s.calls c = some { call with downloaded := none } ∧
        call.downloaded = some result := by
  cases label with
  | create params => exact .inl h
  | update id params => exact .inl h
  | delete id => exact .inl h
  | read c' id =>
    simp only [SubscriptionService.step] at h ⊢
    split at h
    · next sub hcall hsub =>
      dsimp only at h
      by_cases hc : c = c'
      · subst hc
        rw [Function.update_self] at h
        obtain rfl := Option.some.inj h
        refine .inr (.inl ⟨hcall, rfl, ?_⟩)
        simp [storedURL, hsub]
      · rw [Function.update_of_ne hc] at h
        exact .inl h
    · exact .inl h
  | download c' result =>
    simp only [SubscriptionService.step] at h
    split at h
    · next id url hcall =>
      dsimp only at h
      by_cases hc : c = c'
      · subst hc
        rw [Function.update_self] at h
        obtain rfl := Option.some.inj h
        exact .inr (.inr ⟨result, rfl, hcall, rfl⟩)
      · rw [Function.update_of_ne hc] at h
        exact .inl h
    · exact .inl h
  | settle c' now =>
    have hcalls : ∀ {calls : κ → Option RefreshCall}, Function.update calls c' none c = some call →
        calls c = some call := by
      intro calls hupdate
      by_cases hc : c = c'
      · subst hc
        rw [Function.update_self] at hupdate
        cases hupdate
      · rwa [Function.update_of_ne hc] at hupdate
    simp only [SubscriptionService.step] at h
    split at h
    · exact .inl (hcalls h)
    · exact .inl (hcalls h)
    · exact .inl h

theorem fetched_subset_step (stx : URLTestSyntax) (s : TracedService κ)
    (label : SubscriptionStep κ) : s.fetched ⊆ (step stx s label).fetched := by
  intro fetch hfetch
  simp only [step]
  split
  · split
    · exact List.mem_cons_of_mem _ hfetch
    · exact hfetch
  · exact hfetch

theorem Consistent.recorded_step {s : TracedService κ} (h : s.Consistent) (stx : URLTestSyntax)
    (label : SubscriptionStep κ) {c : κ} {id url : String} {outbounds : List Outbound}
    (hcall : (step stx s label).service.calls c = some ⟨id, url, some (.ok outbounds)⟩) :
    (url, outbounds) ∈ (step stx s label).fetched := by
  obtain hold | ⟨-, hnone, -⟩ | ⟨result, rfl, hold, hresult⟩ := calls_step stx s.service label hcall
  · exact fetched_subset_step stx s label (h.recorded c id url outbounds hold)
  · cases hnone
  · obtain rfl := Option.some.inj hresult
    simp only [step, hold]
    exact List.mem_cons_self ..

theorem Consistent.current_url_step {s : TracedService κ} (h : s.Consistent)
    (stx : URLTestSyntax) (label : SubscriptionStep κ) {c : κ} {call : RefreshCall}
    (hcall : (step stx s label).service.calls c = some call)
    (hcurrent : (step stx s label).current c = true) :
    storedURL call.id (step stx s label).service.db = some call.url := by
  have hkept : ∀ old : RefreshCall, s.service.calls c = some old → old.id = call.id →
      old.url = call.url → storedURL call.id (step stx s label).service.db = some call.url := by
    intro old hold hid hurl
    change (s.service.step stx label).calls c = some call at hcall
    simp only [step, hold, hcall, Bool.and_eq_true, Bool.not_eq_true', decide_eq_false_iff_not,
      not_not] at hcurrent ⊢
    rw [hcurrent.2, ← hid, ← hurl]
    exact h.current_url c old hold hcurrent.1
  obtain hold | ⟨-, -, hurl⟩ | ⟨result, rfl, hold, -⟩ := calls_step stx s.service label hcall
  · exact hkept call hold rfl rfl
  · exact hurl
  · exact hkept _ hold rfl rfl

theorem Consistent.upToDate_step {s : TracedService κ} (h : s.Consistent) (stx : URLTestSyntax)
    (hs : (settingsStore s.service.db).Sequenced) {label : SubscriptionStep κ}
    (honTime : s.OnTime label) : (step stx s label).UpToDate := by
  intro id sub hsub hfresh
  simp only [step, Bool.and_eq_true, Bool.not_eq_true', decide_eq_false_iff_not, not_not,
    Bool.or_eq_true] at hfresh
  obtain ⟨hurl, hfresh⟩ := hfresh
  by_cases hsaving : (saving s.service label).map (fun save => save.1.id) = some id
  · -- the step replaces the outbounds of the record
    obtain ⟨⟨call, outbounds⟩, hsave, rfl⟩ := Option.map_eq_some_iff.mp hsaving
    obtain ⟨c, now, rfl, hcall, hdownloaded⟩ := saving_eq_some hsave
    have hcallURL : storedURL call.id s.service.db = some call.url := by
      rcases hfresh with hfresh | hfresh
      · exact honTime call outbounds hsave hfresh
      · simp only [Bool.and_eq_true] at hfresh
        exact h.current_url c call hcall hfresh.1
    have hsubURL : sub.url = call.url := by
      rw [hcallURL] at hurl
      simp only [storedURL] at hurl
      change SubscriptionManager.get call.id (s.service.step stx _).db = some sub at hsub
      rw [hsub] at hurl
      exact Option.some.inj hurl
    refine ⟨outbounds, ?_, outbounds_of_saving stx hsave hsub⟩
    rw [hsubURL]
    refine fetched_subset_step stx s _ (h.recorded c call.id call.url outbounds ?_)
    rw [hcall, ← hdownloaded]
  · -- the outbounds stay, and so does the URL
    obtain ⟨old, hold, houtbounds⟩ := outbounds_of_not_saving stx hs hsaving hsub hurl
    have holdURL : old.url = sub.url := by
      simp only [storedURL, hold] at hurl
      change SubscriptionManager.get id (s.service.step stx label).db = some sub at hsub
      rw [hsub] at hurl
      exact (Option.some.inj hurl).symm
    have hfreshBefore : s.fresh id = true := by
      rcases hfresh with hfresh | hfresh
      · exact hfresh
      · exfalso
        split at hfresh
        · simp only [Bool.and_eq_true, decide_eq_true_eq] at hfresh
          exact hsaving hfresh.2
        · cases hfresh
    obtain ⟨outbounds, hfetched, heq⟩ := h.upToDate id old hold hfreshBefore
    exact ⟨outbounds, fetched_subset_step stx s label (holdURL ▸ hfetched), houtbounds ▸ heq⟩

theorem Consistent.step {s : TracedService κ} (h : s.Consistent) (stx : URLTestSyntax)
    (hs : (settingsStore s.service.db).Sequenced) {label : SubscriptionStep κ}
    (honTime : s.OnTime label) : (step stx s label).Consistent where
  recorded _ _ _ _ hcall := h.recorded_step stx label hcall
  current_url _ _ hcall hcurrent := h.current_url_step stx label hcall hcurrent
  upToDate := h.upToDate_step stx hs honTime

omit [DecidableEq κ] in
theorem untraced_consistent {s : SubscriptionService κ} (hidle : ∀ c, s.calls c = none) :
    (untraced s).Consistent where
  recorded c id url outbounds hcall := by
    rw [show (untraced s).service.calls c = none from hidle c] at hcall
    cases hcall
  current_url c call hcall := by
    rw [show (untraced s).service.calls c = none from hidle c] at hcall
    cases hcall
  upToDate id sub hsub hfresh := by cases hfresh

end TracedService

/-- In a run whose saves are on time, every subscription that a refresh has brought up to date
holds what a download of the stored URL returned. -/
theorem refreshes_upToDate [DecidableEq κ] (stx : URLTestSyntax) {s : SubscriptionService κ}
    (hs : (settingsStore s.db).Sequenced) (hidle : ∀ c, s.calls c = none)
    {labels : List (SubscriptionStep κ)}
    (honTime : Along (TracedService.step stx) TracedService.OnTime (.untraced s) labels) :
    (run (TracedService.step stx) (.untraced s) labels).UpToDate := by
  have hstep (t : TracedService κ) (label : SubscriptionStep κ) (hlabel : t.OnTime label)
      (ht : (settingsStore t.service.db).Sequenced ∧ t.Consistent) :
      (settingsStore (t.step stx label).service.db).Sequenced ∧ (t.step stx label).Consistent :=
    ⟨SubscriptionService.sequenced_step stx ht.1 label, ht.2.step stx ht.1 hlabel⟩
  exact (run_along hstep honTime ⟨hs, TracedService.untraced_consistent hidle⟩).2.upToDate

def node (tag : String) : Outbound := ⟨tag, "trojan", "1.2.3.4", 443, .null⟩

/-- A new subscription is refreshed once. -/
def refreshedOnce : List (SubscriptionStep Bool) :=
  [.create ⟨"home", "https://one.test/sub", 60, none⟩, .read false "1",
    .download false (.ok [node "one"]), .settle false 5]

theorem refreshedOnce_upToDate :
    (run (TracedService.step lenientURLTest) (.untraced ⟨emptyDatabase, fun _ => none⟩)
      refreshedOnce).UpToDate := by
  have honTime : Along (TracedService.step lenientURLTest) TracedService.OnTime
      (.untraced ⟨emptyDatabase, fun _ => none⟩) refreshedOnce := by
    refine ⟨?_, ?_, ?_, ?_, trivial⟩
    · exact TracedService.onTime_of_ne_settle nofun
    · exact TracedService.onTime_of_ne_settle nofun
    · exact TracedService.onTime_of_ne_settle nofun
    intro call outbounds hsave hfresh
    obtain ⟨rfl, rfl⟩ := Prod.mk.inj (Option.some.inj hsave)
    cases hfresh
  exact refreshes_upToDate lenientURLTest emptyDatabase_sequenced (fun _ => rfl) honTime

/-- A refresh reads the first URL, and ends after the URL was changed and refreshed again. -/
def lateSave : List (SubscriptionStep Bool) :=
  [.create ⟨"home", "https://one.test/sub", 60, none⟩, .read false "1",
    .update "1" ⟨"", "https://two.test/sub", 0, none⟩, .read true "1",
    .download true (.ok [node "two"]), .settle true 5,
    .download false (.ok [node "one"]), .settle false 6]

/-- Nothing is in flight any more, and the second URL is stored with the nodes of the first. -/
theorem lateSave_not_upToDate :
    let last := run (TracedService.step lenientURLTest)
      (.untraced ⟨emptyDatabase, fun _ => none⟩) lateSave
    (∀ c, last.service.calls c = none) ∧ ¬last.UpToDate := by
  constructor
  · intro c
    cases c <;> rfl
  intro h
  obtain ⟨outbounds, hfetched, heq⟩ := h "1" _ rfl rfl
  have hurl : ("https://two.test/sub", outbounds) ∈
      [("https://one.test/sub", [node "one"]), ("https://two.test/sub", [node "two"])] := hfetched
  simp only [List.mem_cons, Prod.mk.injEq, List.not_mem_nil, or_false] at hurl
  obtain ⟨hbad, -⟩ | ⟨-, rfl⟩ := hurl
  · exact absurd hbad (by decide)
  · have htags := congrArg (List.map Outbound.tag) heq
    exact absurd htags (by decide)

end Boxui.Core
