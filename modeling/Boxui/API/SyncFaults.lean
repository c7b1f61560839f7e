import Boxui.API.SyncCommit

/-! A synchronisation in which the encoders may fail as well. The encoders of the model cannot:
they meet only what was decoded before. The source handles their errors, and so does this
version, which is the other one when they do not fail. -/
namespace Boxui.API
open GoValue Boxui.Core

variable {Bytes : Type*}

/-- Which encodings fail: of the raw configuration of an outbound, and of the configuration.
That of the group list is part of storing it. -/
structure EncodeOutcome where
  raw : Outbound → Bool
  config : Bool

inductive SyncFault where
  | encodeRaw (tag : String)
  | encodeConfig
  | sync (e : SyncError)
  deriving DecidableEq, Repr

/-- Only a raw configuration that is present is encoded. -/
def encodeRawFails (enc : EncodeOutcome) (outbound : Outbound) : Bool :=
  match outbound.raw with
  | .null => false
  | _ => enc.raw outbound

def buildEncodedOutbound (enc : EncodeOutcome) (existing : Option Object) (outbound : Outbound) :
    Except SyncFault Object :=
  if encodeRawFails enc outbound then .error (.encodeRaw outbound.tag)
  else (buildManagedOutbound existing outbound).mapError .sync

def appendEncodedOutbounds (enc : EncodeOutcome) (existingByTag : GoMap Object) :
    List Value → List Outbound → Except SyncFault (List Value)
  | outbounds, [] => pure outbounds
  | outbounds, outbound :: managed => do
    let entry ← buildEncodedOutbound enc existingByTag[outbound.tag]? outbound
    appendEncodedOutbounds enc existingByTag (outbounds ++ [Object.toValue entry]) managed

def appendEncodedSubscriptions (enc : EncodeOutcome) (existingByTag : GoMap Object) :
    List Value → List Subscription → Except SyncFault (List Value)
  | outbounds, [] => pure outbounds
  | outbounds, subscription :: subscriptions => do
    let outbounds ← appendEncodedOutbounds enc existingByTag outbounds subscription.outbounds
    appendEncodedSubscriptions enc existingByTag outbounds subscriptions

def syncEncodedOutbounds (enc : EncodeOutcome) (input : SyncInput) (config : Object) :
    Except SyncFault (Object × List String) := do
  let existing := existingOutbounds config
  let existingByTag := indexExistingOutbounds existing
  let managedGroups := managedURLTestTags input.previousGroups input.subscriptions
  let outbounds := preserveExistingOutbounds existing managedGroups
  let outbounds ← appendEncodedOutbounds enc existingByTag outbounds input.nodes
  let outbounds ← appendEncodedSubscriptions enc existingByTag outbounds input.subscriptions
  let proxyTags := collectProxyTags outbounds (subscriptionMemberTags input.subscriptions)
  let builder : SubscriptionGroupBuilder := ⟨input.defaults, existingByTag⟩
  let (outbounds, groupTags) := builder.append outbounds input.subscriptions
  let outbounds := upsertProxySelector outbounds groupTags proxyTags
  let config := config.insert "outbounds" (.list outbounds)
  return (ensureRouteFinal config, groupTags)

def SyncCommit.writeEncoded (codec : JSONCodec Bytes) (enc : EncodeOutcome) (o : SyncOutcome)
    (c : SyncCommit Bytes) (config : Object) (groupTags : List String) (s : SyncState Bytes) :
    SyncState Bytes × Except SyncFault Unit :=
  if enc.config then (s, .error .encodeConfig)
  else
    let r := SyncCommit.write codec o c config groupTags s
    (r.1, r.2.mapError .sync)

def syncEncodedToConfig (codec : JSONCodec Bytes) (enc : EncodeOutcome) (o : SyncOutcome)
    (s : SyncState Bytes) : SyncState Bytes × Except SyncFault Unit :=
  match readSyncConfig codec o s.dir with
  | .error e => (s, .error (.sync e))
  | .ok (config, previous) =>
    if o.urlTestDefaults then (s, .error (.sync .urlTestDefaults))
    else if o.managedGroups then (s, .error (.sync .managedGroups))
    else if o.listSubscriptions then (s, .error (.sync .listSubscriptions))
    else
      match syncEncodedOutbounds enc (syncInput s.db) (config.getD ∅) with
      | .error e => (s, .error e)
      | .ok (synced, groupTags) =>
        match config with
        | none => (s, .error (.sync .nilConfig))
        | some _ => SyncCommit.writeEncoded codec enc o ⟨previous⟩ synced groupTags s

def EncodeOutcome.clean : EncodeOutcome := ⟨fun _ => false, false⟩

theorem mapError_bind {ε ε' : Type*} {α β : Type _} (g : ε → ε') (x : Except ε α)
    (f : α → Except ε β) :
    (x >>= f).mapError g = x.mapError g >>= fun a => (f a).mapError g := by
  cases x <;> rfl

theorem buildEncodedOutbound_clean (existing : Option Object) (outbound : Outbound) :
    buildEncodedOutbound .clean existing outbound =
      (buildManagedOutbound existing outbound).mapError .sync := by
  have hclean : encodeRawFails .clean outbound = false := by
    unfold encodeRawFails
    split <;> rfl
  rw [buildEncodedOutbound, hclean]
  rfl

theorem appendEncodedOutbounds_clean (existingByTag : GoMap Object) (outbounds : List Value)
    (managed : List Outbound) :
    appendEncodedOutbounds .clean existingByTag outbounds managed =
      (appendManagedOutbounds existingByTag outbounds managed).mapError .sync := by
  induction managed generalizing outbounds with
  | nil => rfl
  | cons outbound managed ih =>
    simp only [appendEncodedOutbounds, appendManagedOutbounds, buildEncodedOutbound_clean,
      mapError_bind, ih]

theorem appendEncodedSubscriptions_clean (existingByTag : GoMap Object)
    (outbounds : List Value) (subscriptions : List Subscription) :
    appendEncodedSubscriptions .clean existingByTag outbounds subscriptions =
      (appendSubscriptionOutbounds existingByTag outbounds subscriptions).mapError .sync := by
  induction subscriptions generalizing outbounds with
  | nil => rfl
  | cons subscription subscriptions ih =>
    simp only [appendEncodedSubscriptions, appendSubscriptionOutbounds,
      appendEncodedOutbounds_clean, mapError_bind, ih]

theorem syncEncodedOutbounds_clean (input : SyncInput) (config : Object) :
    syncEncodedOutbounds .clean input config = (syncOutbounds input config).mapError .sync := by
  simp only [syncEncodedOutbounds, syncOutbounds, appendEncodedOutbounds_clean,
    appendEncodedSubscriptions_clean, mapError_bind]
  rfl

/-- When no encoder fails, this is the synchronisation of the other modules. -/
theorem syncEncodedToConfig_clean (codec : JSONCodec Bytes) (o : SyncOutcome)
    (s : SyncState Bytes) :
    syncEncodedToConfig codec .clean o s =
      ((syncOutboundsToConfig codec o s).1,
        (syncOutboundsToConfig codec o s).2.mapError .sync) := by
  unfold syncEncodedToConfig syncOutboundsToConfig
  cases readSyncConfig codec o s.dir with
  | error e => rfl
  | ok read =>
    obtain ⟨config, previous⟩ := read
    dsimp only
    split_ifs
    · rfl
    · rfl
    · rfl
    · rw [syncEncodedOutbounds_clean]
      cases syncOutbounds (syncInput s.db) (config.getD ∅) with
      | error e => rfl
      | ok synced => cases config <;> rfl

/-- A write none of whose own steps fails leaves its body in the file. -/
theorem atomicWriteFile_of_not_writeFails {fails : WriteStep → Bool}
    (hfails : writeFails fails = false) (body : Bytes) (dir : Directory Bytes) :
    (atomicWriteFile fails body dir).2 = .ok () ∧
      (atomicWriteFile fails body dir).1.target = some body := by
  rcases atomicWriteFile_cases fails body dir with h | ⟨step, -, herr, -⟩
  · exact h
  · have hok := atomicWriteFile_isOk fails body dir
    rw [herr, hfails] at hok
    cases hok

/-- The commit that fails leaves the file as it found it: the write was refused, or what the
file held has been put back. -/
theorem SyncCommit.write_error {codec : JSONCodec Bytes} {o : SyncOutcome}
    {c : SyncCommit Bytes} {config : Object} {groupTags : List String} {s : SyncState Bytes}
    {e : SyncError} (hrollback : writeFails o.rollback = false)
    (hprevious : s.dir.target = some c.previous)
    (herr : (SyncCommit.write codec o c config groupTags s).2 = .error e) :
    (SyncCommit.write codec o c config groupTags s).1.dir.target = s.dir.target ∧
      (SyncCommit.write codec o c config groupTags s).1.db = s.db := by
  unfold SyncCommit.write at herr ⊢
  dsimp only at herr ⊢
  rcases hw : atomicWriteFile o.write (codec.marshal (Object.toValue config)) s.dir with
    ⟨dir, _ | _⟩
  · have hkept := atomicWriteFile_error (congrArg Prod.snd hw)
    rw [hw] at hkept
    exact ⟨hkept, rfl⟩
  · rw [hw] at herr
    dsimp only at herr ⊢
    by_cases hsave : o.saveGroups = true
    · have hback := atomicWriteFile_of_not_writeFails hrollback c.previous dir
      rw [if_pos hsave]
      rcases hb : atomicWriteFile o.rollback c.previous dir with ⟨dir', _ | _⟩
      · rw [hb] at hback
        cases hback.1
      · rw [hb] at hback
        exact ⟨hback.2.trans hprevious.symm, rfl⟩
    · rw [if_neg hsave] at herr
      cases herr

/-- Whatever fails, a synchronisation that returns an error leaves the configuration file and
the stored group list as they were, as long as the write of the rollback succeeds. -/
theorem syncEncodedToConfig_atomic (codec : JSONCodec Bytes) (enc : EncodeOutcome)
    (o : SyncOutcome) (s : SyncState Bytes) (hrollback : writeFails o.rollback = false)
    (e : SyncFault) (herr : (syncEncodedToConfig codec enc o s).2 = .error e) :
    (syncEncodedToConfig codec enc o s).1.dir.target = s.dir.target ∧
      (syncEncodedToConfig codec enc o s).1.db = s.db := by
  unfold syncEncodedToConfig at herr ⊢
  cases hread : readSyncConfig codec o s.dir with
  | error e => exact ⟨rfl, rfl⟩
  | ok read =>
    obtain ⟨config, previous⟩ := read
    obtain ⟨-, htarget, -⟩ := readSyncConfig_ok_iff.mp hread
    rw [hread] at herr
    dsimp only at herr ⊢
    split_ifs at herr ⊢
    · exact ⟨rfl, rfl⟩
    · exact ⟨rfl, rfl⟩
    · exact ⟨rfl, rfl⟩
    · cases hsync : syncEncodedOutbounds enc (syncInput s.db) (config.getD ∅) with
      | error e => exact ⟨rfl, rfl⟩
      | ok synced =>
        rw [hsync] at herr
        cases config with
        | none => exact ⟨rfl, rfl⟩
        | some config =>
          dsimp only [SyncCommit.writeEncoded] at herr ⊢
          split_ifs at herr ⊢
          · exact ⟨rfl, rfl⟩
          · cases hwrite : (SyncCommit.write codec o ⟨previous⟩ synced.1 synced.2 s).2 with
            | ok u =>
              rw [hwrite] at herr
              cases herr
            | error e' => exact SyncCommit.write_error hrollback htarget hwrite

/-- The group list cannot be stored when the file is already written. -/
def unsavedGroups : SyncOutcome := { SyncOutcome.clean with saveGroups := true }

def blankState : SyncState { v : Value // v.json = v } where
  dir := ⟨some (documentCodec.marshal (Object.toValue ∅)), none⟩
  db := emptyDatabase

theorem unsavedGroups_atomic :
    (syncEncodedToConfig documentCodec .clean unsavedGroups blankState).1.dir.target =
        blankState.dir.target ∧
      (syncEncodedToConfig documentCodec .clean unsavedGroups blankState).1.db =
        blankState.db :=
  syncEncodedToConfig_atomic documentCodec .clean unsavedGroups blankState rfl
    (.sync .saveGroups) rfl

end Boxui.API
