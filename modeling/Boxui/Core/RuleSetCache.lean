import Boxui.Core.Stores
import Boxui.Library.GoBinary

/-! The cache of the remote rule-sets, which the kernel shares: its binary records and the
bucket they are kept in. -/
namespace Boxui.Core
open GoValue GoBinary ByteReader

/-- An instant: the seconds that `Unix` returns, and what is left. -/
structure GoTime where
  sec : Int64
  nsec : Fin 1000000000
  deriving DecidableEq

/-- `time.Unix(sec, 0)`. -/
def GoTime.unix (sec : Int64) : GoTime := ⟨sec, 0⟩

/-- The last whole second. -/
def GoTime.truncate (t : GoTime) : GoTime := GoTime.unix t.sec

structure SavedRuleSetBinary where
  content : GoBytes
  lastUpdated : GoTime
  lastEtag : GoBytes
  deriving DecidableEq

namespace SavedRuleSetBinary

def marshalBinary (s : SavedRuleSetBinary) : List UInt8 :=
  [1] ++ (writeBytes s.content ++ (writeInt64 s.lastUpdated.sec ++ writeBytes s.lastEtag))

/-- The version is read and not looked at. -/
def read : Reader ReadError SavedRuleSetBinary := do
  let _version ← readFull 1
  let content ← readBytes
  let lastUpdated ← readInt64
  let lastEtag ← readBytes
  return ⟨content, GoTime.unix lastUpdated, lastEtag⟩

/-- What follows the record is left unread. -/
def unmarshalBinary (data : List UInt8) : Except ReadError SavedRuleSetBinary :=
  match read.run data with
  | .error e => .error e
  | .ok (s, _) => .ok s

/-- The record as its encoding keeps it. -/
def truncate (s : SavedRuleSetBinary) : SavedRuleSetBinary :=
  { s with lastUpdated := s.lastUpdated.truncate }

theorem reads_read (s : SavedRuleSetBinary) : ReadsBack read s.marshalBinary s.truncate := by
  refine (reads_readFull ⟨[1], rfl⟩).bind ?_
  refine (reads_readBytes s.content).bind ?_
  refine (reads_readInt64 s.lastUpdated.sec).bind ?_
  have hlast : ReadsBack (do
      let lastEtag ← readBytes
      return (⟨s.content, GoTime.unix s.lastUpdated.sec, lastEtag⟩ : SavedRuleSetBinary))
      (writeBytes s.lastEtag ++ []) s.truncate := (reads_readBytes s.lastEtag).bind (Reads.pure _)
  rwa [List.append_nil] at hlast

theorem unmarshalBinary_marshalBinary (s : SavedRuleSetBinary) (rest : List UInt8) :
    unmarshalBinary (s.marshalBinary ++ rest) = .ok s.truncate := by
  rw [unmarshalBinary, (reads_read s).exact]

/-- A record that is cut short is refused with an error. -/
theorem unmarshalBinary_cut {s : SavedRuleSetBinary} {pre : List UInt8}
    (hpre : pre <+: s.marshalBinary) (hne : pre ≠ s.marshalBinary) :
    ∃ e, unmarshalBinary pre = .error e ∧ e ≠ .makeslice := by
  obtain ⟨e, he, hpanic⟩ := (reads_read s).cut pre hpre hne
  exact ⟨e, by rw [unmarshalBinary, he], hpanic⟩

theorem marshalBinary_ne_nil (s : SavedRuleSetBinary) (rest : List UInt8) :
    s.marshalBinary ++ rest ≠ [] := List.cons_ne_nil _ _

end SavedRuleSetBinary

/-- The bucket of the rule-sets, once something has created it. -/
abbrev RuleSetCache := Option (GoMap (List UInt8))

inductive RuleSetCacheError where
  | cacheDisabled
  | decode (e : ReadError)
  | keyRequired
  | keyTooLarge
  | valueTooLarge
  | commit
  deriving DecidableEq, Repr

/-- Whether opening the database and committing the transaction fail. -/
structure RuleSetCacheOutcome where
  openFails : Bool
  commitFails : Bool

/-- The largest value of a bucket, in bytes. -/
def maxValueSize : Nat := 2 ^ 31 - 2

/-- `Bucket.Put`. -/
def putRuleSet (tag : String) (payload : List UInt8) (bucket : GoMap (List UInt8)) :
    Except RuleSetCacheError (GoMap (List UInt8)) :=
  if tag = "" then .error .keyRequired
  else if maxKeySize < tag.utf8ByteSize then .error .keyTooLarge
  else if maxValueSize < payload.length then .error .valueTooLarge
  else .ok (bucket.insert tag payload)

/-- A missing, empty or refused record is no record; the panic of a reader goes through. -/
def loadRuleSetCache (tag : String) (cache : RuleSetCache) :
    Except ReadError (Option SavedRuleSetBinary) :=
  match cache.bind fun bucket => bucket[tag]? with
  | none | some [] => .ok none
  | some data =>
    match SavedRuleSetBinary.unmarshalBinary data with
    | .ok saved => .ok (some saved)
    | .error .makeslice => .error .makeslice
    | .error _ => .ok none

/-- The transaction of a put; nothing of it stays when it fails. -/
def commitRuleSet (o : RuleSetCacheOutcome) (tag : String) (payload : List UInt8)
    (bucket : GoMap (List UInt8)) (cache : RuleSetCache) :
    RuleSetCache × Except RuleSetCacheError Unit :=
  match putRuleSet tag payload bucket with
  | .error e => (cache, .error e)
  | .ok bucket => if o.commitFails then (cache, .error .commit) else (some bucket, .ok ())

def saveRemoteCache (o : RuleSetCacheOutcome) (tag : String) (content etag : GoBytes)
    (updated : GoTime) (cache : RuleSetCache) : RuleSetCache × Except RuleSetCacheError Unit :=
  if o.openFails then (cache, .error .cacheDisabled)
  else
    let saved : SavedRuleSetBinary := ⟨content, updated, etag⟩
    commitRuleSet o tag saved.marshalBinary (cache.getD ∅) cache

def touchRemoteCache (o : RuleSetCacheOutcome) (tag : String) (updated : GoTime)
    (cache : RuleSetCache) : RuleSetCache × Except RuleSetCacheError Unit :=
  if o.openFails then (cache, .error .cacheDisabled)
  else
    match cache with
    | none => (cache, if o.commitFails then .error .commit else .ok ())
    | some bucket =>
      match bucket[tag]? with
      | none | some [] => (cache, if o.commitFails then .error .commit else .ok ())
      | some data =>
        match SavedRuleSetBinary.unmarshalBinary data with
        | .error e => (cache, .error (.decode e))
        | .ok saved =>
          let saved := { saved with lastUpdated := updated }
          commitRuleSet o tag saved.marshalBinary bucket cache

/-- The database can be opened, the bucket takes the key and the value, and the transaction is
committed. -/
structure RuleSetCacheOutcome.Stores (o : RuleSetCacheOutcome) (tag : String)
    (payload : List UInt8) : Prop where
  opens : o.openFails = false
  key : tag ≠ ""
  keySize : tag.utf8ByteSize ≤ maxKeySize
  valueSize : payload.length ≤ maxValueSize
  commits : o.commitFails = false

/-- A commit fails and nothing of it stays, unless everything it needs holds. -/
theorem commitRuleSet_cases {o : RuleSetCacheOutcome} (hopen : o.openFails = false) (tag : String)
    (payload : List UInt8) (bucket : GoMap (List UInt8)) (cache : RuleSetCache) :
    (¬o.Stores tag payload ∧ ∃ e, commitRuleSet o tag payload bucket cache = (cache, .error e)) ∨
      (o.Stores tag payload ∧
        commitRuleSet o tag payload bucket cache = (some (bucket.insert tag payload), .ok ())) := by
  by_cases hkey : tag = ""
  · refine .inl ⟨fun h => h.key hkey, .keyRequired, ?_⟩
    rw [commitRuleSet, putRuleSet, if_pos hkey]
  by_cases hsize : maxKeySize < tag.utf8ByteSize
  · refine .inl ⟨fun h => Nat.not_le_of_lt hsize h.keySize, .keyTooLarge, ?_⟩
    rw [commitRuleSet, putRuleSet, if_neg hkey, if_pos hsize]
  by_cases hvalue : maxValueSize < payload.length
  · refine .inl ⟨fun h => Nat.not_le_of_lt hvalue h.valueSize, .valueTooLarge, ?_⟩
    rw [commitRuleSet, putRuleSet, if_neg hkey, if_neg hsize, if_pos hvalue]
  have hput : putRuleSet tag payload bucket = .ok (bucket.insert tag payload) := by
    rw [putRuleSet, if_neg hkey, if_neg hsize, if_neg hvalue]
  cases hcommit : o.commitFails with
  | true =>
    refine .inl ⟨fun h => ?_, .commit, ?_⟩
    · rw [h.commits] at hcommit
      cases hcommit
    · rw [commitRuleSet, hput]
      exact if_pos hcommit
  | false =>
    refine .inr ⟨⟨hopen, hkey, Nat.le_of_not_lt hsize, Nat.le_of_not_lt hvalue, hcommit⟩, ?_⟩
    rw [commitRuleSet, hput]
    exact if_neg (by rw [hcommit]; exact Bool.false_ne_true)

/-- A transaction that was opened fails with an error of its own. -/
theorem commitRuleSet_error {o : RuleSetCacheOutcome} {tag : String} {payload : List UInt8}
    {bucket : GoMap (List UInt8)} {cache : RuleSetCache} {e : RuleSetCacheError}
    (h : (commitRuleSet o tag payload bucket cache).2 = .error e) :
    e ≠ .cacheDisabled ∧ ∀ e', e ≠ .decode e' := by
  unfold commitRuleSet putRuleSet at h
  split_ifs at h <;> cases h <;> simp

/-- An encoding is loaded as the record it stands for, whatever follows it in the value. -/
theorem loadRuleSetCache_encoding {tag : String} {cache : RuleSetCache}
    (saved : SavedRuleSetBinary) (rest : List UInt8)
    (h : (cache.bind fun bucket => bucket[tag]?) = some (saved.marshalBinary ++ rest)) :
    loadRuleSetCache tag cache = .ok (some saved.truncate) := by
  obtain ⟨b, data, hdata⟩ := List.exists_cons_of_ne_nil (saved.marshalBinary_ne_nil rest)
  have hread := saved.unmarshalBinary_marshalBinary rest
  rw [hdata] at hread h
  rw [loadRuleSetCache, h]
  simp only [hread]

theorem loadRuleSetCache_other {tag other : String} (hne : other ≠ tag) (payload : List UInt8)
    (cache : RuleSetCache) :
    loadRuleSetCache other (some ((cache.getD ∅).insert tag payload)) =
      loadRuleSetCache other cache := by
  unfold loadRuleSetCache
  cases cache with
  | none => simp [Ne.symm hne]
  | some bucket => simp [Ne.symm hne]

/-- A save that cannot be stored returns an error and changes nothing. Any other is loaded again as
it was made, with the time cut to whole seconds, and every other tag is as before. -/
theorem saveRemoteCache_cases (o : RuleSetCacheOutcome) (tag : String) (content etag : GoBytes)
    (updated : GoTime) (cache : RuleSetCache) :
    (¬o.Stores tag (SavedRuleSetBinary.marshalBinary ⟨content, updated, etag⟩) ∧
      ∃ e, saveRemoteCache o tag content etag updated cache = (cache, .error e)) ∨
    (o.Stores tag (SavedRuleSetBinary.marshalBinary ⟨content, updated, etag⟩) ∧
      (saveRemoteCache o tag content etag updated cache).2 = .ok () ∧
      loadRuleSetCache tag (saveRemoteCache o tag content etag updated cache).1 =
        .ok (some ⟨content, updated.truncate, etag⟩) ∧
      ∀ other, other ≠ tag →
        loadRuleSetCache other (saveRemoteCache o tag content etag updated cache).1 =
          loadRuleSetCache other cache) := by
  unfold saveRemoteCache
  cases hopen : o.openFails with
  | true => exact .inl ⟨fun h => by simp [h.opens] at hopen, _, rfl⟩
  | false =>
    rw [if_neg Bool.false_ne_true]
    dsimp only
    rcases commitRuleSet_cases hopen tag
        (SavedRuleSetBinary.marshalBinary ⟨content, updated, etag⟩) (cache.getD ∅) cache with
      hfails | ⟨hstores, hok⟩
    · exact .inl hfails
    · rw [hok]
      refine .inr ⟨hstores, rfl, ?_, fun other hne => loadRuleSetCache_other hne _ cache⟩
      exact loadRuleSetCache_encoding ⟨content, updated, etag⟩ [] (by simp)

theorem loadRuleSetCache_eq_some {tag : String} {cache : RuleSetCache}
    {saved : SavedRuleSetBinary} (h : loadRuleSetCache tag cache = .ok (some saved)) :
    ∃ bucket data, cache = some bucket ∧ bucket[tag]? = some data ∧ data ≠ [] ∧
      SavedRuleSetBinary.unmarshalBinary data = .ok saved := by
  unfold loadRuleSetCache at h
  split at h
  · cases h
  · cases h
  · rename_i data hne hstored
    obtain ⟨bucket, rfl, hdata⟩ := Option.bind_eq_some_iff.mp hstored
    refine ⟨bucket, data, rfl, hdata, fun hnil => hne (by simpa using hnil), ?_⟩
    split at h
    · rename_i hread
      cases h
      exact hread
    · cases h
    · cases h

/-- A touch of a record that can be read: it reports that the database is closed, or another
error, or changes the time of the record and nothing else. -/
theorem touchRemoteCache_loaded (o : RuleSetCacheOutcome) {tag : String} (updated : GoTime)
    {cache : RuleSetCache} {saved : SavedRuleSetBinary}
    (hload : loadRuleSetCache tag cache = .ok (some saved)) :
    (o.openFails = true ∧ touchRemoteCache o tag updated cache = (cache, .error .cacheDisabled)) ∨
    (o.openFails = false ∧
      ¬o.Stores tag (SavedRuleSetBinary.marshalBinary { saved with lastUpdated := updated }) ∧
      ∃ e, touchRemoteCache o tag updated cache = (cache, .error e) ∧ e ≠ .cacheDisabled ∧
        e ≠ .decode .makeslice) ∨
    (o.Stores tag (SavedRuleSetBinary.marshalBinary { saved with lastUpdated := updated }) ∧
      ∃ cache', touchRemoteCache o tag updated cache = (cache', .ok ()) ∧
        loadRuleSetCache tag cache' =
          .ok (some { saved with lastUpdated := updated.truncate }) ∧
        ∀ other, other ≠ tag → loadRuleSetCache other cache' = loadRuleSetCache other cache) := by
  obtain ⟨bucket, data, rfl, hdata, hne, hread⟩ := loadRuleSetCache_eq_some hload
  obtain ⟨b, data, rfl⟩ := List.exists_cons_of_ne_nil hne
  unfold touchRemoteCache
  cases hopen : o.openFails with
  | true => exact .inl ⟨rfl, rfl⟩
  | false =>
    rw [if_neg Bool.false_ne_true]
    simp only [hdata, hread]
    rcases commitRuleSet_cases hopen tag
        (SavedRuleSetBinary.marshalBinary { saved with lastUpdated := updated }) bucket
        (some bucket) with ⟨hfails, e, he⟩ | ⟨hstores, hok⟩
    · obtain ⟨hdisabled, hdecode⟩ := commitRuleSet_error (congrArg Prod.snd he)
      exact .inr (.inl ⟨trivial, hfails, e, he, hdisabled, hdecode .makeslice⟩)
    · refine .inr (.inr ⟨hstores, _, hok, ?_, ?_⟩)
      · exact loadRuleSetCache_encoding { saved with lastUpdated := updated } [] (by simp)
      · exact fun other hother => loadRuleSetCache_other hother _ (some bucket)

/-- A touch of a stored encoding that cannot be stored again returns an error and changes nothing.
Any other changes the time of that record and no other record. -/
theorem touchRemoteCache_cases (o : RuleSetCacheOutcome) {tag : String} (updated : GoTime)
    {bucket : GoMap (List UInt8)} {saved : SavedRuleSetBinary} {rest : List UInt8}
    (hstored : bucket[tag]? = some (saved.marshalBinary ++ rest)) :
    (¬o.Stores tag (SavedRuleSetBinary.marshalBinary { saved with lastUpdated := updated }) ∧
      ∃ e, touchRemoteCache o tag updated (some bucket) = (some bucket, .error e)) ∨
    (o.Stores tag (SavedRuleSetBinary.marshalBinary { saved with lastUpdated := updated }) ∧
      (touchRemoteCache o tag updated (some bucket)).2 = .ok () ∧
      loadRuleSetCache tag (touchRemoteCache o tag updated (some bucket)).1 =
        .ok (some { saved.truncate with lastUpdated := updated.truncate }) ∧
      ∀ other, other ≠ tag →
        loadRuleSetCache other (touchRemoteCache o tag updated (some bucket)).1 =
          loadRuleSetCache other (some bucket)) := by
  have hload : loadRuleSetCache tag (some bucket) = .ok (some saved.truncate) :=
    loadRuleSetCache_encoding saved rest hstored
  rcases touchRemoteCache_loaded o updated hload with
    ⟨hclosed, htouch⟩ | ⟨-, hfails, e, htouch, -⟩ | ⟨hstores, cache', htouch, hloaded, hother⟩
  · refine .inl ⟨fun h => ?_, _, htouch⟩
    rw [h.opens] at hclosed
    cases hclosed
  · exact .inl ⟨hfails, e, htouch⟩
  · rw [htouch]
    exact .inr ⟨hstores, rfl, hloaded, hother⟩

/-- The codec of the records, and what follows for the cache. -/
theorem ruleSetCache_codec :
    (∀ (saved : SavedRuleSetBinary) (rest : List UInt8),
      SavedRuleSetBinary.unmarshalBinary (saved.marshalBinary ++ rest) = .ok saved.truncate) ∧
    (∀ (saved : SavedRuleSetBinary) (pre : List UInt8), pre <+: saved.marshalBinary →
      pre ≠ saved.marshalBinary →
        ∃ e, SavedRuleSetBinary.unmarshalBinary pre = .error e ∧ e ≠ .makeslice) ∧
    (∀ (o : RuleSetCacheOutcome) (tag : String) (updated : GoTime) (bucket : GoMap (List UInt8))
        (saved : SavedRuleSetBinary) (rest : List UInt8),
      bucket[tag]? = some (saved.marshalBinary ++ rest) →
        let r := touchRemoteCache o tag updated (some bucket)
        let payload := SavedRuleSetBinary.marshalBinary { saved with lastUpdated := updated }
        (¬o.Stores tag payload ∧ ∃ e, r = (some bucket, .error e)) ∨
          (o.Stores tag payload ∧ r.2 = .ok () ∧
            loadRuleSetCache tag r.1 =
              .ok (some { saved.truncate with lastUpdated := updated.truncate }) ∧
            ∀ other, other ≠ tag →
              loadRuleSetCache other r.1 = loadRuleSetCache other (some bucket))) ∧
    ∀ (o : RuleSetCacheOutcome) (tag : String) (content etag : GoBytes) (updated : GoTime)
        (cache : RuleSetCache),
      let r := saveRemoteCache o tag content etag updated cache
      let payload := SavedRuleSetBinary.marshalBinary ⟨content, updated, etag⟩
      (¬o.Stores tag payload ∧ ∃ e, r = (cache, .error e)) ∨
        (o.Stores tag payload ∧ r.2 = .ok () ∧
          loadRuleSetCache tag r.1 = .ok (some ⟨content, updated.truncate, etag⟩) ∧
          ∀ other, other ≠ tag → loadRuleSetCache other r.1 = loadRuleSetCache other cache) :=
  ⟨SavedRuleSetBinary.unmarshalBinary_marshalBinary,
    fun _ _ hpre hne => SavedRuleSetBinary.unmarshalBinary_cut hpre hne,
    fun o _ updated _ _ _ hstored => touchRemoteCache_cases o updated hstored,
    saveRemoteCache_cases⟩

end Boxui.Core
