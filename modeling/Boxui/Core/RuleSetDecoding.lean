import Boxui.Core.RuleSetRemote

/-! Decoding the records of the rule-set cache. Their two lengths size the slices that a decoding
makes, and nothing checks them before: when a decoding is safe, and what follows for the
operations that decode. -/
namespace Boxui.Core
open GoValue GoBinary ByteReader

variable {Bytes : Type*}

namespace SavedRuleSetBinary

/-- The slices that a decoding makes: their lengths, and how many bytes are left at that point. -/
def buffers (data : List UInt8) : List (Nat × Nat) :=
  match (readFull 1).run data with
  | .error _ => []
  | .ok (_, input) =>
    bufferOf input ++
      match (readBytes >>= fun _ => readInt64).run input with
      | .error _ => []
      | .ok (_, input) => bufferOf input

/-- A decoding returns, and makes no slice that the bytes left could not fill. -/
structure SafeDecoding (data : List UInt8) : Prop where
  returns : unmarshalBinary data ≠ .error .makeslice
  buffers : ∀ buffer ∈ buffers data, buffer.1 ≤ buffer.2

/-- A length is an `int` and at most the number of bytes behind it. -/
def LengthFits (n : Nat) (behind : List UInt8) : Prop := n < 2 ^ 63 ∧ n ≤ behind.length

/-- The length of the content and, behind content and time, that of the ETag fit, where such a
length can be read. -/
structure LengthsFit (data : List UInt8) : Prop where
  content : ∀ version input n behind, data = version :: input →
    readUvarint.run input = .ok (n, behind) → LengthFits n behind
  etag : ∀ version input (content : GoBytes) (time etag : List UInt8) n behind,
    data = version :: input →
    readUvarint.run input = .ok (content.1.length, content.1 ++ (time ++ etag)) →
    time.length = 8 → readUvarint.run etag = .ok (n, behind) → LengthFits n behind

theorem run_readFull_one (version : UInt8) (input : List UInt8) :
    (readFull 1).run (version :: input) = .ok (⟨[version], rfl⟩, input) :=
  readFull_eq_ok_iff.mpr rfl

theorem run_content_time (input : List UInt8) :
    (readBytes >>= fun _ => readInt64).run input =
      match readBytes.run input with
      | .error e => .error e
      | .ok (_, rest) => readInt64.run rest := by
  rw [StateT.run_bind]
  cases readBytes.run input <;> rfl

theorem mem_buffers {data : List UInt8} {buffer : Nat × Nat} :
    buffer ∈ buffers data ↔ ∃ version input, data = version :: input ∧
      (buffer ∈ bufferOf input ∨ ∃ (content : GoBytes) (time etag : List UInt8),
        readUvarint.run input = .ok (content.1.length, content.1 ++ (time ++ etag)) ∧
          time.length = 8 ∧ buffer ∈ bufferOf etag) := by
  cases data with
  | nil =>
    constructor
    · intro h
      exact absurd h List.not_mem_nil
    · rintro ⟨version, input, h, -⟩
      cases h
  | cons version input =>
    have htail : (buffer ∈ match (readBytes >>= fun _ => readInt64).run input with
        | .error _ => []
        | .ok (_, input) => bufferOf input) ↔
        ∃ (content : GoBytes) (time etag : List UInt8),
          readUvarint.run input = .ok (content.1.length, content.1 ++ (time ++ etag)) ∧
            time.length = 8 ∧ buffer ∈ bufferOf etag := by
      rw [run_content_time]
      constructor
      · intro h
        rcases hcontent : readBytes.run input with e | ⟨content, rest⟩
        · rw [hcontent] at h
          exact absurd h List.not_mem_nil
        · rw [hcontent] at h
          dsimp only at h
          rcases htime : readInt64.run rest with e | ⟨v, etag⟩
          · rw [htime] at h
            exact absurd h List.not_mem_nil
          · rw [htime] at h
            obtain ⟨time, hlength, rfl⟩ := readInt64_eq_ok htime
            exact ⟨content, time, etag, readBytes_eq_ok_iff.mp hcontent, hlength, h⟩
      · rintro ⟨content, time, etag, hcontent, hlength, h⟩
        have htime : (readFull 8).run (time ++ etag) = .ok (⟨time, hlength⟩, etag) :=
          readFull_eq_ok_iff.mpr rfl
        rw [readBytes_eq_ok_iff.mpr hcontent]
        dsimp only
        rw [readInt64_run, htime]
        exact h
    unfold buffers
    rw [run_readFull_one]
    dsimp only
    rw [List.mem_append, htail]
    constructor
    · intro h
      exact ⟨version, input, rfl, h⟩
    · rintro ⟨version', input', heq, h⟩
      cases heq
      exact h

theorem readBytes_panics_iff {input : List UInt8} :
    readBytes.run input = .error .makeslice ↔ ∃ buffer ∈ bufferOf input, 2 ^ 63 ≤ buffer.1 := by
  rw [readBytes_eq_makeslice_iff]
  constructor
  · rintro ⟨n, rest, hread, hn⟩
    exact ⟨(n, rest.length), mem_bufferOf.mpr ⟨n, rest, hread, rfl⟩, hn⟩
  · rintro ⟨buffer, hmem, hn⟩
    obtain ⟨n, rest, hread, rfl⟩ := mem_bufferOf.mp hmem
    exact ⟨n, rest, hread, hn⟩

theorem unmarshalBinary_cons (version : UInt8) (input : List UInt8) :
    unmarshalBinary (version :: input) =
      readBytes.run input >>= fun content => readInt64.run content.2 >>= fun time =>
        readBytes.run time.2 >>= fun etag =>
          .ok ⟨content.1, GoTime.unix time.1, etag.1⟩ := by
  unfold unmarshalBinary read
  rw [StateT.run_bind, run_readFull_one, ok_bind, StateT.run_bind]
  rcases readBytes.run input with e | ⟨content, rest⟩
  · rfl
  rw [ok_bind, ok_bind, StateT.run_bind]
  rcases readInt64.run rest with e | ⟨lastUpdated, rest⟩
  · rfl
  rw [ok_bind, ok_bind, StateT.run_bind]
  rcases readBytes.run rest with e | ⟨lastEtag, rest⟩ <;> rfl

/-- A length that is no `int` is a panic of `make`, and no other length is. -/
theorem unmarshalBinary_eq_makeslice_iff {data : List UInt8} :
    unmarshalBinary data = .error .makeslice ↔ ∃ buffer ∈ buffers data, 2 ^ 63 ≤ buffer.1 := by
  cases data with
  | nil =>
    have hread : unmarshalBinary [] = .error .eof := rfl
    have hbuffers : buffers [] = [] := rfl
    simp [hread, hbuffers]
  | cons version input =>
    have hcontent : readBytes.run input = .error .makeslice ↔
        ∃ buffer ∈ bufferOf input, 2 ^ 63 ≤ buffer.1 := readBytes_panics_iff
    unfold buffers
    rw [unmarshalBinary_cons, run_readFull_one]
    simp only [run_content_time, List.mem_append, or_and_right, exists_or]
    rw [← hcontent]
    rcases readBytes.run input with e | ⟨content, rest⟩
    · simp [error_bind]
    rw [ok_bind]
    dsimp only
    have htime := readInt64_ne_makeslice rest
    revert htime
    rcases readInt64.run rest with e | ⟨lastUpdated, rest⟩
    · intro htime
      simpa [error_bind] using htime
    intro _
    rw [ok_bind]
    dsimp only
    have hetag : readBytes.run rest = .error .makeslice ↔
        ∃ buffer ∈ bufferOf rest, 2 ^ 63 ≤ buffer.1 := readBytes_panics_iff
    rw [← hetag]
    rcases readBytes.run rest with e | ⟨lastEtag, rest⟩ <;> simp [error_bind, ok_bind]

theorem lengthsFit_iff {data : List UInt8} : LengthsFit data ↔
    ∀ buffer ∈ buffers data, buffer.1 < 2 ^ 63 ∧ buffer.1 ≤ buffer.2 := by
  constructor
  · intro h buffer hmem
    obtain ⟨version, input, rfl, hcontent | ⟨content, time, etag, hread, hlength, hetag⟩⟩ :=
      mem_buffers.mp hmem
    · obtain ⟨n, behind, hn, rfl⟩ := mem_bufferOf.mp hcontent
      exact h.content version input n behind rfl hn
    · obtain ⟨n, behind, hn, rfl⟩ := mem_bufferOf.mp hetag
      exact h.etag version input content time etag n behind rfl hread hlength hn
  · intro h
    constructor
    · rintro version input n behind rfl hn
      exact h (n, behind.length) (mem_buffers.mpr
        ⟨version, input, rfl, .inl (mem_bufferOf.mpr ⟨n, behind, hn, rfl⟩)⟩)
    · rintro version input content time etag n behind rfl hread hlength hn
      exact h (n, behind.length) (mem_buffers.mpr ⟨version, input, rfl,
        .inr ⟨content, time, etag, hread, hlength, mem_bufferOf.mpr ⟨n, behind, hn, rfl⟩⟩⟩)

/-- A decoding is safe exactly when the lengths in the bytes fit. -/
theorem safeDecoding_iff (data : List UInt8) : SafeDecoding data ↔ LengthsFit data := by
  rw [lengthsFit_iff]
  constructor
  · intro h buffer hmem
    refine ⟨?_, h.buffers buffer hmem⟩
    by_contra hn
    exact h.returns (unmarshalBinary_eq_makeslice_iff.mpr ⟨buffer, hmem, Nat.le_of_not_lt hn⟩)
  · intro h
    refine ⟨?_, fun buffer hmem => (h buffer hmem).2⟩
    intro hpanic
    obtain ⟨buffer, hmem, hn⟩ := unmarshalBinary_eq_makeslice_iff.mp hpanic
    exact absurd (h buffer hmem).1 (Nat.not_lt_of_le hn)

theorem read_marshalBinary (s : SavedRuleSetBinary) :
    readUvarint.run (writeBytes s.content ++ (writeInt64 s.lastUpdated.sec ++
        writeBytes s.lastEtag)) =
      .ok (s.content.1.length, s.content.1 ++ (writeInt64 s.lastUpdated.sec ++
        writeBytes s.lastEtag)) := by
  have hlength : s.content.1.length < 2 ^ 64 := Nat.lt_trans s.content.2 (by decide)
  rw [writeBytes, List.append_assoc]
  exact (reads_readUvarint hlength).exact _

/-- The lengths of an encoding fit. -/
theorem lengthsFit_marshalBinary (s : SavedRuleSetBinary) : LengthsFit s.marshalBinary := by
  have hfits (l : GoBytes) (rest : List UInt8) : LengthFits l.1.length (l.1 ++ rest) :=
    ⟨l.2, by simp⟩
  constructor
  · intro version input n behind hdata hread
    obtain rfl : _ = input := (List.cons.inj hdata).2
    cases (read_marshalBinary s).symm.trans hread
    exact hfits s.content _
  · intro version input content time etag n behind hdata hcontent htime hread
    obtain rfl : _ = input := (List.cons.inj hdata).2
    obtain ⟨hlength, hbytes⟩ :=
      Prod.mk.inj (Except.ok.inj ((read_marshalBinary s).symm.trans hcontent))
    obtain ⟨-, hrest⟩ := List.append_inj hbytes hlength
    have height : (writeInt64 s.lastUpdated.sec).length = time.length := by
      rw [htime]
      exact length_bigEndian 8 _
    obtain ⟨-, rfl⟩ := List.append_inj hrest height
    have hetag : s.lastEtag.1.length < 2 ^ 64 := Nat.lt_trans s.lastEtag.2 (by decide)
    rw [writeBytes, (reads_readUvarint hetag).exact] at hread
    cases hread
    have h := hfits s.lastEtag []
    rwa [List.append_nil] at h

end SavedRuleSetBinary

open SavedRuleSetBinary CachedUpdate

/-- The bytes stored under a tag. -/
def RuleSetCache.stored (cache : RuleSetCache) (tag : String) : Option (List UInt8) :=
  cache.bind fun bucket => bucket[tag]?

/-- The lengths of every record fit. -/
def RuleSetCache.Fits (cache : RuleSetCache) : Prop :=
  ∀ tag data, RuleSetCache.stored cache tag = some data → LengthsFit data

namespace RuleSetCache.Fits

variable {cache : RuleSetCache}

theorem load (h : RuleSetCache.Fits cache) (tag : String) :
    ∃ saved, loadRuleSetCache tag cache = .ok saved := by
  unfold loadRuleSetCache
  split
  · exact ⟨_, rfl⟩
  · exact ⟨_, rfl⟩
  · rename_i data hne hstored
    have hsafe := ((safeDecoding_iff data).mpr (h tag data hstored)).returns
    split
    · exact ⟨_, rfl⟩
    · exact absurd ‹_› hsafe
    · exact ⟨_, rfl⟩

/-- A transaction stores an encoding or nothing. -/
theorem commit (h : RuleSetCache.Fits cache) (o : RuleSetCacheOutcome) (tag : String)
    (saved : SavedRuleSetBinary) :
    RuleSetCache.Fits (commitRuleSet o tag saved.marshalBinary (cache.getD ∅) cache).1 := by
  unfold commitRuleSet
  split
  · exact h
  · rename_i bucket hput
    obtain rfl : (cache.getD ∅).insert tag saved.marshalBinary = bucket := by
      unfold putRuleSet at hput
      split_ifs at hput
      exact Except.ok.inj hput
    split_ifs
    · exact h
    · intro other data hstored
      simp only [RuleSetCache.stored, Option.bind_some, GoMap.getElem?_insert] at hstored
      split_ifs at hstored
      · cases hstored
        exact lengthsFit_marshalBinary saved
      · cases cache with
        | none => simp at hstored
        | some bucket => exact h other data hstored

theorem save (h : RuleSetCache.Fits cache) (o : RuleSetCacheOutcome) (tag : String)
    (content etag : GoBytes) (updated : GoTime) :
    RuleSetCache.Fits (saveRemoteCache o tag content etag updated cache).1 := by
  unfold saveRemoteCache
  split
  · exact h
  · exact h.commit o tag ⟨content, updated, etag⟩

theorem touch (h : RuleSetCache.Fits cache) (o : RuleSetCacheOutcome) (tag : String)
    (updated : GoTime) :
    (touchRemoteCache o tag updated cache).2 ≠ .error (.decode .makeslice) ∧
      RuleSetCache.Fits (touchRemoteCache o tag updated cache).1 := by
  unfold touchRemoteCache
  split
  · exact ⟨by simp, h⟩
  split
  · exact ⟨by split <;> simp, h⟩
  rename_i bucket
  split
  · exact ⟨by split <;> simp, h⟩
  · exact ⟨by split <;> simp, h⟩
  rename_i data hne hstored
  have hsafe := ((safeDecoding_iff data).mpr (h tag data hstored)).returns
  split
  · rename_i e hread
    refine ⟨?_, h⟩
    rintro ⟨⟩
    exact hsafe hread
  · rename_i saved hread
    refine ⟨?_, h.commit o tag { saved with lastUpdated := updated }⟩
    exact fun hpanic => (commitRuleSet_error hpanic).2 .makeslice rfl

/-- An update of a remote rule-set returns. -/
theorem updateRemote (h : RuleSetCache.Fits cache) (message : RuleSetCacheError → String)
    (entry : Object) (o : EntryCalls) (result : RuleSetUpdateResult) :
    ∃ cache' result', CachedUpdate.updateRemote message entry o result cache =
      .ok (cache', result') ∧ RuleSetCache.Fits cache' := by
  unfold CachedUpdate.updateRemote
  dsimp only
  split
  · exact ⟨_, _, rfl, h⟩
  obtain ⟨etag, hetag⟩ :
      ∃ etag, rememberedEtag o.openReadOnlyFails result.tag cache = .ok etag := by
    obtain ⟨saved, hload⟩ := h.load result.tag
    unfold rememberedEtag
    rw [hload]
    cases o.openReadOnlyFails <;> cases saved <;> exact ⟨_, rfl⟩
  rw [hetag]
  dsimp only
  split
  · exact ⟨_, _, rfl, h⟩
  split
  · exact ⟨_, _, rfl, h⟩
  rename_i resp _
  split_ifs
  · obtain ⟨hpanic, hfits⟩ := h.touch o.cache result.tag o.now
    unfold CachedUpdate.updateNotModified
    dsimp only
    split
    · rename_i htouch
      rw [htouch] at hpanic
      exact absurd rfl hpanic
    all_goals
      rename_i htouch
      rw [htouch] at hfits
      exact ⟨_, _, rfl, hfits⟩
  · refine ⟨_, _, rfl, ?_⟩
    split
    · exact h
    · rename_i content _
      have hsave := h.save o.cache result.tag content resp.etag o.now
      split
      · exact h
      · split
        all_goals
          rename_i hsaved
          rw [hsaved] at hsave
          exact hsave
  · exact ⟨_, _, rfl, h⟩

theorem updateOne (h : RuleSetCache.Fits cache) (sources : List RuleSetSource)
    (message : RuleSetCacheError → String) (o : EntryCalls) (entry : Object) :
    ∃ cache' result', CachedUpdate.updateOne sources message o entry cache =
      .ok (cache', result') ∧ RuleSetCache.Fits cache' := by
  unfold CachedUpdate.updateOne
  dsimp only
  split
  · exact ⟨_, _, rfl, h⟩
  · exact h.updateRemote message entry o _
  · exact ⟨_, _, rfl, h⟩

theorem updateEach (h : RuleSetCache.Fits cache) (sources : List RuleSetSource)
    (message : RuleSetCacheError → String) (calls : Nat → EntryCalls) (entries : List Object)
    (resp : RuleSetUpdateResponse) :
    ∃ cache' resp', CachedUpdate.updateEach sources message calls entries cache resp =
      (cache', .ok resp') ∧ RuleSetCache.Fits cache' := by
  induction entries generalizing calls cache resp with
  | nil => exact ⟨cache, resp, rfl, h⟩
  | cons entry entries ih =>
    obtain ⟨cache', result, hone, hfits⟩ := h.updateOne sources message (calls 0) entry
    rw [CachedUpdate.updateEach, hone]
    exact ih hfits _ _

theorem statusOf (h : RuleSetCache.Fits cache) (sources : List RuleSetSource)
    (stat : String → Option (GoTime × Nat)) (openReadOnlyFails : Bool) (entry : Object) :
    ∃ item, CachedUpdate.statusOf sources stat openReadOnlyFails cache entry = .ok item := by
  unfold CachedUpdate.statusOf
  dsimp only
  split
  · exact ⟨_, rfl⟩
  · unfold remoteStatus
    dsimp only
    split
    · exact ⟨_, rfl⟩
    · obtain ⟨saved, hload⟩ := h.load (Object.stringAt entry "tag")
      rw [hload]
      cases saved <;> exact ⟨_, rfl⟩
  · exact ⟨_, rfl⟩

theorem status (h : RuleSetCache.Fits cache) (sources : List RuleSetSource)
    (codec : JSONCodec Bytes) (configFile : Option Bytes)
    (stat : String → Option (GoTime × Nat)) (openReadOnlyFails : Bool) :
    ∃ items, CachedUpdate.status sources codec configFile stat openReadOnlyFails cache =
      .ok items := by
  have hall (entries : List Object) : ∃ items,
      entries.mapM (CachedUpdate.statusOf sources stat openReadOnlyFails cache) = .ok items := by
    induction entries with
    | nil => exact ⟨[], rfl⟩
    | cons entry entries ih =>
      obtain ⟨item, hitem⟩ := h.statusOf sources stat openReadOnlyFails entry
      obtain ⟨items, hitems⟩ := ih
      refine ⟨item :: items, ?_⟩
      rw [List.mapM_cons, hitem, hitems]
      rfl
  unfold CachedUpdate.status
  split
  · exact ⟨_, rfl⟩
  · rename_i cfg _
    obtain ⟨items, hitems⟩ := hall (ruleSetEntries cfg)
    rw [hitems]
    exact ⟨_, rfl⟩

/-- An update returns, and ends with the start once it has stopped the kernel. -/
theorem update (h : RuleSetCache.Fits cache) (u : RuleSetUpdater Bytes)
    (codec : JSONCodec Bytes) (toLower : Char → Char) (message : RuleSetCacheError → String)
    (configFile : Option Bytes) (req : RuleSetUpdateRequest) (calls : Nat → EntryCalls)
    (k : Kernel Bytes) :
    let updated :=
      CachedUpdate.update u codec toLower message configFile req calls k cache
    (∃ returned, updated.returned = .ok returned) ∧
      ∀ cfg k', RuleSetUpdater.loadConfig codec configFile = .ok cfg →
        u.stopKernel ((selectRuleSets toLower (ruleSetEntries cfg) req).any
          RuleSetUpdater.isRemote) k = (k', .ok true) →
        updated.kernel = (u.startKernel true k').1 := by
  intro updated
  unfold updated CachedUpdate.update
  cases hload : RuleSetUpdater.loadConfig codec configFile with
  | error e =>
    refine ⟨⟨_, rfl⟩, ?_⟩
    intro cfg k' hcfg
    cases hcfg
  | ok cfg =>
    dsimp only
    obtain ⟨cache', resp, heach, -⟩ := h.updateEach u.sources message calls
      (selectRuleSets toLower (ruleSetEntries cfg) req) emptyResponse
    rcases hstop : u.stopKernel ((selectRuleSets toLower (ruleSetEntries cfg) req).any
        RuleSetUpdater.isRemote) k with ⟨k₁, e | stopped⟩
    · refine ⟨⟨_, rfl⟩, ?_⟩
      intro cfg' k' hcfg hstopped
      cases hcfg
      rw [hstop] at hstopped
      cases hstopped
    · dsimp only
      rw [heach]
      dsimp only
      constructor
      · rcases u.startKernel stopped k₁ with ⟨k₂, e | restarted⟩ <;> exact ⟨_, rfl⟩
      · intro cfg' k' hcfg hstopped
        cases hcfg
        rw [hstop] at hstopped
        cases hstopped
        rcases u.startKernel true k₁ with ⟨k₂, e | restarted⟩ <;> rfl

end RuleSetCache.Fits

/-- Decoding is safe for everything stored, no operation that decodes panics, and an update that
has stopped the kernel ends with the start. -/
structure DecodesSafely (Bytes : Type*) (cache : RuleSetCache) : Prop where
  decoding : ∀ tag data, RuleSetCache.stored cache tag = some data → SafeDecoding data
  status : ∀ (sources : List RuleSetSource) (codec : JSONCodec Bytes) (configFile : Option Bytes)
    (stat : String → Option (GoTime × Nat)) (openReadOnlyFails : Bool),
    ∃ items, CachedUpdate.status sources codec configFile stat openReadOnlyFails cache = .ok items
  remote : ∀ (message : RuleSetCacheError → String) (entry : Object) (o : EntryCalls)
    (result : RuleSetUpdateResult),
    ∃ r, CachedUpdate.updateRemote message entry o result cache = .ok r
  touch : ∀ (o : RuleSetCacheOutcome) (tag : String) (updated : GoTime),
    (touchRemoteCache o tag updated cache).2 ≠ .error (.decode .makeslice)
  restart : ∀ (u : RuleSetUpdater Bytes) (codec : JSONCodec Bytes) (toLower : Char → Char)
    (message : RuleSetCacheError → String) (configFile : Option Bytes)
    (req : RuleSetUpdateRequest) (calls : Nat → EntryCalls) (k : Kernel Bytes),
    let updated := CachedUpdate.update u codec toLower message configFile req calls k cache
    (∃ returned, updated.returned = .ok returned) ∧
      ∀ cfg k', RuleSetUpdater.loadConfig codec configFile = .ok cfg →
        u.stopKernel ((selectRuleSets toLower (ruleSetEntries cfg) req).any
          RuleSetUpdater.isRemote) k = (k', .ok true) →
        updated.kernel = (u.startKernel true k').1

theorem decodesSafely_iff (cache : RuleSetCache) :
    DecodesSafely Bytes cache ↔ RuleSetCache.Fits cache := by
  constructor
  · intro h tag data hstored
    exact (safeDecoding_iff data).mp (h.decoding tag data hstored)
  · intro h
    constructor
    · intro tag data hstored
      exact (safeDecoding_iff data).mpr (h tag data hstored)
    · exact fun sources codec configFile stat openReadOnlyFails =>
        h.status sources codec configFile stat openReadOnlyFails
    · intro message entry o result
      obtain ⟨cache', result', hremote, -⟩ := h.updateRemote message entry o result
      exact ⟨(cache', result'), hremote⟩
    · exact fun o tag updated => (h.touch o tag updated).1
    · exact fun u codec toLower message configFile req calls k =>
        h.update u codec toLower message configFile req calls k

/-- A version, and 2^63 for the length of the content. -/
def hostileRecord : List UInt8 := [1, 128, 128, 128, 128, 128, 128, 128, 128, 128, 1]

/-- The record of the rule-set of `remoteConfigFile`. -/
def hostileCache : RuleSetCache := some ((∅ : GoMap (List UInt8)).insert "geo" hostileRecord)

def hostileUpdate : CachedUpdate.Updated { v : Value // v.json = v } :=
  CachedUpdate.update (RuleSetUpdater.newRuleSetUpdater [] false remoteConfigFile
      ⟨false, false, false, 2⟩) documentCodec id (fun _ => "") remoteConfigFile ⟨[], []⟩
    (fun _ => ⟨none, none, false, none, fun _ _ => .error "", ⟨false, false⟩, GoTime.unix 0⟩)
    startedKernel hostileCache

/-- The status panics, and an update of the running kernel panics when it has stopped it. -/
theorem hostileCache_not_safe :
    unmarshalBinary hostileRecord = .error .makeslice ∧
      CachedUpdate.status [] documentCodec remoteConfigFile (fun _ => none) false hostileCache =
        .error .makeslice ∧
      startedKernel.1.running = true ∧ hostileUpdate.returned = .error .makeslice ∧
      hostileUpdate.kernel.1.running = false ∧
      ¬DecodesSafely { v : Value // v.json = v } hostileCache := by
  have hpanics : unmarshalBinary hostileRecord = .error .makeslice := by decide
  refine ⟨hpanics, rfl, by decide, rfl, by decide, ?_⟩
  intro h
  exact (h.decoding "geo" hostileRecord rfl).returns hpanics

end Boxui.Core
