import Boxui.API.References
import Boxui.API.RequestFrames
import Boxui.API.SyncIdempotence
import Boxui.API.SyncTags

/-! The life cycle of the generated groups over whole runs of requests. Beside the state a
history records which synchronisation wrote each outbound of the file, for what, and which
names subscriptions have had. -/
namespace Boxui.API
open GoValue Boxui.Core Machine

variable {Bytes : Type*}

/-- What an outbound of the file was written for. -/
inductive Origin where
  | initial
  | direct
  | stored
  | group (sync : Nat)
  | selector
  deriving DecidableEq

/-- The outbounds the `n`-th synchronisation writes, each with its origin. A kept outbound
keeps its own; the last origin is for the proxy selector, where one is appended. -/
def SyncInput.labelled (input : SyncInput) (n : Nat) (old : List (Value × Origin)) :
    List (Value × Origin) :=
  ((input.outbounds (old.map Prod.fst)).map Value.json).zip
    (.direct :: (old.filter fun p => input.keeps p.1).map Prod.snd ++
      (input.stored.map (fun _ => .stored) ++ input.grouped.map (fun _ => .group n) ++
        [.selector]))

namespace SyncInput

/-- The labelled entries of the writers. -/
def written (input : SyncInput) (n : Nat) (existing : List Value) : List (Value × Origin) :=
  ((input.writers existing).map fun w => (w.entry existing).json).zip
    (input.stored.map (fun _ => .stored) ++ input.grouped.map (fun _ => .group n) ++ [.selector])

theorem labelled_eq (input : SyncInput) (n : Nat) {old : List (Value × Origin)}
    (hold : (old.map Prod.fst).map Value.json = old.map Prod.fst) :
    input.labelled n old = (directOutbound, .direct) :: (old.filter fun p => input.keeps p.1) ++
      input.written n (old.map Prod.fst) := by
  have hkept : input.kept (old.map Prod.fst) =
      (old.filter fun p => input.keeps p.1).map Prod.fst := by
    rw [kept, List.filter_map]
    rfl
  have hdirect : directOutbound.json = directOutbound := by rfl
  rw [labelled, outbounds_eq, List.map_append, List.map_cons, hdirect, input.kept_json hold, hkept]
  rw [List.zip_append (by simp), List.zip_cons_cons, List.map_map]
  rw [← List.zip_of_prod rfl rfl]
  rfl

/-- Every outbound of the file has an origin. -/
theorem labelled_map_fst (input : SyncInput) (n : Nat) (old : List (Value × Origin)) :
    (input.labelled n old).map Prod.fst = (input.outbounds (old.map Prod.fst)).map Value.json := by
  have hkept : (input.kept (old.map Prod.fst)).length =
      (old.filter fun p => input.keeps p.1).length := by
    rw [kept, List.filter_map, List.length_map]
    rfl
  have hwriters := congrArg List.length (writers_map (fun _ => ()) (fun _ _ _ => rfl)
    (fun _ _ => rfl) input (old.map Prod.fst))
  have hfresh : (if input.FreshSelector (old.map Prod.fst) then [()] else []).length ≤ 1 := by
    split_ifs <;> simp
  simp only [List.length_map, List.length_append] at hwriters
  rw [labelled, List.map_fst_zip]
  simp only [outbounds_eq, List.length_map, List.length_append, List.length_cons, List.length_nil]
  omega

/-- Type, tag and origin of the written entries, source by source. -/
theorem written_map (input : SyncInput) (n : Nat) (existing : List Value) :
    (input.written n existing).map (Prod.map (fun v => (typeOf v, tagOf v)) id) =
      input.stored.map (fun outbound => ((writtenType outbound, writtenTag outbound), .stored)) ++
        input.grouped.map (fun subscription =>
          ((OutboundWriter.groupType input.defaults subscription, subscription.name),
            .group n)) ++
        if input.FreshSelector existing then [(("selector", "proxy"), .selector)] else [] := by
  have hwriters := writers_map (fun w => (w.type, w.tag)) (c := ("selector", "proxy"))
    (fun _ _ _ => rfl) (fun _ _ => rfl) input existing
  have hentry : (fun v => (typeOf v, tagOf v)) ∘ (fun w : OutboundWriter =>
      (w.entry existing).json) = fun w => (w.type, w.tag) := by
    funext w
    simp
  rw [written, ← List.zip_map_left, List.map_map, hentry, hwriters]
  rw [List.zip_append (by simp), List.zip_append (by simp), List.zip_map', List.zip_map']
  split_ifs <;> rfl

theorem mem_written (input : SyncInput) {n : Nat} {existing : List Value}
    {p : Value × Origin} (h : p ∈ input.written n existing) :
    p.2 = .stored ∨ (p.2 = .selector ∧ tagOf p.1 = "proxy") ∨
      p.2 = .group n ∧ ∃ subscription ∈ input.grouped,
        typeOf p.1 = OutboundWriter.groupType input.defaults subscription ∧
        tagOf p.1 = subscription.name := by
  have hmap := List.mem_map_of_mem (f := Prod.map (fun v => (typeOf v, tagOf v)) id) h
  rw [written_map, List.mem_append, List.mem_append, List.mem_map, List.mem_map] at hmap
  rcases hmap with (⟨outbound, -, heq⟩ | ⟨subscription, hmem, heq⟩) | hfresh
  · exact .inl (Prod.mk.inj heq).2.symm
  · obtain ⟨htypeTag, horigin⟩ := Prod.mk.inj heq
    obtain ⟨htype, htag⟩ := Prod.mk.inj htypeTag
    exact .inr (.inr ⟨horigin.symm, subscription, hmem, htype.symm, htag.symm⟩)
  · split_ifs at hfresh
    · obtain ⟨htypeTag, horigin⟩ := Prod.mk.inj (List.mem_singleton.mp hfresh)
      exact .inr (.inl ⟨horigin, (Prod.mk.inj htypeTag).2⟩)
    · cases hfresh

/-- The entries written as groups carry the group tags, in order. -/
theorem written_groupTags (input : SyncInput) (n : Nat) (existing : List Value) :
    ((input.written n existing).filter (·.2 = .group n)).map (tagOf ·.1) = input.groupTags := by
  have hsplit : ((input.written n existing).filter (·.2 = .group n)).map (tagOf ·.1) =
      (((input.written n existing).map (Prod.map (fun v => (typeOf v, tagOf v)) id)).filter
        (·.2 = .group n)).map (·.1.2) := by
    rw [List.filter_map, List.map_map]
    rfl
  rw [hsplit, written_map, List.filter_append, List.filter_append]
  have hstored : (input.stored.map fun outbound =>
      ((writtenType outbound, writtenTag outbound), Origin.stored)).filter
        (·.2 = .group n) = [] := by
    simp [List.filter_eq_nil_iff]
  have hgroups : (input.grouped.map fun subscription =>
      ((OutboundWriter.groupType input.defaults subscription, subscription.name),
        Origin.group n)).filter (·.2 = .group n) = input.grouped.map fun subscription =>
      ((OutboundWriter.groupType input.defaults subscription, subscription.name), .group n) := by
    simp [List.filter_eq_self]
  rw [hstored, hgroups]
  split_ifs <;> simp [groupTags]

theorem mem_managedGroups (input : SyncInput) {tag : String} :
    tag ∈ input.managedGroups ↔ tag ≠ "" ∧
      (tag ∈ input.previousGroups ∨ tag ∈ input.subscriptions.map Subscription.name) := by
  simp only [managedGroups, managedURLTestTags, List.mem_append, List.mem_filter,
    decide_eq_true_eq]
  tauto

/-- A group is kept unless its tag is managed or it is the proxy selector. -/
theorem keeps_group_iff (input : SyncInput) {outbound : Value}
    (hgroup : isGroupType (typeOf outbound) = true) :
    input.keeps outbound = true ↔ tagOf outbound ∉ input.managedGroups ∧
      ¬(typeOf outbound = "selector" ∧ tagOf outbound = "proxy") := by
  unfold keeps
  cases hmap : outbound.asMap? with
  | none =>
    have htype : typeOf outbound = "" := by simp [fieldOf, hmap]
    rw [htype] at hgroup
    exact absurd hgroup (by decide)
  | some entry =>
    have htype : typeOf outbound = Object.stringAt entry "type" := by simp [fieldOf, hmap]
    have htag : tagOf outbound = Object.stringAt entry "tag" := by simp [fieldOf, hmap]
    simp only [isGroupType, Bool.or_eq_true, beq_iff_eq] at hgroup
    rw [Bool.not_eq_true', Bool.eq_false_iff, ne_eq, shouldReplaceExistingOutbound_some, htype,
      htag]
    rw [htype] at hgroup
    have hplain : Object.stringAt entry "type" ∉ managedNodeTypes ∧
        Object.stringAt entry "type" ≠ "direct" ∧ Object.stringAt entry "type" ≠ "dns" := by
      rcases hgroup with h | h <;> rw [h] <;> decide
    dsimp only
    tauto

end SyncInput

/-- A state with its past: the origins of the outbounds in the file, the number of
synchronisations that succeeded, the group tags they generated, and the names that
subscriptions or generated groups have had. -/
structure History (Bytes : Type*) where
  state : SyncState Bytes
  labelled : List (Value × Origin)
  syncs : Nat
  generated : List String
  names : List String

namespace History

def start (codec : JSONCodec Bytes) (s : SyncState Bytes) : History Bytes where
  state := s
  labelled := (s.outbounds codec).map fun outbound => (outbound, .initial)
  syncs := 0
  generated := []
  names := SettingsManager.urlTestManagedGroups s.db ++
    (SubscriptionManager.list s.db).map Subscription.name

/-- One request, recorded. -/
def next (codec : JSONCodec Bytes) (h : History Bytes) (i : Request × Surroundings) :
    History Bytes :=
  let db := (i.1.store i.2 h.state.db).1
  let input := syncInput db
  let names := h.names ++ input.subscriptions.map Subscription.name
  let state := (i.1.handle codec i.2 h.state).1
  if i.1.synchronised codec i.2 h.state then
    { state := state
      labelled := input.labelled (h.syncs + 1) h.labelled
      syncs := h.syncs + 1
      generated := h.generated ++ input.groupTags
      names := names }
  else { h with state := state, names := names }

/-- The past is only recorded: the states are those of the requests. -/
theorem run_next_state (codec : JSONCodec Bytes) (h : History Bytes)
    (requests : List (Request × Surroundings)) :
    (run (next codec) h requests).state =
      run (fun s (i : Request × Surroundings) => (i.1.handle codec i.2 s).1) h.state requests := by
  induction requests generalizing h with
  | nil => rfl
  | cons i requests ih =>
    rw [run_cons, run_cons, ih]
    congr 1
    unfold next
    split_ifs <;> rfl

/-- What the past says about the present. The groups of the last synchronisation are the only
groups left of those ever generated, and their tags are the saved ones. -/
structure Consistent (codec : JSONCodec Bytes) (h : History Bytes) : Prop where
  named : Named h.state.db
  file : h.labelled.map Prod.fst = h.state.outbounds codec
  managed : 0 < h.syncs → h.state.db.managedGroups =
    some ((h.labelled.filter (·.2 = .group h.syncs)).map (tagOf ·.1))
  current : ∀ p ∈ h.labelled, ∀ n, p.2 = .group n → n = h.syncs ∧ 0 < n ∧
    isGroupType (typeOf p.1) = true ∧ tagOf p.1 ≠ ""
  generated : ∀ p ∈ h.labelled, isGroupType (typeOf p.1) = true → tagOf p.1 ∈ h.generated →
    tagOf p.1 ≠ "" ∧ tagOf p.1 ∈ SettingsManager.urlTestManagedGroups h.state.db ∨
      p.2 = .stored ∨ p.2 = .selector ∧ tagOf p.1 = "proxy"
  names : ∀ tag ∈ SettingsManager.urlTestManagedGroups h.state.db, tag ∈ h.names

theorem start_consistent (codec : JSONCodec Bytes) {s : SyncState Bytes} (h : Named s.db) :
    (start codec s).Consistent codec where
  named := h
  file := by simp [start, Function.comp_def]
  managed := fun hsyncs => absurd hsyncs (lt_irrefl 0)
  current := by
    intro p hmem n horigin
    obtain ⟨outbound, -, rfl⟩ := List.mem_map.mp hmem
    cases horigin
  generated := fun _ _ _ hgenerated => absurd hgenerated List.not_mem_nil
  names := fun tag htag => List.mem_append_left _ htag

/-- A saved tag of a group that is still there is one the next synchronisation replaces. -/
theorem Consistent.group_tag {codec : JSONCodec Bytes} {h : History Bytes}
    (hinv : h.Consistent codec) {p : Value × Origin} (hmem : p ∈ h.labelled) {n : Nat}
    (horigin : p.2 = .group n) :
    tagOf p.1 ∈ SettingsManager.urlTestManagedGroups h.state.db := by
  obtain ⟨rfl, hpos, -, -⟩ := hinv.current p hmem n horigin
  rw [SettingsManager.urlTestManagedGroups, hinv.managed hpos, Option.getD_some]
  refine List.mem_map.mpr ⟨p, ?_, rfl⟩
  rw [List.mem_filter]
  exact ⟨hmem, decide_eq_true horigin⟩

theorem isGroupType_groupType (defaults : URLTestDefaults) (subscription : Subscription) :
    isGroupType (OutboundWriter.groupType defaults subscription) = true := by
  unfold OutboundWriter.groupType
  split_ifs <;> decide

/-- A synchronisation keeps the past and the present consistent. -/
theorem Consistent.synced {codec : JSONCodec Bytes} {h : History Bytes}
    (hinv : h.Consistent codec) {db : Database} {state : SyncState Bytes} {config : Object}
    (hnamed : Named db) (hgroups : db.managedGroups = h.state.db.managedGroups)
    (hconfig : h.state.config? codec = some config)
    (hwrote : state.Wrote codec (syncInput db) config)
    (hdb : state.db = SettingsManager.setURLTestManagedGroups (syncInput db).groupTags db) :
    Consistent codec
      { state := state
        labelled := (syncInput db).labelled (h.syncs + 1) h.labelled
        syncs := h.syncs + 1
        generated := h.generated ++ (syncInput db).groupTags
        names := h.names ++ (syncInput db).subscriptions.map Subscription.name } := by
  have hfile : h.labelled.map Prod.fst = existingOutbounds config := by
    rw [hinv.file, SyncState.outbounds, hconfig]
    rfl
  have hjson := existingOutbounds_json (SyncState.config?_json hconfig)
  rw [← hfile] at hjson
  have heq := (syncInput db).labelled_eq (h.syncs + 1) hjson
  have hprevious : (syncInput db).previousGroups =
      SettingsManager.urlTestManagedGroups h.state.db := congrArg (Option.getD · []) hgroups
  have hsaved : SettingsManager.urlTestManagedGroups state.db = (syncInput db).groupTags := by
    rw [hdb]
    rfl
  -- a group of an earlier synchronisation does not survive
  have hstale : ∀ p ∈ h.labelled.filter fun p => (syncInput db).keeps p.1, ∀ n,
      p.2 ≠ .group n := by
    intro p hmem n horigin
    rw [List.mem_filter] at hmem
    obtain ⟨-, -, htype, htag⟩ := hinv.current p hmem.1 n horigin
    have hkept := ((syncInput db).keeps_group_iff htype).mp hmem.2
    rw [SyncInput.mem_managedGroups, hprevious] at hkept
    exact hkept.1 ⟨htag, .inl (hinv.group_tag hmem.1 horigin)⟩
  have hgroupTag : ∀ tag ∈ (syncInput db).groupTags, tag ≠ "" := by
    intro tag htag
    obtain ⟨subscription, hmem, rfl⟩ := List.mem_map.mp htag
    exact groupTags_named hnamed hmem
  refine ⟨?_, ?_, fun _ => ?_, ?_, ?_, ?_⟩
  · rw [hdb]
    exact hnamed
  · rw [hwrote.outbounds, ← hfile]
    exact (syncInput db).labelled_map_fst (h.syncs + 1) h.labelled
  · have hkept : (h.labelled.filter fun p => (syncInput db).keeps p.1).filter
        (·.2 = .group (h.syncs + 1)) = [] := by
      rw [List.filter_eq_nil_iff]
      intro p hmem
      simpa using hstale p hmem (h.syncs + 1)
    have hdirect : ([(directOutbound, Origin.direct)]).filter
        (·.2 = .group (h.syncs + 1)) = [] := rfl
    dsimp only
    rw [hdb, heq, ← List.singleton_append (x := (directOutbound, Origin.direct)),
      List.filter_append, List.filter_append, hdirect, hkept, List.nil_append, List.nil_append,
      SyncInput.written_groupTags]
    rfl
  · intro p hmem n horigin
    rw [heq, List.cons_append, List.mem_cons, List.mem_append] at hmem
    rcases hmem with rfl | hmem | hmem
    · cases horigin
    · exact absurd horigin (hstale p hmem n)
    · rcases (syncInput db).mem_written hmem with h | h | ⟨h, subscription, hsub, htype, htag⟩
      · rw [h] at horigin
        cases horigin
      · rw [h.1] at horigin
        cases horigin
      · rw [h] at horigin
        cases horigin
        refine ⟨rfl, Nat.succ_pos _, ?_, ?_⟩
        · rw [htype]
          exact isGroupType_groupType _ _
        · rw [htag]
          exact groupTags_named hnamed hsub
  · intro p hmem htype hgenerated
    rw [hsaved]
    rw [List.mem_append] at hgenerated
    rcases hgenerated with hearlier | hnow
    · rw [heq, List.cons_append, List.mem_cons, List.mem_append] at hmem
      rcases hmem with rfl | hmem | hmem
      · exact absurd htype (by decide)
      · rw [List.mem_filter] at hmem
        rcases hinv.generated p hmem.1 htype hearlier with ⟨hne, hsavedTag⟩ | h
        · have hkept := ((syncInput db).keeps_group_iff htype).mp hmem.2
          rw [SyncInput.mem_managedGroups, hprevious] at hkept
          exact absurd ⟨hne, .inl hsavedTag⟩ hkept.1
        · exact .inr h
      · rcases (syncInput db).mem_written hmem with h | h | ⟨-, subscription, hsub, -, htag⟩
        · exact .inr (.inl h)
        · exact .inr (.inr h)
        · refine .inl ⟨?_, ?_⟩
          · rw [htag]
            exact groupTags_named hnamed hsub
          · rw [htag]
            exact List.mem_map_of_mem hsub
    · exact .inl ⟨hgroupTag _ hnow, hnow⟩
  · intro tag htag
    rw [hsaved] at htag
    obtain ⟨subscription, hmem, rfl⟩ := List.mem_map.mp htag
    exact List.mem_append_right _ (List.mem_map_of_mem (List.mem_of_mem_filter hmem))

theorem next_consistent {codec : JSONCodec Bytes} {h : History Bytes}
    (hinv : h.Consistent codec) {i : Request × Surroundings}
    (hrollback : ∀ step, i.2.sync.rollback step = false) : (next codec h i).Consistent codec := by
  obtain ⟨request, around⟩ := i
  have hstore := request.store_keepsGroups around h.state.db
  unfold next
  dsimp only
  rcases request.handle_cases codec hrollback h.state with
    ⟨hsync, ⟨config, hconfig, hwrote⟩, hdb⟩ | ⟨hsync, htarget, hdb⟩
  · rw [if_pos hsync]
    exact hinv.synced (hstore.named hinv.named) hstore.managedGroups hconfig hwrote hdb
  · rw [hsync, if_neg Bool.false_ne_true]
    have hgroups : (request.handle codec around h.state).1.db.managedGroups =
        h.state.db.managedGroups := by
      rw [hdb]
      exact hstore.managedGroups
    have hsaved : SettingsManager.urlTestManagedGroups (request.handle codec around h.state).1.db =
        SettingsManager.urlTestManagedGroups h.state.db := congrArg (Option.getD · []) hgroups
    refine ⟨?_, ?_, ?_, hinv.current, ?_, ?_⟩
    · rw [hdb]
      exact hstore.named hinv.named
    · rw [hinv.file]
      simp only [SyncState.outbounds, SyncState.config?, htarget]
    · dsimp only
      rw [hgroups]
      exact hinv.managed
    · dsimp only
      rw [hsaved]
      exact hinv.generated
    · dsimp only
      rw [hsaved]
      exact fun tag htag => List.mem_append_left _ (hinv.names tag htag)

theorem run_consistent {codec : JSONCodec Bytes} {h : History Bytes}
    (hinv : h.Consistent codec) {requests : List (Request × Surroundings)}
    (hrollback : ∀ i ∈ requests, ∀ step, i.2.sync.rollback step = false) :
    (run (next codec) h requests).Consistent codec := by
  induction requests generalizing h with
  | nil => exact hinv
  | cons i requests ih =>
    rw [List.forall_mem_cons] at hrollback
    exact ih (next_consistent hinv hrollback.1) hrollback.2

/-- The groups that are nobody's: no subscription or generated group has had their tag, and
they are not the proxy selector. -/
def others (names : List String) (outbounds : List Value) : List Value :=
  outbounds.filter fun outbound => isGroupType (typeOf outbound) &&
    !names.contains (tagOf outbound) && tagOf outbound != "proxy"

theorem names_subset_next (codec : JSONCodec Bytes) (h : History Bytes)
    (i : Request × Surroundings) : h.names ⊆ (next codec h i).names := by
  unfold next
  split_ifs <;> exact List.subset_append_left _ _

theorem names_subset_run (codec : JSONCodec Bytes) (h : History Bytes)
    (requests : List (Request × Surroundings)) :
    h.names ⊆ (run (next codec) h requests).names := by
  induction requests generalizing h with
  | nil => exact List.Subset.refl _
  | cons i requests ih => exact List.Subset.trans (names_subset_next codec h i) (ih _)

theorem others_next_sublist {codec : JSONCodec Bytes} {h : History Bytes}
    (hinv : h.Consistent codec) {i : Request × Surroundings}
    (hrollback : ∀ step, i.2.sync.rollback step = false) {names : List String}
    (hnames : (next codec h i).names ⊆ names) :
    (others names (h.state.outbounds codec)).Sublist ((next codec h i).state.outbounds codec) := by
  obtain ⟨request, around⟩ := i
  unfold next at hnames ⊢
  dsimp only at hnames ⊢
  rcases request.handle_cases codec hrollback h.state with
    ⟨hsync, ⟨config, hconfig, hwrote⟩, -⟩ | ⟨hsync, htarget, -⟩
  · rw [if_pos hsync] at hnames ⊢
    set db := (request.store around h.state.db).1
    have hfile : h.state.outbounds codec = existingOutbounds config := by
      rw [SyncState.outbounds, hconfig]
      rfl
    have hkept := (syncInput db).kept_json
      (existingOutbounds_json (SyncState.config?_json hconfig))
    have hprevious : (syncInput db).previousGroups =
        SettingsManager.urlTestManagedGroups h.state.db :=
      congrArg (Option.getD · []) (request.store_keepsGroups around h.state.db).managedGroups
    have hkeeps : (others names (existingOutbounds config)).Sublist
        ((syncInput db).kept (existingOutbounds config)) := by
      apply List.monotone_filter_right
      intro outbound hother
      simp only [Bool.and_eq_true, Bool.not_eq_true', bne_iff_ne, ne_eq, List.contains_eq_mem,
        decide_eq_false_iff_not] at hother
      obtain ⟨⟨htype, hname⟩, hproxy⟩ := hother
      refine ((syncInput db).keeps_group_iff htype).mpr ⟨?_, fun h => hproxy h.2⟩
      rw [SyncInput.mem_managedGroups, hprevious]
      rintro ⟨-, hsaved | hsubscription⟩
      · exact hname (hnames (List.mem_append_left _ (hinv.names _ hsaved)))
      · exact hname (hnames (List.mem_append_right _ hsubscription))
    rw [hwrote.outbounds, hfile, SyncInput.outbounds_eq, List.map_append, List.map_cons, hkept]
    exact hkeeps.trans ((List.sublist_cons_self _ _).trans (List.sublist_append_left _ _))
  · rw [hsync, if_neg Bool.false_ne_true]
    have hsame : (request.handle codec around h.state).1.outbounds codec =
        h.state.outbounds codec := by
      simp only [SyncState.outbounds, SyncState.config?, htarget]
    dsimp only
    rw [hsame]
    exact List.filter_sublist

theorem others_run_sublist {codec : JSONCodec Bytes} {h : History Bytes}
    (hinv : h.Consistent codec) {requests : List (Request × Surroundings)}
    (hrollback : ∀ i ∈ requests, ∀ step, i.2.sync.rollback step = false) {names : List String}
    (hnames : (run (next codec) h requests).names ⊆ names) :
    (others names (h.state.outbounds codec)).Sublist
      ((run (next codec) h requests).state.outbounds codec) := by
  induction requests generalizing h with
  | nil => exact List.filter_sublist
  | cons i requests ih =>
    rw [List.forall_mem_cons] at hrollback
    have hstep := others_next_sublist hinv hrollback.1
      (List.Subset.trans (names_subset_run codec (next codec h i) requests) hnames)
    have hrest := ih (next_consistent hinv hrollback.1) hrollback.2 hnames
    have hagain := hstep.filter fun outbound => isGroupType (typeOf outbound) &&
      !names.contains (tagOf outbound) && tagOf outbound != "proxy"
    rw [others, List.filter_filter] at hagain
    simp only [Bool.and_self] at hagain
    exact hagain.trans hrest

end History

/-- Over every run of requests whose roll-backs do not fail, the saved group tags are those of
the groups the last synchronisation generated, and no group of an earlier one is left. An
outbound group under a tag that was once generated is a current group, was written for a
stored outbound, or is the proxy selector. The groups that are nobody's stay as they are. -/
theorem managedGroups_life_cycle (codec : JSONCodec Bytes) {s : SyncState Bytes}
    (hnamed : Named s.db) {before after : List (Request × Surroundings)}
    (hrollback : ∀ i ∈ before ++ after, ∀ step, i.2.sync.rollback step = false) :
    let h := run (History.next codec) (.start codec s) before
    let h' := run (History.next codec) h after
    h'.state = run (fun s (i : Request × Surroundings) => (i.1.handle codec i.2 s).1) s
      (before ++ after) ∧
    h'.labelled.map Prod.fst = h'.state.outbounds codec ∧
    (0 < h'.syncs → h'.state.db.managedGroups =
      some ((h'.labelled.filter (·.2 = .group h'.syncs)).map (tagOf ·.1))) ∧
    (∀ p ∈ h'.labelled, ∀ n, p.2 = .group n → n = h'.syncs) ∧
    (∀ p ∈ h'.labelled, isGroupType (typeOf p.1) = true → tagOf p.1 ∈ h'.generated →
      tagOf p.1 ∈ SettingsManager.urlTestManagedGroups h'.state.db ∨ p.2 = .stored ∨
        p.2 = .selector ∧ tagOf p.1 = "proxy") ∧
    ((h.state.outbounds codec).filter fun outbound => isGroupType (typeOf outbound) &&
      !h'.names.contains (tagOf outbound) && tagOf outbound != "proxy").Sublist
        (h'.state.outbounds codec) := by
  intro h h'
  have hbefore : ∀ i ∈ before, ∀ step, i.2.sync.rollback step = false :=
    fun i hi => hrollback i (List.mem_append_left _ hi)
  have hafter : ∀ i ∈ after, ∀ step, i.2.sync.rollback step = false :=
    fun i hi => hrollback i (List.mem_append_right _ hi)
  have hinv : h.Consistent codec :=
    History.run_consistent (History.start_consistent codec hnamed) hbefore
  have hinv' : h'.Consistent codec := History.run_consistent hinv hafter
  refine ⟨?_, hinv'.file, hinv'.managed, ?_, ?_, ?_⟩
  · have hrun : h' = run (History.next codec) (.start codec s) (before ++ after) :=
      (run_append _ before after).symm
    rw [hrun]
    exact History.run_next_state codec _ _
  · exact fun p hmem n horigin => (hinv'.current p hmem n horigin).1
  · intro p hmem htype hgenerated
    rcases hinv'.generated p hmem htype hgenerated with h | h
    · exact .inl h.2
    · exact .inr h
  · exact History.others_run_sublist hinv hafter (List.Subset.refl _)

/-- Every server serves a node "hk", and no call fails. -/
def servedNode : Surroundings where
  stx := ⟨fun _ => true, fun _ => true⟩
  download _ := .ok [⟨"hk", "vless", "192.0.2.1", 443, .null⟩]
  now := 1
  sync := .clean

def emptyConfigState : SyncState { v : Value // v.json = v } where
  dir := ⟨some (documentCodec.marshal (Object.toValue ∅)), none⟩
  db := emptyDatabase

/-- A subscription is created and refreshed under one name, then renamed. -/
def createAndRefresh : List (Request × Surroundings) :=
  [(.createSubscription ⟨"a", "https://sub.example", 60, none⟩, servedNode),
    (.refreshSubscription "1", servedNode)]

def renameAndSync : List (Request × Surroundings) :=
  [(.updateSubscription "1" ⟨"b", "", 0, none⟩, servedNode), (.syncToConfig, servedNode)]

theorem renamed_life_cycle :
    let h := run (History.next documentCodec) (.start documentCodec emptyConfigState)
      createAndRefresh
    let h' := run (History.next documentCodec) h renameAndSync
    h'.generated = ["a", "b"] ∧
    h'.state.outboundTags documentCodec = ["direct", "hk", "b", "proxy"] ∧
    (0 < h'.syncs → h'.state.db.managedGroups =
      some ((h'.labelled.filter (·.2 = .group h'.syncs)).map (tagOf ·.1))) ∧
    ∀ p ∈ h'.labelled, ∀ n, p.2 = .group n → n = h'.syncs := by
  have hnamed : Named emptyConfigState.db := by
    intro id sub hget
    simp [emptyConfigState, emptyDatabase] at hget
  have hrollback : ∀ i ∈ createAndRefresh ++ renameAndSync,
      ∀ step, i.2.sync.rollback step = false := by
    intro i hi step
    simp only [createAndRefresh, renameAndSync, List.cons_append, List.nil_append,
      List.mem_cons, List.not_mem_nil, or_false] at hi
    rcases hi with rfl | rfl | rfl | rfl <;> rfl
  obtain ⟨-, -, hmanaged, hcurrent, -⟩ :=
    managedGroups_life_cycle documentCodec hnamed hrollback
  exact ⟨by decide, by decide, hmanaged, hcurrent⟩

end Boxui.API
