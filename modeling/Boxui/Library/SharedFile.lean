import Boxui.Library.Machine
import Mathlib.Data.List.Nodup

/-! A file that several mutations change at the same time without a lock. A mutation reads the
file, works out new content from what it read, writes that, and writes the earlier content back
when the write turns out badly. Only a single read or write is atomic. -/
namespace SharedFile

variable {ι α : Type*}

/-- What a mutation does once it has read the file: the content it writes, and which of its
later calls fail. `rollbackFails` may depend on the content to go back to. -/
structure Plan (α : Type*) where
  body : α
  rereadFails : Bool
  writeFails : Bool
  commitFails : Bool
  rollbackFails : Option α → Bool
  reportFails : Bool

/-- A mutation that rereads takes the content to go back to from a second read just before the
write, and otherwise from the first. -/
structure Mutation (α : Type*) where
  plan : Option α → Option (Plan α)
  rereads : Bool

/-- Only with `succeeded` and `left` the write is in force; `left` still reports an error. -/
inductive Result where
  | succeeded
  | failed
  | restored
  | left
  deriving DecidableEq, Repr

def Result.stands : Result → Bool
  | .succeeded | .left => true
  | .failed | .restored => false

/-- A planned mutation with the file to itself. -/
def Plan.finish (p : Plan α) (rereads : Bool) (c : Option α) : Option α × Result :=
  if rereads && p.rereadFails then (c, .failed)
  else if p.writeFails then (c, .failed)
  else if p.commitFails then
    if p.rollbackFails c then (some p.body, .left) else (c, .restored)
  else (some p.body, if p.reportFails then .left else .succeeded)

/-- The mutation with the file to itself. -/
def Mutation.alone (m : Mutation α) (c : Option α) : Option α × Result :=
  match m.plan c with
  | none => (c, .failed)
  | some p => p.finish m.rereads c

/-- The mutations one after the other. -/
def serial (m : ι → Mutation α) (c : Option α) (order : List ι) : Option α :=
  order.foldl (fun c i => ((m i).alone c).1) c

/-- Where a mutation is. The numbers count the writes to the file at the moment of the first
read, of the read of the content to go back to, and of the mutation's own write. -/
inductive Phase (α : Type*) where
  | start
  | planned (read : Nat) (p : Plan α)
  | ready (read prior : Nat) (p : Plan α) (previous : Option α)
  | written (prior own : Nat) (p : Plan α) (previous : Option α)
  | done (result : Result)

/-- The phase is one in which the mutation, begun on `c`, has its write in force. -/
def Phase.Stands (m : Mutation α) (c : Option α) (body : α) : Phase α → Prop
  | .written _ _ p _ => m.plan c = some p ∧ (m.rereads && p.rereadFails) = false ∧
      p.writeFails = false ∧ p.body = body
  | .done r => m.alone c = (some body, r) ∧ r.stands = true
  | _ => False

/-- Each of the mutations has its write in force when they run one after the other. -/
def Chain (m : ι → Mutation α) (phase : ι → Phase α) : Option α → List ι → Option α → Prop
  | c, [], c' => c = c'
  | c, i :: order, c' => ∃ body, (phase i).Stands (m i) c body ∧
      Chain m phase (some body) order c'

theorem Chain.mono {m : ι → Mutation α} {phase phase' : ι → Phase α} {c c' : Option α}
    {order : List ι} (h : Chain m phase c order c')
    (hphase : ∀ i ∈ order, ∀ c body, (phase i).Stands (m i) c body →
      (phase' i).Stands (m i) c body) : Chain m phase' c order c' := by
  induction order generalizing c with
  | nil => exact h
  | cons i order ih =>
    obtain ⟨body, hstands, hrest⟩ := h
    exact ⟨body, hphase i List.mem_cons_self c body hstands,
      ih hrest fun j hj => hphase j (List.mem_cons_of_mem _ hj)⟩

theorem chain_append {m : ι → Mutation α} {phase : ι → Phase α} {c c' : Option α}
    {order : List ι} {i : ι} : Chain m phase c (order ++ [i]) c' ↔
      ∃ c₁ body, Chain m phase c order c₁ ∧ (phase i).Stands (m i) c₁ body ∧ c' = some body := by
  induction order generalizing c with
  | nil =>
    constructor
    · rintro ⟨body, hstands, rfl⟩
      exact ⟨c, body, rfl, hstands, rfl⟩
    · rintro ⟨_, body, rfl, hstands, rfl⟩
      exact ⟨body, hstands, rfl⟩
  | cons j order ih =>
    constructor
    · rintro ⟨body, hj, hrest⟩
      obtain ⟨c₁, body₁, hchain, hi, rfl⟩ := ih.mp hrest
      exact ⟨c₁, body₁, ⟨body, hj, hchain⟩, hi, rfl⟩
    · rintro ⟨c₁, body₁, ⟨body, hj, hchain⟩, hi, rfl⟩
      exact ⟨body, hj, ih.mpr ⟨c₁, body₁, hchain, hi, rfl⟩⟩

theorem Phase.Stands.unique {m : Mutation α} {c : Option α} {body body' : α} {ph : Phase α}
    (h : ph.Stands m c body) (h' : ph.Stands m c body') : body = body' := by
  cases ph with
  | written prior own p previous => exact h.2.2.2.symm.trans h'.2.2.2
  | done r => exact Option.some.inj (Prod.mk.inj (h.1.symm.trans h'.1)).1
  | _ => cases h

theorem Chain.unique {m : ι → Mutation α} {phase : ι → Phase α} {c c₁ c₂ : Option α}
    {order : List ι} (h₁ : Chain m phase c order c₁) (h₂ : Chain m phase c order c₂) :
    c₁ = c₂ := by
  induction order generalizing c with
  | nil => exact h₁.symm.trans h₂
  | cons i order ih =>
    obtain ⟨body, hstands, hrest⟩ := h₁
    obtain ⟨body', hstands', hrest'⟩ := h₂
    obtain rfl := hstands.unique hstands'
    exact ih hrest hrest'

theorem Chain.stands {m : ι → Mutation α} {phase : ι → Phase α} {c c' : Option α}
    {order : List ι} (h : Chain m phase c order c') {i : ι} (hi : i ∈ order) :
    ∃ c body, (phase i).Stands (m i) c body := by
  induction order generalizing c with
  | nil => cases hi
  | cons j order ih =>
    obtain ⟨body, hstands, hrest⟩ := h
    rcases List.mem_cons.mp hi with rfl | hi
    · exact ⟨c, body, hstands⟩
    · exact ih hrest hi

/-- When all of them are done, they leave the file as a serial run does. -/
theorem Chain.serial {m : ι → Mutation α} {phase : ι → Phase α} {c c' : Option α}
    {order : List ι} (h : Chain m phase c order c')
    (hdone : ∀ i ∈ order, ∃ r, phase i = .done r) : c' = serial m c order := by
  induction order generalizing c with
  | nil => exact h.symm
  | cons i order ih =>
    obtain ⟨body, hstands, hrest⟩ := h
    obtain ⟨r, hr⟩ := hdone i List.mem_cons_self
    rw [hr] at hstands
    rw [ih hrest fun j hj => hdone j (List.mem_cons_of_mem _ hj)]
    simp [SharedFile.serial, hstands.1]

/-- What a mutation that is done has reported is what it reports at its place in a serial run. -/
theorem Chain.report {m : ι → Mutation α} {phase : ι → Phase α} {c c' : Option α}
    {before after : List ι} {i : ι} (h : Chain m phase c (before ++ i :: after) c')
    (hdone : ∀ j ∈ before ++ i :: after, ∃ r, phase j = .done r) :
    phase i = .done ((m i).alone (SharedFile.serial m c before)).2 := by
  induction before generalizing c with
  | nil =>
    obtain ⟨body, hstands, -⟩ := h
    obtain ⟨r, hr⟩ := hdone i List.mem_cons_self
    rw [hr] at hstands ⊢
    exact congrArg Phase.done (congrArg Prod.snd hstands.1).symm
  | cons j before ih =>
    obtain ⟨body, hstands, hrest⟩ := h
    obtain ⟨r, hr⟩ := hdone j List.mem_cons_self
    rw [hr] at hstands
    rw [ih hrest fun k hk => hdone k (List.mem_cons_of_mem _ hk)]
    simp [SharedFile.serial, hstands.1]

/-- The file and the phases, with two records that no step reads: how often the file was
written, and whose writes are in force, in the order they were made. -/
structure State (ι α : Type*) where
  content : Option α
  phase : ι → Phase α
  writes : Nat
  standing : List ι

namespace State

def initial (c : Option α) : State ι α := ⟨c, fun _ => .start, 0, []⟩

variable [DecidableEq ι]

def moveTo (s : State ι α) (i : ι) (ph : Phase α) : State ι α :=
  { s with phase := Function.update s.phase i ph }

@[simp] theorem content_moveTo (s : State ι α) (i : ι) (ph : Phase α) :
    (s.moveTo i ph).content = s.content := rfl

@[simp] theorem writes_moveTo (s : State ι α) (i : ι) (ph : Phase α) :
    (s.moveTo i ph).writes = s.writes := rfl

@[simp] theorem standing_moveTo (s : State ι α) (i : ι) (ph : Phase α) :
    (s.moveTo i ph).standing = s.standing := rfl

@[simp] theorem phase_moveTo_self (s : State ι α) (i : ι) (ph : Phase α) :
    (s.moveTo i ph).phase i = ph := by
  simp [moveTo]

theorem phase_moveTo_of_ne (s : State ι α) {i j : ι} (h : j ≠ i) (ph : Phase α) :
    (s.moveTo i ph).phase j = s.phase j := by
  simp [moveTo, h]

end State

variable [DecidableEq ι]

/-- The next step of one mutation. -/
def step (m : ι → Mutation α) (s : State ι α) (i : ι) : State ι α :=
  match s.phase i with
  | .start =>
    match (m i).plan s.content with
    | none => s.moveTo i (.done .failed)
    | some p =>
      s.moveTo i (if (m i).rereads then .planned s.writes p
        else .ready s.writes s.writes p s.content)
  | .planned read p =>
    s.moveTo i (if p.rereadFails then .done .failed else .ready read s.writes p s.content)
  | .ready _ prior p previous =>
    if p.writeFails then s.moveTo i (.done .failed)
    else
      State.moveTo { s with
        content := some p.body
        writes := s.writes + 1
        standing := s.standing ++ [i] } i (.written prior s.writes p previous)
  | .written _ _ p previous =>
    if p.commitFails then
      if p.rollbackFails previous then s.moveTo i (.done .left)
      else
        State.moveTo { s with
          content := previous
          writes := s.writes + 1
          standing := s.standing.erase i } i (.done .restored)
    else s.moveTo i (.done (if p.reportFails then .left else .succeeded))
  | .done _ => s

/-- The mutation does not look at the content it reads. -/
def Mutation.Blind (m : Mutation α) : Prop := ∀ c c', m.plan c = m.plan c'

/-- The mutation is not about to write what it worked out from overwritten content, nor to roll
back over the write of another. -/
def Undisturbed (m : ι → Mutation α) (s : State ι α) (i : ι) : Prop :=
  match s.phase i with
  | .ready read _ p _ => p.writeFails = false → (m i).Blind ∨ read = s.writes
  | .written prior own p _ => p.commitFails = true → prior = own ∧ s.writes = own + 1
  | _ => True

/-- What is known of a mutation's plan and of the content it would go back to: as long as no one
has written since the reads, they are up to date. -/
def Phase.Current (m : ι → Mutation α) (c : Option α) (s : State ι α) (i : ι) : Phase α → Prop
  | .planned read p => (∃ c, (m i).plan c = some p) ∧ (m i).rereads = true ∧ read ≤ s.writes ∧
      (read = s.writes → (m i).plan s.content = some p)
  | .ready read prior p previous => (∃ c, (m i).plan c = some p) ∧
      ((m i).rereads && p.rereadFails) = false ∧ read ≤ s.writes ∧ prior ≤ s.writes ∧
      (read = s.writes → (m i).plan s.content = some p) ∧
      (prior = s.writes → previous = s.content)
  | .written prior own _ previous => own < s.writes ∧ (prior = own → s.writes = own + 1 →
      ∃ order, s.standing = order ++ [i] ∧ Chain m s.phase c order previous)
  | _ => True

def Phase.inForce : Phase α → Bool
  | .written _ _ _ _ => true
  | .done r => r.stands
  | _ => false

/-- The writes in force make up a serial run from `c` that leaves the file as it is. -/
structure Consistent (m : ι → Mutation α) (c : Option α) (s : State ι α) : Prop where
  chain : Chain m s.phase c s.standing s.content
  nodup : s.standing.Nodup
  inForce : ∀ i, (s.phase i).inForce = true → i ∈ s.standing
  current : ∀ i, (s.phase i).Current m c s i

omit [DecidableEq ι] in
theorem initial_consistent (m : ι → Mutation α) (c : Option α) :
    Consistent m c (State.initial c) where
  chain := rfl
  nodup := List.nodup_nil
  inForce i h := by cases h
  current i := trivial

theorem Phase.Stands.inForce {m : Mutation α} {c : Option α} {body : α} {ph : Phase α}
    (h : ph.Stands m c body) : ph.inForce = true := by
  cases ph with
  | written prior own p previous => rfl
  | done r => exact h.2
  | _ => cases h

omit [DecidableEq ι] in
theorem Consistent.mem_standing_iff {m : ι → Mutation α} {c : Option α} {s : State ι α}
    (h : Consistent m c s) (i : ι) : i ∈ s.standing ↔ (s.phase i).inForce = true := by
  constructor
  · intro hi
    obtain ⟨_, _, hstands⟩ := h.chain.stands hi
    exact hstands.inForce
  · exact h.inForce i

omit [DecidableEq ι] in
/-- A phase stays current when neither the file nor the standing writes have changed, and the
mutations whose writes stand still have them in force. -/
theorem Phase.Current.congr {m : ι → Mutation α} {c : Option α} {s s' : State ι α} {i : ι}
    {ph : Phase α} (h : ph.Current m c s i) (hcontent : s'.content = s.content)
    (hwrites : s'.writes = s.writes) (hstanding : s'.standing = s.standing)
    (hphase : ∀ j ∈ s.standing, j ≠ i → ∀ c body, (s.phase j).Stands (m j) c body →
      (s'.phase j).Stands (m j) c body) (hnodup : s.standing.Nodup) : ph.Current m c s' i := by
  cases ph with
  | planned read p => simpa only [Phase.Current, hcontent, hwrites] using h
  | ready read prior p previous => simpa only [Phase.Current, hcontent, hwrites] using h
  | written prior own p previous =>
    obtain ⟨hlt, hlast⟩ := h
    rw [Phase.Current, hwrites, hstanding]
    refine ⟨hlt, fun hprior hown => ?_⟩
    obtain ⟨order, horder, hchain⟩ := hlast hprior hown
    rw [horder, List.nodup_append] at hnodup
    refine ⟨order, horder, hchain.mono fun j hj => hphase j ?_ ?_⟩
    · rw [horder]
      exact List.mem_append_left _ hj
    · exact fun heq => hnodup.2.2 j hj i List.mem_cons_self heq
  | _ => trivial

/-- A step of a mutation whose write is not in force, and will not be by this step. -/
theorem Consistent.moveTo {m : ι → Mutation α} {c : Option α} {s : State ι α}
    (h : Consistent m c s) {i : ι} {ph : Phase α} (hi : (s.phase i).inForce = false)
    (hph : ph.inForce = false) (hcurrent : ph.Current m c s i) :
    Consistent m c (s.moveTo i ph) := by
  have hmem : i ∉ s.standing := by
    rw [h.mem_standing_iff, hi]
    exact Bool.false_ne_true
  have hphase : ∀ j ∈ s.standing, ∀ c body, (s.phase j).Stands (m j) c body →
      ((s.moveTo i ph).phase j).Stands (m j) c body := by
    intro j hj c body hstands
    have hji : j ≠ i := by
      rintro rfl
      exact hmem hj
    rwa [s.phase_moveTo_of_ne hji]
  have hcongr {j : ι} {ph' : Phase α} (hj : ph'.Current m c s j) :
      ph'.Current m c (s.moveTo i ph) j :=
    hj.congr rfl rfl rfl (fun k hk _ => hphase k hk) h.nodup
  refine ⟨h.chain.mono hphase, h.nodup, fun j hj => ?_, fun j => ?_⟩
  · by_cases hji : j = i
    · subst hji
      rw [s.phase_moveTo_self, hph] at hj
      cases hj
    · rw [s.phase_moveTo_of_ne hji] at hj
      exact h.inForce j hj
  · by_cases hji : j = i
    · subst hji
      rw [s.phase_moveTo_self]
      exact hcongr hcurrent
    · rw [s.phase_moveTo_of_ne hji]
      exact hcongr (h.current j)

/-- A mutation whose write is in force is done, and keeps it there. -/
theorem Consistent.settle {m : ι → Mutation α} {c : Option α} {s : State ι α}
    (h : Consistent m c s) {i : ι} {r : Result} (hi : i ∈ s.standing)
    (hchain : ∀ order rest c', s.standing = order ++ rest → Chain m s.phase c order c' →
      Chain m (s.moveTo i (.done r)).phase c order c') :
    Consistent m c (s.moveTo i (.done r)) := by
  refine ⟨hchain _ [] _ (List.append_nil _).symm h.chain, h.nodup, fun j hj => ?_, fun j => ?_⟩
  · by_cases hji : j = i
    · exact hji ▸ hi
    · rw [s.phase_moveTo_of_ne hji] at hj
      exact h.inForce j hj
  · by_cases hji : j = i
    · subst hji
      rw [s.phase_moveTo_self]
      trivial
    · rw [s.phase_moveTo_of_ne hji]
      have hcurrent := h.current j
      cases hphase : s.phase j with
      | written prior own p previous =>
        rw [hphase] at hcurrent
        refine ⟨hcurrent.1, fun hprior hown => ?_⟩
        obtain ⟨order, horder, hlast⟩ := hcurrent.2 hprior hown
        exact ⟨order, horder, hchain order [j] previous horder hlast⟩
      | _ => rw [hphase] at hcurrent; exact hcurrent

omit [DecidableEq ι] in
/-- Another write outdates what a mutation has read. -/
theorem Phase.Current.later {m : ι → Mutation α} {c : Option α} {s s' : State ι α} {i : ι}
    {ph : Phase α} (h : ph.Current m c s i) (hwrites : s'.writes = s.writes + 1) :
    ph.Current m c s' i := by
  cases ph with
  | planned read p =>
    obtain ⟨hplan, hrereads, hle, -⟩ := h
    exact ⟨hplan, hrereads, by omega, fun heq => by omega⟩
  | ready read prior p previous =>
    obtain ⟨hplan, hreread, hle, hle', -⟩ := h
    exact ⟨hplan, hreread, by omega, by omega, fun heq => by omega, fun heq => by omega⟩
  | written prior own p previous =>
    obtain ⟨hlt, -⟩ := h
    exact ⟨by omega, fun _ hown => by omega⟩
  | _ => trivial

theorem Consistent.write {m : ι → Mutation α} {c : Option α} {s : State ι α}
    (h : Consistent m c s) {i : ι} {read prior : Nat} {p : Plan α} {previous : Option α}
    (hi : s.phase i = .ready read prior p previous) (hwrite : p.writeFails = false)
    (hread : (m i).Blind ∨ read = s.writes) :
    Consistent m c (State.moveTo { s with
      content := some p.body
      writes := s.writes + 1
      standing := s.standing ++ [i] } i (.written prior s.writes p previous)) := by
  obtain ⟨⟨c₀, hplan₀⟩, hreread, -, -, hplan, hprevious⟩ :
      (Phase.ready read prior p previous).Current m c s i := hi ▸ h.current i
  have hplan : (m i).plan s.content = some p := by
    rcases hread with hblind | hread
    · rw [← hplan₀]
      exact hblind _ _
    · exact hplan hread
  have hmem : i ∉ s.standing := by
    rw [h.mem_standing_iff, hi]
    exact Bool.false_ne_true
  set s' : State ι α := State.moveTo { s with
    content := some p.body
    writes := s.writes + 1
    standing := s.standing ++ [i] } i (.written prior s.writes p previous)
  have hself : s'.phase i = .written prior s.writes p previous := State.phase_moveTo_self _ _ _
  have hother {j : ι} (hji : j ≠ i) : s'.phase j = s.phase j := State.phase_moveTo_of_ne _ hji _
  have hchain : Chain m s'.phase c s.standing s.content := by
    refine h.chain.mono fun j hj c body hstands => ?_
    have hji : j ≠ i := by
      rintro rfl
      exact hmem hj
    rwa [hother hji]
  constructor
  · refine chain_append.mpr ⟨s.content, p.body, hchain, ?_, rfl⟩
    rw [hself]
    exact ⟨hplan, hreread, hwrite, rfl⟩
  · refine List.nodup_append.mpr ⟨h.nodup, List.nodup_singleton i, ?_⟩
    intro j hj k hk
    rw [List.mem_singleton.mp hk]
    rintro rfl
    exact hmem hj
  · intro j hj
    by_cases hji : j = i
    · exact List.mem_append_right _ (List.mem_singleton.mpr hji)
    · rw [hother hji] at hj
      exact List.mem_append_left _ (h.inForce j hj)
  · intro j
    by_cases hji : j = i
    · subst hji
      rw [hself]
      refine ⟨Nat.lt_succ_self _, fun hprior _ => ⟨s.standing, rfl, ?_⟩⟩
      rw [hprevious hprior]
      exact hchain
    · rw [hother hji]
      exact (h.current j).later rfl

theorem Consistent.restore {m : ι → Mutation α} {c : Option α} {s : State ι α}
    (h : Consistent m c s) {i : ι} {previous : Option α} {order : List ι}
    (horder : s.standing = order ++ [i]) (hchain : Chain m s.phase c order previous) :
    Consistent m c (State.moveTo { s with
      content := previous
      writes := s.writes + 1
      standing := s.standing.erase i } i (.done .restored)) := by
  have hnodup := h.nodup
  rw [horder, List.nodup_append] at hnodup
  have hmem : i ∉ order := fun hi => hnodup.2.2 i hi i List.mem_cons_self rfl
  have herase : s.standing.erase i = order := by
    rw [horder, List.erase_append_right _ hmem, List.erase_cons_head, List.append_nil]
  rw [herase]
  set s' : State ι α := State.moveTo { s with
    content := previous
    writes := s.writes + 1
    standing := order } i (.done .restored)
  have hself : s'.phase i = .done .restored := State.phase_moveTo_self _ _ _
  have hother {j : ι} (hji : j ≠ i) : s'.phase j = s.phase j := State.phase_moveTo_of_ne _ hji _
  constructor
  · refine hchain.mono fun j hj c body hstands => ?_
    have hji : j ≠ i := by
      rintro rfl
      exact hmem hj
    rwa [hother hji]
  · exact hnodup.1
  · intro j hj
    by_cases hji : j = i
    · subst hji
      rw [hself] at hj
      cases hj
    · rw [hother hji] at hj
      have hold := h.inForce j hj
      rw [horder, List.mem_append, List.mem_singleton] at hold
      exact hold.resolve_right hji
  · intro j
    by_cases hji : j = i
    · subst hji
      rw [hself]
      trivial
    · rw [hother hji]
      exact (h.current j).later rfl

theorem Consistent.committed {m : ι → Mutation α} {c : Option α} {s : State ι α}
    (h : Consistent m c s) {i : ι} {prior own : Nat} {p : Plan α} {previous : Option α}
    (hi : s.phase i = .written prior own p previous) (hcommit : p.commitFails = false) :
    Consistent m c (s.moveTo i (.done (if p.reportFails then .left else .succeeded))) := by
  refine h.settle (h.inForce i (by rw [hi]; rfl)) fun order _ c' _ hchain =>
    hchain.mono fun j _ c body hstands => ?_
  by_cases hji : j = i
  · subst hji
    rw [hi] at hstands
    obtain ⟨hplan, hreread, hwrite, rfl⟩ := hstands
    rw [s.phase_moveTo_self]
    refine ⟨?_, by cases p.reportFails <;> rfl⟩
    simp [Mutation.alone, Plan.finish, hplan, hreread, hwrite, hcommit]
  · rwa [s.phase_moveTo_of_ne hji]

/-- A mutation that cannot roll back leaves its write in force. -/
theorem Consistent.leave {m : ι → Mutation α} {c : Option α} {s : State ι α}
    (h : Consistent m c s) {i : ι} {prior own : Nat} {p : Plan α} {previous : Option α}
    (hi : s.phase i = .written prior own p previous) (hcommit : p.commitFails = true)
    (hrollback : p.rollbackFails previous = true) {order : List ι}
    (horder : s.standing = order ++ [i]) (hlast : Chain m s.phase c order previous) :
    Consistent m c (s.moveTo i (.done .left)) := by
  have hnodup := h.nodup
  rw [horder, List.nodup_append] at hnodup
  have hmono {before : List ι} (hmem : i ∉ before) {c' : Option α}
      (hchain : Chain m s.phase c before c') :
      Chain m (s.moveTo i (.done .left)).phase c before c' := by
    refine hchain.mono fun j hj c body hstands => ?_
    have hji : j ≠ i := by
      rintro rfl
      exact hmem hj
    rwa [s.phase_moveTo_of_ne hji]
  have hi_order : i ∉ order := fun hj => hnodup.2.2 i hj i List.mem_cons_self rfl
  refine h.settle (by rw [horder]; simp) fun before rest c' hbefore hchain => ?_
  rcases List.eq_nil_or_concat rest with rfl | ⟨rest, k, rfl⟩
  · rw [List.append_nil, horder] at hbefore
    subst hbefore
    obtain ⟨c₁, body, hbefore, hstands, rfl⟩ := chain_append.mp hchain
    obtain rfl := hbefore.unique hlast
    refine chain_append.mpr ⟨c₁, body, hmono hi_order hlast, ?_, rfl⟩
    rw [hi] at hstands
    obtain ⟨hplan, hreread, hwrite, rfl⟩ := hstands
    rw [s.phase_moveTo_self]
    refine ⟨?_, rfl⟩
    simp [Mutation.alone, Plan.finish, hplan, hreread, hwrite, hcommit, hrollback]
  · rw [horder, List.concat_eq_append, ← List.append_assoc] at hbefore
    obtain ⟨rfl, -⟩ := List.append_inj' hbefore rfl
    exact hmono (fun hmem => hi_order (List.mem_append_left _ hmem)) hchain

theorem step_consistent {m : ι → Mutation α} {c : Option α} {s : State ι α}
    (h : Consistent m c s) {i : ι} (hundisturbed : Undisturbed m s i) :
    Consistent m c (step m s i) := by
  have hcurrent := h.current i
  unfold Undisturbed at hundisturbed
  unfold step
  cases hi : s.phase i with
  | start =>
    have hforce : (s.phase i).inForce = false := by
      rw [hi]
      rfl
    dsimp only
    cases hplan : (m i).plan s.content with
    | none => exact h.moveTo hforce rfl trivial
    | some p =>
      by_cases hrereads : (m i).rereads = true
      · simp only [if_pos hrereads]
        exact h.moveTo hforce rfl ⟨⟨_, hplan⟩, hrereads, Nat.le_refl _, fun _ => hplan⟩
      · simp only [if_neg hrereads]
        exact h.moveTo hforce rfl ⟨⟨_, hplan⟩, by simp [hrereads], Nat.le_refl _, Nat.le_refl _,
          fun _ => hplan, fun _ => rfl⟩
  | planned read p =>
    have hforce : (s.phase i).inForce = false := by
      rw [hi]
      rfl
    rw [hi] at hcurrent
    obtain ⟨hplan₀, -, hle, hplan⟩ := hcurrent
    by_cases hreread : p.rereadFails = true
    · simp only [if_pos hreread]
      exact h.moveTo hforce rfl trivial
    · simp only [if_neg hreread]
      exact h.moveTo hforce rfl ⟨hplan₀, by simp [hreread], hle, Nat.le_refl _, hplan,
        fun _ => rfl⟩
  | ready read prior p previous =>
    have hforce : (s.phase i).inForce = false := by
      rw [hi]
      rfl
    rw [hi] at hundisturbed
    dsimp only at hundisturbed ⊢
    by_cases hwrite : p.writeFails = true
    · rw [if_pos hwrite]
      exact h.moveTo hforce rfl trivial
    · rw [if_neg hwrite]
      have hwrite := Bool.eq_false_iff.mpr hwrite
      exact h.write hi hwrite (hundisturbed hwrite)
  | written prior own p previous =>
    rw [hi] at hundisturbed hcurrent
    dsimp only at hundisturbed ⊢
    by_cases hcommit : p.commitFails = true
    · obtain ⟨hprior, hown⟩ := hundisturbed hcommit
      obtain ⟨order, horder, hlast⟩ := hcurrent.2 hprior hown
      rw [if_pos hcommit]
      by_cases hrollback : p.rollbackFails previous = true
      · rw [if_pos hrollback]
        exact h.leave hi hcommit hrollback horder hlast
      · rw [if_neg hrollback]
        exact h.restore horder hlast
    · rw [if_neg hcommit]
      exact h.committed hi (Bool.eq_false_iff.mpr hcommit)
  | done r => exact h

/-- Every interleaving whose writes and rollbacks are undisturbed is consistent. -/
theorem run_consistent (m : ι → Mutation α) (c : Option α) {schedule : List ι}
    (h : Machine.Along (step m) (Undisturbed m) (State.initial c) schedule) :
    Consistent m c (Machine.run (step m) (State.initial c) schedule) :=
  Machine.run_along (P := Consistent m c) (fun _ _ hi hs => step_consistent hs hi) h
    (initial_consistent m c)

/-- The steps of one mutation, with no other in between, are its run alone. -/
theorem run_alone (m : ι → Mutation α) (c : Option α) (i : ι) :
    (Machine.run (step m) (State.initial c) [i, i, i, i]).content = ((m i).alone c).1 ∧
      (Machine.run (step m) (State.initial c) [i, i, i, i]).phase i =
        .done ((m i).alone c).2 := by
  simp only [Machine.run_cons, Machine.run_nil]
  cases hplan : (m i).plan c with
  | none => simp [step, State.initial, hplan, Mutation.alone]
  | some p =>
    cases hrereads : (m i).rereads <;> cases hreread : p.rereadFails <;>
      cases hwrite : p.writeFails <;> cases hcommit : p.commitFails <;>
        cases hrollback : p.rollbackFails c <;>
          simp [step, State.initial, hplan, hrereads, hreread, hwrite, hcommit, hrollback,
            Mutation.alone, Plan.finish]

end SharedFile
