import Boxui.API.ConfigMutations

/-! Concurrent changes to the configuration file: when no update is lost, and how one is. -/
namespace Boxui.API
open GoValue Boxui.Core SharedFile Machine

variable {Bytes ι : Type*} [DecidableEq ι]

/-- The requests one after the other. -/
def serialHandle (codec : JSONCodec Bytes) (d : Digest Bytes) (formatFloat : Rat → String)
    (requests : ι → ConfigMutation Bytes) (target : Option Bytes) (order : List ι) :
    Option Bytes :=
  order.foldl (fun target i => ((requests i).handle codec d formatFloat target).1) target

omit [DecidableEq ι] in
theorem serial_shared (codec : JSONCodec Bytes) (d : Digest Bytes) (formatFloat : Rat → String)
    (requests : ι → ConfigMutation Bytes) (target : Option Bytes) (order : List ι) :
    serial (fun i => (requests i).shared codec d formatFloat) target order =
      serialHandle codec d formatFloat requests target order := by
  unfold serial serialHandle
  congr
  funext target i
  exact ((requests i).shared_alone codec d formatFloat target).1

/-- In every interleaving in which no request writes what it worked out from overwritten
content, or rolls back over another's write, no success is undone. When the requests whose
writes stand are done, the file is what they leave there one after the other, in the order of
their writes, and each reports there what it reported. -/
theorem requests_serial (codec : JSONCodec Bytes) (d : Digest Bytes)
    (formatFloat : Rat → String) (requests : ι → ConfigMutation Bytes) (target : Option Bytes)
    {schedule : List ι}
    (hundisturbed : Along (step fun i => (requests i).shared codec d formatFloat)
      (Undisturbed fun i => (requests i).shared codec d formatFloat) (.initial target) schedule) :
    let s := run (step fun i => (requests i).shared codec d formatFloat) (.initial target) schedule
    s.standing.Nodup ∧ (∀ i, s.phase i = .done .succeeded → i ∈ s.standing) ∧
    ((∀ i ∈ s.standing, ∃ r, s.phase i = .done r) →
      (∀ i, i ∈ s.standing ↔ s.phase i = .done .succeeded ∨ s.phase i = .done .left) ∧
      s.content = serialHandle codec d formatFloat requests target s.standing ∧
      ∀ before i after, s.standing = before ++ i :: after →
        (((requests i).handle codec d formatFloat
            (serialHandle codec d formatFloat requests target before)).2 = true ↔
          s.phase i = .done .succeeded)) := by
  intro s
  have h : Consistent _ target s := run_consistent _ target hundisturbed
  have hsucceeded (i : ι) (hi : s.phase i = .done .succeeded) : i ∈ s.standing :=
    h.inForce i (by rw [hi]; rfl)
  refine ⟨h.nodup, hsucceeded, fun hdone => ⟨fun i => ⟨fun hi => ?_, ?_⟩, ?_, ?_⟩⟩
  · obtain ⟨r, hr⟩ := hdone i hi
    have hforce := (h.mem_standing_iff i).mp hi
    rw [hr] at hforce ⊢
    cases r with
    | succeeded => exact .inl rfl
    | left => exact .inr rfl
    | failed => cases hforce
    | restored => cases hforce
  · rintro (hi | hi)
    · exact hsucceeded i hi
    · exact h.inForce i (by rw [hi]; rfl)
  · rw [← serial_shared]
    exact h.chain.serial hdone
  · intro before i after hstanding
    have hchain := h.chain
    rw [hstanding] at hchain hdone
    rw [hchain.report hdone, serial_shared, Phase.done.injEq]
    exact ((requests i).shared_alone codec d formatFloat _).2.symm

/-- The steps of a request that no other interrupts are what its handler does. -/
theorem request_alone (codec : JSONCodec Bytes) (d : Digest Bytes) (formatFloat : Rat → String)
    (requests : ι → ConfigMutation Bytes) (target : Option Bytes) (i : ι) :
    let s := run (step fun i => (requests i).shared codec d formatFloat) (.initial target)
      [i, i, i, i]
    s.content = ((requests i).handle codec d formatFloat target).1 ∧
      (s.phase i = .done .succeeded ↔
        ((requests i).handle codec d formatFloat target).2 = true) := by
  intro s
  obtain ⟨hcontent, hphase⟩ := run_alone (fun i => (requests i).shared codec d formatFloat) target i
  obtain ⟨hfile, hreport⟩ := (requests i).shared_alone codec d formatFloat target
  refine ⟨hcontent.trans hfile, ?_⟩
  rw [hphase, Phase.done.injEq]
  exact hreport

/-- A node handler synchronises while the user saves a configuration with a "log" section. -/
def syncAndUpdate : Bool → ConfigMutation { v : Value // v.json = v }
  | false => .syncOutboundsToConfig emptyDatabase .clean
  | true => .updateConfig (some Kernel.newKernel)
    (documentCodec.marshal (.obj [("log", .obj [("level", .str "info")])])) .clean

/-- The digest of every document is that of the empty one; no rule is named below. -/
def emptyDigest : Digest { v : Value // v.json = v } where
  marshal := documentCodec.marshal
  sum256 _ := "44136fa355b3678a1146ad16f7e8649e94fb4fc21fe77e8310c060f61caaff8a"

abbrev runSyncAndUpdate (schedule : List Bool) : State Bool { v : Value // v.json = v } :=
  run (step fun i => (syncAndUpdate i).shared documentCodec emptyDigest fun _ => "0")
    (.initial (some (documentCodec.marshal (Object.toValue ∅)))) schedule

/-- Which of two sections the file has. -/
def sections (target : Option { v : Value // v.json = v }) : Option (Bool × Bool) :=
  (target.bind fun data => (decodeConfig documentCodec data).join).map fun config =>
    (config.contains "log", config.contains "outbounds")

/-- The user's save falls between the two halves of the synchronisation and is lost. -/
theorem syncAndUpdate_lost :
    (∀ i, (runSyncAndUpdate [false, true, true, true, true, false, false]).phase i =
      .done .succeeded) ∧
    ∀ order, order.Perm [false, true] →
      (runSyncAndUpdate [false, true, true, true, true, false, false]).content ≠
        serialHandle documentCodec emptyDigest (fun _ => "0") syncAndUpdate
          (some (documentCodec.marshal (Object.toValue ∅))) order := by
  refine ⟨fun i => by cases i <;> rfl, fun order horder heq => ?_⟩
  have hsections := congrArg sections heq
  obtain ⟨i, j, rfl⟩ := List.length_eq_two.mp horder.length_eq
  cases i with
  | false =>
    cases j with
    | false => exact absurd horder (by decide)
    | true => exact absurd hsections (by decide)
  | true =>
    cases j with
    | false => exact absurd hsections (by decide)
    | true => exact absurd horder (by decide)

/-- The synchronisation runs between the request's first look at the file and the second. -/
theorem syncAndUpdate_serial :
    (runSyncAndUpdate [true, false, false, false, true, true, true]).content =
      serialHandle documentCodec emptyDigest (fun _ => "0") syncAndUpdate
        (some (documentCodec.marshal (Object.toValue ∅))) [false, true] := by
  have hundisturbed : Along
      (step fun i => (syncAndUpdate i).shared documentCodec emptyDigest fun _ => "0")
      (Undisturbed fun i => (syncAndUpdate i).shared documentCodec emptyDigest fun _ => "0")
      (.initial (some (documentCodec.marshal (Object.toValue ∅))))
      [true, false, false, false, true, true, true] :=
    ⟨trivial, trivial, fun _ => .inr rfl, fun h => Bool.noConfusion h, trivial,
      fun _ => .inl fun _ _ => rfl, fun h => Bool.noConfusion h, trivial⟩
  obtain ⟨-, -, hserial⟩ := requests_serial documentCodec emptyDigest (fun _ => "0")
    syncAndUpdate _ hundisturbed
  exact (hserial fun i _ => ⟨.succeeded, by cases i <;> rfl⟩).2.1

end Boxui.API
