import Mathlib.Algebra.Group.Nat.Defs
import Boxui.Library.ByteReader

/-! What Go's `io` and `encoding/binary` packages read and write: blocks of bytes, big-endian
integers and varints, each with its laws. -/
namespace GoBinary
open ByteReader

/-- A byte slice or a string; its length is an `int`. -/
abbrev GoBytes := { l : List UInt8 // l.length < 2 ^ 63 }

/-- `makeslice` is the panic of `make` on a length that is no `int`; the others are errors. -/
inductive ReadError where
  | eof
  | unexpectedEOF
  | overflow
  | makeslice
  deriving DecidableEq, Repr

/-- A field that is cut short is refused with an error, not with a panic. -/
abbrev ReadsBack {α : Type} (read : Reader ReadError α) (field : List UInt8) (a : α) : Prop :=
  Reads (· ≠ ReadError.makeslice) read field a

/-- `io.ReadFull` into a buffer of `n` bytes. -/
def readFull (n : Nat) : Reader ReadError { l : List UInt8 // l.length = n } := fun input =>
  if h : n ≤ input.length then .ok (⟨input.take n, List.length_take_of_le h⟩, input.drop n)
  else .error (if input = [] then .eof else .unexpectedEOF)

theorem reads_readFull {n : Nat} (field : { l : List UInt8 // l.length = n }) :
    ReadsBack (readFull n) field.1 field := by
  obtain ⟨l, rfl⟩ := field
  constructor
  · intro rest
    change dite (l.length ≤ (l ++ rest).length) _ _ = _
    rw [dif_pos (by simp)]
    simp only [List.take_left, List.drop_left]
  · intro pre hpre hne
    have hlt : pre.length < l.length :=
      lt_of_le_of_ne hpre.length_le fun heq => hne (hpre.eq_of_length heq)
    refine ⟨if pre = [] then .eof else .unexpectedEOF, dif_neg (by omega), ?_⟩
    split <;> simp

/-- The low `width` bytes of a number, the highest first. -/
def bigEndian : Nat → Nat → List UInt8
  | 0, _ => []
  | width + 1, n => bigEndian width (n / 256) ++ [UInt8.ofNat n]

def ofBigEndian (l : List UInt8) : Nat := l.foldl (fun n b => n * 256 + b.toNat) 0

@[simp] theorem length_bigEndian (width n : Nat) : (bigEndian width n).length = width := by
  induction width generalizing n with
  | zero => rfl
  | succ width ih => simp [bigEndian, ih]

theorem ofBigEndian_bigEndian (width n : Nat) (h : n < 256 ^ width) :
    ofBigEndian (bigEndian width n) = n := by
  induction width generalizing n with
  | zero =>
    have hzero : n = 0 := by simpa using h
    rw [hzero]
    rfl
  | succ width ih =>
    have hn : n / 256 < 256 ^ width := by
      rw [Nat.div_lt_iff_lt_mul (by decide), ← Nat.pow_succ]
      exact h
    have hfold : ofBigEndian (bigEndian width (n / 256) ++ [UInt8.ofNat n]) =
        ofBigEndian (bigEndian width (n / 256)) * 256 + n % 256 := by
      simp [ofBigEndian, List.foldl_append]
    rw [bigEndian, hfold, ih _ hn]
    omega

/-- `binary.Write` of an `int64` in big-endian order. -/
def writeInt64 (v : Int64) : List UInt8 := bigEndian 8 v.toUInt64.toNat

def readInt64 : Reader ReadError Int64 := do
  let field ← readFull 8
  return ⟨UInt64.ofNat (ofBigEndian field.1)⟩

theorem reads_readInt64 (v : Int64) : ReadsBack readInt64 (writeInt64 v) v := by
  have hlen : (writeInt64 v).length = 8 := length_bigEndian 8 _
  have hread : ReadsBack readInt64 (writeInt64 v ++ [])
      ⟨UInt64.ofNat (ofBigEndian (writeInt64 v))⟩ :=
    (reads_readFull ⟨writeInt64 v, hlen⟩).bind (Reads.pure _)
  rw [List.append_nil] at hread
  rwa [writeInt64, ofBigEndian_bigEndian 8 _ v.toUInt64.toNat_lt, UInt64.ofNat_toNat] at hread

/-- `binary.PutUvarint`: seven bits a byte, the lowest first, each but the last marked. -/
def putUvarint (n : Nat) : List UInt8 :=
  if n < 128 then [UInt8.ofNat n] else UInt8.ofNat (n % 128 + 128) :: putUvarint (n / 128)
termination_by n
decreasing_by omega

/-- The loop of `binary.ReadUvarint`, with `left` bytes still allowed. The tenth byte has only
one bit to give. -/
def uvarintLoop : Nat → Nat → Nat → Reader ReadError Nat
  | 0, _, _, _ => .error .overflow
  | _ + 1, _, shift, [] => .error (if shift = 0 then .eof else .unexpectedEOF)
  | left + 1, x, shift, b :: rest =>
    if b.toNat < 128 then
      if left = 0 ∧ 1 < b.toNat then .error .overflow else .ok (x + b.toNat * 2 ^ shift, rest)
    else uvarintLoop left (x + b.toNat % 128 * 2 ^ shift) (shift + 7) rest

def readUvarint : Reader ReadError Nat := uvarintLoop 10 0 0

theorem uvarintLoop_putUvarint (left x shift n : Nat) (rest : List UInt8)
    (hshift : shift + 7 * left = 70) (hleft : 0 < left) (hn : n < 2 ^ (64 - shift)) :
    uvarintLoop left x shift (putUvarint n ++ rest) = .ok (x + n * 2 ^ shift, rest) := by
  induction left generalizing x shift n with
  | zero => omega
  | succ left ih =>
    rw [putUvarint]
    by_cases hsmall : n < 128
    · have hbyte : (UInt8.ofNat n).toNat = n := by
        rw [UInt8.toNat_ofNat']
        omega
      have hlast : ¬(left = 0 ∧ 1 < n) := by
        rintro ⟨rfl, hbig⟩
        obtain rfl : shift = 63 := by omega
        omega
      rw [if_pos hsmall, List.singleton_append, uvarintLoop, hbyte, if_pos hsmall, if_neg hlast]
    · have hbyte : (UInt8.ofNat (n % 128 + 128)).toNat = n % 128 + 128 := by
        rw [UInt8.toNat_ofNat']
        omega
      have hpow : 2 ^ 7 ≤ 2 ^ (64 - shift) := by omega
      have hroom : 7 < 64 - shift := by
        rcases Nat.lt_or_ge 7 (64 - shift) with h | h
        · exact h
        · have hle : (2 : Nat) ^ (64 - shift) ≤ 2 ^ 7 := Nat.pow_le_pow_right (by decide) h
          omega
      have hdiv : n / 128 < 2 ^ (64 - (shift + 7)) := by
        rw [Nat.div_lt_iff_lt_mul (by decide), show 128 = 2 ^ 7 from rfl, ← Nat.pow_add,
          show 64 - (shift + 7) + 7 = 64 - shift by omega]
        exact hn
      rw [if_neg hsmall, List.cons_append, uvarintLoop, hbyte, if_neg (by omega),
        ih _ _ _ (by omega) (by omega) hdiv, Nat.pow_add]
      have hsplit : n % 128 * 2 ^ shift + n / 128 * (2 ^ shift * 2 ^ 7) = n * 2 ^ shift := by
        rw [Nat.mul_comm (2 ^ shift), ← Nat.mul_assoc, ← Nat.add_mul,
          show n % 128 + n / 128 * 2 ^ 7 = n by omega]
      rw [Nat.add_mod_right, Nat.mod_mod, Nat.add_assoc, hsplit]

/-- Bytes that are all marked end inside a varint. -/
theorem uvarintLoop_marked {pre : List UInt8} (hpre : ∀ b ∈ pre, 128 ≤ b.toNat)
    (left x shift : Nat) :
    ∃ e, uvarintLoop left x shift pre = .error e ∧ e ≠ ReadError.makeslice := by
  induction pre generalizing left x shift with
  | nil =>
    cases left with
    | zero => exact ⟨_, rfl, by decide⟩
    | succ left =>
      refine ⟨_, rfl, ?_⟩
      split <;> decide
  | cons b rest ih =>
    cases left with
    | zero => exact ⟨_, rfl, by decide⟩
    | succ left =>
      have hb : ¬b.toNat < 128 := by
        have h := hpre b List.mem_cons_self
        omega
      rw [uvarintLoop, if_neg hb]
      exact ih (fun b' hb' => hpre b' (List.mem_cons_of_mem b hb')) _ _ _

/-- Every byte of a varint but the last is marked. -/
theorem marked_of_cut {n : Nat} {pre : List UInt8} (hpre : pre <+: putUvarint n)
    (hne : pre ≠ putUvarint n) : ∀ b ∈ pre, 128 ≤ b.toNat := by
  induction n using Nat.strongRecOn generalizing pre with
  | ind n ih =>
    rw [putUvarint] at hpre hne
    by_cases hsmall : n < 128
    · rw [if_pos hsmall] at hpre hne
      have hlen : pre.length < 1 := lt_of_le_of_ne hpre.length_le fun h => hne (hpre.eq_of_length h)
      obtain rfl : pre = [] := List.eq_nil_of_length_eq_zero (by omega)
      intro b hb
      exact absurd hb List.not_mem_nil
    · rw [if_neg hsmall] at hpre hne
      cases pre with
      | nil =>
        intro b hb
        exact absurd hb List.not_mem_nil
      | cons b pre =>
        obtain ⟨rfl, hrest⟩ := List.cons_prefix_cons.mp hpre
        intro b' hb'
        rcases List.mem_cons.mp hb' with rfl | hb'
        · rw [UInt8.toNat_ofNat']
          omega
        · exact ih (n / 128) (by omega) hrest (fun heq => hne (by rw [heq])) b' hb'

theorem reads_readUvarint {n : Nat} (hn : n < 2 ^ 64) :
    ReadsBack readUvarint (putUvarint n) n := by
  constructor
  · intro rest
    have h := uvarintLoop_putUvarint 10 0 0 n rest (by decide) (by decide) (by simpa using hn)
    rw [Nat.zero_add, Nat.pow_zero, Nat.mul_one] at h
    exact h
  · intro pre hpre hne
    exact uvarintLoop_marked (marked_of_cut hpre hne) 10 0 0

/-- A length, then that many bytes into a fresh buffer. -/
def readBytes : Reader ReadError GoBytes := do
  let n ← readUvarint
  if hn : n < 2 ^ 63 then
    let field ← readFull n
    return ⟨field.1, field.2.symm ▸ hn⟩
  else throw .makeslice

def writeBytes (l : GoBytes) : List UInt8 := putUvarint l.1.length ++ l.1

theorem reads_readBytes (l : GoBytes) : ReadsBack readBytes (writeBytes l) l := by
  have hlen : l.1.length < 2 ^ 64 := Nat.lt_trans l.2 (by decide)
  refine (reads_readUvarint hlen).bind ?_
  rw [dif_pos l.2]
  have hread : ReadsBack (do
      let field ← readFull l.1.length
      return ⟨field.1, field.2.symm ▸ l.2⟩) (l.1 ++ []) l :=
    (reads_readFull ⟨l.1, rfl⟩).bind (Reads.pure l)
  rwa [List.append_nil] at hread

theorem readFull_eq_ok_iff {n : Nat} {input rest : List UInt8}
    {field : { l : List UInt8 // l.length = n }} :
    (readFull n).run input = .ok (field, rest) ↔ input = field.1 ++ rest := by
  constructor
  · intro h
    change dite (n ≤ input.length) _ _ = _ at h
    split at h
    · cases h
      exact (List.take_append_drop n input).symm
    · cases h
  · rintro rfl
    exact (reads_readFull field).exact rest

/-- Nothing but `make` panics. -/
theorem readFull_ne_makeslice (n : Nat) (input : List UInt8) :
    (readFull n).run input ≠ .error .makeslice := by
  change dite (n ≤ input.length) _ _ ≠ _
  split
  · simp
  · split <;> simp

theorem uvarintLoop_ne_makeslice (left x shift : Nat) (input : List UInt8) :
    uvarintLoop left x shift input ≠ .error .makeslice := by
  induction left generalizing x shift input with
  | zero => simp [uvarintLoop]
  | succ left ih =>
    cases input with
    | nil =>
      rw [uvarintLoop]
      split <;> simp
    | cons b rest =>
      rw [uvarintLoop]
      split_ifs
      · simp
      · simp
      · exact ih _ _ rest

theorem readInt64_run (input : List UInt8) :
    readInt64.run input = ((readFull 8).run input).map
      fun p => (⟨UInt64.ofNat (ofBigEndian p.1.1)⟩, p.2) := by
  unfold readInt64
  rw [StateT.run_bind]
  cases (readFull 8).run input <;> rfl

theorem readInt64_ne_makeslice (input : List UInt8) : readInt64.run input ≠ .error .makeslice := by
  have h := readFull_ne_makeslice 8 input
  rw [readInt64_run]
  cases hread : (readFull 8).run input with
  | error e =>
    rw [hread] at h
    simpa [Except.map] using h
  | ok p => simp [Except.map]

theorem readInt64_eq_ok {input rest : List UInt8} {v : Int64}
    (h : readInt64.run input = .ok (v, rest)) :
    ∃ field : List UInt8, field.length = 8 ∧ input = field ++ rest := by
  rw [readInt64_run] at h
  cases hread : (readFull 8).run input with
  | error e =>
    rw [hread] at h
    cases h
  | ok p =>
    rw [hread] at h
    cases h
    exact ⟨p.1.1, p.1.2, readFull_eq_ok_iff.mp hread⟩

theorem readBytes_run (input : List UInt8) :
    readBytes.run input =
      match readUvarint.run input with
      | .error e => .error e
      | .ok (n, rest) =>
        if hn : n < 2 ^ 63 then
          ((readFull n).run rest).map fun p => (⟨p.1.1, p.1.2.symm ▸ hn⟩, p.2)
        else .error .makeslice := by
  unfold readBytes
  rw [StateT.run_bind]
  rcases hread : readUvarint.run input with e | ⟨n, rest⟩
  · rfl
  · change (dite (n < 2 ^ 63) _ _ : Reader ReadError GoBytes).run rest = _
    dsimp only
    split
    · rw [StateT.run_bind]
      cases (readFull n).run rest <;> rfl
    · rfl

/-- A field is read from its length and that many bytes. -/
theorem readBytes_eq_ok_iff {input rest : List UInt8} {l : GoBytes} :
    readBytes.run input = .ok (l, rest) ↔
      readUvarint.run input = .ok (l.1.length, l.1 ++ rest) := by
  rw [readBytes_run]
  constructor
  · intro h
    split at h
    · cases h
    · rename_i n behind hread
      split at h
      · cases hfull : (readFull n).run behind with
        | error e =>
          rw [hfull] at h
          cases h
        | ok p =>
          rw [hfull] at h
          cases h
          obtain ⟨⟨field, hfield⟩, behind'⟩ := p
          subst hfield
          rw [hread, readFull_eq_ok_iff.mp hfull]
      · cases h
  · intro h
    have hfull : (readFull l.1.length).run (l.1 ++ rest) = .ok (⟨l.1, rfl⟩, rest) :=
      readFull_eq_ok_iff.mpr rfl
    rw [h]
    dsimp only
    rw [dif_pos l.2, hfull]
    rfl

/-- It panics on the length alone. -/
theorem readBytes_eq_makeslice_iff {input : List UInt8} :
    readBytes.run input = .error .makeslice ↔
      ∃ n rest, readUvarint.run input = .ok (n, rest) ∧ 2 ^ 63 ≤ n := by
  rw [readBytes_run]
  cases hread : readUvarint.run input with
  | error e =>
    have hne := uvarintLoop_ne_makeslice 10 0 0 input
    constructor
    · intro h
      cases h
      exact absurd hread hne
    · rintro ⟨n, rest, h, -⟩
      cases h
  | ok p =>
    obtain ⟨n, rest⟩ := p
    dsimp only
    constructor
    · intro h
      refine ⟨n, rest, rfl, ?_⟩
      by_contra hn
      rw [dif_pos (Nat.lt_of_not_le hn)] at h
      have hne := readFull_ne_makeslice n rest
      cases hfull : (readFull n).run rest with
      | error e =>
        rw [hfull] at h hne
        exact hne (by simpa [Except.map] using h)
      | ok p =>
        rw [hfull] at h
        cases h
    · rintro ⟨n', rest', heq, hn⟩
      cases heq
      rw [dif_neg (Nat.not_lt_of_le hn)]

/-- The buffer that reading a field makes: its length, and how many bytes are left to fill it. -/
def bufferOf (input : List UInt8) : List (Nat × Nat) :=
  match readUvarint.run input with
  | .error _ => []
  | .ok (n, rest) => [(n, rest.length)]

theorem mem_bufferOf {input : List UInt8} {a : Nat × Nat} :
    a ∈ bufferOf input ↔
      ∃ n rest, readUvarint.run input = .ok (n, rest) ∧ a = (n, rest.length) := by
  unfold bufferOf
  cases hread : readUvarint.run input with
  | error e => simp
  | ok p =>
    constructor
    · intro h
      exact ⟨p.1, p.2, rfl, List.mem_singleton.mp h⟩
    · rintro ⟨n, rest, h, rfl⟩
      cases h
      exact List.mem_singleton_self _

end GoBinary
