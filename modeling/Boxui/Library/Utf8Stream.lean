import Mathlib.Data.List.Basic

/-! Decoding UTF-8 byte by byte. What a byte cannot continue is replaced by U+FFFD, and a text
that has been encoded comes back whatever the pieces it arrives in. -/
namespace Utf8Stream

/-- The decoder between two bytes: the code point so far, how many bytes are to come and the
range of the next one. -/
structure State where
  codePoint : Nat
  needed : Nat
  lower : Nat
  upper : Nat
  deriving DecidableEq

def start : State := ⟨0, 0, 0x80, 0xBF⟩

def replacement : Char := Char.ofNat 0xFFFD

/-- A byte at the start of a character. -/
def first (b : UInt8) : State × List Char :=
  let n := b.toNat
  if n ≤ 0x7F then (start, [Char.ofNat n])
  else if 0xC2 ≤ n ∧ n ≤ 0xDF then (⟨n % 32, 1, 0x80, 0xBF⟩, [])
  else if 0xE0 ≤ n ∧ n ≤ 0xEF then
    (⟨n % 16, 2, if n = 0xE0 then 0xA0 else 0x80, if n = 0xED then 0x9F else 0xBF⟩, [])
  else if 0xF0 ≤ n ∧ n ≤ 0xF4 then
    (⟨n % 8, 3, if n = 0xF0 then 0x90 else 0x80, if n = 0xF4 then 0x8F else 0xBF⟩, [])
  else (start, [replacement])

/-- A byte that does not continue a character is read again as the start of one. -/
def step (s : State) (b : UInt8) : State × List Char :=
  if s.needed = 0 then first b
  else if s.lower ≤ b.toNat ∧ b.toNat ≤ s.upper then
    let codePoint := s.codePoint * 64 + b.toNat % 64
    if s.needed = 1 then (start, [Char.ofNat codePoint])
    else (⟨codePoint, s.needed - 1, 0x80, 0xBF⟩, [])
  else ((first b).1, replacement :: (first b).2)

def run (s : State) : List UInt8 → State × List Char
  | [] => (s, [])
  | b :: bytes => ((run (step s b).1 bytes).1, (step s b).2 ++ (run (step s b).1 bytes).2)

/-- What the end of the stream adds. -/
def flush (s : State) : List Char := if s.needed = 0 then [] else [replacement]

/-- The whole of a stream. -/
def decode (bytes : List UInt8) : List Char :=
  (run start bytes).2 ++ flush (run start bytes).1

def encode (text : List Char) : List UInt8 := text.flatMap String.utf8EncodeChar

@[simp] theorem encode_nil : encode [] = [] := rfl

@[simp] theorem encode_cons (c : Char) (text : List Char) :
    encode (c :: text) = String.utf8EncodeChar c ++ encode text := rfl

@[simp] theorem encode_append (text text' : List Char) :
    encode (text ++ text') = encode text ++ encode text' := by
  simp [encode]

theorem length_encode_pos {text : List Char} (h : text ≠ []) : 0 < (encode text).length := by
  cases text with
  | nil => exact absurd rfl h
  | cons c text =>
    rw [encode_cons, List.length_append]
    have := List.length_pos_iff.mpr (String.utf8EncodeChar_ne_nil (c := c))
    omega

theorem run_append (s : State) (bytes bytes' : List UInt8) :
    run s (bytes ++ bytes') =
      ((run (run s bytes).1 bytes').1, (run s bytes).2 ++ (run (run s bytes).1 bytes').2) := by
  induction bytes generalizing s with
  | nil => rfl
  | cons b bytes ih => simp [run, ih]

/-- The bytes of a character, by how many there are. -/
theorem encodeChar_cases (c : Char) :
    (c.toNat ≤ 0x7F ∧ String.utf8EncodeChar c = [UInt8.ofNat c.toNat]) ∨
    (0x7F < c.toNat ∧ c.toNat ≤ 0x7FF ∧
      String.utf8EncodeChar c =
        [UInt8.ofNat (c.toNat / 64 % 32 + 0xC0), UInt8.ofNat (c.toNat % 64 + 0x80)]) ∨
    (0x7FF < c.toNat ∧ c.toNat ≤ 0xFFFF ∧
      String.utf8EncodeChar c =
        [UInt8.ofNat (c.toNat / 4096 % 16 + 0xE0), UInt8.ofNat (c.toNat / 64 % 64 + 0x80),
          UInt8.ofNat (c.toNat % 64 + 0x80)]) ∨
    (0xFFFF < c.toNat ∧
      String.utf8EncodeChar c =
        [UInt8.ofNat (c.toNat / 262144 % 8 + 0xF0), UInt8.ofNat (c.toNat / 4096 % 64 + 0x80),
          UInt8.ofNat (c.toNat / 64 % 64 + 0x80), UInt8.ofNat (c.toNat % 64 + 0x80)]) := by
  unfold String.utf8EncodeChar
  by_cases h1 : c.toNat ≤ 0x7F
  · exact .inl ⟨h1, if_pos h1⟩
  by_cases h2 : c.toNat ≤ 0x7FF
  · exact .inr (.inl ⟨by omega, h2, (if_neg h1).trans (if_pos h2)⟩)
  by_cases h3 : c.toNat ≤ 0xFFFF
  · exact .inr (.inr (.inl ⟨by omega, h3, ((if_neg h1).trans (if_neg h2)).trans (if_pos h3)⟩))
  · exact .inr (.inr (.inr ⟨by omega, ((if_neg h1).trans (if_neg h2)).trans (if_neg h3)⟩))

theorem toNat_ofNat {n : Nat} (h : n < 256) : (UInt8.ofNat n).toNat = n :=
  UInt8.toNat_ofNat_of_lt h

/-- A byte in the range of the state adds six bits to the code point. -/
theorem step_tail {s : State} (x : Nat) (hneeded : s.needed ≠ 0)
    (hlower : s.lower ≤ x % 64 + 0x80) (hupper : x % 64 + 0x80 ≤ s.upper) :
    step s (UInt8.ofNat (x % 64 + 0x80)) =
      if s.needed = 1 then (start, [Char.ofNat (s.codePoint * 64 + x % 64)])
      else (⟨s.codePoint * 64 + x % 64, s.needed - 1, 0x80, 0xBF⟩, []) := by
  have hbyte : (UInt8.ofNat (x % 64 + 0x80)).toNat = x % 64 + 0x80 := toNat_ofNat (by omega)
  have hbits : (x % 64 + 0x80) % 64 = x % 64 := by omega
  simp only [step, hneeded, hbyte, hlower, hupper, hbits, and_self, if_true, if_false]

/-- The first byte of a character of two bytes or more. -/
theorem step_first {n : Nat} (h : n < 256) : step start (UInt8.ofNat n) =
    if n ≤ 0x7F then (start, [Char.ofNat n])
    else if 0xC2 ≤ n ∧ n ≤ 0xDF then (⟨n % 32, 1, 0x80, 0xBF⟩, [])
    else if 0xE0 ≤ n ∧ n ≤ 0xEF then
      (⟨n % 16, 2, if n = 0xE0 then 0xA0 else 0x80, if n = 0xED then 0x9F else 0xBF⟩, [])
    else if 0xF0 ≤ n ∧ n ≤ 0xF4 then
      (⟨n % 8, 3, if n = 0xF0 then 0x90 else 0x80, if n = 0xF4 then 0x8F else 0xBF⟩, [])
    else (start, [replacement]) := by
  simp only [step, first, toNat_ofNat h]
  rfl

/-- What the decoder does on bytes that complete a character: nothing comes out and more is needed
until the last of them. -/
structure Decodes (s : State) (bytes : List UInt8) (c : Char) : Prop where
  run_eq : run s bytes = (start, [c])
  pending : ∀ k, 0 < k → k < bytes.length →
    (run s (bytes.take k)).2 = [] ∧ (run s (bytes.take k)).1.needed ≠ 0

theorem Decodes.last {s : State} {b : UInt8} {c : Char} (h : step s b = (start, [c])) :
    Decodes s [b] c := by
  constructor
  · rw [run, h]
    rfl
  · intro k hpos hlt
    rw [List.length_singleton] at hlt
    omega

theorem Decodes.cons {s s' : State} {b : UInt8} {bytes : List UInt8} {c : Char}
    (hrest : Decodes s' bytes c) (h : step s b = (s', [])) (hneeded : s'.needed ≠ 0) :
    Decodes s (b :: bytes) c := by
  constructor
  · rw [run, h, hrest.run_eq]
    rfl
  · intro k hpos hlt
    cases k with
    | zero => omega
    | succ k =>
      rw [List.take_succ_cons, run, h]
      by_cases hk : k = 0
      · subst hk
        exact ⟨rfl, hneeded⟩
      · exact hrest.pending k (Nat.pos_of_ne_zero hk) (Nat.lt_of_succ_lt_succ hlt)

theorem decodes_one_left (c : Char) :
    Decodes ⟨c.toNat / 64, 1, 0x80, 0xBF⟩ [UInt8.ofNat (c.toNat % 64 + 0x80)] c := by
  apply Decodes.last
  have hchar : c.toNat / 64 * 64 + c.toNat % 64 = c.toNat := by omega
  rw [step_tail c.toNat Nat.one_ne_zero (by simp) (by dsimp only; omega), if_pos rfl, hchar,
    Char.ofNat_toNat]

theorem decodes_two_left (c : Char) {lower upper : Nat}
    (hlower : lower ≤ c.toNat / 64 % 64 + 0x80) (hupper : c.toNat / 64 % 64 + 0x80 ≤ upper) :
    Decodes ⟨c.toNat / 4096, 2, lower, upper⟩
      [UInt8.ofNat (c.toNat / 64 % 64 + 0x80), UInt8.ofNat (c.toNat % 64 + 0x80)] c := by
  refine (decodes_one_left c).cons ?_ Nat.one_ne_zero
  have hbits : c.toNat / 4096 * 64 + c.toNat / 64 % 64 = c.toNat / 64 := by omega
  rw [step_tail (c.toNat / 64) (Nat.succ_ne_zero 1) hlower hupper, if_neg (by simp), hbits]
  rfl

theorem decodes_three_left (c : Char) {lower upper : Nat}
    (hlower : lower ≤ c.toNat / 4096 % 64 + 0x80) (hupper : c.toNat / 4096 % 64 + 0x80 ≤ upper) :
    Decodes ⟨c.toNat / 262144, 3, lower, upper⟩
      [UInt8.ofNat (c.toNat / 4096 % 64 + 0x80), UInt8.ofNat (c.toNat / 64 % 64 + 0x80),
        UInt8.ofNat (c.toNat % 64 + 0x80)] c := by
  have htail := @decodes_two_left c 0x80 0xBF (by omega) (by omega)
  refine htail.cons ?_ (Nat.succ_ne_zero 1)
  have hbits : c.toNat / 262144 * 64 + c.toNat / 4096 % 64 = c.toNat / 4096 := by omega
  rw [step_tail (c.toNat / 4096) (Nat.succ_ne_zero 2) hlower hupper, if_neg (by simp), hbits]
  rfl

/-- The decoder gives back every character that is encoded. -/
theorem decodes_encodeChar (c : Char) : Decodes start (String.utf8EncodeChar c) c := by
  -- surrogates are no characters, and there are none beyond U+10FFFF
  have hvalid : c.toNat < 0xD800 ∨ (0xDFFF < c.toNat ∧ c.toNat < 0x110000) := c.valid
  rcases encodeChar_cases c with ⟨h, hbytes⟩ | ⟨hlow, h, hbytes⟩ | ⟨hlow, h, hbytes⟩ |
    ⟨hlow, hbytes⟩ <;> rw [hbytes]
  · apply Decodes.last
    rw [step_first (by omega), if_pos h, Char.ofNat_toNat]
  · have hbits : (c.toNat / 64 % 32 + 0xC0) % 32 = c.toNat / 64 := by omega
    refine (decodes_one_left c).cons ?_ Nat.one_ne_zero
    rw [step_first (by omega), if_neg (by omega), if_pos (by omega), hbits]
  · have hbits : (c.toNat / 4096 % 16 + 0xE0) % 16 = c.toNat / 4096 := by omega
    have hfirst := step_first (n := c.toNat / 4096 % 16 + 0xE0) (by omega)
    rw [if_neg (by omega), if_neg (by omega), if_pos (by omega), hbits] at hfirst
    exact (decodes_two_left c (by split_ifs <;> omega) (by split_ifs <;> omega)).cons hfirst
      (Nat.succ_ne_zero 1)
  · have hbits : (c.toNat / 262144 % 8 + 0xF0) % 8 = c.toNat / 262144 := by omega
    have hfirst := step_first (n := c.toNat / 262144 % 8 + 0xF0) (by omega)
    rw [if_neg (by omega), if_neg (by omega), if_neg (by omega), if_pos (by omega), hbits] at hfirst
    exact (decodes_three_left c (by split_ifs <;> omega) (by split_ifs <;> omega)).cons hfirst
      (Nat.succ_ne_zero 2)

theorem run_encode (text : List Char) : run start (encode text) = (start, text) := by
  induction text with
  | nil => rfl
  | cons c text ih =>
    rw [encode_cons, run_append, (decodes_encodeChar c).run_eq, ih]
    rfl

theorem decode_encode_append (text : List Char) (bytes : List UInt8) :
    decode (encode text ++ bytes) = text ++ decode bytes := by
  rw [decode, run_append, run_encode, decode, List.append_assoc]

theorem decode_encode (text : List Char) : decode (encode text) = text := by
  have h := decode_encode_append text []
  rw [List.append_nil] at h
  rw [h]
  simp [decode, run, flush, start]

/-- What is decoded of a stream of encoded `done ++ rest` that ends behind `done`, or within the
next character, which is then replaced. -/
inductive CutAt (done rest : List Char) (n : Nat) : List Char → Prop where
  | boundary (hn : n = (encode done).length) : CutAt done rest n done
  | within {c : Char} (hhead : rest.head? = some c) (hlow : (encode done).length < n)
    (hhigh : n < (encode (done ++ [c])).length) : CutAt done rest n (done ++ [replacement])

theorem CutAt.cons {done rest out : List Char} {n : Nat} (h : CutAt done rest n out) (c : Char) :
    CutAt (c :: done) rest ((String.utf8EncodeChar c).length + n) (c :: out) := by
  cases h with
  | boundary hn => exact .boundary (by rw [encode_cons, List.length_append, hn])
  | within hhead hlow hhigh =>
    refine .within hhead ?_ ?_
    · rw [encode_cons, List.length_append]
      omega
    · rw [List.cons_append, encode_cons, List.length_append]
      omega

/-- No character is cut that takes one byte. -/
theorem CutAt.of_ascii {done rest out : List Char} {n : Nat} (h : CutAt done rest n out)
    (hascii : ∀ c ∈ rest.head?, c.toNat ≤ 0x7F) : n = (encode done).length ∧ out = done := by
  cases h with
  | boundary hn => exact ⟨hn, rfl⟩
  | @within c hhead hlow hhigh =>
    have hc := hascii c hhead
    have hone : (String.utf8EncodeChar c).length = 1 := by
      rcases encodeChar_cases c with ⟨-, h⟩ | h | h | h
      · rw [h]
        rfl
      all_goals omega
    rw [encode_append, List.length_append, encode_cons, encode_nil, List.append_nil, hone] at hhigh
    omega

/-- A stream of encoded text that ends anywhere. -/
theorem decode_take_encode (text : List Char) {n : Nat} (hn : n ≤ (encode text).length) :
    ∃ done rest, text = done ++ rest ∧ CutAt done rest n (decode ((encode text).take n)) := by
  induction text generalizing n with
  | nil =>
    obtain rfl : n = 0 := Nat.le_zero.mp hn
    exact ⟨[], [], rfl, .boundary rfl⟩
  | cons c text ih =>
    obtain ⟨hrun, hpending⟩ := decodes_encodeChar c
    rw [encode_cons, List.length_append] at hn
    by_cases hlt : n < (String.utf8EncodeChar c).length
    · refine ⟨[], c :: text, rfl, ?_⟩
      rw [encode_cons, List.take_append_of_le_length (Nat.le_of_lt hlt)]
      by_cases hzero : n = 0
      · subst hzero
        exact .boundary rfl
      · obtain ⟨hnone, hneeded⟩ := hpending n (Nat.pos_of_ne_zero hzero) hlt
        rw [decode, hnone, flush, if_neg hneeded]
        exact .within rfl (Nat.pos_of_ne_zero hzero) (by simpa using hlt)
    · obtain ⟨k, rfl⟩ := Nat.exists_eq_add_of_le (Nat.le_of_not_lt hlt)
      obtain ⟨done, rest, rfl, hcut⟩ := ih (n := k) (by omega)
      have hdecode : decode ((encode (c :: (done ++ rest))).take
          ((String.utf8EncodeChar c).length + k)) =
          c :: decode ((encode (done ++ rest)).take k) := by
        rw [encode_cons, List.take_length_add_append]
        have h := decode_encode_append [c] ((encode (done ++ rest)).take k)
        simpa using h
      exact ⟨c :: done, rest, rfl, hdecode ▸ hcut.cons c⟩

/-- A stream cut anywhere begins like its text, unless its first character is cut. -/
theorem head_decode_take_encode (text : List Char) (n : Nat) :
    ∀ c ∈ (decode ((encode text).take n)).head?, text.head? = some c ∨ c = replacement := by
  intro c hc
  rcases Nat.le_total n (encode text).length with hn | hn
  · obtain ⟨done, rest, rfl, hcut⟩ := decode_take_encode text hn
    generalize decode ((encode (done ++ rest)).take n) = out at hcut hc
    cases hcut with
    | boundary hn =>
      cases done with
      | nil => exact absurd hc (by simp)
      | cons d done => exact .inl hc
    | within hhead hlow hhigh =>
      cases done with
      | nil => exact .inr (Option.some.inj hc).symm
      | cons d done => exact .inl hc
  · rw [List.take_of_length_le hn, decode_encode] at hc
    exact .inl hc

end Utf8Stream
