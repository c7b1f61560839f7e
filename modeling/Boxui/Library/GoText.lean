import Boxui.Library.GoStrings
import Boxui.Library.Utf8Stream
import Mathlib.Algebra.Group.Int.Defs

/-! A Go string is a list of bytes. Its text is what `encoding/json` carries of it, where every
byte that belongs to no UTF-8 sequence is replaced by U+FFFD; and the numbers `strconv` reads. -/
namespace GoText
open GoStrings Utf8Stream

/-- `utf8.DecodeRune`: the first rune, and how many bytes it takes. -/
def decodeRune (s : List UInt8) : Char × Nat :=
  match s.toByteArray.utf8DecodeChar? 0 with
  | some c => (c, c.utf8Size)
  | none => (replacement, 1)

/-- The runes behind the next `skip` bytes. -/
def runesFrom : Nat → List UInt8 → List Char
  | _, [] => []
  | 0, b :: s => (decodeRune (b :: s)).1 :: runesFrom ((decodeRune (b :: s)).2 - 1) s
  | skip + 1, _ :: s => runesFrom skip s

def runes (s : List UInt8) : List Char := runesFrom 0 s

def text (s : List UInt8) : String := String.ofList (runes s)

theorem bytes_eq (s : String) : bytes s = encode s.toList := by
  have h : s.toUTF8 = (encode s.toList).toByteArray := by
    conv_lhs => rw [← String.ofList_toList (s := s)]
    exact String.toByteArray_ofList
  rw [bytes, h, List.toList_data_toByteArray]

theorem runesFrom_length_append (s s' : List UInt8) :
    runesFrom s.length (s ++ s') = runes s' := by
  induction s with
  | nil => rfl
  | cons b s ih => exact ih

/-- A character that is encoded comes back. -/
theorem runes_encodeChar_append (c : Char) (s : List UInt8) :
    runes (String.utf8EncodeChar c ++ s) = c :: runes s := by
  have hrune : decodeRune (String.utf8EncodeChar c ++ s) = (c, c.utf8Size) := by
    rw [decodeRune, List.toByteArray_append, ByteArray.utf8DecodeChar?_utf8EncodeChar_append]
  have hlength : (String.utf8EncodeChar c).length = c.utf8Size := String.length_utf8EncodeChar c
  cases hbytes : String.utf8EncodeChar c with
  | nil => exact absurd hbytes String.utf8EncodeChar_ne_nil
  | cons b rest =>
    rw [hbytes, List.cons_append] at hrune
    rw [hbytes, List.length_cons] at hlength
    rw [List.cons_append, runes, runesFrom, hrune, ← hlength, Nat.add_sub_cancel,
      runesFrom_length_append]

theorem runes_cons_of_not_isPrefix {b : UInt8} {s : List UInt8}
    (h : ∀ c, ¬String.utf8EncodeChar c <+: b :: s) : runes (b :: s) = replacement :: runes s := by
  have hrune : decodeRune (b :: s) = (replacement, 1) := by
    unfold decodeRune
    cases hdecode : (b :: s).toByteArray.utf8DecodeChar? 0 with
    | none => rfl
    | some c =>
      obtain ⟨rest, hrest⟩ := ByteArray.exists_of_utf8DecodeChar?_eq_some hdecode
      refine absurd ⟨rest.data.toList, ?_⟩ (h c)
      have hlist := congrArg (fun a => a.data.toList) hrest
      simpa using hlist.symm
  rw [runes, runesFrom, hrune]
  rfl

/-- How a string is read: rune by rune, and a byte at a time where there is none. -/
inductive Decoded : List UInt8 → Prop where
  | nil : Decoded []
  | rune (c : Char) {s : List UInt8} : Decoded s → Decoded (String.utf8EncodeChar c ++ s)
  | replaced {b : UInt8} {s : List UInt8} (h : ∀ c, ¬String.utf8EncodeChar c <+: b :: s) :
    Decoded s → Decoded (b :: s)

theorem decoded (s : List UInt8) : Decoded s := by
  induction hn : s.length using Nat.strong_induction_on generalizing s with
  | _ n ih =>
    cases s with
    | nil => exact .nil
    | cons b rest =>
      by_cases h : ∀ c, ¬String.utf8EncodeChar c <+: b :: rest
      · exact .replaced h (ih rest.length (by rw [← hn]; simp) rest rfl)
      · push Not at h
        obtain ⟨c, s', hs'⟩ := h
        have hpos := List.length_pos_of_ne_nil (String.utf8EncodeChar_ne_nil (c := c))
        have hlength := congrArg List.length hs'
        rw [List.length_append] at hlength
        rw [← hs']
        exact .rune c (ih s'.length (by omega) s' rfl)

/-- Behind its first byte a character has no ASCII byte. -/
theorem le_of_mem_tail_encodeChar {c : Char} {b : UInt8}
    (h : b ∈ (String.utf8EncodeChar c).tail) : 0x80 ≤ b.toNat := by
  have hbyte (n : Nat) : 0x80 ≤ (UInt8.ofNat (n % 64 + 0x80)).toNat := by
    rw [toNat_ofNat (by omega)]
    omega
  rcases encodeChar_cases c with ⟨-, hbytes⟩ | ⟨-, -, hbytes⟩ | ⟨-, -, hbytes⟩ | ⟨-, hbytes⟩ <;>
    rw [hbytes] at h <;>
    simp only [List.tail_cons, List.mem_cons, List.not_mem_nil, or_false] at h
  · rw [h]
    exact hbyte _
  · rcases h with rfl | rfl <;> exact hbyte _
  · rcases h with rfl | rfl | rfl <;> exact hbyte _

/-- No character reaches across an ASCII byte. -/
theorem runes_append_cons (s s' : List UInt8) {b : UInt8} (hb : b.toNat < 0x80) :
    runes (s ++ b :: s') = runes s ++ runes (b :: s') := by
  induction decoded s with
  | nil => rfl
  | rune c _ ih =>
    rw [List.append_assoc, runes_encodeChar_append, runes_encodeChar_append, ih, List.cons_append]
  | @replaced first rest h _ ih =>
    rw [runes_cons_of_not_isPrefix h, List.cons_append, List.cons_append, ← ih]
    apply runes_cons_of_not_isPrefix
    intro c hprefix
    rcases Nat.lt_or_ge (first :: rest).length (String.utf8EncodeChar c).length with hlt | hle
    · have hlong : first :: rest ++ [b] <+: String.utf8EncodeChar c :=
        List.prefix_of_prefix_length_le ⟨s', by simp⟩ hprefix
          (by simpa using Nat.succ_le_of_lt hlt)
      obtain ⟨tail, htail⟩ := hlong
      have hmem : b ∈ (String.utf8EncodeChar c).tail := by simp [← htail]
      have hge := le_of_mem_tail_encodeChar hmem
      omega
    · exact h c (List.prefix_of_prefix_length_le hprefix (List.prefix_append (first :: rest) _) hle)

theorem runes_encode (chars : List Char) : runes (encode chars) = chars := by
  induction chars with
  | nil => rfl
  | cons c chars ih => rw [encode_cons, runes_encodeChar_append, ih]

/-- The text of a string that is one comes back. -/
@[simp] theorem text_bytes (s : String) : text (bytes s) = s := by
  rw [text, bytes_eq, runes_encode, String.ofList_toList]

theorem bytes_ne_nil {s : String} (h : s ≠ "") : bytes s ≠ [] := by
  intro hnil
  apply h
  rw [← text_bytes s, hnil]
  rfl

@[simp] theorem text_eq_empty_iff {s : List UInt8} : text s = "" ↔ s = [] := by
  rw [text, ← String.toList_inj, String.toList_ofList, String.toList_empty]
  cases s with
  | nil => simp [runes, runesFrom]
  | cons b s => simp [runes, runesFrom]

theorem runes_cons_ascii {b : UInt8} (hb : b.toNat < 0x80) (s : List UInt8) :
    ∃ c, String.utf8EncodeChar c = [b] ∧ runes (b :: s) = c :: runes s := by
  have hvalid : b.toNat.isValidChar := .inl (by omega)
  have hchar : (Char.ofNat b.toNat).toNat = b.toNat := by
    rw [Char.ofNat, dif_pos hvalid]
    rfl
  have hbyte : String.utf8EncodeChar (Char.ofNat b.toNat) = [b] := by
    rcases encodeChar_cases (Char.ofNat b.toNat) with ⟨-, h⟩ | ⟨h, -⟩ | ⟨h, -⟩ | ⟨h, -⟩
    · rw [h, hchar, UInt8.ofNat_toNat]
    all_goals omega
  refine ⟨_, hbyte, ?_⟩
  have h := runes_encodeChar_append (Char.ofNat b.toNat) s
  rwa [hbyte, List.singleton_append] at h

/-- The ASCII bytes of a string. -/
def ascii (s : List UInt8) : List UInt8 := s.filter (·.toNat < 0x80)

/-- A character is an ASCII byte or has none. -/
theorem ascii_encodeChar (c : Char) : ascii (String.utf8EncodeChar c) =
    if c.toNat < 0x80 then String.utf8EncodeChar c else [] := by
  have hhigh {n k : Nat} (hk : 0x80 ≤ k) (hlt : n + k < 256) :
      ¬(UInt8.ofNat (n + k)).toNat < 0x80 := by
    rw [toNat_ofNat hlt]
    omega
  rcases encodeChar_cases c with ⟨h, hbytes⟩ | ⟨h, -, hbytes⟩ | ⟨h, -, hbytes⟩ | ⟨h, hbytes⟩
  · have hlow : (UInt8.ofNat c.toNat).toNat < 0x80 := by
      rw [toNat_ofNat (by omega)]
      omega
    rw [hbytes, if_pos (by omega), ascii, List.filter_cons_of_pos (by simpa using hlow),
      List.filter_nil]
  all_goals
    rw [hbytes, if_neg (by omega), ascii, List.filter_eq_nil_iff]
    simp only [List.forall_mem_cons, List.not_mem_nil, false_implies, implies_true, and_true,
      decide_eq_true_eq]
    repeat' apply And.intro
    all_goals exact hhigh (by omega) (by omega)

/-- The text of a string has its ASCII bytes. -/
theorem encode_filter_runes (s : List UInt8) :
    encode ((runes s).filter (·.toNat < 0x80)) = ascii s := by
  induction decoded s with
  | nil => rfl
  | @rune c s _ ih =>
    have hchar := ascii_encodeChar c
    rw [ascii] at hchar ih ⊢
    rw [runes_encodeChar_append, List.filter_append, hchar, ← ih, List.filter_cons]
    split_ifs with h h' h'
    · rw [encode_cons]
    · simp [h'] at h
    · simp [h'] at h
    · rw [List.nil_append]
  | @replaced b s h _ ih =>
    have hhigh : ¬b.toNat < 0x80 := by
      intro hlow
      obtain ⟨c, hc, -⟩ := runes_cons_ascii hlow s
      exact h c ⟨s, by rw [hc, List.singleton_append]⟩
    rw [runes_cons_of_not_isPrefix h, ascii, List.filter_cons_of_neg (by decide),
      List.filter_cons_of_neg (by simpa using hhigh)]
    exact ih

theorem ascii_eq_of_text_eq {s t : List UInt8} (h : text s = text t) : ascii s = ascii t := by
  rw [text, text, String.ofList_inj] at h
  rw [← encode_filter_runes, ← encode_filter_runes, h]

/-- Nothing of an ASCII string is lost in its text. -/
theorem bytes_text {s : List UInt8} (h : ∀ b ∈ s, b.toNat < 0x80) : bytes (text s) = s := by
  rw [bytes_eq, text, String.toList_ofList]
  induction s with
  | nil => rfl
  | cons b s ih =>
    obtain ⟨hb, hs⟩ := List.forall_mem_cons.mp h
    obtain ⟨c, hc, hrunes⟩ := runes_cons_ascii hb s
    rw [hrunes, encode_cons, hc, ih hs, List.singleton_append]

/-- A text is longer than what stands before an ASCII byte of it. -/
theorem text_ne_text_append_cons (s s' : List UInt8) {b : UInt8} (hb : b.toNat < 0x80) :
    text s ≠ text (s ++ b :: s') := by
  intro h
  have hlist := congrArg (fun t => t.toList.length) h
  simp only [text, String.toList_ofList, runes_append_cons s s' hb, List.length_append] at hlist
  obtain ⟨c, -, hrunes⟩ := runes_cons_ascii hb s'
  rw [hrunes, List.length_cons] at hlist
  omega

def isDigit (b : UInt8) : Bool := '0'.toUInt8 ≤ b && b ≤ '9'.toUInt8

/-- The number that decimal digits spell. -/
def decimal (digits : List UInt8) : Nat :=
  digits.foldl (fun n b => 10 * n + (b.toNat - '0'.toNat)) 0

/-- `n, _ := strconv.Atoi(s)`: 0 where `s` is no number, and the nearest `int` where it is none. -/
def atoi (s : List UInt8) : Int :=
  let digits := if s.head? = some '-'.toUInt8 ∨ s.head? = some '+'.toUInt8 then s.tail else s
  if digits = [] ∨ !digits.all isDigit then 0
  else if s.head? = some '-'.toUInt8 then max (-decimal digits : Int) (-2 ^ 63)
  else min (decimal digits : Int) (2 ^ 63 - 1)

/-- `strconv.Itoa`. -/
def itoa (n : Int) : List UInt8 := bytes (toString n)

theorem atoi_digits {digits : List UInt8} (hne : digits ≠ [])
    (hdigits : ∀ b ∈ digits, isDigit b = true) :
    atoi digits = min (decimal digits : Int) (2 ^ 63 - 1) := by
  have hsign (b : UInt8) (hb : isDigit b = false) : digits.head? ≠ some b := by
    intro h
    have htrue := hdigits b (List.mem_of_mem_head? h)
    rw [hb] at htrue
    cases htrue
  have hminus := hsign '-'.toUInt8 (by decide)
  have hplus := hsign '+'.toUInt8 (by decide)
  have hall : digits.all isDigit = true := List.all_eq_true.mpr hdigits
  simp [atoi, hminus, hplus, hall, hne]

end GoText
