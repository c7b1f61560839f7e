import Boxui.Library.HostNames
import Boxui.Library.Numerals
import Mathlib.Data.List.TakeWhile

/-! Go's `net.ParseIP`. -/
namespace GoNet

abbrev IP := Vector UInt8 16

/-- A field of an IPv4 address: a decimal of one byte, without leading zeros. -/
def octet (field : List Char) : Option UInt8 :=
  match Numerals.read 10 field with
  | some n =>
    if n ≤ 255 ∧ (field.length = 1 ∨ field.head? ≠ some '0') then some (UInt8.ofNat n) else none
  | none => none

def parseIPv4 (s : List Char) : Option (Vector UInt8 4) :=
  match s.splitOn '.' with
  | [a, b, c, d] => do
    let a ← octet a
    let b ← octet b
    let c ← octet c
    let d ← octet d
    return #v[a, b, c, d]
  | _ => none

def isHex (c : Char) : Bool := decide (Numerals.digitValue c < 16)

/-- The bytes of an IPv6 address read so far, how many of them come before the two colons that
stand for groups of zeros, and the rest of the text. -/
structure Groups where
  bytes : List UInt8
  ellipsis : Option ℕ
  rest : List Char

/-- The text after a group: its end, or a colon and more. -/
def separated (bytes : List UInt8) (ellipsis : Option ℕ) : List Char → Option Groups
  | [] => some ⟨bytes, ellipsis, []⟩
  | ':' :: ':' :: rest =>
    if ellipsis.isSome then none else some ⟨bytes, some bytes.length, rest⟩
  | ':' :: c :: rest => some ⟨bytes, ellipsis, c :: rest⟩
  | _ => none

/-- One round of the loop of `netip.parseIPv6`. -/
def nextGroup (g : Groups) : Option Groups :=
  let digits := g.rest.takeWhile isHex
  let rest := g.rest.dropWhile isHex
  let n := Numerals.value 16 digits
  if digits = [] ∨ 4 < digits.length then none
  else if rest.head? = some '.' then
    -- an IPv4 address may only come last
    if g.ellipsis = none ∧ g.bytes.length ≠ 12 ∨ 16 < g.bytes.length + 4 then none
    else (parseIPv4 g.rest).map fun fields => ⟨g.bytes ++ fields.toList, g.ellipsis, []⟩
  else separated (g.bytes ++ [UInt8.ofNat (n / 256), UInt8.ofNat (n % 256)]) g.ellipsis rest

/-- The loop, which ends with the text or when it has no room for another group. -/
def parseGroups : ℕ → Groups → Option Groups
  | 0, g => some g
  | room + 1, g => if g.rest = [] then some g else (nextGroup g).bind (parseGroups room)

/-- The address of the groups, with the zeros that the two colons stand for. -/
def Groups.address (g : Groups) : Option IP :=
  match g.rest, g.ellipsis with
  | [], none => if h : g.bytes.length = 16 then some ⟨g.bytes.toArray, h⟩ else none
  | [], some first =>
    if h : g.bytes.length < 16 then
      some ⟨(g.bytes.take first ++ List.replicate (16 - g.bytes.length) 0 ++
        g.bytes.drop first).toArray, by simp; omega⟩
    else none
  | _ :: _, _ => none

def parseIPv6 (s : List Char) : Option IP :=
  match s with
  | ':' :: ':' :: rest => (parseGroups 8 ⟨[], some 0, rest⟩).bind Groups.address
  | _ => (parseGroups 8 ⟨[], none, s⟩).bind Groups.address

/-- An IPv4 address among the IPv6 ones. -/
def mapped (fields : Vector UInt8 4) : IP :=
  ⟨(List.replicate 10 0 ++ [0xff, 0xff] ++ fields.toList).toArray, by simp⟩

/-- `net.ParseIP`, which takes no address with a zone. -/
def parseIP (s : List Char) : Option IP :=
  match s.find? (['.', ':', '%'].contains ·) with
  | some '.' => (parseIPv4 s).map mapped
  | some ':' => if '%' ∈ s then none else parseIPv6 s
  | _ => none

/-- The characters of addresses. -/
def IsAddressChar (c : Char) : Prop := isHex c = true ∨ c = '.' ∨ c = ':'

theorem isAddressChar_of_octet {field : List Char} {n : UInt8} (h : octet field = some n) :
    ∀ c ∈ field, IsAddressChar c := by
  unfold octet at h
  cases hread : Numerals.read 10 field with
  | none => simp [hread] at h
  | some value =>
    intro c hc
    have hdigits := (Numerals.read_eq_some_iff.mp hread).1
    rw [Numerals.isNumeral, Bool.and_eq_true, List.all_eq_true] at hdigits
    have hdigit := of_decide_eq_true (hdigits.2 c hc)
    exact .inl (decide_eq_true (by omega))

theorem isAddressChar_of_parseIPv4 {s : List Char} {fields : Vector UInt8 4}
    (h : parseIPv4 s = some fields) : ∀ c ∈ s, IsAddressChar c := by
  unfold parseIPv4 at h
  split at h
  · rename_i a b c d hsplit
    simp only [Option.bind_eq_bind, Option.bind_eq_some_iff] at h
    obtain ⟨_, ha, _, hb, _, hc, _, hd, -⟩ := h
    intro x hx
    by_cases hdot : x = '.'
    · exact .inr (.inl hdot)
    · obtain ⟨field, hfield, hmem⟩ := HostNames.exists_mem_splitOn hx hdot
      simp only [hsplit, List.mem_cons, List.not_mem_nil, or_false] at hfield
      obtain rfl | rfl | rfl | rfl := hfield
      · exact isAddressChar_of_octet ha x hmem
      · exact isAddressChar_of_octet hb x hmem
      · exact isAddressChar_of_octet hc x hmem
      · exact isAddressChar_of_octet hd x hmem
  · exact absurd h (by simp)

theorem isAddressChar_of_separated {bytes : List UInt8} {ellipsis : Option ℕ} {rest : List Char}
    {g : Groups} (h : separated bytes ellipsis rest = some g) :
    ∀ c ∈ rest, c ∈ g.rest ∨ IsAddressChar c := by
  unfold separated at h
  split at h
  · simp
  · split_ifs at h
    obtain rfl := Option.some.inj h
    intro c hc
    simp only [List.mem_cons] at hc
    obtain rfl | rfl | hc := hc
    · exact .inr (.inr (.inr rfl))
    · exact .inr (.inr (.inr rfl))
    · exact .inl hc
  · obtain rfl := Option.some.inj h
    intro c hc
    obtain rfl | hc := List.mem_cons.mp hc
    · exact .inr (.inr (.inr rfl))
    · exact .inl hc
  · exact absurd h (by simp)

theorem isAddressChar_of_nextGroup {g g' : Groups} (h : nextGroup g = some g') :
    ∀ c ∈ g.rest, c ∈ g'.rest ∨ IsAddressChar c := by
  intro c hc
  simp only [nextGroup] at h
  split_ifs at h
  · obtain ⟨fields, hfields, -⟩ := Option.map_eq_some_iff.mp h
    exact .inr (isAddressChar_of_parseIPv4 hfields c hc)
  · rw [← List.takeWhile_append_dropWhile (p := isHex) (l := g.rest), List.mem_append] at hc
    obtain hc | hc := hc
    · exact .inr (.inl (List.mem_takeWhile_imp hc))
    · exact isAddressChar_of_separated h c hc

/-- What the loop reads is made of the characters of addresses. -/
theorem isAddressChar_of_parseGroups {room : ℕ} {g g' : Groups}
    (h : parseGroups room g = some g') : ∀ c ∈ g.rest, c ∈ g'.rest ∨ IsAddressChar c := by
  induction room generalizing g with
  | zero =>
    obtain rfl := Option.some.inj h
    exact fun c hc => .inl hc
  | succ room ih =>
    rw [parseGroups] at h
    split_ifs at h
    · obtain rfl := Option.some.inj h
      exact fun c hc => .inl hc
    · obtain ⟨next, hnext, h⟩ := Option.bind_eq_some_iff.mp h
      intro c hc
      obtain hc | hc := isAddressChar_of_nextGroup hnext c hc
      · exact ih h c hc
      · exact .inr hc

theorem rest_of_address {g : Groups} {ip : IP} (h : g.address = some ip) : g.rest = [] := by
  unfold Groups.address at h
  split at h
  · assumption
  · assumption
  · exact absurd h (by simp)

theorem isAddressChar_of_groups {g : Groups} {ip : IP}
    (h : (parseGroups 8 g).bind Groups.address = some ip) : ∀ c ∈ g.rest, IsAddressChar c := by
  obtain ⟨last, hlast, haddress⟩ := Option.bind_eq_some_iff.mp h
  intro c hc
  obtain hc | hc := isAddressChar_of_parseGroups hlast c hc
  · rw [rest_of_address haddress] at hc
    exact absurd hc List.not_mem_nil
  · exact hc

theorem isAddressChar_of_parseIPv6 {s : List Char} {ip : IP} (h : parseIPv6 s = some ip) :
    ∀ c ∈ s, IsAddressChar c := by
  unfold parseIPv6 at h
  split at h
  · intro c hc
    simp only [List.mem_cons] at hc
    obtain rfl | rfl | hc := hc
    · exact .inr (.inr rfl)
    · exact .inr (.inr rfl)
    · exact isAddressChar_of_groups h c hc
  · exact isAddressChar_of_groups h

/-- An address is made of hexadecimal digits, dots and colons. -/
theorem isAddressChar_of_parseIP {s : List Char} {ip : IP} (h : parseIP s = some ip) :
    ∀ c ∈ s, IsAddressChar c := by
  unfold parseIP at h
  split at h
  · obtain ⟨fields, hfields, -⟩ := Option.map_eq_some_iff.mp h
    exact isAddressChar_of_parseIPv4 hfields
  · split_ifs at h
    exact isAddressChar_of_parseIPv6 h
  · exact absurd h (by simp)

end GoNet
