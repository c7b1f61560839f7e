import Boxui.Library.GoText
import Mathlib.Data.List.DropRight

/-! Go's `net/url`: what `Parse` reads out of a URL, and what its accessors return. Of the fields
of a URL those stay that can be read back through them; the others only matter where they are
malformed. Which texts `netip.ParseAddr` takes for an IPv6 address is a parameter. -/
namespace GoURL
open GoStrings GoText

/-- The part of a URL that is encoded. -/
inductive Encoding where
  | path
  | host
  | zone
  | userPassword
  | queryComponent
  | fragment
  deriving DecidableEq

def among (chars : List Char) (b : UInt8) : Bool := (chars.map Char.toUInt8).contains b

def isLetter (b : UInt8) : Bool :=
  'a'.toUInt8 ≤ b && b ≤ 'z'.toUInt8 || 'A'.toUInt8 ≤ b && b ≤ 'Z'.toUInt8

def shouldEscape (mode : Encoding) (b : UInt8) : Bool :=
  if isLetter b || isDigit b then false
  else if (mode == .host || mode == .zone) && among ['!', '$', '&', '\'', '(', ')', '*', '+', ',',
      ';', '=', ':', '[', ']', '<', '>', '"'] b then false
  else if among ['-', '_', '.', '~'] b then false
  else if among ['$', '&', '+', ',', '/', ':', ';', '=', '?', '@'] b then
    match mode with
    | .path => b == '?'.toUInt8
    | .userPassword => among ['@', '/', '?', ':'] b
    | .fragment => false
    | _ => true
  else if mode == .fragment && among ['!', '(', ')', '*'] b then false
  else true

def isHex (b : UInt8) : Bool :=
  isDigit b || 'a'.toUInt8 ≤ b && b ≤ 'f'.toUInt8 || 'A'.toUInt8 ≤ b && b ≤ 'F'.toUInt8

def unhex (b : UInt8) : UInt8 :=
  if isDigit b then b - '0'.toUInt8
  else if 'a'.toUInt8 ≤ b then b - 'a'.toUInt8 + 10
  else b - 'A'.toUInt8 + 10

def upperHex (n : UInt8) : UInt8 := if n < 10 then '0'.toUInt8 + n else 'A'.toUInt8 + (n - 10)

/-- A host escapes no ASCII byte but the percent sign, and a zone only what it may spell out. -/
def escapeAllowed (mode : Encoding) (hi lo : UInt8) : Bool :=
  let percent := hi == '2'.toUInt8 && lo == '5'.toUInt8
  let b := unhex hi * 16 + unhex lo
  match mode with
  | .host => 8 ≤ unhex hi || percent
  | .zone => percent || b == ' '.toUInt8 || !shouldEscape .host b
  | _ => true

def unescape (mode : Encoding) : List UInt8 → Option (List UInt8)
  | [] => some []
  | b :: s =>
    if b = '%'.toUInt8 then
      match s with
      | hi :: lo :: s =>
        if isHex hi && isHex lo && escapeAllowed mode hi lo then
          (unescape mode s).map ((unhex hi * 16 + unhex lo) :: ·)
        else none
      | _ => none
    else if b = '+'.toUInt8 ∧ mode = .queryComponent then
      (unescape mode s).map (' '.toUInt8 :: ·)
    else if (mode = .host ∨ mode = .zone) ∧ b < 0x80 ∧ shouldEscape mode b = true then none
    else (unescape mode s).map (b :: ·)

def escapeByte (b : UInt8) : List UInt8 := ['%'.toUInt8, upperHex (b / 16), upperHex (b % 16)]

def escape (mode : Encoding) (s : List UInt8) : List UInt8 :=
  s.flatMap fun b =>
    if shouldEscape mode b then
      if b = ' '.toUInt8 ∧ mode = .queryComponent then ['+'.toUInt8] else escapeByte b
    else [b]

/-- `before, after, _ = strings.Cut(s, sep)`. -/
def before (sep : UInt8) (s : List UInt8) : List UInt8 := s.takeWhile (· != sep)

def after (sep : UInt8) (s : List UInt8) : List UInt8 := (s.dropWhile (· != sep)).tail

/-- What stands before and behind the last `sep`, where there is one. -/
def beforeLast (sep : UInt8) (s : List UInt8) : List UInt8 := (s.rdropWhile (· != sep)).dropLast

def afterLast (sep : UInt8) (s : List UInt8) : List UInt8 := s.rtakeWhile (· != sep)

structure Userinfo where
  username : List UInt8
  password : Option (List UInt8)
  deriving DecidableEq

structure URL where
  scheme : List UInt8
  user : Option Userinfo
  host : List UInt8
  rawQuery : List UInt8
  fragment : List UInt8

/-- A port, or none, with its colon. -/
def validOptionalPort : List UInt8 → Bool
  | [] => true
  | b :: digits => b == ':'.toUInt8 && digits.all isDigit

def validUserinfo (s : List UInt8) : Bool :=
  s.all fun b => isLetter b || isDigit b || among ['-', '.', '_', ':', '~', '!', '$', '&', '\'',
    '(', ')', '*', '+', ',', ';', '=', '%', '@'] b

def parseUserinfo (s : List UInt8) : Option Userinfo :=
  if !validUserinfo s then none
  else if ':'.toUInt8 ∉ s then (unescape .userPassword s).map fun username => ⟨username, none⟩
  else do
    let username ← unescape .userPassword (before ':'.toUInt8 s)
    let password ← unescape .userPassword (after ':'.toUInt8 s)
    return ⟨username, some password⟩

/-- What stands before the first "%25". -/
def beforeZone : List UInt8 → List UInt8
  | [] => []
  | b :: s => if ['%', '2', '5'].map Char.toUInt8 <+: b :: s then [] else b :: beforeZone s

def parseHost (ipv6 : List UInt8 → Bool) (scheme host : List UInt8) : Option (List UInt8) :=
  if '['.toUInt8 ∈ host then
    if host.head? = some '['.toUInt8 ∧ '['.toUInt8 ∉ host.tail ∧ ']'.toUInt8 ∈ host ∧
        validOptionalPort (afterLast ']'.toUInt8 host) = true then do
      let hostname := (beforeLast ']'.toUInt8 host).tail
      let address ← unescape .host (beforeZone hostname)
      let zone ← unescape .zone (hostname.drop (beforeZone hostname).length)
      let port ← unescape .host (afterLast ']'.toUInt8 host)
      if ipv6 (address ++ zone) then
        return '['.toUInt8 :: address ++ zone ++ ']'.toUInt8 :: port
      else none
    else none
  else if ':'.toUInt8 ∈ host then
    let strict := scheme = bytes "http" ∨ scheme = bytes "https"
    let port := if strict then after ':'.toUInt8 host else afterLast ':'.toUInt8 host
    if port.all isDigit then unescape .host host else none
  else unescape .host host

def parseAuthority (ipv6 : List UInt8 → Bool) (scheme authority : List UInt8) :
    Option (Option Userinfo × List UInt8) :=
  if '@'.toUInt8 ∈ authority then do
    let host ← parseHost ipv6 scheme (afterLast '@'.toUInt8 authority)
    let user ← parseUserinfo (beforeLast '@'.toUInt8 authority)
    return (some user, host)
  else (parseHost ipv6 scheme authority).map fun host => (none, host)

def isSchemeByte (b : UInt8) : Bool := isLetter b || isDigit b || among ['+', '-', '.'] b

def toLower (b : UInt8) : UInt8 :=
  if 'A'.toUInt8 ≤ b ∧ b ≤ 'Z'.toUInt8 then b + 32 else b

/-- The scheme in lower case, or none, and the rest. -/
def getScheme (raw : List UInt8) : Option (List UInt8 × List UInt8) :=
  if raw.head? = some ':'.toUInt8 then none
  else if raw.head?.any isLetter ∧ (raw.dropWhile isSchemeByte).head? = some ':'.toUInt8 then
    some ((raw.takeWhile isSchemeByte).map toLower, (raw.dropWhile isSchemeByte).tail)
  else some ([], raw)

def isControl (b : UInt8) : Bool := b < ' '.toUInt8 || b == 0x7f

def slash : UInt8 := '/'.toUInt8

/-- What `Parse` makes of a URL without its fragment. -/
def parseBody (ipv6 : List UInt8 → Bool) (raw : List UInt8) : Option URL :=
  if raw.any isControl then none
  else if raw = bytes "*" then some ⟨[], none, [], [], []⟩
  else do
    let (scheme, rest) ← getScheme raw
    let rawQuery := after '?'.toUInt8 rest
    let rest := before '?'.toUInt8 rest
    if rest.head? ≠ some slash ∧ scheme ≠ [] then return ⟨scheme, none, [], rawQuery, []⟩
    else if rest.head? ≠ some slash ∧ ':'.toUInt8 ∈ before slash rest then none
    else if [slash, slash] <+: rest ∧ (scheme ≠ [] ∨ ¬[slash, slash, slash] <+: rest) then
      let (user, host) ← parseAuthority ipv6 scheme (before slash (rest.drop 2))
      let _ ← unescape .path ((rest.drop 2).dropWhile (· != slash))
      return ⟨scheme, user, host, rawQuery, []⟩
    else
      let _ ← unescape .path rest
      return ⟨scheme, none, [], rawQuery, []⟩

def parse (ipv6 : List UInt8 → Bool) (raw : List UInt8) : Option URL := do
  let url ← parseBody ipv6 (before '#'.toUInt8 raw)
  let fragment ← unescape .fragment (after '#'.toUInt8 raw)
  return { url with fragment := fragment }

namespace Userinfo

/-- `u.User.Username()`, where `u.User` may be missing. -/
def usernameOf (user : Option Userinfo) : List UInt8 := (user.map username).getD []

/-- `password, _ := u.User.Password()`. -/
def passwordOf (user : Option Userinfo) : List UInt8 := (user.bind password).getD []

/-- `u.User.String()`. -/
def spelled : Option Userinfo → List UInt8
  | none => []
  | some user => escape .userPassword user.username ++
      match user.password with
      | none => []
      | some password => ':'.toUInt8 :: escape .userPassword password

end Userinfo

namespace URL

def splitHostPort (hostPort : List UInt8) : List UInt8 × List UInt8 :=
  let (host, port) :=
    if ':'.toUInt8 ∈ hostPort ∧ (afterLast ':'.toUInt8 hostPort).all isDigit = true then
      (beforeLast ':'.toUInt8 hostPort, afterLast ':'.toUInt8 hostPort)
    else (hostPort, [])
  if host.head? = some '['.toUInt8 ∧ host.getLast? = some ']'.toUInt8 then
    (host.tail.dropLast, port)
  else (host, port)

def hostname (url : URL) : List UInt8 := (splitHostPort url.host).1

def port (url : URL) : List UInt8 := (splitHostPort url.host).2

def queryPair (part : List UInt8) : Option (List UInt8 × List UInt8) :=
  if ';'.toUInt8 ∈ part ∨ part = [] then none
  else do
    let key ← unescape .queryComponent (before '='.toUInt8 part)
    let value ← unescape .queryComponent (after '='.toUInt8 part)
    return (key, value)

/-- The pairs of the query in order; a query of too many parts is dropped. -/
def query (url : URL) : List (List UInt8 × List UInt8) :=
  let parts := url.rawQuery.splitOn '&'.toUInt8
  if 10000 < parts.length then [] else parts.filterMap queryPair

/-- `q.Get(key)`. -/
def get (url : URL) (key : String) : List UInt8 :=
  ((url.query.find? fun pair => pair.1 == bytes key).map Prod.snd).getD []

end URL

theorem forall_byte_iff (P : UInt8 → Prop) : (∀ b, P b) ↔ ∀ n : Fin 256, P (UInt8.ofNat n) := by
  refine ⟨fun h n => h _, fun h b => ?_⟩
  have hb := h ⟨b.toNat, b.toNat_lt⟩
  rwa [UInt8.ofNat_toNat] at hb

theorem hex_escapeByte (b : UInt8) : isHex (upperHex (b / 16)) = true ∧
    isHex (upperHex (b % 16)) = true ∧
      unhex (upperHex (b / 16)) * 16 + unhex (upperHex (b % 16)) = b := by
  revert b
  rw [forall_byte_iff]
  decide +kernel

/-- A part of a URL in which any byte may be escaped. -/
def Encoding.Free (mode : Encoding) : Prop := mode ≠ .host ∧ mode ≠ .zone

theorem escapeAllowed_of_free {mode : Encoding} (h : mode.Free) (hi lo : UInt8) :
    escapeAllowed mode hi lo = true := by
  obtain ⟨hhost, hzone⟩ := h
  cases mode <;> first | rfl | contradiction

theorem unescape_percent {mode : Encoding} (h : mode.Free) {hi lo : UInt8} (hhi : isHex hi = true)
    (hlo : isHex lo = true) (s : List UInt8) : unescape mode ('%'.toUInt8 :: hi :: lo :: s) =
      (unescape mode s).map ((unhex hi * 16 + unhex lo) :: ·) := by
  rw [unescape, if_pos rfl]
  simp [hhi, hlo, escapeAllowed_of_free h]

theorem unescape_plus (s : List UInt8) : unescape .queryComponent ('+'.toUInt8 :: s) =
    (unescape .queryComponent s).map (' '.toUInt8 :: ·) := by
  rw [unescape.eq_def]
  exact (if_neg (by decide)).trans (if_pos ⟨rfl, rfl⟩)

/-- A byte that stands for itself. -/
theorem unescape_cons {mode : Encoding} (h : mode.Free) {b : UInt8} (hpercent : b ≠ '%'.toUInt8)
    (hplus : b = '+'.toUInt8 → mode ≠ .queryComponent) (s : List UInt8) :
    unescape mode (b :: s) = (unescape mode s).map (b :: ·) := by
  obtain ⟨hhost, hzone⟩ := h
  rw [unescape.eq_def]
  exact (if_neg hpercent).trans ((if_neg fun hboth => hplus hboth.1 hboth.2).trans
    (if_neg fun hboth => hboth.1.elim hhost hzone))

/-- What a byte of a query that is no percent sign stands for. -/
def queryByte (b : UInt8) : UInt8 := if b = '+'.toUInt8 then ' '.toUInt8 else b

theorem unescape_queryByte {b : UInt8} (hb : b ≠ '%'.toUInt8) (s : List UInt8) :
    unescape .queryComponent (b :: s) = (unescape .queryComponent s).map (queryByte b :: ·) := by
  unfold queryByte
  split_ifs with hplus
  · rw [hplus, unescape_plus]
  · exact unescape_cons ⟨by decide, by decide⟩ hb (fun h => absurd h hplus) s

theorem queryByte_lt_iff (b : UInt8) : (queryByte b).toNat < 0x80 ↔ b.toNat < 0x80 := by
  unfold queryByte
  split_ifs with hplus
  · rw [hplus]
    decide
  · rfl

theorem unescape_escapeByte {mode : Encoding} (h : mode.Free) (b : UInt8) (s : List UInt8) :
    unescape mode (escapeByte b ++ s) = (unescape mode s).map (b :: ·) := by
  obtain ⟨hhi, hlo, hb⟩ := hex_escapeByte b
  have hstep := unescape_percent h hhi hlo s
  rwa [hb] at hstep

/-- Every byte escaped. -/
def percentEncode (s : List UInt8) : List UInt8 := s.flatMap escapeByte

theorem unescape_percentEncode {mode : Encoding} (h : mode.Free) (s : List UInt8) :
    unescape mode (percentEncode s) = some s := by
  induction s with
  | nil => rfl
  | cons b s ih =>
    rw [percentEncode, List.flatMap_cons, unescape_escapeByte h]
    rw [percentEncode] at ih
    rw [ih, Option.map_some]

/-- The percent sign is not followed by two hexadecimal digits. -/
def BadEscape (s : List UInt8) : Prop :=
  ∀ hi lo rest, s = hi :: lo :: rest → ¬(isHex hi = true ∧ isHex lo = true)

/-- Some percent sign is not followed by two hexadecimal digits. -/
def Malformed (s : List UInt8) : Prop := ∃ x y, s = x ++ '%'.toUInt8 :: y ∧ BadEscape y

theorem badEscape_or (s : List UInt8) : BadEscape s ∨
    ∃ hi lo rest, s = hi :: lo :: rest ∧ isHex hi = true ∧ isHex lo = true := by
  by_cases h : BadEscape s
  · exact .inl h
  · unfold BadEscape at h
    push Not at h
    exact .inr h

/-- Reading a text escape by escape. -/
theorem escape_induction {P : List UInt8 → Prop} (nil : P [])
    (bad : ∀ s, BadEscape s → P ('%'.toUInt8 :: s))
    (percent : ∀ hi lo s, isHex hi = true → isHex lo = true → P s →
      P ('%'.toUInt8 :: hi :: lo :: s))
    (other : ∀ b s, b ≠ '%'.toUInt8 → P s → P (b :: s)) (s : List UInt8) : P s := by
  induction hn : s.length using Nat.strong_induction_on generalizing s with
  | _ n ih =>
    cases s with
    | nil => exact nil
    | cons b s =>
      rw [List.length_cons] at hn
      by_cases hb : b = '%'.toUInt8
      · subst hb
        rcases badEscape_or s with hbad | ⟨hi, lo, rest, rfl, hhi, hlo⟩
        · exact bad s hbad
        · simp only [List.length_cons] at hn
          exact percent hi lo rest hhi hlo (ih rest.length (by omega) rest rfl)
      · exact other b s hb (ih s.length (by omega) s rfl)

theorem unescape_bad (mode : Encoding) {s : List UInt8} (h : BadEscape s) :
    unescape mode ('%'.toUInt8 :: s) = none := by
  rw [unescape.eq_def]
  refine (if_pos rfl).trans ?_
  match s with
  | [] => rfl
  | [_] => rfl
  | hi :: lo :: rest =>
    have hhex := h hi lo rest rfl
    simp only [Bool.and_eq_true]
    exact if_neg fun hall => hhex hall.1

theorem malformed_cons {b : UInt8} (hb : b ≠ '%'.toUInt8) (s : List UInt8) :
    Malformed (b :: s) ↔ Malformed s := by
  constructor
  · rintro ⟨_ | ⟨c, x⟩, y, heq, hbad⟩
    · exact absurd (List.cons.inj heq).1 hb
    · exact ⟨x, y, (List.cons.inj heq).2, hbad⟩
  · rintro ⟨x, y, rfl, hbad⟩
    exact ⟨b :: x, y, rfl, hbad⟩

theorem ne_percent_of_isHex {b : UInt8} (h : isHex b = true) : b ≠ '%'.toUInt8 := by
  rintro rfl
  exact absurd h (by decide)

/-- What cannot be unescaped. -/
theorem unescape_queryComponent_eq_none_iff (s : List UInt8) :
    unescape .queryComponent s = none ↔ Malformed s := by
  have hfree : Encoding.Free .queryComponent := ⟨by decide, by decide⟩
  induction s using escape_induction with
  | nil => simp [unescape, Malformed]
  | bad s h => simp [unescape_bad _ h, show Malformed ('%'.toUInt8 :: s) from ⟨[], s, rfl, h⟩]
  | percent hi lo s hhi hlo ih =>
    have hdigits : Malformed (hi :: lo :: s) ↔ Malformed s :=
      (malformed_cons (ne_percent_of_isHex hhi) _).trans
        (malformed_cons (ne_percent_of_isHex hlo) _)
    have hiff : Malformed ('%'.toUInt8 :: hi :: lo :: s) ↔ Malformed s := by
      constructor
      · rintro ⟨_ | ⟨c, x⟩, y, heq, hbad⟩
        · exact absurd ⟨hhi, hlo⟩ (hbad hi lo s (List.cons.inj heq).2.symm)
        · exact hdigits.mp ⟨x, y, (List.cons.inj heq).2, hbad⟩
      · intro h
        obtain ⟨x, y, heq, hbad⟩ := hdigits.mpr h
        exact ⟨'%'.toUInt8 :: x, y, congrArg _ heq, hbad⟩
    rw [unescape_percent hfree hhi hlo]
    exact Option.map_eq_none_iff.trans (ih.trans hiff.symm)
  | other b s hb ih =>
    rw [unescape_queryByte hb, Option.map_eq_none_iff, malformed_cons hb]
    exact ih

theorem ascii_cons {b : UInt8} (hb : b.toNat < 0x80) (s : List UInt8) :
    ascii (b :: s) = b :: ascii s :=
  List.filter_cons_of_pos (by simpa using hb)

theorem length_ascii_cons (b : UInt8) (s : List UInt8) :
    (ascii (b :: s)).length ≤ (ascii s).length + 1 := by
  rw [ascii, List.filter_cons]
  split_ifs
  · exact Nat.le_refl _
  · exact Nat.le_succ _

theorem isHex_lt (b : UInt8) : isHex b = true → b.toNat < 0x80 := by
  revert b
  rw [forall_byte_iff]
  decide +kernel

theorem length_ascii_percent {hi lo : UInt8} (hhi : isHex hi = true) (hlo : isHex lo = true)
    (s : List UInt8) :
    (ascii ('%'.toUInt8 :: hi :: lo :: s)).length = (ascii s).length + 3 := by
  rw [ascii_cons (by decide), ascii_cons (isHex_lt hi hhi), ascii_cons (isHex_lt lo hlo)]
  rfl

/-- Reading a text escape by escape, when that succeeds. -/
theorem unescape_induction {P : List UInt8 → List UInt8 → Prop} (nil : P [] [])
    (percent : ∀ hi lo s t, isHex hi = true → isHex lo = true →
      unescape .queryComponent s = some t → P s t →
      P ('%'.toUInt8 :: hi :: lo :: s) ((unhex hi * 16 + unhex lo) :: t))
    (other : ∀ b s t, b ≠ '%'.toUInt8 → P s t → P (b :: s) (queryByte b :: t))
    {s t : List UInt8} (h : unescape .queryComponent s = some t) : P s t := by
  induction s using escape_induction generalizing t with
  | nil =>
    obtain rfl := Option.some.inj h
    exact nil
  | bad s hbad =>
    rw [unescape_bad _ hbad] at h
    cases h
  | percent hi lo s hhi hlo ih =>
    rw [unescape_percent ⟨by decide, by decide⟩ hhi hlo, Option.map_eq_some_iff] at h
    obtain ⟨t, ht, rfl⟩ := h
    exact percent hi lo s t hhi hlo ht (ih ht)
  | other b s hb ih =>
    rw [unescape_queryByte hb, Option.map_eq_some_iff] at h
    obtain ⟨t, ht, rfl⟩ := h
    exact other b s t hb (ih ht)

theorem length_ascii_unescape {s t : List UInt8} (h : unescape .queryComponent s = some t) :
    (ascii t).length ≤ (ascii s).length := by
  refine @unescape_induction (fun s t => (ascii t).length ≤ (ascii s).length) le_rfl ?_ ?_ s t h
  · intro hi lo s t hhi hlo _ hlength
    have hcons := length_ascii_cons (unhex hi * 16 + unhex lo) t
    rw [length_ascii_percent hhi hlo]
    omega
  · intro b s t _ hlength
    simp only [ascii, List.filter_cons, decide_eq_true_eq, queryByte_lt_iff]
    split_ifs
    · exact Nat.succ_le_succ hlength
    · exact hlength

/-- What has neither escapes nor signs stands for itself. -/
theorem unescape_queryComponent_self {s : List UInt8} (hpercent : '%'.toUInt8 ∉ s)
    (hplus : '+'.toUInt8 ∉ s) : unescape .queryComponent s = some s := by
  induction s with
  | nil => rfl
  | cons b s ih =>
    rw [List.mem_cons, not_or] at hpercent hplus
    rw [unescape_cons ⟨by decide, by decide⟩ (Ne.symm hpercent.1)
      (fun h => absurd h (Ne.symm hplus.1)), ih hpercent.2 hplus.2, Option.map_some]

/-- Unescaping anything is seen in the ASCII bytes. -/
theorem not_mem_of_ascii_unescape {s t : List UInt8} (h : unescape .queryComponent s = some t) :
    ascii t = ascii s → '%'.toUInt8 ∉ s ∧ '+'.toUInt8 ∉ s := by
  refine @unescape_induction (fun s t => ascii t = ascii s → '%'.toUInt8 ∉ s ∧ '+'.toUInt8 ∉ s)
    (fun _ => ⟨List.not_mem_nil, List.not_mem_nil⟩) ?_ ?_ s t h
  · intro hi lo s t hhi hlo ht _ heq
    have hlength := length_ascii_unescape ht
    have hcons := length_ascii_cons (unhex hi * 16 + unhex lo) t
    rw [heq, length_ascii_percent hhi hlo] at hcons
    omega
  · intro b s t hb ih heq
    have hsplit : (b.toNat < 0x80 → queryByte b = b) ∧ ascii t = ascii s := by
      simp only [ascii, List.filter_cons, decide_eq_true_eq, queryByte_lt_iff] at heq
      split_ifs at heq with hlow
      · exact ⟨fun _ => (List.cons.inj heq).1, (List.cons.inj heq).2⟩
      · exact ⟨fun h => absurd h hlow, heq⟩
    have hplus : b ≠ '+'.toUInt8 := by
      rintro rfl
      exact absurd (hsplit.1 (by decide)) (by decide)
    obtain ⟨hpercent, hsign⟩ := ih hsplit.2
    exact ⟨List.not_mem_cons_of_ne_of_not_mem (Ne.symm hb) hpercent,
      List.not_mem_cons_of_ne_of_not_mem (Ne.symm hplus) hsign⟩

/-- What unescaping leaves as it is, also for those who only see the text. -/
theorem text_unescape_eq_iff {s t : List UInt8} (h : unescape .queryComponent s = some t) :
    text t = text s ↔ '%'.toUInt8 ∉ s ∧ '+'.toUInt8 ∉ s := by
  constructor
  · exact fun heq => not_mem_of_ascii_unescape h (ascii_eq_of_text_eq heq)
  · rintro ⟨hpercent, hplus⟩
    rw [unescape_queryComponent_self hpercent hplus] at h
    rw [Option.some.inj h]

theorem unescape_eq_nil {s : List UInt8} (h : unescape .queryComponent s = some []) : s = [] := by
  refine @unescape_induction (fun s t => t = [] → s = []) (fun _ => rfl) ?_ ?_ s [] h rfl
  · intro hi lo s t _ _ _ _ heq
    cases heq
  · intro b s t _ _ heq
    cases heq

theorem lt_of_not_shouldEscape (b : UInt8) :
    shouldEscape .userPassword b = false → b.toNat < 0x80 := by
  revert b
  rw [forall_byte_iff]
  decide +kernel

theorem lt_of_mem_escapeByte {b c : UInt8} : c ∈ escapeByte b → c.toNat < 0x80 := by
  have hhex : ∀ b : UInt8, (upperHex (b / 16)).toNat < 0x80 ∧ (upperHex (b % 16)).toNat < 0x80 := by
    rw [forall_byte_iff]
    decide +kernel
  intro h
  simp only [escapeByte, List.mem_cons, List.not_mem_nil, or_false] at h
  rcases h with rfl | rfl | rfl
  · decide
  · exact (hhex b).1
  · exact (hhex b).2

/-- Escaped user-info is ASCII. -/
theorem lt_of_mem_escape {s : List UInt8} {c : UInt8} (h : c ∈ escape .userPassword s) :
    c.toNat < 0x80 := by
  obtain ⟨b, -, hb⟩ := List.mem_flatMap.mp h
  split_ifs at hb with hescape hspace
  · exact absurd hspace.2 (by decide)
  · exact lt_of_mem_escapeByte hb
  · rw [List.mem_singleton.mp hb]
    exact lt_of_not_shouldEscape b (Bool.eq_false_iff.mpr hescape)

theorem length_le_escape (s : List UInt8) : s.length ≤ (escape .userPassword s).length := by
  induction s with
  | nil => exact Nat.le_refl 0
  | cons b s ih =>
    rw [escape, List.flatMap_cons, List.length_append, ← escape]
    have hone : 1 ≤ (if shouldEscape .userPassword b then
        if b = ' '.toUInt8 ∧ Encoding.userPassword = .queryComponent then ['+'.toUInt8]
        else escapeByte b else [b]).length := by
      split_ifs <;> simp [escapeByte]
    rw [List.length_cons]
    omega

/-- What escaping leaves as it is. -/
theorem escape_eq_self_iff (s : List UInt8) :
    escape .userPassword s = s ↔ ∀ b ∈ s, shouldEscape .userPassword b = false := by
  induction s with
  | nil => simp [escape]
  | cons b s ih =>
    rw [List.forall_mem_cons, ← ih]
    have hlen := length_le_escape s
    by_cases hescape : shouldEscape .userPassword b = true
    · refine iff_of_false (fun h => ?_) fun h => absurd (hescape.symm.trans h.1) (by decide)
      have hcons : escape .userPassword (b :: s) = escapeByte b ++ escape .userPassword s := by
        simp [escape, hescape]
      have hlength := congrArg List.length (hcons.symm.trans h)
      simp only [escapeByte, List.cons_append, List.nil_append, List.length_cons] at hlength
      omega
    · have hcons : escape .userPassword (b :: s) = b :: escape .userPassword s := by
        simp [escape, hescape]
      rw [hcons]
      simp [hescape]

/-- A byte of an escaped text. -/
def isEncoded (b : UInt8) : Bool := b == '%'.toUInt8 || isLetter b || isDigit b

theorem isEncoded_of_mem {s : List UInt8} {c : UInt8} (h : c ∈ percentEncode s) :
    isEncoded c = true := by
  have hhex : ∀ b : UInt8, isEncoded (upperHex (b / 16)) = true ∧
      isEncoded (upperHex (b % 16)) = true := by
    rw [forall_byte_iff]
    decide +kernel
  obtain ⟨b, -, hb⟩ := List.mem_flatMap.mp h
  simp only [escapeByte, List.mem_cons, List.not_mem_nil, or_false] at hb
  rcases hb with rfl | rfl | rfl
  · decide
  · exact (hhex b).1
  · exact (hhex b).2

/-- A byte that ends no part of a URL. -/
def isPlain (b : UInt8) : Bool :=
  !isControl b && b != '#'.toUInt8 && b != '?'.toUInt8 && b != slash

theorem encoded_spec (b : UInt8) : isEncoded b = true →
    isPlain b = true ∧ b ≠ ':'.toUInt8 ∧ b ≠ '@'.toUInt8 ∧ validUserinfo [b] = true := by
  revert b
  rw [forall_byte_iff]
  decide +kernel

theorem before_append_cons {sep : UInt8} {s : List UInt8} (h : sep ∉ s) (s' : List UInt8) :
    before sep (s ++ sep :: s') = s ∧ after sep (s ++ sep :: s') = s' := by
  have hne : ∀ b ∈ s, (b != sep) = true := fun b hb => by
    have hne : b ≠ sep := fun heq => h (heq ▸ hb)
    simpa using hne
  constructor
  · rw [before, List.takeWhile_append_of_pos hne]
    simp
  · rw [after, List.dropWhile_append_of_pos hne]
    simp

theorem before_of_not_mem {sep : UInt8} {s : List UInt8} (h : sep ∉ s) :
    before sep s = s ∧ after sep s = [] := by
  have hne : ∀ b ∈ s, (b != sep) = true := fun b hb => by
    have hne : b ≠ sep := fun heq => h (heq ▸ hb)
    simpa using hne
  constructor
  · exact List.takeWhile_eq_self_iff.mpr hne
  · rw [after, List.dropWhile_eq_nil_iff.mpr hne]
    rfl

theorem beforeLast_append_cons {sep : UInt8} (s : List UInt8) {s' : List UInt8} (h : sep ∉ s') :
    beforeLast sep (s ++ sep :: s') = s ∧ afterLast sep (s ++ sep :: s') = s' := by
  have hne : ∀ b ∈ s'.reverse, (b != sep) = true := fun b hb => by
    have hne : b ≠ sep := fun heq => h (heq ▸ List.mem_reverse.mp hb)
    simpa using hne
  have hreverse : (s ++ sep :: s').reverse = s'.reverse ++ sep :: s.reverse := by simp
  constructor
  · rw [beforeLast, List.rdropWhile, hreverse, List.dropWhile_append_of_pos hne]
    simp
  · rw [afterLast, List.rtakeWhile, hreverse, List.takeWhile_append_of_pos hne]
    simp

/-- The scheme of a link, as it is written. -/
def isScheme (name : List UInt8) : Bool :=
  name.head?.any isLetter && name.all isSchemeByte && name.map toLower == name

theorem getScheme_append {name : List UInt8} (h : isScheme name = true) (rest : List UInt8) :
    getScheme (name ++ ':'.toUInt8 :: rest) = some (name, rest) := by
  simp only [isScheme, Bool.and_eq_true, beq_iff_eq, List.all_eq_true] at h
  obtain ⟨⟨hhead, hall⟩, hlower⟩ := h
  cases name with
  | nil => cases hhead
  | cons first name =>
    have hcolon : first ≠ ':'.toUInt8 := by
      rintro rfl
      exact absurd (hall _ List.mem_cons_self) (by decide)
    have htake : (first :: name ++ ':'.toUInt8 :: rest).takeWhile isSchemeByte = first :: name := by
      rw [List.takeWhile_append_of_pos hall]
      simp [show isSchemeByte ':'.toUInt8 = false by decide]
    have hdrop : (first :: name ++ ':'.toUInt8 :: rest).dropWhile isSchemeByte =
        ':'.toUInt8 :: rest := by
      rw [List.dropWhile_append_of_pos hall]
      simp [show isSchemeByte ':'.toUInt8 = false by decide]
    unfold getScheme
    rw [if_neg (by simpa using hcolon), htake, hdrop, if_pos ⟨hhead, rfl⟩, hlower]
    rfl

theorem isPlain_spec {b : UInt8} (h : isPlain b = true) :
    isControl b = false ∧ b ≠ '#'.toUInt8 ∧ b ≠ '?'.toUInt8 ∧ b ≠ slash := by
  simp only [isPlain, Bool.and_eq_true, Bool.not_eq_true', bne_iff_ne] at h
  exact ⟨h.1.1.1, h.1.1.2, h.1.2, h.2⟩

theorem isSchemeByte_spec (b : UInt8) : isSchemeByte b = true → isPlain b = true := by
  revert b
  rw [forall_byte_iff]
  decide +kernel

/-- A URL that is a scheme and an authority. -/
theorem parse_authority (ipv6 : List UInt8 → Bool) {name authority : List UInt8}
    (hname : isScheme name = true) (hauthority : ∀ b ∈ authority, isPlain b = true) :
    parse ipv6 (name ++ bytes "://" ++ authority) =
      (parseAuthority ipv6 name authority).map fun p => ⟨name, p.1, p.2, [], []⟩ := by
  have hsplit : name ++ bytes "://" ++ authority =
      name ++ ':'.toUInt8 :: slash :: slash :: authority := by
    simp [show bytes "://" = [':'.toUInt8, slash, slash] by decide]
  have hne : name ≠ [] := by
    rintro rfl
    cases hname
  have hplain : ∀ b ∈ name ++ ':'.toUInt8 :: slash :: slash :: authority,
      isControl b = false ∧ b ≠ '#'.toUInt8 ∧ b ≠ '?'.toUInt8 := by
    intro b hb
    have hall : ∀ b ∈ name, isPlain b = true := by
      simp only [isScheme, Bool.and_eq_true, List.all_eq_true] at hname
      exact fun b hb => isSchemeByte_spec b (hname.1.2 b hb)
    simp only [List.mem_append, List.mem_cons] at hb
    rcases hb with hb | rfl | rfl | rfl | hb
    · obtain ⟨h1, h2, h3, -⟩ := isPlain_spec (hall b hb)
      exact ⟨h1, h2, h3⟩
    · decide
    · decide
    · decide
    · obtain ⟨h1, h2, h3, -⟩ := isPlain_spec (hauthority b hb)
      exact ⟨h1, h2, h3⟩
  rw [hsplit]
  obtain ⟨hbefore, hafter⟩ := before_of_not_mem fun h => (hplain _ h).2.1 rfl
  have hmark : '?'.toUInt8 ∉ slash :: slash :: authority := fun h =>
    (hplain _ (List.mem_append_right _ (List.mem_cons_of_mem _ h))).2.2 rfl
  obtain ⟨hquery, hnone⟩ := before_of_not_mem hmark
  obtain ⟨hwhole, -⟩ := before_of_not_mem fun h => (isPlain_spec (hauthority slash h)).2.2.2 rfl
  have hpath : authority.dropWhile (· != slash) = [] := by
    rw [List.dropWhile_eq_nil_iff]
    intro b hb
    simpa using (isPlain_spec (hauthority b hb)).2.2.2
  have hcontrol : (name ++ ':'.toUInt8 :: slash :: slash :: authority).any isControl = false := by
    rw [List.any_eq_false]
    intro b hb
    rw [(hplain b hb).1]
    decide
  have hstar : name ++ ':'.toUInt8 :: slash :: slash :: authority ≠ bytes "*" := by
    intro h
    have hlength := congrArg List.length h
    simp only [show bytes "*" = ['*'.toUInt8] by decide, List.length_append,
      List.length_cons, List.length_nil] at hlength
    omega
  have hbody : parseBody ipv6 (name ++ ':'.toUInt8 :: slash :: slash :: authority) =
      (parseAuthority ipv6 name authority).map fun p => ⟨name, p.1, p.2, [], []⟩ := by
    unfold parseBody
    rw [if_neg (by rw [hcontrol]; decide), if_neg hstar, getScheme_append hname]
    simp only [Option.bind_eq_bind, Option.bind_some, hquery, hnone, List.head?_cons]
    rw [if_neg fun h => h.1 rfl, if_neg fun h => h.1 rfl,
      if_pos ⟨⟨authority, rfl⟩, .inl hne⟩, List.drop_succ_cons, List.drop_succ_cons,
      List.drop_zero, hwhole, hpath]
    cases parseAuthority ipv6 name authority <;> rfl
  rw [parse, hbefore, hafter, hbody]
  cases parseAuthority ipv6 name authority <;> rfl

theorem parseUserinfo_percentEncode (s : List UInt8) :
    parseUserinfo (percentEncode s) = some ⟨s, none⟩ := by
  have hfree : Encoding.Free .userPassword := ⟨by decide, by decide⟩
  have hspec := fun b (hb : b ∈ percentEncode s) => encoded_spec b (isEncoded_of_mem hb)
  have hvalid : validUserinfo (percentEncode s) = true := by
    rw [validUserinfo, List.all_eq_true]
    intro b hb
    simpa [validUserinfo] using (hspec b hb).2.2.2
  unfold parseUserinfo
  rw [if_neg (by rw [hvalid]; decide), if_pos fun h => (hspec _ h).2.1 rfl,
    unescape_percentEncode hfree, Option.map_some]

theorem parseUserinfo_percentEncode_append (s s' : List UInt8) :
    parseUserinfo (percentEncode s ++ ':'.toUInt8 :: percentEncode s') = some ⟨s, some s'⟩ := by
  have hfree : Encoding.Free .userPassword := ⟨by decide, by decide⟩
  have hspec {s : List UInt8} := fun b (hb : b ∈ percentEncode s) =>
    encoded_spec b (isEncoded_of_mem hb)
  have hvalid : validUserinfo (percentEncode s ++ ':'.toUInt8 :: percentEncode s') = true := by
    rw [validUserinfo, List.all_eq_true]
    intro b hb
    rw [List.mem_append, List.mem_cons] at hb
    rcases hb with hb | rfl | hb
    · simpa [validUserinfo] using (hspec b hb).2.2.2
    · decide
    · simpa [validUserinfo] using (hspec b hb).2.2.2
  obtain ⟨hbefore, hafter⟩ := before_append_cons (fun h => (hspec _ h).2.1 rfl) (percentEncode s')
  unfold parseUserinfo
  rw [if_neg (by rw [hvalid]; decide), if_neg (by simp), hbefore, hafter,
    unescape_percentEncode hfree, unescape_percentEncode hfree]
  rfl

/-- A fragment behind a URL without one. -/
theorem parse_fragment {ipv6 : List UInt8 → Bool} {raw : List UInt8} {url : URL}
    (hraw : '#'.toUInt8 ∉ raw) (h : parse ipv6 raw = some url) (s : List UInt8) :
    parse ipv6 (raw ++ '#'.toUInt8 :: percentEncode s) = some { url with fragment := s } := by
  obtain ⟨hbefore, hafter⟩ := before_append_cons hraw (percentEncode s)
  obtain ⟨hwhole, hnone⟩ := before_of_not_mem hraw
  rw [parse, hwhole, hnone] at h
  rw [parse, hbefore, hafter, unescape_percentEncode ⟨by decide, by decide⟩]
  cases hbody : parseBody ipv6 raw with
  | none =>
    rw [hbody] at h
    cases h
  | some body =>
    rw [hbody] at h
    obtain rfl := Option.some.inj h
    rfl

/-- User-info before a host. -/
theorem parseAuthority_append (ipv6 : List UInt8 → Bool) (scheme userinfo : List UInt8)
    {host : List UInt8} (hhost : '@'.toUInt8 ∉ host) :
    parseAuthority ipv6 scheme (userinfo ++ '@'.toUInt8 :: host) =
      (parseHost ipv6 scheme host).bind fun host =>
        (parseUserinfo userinfo).map fun user => (some user, host) := by
  obtain ⟨hbefore, hafter⟩ := beforeLast_append_cons userinfo hhost
  unfold parseAuthority
  rw [if_pos (by simp), hbefore, hafter]
  cases parseHost ipv6 scheme host with
  | none => rfl
  | some host => cases parseUserinfo userinfo <;> rfl

end GoURL
