import Boxui.Library.IncrementalSplit
import Boxui.Library.Utf8Stream
import Mathlib.Data.List.Infix

/-! The event stream from `writeSSE` on the server to `consumeSSEStream` in the browser. -/
namespace Boxui

/-- `json.Marshal` of the server and `JSON.parse` of the browser. -/
structure JsonCodec (Value : Type*) where
  marshal : Value → Option (List Char)
  parse : List Char → Option Value

/-- What both sides promise for JSON objects: a text on one line that is read back, and of which
no part, cut within a character or not, is a text itself. -/
structure JsonCodec.Lawful {Value : Type*} (json : JsonCodec Value) : Prop where
  parse_marshal : ∀ v text, json.marshal v = some text → json.parse text = some v
  object : ∀ v text, json.marshal v = some text → ∃ rest, text = '{' :: rest
  one_line : ∀ v text, json.marshal v = some text → '\n' ∉ text ∧ '\r' ∉ text
  cut : ∀ v text, json.marshal v = some text → ∀ p, p <+: text → p ≠ [] → p ≠ text →
    json.parse p = none ∧ json.parse (p ++ [Utf8Stream.replacement]) = none

namespace API

variable {Value : Type*}

/-- What `writeSSE` writes; a value that cannot be marshalled is logged and left out. -/
def writeSSE (json : JsonCodec Value) (data : Value) : List UInt8 :=
  match json.marshal data with
  | none => []
  | some raw => Utf8Stream.encode ("data: ".toList ++ raw ++ "\n\n".toList)

end API

namespace UI

open IncrementalSplit (Separator split)

/-- `/\r?\n/` at the start of a text. -/
def newlineWidth : List Char → Nat
  | '\n' :: _ => 1
  | '\r' :: '\n' :: _ => 2
  | _ => 0

/-- `/\r?\n\r?\n/` at the start of a text. -/
def blankLineWidth (s : List Char) : Nat :=
  let k := newlineWidth s
  if k = 0 then 0
  else
    let l := newlineWidth (s.drop k)
    if l = 0 then 0 else k + l

theorem newlineWidth_cases (s : List Char) :
    (∃ rest, s = '\n' :: rest ∧ newlineWidth s = 1) ∨
      (∃ rest, s = '\r' :: '\n' :: rest ∧ newlineWidth s = 2) ∨ newlineWidth s = 0 := by
  unfold newlineWidth
  split
  · exact .inl ⟨_, rfl, rfl⟩
  · exact .inr (.inl ⟨_, rfl, rfl⟩)
  · exact .inr (.inr rfl)

theorem newlineWidth_le (s : List Char) : newlineWidth s ≤ s.length := by
  rcases newlineWidth_cases s with ⟨rest, rfl, h⟩ | ⟨rest, rfl, h⟩ | h <;> rw [h] <;> simp

theorem newlineWidth_append {s : List Char} (t : List Char) (h : newlineWidth s ≠ 0) :
    newlineWidth (s ++ t) = newlineWidth s := by
  rcases newlineWidth_cases s with ⟨rest, rfl, -⟩ | ⟨rest, rfl, -⟩ | h0
  · rfl
  · rfl
  · exact absurd h0 h

/-- A newline that has yet to be completed. -/
theorem eq_of_newlineWidth_append {s t : List Char} (h : newlineWidth s = 0)
    (hmore : newlineWidth (s ++ t) ≠ 0) : s = [] ∨ s = ['\r'] := by
  rcases newlineWidth_cases (s ++ t) with ⟨rest, hs, -⟩ | ⟨rest, hs, -⟩ | h0
  · cases s with
    | nil => exact .inl rfl
    | cons c s =>
      obtain ⟨rfl, -⟩ := List.cons.inj hs
      exact absurd h (by simp [newlineWidth])
  · match s, hs, h with
    | [], _, _ => exact .inl rfl
    | [c], hs, _ =>
      obtain ⟨rfl, -⟩ := List.cons.inj hs
      exact .inr rfl
    | c :: d :: s, hs, h =>
      obtain ⟨rfl, hd⟩ := List.cons.inj hs
      obtain ⟨rfl, -⟩ := List.cons.inj hd
      exact absurd h (by simp [newlineWidth])
  · exact absurd h0 hmore

def newline : Separator Char where
  width := newlineWidth
  width_le := newlineWidth_le
  stable _ t h := newlineWidth_append t h
  settled s t h hmore s' hs' := by
    rcases eq_of_newlineWidth_append h hmore with rfl | rfl
    · obtain rfl := List.suffix_nil.mp hs'
      rfl
    · rcases List.suffix_cons_iff.mp hs' with rfl | hs'
      · rfl
      · obtain rfl := List.suffix_nil.mp hs'
        rfl

theorem blankLineWidth_of_ne_zero {s : List Char} (h : blankLineWidth s ≠ 0) :
    newlineWidth s ≠ 0 ∧ newlineWidth (s.drop (newlineWidth s)) ≠ 0 ∧
      blankLineWidth s = newlineWidth s + newlineWidth (s.drop (newlineWidth s)) := by
  unfold blankLineWidth at h ⊢
  dsimp only at h ⊢
  split_ifs at h ⊢ with h1 h2
  · exact absurd rfl h
  · exact absurd rfl h
  · exact ⟨h1, h2, rfl⟩

theorem drop_newline_append {s : List Char} (t : List Char) :
    (s ++ t).drop (newlineWidth s) = s.drop (newlineWidth s) ++ t :=
  List.drop_append_of_le_length (newlineWidth_le s)

theorem blankLineWidth_append {s : List Char} (t : List Char) (h : blankLineWidth s ≠ 0) :
    blankLineWidth (s ++ t) = blankLineWidth s := by
  obtain ⟨h1, h2, -⟩ := blankLineWidth_of_ne_zero h
  simp only [blankLineWidth, newlineWidth_append t h1, drop_newline_append,
    newlineWidth_append t h2]

/-- A blank line that has yet to be completed. -/
theorem eq_of_blankLineWidth_append {s t : List Char} (h : blankLineWidth s = 0)
    (hmore : blankLineWidth (s ++ t) ≠ 0) :
    s ∈ [[], ['\r'], ['\n'], ['\n', '\r'], ['\r', '\n'], ['\r', '\n', '\r']] := by
  obtain ⟨h1, h2, -⟩ := blankLineWidth_of_ne_zero hmore
  by_cases hs : newlineWidth s = 0
  · rcases eq_of_newlineWidth_append hs h1 with rfl | rfl <;> simp
  · rw [newlineWidth_append t hs, drop_newline_append] at h2
    have hrest : newlineWidth (s.drop (newlineWidth s)) = 0 := by
      by_contra hne
      simp [blankLineWidth, hs, hne] at h
    replace hrest := eq_of_newlineWidth_append hrest h2
    rcases newlineWidth_cases s with ⟨rest, rfl, hw⟩ | ⟨rest, rfl, hw⟩ | hw
    · have hdrop : rest = [] ∨ rest = ['\r'] := by simpa [hw] using hrest
      rcases hdrop with rfl | rfl <;> simp
    · have hdrop : rest = [] ∨ rest = ['\r'] := by simpa [hw] using hrest
      rcases hdrop with rfl | rfl <;> simp
    · exact absurd hw hs

def blankLine : Separator Char where
  width := blankLineWidth
  width_le s := by
    by_cases h : blankLineWidth s = 0
    · rw [h]
      exact Nat.zero_le _
    · obtain ⟨-, -, heq⟩ := blankLineWidth_of_ne_zero h
      have h1 := newlineWidth_le s
      have h2 := newlineWidth_le (s.drop (newlineWidth s))
      rw [List.length_drop] at h2
      omega
  stable _ t h := blankLineWidth_append t h
  settled s t h hmore s' hs' := by
    have hs := eq_of_blankLineWidth_append h hmore
    have hall : ∀ s ∈ [[], ['\r'], ['\n'], ['\n', '\r'], ['\r', '\n'], ['\r', '\n', '\r']],
        ∀ s' ∈ s.tails, blankLineWidth s' = 0 := by
      decide
    exact hall s hs s' ((List.mem_tails s' s).mpr hs')

/-- The white space that `trimStart` removes. -/
def isWhiteSpace (c : Char) : Bool :=
  c.toNat ∈ [0x09, 0x0A, 0x0B, 0x0C, 0x0D, 0x20, 0xA0, 0x1680, 0x2028, 0x2029, 0x202F, 0x205F,
    0x3000, 0xFEFF] || (0x2000 ≤ c.toNat && c.toNat ≤ 0x200A)

/-- `join("\n")`. -/
def join : List (List Char) → List Char
  | [] => []
  | [line] => line
  | line :: lines => line ++ '\n' :: join lines

def eventData (block : List Char) : List Char :=
  join (((split newline block).filter fun line => "data:".toList.isPrefixOf line).map
    fun line => (line.drop 5).dropWhile isWhiteSpace)

inductive SSEError where
  | invalidEventData
  deriving DecidableEq

variable {Value : Type*}

/-- `undefined` when the block has no data. -/
def parseEvent (json : JsonCodec Value) (block : List Char) :
    Except SSEError (Option Value) :=
  if eventData block = [] then .ok none
  else
    match json.parse (eventData block) with
    | some event => .ok (some event)
    | none => .error .invalidEventData

/-- What a consumer has handed to `onEvent`, and whether it has thrown. -/
structure Consumed (Value : Type*) where
  events : List Value
  error : Option SSEError
  deriving DecidableEq

/-- What comes after a throw does not happen. -/
def Consumed.andThen (r r' : Consumed Value) : Consumed Value :=
  match r.error with
  | some e => ⟨r.events, some e⟩
  | none => ⟨r.events ++ r'.events, r'.error⟩

def deliver (json : JsonCodec Value) : List (List Char) → Consumed Value
  | [] => ⟨[], none⟩
  | block :: blocks =>
    match parseEvent json block with
    | .error e => ⟨[], some e⟩
    | .ok none => deliver json blocks
    | .ok (some event) => (⟨[event], none⟩ : Consumed Value).andThen (deliver json blocks)

/-- A `TextDecoder` for UTF-8, which drops a byte order mark at the start of its stream. -/
structure TextDecoder where
  utf8 : Utf8Stream.State
  bomSeen : Bool

namespace TextDecoder

def new : TextDecoder := ⟨Utf8Stream.start, false⟩

def serialize (d : TextDecoder) (text : List Char) : Bool × List Char :=
  match d.bomSeen, text with
  | false, c :: text => (true, if c = Char.ofNat 0xFEFF then text else c :: text)
  | bomSeen, text => (bomSeen, text)

/-- Without `stream` the decoder is flushed and starts anew. -/
def decode (d : TextDecoder) (bytes : List UInt8) (stream : Bool) : TextDecoder × List Char :=
  let (utf8, text) := Utf8Stream.run d.utf8 bytes
  if stream then
    let (bomSeen, out) := d.serialize text
    (⟨utf8, bomSeen⟩, out)
  else (new, (d.serialize (text ++ Utf8Stream.flush utf8)).2)

end TextDecoder

/-- The loop over what `reader.read` gives, to its end. -/
def consumeFrom (json : JsonCodec Value) (decoder : TextDecoder) (buffer : List Char) :
    List (List UInt8) → Consumed Value
  | [] =>
    let (blocks, buffer) := IncrementalSplit.feed blankLine buffer (decoder.decode [] false).2
    (deliver json blocks).andThen (deliver json [buffer])
  | value :: chunks =>
    let (decoder, text) := decoder.decode value true
    let (blocks, buffer) := IncrementalSplit.feed blankLine buffer text
    (deliver json blocks).andThen (consumeFrom json decoder buffer chunks)

def consumeSSEStream (json : JsonCodec Value) (stream : List (List UInt8)) : Consumed Value :=
  consumeFrom json .new [] stream

@[simp] theorem Consumed.none_andThen (events : List Value) (r : Consumed Value) :
    (⟨events, none⟩ : Consumed Value).andThen r = ⟨events ++ r.events, r.error⟩ := rfl

theorem Consumed.andThen_assoc (r r' r'' : Consumed Value) :
    (r.andThen r').andThen r'' = r.andThen (r'.andThen r'') := by
  obtain ⟨events, _ | e⟩ := r
  · obtain ⟨events', _ | e'⟩ := r'
    · simp
    · rfl
  · rfl

theorem deliver_append (json : JsonCodec Value) (blocks blocks' : List (List Char)) :
    deliver json (blocks ++ blocks') = (deliver json blocks).andThen (deliver json blocks') := by
  induction blocks with
  | nil => rfl
  | cons block blocks ih =>
    rw [List.cons_append, deliver, deliver]
    cases parseEvent json block with
    | error e => rfl
    | ok event =>
      cases event with
      | none => exact ih
      | some event =>
        dsimp only
        rw [ih, Consumed.andThen_assoc]

/-- All that a decoder puts out on a stream, from a state on. -/
def TextDecoder.rest (d : TextDecoder) (bytes : List UInt8) : List Char :=
  (d.decode bytes false).2

theorem TextDecoder.rest_append (d : TextDecoder) (bytes bytes' : List UInt8) :
    d.rest (bytes ++ bytes') =
      (d.decode bytes true).2 ++ (d.decode bytes true).1.rest bytes' := by
  obtain ⟨utf8, bomSeen⟩ := d
  simp only [rest, decode, Utf8Stream.run_append, if_true, Bool.false_eq_true, if_false]
  generalize Utf8Stream.run utf8 bytes = r
  obtain ⟨utf8', out⟩ := r
  cases bomSeen with
  | true => simp [serialize]
  | false =>
    cases out with
    | nil => simp [serialize]
    | cons c out =>
      simp only [serialize, List.cons_append]
      split_ifs <;> simp

/-- However a stream is divided into chunks, the events are those of its whole text. -/
theorem consumeFrom_eq (json : JsonCodec Value) (d : TextDecoder) (buffer : List Char)
    (chunks : List (List UInt8)) :
    consumeFrom json d buffer chunks =
      deliver json (split blankLine (buffer ++ d.rest chunks.flatten)) := by
  induction chunks generalizing d buffer with
  | nil =>
    have hsplit := IncrementalSplit.split_eq_concat blankLine (buffer ++ d.rest [])
    rw [List.flatten_nil, hsplit, deliver_append]
    rfl
  | cons value chunks ih =>
    rw [List.flatten_cons, TextDecoder.rest_append, ← List.append_assoc,
      IncrementalSplit.split_feed, deliver_append]
    simp only [consumeFrom, ih]

/-- A character that ends no line. -/
def Inline (c : Char) : Prop := c ≠ '\n' ∧ c ≠ '\r'

instance (c : Char) : Decidable (Inline c) := inferInstanceAs (Decidable (_ ∧ _))

theorem newlineWidth_inline {c : Char} (h : Inline c) (s : List Char) :
    newlineWidth (c :: s) = 0 := by
  rcases newlineWidth_cases (c :: s) with ⟨rest, hs, -⟩ | ⟨rest, hs, -⟩ | h0
  · exact absurd (List.cons.inj hs).1 h.1
  · exact absurd (List.cons.inj hs).1 h.2
  · exact h0

theorem blankLineWidth_inline {c : Char} (h : Inline c) (s : List Char) :
    blankLineWidth (c :: s) = 0 := by
  rw [blankLineWidth, newlineWidth_inline h]
  rfl

theorem split_newline_line {line : List Char} (hline : ∀ c ∈ line, Inline c) (s : List Char) :
    split newline (line ++ '\n' :: s) = line :: split newline s :=
  IncrementalSplit.split_first
    (fun c _ ht => newlineWidth_inline (hline c (ht.subset List.mem_cons_self)) _)
    Nat.one_ne_zero

theorem split_blankLine_line {line : List Char} (hline : ∀ c ∈ line, Inline c) (s : List Char) :
    split blankLine (line ++ '\n' :: '\n' :: s) = line :: split blankLine s :=
  IncrementalSplit.split_first
    (fun c _ ht => blankLineWidth_inline (hline c (ht.subset List.mem_cons_self)) _)
    (Nat.succ_ne_zero 1)

theorem split_newline_self {line : List Char} (hline : ∀ c ∈ line, Inline c) :
    split newline line = [line] := by
  apply IncrementalSplit.split_of_no_separator
  intro s hs
  cases s with
  | nil => rfl
  | cons c s => exact newlineWidth_inline (hline c (hs.subset List.mem_cons_self)) s

/-- A text whose only newline is at its end is one block. -/
theorem split_blankLine_self {line : List Char} (hline : ∀ c ∈ line, Inline c)
    {s : List Char} (hs : s = [] ∨ s = ['\n']) : split blankLine (line ++ s) = [line ++ s] := by
  apply IncrementalSplit.split_of_no_separator
  intro s' hs'
  induction line with
  | nil =>
    have hall : ∀ s ∈ [[], ['\n']], ∀ s' ∈ s.tails, blankLineWidth s' = 0 := by decide
    exact hall s (by simpa using hs) s' ((List.mem_tails s' s).mpr hs')
  | cons c line ih =>
    rcases List.suffix_cons_iff.mp hs' with rfl | hs'
    · exact blankLineWidth_inline (hline c List.mem_cons_self) _
    · exact ih (fun c hc => hline c (List.mem_cons_of_mem _ hc)) hs'

theorem inline_data {data : List Char} (hdata : ∀ c ∈ data, Inline c) :
    ∀ c ∈ "data: ".toList ++ data, Inline c := by
  have hprefix : ∀ c ∈ "data: ".toList, Inline c := by simp [Inline]
  intro c hc
  rcases List.mem_append.mp hc with hc | hc
  · exact hprefix c hc
  · exact hdata c hc

/-- The data of a block with one line, which begins with `data:` and a space. -/
theorem eventData_line {data s : List Char} (hdata : ∀ c ∈ data, Inline c)
    (hhead : ∃ rest, data = '{' :: rest) (hs : s = [] ∨ s = ['\n']) :
    eventData ("data: ".toList ++ data ++ s) = data := by
  have hline := inline_data hdata
  have htrim : ((("data: ".toList ++ data)).drop 5).dropWhile isWhiteSpace = data := by
    obtain ⟨rest, rfl⟩ := hhead
    have hbrace : isWhiteSpace '{' = false := by decide
    have hspace : isWhiteSpace ' ' = true := by decide
    simp [hbrace, hspace]
  have hsplit : split newline ("data: ".toList ++ data ++ s) =
      ("data: ".toList ++ data) :: if s = [] then [] else [[]] := by
    rcases hs with rfl | rfl
    · rw [List.append_nil, split_newline_self hline]
      rfl
    · exact split_newline_line hline []
  have hfilter : (split newline ("data: ".toList ++ data ++ s)).filter
      (fun line => "data:".toList.isPrefixOf line) = ["data: ".toList ++ data] := by
    rw [hsplit]
    rcases hs with rfl | rfl <;> simp
  rw [eventData, hfilter, List.map_singleton, htrim]
  rfl

theorem rest_new {bytes : List UInt8}
    (h : ∀ c ∈ (Utf8Stream.decode bytes).head?, c ≠ Char.ofNat 0xFEFF) :
    TextDecoder.new.rest bytes = Utf8Stream.decode bytes := by
  show (TextDecoder.new.serialize (Utf8Stream.decode bytes)).2 = Utf8Stream.decode bytes
  cases hout : Utf8Stream.decode bytes with
  | nil => rfl
  | cons c out =>
    rw [hout] at h
    exact if_neg (h c rfl)

section Framed

variable (json : JsonCodec Value)

/-- The values whose JSON text is complete in the first `n` bytes of the frames of `values`. -/
def complete : List Value → Nat → List Value
  | [], _ => []
  | v :: values, n =>
    match json.marshal v with
    | none => complete values n
    | some raw =>
      if (Utf8Stream.encode ("data: ".toList ++ raw)).length ≤ n then
        v :: complete values (n - (API.writeSSE json v).length)
      else []

/-- The first `n` bytes end within a JSON text. -/
def cutsText : List Value → Nat → Bool
  | [], _ => false
  | v :: values, n =>
    match json.marshal v with
    | none => cutsText values n
    | some raw =>
      if (API.writeSSE json v).length ≤ n then cutsText values (n - (API.writeSSE json v).length)
      else decide ("data: ".toList.length < n ∧
        n < (Utf8Stream.encode ("data: ".toList ++ raw)).length)

/-- What is to come of the first `n` bytes: the complete values, and a throw for one that is cut. -/
def expected (values : List Value) (n : Nat) : Consumed Value where
  events := complete json values n
  error := if cutsText json values n then some .invalidEventData else none

/-- What comes of a text that is not divided into chunks. -/
def consumeText (text : List Char) : Consumed Value := deliver json (split blankLine text)

variable {json}

theorem complete_zero (values : List Value) : complete json values 0 = [] := by
  induction values with
  | nil => rfl
  | cons v values ih =>
    rw [complete]
    cases json.marshal v with
    | none => exact ih
    | some raw =>
      refine if_neg ?_
      simp [Utf8Stream.encode, String.utf8EncodeChar]

variable (hjson : json.Lawful) {v : Value} {raw : List Char} (hraw : json.marshal v = some raw)
include hjson hraw

theorem inline_raw : ∀ c ∈ raw, Inline c := by
  intro c hc
  obtain ⟨hn, hr⟩ := hjson.one_line v raw hraw
  exact ⟨fun h => hn (h ▸ hc), fun h => hr (h ▸ hc)⟩

theorem parseEvent_raw {s : List Char} (hs : s = [] ∨ s = ['\n']) :
    parseEvent json ("data: ".toList ++ raw ++ s) = .ok (some v) := by
  obtain ⟨rest, hobject⟩ := hjson.object v raw hraw
  have hdata := eventData_line (inline_raw hjson hraw) ⟨rest, hobject⟩ hs
  rw [parseEvent, hdata, if_neg (by rw [hobject]; exact List.cons_ne_nil _ _),
    hjson.parse_marshal v raw hraw]

/-- A complete frame gives its value, and the text goes on behind it. -/
theorem consumeText_frame (text : List Char) :
    consumeText json ("data: ".toList ++ raw ++ "\n\n".toList ++ text) =
      (⟨[v], none⟩ : Consumed Value).andThen (consumeText json text) := by
  have hsplit := split_blankLine_line (inline_data (inline_raw hjson hraw)) text
  have hparse := parseEvent_raw hjson hraw (.inl rfl)
  rw [List.append_nil] at hparse
  rw [consumeText, List.append_assoc ("data: ".toList ++ raw)]
  change deliver json (split blankLine ("data: ".toList ++ raw ++ '\n' :: '\n' :: text)) = _
  rw [hsplit, deliver, hparse]
  rfl

/-- A complete text without its blank line gives its value. -/
theorem consumeText_raw {s : List Char} (hs : s = [] ∨ s = ['\n']) :
    consumeText json ("data: ".toList ++ raw ++ s) = ⟨[v], none⟩ := by
  have hsplit := split_blankLine_self (inline_data (inline_raw hjson hraw)) hs
  rw [consumeText, hsplit, deliver, parseEvent_raw hjson hraw hs]
  rfl

/-- A part of a text, with what is left of a character that is cut, throws. -/
theorem consumeText_cut {p s : List Char} (hp : p <+: raw) (hne : p ≠ []) (hproper : p ≠ raw)
    (hs : s = [] ∨ s = [Utf8Stream.replacement]) :
    consumeText json ("data: ".toList ++ (p ++ s)) = ⟨[], some .invalidEventData⟩ := by
  have hreplacement : Inline Utf8Stream.replacement := by decide
  have hdata : ∀ c ∈ p ++ s, Inline c := by
    intro c hc
    rcases List.mem_append.mp hc with hc | hc
    · exact inline_raw hjson hraw c (hp.subset hc)
    · rcases hs with rfl | rfl
      · exact absurd hc List.not_mem_nil
      · exact List.mem_singleton.mp hc ▸ hreplacement
  have hhead : ∃ rest, p ++ s = '{' :: rest := by
    obtain ⟨rest, hobject⟩ := hjson.object v raw hraw
    cases p with
    | nil => exact absurd rfl hne
    | cons c p =>
      rw [hobject, List.cons_prefix_cons] at hp
      exact ⟨p ++ s, by rw [hp.1]; rfl⟩
  have hparse : json.parse (p ++ s) = none := by
    obtain ⟨hnone, hnone'⟩ := hjson.cut v raw hraw p hp hne hproper
    rcases hs with rfl | rfl
    · rw [List.append_nil]
      exact hnone
    · exact hnone'
  have hevent := eventData_line hdata hhead (.inl rfl)
  have hsplit := split_blankLine_self (inline_data hdata) (.inl rfl)
  rw [List.append_nil] at hevent hsplit
  have hdata_ne : p ++ s ≠ [] := by
    obtain ⟨rest, hrest⟩ := hhead
    rw [hrest]
    exact List.cons_ne_nil _ _
  rw [consumeText, hsplit, deliver, parseEvent, hevent, if_neg hdata_ne, hparse]

omit hjson in
theorem writeSSE_some : API.writeSSE json v =
    Utf8Stream.encode ("data: ".toList ++ raw ++ "\n\n".toList) := by
  rw [API.writeSSE, hraw]

omit hjson hraw in
/-- Where a frame ends that is cut between two characters: before its JSON text, within it or
behind it. -/
theorem frame_cases {done rest : List Char}
    (h : "data: ".toList ++ raw ++ "\n\n".toList = done ++ rest) :
    (∃ e, "data: ".toList = done ++ e ∧ rest = e ++ (raw ++ "\n\n".toList)) ∨
      (∃ p e, p ≠ [] ∧ e ≠ [] ∧ done = "data: ".toList ++ p ∧ raw = p ++ e ∧
        rest = e ++ "\n\n".toList) ∨
      (∃ q, done = "data: ".toList ++ raw ++ q ∧ "\n\n".toList = q ++ rest) := by
  rw [List.append_assoc] at h
  rcases List.append_eq_append_iff.mp h with ⟨p, rfl, hp⟩ | ⟨e, hdata, hrest⟩
  · rcases List.append_eq_append_iff.mp hp with ⟨q, rfl, hq⟩ | ⟨e, rfl, rfl⟩
    · exact .inr (.inr ⟨q, by rw [List.append_assoc], hq⟩)
    · by_cases hpe : p = []
      · subst hpe
        exact .inl ⟨[], by simp, by simp⟩
      by_cases hee : e = []
      · subst hee
        exact .inr (.inr ⟨[], by simp, by simp⟩)
      exact .inr (.inl ⟨p, e, hpe, hee, rfl, rfl, rfl⟩)
  · exact .inl ⟨e, hdata, hrest⟩

omit hjson hraw in
theorem consumeText_data : ∀ done ∈ "data: ".toList.inits,
    consumeText json done = ⟨[], none⟩ := by
  intro done hdone
  have hall : ∀ done ∈ "data: ".toList.inits,
      split blankLine done = [done] ∧ eventData done = [] := by decide
  obtain ⟨hsplit, hdata⟩ := hall done hdone
  rw [consumeText, hsplit, deliver, parseEvent, if_pos hdata]
  rfl

omit hjson in
/-- What is expected of a frame that does not end. -/
theorem expected_cut (values : List Value) {n : Nat} (hn : n < (API.writeSSE json v).length) :
    expected json (v :: values) n =
      ⟨if (Utf8Stream.encode ("data: ".toList ++ raw)).length ≤ n then [v] else [],
        if "data: ".toList.length < n ∧ n < (Utf8Stream.encode ("data: ".toList ++ raw)).length
          then some .invalidEventData else none⟩ := by
  have hzero : n - (API.writeSSE json v).length = 0 := by omega
  simp only [expected, complete, cutsText, hraw, hzero, complete_zero,
    if_neg (Nat.not_le_of_lt hn), decide_eq_true_eq]

omit hjson hraw in
theorem length_encode_data (text : List Char) :
    (Utf8Stream.encode ("data: ".toList ++ text)).length =
      6 + (Utf8Stream.encode text).length := by
  have hsize : (Utf8Stream.encode "data: ".toList).length = 6 := by decide
  rw [Utf8Stream.encode_append, List.length_append, hsize]

/-- A stream that ends before the JSON text. -/
theorem consumeText_cutAt_data {done e out : List Char} {n : Nat}
    (hdata : "data: ".toList = done ++ e)
    (hcut : Utf8Stream.CutAt done (e ++ (raw ++ "\n\n".toList)) n out) :
    n ≤ 6 ∧ consumeText json out = ⟨[], none⟩ := by
  -- the next character is one of `data: ` or the brace
  have hascii : ∀ c ∈ (e ++ (raw ++ "\n\n".toList)).head?, c.toNat ≤ 0x7F := by
    have hall : ∀ c ∈ "data: ".toList ++ ['{'], c.toNat ≤ 0x7F := by simp
    intro c hc
    refine hall c ?_
    rw [hdata]
    cases e with
    | nil =>
      obtain ⟨tail, hobject⟩ := hjson.object v raw hraw
      rw [hobject] at hc
      rw [← Option.some.inj hc]
      simp
    | cons c' e =>
      rw [← Option.some.inj hc]
      simp
  obtain ⟨hn, rfl⟩ := hcut.of_ascii hascii
  constructor
  · have hsize := length_encode_data []
    rw [List.append_nil, hdata, Utf8Stream.encode_append, List.length_append] at hsize
    exact hn.trans_le ((Nat.le_add_right _ _).trans_eq hsize)
  · exact consumeText_data out ((List.mem_inits out _).mpr ⟨e, hdata.symm⟩)

/-- A stream that ends within the JSON text. -/
theorem consumeText_cutAt_raw {p e out : List Char} {n : Nat} (hp : p ≠ []) (he : e ≠ [])
    (hpe : raw = p ++ e)
    (hcut : Utf8Stream.CutAt ("data: ".toList ++ p) (e ++ "\n\n".toList) n out) :
    6 < n ∧ n < 6 + (Utf8Stream.encode raw).length ∧
      consumeText json out = ⟨[], some .invalidEventData⟩ := by
  have hprefix : p <+: raw := ⟨e, hpe.symm⟩
  have hproper : p ≠ raw := fun heq => he (List.self_eq_append_right.mp (heq.trans hpe))
  have hppos := Utf8Stream.length_encode_pos hp
  have hepos := Utf8Stream.length_encode_pos he
  cases hcut with
  | boundary hn =>
    have hthrow := consumeText_cut hjson hraw hprefix hp hproper (.inl rfl)
    rw [List.append_nil] at hthrow
    rw [length_encode_data] at hn
    rw [hpe, Utf8Stream.encode_append, List.length_append]
    exact ⟨by omega, by omega, hthrow⟩
  | @within c hhead hlow hhigh =>
    have hthrow := consumeText_cut hjson hraw hprefix hp hproper (.inr rfl)
    rw [length_encode_data] at hlow
    rw [List.append_assoc, length_encode_data, Utf8Stream.encode_append,
      List.length_append] at hhigh
    have hc : (Utf8Stream.encode [c]).length ≤ (Utf8Stream.encode e).length := by
      cases e with
      | nil => exact absurd rfl he
      | cons c' e =>
        obtain rfl : c' = c := Option.some.inj hhead
        rw [Utf8Stream.encode_cons, Utf8Stream.encode_cons, List.length_append, List.length_append,
          Utf8Stream.encode_nil]
        exact Nat.add_le_add_left (Nat.zero_le _) _
    rw [hpe, Utf8Stream.encode_append, List.length_append]
    exact ⟨by omega, by omega, by rw [List.append_assoc]; exact hthrow⟩

/-- A stream that ends behind the JSON text, but before the end of its frame. -/
theorem consumeText_cutAt_end {q rest out : List Char} {n : Nat} (hq : "\n\n".toList = q ++ rest)
    (hcut : Utf8Stream.CutAt ("data: ".toList ++ raw ++ q) rest n out)
    (hn : n < (API.writeSSE json v).length) :
    6 + (Utf8Stream.encode raw).length ≤ n ∧ consumeText json out = ⟨[v], none⟩ := by
  have hascii : ∀ c ∈ rest.head?, c.toNat ≤ 0x7F := by
    have hall : ∀ c ∈ "\n\n".toList, c.toNat ≤ 0x7F := by simp
    intro c hc
    refine hall c ?_
    rw [hq]
    exact List.mem_append_right q (List.mem_of_mem_head? hc)
  obtain ⟨rfl, rfl⟩ := hcut.of_ascii hascii
  have hqs : q = [] ∨ q = ['\n'] := by
    have hinits : ∀ q ∈ "\n\n".toList.inits, q = [] ∨ q = ['\n'] ∨ q = "\n\n".toList := by
      decide
    rcases hinits q ((List.mem_inits q _).mpr ⟨rest, hq.symm⟩) with h | h | h
    · exact .inl h
    · exact .inr h
    · rw [h, writeSSE_some hraw] at hn
      exact absurd hn (lt_irrefl _)
  refine ⟨?_, consumeText_raw hjson hraw hqs⟩
  rw [Utf8Stream.encode_append, List.length_append, length_encode_data]
  exact Nat.le_add_right _ _

/-- A stream that ends within a frame. -/
theorem consumeText_take (values : List Value) {n : Nat}
    (hn : n < (API.writeSSE json v).length) :
    consumeText json (Utf8Stream.decode ((API.writeSSE json v).take n)) =
      expected json (v :: values) n := by
  have hpos : 0 < (Utf8Stream.encode raw).length := by
    obtain ⟨tail, hobject⟩ := hjson.object v raw hraw
    exact Utf8Stream.length_encode_pos (hobject ▸ List.cons_ne_nil _ _)
  have hlength : "data: ".toList.length = 6 := by decide
  have hle := Nat.le_of_lt hn
  rw [writeSSE_some hraw] at hle
  obtain ⟨done, rest, hsplit, hcut⟩ := Utf8Stream.decode_take_encode _ hle
  rw [expected_cut hraw values hn, writeSSE_some hraw, hlength, length_encode_data]
  generalize Utf8Stream.decode _ = out at hcut ⊢
  rcases frame_cases hsplit with ⟨e, hdata, rfl⟩ | ⟨p, e, hp, he, rfl, hpe, rfl⟩ | ⟨q, rfl, hq⟩
  · obtain ⟨hsmall, hout⟩ := consumeText_cutAt_data hjson hraw hdata hcut
    rw [hout, if_neg (by omega), if_neg (by omega)]
  · obtain ⟨hlow, hhigh, hout⟩ := consumeText_cutAt_raw hjson hraw hp he hpe hcut
    rw [hout, if_neg (by omega), if_pos ⟨hlow, hhigh⟩]
  · obtain ⟨hlow, hout⟩ := consumeText_cutAt_end hjson hraw hq hcut hn
    rw [hout, if_pos hlow, if_neg (by omega)]

omit hjson hraw in
/-- What is consumed of the first bytes of the frames. -/
theorem consumeText_frames (hjson : json.Lawful) (values : List Value) (n : Nat) :
    consumeText json (Utf8Stream.decode ((values.flatMap (API.writeSSE json)).take n)) =
      expected json values n := by
  induction values generalizing n with
  | nil =>
    rw [List.flatMap_nil, List.take_nil]
    rfl
  | cons v values ih =>
    rw [List.flatMap_cons]
    cases hraw : json.marshal v with
    | none =>
      have hnothing : API.writeSSE json v = [] := by
        rw [API.writeSSE, hraw]
      rw [hnothing, List.nil_append, ih n]
      simp only [expected, complete, cutsText, hraw]
    | some raw =>
      by_cases hn : n < (API.writeSSE json v).length
      · rw [List.take_append_of_le_length (Nat.le_of_lt hn)]
        exact consumeText_take hjson hraw values hn
      · have hle := Nat.le_of_not_lt hn
        have htext : (Utf8Stream.encode ("data: ".toList ++ raw)).length ≤ n := by
          rw [writeSSE_some hraw, Utf8Stream.encode_append, List.length_append] at hle
          omega
        rw [List.take_append, List.take_of_length_le hle, writeSSE_some hraw,
          Utf8Stream.decode_encode_append, consumeText_frame hjson hraw, ← writeSSE_some hraw, ih]
        simp only [expected, complete, cutsText, hraw, if_pos hle, if_pos htext]
        rfl

omit hjson hraw in
/-- Of a whole stream every value that could be marshalled is expected. -/
theorem expected_all (json : JsonCodec Value) (values : List Value) {n : Nat}
    (hn : (values.flatMap (API.writeSSE json)).length ≤ n) :
    expected json values n = ⟨values.filter fun v => (json.marshal v).isSome, none⟩ := by
  induction values generalizing n with
  | nil => rfl
  | cons v values ih =>
    rw [List.flatMap_cons, List.length_append] at hn
    cases hraw : json.marshal v with
    | none =>
      have hrest := ih (n := n) (by omega)
      simp only [expected, complete, cutsText, hraw] at hrest ⊢
      rw [List.filter_cons_of_neg (by simp [hraw])]
      exact hrest
    | some raw =>
      have hrest := ih (n := n - (API.writeSSE json v).length) (by omega)
      have hle : (API.writeSSE json v).length ≤ n := by omega
      have htext : (Utf8Stream.encode ("data: ".toList ++ raw)).length ≤ n := by
        rw [writeSSE_some hraw, Utf8Stream.encode_append, List.length_append] at hle
        omega
      simp only [expected, Consumed.mk.injEq] at hrest
      simp only [expected, complete, cutsText, hraw, if_pos hle, if_pos htext, hrest.1]
      rw [List.filter_cons_of_pos (by simp [hraw]), hrest.2]

omit hjson hraw in
theorem head_frames (json : JsonCodec Value) (values : List Value) :
    ∃ text, values.flatMap (API.writeSSE json) = Utf8Stream.encode text ∧
      ∀ c ∈ text.head?, c = 'd' := by
  induction values with
  | nil => exact ⟨[], rfl, by simp⟩
  | cons v values ih =>
    obtain ⟨text, htext, hhead⟩ := ih
    rw [List.flatMap_cons, htext]
    cases hraw : json.marshal v with
    | none => exact ⟨text, by rw [API.writeSSE, hraw, List.nil_append], hhead⟩
    | some raw =>
      refine ⟨"data: ".toList ++ raw ++ "\n\n".toList ++ text, ?_, ?_⟩
      · rw [writeSSE_some hraw, Utf8Stream.encode_append _ text]
      · intro c hc
        exact (Option.some.inj hc).symm

omit hjson hraw in
/-- Whatever bytes of the frames arrive, and in whatever chunks, the events are the values whose
JSON text is complete, in order and each once; a text that is cut throws behind them. -/
theorem consumeSSEStream_frames (hjson : json.Lawful) (values : List Value) (n : Nat)
    {chunks : List (List UInt8)}
    (hchunks : chunks.flatten = (values.flatMap (API.writeSSE json)).take n) :
    consumeSSEStream json chunks = expected json values n := by
  have hnoBOM : ∀ c ∈ (Utf8Stream.decode chunks.flatten).head?, c ≠ Char.ofNat 0xFEFF := by
    obtain ⟨text, htext, hhead⟩ := head_frames json values
    rw [hchunks, htext]
    intro c hc
    rcases Utf8Stream.head_decode_take_encode text n c hc with h | rfl
    · rw [hhead c h]
      decide
    · decide
  rw [consumeSSEStream, consumeFrom_eq, List.nil_append, rest_new hnoBOM, hchunks]
  exact consumeText_frames hjson values n

end Framed

/-- Two JSON objects. -/
def sampleJson : JsonCodec Bool where
  marshal v := some (if v then "\x7b\"name\":\"é\"\x7d".toList else "\x7b\x7d".toList)
  parse text :=
    if text = "\x7b\"name\":\"é\"\x7d".toList then some true
    else if text = "\x7b\x7d".toList then some false
    else none

theorem sampleJson_lawful : sampleJson.Lawful := by
  refine ⟨?_, ?_, ?_, ?_⟩
  · rintro v text ⟨⟩
    revert v
    decide
  · rintro v text ⟨⟩
    cases v
    · exact ⟨_, rfl⟩
    · exact ⟨_, rfl⟩
  · rintro v text ⟨⟩
    revert v
    decide
  · rintro v text ⟨⟩ p hp
    have hall : ∀ v : Bool, ∀ text ∈ sampleJson.marshal v, ∀ p ∈ text.inits, p ≠ [] → p ≠ text →
        sampleJson.parse p = none ∧ sampleJson.parse (p ++ [Utf8Stream.replacement]) = none := by
      decide
    exact hall v _ rfl p ((List.mem_inits p _).mpr hp)

def sampleFrames : List UInt8 := [false, true, false].flatMap (API.writeSSE sampleJson)

/-- The stream ends within the accented letter, after chunks that end within `data:` and between
the two newlines. -/
theorem sampleFrames_consumed :
    consumeSSEStream sampleJson
        [sampleFrames.take 3, (sampleFrames.drop 3).take 6, [], (sampleFrames.drop 9).take 17] =
      ⟨[false], some .invalidEventData⟩ :=
  consumeSSEStream_frames sampleJson_lawful [false, true, false] 26 (by decide)

end UI

end Boxui
