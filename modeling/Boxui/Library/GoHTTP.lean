import Boxui.Library.GoValue

/-! The answering side of Go's `net/http`: headers with canonical keys, the writers that a handler
can be given, and what the server makes of a handler that returns or panics. -/
namespace GoHTTP
open GoValue

def validHeaderFieldByte (c : Char) : Bool :=
  c.isAlphanum || "!#$%&'*+-.^_`|~".toList.contains c

/-- A letter is a capital one at the start and after a hyphen. -/
def canonicalLetters : Bool → List Char → List Char
  | _, [] => []
  | upper, c :: cs => (if upper then c.toUpper else c.toLower) :: canonicalLetters (c == '-') cs

def canonicalHeaderKey (s : String) : String :=
  if s.toList.all validHeaderFieldByte then .ofList (canonicalLetters true s.toList) else s

abbrev Header := GoMap (List String)

namespace Header

def set (key value : String) (h : Header) : Header := h.insert (canonicalHeaderKey key) [value]

def add (key value : String) (h : Header) : Header :=
  h.insert (canonicalHeaderKey key) (h[canonicalHeaderKey key]?.getD [] ++ [value])

def del (key : String) (h : Header) : Header := h.erase (canonicalHeaderKey key)

/-- The first value of a key, empty where there is none. -/
def get (key : String) (h : Header) : String :=
  ((h[canonicalHeaderKey key]?.getD []).head?).getD ""

end Header

/-- `http.ResponseWriter`. A call of `WriteHeader` panics where it says so. -/
class ResponseWriter (ω : Type*) where
  mapHeader : (Header → Header) → ω → ω
  writeHeader : ℕ → ω → ω × Bool
  write : List UInt8 → ω → ω
  flush : ω → ω

inductive WriterCall where
  | setHeader (key value : String)
  | addHeader (key value : String)
  | delHeader (key : String)
  | writeHeader (code : ℕ)
  | write (data : List UInt8)
  | flush

variable {ω ρ σ : Type*} [ResponseWriter ω]

def WriterCall.perform : WriterCall → ω → ω × Bool
  | .setHeader key value, w => (ResponseWriter.mapHeader (Header.set key value) w, false)
  | .addHeader key value, w => (ResponseWriter.mapHeader (Header.add key value) w, false)
  | .delHeader key, w => (ResponseWriter.mapHeader (Header.del key) w, false)
  | .writeHeader code, w => ResponseWriter.writeHeader code w
  | .write data, w => (ResponseWriter.write data w, false)
  | .flush, w => (ResponseWriter.flush w, false)

/-- Calls in order, up to the first that panics. -/
def perform : List WriterCall → ω → ω × Bool
  | [], w => (w, false)
  | call :: calls, w =>
    match call.perform w with
    | (w, true) => (w, true)
    | (w, false) => perform calls w

/-- What a function makes of the writer it is given: its calls, and whether it panics after them. -/
structure Execution where
  calls : List WriterCall
  panics : Bool

def Execution.run (e : Execution) (w : ω) : ω × Bool :=
  match perform e.calls w with
  | (w, true) => (w, true)
  | (w, false) => (w, e.panics)

/-- A handler of requests `ρ` over a state `σ`, and whether it panics. -/
abbrev Handler (ω ρ σ : Type*) := ρ → ω × σ → (ω × σ) × Bool

def handlerFunc (f : ρ → σ → σ × Execution) : Handler ω ρ σ := fun r s =>
  let (s', e) := f r s.2
  let (w, panicked) := e.run s.1
  ((w, s'), panicked)

/-- What the server keeps of an answer. An informational status is sent at once and not kept, and
a `Content-Length` that a handler sets is not enforced. -/
structure Response where
  header : Header
  /-- The status sent, and the header as it was then. -/
  sent : Option (ℕ × Header)
  body : List UInt8

namespace Response

def new : Response := ⟨∅, none, []⟩

def informational (code : ℕ) : Bool := decide (100 ≤ code ∧ code < 200 ∧ code ≠ 101)

def writeHeader (code : ℕ) (w : Response) : Response × Bool :=
  if w.sent.isSome then (w, false)
  else if code < 100 ∨ 999 < code then (w, true)
  else if informational code then (w, false)
  else ({ w with sent := some (code, w.header) }, false)

def bodyAllowedForStatus (status : ℕ) : Bool :=
  decide (¬(100 ≤ status ∧ status < 200) ∧ status ≠ 204 ∧ status ≠ 304)

/-- The answer begins with status 200 unless it has begun. -/
def begin (w : Response) : Response := (w.writeHeader 200).1

def write (data : List UInt8) (w : Response) : Response :=
  let w := w.begin
  match w.sent with
  | some (status, _) =>
    if bodyAllowedForStatus status then { w with body := w.body ++ data } else w
  | none => w

instance : ResponseWriter Response where
  mapHeader f w := { w with header := f w.header }
  writeHeader := writeHeader
  write := write
  flush := begin

end Response

/-- The answer to a request; a panic that leaves the handler drops the connection. -/
def serve (handler : Handler Response ρ σ) (r : ρ) (s : σ) : Option Response × σ :=
  match handler r (Response.new, s) with
  | ((_, s), true) => (none, s)
  | ((w, s), false) => (some w.begin, s)

/-! ### Writers -/

namespace Response

theorem writeHeader_of_begun {w : Response} (h : w.sent.isSome = true) (code : ℕ) :
    w.writeHeader code = (w, false) := if_pos h

theorem begin_of_begun {w : Response} (h : w.sent.isSome = true) : w.begin = w := by
  rw [begin, writeHeader_of_begun h]

theorem begin_of_fresh {w : Response} (h : w.sent = none) :
    w.begin = { w with sent := some (200, w.header) } := by
  rw [begin, writeHeader, h]
  rfl

theorem begin_begun (w : Response) : w.begin.sent.isSome = true := by
  cases h : w.sent with
  | none => rw [begin_of_fresh h]; rfl
  | some sent => rw [begin_of_begun (by rw [h]; rfl), h]; rfl

theorem write_begun (w : Response) (data : List UInt8) : (w.write data).sent.isSome = true := by
  have hbegun := w.begin_begun
  unfold Response.write
  dsimp only
  split
  · split_ifs
    · exact hbegun
    · exact hbegun
  · exact hbegun

end Response

/-! ### What calls keep -/

/-- A call that leaves the values of a key as they are, or sets them to what they are. -/
def WriterCall.Keeps (key : String) (values : Option (List String)) : WriterCall → Prop
  | .setHeader k v => canonicalHeaderKey k = key → values = some [v]
  | .addHeader k _ => canonicalHeaderKey k ≠ key
  | .delHeader k => canonicalHeaderKey k = key → values = none
  | _ => True

namespace Response

/-- The values of a key, now and when the answer began. -/
structure Carries (key : String) (values : Option (List String)) (w : Response) : Prop where
  header : w.header[key]? = values
  sent : ∀ status h, w.sent = some (status, h) → h[key]? = values

variable {key : String} {values : Option (List String)} {w : Response}

theorem Carries.mapHeader (h : w.Carries key values) {f : Header → Header}
    (hf : (f w.header)[key]? = values) :
    (ResponseWriter.mapHeader f w : Response).Carries key values := ⟨hf, h.sent⟩

theorem Carries.writeHeader (h : w.Carries key values) (code : ℕ) :
    (w.writeHeader code).1.Carries key values := by
  unfold Response.writeHeader
  split_ifs
  · exact h
  · exact h
  · exact h
  · refine ⟨h.header, fun status header hsent => ?_⟩
    obtain ⟨rfl, rfl⟩ := Prod.mk.inj (Option.some.inj hsent)
    exact h.header

theorem Carries.begin (h : w.Carries key values) : w.begin.Carries key values := h.writeHeader 200

theorem Carries.write (h : w.Carries key values) (data : List UInt8) :
    (w.write data).Carries key values := by
  have hbegun := h.begin
  unfold Response.write
  dsimp only
  split
  · split_ifs
    · exact ⟨hbegun.header, hbegun.sent⟩
    · exact hbegun
  · exact hbegun

theorem Carries.perform (h : w.Carries key values) {call : WriterCall}
    (hcall : call.Keeps key values) : (call.perform w).1.Carries key values := by
  cases call with
  | setHeader k v =>
    apply h.mapHeader
    rw [Header.set, GoMap.getElem?_insert]
    split_ifs with hk
    · exact (hcall hk).symm
    · exact h.header
  | addHeader k v =>
    apply h.mapHeader
    rw [Header.add, GoMap.getElem?_insert, if_neg hcall]
    exact h.header
  | delHeader k =>
    apply h.mapHeader
    rw [Header.del, GoMap.getElem?_erase]
    split_ifs with hk
    · exact (hcall hk).symm
    · exact h.header
  | writeHeader code => exact h.writeHeader code
  | write data => exact h.write data
  | flush => exact h.begin

theorem Carries.performs (h : w.Carries key values) {calls : List WriterCall}
    (hcalls : ∀ call ∈ calls, call.Keeps key values) :
    (GoHTTP.perform calls w).1.Carries key values := by
  induction calls generalizing w with
  | nil => exact h
  | cons call calls ih =>
    obtain ⟨hcall, hrest⟩ := List.forall_mem_cons.mp hcalls
    have hfirst := h.perform hcall
    rw [GoHTTP.perform]
    split
    · rename_i heq
      rw [heq] at hfirst
      exact hfirst
    · rename_i heq
      rw [heq] at hfirst
      exact ih hfirst hrest

/-- An answer that has not begun has no body. -/
def Fresh (w : Response) : Prop := w.sent = none → w.body = []

theorem Fresh.writeHeader (h : w.Fresh) (code : ℕ) : (w.writeHeader code).1.Fresh := by
  unfold Response.writeHeader
  split_ifs
  · exact h
  · exact h
  · exact h
  · exact nofun

theorem fresh_write (w : Response) (data : List UInt8) : (w.write data).Fresh := by
  intro hnone
  have hbegun := w.write_begun data
  rw [hnone] at hbegun
  cases hbegun

theorem Fresh.perform (h : w.Fresh) (call : WriterCall) : (call.perform w).1.Fresh := by
  cases call with
  | setHeader k v => exact h
  | addHeader k v => exact h
  | delHeader k => exact h
  | writeHeader code => exact h.writeHeader code
  | write data => exact w.fresh_write data
  | flush => exact h.writeHeader 200

theorem Fresh.performs (h : w.Fresh) (calls : List WriterCall) :
    (GoHTTP.perform calls w).1.Fresh := by
  induction calls generalizing w with
  | nil => exact h
  | cons call calls ih =>
    have hfirst := h.perform call
    rw [GoHTTP.perform]
    split
    · rename_i heq
      rw [heq] at hfirst
      exact hfirst
    · rename_i heq
      rw [heq] at hfirst
      exact ih hfirst

end Response

theorem Execution.run_fst (e : Execution) (w : ω) : (e.run w).1 = (perform e.calls w).1 := by
  unfold Execution.run
  split
  · rename_i heq
    rw [heq]
  · rename_i heq
    rw [heq]

theorem Execution.perform_of_run {e : Execution} {w : ω} (h : (e.run w).2 = false) :
    (perform e.calls w).2 = false := by
  unfold Execution.run at h
  split at h
  · cases h
  · rename_i heq
    rw [heq]

end GoHTTP
