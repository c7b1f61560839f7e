import Boxui.Library.GoHTTP
import Boxui.API.Requests

/-! The middlewares that every request passes: the log, the security headers, the limit of the
body, the cross-origin headers, and the recovery from a panic, outermost first. -/
namespace Boxui.API
open GoValue GoHTTP

variable {ω σ : Type*} [ResponseWriter ω]

/-- `truncated` says that reading the body ends with an error. -/
structure HTTPRequest where
  method : String
  path : String
  header : Header
  body : List UInt8
  truncated : Bool

/-- What an entry of the log has of a request and its answer. The path is not here: the entry has
the one that the handler leaves in the request, and the static files put another there. No handler
puts another method there. -/
structure HTTPLogEntry where
  method : String
  status : ℕ
  deriving DecidableEq

structure StatusCaptureWriter (ω : Type*) where
  writer : ω
  statusCode : ℕ

instance : ResponseWriter (StatusCaptureWriter ω) where
  mapHeader f sc := { sc with writer := ResponseWriter.mapHeader f sc.writer }
  writeHeader code sc :=
    let (w, panicked) := ResponseWriter.writeHeader code sc.writer
    (⟨w, code⟩, panicked)
  write data sc := { sc with writer := ResponseWriter.write data sc.writer }
  flush sc := { sc with writer := ResponseWriter.flush sc.writer }

/-- A panic that passes leaves no entry. The call of the log returns. -/
def loggerMiddleware (next : Handler (StatusCaptureWriter ω) HTTPRequest σ) :
    Handler ω HTTPRequest (σ × List HTTPLogEntry) := fun r s =>
  match next r (⟨s.1, 200⟩, s.2.1) with
  | ((sc, s'), true) => ((sc.writer, (s', s.2.2)), true)
  | ((sc, s'), false) => ((sc.writer, (s', s.2.2 ++ [⟨r.method, sc.statusCode⟩])), false)

def setHeaders (fields : List (String × String)) (w : ω) : ω :=
  fields.foldl (fun w field => ResponseWriter.mapHeader (Header.set field.1 field.2) w) w

def securityHeaders : List (String × String) :=
  [("X-Content-Type-Options", "nosniff"), ("X-Frame-Options", "DENY"),
    ("Referrer-Policy", "strict-origin-when-cross-origin"), ("X-XSS-Protection", "1; mode=block")]

def securityHeadersMiddleware (next : Handler ω HTTPRequest σ) : Handler ω HTTPRequest σ :=
  fun r s => next r (setHeaders securityHeaders s.1, s.2)

def maxRequestBodyBytes : ℕ := 2 * 1024 * 1024

/-- `http.MaxBytesReader`: no more bytes than the limit, and an error where there are more. -/
def maxBytes (limit : ℕ) (r : HTTPRequest) : HTTPRequest :=
  { r with body := r.body.take limit, truncated := r.truncated || decide (limit < r.body.length) }

def bodyLimitMiddleware (next : Handler ω HTTPRequest σ) : Handler ω HTTPRequest σ :=
  fun r s => next (maxBytes maxRequestBodyBytes r) s

def corsHeaders (origin : String) : List (String × String) :=
  [("Access-Control-Allow-Origin", origin),
    ("Access-Control-Allow-Methods", "GET, POST, PUT, DELETE, OPTIONS"),
    ("Access-Control-Allow-Headers", "Content-Type, Authorization")]

/-- The request comes from an origin that is allowed. -/
def allowed (allowedOrigins : List String) (r : HTTPRequest) : Bool :=
  r.header.get "Origin" != "" && allowedOrigins.contains (r.header.get "Origin")

def corsMiddleware (allowedOrigins : List String) (next : Handler ω HTTPRequest σ) :
    Handler ω HTTPRequest σ := fun r s =>
  let w :=
    if allowed allowedOrigins r then
      ResponseWriter.mapHeader (Header.add "Vary" "Origin")
        (setHeaders (corsHeaders (r.header.get "Origin")) s.1)
    else s.1
  if r.method = "OPTIONS" then
    let (w, panicked) :=
      ResponseWriter.writeHeader (if allowed allowedOrigins r then 204 else 403) w
    ((w, s.2), panicked)
  else next r (w, s.2)

/-- The calls of `writeJSONEnvelope`. -/
def envelopeCalls (encode : Response → List UInt8) (response : Response) : List WriterCall :=
  [.setHeader "Content-Type" "application/json", .writeHeader response.statusCode,
    .write (encode response)]

def defaultErrorCode : ℕ → String
  | 400 => "invalid_request"
  | 401 => "unauthorized"
  | 403 => "forbidden"
  | 429 => "rate_limited"
  | 404 => "not_found"
  | 409 => "conflict"
  | 503 => "unavailable"
  | 502 => "bad_gateway"
  | _ => "internal_error"

def writeJSONError (statusCode : ℕ) (msg : String) : Response :=
  writeJSONErrorCode statusCode (defaultErrorCode statusCode) (.text msg)

def internalServerError : Response := writeJSONError 500 "internal server error"

/-- The call of the log before the answer returns. -/
def recoveryMiddleware (encode : Response → List UInt8) (next : Handler ω HTTPRequest σ) :
    Handler ω HTTPRequest σ := fun r s =>
  match next r s with
  | ((w, s), true) =>
    let (w, panicked) := perform (envelopeCalls encode internalServerError) w
    ((w, s), panicked)
  | (s, false) => (s, false)

/-- The middlewares in the order of `NewRouter`, around what the router dispatches to. -/
def middlewares (encode : Response → List UInt8) (allowedOrigins : List String)
    (f : HTTPRequest → σ → σ × Execution) :
    Handler GoHTTP.Response HTTPRequest (σ × List HTTPLogEntry) :=
  loggerMiddleware <| securityHeadersMiddleware <| bodyLimitMiddleware <|
    corsMiddleware allowedOrigins <| recoveryMiddleware encode <| handlerFunc f

/-! ### The writer that captures the status -/

namespace StatusCaptureWriter

def inner (result : StatusCaptureWriter ω × Bool) : ω × Bool := (result.1.writer, result.2)

theorem inner_perform_call (call : WriterCall) (sc : StatusCaptureWriter ω) :
    inner (call.perform sc) = call.perform sc.writer := by
  cases call <;> rfl

/-- A handler works on the captured writer as on the writer in it. -/
theorem inner_perform (calls : List WriterCall) (sc : StatusCaptureWriter ω) :
    inner (perform calls sc) = perform calls sc.writer := by
  induction calls generalizing sc with
  | nil => rfl
  | cons call calls ih =>
    rw [perform, perform, ← inner_perform_call]
    rcases call.perform sc with ⟨sc', _ | _⟩
    · exact ih sc'
    · rfl

theorem inner_run (e : Execution) (sc : StatusCaptureWriter ω) :
    inner (e.run sc) = e.run sc.writer := by
  rw [Execution.run, Execution.run, ← inner_perform]
  rcases perform e.calls sc with ⟨sc', _ | _⟩ <;> rfl

/-- The captured status is the one that was sent, or 200 before that. -/
def Agrees (sc : StatusCaptureWriter GoHTTP.Response) : Prop :=
  match sc.writer.sent with
  | none => sc.statusCode = 200
  | some (status, _) => sc.statusCode = status

end StatusCaptureWriter

/-- Calls that do not send a status after the answer has begun, nor an informational one. -/
def SpeaksOnce : Bool → List WriterCall → Prop
  | _, [] => True
  | begun, .writeHeader code :: calls =>
    begun = false ∧ GoHTTP.Response.informational code = false ∧ SpeaksOnce true calls
  | _, .write _ :: calls => SpeaksOnce true calls
  | _, .flush :: calls => SpeaksOnce true calls
  | begun, _ :: calls => SpeaksOnce begun calls

namespace StatusCaptureWriter

theorem Agrees.status {sc : StatusCaptureWriter GoHTTP.Response} (h : sc.Agrees)
    (hbegun : sc.writer.sent.isSome = true) :
    sc.writer.sent.map Prod.fst = some sc.statusCode := by
  obtain ⟨sent, hsent⟩ := Option.isSome_iff_exists.mp hbegun
  rw [Agrees, hsent] at h
  rw [hsent, h]
  rfl

theorem Agrees.begin {w : GoHTTP.Response} {code : ℕ} (h : Agrees ⟨w, code⟩) :
    Agrees ⟨w.begin, code⟩ := by
  cases hsent : w.sent with
  | none =>
    rw [Agrees, hsent] at h
    rw [GoHTTP.Response.begin_of_fresh hsent]
    exact h
  | some sent =>
    rw [GoHTTP.Response.begin_of_begun (by rw [hsent]; rfl)]
    exact h

theorem Agrees.write {w : GoHTTP.Response} {code : ℕ} (h : Agrees ⟨w, code⟩)
    (data : List UInt8) : Agrees ⟨w.write data, code⟩ := by
  have hagrees := h.begin
  unfold GoHTTP.Response.write
  dsimp only
  split
  · split_ifs
    · exact hagrees
    · exact hagrees
  · exact hagrees

theorem Agrees.performs {calls : List WriterCall} {sc : StatusCaptureWriter GoHTTP.Response}
    (h : sc.Agrees) (hspeaks : SpeaksOnce sc.writer.sent.isSome calls)
    (hpanics : (perform calls sc).2 = false) : (perform calls sc).1.Agrees := by
  induction calls generalizing sc with
  | nil => exact h
  | cons call calls ih =>
    rw [perform] at hpanics ⊢
    cases call with
    | setHeader k v => exact @ih ⟨_, sc.statusCode⟩ h hspeaks hpanics
    | addHeader k v => exact @ih ⟨_, sc.statusCode⟩ h hspeaks hpanics
    | delHeader k => exact @ih ⟨_, sc.statusCode⟩ h hspeaks hpanics
    | write data =>
      apply @ih ⟨_, sc.statusCode⟩ (h.write data) _ hpanics
      rw [GoHTTP.Response.write_begun]
      exact hspeaks
    | flush =>
      apply @ih ⟨_, sc.statusCode⟩ h.begin _ hpanics
      rw [GoHTTP.Response.begin_begun]
      exact hspeaks
    | writeHeader code =>
      obtain ⟨hfresh, hfinal, hrest⟩ := hspeaks
      have hsent := Option.not_isSome_iff_eq_none.mp (Bool.eq_false_iff.mp hfresh)
      have hcall : (WriterCall.writeHeader code).perform sc =
          (⟨(sc.writer.writeHeader code).1, code⟩, (sc.writer.writeHeader code).2) := rfl
      rw [hcall] at hpanics ⊢
      have hwrite : sc.writer.writeHeader code = (sc.writer, true) ∨
          sc.writer.writeHeader code =
            ({ sc.writer with sent := some (code, sc.writer.header) }, false) := by
        unfold GoHTTP.Response.writeHeader
        rw [hsent, hfinal]
        simp only [Option.isSome_none, Bool.false_eq_true, if_false]
        split_ifs
        · exact .inl rfl
        · exact .inr rfl
      obtain hwrite | hwrite := hwrite
      · rw [hwrite] at hpanics
        cases hpanics
      · rw [hwrite] at hpanics ⊢
        exact ih rfl hrest hpanics

end StatusCaptureWriter

/-! ### The chain -/

/-- The writer with the headers that the middlewares set. -/
def opened (allowedOrigins : List String) (r : HTTPRequest) (w : ω) : ω :=
  let w := setHeaders securityHeaders w
  if allowed allowedOrigins r then
    ResponseWriter.mapHeader (Header.add "Vary" "Origin")
      (setHeaders (corsHeaders (r.header.get "Origin")) w)
  else w

theorem setHeaders_capture (fields : List (String × String)) (w : ω) (code : ℕ) :
    setHeaders fields (⟨w, code⟩ : StatusCaptureWriter ω) = ⟨setHeaders fields w, code⟩ := by
  induction fields generalizing w with
  | nil => rfl
  | cons field fields ih => exact ih _

theorem opened_capture (allowedOrigins : List String) (r : HTTPRequest) (w : ω) (code : ℕ) :
    opened allowedOrigins r (⟨w, code⟩ : StatusCaptureWriter ω) =
      ⟨opened allowedOrigins r w, code⟩ := by
  unfold opened
  simp only [setHeaders_capture]
  split_ifs <;> rfl

theorem setHeaders_eq (fields : List (String × String)) (w : GoHTTP.Response) :
    ∃ h, setHeaders fields w = { w with header := h } := by
  induction fields generalizing w with
  | nil => exact ⟨w.header, rfl⟩
  | cons field fields ih => exact ih { w with header := w.header.set field.1 field.2 }

theorem opened_eq (allowedOrigins : List String) (r : HTTPRequest) (w : GoHTTP.Response) :
    ∃ h, opened allowedOrigins r w = { w with header := h } := by
  obtain ⟨security, hsecurity⟩ := setHeaders_eq securityHeaders w
  obtain ⟨cors, hcors⟩ := setHeaders_eq (corsHeaders (r.header.get "Origin"))
    { w with header := security }
  unfold opened
  dsimp only
  rw [hsecurity, hcors]
  split_ifs
  · exact ⟨_, rfl⟩
  · exact ⟨_, rfl⟩

variable (encode : Response → List UInt8)

/-- What the recovery makes of the writer that a panic leaves. -/
def apology (w : GoHTTP.Response) : GoHTTP.Response :=
  GoHTTP.Response.write (encode internalServerError)
    (GoHTTP.Response.writeHeader 500
      { w with header := w.header.set "Content-Type" "application/json" }).1

theorem perform_apology (w : GoHTTP.Response) (code : ℕ) :
    perform (envelopeCalls encode internalServerError)
      (⟨w, code⟩ : StatusCaptureWriter GoHTTP.Response) = (⟨apology encode w, 500⟩, false) := by
  have hwrite (w : GoHTTP.Response) : (w.writeHeader 500).2 = false := by
    unfold GoHTTP.Response.writeHeader
    split_ifs with h₁ h₂
    · rfl
    · omega
    · rfl
    · rfl
  unfold envelopeCalls perform perform perform perform
  dsimp only [WriterCall.perform, ResponseWriter.mapHeader, ResponseWriter.writeHeader]
  have hstatus : internalServerError.statusCode = 500 := rfl
  rw [hstatus, hwrite]
  rfl

theorem apology_begun (w : GoHTTP.Response) : (apology encode w).sent.isSome = true :=
  GoHTTP.Response.write_begun _ _

theorem apology_of_begun {w : GoHTTP.Response} {sent : ℕ × Header} (h : w.sent = some sent) :
    (apology encode w).sent = some sent ∧ w.body <+: (apology encode w).body := by
  have hbegun : ({ w with header := w.header.set "Content-Type" "application/json" } :
      GoHTTP.Response).sent.isSome = true := by
    rw [h]
    rfl
  unfold apology
  rw [GoHTTP.Response.writeHeader_of_begun hbegun, GoHTTP.Response.write,
    GoHTTP.Response.begin_of_begun hbegun]
  dsimp only
  rw [h]
  dsimp only
  split_ifs
  · exact ⟨rfl, List.prefix_append _ _⟩
  · exact ⟨rfl, List.prefix_rfl⟩

theorem apology_of_fresh {w : GoHTTP.Response} (h : w.sent = none) :
    (apology encode w).sent = some (500, w.header.set "Content-Type" "application/json") ∧
      (apology encode w).body = w.body ++ encode internalServerError := by
  unfold apology
  rw [GoHTTP.Response.writeHeader]
  dsimp only
  rw [h]
  exact ⟨rfl, rfl⟩

variable (allowedOrigins : List String) (f : HTTPRequest → σ → σ × Execution)

/-- What the middlewares inside the log make of a request. -/
theorem logged_options {r : HTTPRequest} (hr : r.method = "OPTIONS") (w : ω) (s : σ) :
    (securityHeadersMiddleware <| bodyLimitMiddleware <| corsMiddleware allowedOrigins <|
        recoveryMiddleware encode <| handlerFunc f) r (w, s) =
      match ResponseWriter.writeHeader (if allowed allowedOrigins r then 204 else 403)
        (opened allowedOrigins r w) with
      | (w, panicked) => ((w, s), panicked) := by
  exact if_pos hr

theorem logged_other {r : HTTPRequest} (hr : r.method ≠ "OPTIONS") (w : ω) (s : σ) :
    (securityHeadersMiddleware <| bodyLimitMiddleware <| corsMiddleware allowedOrigins <|
        recoveryMiddleware encode <| handlerFunc f) r (w, s) =
      match f (maxBytes maxRequestBodyBytes r) s with
      | (s', e) =>
        match e.run (opened allowedOrigins r w) with
        | (w, true) =>
          match perform (envelopeCalls encode internalServerError) w with
          | (w, panicked) => ((w, s'), panicked)
        | (w, false) => ((w, s'), false) := by
  have hcors : (securityHeadersMiddleware <| bodyLimitMiddleware <|
      corsMiddleware allowedOrigins <| recoveryMiddleware encode <| handlerFunc f) r (w, s) =
      recoveryMiddleware encode (handlerFunc f) (maxBytes maxRequestBodyBytes r)
        (opened allowedOrigins r w, s) := if_neg hr
  rw [hcors, recoveryMiddleware, handlerFunc]
  rcases f (maxBytes maxRequestBodyBytes r) s with ⟨s', e⟩
  dsimp only
  rcases e.run (opened allowedOrigins r w) with ⟨w', _ | _⟩ <;> rfl

theorem serve_options {r : HTTPRequest} (hr : r.method = "OPTIONS") (s : σ)
    (log : List HTTPLogEntry) :
    let status := if allowed allowedOrigins r then 204 else 403
    let first : GoHTTP.Response := opened allowedOrigins r .new
    serve (middlewares encode allowedOrigins f) r (s, log) =
      (some { first with sent := some (status, first.header) },
        (s, log ++ [⟨r.method, status⟩])) := by
  intro status first
  obtain ⟨header, hfirst⟩ : ∃ h, first = { GoHTTP.Response.new with header := h } :=
    opened_eq allowedOrigins r .new
  have hwrite : ResponseWriter.writeHeader status
      (⟨first, 200⟩ : StatusCaptureWriter GoHTTP.Response) =
      (⟨{ first with sent := some (status, first.header) }, status⟩, false) := by
    rw [hfirst]
    unfold status
    split_ifs <;> rfl
  rw [serve, middlewares, loggerMiddleware, logged_options encode allowedOrigins f hr,
    opened_capture, hwrite]
  rfl

theorem serve_other {r : HTTPRequest} (hr : r.method ≠ "OPTIONS") (s : σ)
    (log : List HTTPLogEntry) :
    let result := f (maxBytes maxRequestBodyBytes r) s
    let ran :=
      result.2.run (⟨opened allowedOrigins r .new, 200⟩ : StatusCaptureWriter GoHTTP.Response)
    serve (middlewares encode allowedOrigins f) r (s, log) =
      if ran.2 then
        (some (apology encode ran.1.writer), (result.1, log ++ [⟨r.method, 500⟩]))
      else
        (some ran.1.writer.begin, (result.1, log ++ [⟨r.method, ran.1.statusCode⟩])) := by
  rw [serve, middlewares, loggerMiddleware, logged_other encode allowedOrigins f hr,
    opened_capture]
  rcases f (maxBytes maxRequestBodyBytes r) s with ⟨s', e⟩
  dsimp only
  rcases e.run (⟨opened allowedOrigins r .new, 200⟩ : StatusCaptureWriter GoHTTP.Response)
    with ⟨sc, _ | _⟩
  · rfl
  · dsimp only
    rw [perform_apology]
    dsimp only
    rw [GoHTTP.Response.begin_of_begun (apology_begun encode sc.writer)]
    rfl

theorem fresh_opened (r : HTTPRequest) : (opened allowedOrigins r GoHTTP.Response.new).Fresh := by
  obtain ⟨header, hfirst⟩ := opened_eq allowedOrigins r .new
  rw [hfirst]
  exact fun _ => rfl

/-- What the client gets from a handler that the request reaches. -/
def answered (e : Execution) (first : GoHTTP.Response) : GoHTTP.Response :=
  let ran := e.run first
  if ran.2 then apology encode ran.1 else ran.1.begin

theorem answered_spec (e : Execution) {first : GoHTTP.Response} (hfirst : first.Fresh) :
    let ran := e.run first
    let answer := answered encode e first
    match ran.1.sent, ran.2 with
    | some sent, false => answer.sent = some sent ∧ answer.body = ran.1.body
    | some sent, true => answer.sent = some sent ∧ ran.1.body <+: answer.body
    | none, false => answer.sent = some (200, ran.1.header) ∧ answer.body = []
    | none, true =>
      answer.sent = some (500, ran.1.header.set "Content-Type" "application/json") ∧
        answer.body = encode internalServerError := by
  intro ran answer
  have hfresh : ran.1.Fresh := by
    have hruns : ran.1 = (perform e.calls first).1 := e.run_fst first
    rw [hruns]
    exact hfirst.performs e.calls
  have hanswer : answer = if ran.2 then apology encode ran.1 else ran.1.begin := rfl
  cases hsent : ran.1.sent with
  | none =>
    have hbody := hfresh hsent
    cases hpanics : ran.2 with
    | false =>
      rw [hanswer, hpanics, if_neg Bool.false_ne_true, GoHTTP.Response.begin_of_fresh hsent]
      exact ⟨rfl, hbody⟩
    | true =>
      rw [hanswer, hpanics, if_pos rfl]
      obtain ⟨hapology, hencoded⟩ := apology_of_fresh encode hsent
      rw [hbody, List.nil_append] at hencoded
      exact ⟨hapology, hencoded⟩
  | some sent =>
    cases hpanics : ran.2 with
    | false =>
      rw [hanswer, hpanics, if_neg Bool.false_ne_true,
        GoHTTP.Response.begin_of_begun (by rw [hsent]; rfl)]
      exact ⟨hsent, rfl⟩
    | true =>
      rw [hanswer, hpanics, if_pos rfl]
      exact apology_of_begun encode hsent

/-- The status that the log has for a handler that the request reaches. -/
def loggedStatus (e : Execution) (first : GoHTTP.Response) : ℕ :=
  let ran := e.run (⟨first, 200⟩ : StatusCaptureWriter GoHTTP.Response)
  if ran.2 then 500 else ran.1.statusCode

theorem serve_answered {r : HTTPRequest} (hr : r.method ≠ "OPTIONS") (s : σ)
    (log : List HTTPLogEntry) :
    let first : GoHTTP.Response := opened allowedOrigins r .new
    let result := f (maxBytes maxRequestBodyBytes r) s
    serve (middlewares encode allowedOrigins f) r (s, log) =
      (some (answered encode result.2 first),
        (result.1, log ++ [⟨r.method, loggedStatus result.2 first⟩])) := by
  intro first result
  have hserve := serve_other encode allowedOrigins f hr s log
  have hinner := StatusCaptureWriter.inner_run result.2 ⟨first, 200⟩
  dsimp only at hserve
  rw [hserve, answered, loggedStatus, ← hinner]
  unfold StatusCaptureWriter.inner
  dsimp only
  rcases result.2.run (⟨first, 200⟩ : StatusCaptureWriter GoHTTP.Response) with ⟨sc, _ | _⟩ <;> rfl

/-- Every request is answered: a panic of its handler never reaches the server. An `OPTIONS`
request is answered by its origin alone and does not reach the handler. What a handler has sent
stands, a panic before that is answered with status 500, and a handler that sends nothing is
answered with 200. -/
theorem middlewares_answer (r : HTTPRequest) (s : σ) (log : List HTTPLogEntry) :
    let first : GoHTTP.Response := opened allowedOrigins r .new
    let result := f (maxBytes maxRequestBodyBytes r) s
    ∃ (answer : GoHTTP.Response) (entry : HTTPLogEntry) (s' : σ),
      serve (middlewares encode allowedOrigins f) r (s, log) =
          (some answer, (s', log ++ [entry])) ∧
        entry.method = r.method ∧
        if r.method = "OPTIONS" then
          s' = s ∧ answer.body = [] ∧
            answer.sent = some (if allowed allowedOrigins r then 204 else 403, first.header)
        else
          let ran := result.2.run first
          s' = result.1 ∧
            match ran.1.sent, ran.2 with
            | some sent, false => answer.sent = some sent ∧ answer.body = ran.1.body
            | some sent, true => answer.sent = some sent ∧ ran.1.body <+: answer.body
            | none, false => answer.sent = some (200, ran.1.header) ∧ answer.body = []
            | none, true =>
              answer.sent = some (500, ran.1.header.set "Content-Type" "application/json") ∧
                answer.body = encode internalServerError := by
  intro first result
  by_cases hr : r.method = "OPTIONS"
  · obtain ⟨header, hfirst⟩ : ∃ h, first = { GoHTTP.Response.new with header := h } :=
      opened_eq allowedOrigins r .new
    refine ⟨_, _, s, serve_options encode allowedOrigins f hr s log, rfl, ?_⟩
    rw [if_pos hr]
    exact ⟨rfl, congrArg GoHTTP.Response.body hfirst, rfl⟩
  · refine ⟨_, _, _, serve_answered encode allowedOrigins f hr s log, rfl, ?_⟩
    rw [if_neg hr]
    exact ⟨rfl, answered_spec encode result.2 (fresh_opened allowedOrigins r)⟩

/-! ### The log -/

/-- A handler that has begun an answer of a status other than 500, and then panics. -/
def BreaksOff (e : Execution) (first : GoHTTP.Response) : Prop :=
  (e.run first).2 = true ∧ ∃ status h, (e.run first).1.sent = some (status, h) ∧ status ≠ 500

theorem loggedStatus_iff {e : Execution} {first : GoHTTP.Response} (hfirst : first.sent = none)
    (hspeaks : SpeaksOnce false e.calls) :
    (answered encode e first).sent.map Prod.fst = some (loggedStatus e first) ↔
      ¬BreaksOff e first := by
  have hinner := StatusCaptureWriter.inner_run e ⟨first, 200⟩
  have hagrees : StatusCaptureWriter.Agrees ⟨first, 200⟩ := by
    rw [StatusCaptureWriter.Agrees, hfirst]
  have hcalls : SpeaksOnce (Option.isSome first.sent) e.calls := by
    rw [hfirst]
    exact hspeaks
  have hperformed := hagrees.performs hcalls
  unfold BreaksOff answered loggedStatus
  rw [← hinner]
  dsimp only [StatusCaptureWriter.inner]
  cases hpanics : (e.run (⟨first, 200⟩ : StatusCaptureWriter GoHTTP.Response)).2 with
  | false =>
    have hended := hperformed (e.perform_of_run hpanics)
    rw [← Execution.run_fst] at hended
    rw [if_neg Bool.false_ne_true, if_neg Bool.false_ne_true]
    exact iff_of_true (hended.begin.status (GoHTTP.Response.begin_begun _))
      fun hbreaks => nomatch hbreaks.1
  | true =>
    rw [if_pos rfl, if_pos rfl]
    cases hsent : (e.run (⟨first, 200⟩ : StatusCaptureWriter GoHTTP.Response)).1.writer.sent with
    | none =>
      rw [(apology_of_fresh encode hsent).1]
      exact iff_of_true rfl (by rintro ⟨-, _, _, hsome, -⟩; cases hsome)
    | some sent =>
      obtain ⟨status, header⟩ := sent
      rw [(apology_of_begun encode hsent).1, Option.map_some, Option.some_inj]
      constructor
      · rintro hstatus ⟨-, status', header', hsome, hne⟩
        obtain ⟨rfl, -⟩ := Prod.mk.inj (Option.some.inj hsome)
        exact hne hstatus
      · intro hnot
        by_contra hne
        exact hnot ⟨rfl, status, header, rfl, hne⟩

/-- The log has the status that the client got, for a handler that sends one status and none that
is informational, except where it panics after it began an answer: the log then has 500. -/
theorem logged_iff (r : HTTPRequest) (s : σ) (log : List HTTPLogEntry)
    (hspeaks : SpeaksOnce false (f (maxBytes maxRequestBodyBytes r) s).2.calls) :
    let first : GoHTTP.Response := opened allowedOrigins r .new
    let result := f (maxBytes maxRequestBodyBytes r) s
    ∃ (answer : GoHTTP.Response) (entry : HTTPLogEntry) (s' : σ),
      serve (middlewares encode allowedOrigins f) r (s, log) =
          (some answer, (s', log ++ [entry])) ∧
        (answer.sent.map Prod.fst = some entry.status ↔
          r.method = "OPTIONS" ∨ ¬BreaksOff result.2 first) ∧
        (r.method ≠ "OPTIONS" → BreaksOff result.2 first → entry.status = 500) := by
  intro first result
  obtain ⟨header, hfirst⟩ : ∃ h, first = { GoHTTP.Response.new with header := h } :=
    opened_eq allowedOrigins r .new
  by_cases hr : r.method = "OPTIONS"
  · refine ⟨_, _, s, serve_options encode allowedOrigins f hr s log, ?_, fun hne => absurd hr hne⟩
    exact iff_of_true rfl (.inl hr)
  · refine ⟨_, _, _, serve_answered encode allowedOrigins f hr s log, ?_, ?_⟩
    · have hsent : first.sent = none := by rw [hfirst]; rfl
      rw [loggedStatus_iff encode hsent hspeaks]
      exact ⟨.inr, fun h => h.resolve_left hr⟩
    · intro _ hbreaks
      have hinner := StatusCaptureWriter.inner_run result.2 ⟨first, 200⟩
      have hpanics := hbreaks.1
      rw [← hinner] at hpanics
      exact if_pos hpanics

/-- A stream that fails after its first event: the client has status 200, the log 500. -/
def brokenStream (_ : HTTPRequest) (_ : Unit) : Unit × Execution :=
  ((), ⟨[.setHeader "Content-Type" "text/event-stream", .flush, .write [100], .flush], true⟩)

theorem logged_brokenStream :
    ∃ (answer : GoHTTP.Response) (entry : HTTPLogEntry) (s' : Unit),
      serve (middlewares (fun _ => []) [] brokenStream) ⟨"GET", "/api/stats/logs", ∅, [], false⟩
          ((), []) = (some answer, (s', [entry])) ∧
        answer.sent.map Prod.fst ≠ some entry.status ∧ entry.status = 500 := by
  have hbreaks : BreaksOff (brokenStream ⟨"GET", "/api/stats/logs", ∅, [], false⟩ ()).2
      (opened [] ⟨"GET", "/api/stats/logs", ∅, [], false⟩ .new) :=
    ⟨rfl, 200, _, rfl, by decide⟩
  have hspeaks : SpeaksOnce false
      (brokenStream ⟨"GET", "/api/stats/logs", ∅, [], false⟩ ()).2.calls :=
    trivial
  obtain ⟨answer, entry, s', hserve, hiff, hlogged⟩ :=
    logged_iff (fun _ => []) [] brokenStream ⟨"GET", "/api/stats/logs", ∅, [], false⟩ () [] hspeaks
  refine ⟨answer, entry, s', hserve, fun heq => ?_, hlogged (by decide) hbreaks⟩
  obtain hr | hnot := hiff.mp heq
  · exact absurd hr (by decide)
  · exact hnot hbreaks

/-! ### The headers -/

theorem setHeaders_other {fields : List (String × String)} {key : String} (w : GoHTTP.Response)
    (h : ∀ field ∈ fields, canonicalHeaderKey field.1 ≠ key) :
    (setHeaders fields w).header[key]? = w.header[key]? := by
  induction fields generalizing w with
  | nil => rfl
  | cons field fields ih =>
    obtain ⟨hfield, hrest⟩ := List.forall_mem_cons.mp h
    have hset : (setHeaders (field :: fields) w).header[key]? =
        (w.header.set field.1 field.2)[key]? := ih _ hrest
    rw [hset, Header.set, GoMap.getElem?_insert, if_neg hfield]

theorem setHeaders_mem {fields : List (String × String)} {field : String × String}
    (w : GoHTTP.Response)
    (hdistinct : (fields.map fun field => canonicalHeaderKey field.1).Nodup)
    (h : field ∈ fields) :
    (setHeaders fields w).header[canonicalHeaderKey field.1]? = some [field.2] := by
  induction fields generalizing w with
  | nil => cases h
  | cons first fields ih =>
    obtain ⟨hfirst, hrest⟩ := List.nodup_cons.mp hdistinct
    obtain rfl | hmem := List.mem_cons.mp h
    · have hset : (setHeaders (field :: fields) w).header[canonicalHeaderKey field.1]? =
          (w.header.set field.1 field.2)[canonicalHeaderKey field.1]? := by
        refine setHeaders_other { w with header := w.header.set field.1 field.2 } ?_
        intro other hother heq
        exact hfirst (List.mem_map.mpr ⟨other, hother, heq⟩)
      rw [hset, Header.set, GoMap.getElem?_insert, if_pos rfl]
    · exact ih _ hrest hmem

/-- The headers that a browser is guarded by, under their canonical keys. -/
def guardHeaders (allowedOrigins : List String) (r : HTTPRequest) :
    List (String × Option (List String)) :=
  securityHeaders.map (fun field => (canonicalHeaderKey field.1, some [field.2])) ++
    [("Access-Control-Allow-Origin",
      if allowed allowedOrigins r then some [r.header.get "Origin"] else none)]

def securityKeys : List String :=
  ["X-Content-Type-Options", "X-Frame-Options", "Referrer-Policy", "X-Xss-Protection"]

def corsKeys : List String :=
  ["Access-Control-Allow-Origin", "Access-Control-Allow-Methods", "Access-Control-Allow-Headers"]

theorem securityHeaders_keys :
    securityHeaders.map (fun field => canonicalHeaderKey field.1) = securityKeys := by decide

theorem corsHeaders_keys (origin : String) :
    (corsHeaders origin).map (fun field => canonicalHeaderKey field.1) = corsKeys := by
  have hcors : corsKeys.map canonicalHeaderKey = corsKeys := by decide
  exact hcors

theorem opened_guard (r : HTTPRequest) {guard : String × Option (List String)}
    (h : guard ∈ guardHeaders allowedOrigins r) :
    (opened allowedOrigins r GoHTTP.Response.new).header[guard.1]? = guard.2 := by
  let w : GoHTTP.Response := setHeaders securityHeaders .new
  let cors := corsHeaders (r.header.get "Origin")
  have hkeys : cors.map (fun field => canonicalHeaderKey field.1) = corsKeys := corsHeaders_keys _
  have hopened : opened allowedOrigins r GoHTTP.Response.new =
      if allowed allowedOrigins r then
        { setHeaders cors w with header := (setHeaders cors w).header.add "Vary" "Origin" }
      else w := rfl
  have hadded (key : String) (hkey : key ≠ "Vary") :
      ((setHeaders cors w).header.add "Vary" "Origin")[key]? =
        (setHeaders cors w).header[key]? := by
    have hvary : canonicalHeaderKey "Vary" = "Vary" := by decide
    rw [Header.add, hvary, GoMap.getElem?_insert, if_neg hkey.symm]
  have hdisjoint : ∀ key ∈ securityKeys, key ≠ "Vary" ∧ key ∉ corsKeys := by decide
  rw [hopened]
  obtain hsecurity | horigin := List.mem_append.mp h
  · obtain ⟨field, hfield, rfl⟩ := List.mem_map.mp hsecurity
    have hset : w.header[canonicalHeaderKey field.1]? = some [field.2] :=
      setHeaders_mem _ (by rw [securityHeaders_keys]; decide) hfield
    obtain ⟨hvary, hcors⟩ := hdisjoint (canonicalHeaderKey field.1)
      (securityHeaders_keys ▸ List.mem_map.mpr ⟨field, hfield, rfl⟩)
    split_ifs
    · dsimp only
      rw [hadded _ hvary, setHeaders_other w, hset]
      rintro other hother heq
      rw [← hkeys, ← heq] at hcors
      exact hcors (List.mem_map.mpr ⟨other, hother, rfl⟩)
    · exact hset
  · obtain rfl := List.mem_singleton.mp horigin
    split_ifs with hallowed
    · have hkey : canonicalHeaderKey "Access-Control-Allow-Origin" =
          "Access-Control-Allow-Origin" := by decide
      have hnodup : (cors.map fun field => canonicalHeaderKey field.1).Nodup := by
        rw [hkeys]
        decide
      have hset := setHeaders_mem w hnodup
        (List.mem_cons_self : ("Access-Control-Allow-Origin", r.header.get "Origin") ∈ cors)
      dsimp only at hset ⊢
      rw [hadded _ (by decide), ← hset, hkey]
    · refine (setHeaders_other GoHTTP.Response.new fun field hfield heq => ?_).trans rfl
      have hmem : canonicalHeaderKey field.1 ∈ securityKeys :=
        securityHeaders_keys ▸ List.mem_map.mpr ⟨field, hfield, rfl⟩
      exact absurd (hdisjoint _ hmem).2 (by rw [heq]; decide)

/-- A handler that leaves the guarding headers as they are. -/
def LeavesGuards (e : Execution) (r : HTTPRequest) : Prop :=
  ∀ call ∈ e.calls, ∀ guard ∈ guardHeaders allowedOrigins r, call.Keeps guard.1 guard.2

theorem answered_begun (e : Execution) (first : GoHTTP.Response) :
    (answered encode e first).sent.isSome = true := by
  unfold answered
  dsimp only
  split_ifs
  · exact apology_begun encode _
  · exact GoHTTP.Response.begin_begun _

theorem answered_carries {e : Execution} {first : GoHTTP.Response} {key : String}
    {values : Option (List String)} (hfirst : first.Carries key values)
    (hkey : key ≠ "Content-Type")
    (hcalls : ∀ call ∈ e.calls, call.Keeps key values) :
    (answered encode e first).Carries key values := by
  have hran : (e.run first).1.Carries key values := by
    rw [Execution.run_fst]
    exact hfirst.performs hcalls
  unfold answered
  dsimp only
  split_ifs
  · have hcontent : canonicalHeaderKey "Content-Type" = "Content-Type" := by decide
    have hset : (WriterCall.setHeader "Content-Type" "application/json").Keeps key values :=
      fun heq => absurd (hcontent.symm.trans heq) hkey.symm
    exact ((hran.perform hset).writeHeader 500).write _
  · exact hran.begin

theorem guardHeaders_key (r : HTTPRequest) {guard : String × Option (List String)}
    (h : guard ∈ guardHeaders allowedOrigins r) : guard.1 ≠ "Content-Type" := by
  obtain hsecurity | horigin := List.mem_append.mp h
  · obtain ⟨field, hfield, rfl⟩ := List.mem_map.mp hsecurity
    have hkeys : ∀ field ∈ securityHeaders, canonicalHeaderKey field.1 ≠ "Content-Type" := by decide
    exact hkeys field hfield
  · obtain rfl := List.mem_singleton.mp horigin
    have hkey : "Access-Control-Allow-Origin" ≠ "Content-Type" := by decide
    exact hkey

theorem answer_guards (r : HTTPRequest) (s : σ) (log : List HTTPLogEntry)
    (hleaves : LeavesGuards allowedOrigins (f (maxBytes maxRequestBodyBytes r) s).2 r) :
    ∃ (answer : GoHTTP.Response) (status : ℕ) (header : Header) (rest : σ × List HTTPLogEntry),
      serve (middlewares encode allowedOrigins f) r (s, log) = (some answer, rest) ∧
        answer.sent = some (status, header) ∧
        ∀ guard ∈ guardHeaders allowedOrigins r, header[guard.1]? = guard.2 := by
  obtain ⟨opening, hfirst⟩ := opened_eq allowedOrigins r .new
  by_cases hr : r.method = "OPTIONS"
  · exact ⟨_, _, _, _, serve_options encode allowedOrigins f hr s log, rfl,
      fun guard hguard => opened_guard allowedOrigins r hguard⟩
  · obtain ⟨sent, hsent⟩ := Option.isSome_iff_exists.mp
      (answered_begun encode (f (maxBytes maxRequestBodyBytes r) s).2
        (opened allowedOrigins r .new))
    refine ⟨_, sent.1, sent.2, _, serve_answered encode allowedOrigins f hr s log, hsent,
      fun guard hguard => ?_⟩
    have hopened : (opened allowedOrigins r GoHTTP.Response.new).Carries guard.1 guard.2 := by
      refine ⟨opened_guard allowedOrigins r hguard, fun status header hsome => ?_⟩
      rw [hfirst] at hsome
      cases hsome
    have hcarries := answered_carries encode hopened (guardHeaders_key allowedOrigins r hguard)
      fun call hcall => hleaves call hcall guard hguard
    exact hcarries.sent sent.1 sent.2 hsent

/-- Every answer carries the security headers, and allows its origin if and only if that is one of
the configured ones, whether the handler returns, panics or is never reached. -/
theorem answer_guarded (r : HTTPRequest) (s : σ) (log : List HTTPLogEntry)
    (hleaves : LeavesGuards allowedOrigins (f (maxBytes maxRequestBodyBytes r) s).2 r) :
    ∃ (answer : GoHTTP.Response) (status : ℕ) (header : Header) (rest : σ × List HTTPLogEntry),
      serve (middlewares encode allowedOrigins f) r (s, log) = (some answer, rest) ∧
        answer.sent = some (status, header) ∧
        (∀ field ∈ securityHeaders, header[canonicalHeaderKey field.1]? = some [field.2]) ∧
        header["Access-Control-Allow-Origin"]? =
          if r.header.get "Origin" ≠ "" ∧ r.header.get "Origin" ∈ allowedOrigins then
            some [r.header.get "Origin"]
          else none := by
  obtain ⟨answer, status, header, rest, hserve, hsent, hguards⟩ :=
    answer_guards encode allowedOrigins f r s log hleaves
  refine ⟨answer, status, header, rest, hserve, hsent, fun field hfield => ?_, ?_⟩
  · exact hguards _ (List.mem_append_left _ (List.mem_map.mpr ⟨field, hfield, rfl⟩))
  · have horigin := hguards _ (List.mem_append_right _ (List.mem_singleton.mpr rfl))
    rw [horigin]
    refine if_congr ?_ rfl rfl
    rw [allowed, Bool.and_eq_true, bne_iff_ne, List.contains_iff_mem]

/-- The static files: a header of their own, and a panic before anything is sent. -/
def staticFile (r : HTTPRequest) (_ : Unit) : Unit × Execution :=
  ((), ⟨[.setHeader "Cache-Control" "no-cache", .setHeader "x-content-type-options" "nosniff"],
    r.path == "/broken"⟩)

def pageRequest : HTTPRequest :=
  ⟨"GET", "/broken", (∅ : Header).set "Origin" "https://box.example", [], false⟩

theorem answer_guarded_page :
    ∃ (answer : GoHTTP.Response) (status : ℕ) (header : Header) (rest : Unit × List HTTPLogEntry),
      serve (middlewares (fun _ => []) ["https://box.example"] staticFile) pageRequest ((), []) =
          (some answer, rest) ∧
        answer.sent = some (status, header) ∧
        header["X-Frame-Options"]? = some ["DENY"] ∧
        header["Access-Control-Allow-Origin"]? = some ["https://box.example"] := by
  have hleaves : LeavesGuards ["https://box.example"]
      (staticFile (maxBytes maxRequestBodyBytes pageRequest) ()).2 pageRequest := by
    have hcache : ∀ guard ∈ guardHeaders ["https://box.example"] pageRequest,
        canonicalHeaderKey "Cache-Control" = guard.1 → guard.2 = some ["no-cache"] := by decide
    have hsniff : ∀ guard ∈ guardHeaders ["https://box.example"] pageRequest,
        canonicalHeaderKey "x-content-type-options" = guard.1 → guard.2 = some ["nosniff"] := by
      decide
    exact List.forall_mem_cons.mpr ⟨hcache, List.forall_mem_singleton.mpr hsniff⟩
  obtain ⟨answer, status, header, rest, hserve, hsent, hsecurity, horigin⟩ :=
    answer_guarded (fun _ => []) ["https://box.example"] staticFile pageRequest () [] hleaves
  refine ⟨answer, status, header, rest, hserve, hsent, ?_, ?_⟩
  · exact hsecurity ("X-Frame-Options", "DENY") (by decide)
  · rw [horigin]
    decide

end Boxui.API
