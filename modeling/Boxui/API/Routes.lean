import Boxui.API.Middleware
import Boxui.Library.GoStrings
import Boxui.Library.Machine

/-! The routes, and the requests that come without a valid token. -/
namespace Boxui.API
open GoHTTP GoStrings Machine

variable {σ : Type*}

structure Route where
  method : String
  pattern : String
  /-- The route stands behind the authentication. -/
  authenticated : Bool
  deriving DecidableEq

/-- A `Route` block whose first statement uses the authentication. -/
def authenticatedGroup (path : String) (routes : List (String × String)) : List Route :=
  routes.map fun (method, pattern) => ⟨method, path ++ pattern, true⟩

def loginRoute : Route := ⟨"POST", "/api/auth/login", false⟩

/-- The routes of `NewRouter`, with the last of them from `mountStatic`. -/
def routes : List Route :=
  [⟨"GET", "/health", false⟩, ⟨"GET", "/healthz", false⟩, ⟨"GET", "/readyz", false⟩,
    loginRoute, ⟨"POST", "/api/auth/logout", true⟩] ++
  authenticatedGroup "/api/config"
    [("GET", "/"), ("PUT", "/"), ("GET", "/raw"), ("PUT", "/raw"), ("POST", "/dns/defaults"),
      ("POST", "/rule-sets/defaults"), ("GET", "/rule-sets/status"), ("POST", "/rule-sets/update"),
      ("GET", "/rule-sets/auto-update"), ("PUT", "/rule-sets/auto-update"),
      ("POST", "/outbounds/defaults"), ("POST", "/route/defaults"),
      ("GET", "/route/rule-metadata"), ("PUT", "/route/rule-metadata")] ++
  authenticatedGroup "/api/service"
    [("POST", "/start"), ("POST", "/stop"), ("POST", "/restart"), ("GET", "/status")] ++
  authenticatedGroup "/api/stats"
    [("GET", "/traffic/history"), ("GET", "/traffic"), ("GET", "/logs"), ("GET", "/app-logs"),
      ("GET", "/connections"), ("DELETE", "/connections"), ("DELETE", "/connections/\x7bid\x7d")] ++
  authenticatedGroup "/api/import" [("POST", "/link"), ("POST", "/save")] ++
  authenticatedGroup "/api/nodes"
    [("GET", "/"), ("GET", "/\x7btag\x7d"), ("PUT", "/\x7btag\x7d"), ("GET", "/groups"),
      ("GET", "/\x7btag\x7d/delay"), ("POST", "/test"), ("POST", "/test-batch"),
      ("GET", "/test-results"), ("POST", "/selectors/\x7bgroup\x7d/select"),
      ("POST", "/groups/\x7bgroup\x7d/urltest"), ("POST", "/sync-config"),
      ("DELETE", "/\x7btag\x7d")] ++
  authenticatedGroup "/api/subscriptions"
    [("GET", "/"), ("POST", "/"), ("GET", "/\x7bid\x7d"), ("PUT", "/\x7bid\x7d"),
      ("DELETE", "/\x7bid\x7d"), ("POST", "/\x7bid\x7d/refresh"), ("POST", "/refresh-all")] ++
  authenticatedGroup "/api/settings"
    [("GET", "/url-test"), ("PUT", "/url-test"), ("GET", "/urltest-defaults"),
      ("PUT", "/urltest-defaults"), ("GET", "/kernel-autostart"), ("PUT", "/kernel-autostart"),
      ("GET", "/jwt-secret"), ("PUT", "/jwt-secret"), ("GET", "/password"), ("PUT", "/password")] ++
  authenticatedGroup "/api/network" [("GET", "/interfaces")] ++
  authenticatedGroup "/api/runtime"
    [("GET", "/version"), ("GET", "/memory"), ("POST", "/gc"), ("POST", "/dns/flush"),
      ("POST", "/fakeip/flush")] ++
  [⟨"GET", "/*", false⟩]

theorem authenticated_of_api :
    ∀ route ∈ routes, "/api/".toList <+: route.pattern.toList → route ≠ loginRoute →
      route.authenticated = true := by decide

/-- `strings.SplitN` at a space, into two at most. -/
def splitSpace (s : List Char) : List (List Char) :=
  match s.dropWhile (· != ' ') with
  | [] => [s]
  | _ :: rest => [s.takeWhile (· != ' '), rest]

/-- The token of a request, empty where there is none. -/
def tokenStr (r : HTTPRequest) : String :=
  match splitSpace (r.header.get "Authorization").toList with
  | [scheme, token] => if equalFold (.ofList scheme) "bearer" then .ofList token else ""
  | _ => ""

def unauthorized (msg : String) : Response := writeJSONErrorCode 401 "unauthorized" (.text msg)

/-- What a request meets behind the middlewares, at the time at which it is served. The state is
that of the program apart from its log. The routes before the login and the static files change
nothing, and neither does a request that no route matches. -/
structure Application (σ : Type*) where
  encode : Response → List UInt8
  allowedOrigins : List String
  /-- The route that the router finds for a method and a path. -/
  dispatch : String → String → Option Route
  /-- At a time, a token verifies under the secret that is stored. -/
  valid : ℕ → σ → String → Bool
  login : ℕ → HTTPRequest → σ → σ × Execution
  /-- The answer may show the log, as that of `GetAppLogs` does. -/
  guarded : ℕ → Route → HTTPRequest → σ → σ × (List HTTPLogEntry → Execution)
  unguarded : ℕ → Option Route → HTTPRequest → σ → Execution

namespace Application

variable (app : Application σ)

def respond (response : Response) : Execution := ⟨envelopeCalls app.encode response, false⟩

def authMiddleware (now : ℕ) (next : HTTPRequest → σ → σ × Execution) (r : HTTPRequest) (s : σ) :
    σ × Execution :=
  if tokenStr r = "" then (s, app.respond (unauthorized "missing authorization"))
  else if app.valid now s (tokenStr r) = false then
    (s, app.respond (unauthorized "invalid or expired token"))
  else next r s

def router (now : ℕ) (log : List HTTPLogEntry) (r : HTTPRequest) (s : σ) : σ × Execution :=
  match app.dispatch r.method r.path with
  | none => (s, app.unguarded now none r s)
  | some route =>
    if route.authenticated then
      app.authMiddleware now (fun r s => (app.guarded now route r s).map id (· log)) r s
    else if route = loginRoute then app.login now r s
    else (s, app.unguarded now (some route) r s)

/-- The answer to a request at a time, with the log that the program keeps. -/
def answer (now : ℕ) (r : HTTPRequest) (s : σ × List HTTPLogEntry) :
    Option GoHTTP.Response × σ × List HTTPLogEntry :=
  serve (middlewares app.encode app.allowedOrigins (app.router now s.2)) r s

/-- A request is served at a time. -/
def step (s : σ × List HTTPLogEntry) (served : ℕ × HTTPRequest) : σ × List HTTPLogEntry :=
  (app.answer served.1 served.2 s).2

/-- A request with a token that is valid at the time. -/
def Authenticated (now : ℕ) (s : σ) (r : HTTPRequest) : Prop :=
  tokenStr r ≠ "" ∧ app.valid now s (tokenStr r) = true

/-- A request that is neither a login nor authenticated at the time. -/
def Outside (now : ℕ) (s : σ) (r : HTTPRequest) : Prop :=
  app.dispatch r.method r.path ≠ some loginRoute ∧ ¬app.Authenticated now s r

/-- What an outsider is told by a route that stands behind the authentication. -/
def refusal (r : HTTPRequest) : Execution :=
  app.respond (unauthorized
    (if tokenStr r = "" then "missing authorization" else "invalid or expired token"))

variable {app}

theorem authMiddleware_outside {now : ℕ} {next : HTTPRequest → σ → σ × Execution}
    {r : HTTPRequest} {s : σ} (h : ¬app.Authenticated now s r) :
    app.authMiddleware now next r s = (s, app.refusal r) := by
  unfold authMiddleware refusal
  by_cases htoken : tokenStr r = ""
  · rw [if_pos htoken, if_pos htoken]
  · have hvalid : app.valid now s (tokenStr r) = false :=
      Bool.eq_false_of_not_eq_true fun hvalid => h ⟨htoken, hvalid⟩
    rw [if_neg htoken, if_neg htoken, if_pos hvalid]

theorem router_outside {now : ℕ} {log : List HTTPLogEntry} {r : HTTPRequest} {s : σ}
    (h : app.Outside now s r) : (app.router now log r s).1 = s := by
  obtain ⟨hlogin, hvalid⟩ := h
  unfold router
  cases hroute : app.dispatch r.method r.path with
  | none => rfl
  | some route =>
    dsimp only
    rw [authMiddleware_outside hvalid]
    split_ifs with hauthenticated heq
    · rfl
    · exact absurd (hroute.trans (congrArg some heq)) hlogin
    · rfl

theorem router_guarded {now : ℕ} {log : List HTTPLogEntry} {r : HTTPRequest} {s : σ}
    {route : Route} (hroute : app.dispatch r.method r.path = some route)
    (hguarded : route.authenticated = true) (h : ¬app.Authenticated now s r) :
    app.router now log r s = (s, app.refusal r) := by
  unfold router
  rw [hroute]
  dsimp only
  rw [if_pos hguarded, authMiddleware_outside h]

/-- The log may show in an answer, and nowhere else. -/
theorem router_log (now : ℕ) (log log' : List HTTPLogEntry) (r : HTTPRequest) (s : σ) :
    (app.router now log r s).1 = (app.router now log' r s).1 := by
  unfold router
  cases app.dispatch r.method r.path with
  | none => rfl
  | some route =>
    unfold authMiddleware
    dsimp only
    split_ifs <;> rfl

theorem answer_options {r : HTTPRequest} (hr : r.method = "OPTIONS") (now : ℕ) (s : σ)
    (log : List HTTPLogEntry) : (app.answer now r (s, log)).2.1 = s :=
  congrArg (·.2.1) (serve_options app.encode app.allowedOrigins (app.router now log) hr s log)

theorem answer_other {r : HTTPRequest} (hr : r.method ≠ "OPTIONS") (now : ℕ) (s : σ)
    (log : List HTTPLogEntry) :
    let routed := app.router now log (maxBytes maxRequestBodyBytes r) s
    (app.answer now r (s, log)).1 =
        some (answered app.encode routed.2 (opened app.allowedOrigins r .new)) ∧
      (app.answer now r (s, log)).2.1 = routed.1 := by
  intro routed
  have hserve := serve_answered app.encode app.allowedOrigins (app.router now log) hr s log
  exact ⟨congrArg (·.1) hserve, congrArg (·.2.1) hserve⟩

theorem step_log (served : ℕ × HTTPRequest) (s : σ) (log log' : List HTTPLogEntry) :
    (app.step (s, log) served).1 = (app.step (s, log') served).1 := by
  obtain ⟨now, r⟩ := served
  by_cases hr : r.method = "OPTIONS"
  · exact (answer_options hr now s log).trans (answer_options hr now s log').symm
  · calc (app.step (s, log) (now, r)).1
        = (app.router now log (maxBytes maxRequestBodyBytes r) s).1 :=
          (answer_other hr now s log).2
      _ = (app.router now log' (maxBytes maxRequestBodyBytes r) s).1 := router_log _ _ _ _ _
      _ = (app.step (s, log') (now, r)).1 := (answer_other hr now s log').2.symm

theorem run_log (served : List (ℕ × HTTPRequest)) {s s' : σ × List HTTPLogEntry}
    (h : s.1 = s'.1) : (run app.step s served).1 = (run app.step s' served).1 := by
  induction served generalizing s s' with
  | nil => exact h
  | cons first rest ih =>
    apply ih
    obtain ⟨s, log⟩ := s
    obtain ⟨s', log'⟩ := s'
    obtain rfl : s = s' := h
    exact step_log first s log log'

theorem step_outside {now : ℕ} {r : HTTPRequest} {s : σ × List HTTPLogEntry}
    (h : app.Outside now s.1 r) : (app.step s (now, r)).1 = s.1 := by
  obtain ⟨s, log⟩ := s
  by_cases hr : r.method = "OPTIONS"
  · exact answer_options hr now s log
  · exact (answer_other hr now s log).2.trans
      (router_outside (r := maxBytes maxRequestBodyBytes r) h)

/-- The router dispatches to a route that is registered for the method. -/
def Registered (app : Application σ) : Prop :=
  ∀ method path route, app.dispatch method path = some route →
    route ∈ routes ∧ route.method = method

theorem method_ne_options : ∀ route ∈ routes, route.method ≠ "OPTIONS" := by decide

/-- Whatever comes before it and after it, the request of an outsider leaves the program, apart
from its log, as it would be without it, and a route of the API other than the login tells an
outsider nothing: the refusal is the same at every time, in every state and with every log with
which the token is not valid. -/
theorem outsider_confined (hregistered : app.Registered) (s : σ × List HTTPLogEntry)
    (before after : List (ℕ × HTTPRequest)) (now : ℕ) (r : HTTPRequest)
    (houtside : app.Outside now (run app.step s before).1 r) :
    (run app.step s (before ++ (now, r) :: after)).1 = (run app.step s (before ++ after)).1 ∧
      ∀ route, app.dispatch r.method r.path = some route →
        "/api/".toList <+: route.pattern.toList →
          ∃ answer : GoHTTP.Response, answer.sent.map Prod.fst = some 401 ∧
            ∀ now' s' log, ¬app.Authenticated now' s' r →
              (app.answer now' r (s', log)).1 = some answer := by
  constructor
  · rw [run_append, run_append, run_cons]
    exact run_log after (step_outside houtside)
  · intro route hroute hapi
    obtain ⟨hmem, hmethod⟩ := hregistered r.method r.path route hroute
    have hguarded : route.authenticated = true := by
      refine authenticated_of_api route hmem hapi fun heq => ?_
      exact houtside.1 (heq ▸ hroute)
    have hr : r.method ≠ "OPTIONS" := hmethod ▸ method_ne_options route hmem
    refine ⟨answered app.encode (app.refusal r) (opened app.allowedOrigins r .new), ?_, ?_⟩
    · obtain ⟨header, hfirst⟩ := opened_eq app.allowedOrigins r .new
      rw [hfirst]
      rfl
    · intro now' s' log hvalid
      have hrouted : app.router now' log (maxBytes maxRequestBodyBytes r) s' =
          (s', app.refusal r) :=
        router_guarded (r := maxBytes maxRequestBodyBytes r) hroute hguarded hvalid
      rw [(answer_other hr now' s' log).1, hrouted]

/-- The header that the interface sends with a token is read as that token. -/
theorem tokenStr_bearer {r : HTTPRequest} {token : String}
    (h : r.header.get "Authorization" = "Bearer " ++ token) : tokenStr r = token := by
  have hbearer : ("Bearer " ++ token).toList =
      'B' :: 'e' :: 'a' :: 'r' :: 'e' :: 'r' :: ' ' :: token.toList := String.toList_append
  have hsplit : splitSpace ("Bearer " ++ token).toList = ["Bearer".toList, token.toList] := by
    rw [hbearer]
    rfl
  have hfold : equalFold (String.ofList "Bearer".toList) "bearer" = true := by decide
  rw [tokenStr, h, hsplit]
  dsimp only
  rw [if_pos hfold, String.ofList_toList]

/-- A counter behind the token "t", valid up to time 100. The login raises it by one, a request
doubles it and is told how long the log is. -/
def counter : Application ℕ where
  encode _ := []
  allowedOrigins := []
  dispatch method path :=
    routes.find? fun route => route.method == method && route.pattern == path
  valid now _ token := token == "t" && decide (now ≤ 100)
  login _ _ s := (s + 1, ⟨[.writeHeader 200], false⟩)
  guarded _ _ _ s :=
    (2 * s, fun log => ⟨[.writeHeader 200, .write [UInt8.ofNat log.length]], false⟩)
  unguarded _ _ _ _ := ⟨[.writeHeader 404], false⟩

theorem counter_registered : counter.Registered := by
  intro method path route hroute
  have hfind : routes.find? (fun route => route.method == method && route.pattern == path) =
      some route := hroute
  refine ⟨List.mem_of_find?_eq_some hfind, ?_⟩
  have hfound := List.find?_some hfind
  rw [Bool.and_eq_true, beq_iff_eq] at hfound
  exact hfound.1

def loginRequest : HTTPRequest := ⟨"POST", "/api/auth/login", ∅, [], false⟩

def restartRequest : HTTPRequest :=
  ⟨"POST", "/api/service/restart", (∅ : Header).set "Authorization" "bearer t", [], false⟩

/-- A login, a restart, the same after the token has expired, and another login. -/
theorem outsider_confined_counter :
    (run counter.step (3, [])
      [(0, loginRequest), (99, restartRequest), (101, restartRequest), (102, loginRequest)]).1 =
      9 := by
  have houtside : counter.Outside 101
      (run counter.step (3, []) [(0, loginRequest), (99, restartRequest)]).1 restartRequest := by
    refine ⟨by decide, fun hauthenticated => ?_⟩
    have hexpired : counter.valid 101
        (run counter.step (3, []) [(0, loginRequest), (99, restartRequest)]).1
        (tokenStr restartRequest) = false := by decide
    exact Bool.false_ne_true (hexpired.symm.trans hauthenticated.2)
  exact (outsider_confined counter_registered (3, []) [(0, loginRequest), (99, restartRequest)]
    [(102, loginRequest)] 101 restartRequest houtside).1.trans (by decide)

end Application

end Boxui.API
