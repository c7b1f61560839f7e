import Boxui.Core.LogWriter
import Boxui.Library.GoSlices
import Mathlib.Data.List.Perm.Basic

/-! The log of the program itself. A handler writes a line to the output and hands it to the log
writer; the handlers derived from one share its output and the arrays of its attributes, and each
has a lock of its own. -/
namespace Boxui.API
open Boxui.Core GoSlices Machine

/-- An attribute with its value as text. -/
structure Attr where
  key : String
  value : String
  deriving DecidableEq

/-- `slog.Record`. -/
structure LogRecord where
  level : ℤ
  message : String
  attrs : List Attr

/-- `slog.Level.String`. -/
def levelText (level : ℤ) : String :=
  let text (base : String) (offset : ℤ) : String :=
    if offset = 0 then base
    else if offset < 0 then base ++ toString offset
    else base ++ "+" ++ toString offset
  if level < 0 then text "DEBUG" (level + 4)
  else if level < 4 then text "INFO" level
  else if level < 8 then text "WARN" (level - 4)
  else text "ERROR" (level - 8)

def levelFromSlog (level : ℤ) : String :=
  if 8 ≤ level then "error"
  else if 4 ≤ level then "warn"
  else if 0 ≤ level then "info"
  else "debug"

/-- `strings.TrimRight(line, "\n")`. -/
def trimNewlines (line : String) : String :=
  String.ofList (line.toList.rdropWhile (· == '\n'))

structure AppLogHandler where
  attrs : Slice
  level : ℤ

/-- The line of a record under the attributes of a handler. -/
def recordLine (attrs : List Attr) (r : LogRecord) : String :=
  levelText r.level ++ " " ++ r.message ++
    String.join (attrs.map fun a => " " ++ a.key ++ "=" ++ a.value) ++
    String.join (r.attrs.map fun a => " " ++ a.key ++ "=" ++ a.value) ++ "\n"

/-- What `Handle` gives to the log writer. -/
def appWrite (level : ℤ) (line : String) : LogWrite :=
  .app (levelFromSlog level) (trimNewlines line)

namespace AppLogHandler

def enabled (h : AppLogHandler) (level : ℤ) : Bool := h.level ≤ level

def formatRecord (heap : Heap Attr) (h : AppLogHandler) (r : LogRecord) : String :=
  recordLine (elems heap h.attrs) r

/-- The full slice expression leaves no room behind the attributes, so `append` moves them. -/
def withAttrs (spare : ℕ) (attrs : List Attr) (h : AppLogHandler) (heap : Heap Attr) :
    AppLogHandler × Heap Attr :=
  let appended := GoSlices.append ⟨"", ""⟩ spare h.attrs.clip attrs heap
  ({ h with attrs := appended.1 }, appended.2)

def withGroup (_name : String) (h : AppLogHandler) : AppLogHandler := h

end AppLogHandler

/-- `output` are the lines that were written, with the levels of their records, and `calls` the
entries of the calls of `Handle` between their line and the log writer, if there is one. -/
structure AppLog where
  heap : Heap Attr
  handlers : List AppLogHandler
  logger : Bool
  output : List (ℤ × String)
  calls : List LogWrite
  writer : LogWriter

inductive AppLogStep where
  | withAttrs (handler spare : ℕ) (attrs : List Attr)
  | withGroup (handler : ℕ) (name : String)
  | log (handler : ℕ) (r : LogRecord) (fails : Bool)
  | deliver (call : ℕ)
  | writer (label : LogStep)

def newAppLogHandler (level : ℤ) (logger : Bool) (maxBuf : ℕ) : AppLog :=
  ⟨[], [⟨.nil, level⟩], logger, [], [], newLogWriter maxBuf⟩

namespace AppLog

/-- `Handle`, up to the log writer. -/
def handle (h : AppLogHandler) (r : LogRecord) (fails : Bool) (s : AppLog) : AppLog :=
  let line := h.formatRecord s.heap r
  if fails then s
  else
    { s with
      output := s.output ++ [(r.level, line)]
      calls := if s.logger then s.calls ++ [appWrite r.level line] else s.calls }

/-- A panic in the log writer ends the process. -/
def step (s : AppLog) (label : AppLogStep) : AppLog :=
  if s.writer.panicked.isSome then s
  else
    match label with
    | .withAttrs i spare attrs =>
      match s.handlers[i]? with
      | some h =>
        let derived := h.withAttrs spare attrs s.heap
        { s with heap := derived.2, handlers := s.handlers ++ [derived.1] }
      | none => s
    | .withGroup i name =>
      match s.handlers[i]? with
      | some h => { s with handlers := s.handlers ++ [h.withGroup name] }
      | none => s
    | .log i r fails =>
      match s.handlers[i]? with
      -- a logger asks its handler first
      | some h => if h.enabled r.level then s.handle h r fails else s
      | none => s
    | .deliver i =>
      match s.calls[i]? with
      | some w => { s with writer := s.writer.step (.write w), calls := s.calls.eraseIdx i }
      | none => s
    | .writer label => { s with writer := s.writer.step label }

end AppLog

/-- Loggers that each own their attributes. -/
structure Loggers where
  attrs : List (List Attr)
  output : List (ℤ × String)

namespace Loggers

def root : Loggers := ⟨[[]], []⟩

def step (level : ℤ) (s : Loggers) : AppLogStep → Loggers
  | .withAttrs i _ attrs =>
    match s.attrs[i]? with
    | some own => { s with attrs := s.attrs ++ [own ++ attrs] }
    | none => s
  | .withGroup i _ =>
    match s.attrs[i]? with
    | some own => { s with attrs := s.attrs ++ [own] }
    | none => s
  | .log i r fails =>
    match s.attrs[i]? with
    | some own =>
      if level ≤ r.level ∧ fails = false then
        { s with output := s.output ++ [(r.level, recordLine own r)] }
      else s
    | none => s
  | _ => s

end Loggers

/-- The entry of a step of the log writer. -/
def entryOf : LogStep → Option LogEntry
  | .write w => some w.entry
  | _ => none

/-- The entries that do not come from a handler. -/
def otherEntry : AppLogStep → Option LogEntry
  | .writer label => entryOf label
  | _ => none

/-- A step of the log writer logs its own entry and no other. -/
theorem logged_step {s : LogWriter} (hpanic : s.panicked = none) (label : LogStep) :
    logged (s.step label) = logged s ++ (entryOf label).toList := by
  unfold LogWriter.step
  rw [hpanic, Option.isSome_none, if_neg Bool.false_ne_true]
  cases label with
  | write w => exact List.map_append
  | send call ch => exact ((send_history call ch s).2.2).trans (List.append_nil _).symm
  | subscribe => exact (List.append_nil _).symm
  | unsubscribe id =>
    dsimp only [entryOf]
    rw [Option.toList_none, List.append_nil]
    unfold LogWriter.unsubscribe
    split_ifs <;> rfl
  | receive ch => exact (List.append_nil _).symm

/-- What the loggers and the log hold after the steps `done`. -/
structure Follows (level : ℤ) (logger : Bool) (maxBuf : ℕ) (done : List AppLogStep)
    (s : AppLog) : Prop where
  valid : ∀ h ∈ s.handlers, h.attrs.Valid s.heap
  level_eq : ∀ h ∈ s.handlers, h.level = level
  attrs : s.handlers.map (fun h => elems s.heap h.attrs) =
    (run (Loggers.step level) Loggers.root done).attrs
  output : s.output = (run (Loggers.step level) Loggers.root done).output
  logger_eq : s.logger = logger
  entries : ∀ e, (logged s.writer).count e + (s.calls.map LogWrite.entry).count e =
    (done.filterMap otherEntry).count e +
      (if logger then s.output.map fun p => (appWrite p.1 p.2).entry else []).count e
  log : KeepsLog maxBuf s.writer

variable {level : ℤ} {logger : Bool} {maxBuf : ℕ} {done : List AppLogStep} {s : AppLog}

theorem loggers_concat (level : ℤ) (done : List AppLogStep) (label : AppLogStep) :
    run (Loggers.step level) Loggers.root (done ++ [label]) =
      (run (Loggers.step level) Loggers.root done).step level label :=
  run_append _ _ _

theorem otherEntries_concat (done : List AppLogStep) (label : AppLogStep) :
    (done ++ [label]).filterMap otherEntry =
      done.filterMap otherEntry ++ (otherEntry label).toList := by
  rw [List.filterMap_append]
  cases hentry : otherEntry label with
  | none => rw [List.filterMap_cons_none hentry, List.filterMap_nil, Option.toList_none]
  | some e => rw [List.filterMap_cons_some hentry, List.filterMap_nil, Option.toList_some]

namespace Follows

theorem own (hs : Follows level logger maxBuf done s) (i : ℕ) :
    (run (Loggers.step level) Loggers.root done).attrs[i]? =
      s.handlers[i]?.map fun h => elems s.heap h.attrs := by
  rw [← hs.attrs, List.getElem?_map]

/-- A step without an effect on either side. -/
theorem idle (hs : Follows level logger maxBuf done s) {label : AppLogStep}
    (hother : otherEntry label = none)
    (hspec : (run (Loggers.step level) Loggers.root done).step level label =
      run (Loggers.step level) Loggers.root done) :
    Follows level logger maxBuf (done ++ [label]) s where
  valid := hs.valid
  level_eq := hs.level_eq
  attrs := by rw [loggers_concat, hspec, hs.attrs]
  output := by rw [loggers_concat, hspec, hs.output]
  logger_eq := hs.logger_eq
  entries e := by
    rw [otherEntries_concat, hother, Option.toList_none, List.append_nil]
    exact hs.entries e
  log := hs.log

/-- A new handler, with new arrays at most, leaves the attributes of the others as they are. -/
theorem derive (hs : Follows level logger maxBuf done s) {label : AppLogStep}
    {derived : AppLogHandler} {heap : Heap Attr} (hheap : s.heap <+: heap)
    (hvalid : derived.attrs.Valid heap) (hlevel : derived.level = level)
    (hother : otherEntry label = none)
    (hspec : (run (Loggers.step level) Loggers.root done).step level label =
      { run (Loggers.step level) Loggers.root done with
        attrs := (run (Loggers.step level) Loggers.root done).attrs ++
          [elems heap derived.attrs] }) :
    Follows level logger maxBuf (done ++ [label])
      { s with heap := heap, handlers := s.handlers ++ [derived] } where
  valid := List.forall_mem_append.mpr
    ⟨fun h hh => ((hs.valid h hh).grow hheap).1, List.forall_mem_singleton.mpr hvalid⟩
  level_eq := List.forall_mem_append.mpr ⟨hs.level_eq, List.forall_mem_singleton.mpr hlevel⟩
  attrs := by
    have hkept : s.handlers.map (fun h => elems heap h.attrs) =
        s.handlers.map fun h => elems s.heap h.attrs :=
      List.map_congr_left fun h hh => ((hs.valid h hh).grow hheap).2
    rw [loggers_concat, hspec, List.map_append, hkept, hs.attrs]
    rfl
  output := by
    rw [loggers_concat, hspec]
    exact hs.output
  logger_eq := hs.logger_eq
  entries e := by
    rw [otherEntries_concat, hother, Option.toList_none, List.append_nil]
    exact hs.entries e
  log := hs.log

theorem withAttrs (hs : Follows level logger maxBuf done s) {i : ℕ} {h : AppLogHandler}
    (hi : s.handlers[i]? = some h) (spare : ℕ) (attrs : List Attr) :
    Follows level logger maxBuf (done ++ [.withAttrs i spare attrs])
      { s with
        heap := (h.withAttrs spare attrs s.heap).2
        handlers := s.handlers ++ [(h.withAttrs spare attrs s.heap).1] } := by
  have hmem := List.mem_of_getElem? hi
  obtain ⟨hvalid, helems⟩ := elems_append (⟨"", ""⟩ : Attr) spare (hs.valid h hmem).clip attrs
  refine hs.derive ?_ hvalid (hs.level_eq h hmem) rfl ?_
  · exact append_clip _ spare s.heap h.attrs attrs
  · have hown := hs.own i
    rw [hi, Option.map_some] at hown
    simp only [Loggers.step, hown]
    rw [AppLogHandler.withAttrs, helems, elems_clip]

theorem withGroup (hs : Follows level logger maxBuf done s) {i : ℕ} {h : AppLogHandler}
    (hi : s.handlers[i]? = some h) (name : String) :
    Follows level logger maxBuf (done ++ [.withGroup i name])
      { s with handlers := s.handlers ++ [h.withGroup name] } := by
  have hmem := List.mem_of_getElem? hi
  apply hs.derive (List.prefix_refl s.heap) (hs.valid h hmem) (hs.level_eq h hmem) rfl
  have hown := hs.own i
  rw [hi, Option.map_some] at hown
  simp only [Loggers.step, hown]

theorem handle (hs : Follows level logger maxBuf done s) {i : ℕ} {h : AppLogHandler}
    (hi : s.handlers[i]? = some h) (r : LogRecord) (fails : Bool) (hlevel : level ≤ r.level) :
    Follows level logger maxBuf (done ++ [.log i r fails]) (s.handle h r fails) := by
  have hown := hs.own i
  rw [hi, Option.map_some] at hown
  cases fails with
  | true =>
    apply hs.idle rfl
    simp only [Loggers.step, hown, Bool.true_eq_false, and_false, if_false]
  | false =>
    have hspec : (run (Loggers.step level) Loggers.root done).step level (.log i r false) =
        { run (Loggers.step level) Loggers.root done with
          output := (run (Loggers.step level) Loggers.root done).output ++
            [(r.level, recordLine (elems s.heap h.attrs) r)] } := by
      simp only [Loggers.step, hown, hlevel, and_self, if_true]
    exact
      { valid := hs.valid
        level_eq := hs.level_eq
        attrs := by
          rw [loggers_concat, hspec]
          exact hs.attrs
        output := by
          rw [loggers_concat, hspec, ← hs.output]
          rfl
        logger_eq := hs.logger_eq
        entries := fun e => by
          have hentries := hs.entries e
          obtain rfl := hs.logger_eq
          rw [otherEntries_concat]
          cases hlogger : s.logger with
          | true =>
            simp only [AppLog.handle, hlogger, Bool.false_eq_true, if_false, if_true,
              List.map_append, List.count_append, otherEntry, Option.toList_none,
              List.count_nil, List.map_cons, List.map_nil] at hentries ⊢
            omega
          | false =>
            simp only [AppLog.handle, hlogger, Bool.false_eq_true, if_false, List.count_append,
              otherEntry, Option.toList_none, List.count_nil] at hentries ⊢
            omega
        log := hs.log }

/-- A call that reaches the log writer is not open any more. -/
theorem deliver (hs : Follows level logger maxBuf done s) (hpanic : s.writer.panicked = none)
    {i : ℕ} {w : LogWrite} (hi : s.calls[i]? = some w) :
    Follows level logger maxBuf (done ++ [.deliver i])
      { s with writer := s.writer.step (.write w), calls := s.calls.eraseIdx i } where
  valid := hs.valid
  level_eq := hs.level_eq
  attrs := by
    rw [loggers_concat]
    exact hs.attrs
  output := by
    rw [loggers_concat]
    exact hs.output
  logger_eq := hs.logger_eq
  entries e := by
    obtain ⟨hbound, rfl⟩ := List.getElem?_eq_some_iff.mp hi
    have hentries := hs.entries e
    have hcalls := ((List.getElem_cons_eraseIdx_perm hbound).map LogWrite.entry).count_eq e
    rw [otherEntries_concat, logged_step hpanic]
    simp only [entryOf, otherEntry, Option.toList_some, Option.toList_none, List.append_nil,
      List.count_append, List.map_cons] at hcalls ⊢
    rw [List.count_cons, ← List.count_singleton] at hcalls
    omega
  log := hs.log.step (.write w)

theorem writer (hs : Follows level logger maxBuf done s) (hpanic : s.writer.panicked = none)
    (label : LogStep) :
    Follows level logger maxBuf (done ++ [.writer label])
      { s with writer := s.writer.step label } where
  valid := hs.valid
  level_eq := hs.level_eq
  attrs := by
    rw [loggers_concat]
    exact hs.attrs
  output := by
    rw [loggers_concat]
    exact hs.output
  logger_eq := hs.logger_eq
  entries e := by
    have hentries := hs.entries e
    rw [otherEntries_concat, logged_step hpanic, List.count_append, List.count_append]
    simp only [otherEntry]
    omega
  log := hs.log.step label

theorem step (hs : Follows level logger maxBuf done s) (hpanic : s.writer.panicked = none)
    (label : AppLogStep) : Follows level logger maxBuf (done ++ [label]) (s.step label) := by
  unfold AppLog.step
  rw [hpanic, Option.isSome_none, if_neg Bool.false_ne_true]
  cases label with
  | withAttrs i spare attrs =>
    dsimp only
    cases hi : s.handlers[i]? with
    | some h => exact hs.withAttrs hi spare attrs
    | none =>
      apply hs.idle rfl
      simp only [Loggers.step, hs.own, hi, Option.map_none]
  | withGroup i name =>
    dsimp only
    cases hi : s.handlers[i]? with
    | some h => exact hs.withGroup hi name
    | none =>
      apply hs.idle rfl
      simp only [Loggers.step, hs.own, hi, Option.map_none]
  | log i r fails =>
    dsimp only
    cases hi : s.handlers[i]? with
    | some h =>
      have hlevel := hs.level_eq h (List.mem_of_getElem? hi)
      dsimp only
      rw [AppLogHandler.enabled, hlevel]
      by_cases hr : level ≤ r.level
      · rw [decide_eq_true hr, if_pos rfl]
        exact hs.handle hi r fails hr
      · rw [decide_eq_false hr, if_neg Bool.false_ne_true]
        apply hs.idle rfl
        simp only [Loggers.step, hs.own, hi, Option.map_some, hr, false_and, if_false]
    | none =>
      apply hs.idle rfl
      simp only [Loggers.step, hs.own, hi, Option.map_none]
  | deliver i =>
    dsimp only
    cases hi : s.calls[i]? with
    | some w => exact hs.deliver hpanic hi
    | none => exact hs.idle rfl rfl
  | writer label => exact hs.writer hpanic label

end Follows

theorem follows_newAppLogHandler (level : ℤ) (logger : Bool) (maxBuf : ℕ) :
    Follows level logger maxBuf [] (newAppLogHandler level logger maxBuf) where
  valid := List.forall_mem_singleton.mpr (valid_nil [])
  level_eq := List.forall_mem_singleton.mpr rfl
  attrs := congrArg (fun attrs => [attrs]) (elems_nil [])
  output := rfl
  logger_eq := rfl
  entries e := by cases logger <;> rfl
  log := keepsLog_run maxBuf []

theorem run_panicked {p : LogPanic} (hpanic : s.writer.panicked = some p)
    (labels : List AppLogStep) : run AppLog.step s labels = s := by
  apply run_invariant (P := fun s' => s' = s) _ rfl labels
  rintro s' label rfl
  rw [AppLog.step.eq_def, hpanic]
  rfl

/-- Up to a panic, a run follows all its steps. -/
theorem follows_run {labels : List AppLogStep} (hs : Follows level logger maxBuf done s) :
    ∃ more, more <+: labels ∧
      ((run AppLog.step s labels).writer.panicked = none → more = labels) ∧
      Follows level logger maxBuf (done ++ more) (run AppLog.step s labels) := by
  induction labels generalizing done s with
  | nil => exact ⟨[], List.prefix_refl [], fun _ => rfl, by rwa [List.append_nil]⟩
  | cons label labels ih =>
    cases hpanic : s.writer.panicked with
    | some p =>
      rw [run_panicked hpanic, hpanic]
      refine ⟨[], List.nil_prefix, nofun, ?_⟩
      rwa [List.append_nil]
    | none =>
      obtain ⟨more, hmore, hall, hfollows⟩ := ih (hs.step hpanic label)
      refine ⟨label :: more, List.cons_prefix_cons.mpr ⟨rfl, hmore⟩, fun h => ?_, ?_⟩
      · rw [hall h]
      · rwa [List.append_assoc] at hfollows

/-- The handlers log as if each owned its attributes: up to the panic that ends a run, if one
does, the attributes of each are those it was derived with, whatever was derived from the same
handler, and the output has the line of every record that its handler was enabled for and the
output took, in order. The log writer has received each of these once or still will, beside the
entries of others, and nothing else, and shows the last of what it has. -/
theorem appLog_follows (level : ℤ) (logger : Bool) (maxBuf : ℕ) (labels : List AppLogStep) :
    let s := run AppLog.step (newAppLogHandler level logger maxBuf) labels
    ∃ done, done <+: labels ∧ (s.writer.panicked = none → done = labels) ∧
      let loggers := run (Loggers.step level) Loggers.root done
      (∀ (i : ℕ) (r : LogRecord), (s.handlers[i]?.map fun h => h.formatRecord s.heap r) =
        loggers.attrs[i]?.map fun own => recordLine own r) ∧
      s.output = loggers.output ∧
      (logged s.writer ++ s.calls.map LogWrite.entry).Perm (done.filterMap otherEntry ++
        if logger then s.output.map fun p => (appWrite p.1 p.2).entry else []) ∧
      s.writer.recent = (logged s.writer).rtake maxBuf := by
  intro s
  obtain ⟨done, hdone, hall, hs⟩ : ∃ done, done <+: labels ∧
      (s.writer.panicked = none → done = labels) ∧ Follows level logger maxBuf ([] ++ done) s :=
    follows_run (follows_newAppLogHandler level logger maxBuf)
  rw [List.nil_append] at hs
  refine ⟨done, hdone, hall, fun i r => ?_, hs.output, ?_, hs.log.buffer_eq⟩
  · rw [hs.own, Option.map_map]
    rfl
  · rw [List.perm_iff_count]
    intro e
    rw [List.count_append, List.count_append]
    exact hs.entries e

end Boxui.API
