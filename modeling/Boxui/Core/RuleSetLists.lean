import Boxui.Core.RuleSetUpdate
import Boxui.Library.LineScanner
import Mathlib.Data.List.Nodup
import Mathlib.Data.List.Sort

/-! The conversion of a downloaded list into a rule-set. -/
namespace Boxui.Core
open GoStrings LineScanner

structure SourceRule where
  domain : List (List UInt8)
  domainSuffix : List (List UInt8)
  domainKeyword : List (List UInt8)
  domainRegex : List (List UInt8)
  deriving DecidableEq

structure SourceRuleSetFile where
  version : UInt8
  rules : List SourceRule
  deriving DecidableEq

/-- The body of a response: its bytes, whether its end is reported together with the last of them,
and how reading it ends otherwise. -/
structure ListBody where
  text : List UInt8
  endsWithData : Bool
  readError : Option String

/-- How the calls of a download turn out. A response is its status code and its body. -/
structure DownloadOutcome where
  request : Option String
  response : Except String (Nat × ListBody)

/-- Sorted, and without the empty and the repeated strings. -/
def uniqueStrings (values : List (List UInt8)) : List (List UInt8) :=
  (values.foldl (fun out value => if value = [] ∨ value ∈ out then out else out ++ [value])
    []).mergeSort fun s t => decide (s ≤ t)

/-- `strings.TrimSpace(strings.TrimPrefix(line, prefix))`. -/
def afterPrefix (start : String) (line : List UInt8) : List UInt8 :=
  trimSpaceBytes (line.drop (bytes start).length)

/-- One turn of the loop over the lines. -/
def SourceRule.addLine (rule : SourceRule) (text : List UInt8) : SourceRule :=
  let line := trimSpaceBytes text
  if line = [] ∨ bytes "#" <+: line then rule
  else if bytes "full:" <+: line then
    { rule with domain := rule.domain ++ [afterPrefix "full:" line] }
  else if bytes "keyword:" <+: line then
    { rule with domainKeyword := rule.domainKeyword ++ [afterPrefix "keyword:" line] }
  else if bytes "regexp:" <+: line then
    { rule with domainRegex := rule.domainRegex ++ [afterPrefix "regexp:" line] }
  else if bytes "domain:" <+: line then
    { rule with domainSuffix := rule.domainSuffix ++ [afterPrefix "domain:" line] }
  else { rule with domainSuffix := rule.domainSuffix ++ [line] }

def SourceRule.unique (rule : SourceRule) : SourceRule where
  domain := uniqueStrings rule.domain
  domainSuffix := uniqueStrings rule.domainSuffix
  domainKeyword := uniqueStrings rule.domainKeyword
  domainRegex := uniqueStrings rule.domainRegex

def SourceRule.isEmpty (rule : SourceRule) : Bool :=
  rule.domain.isEmpty && rule.domainSuffix.isEmpty && rule.domainKeyword.isEmpty &&
    rule.domainRegex.isEmpty

/-- `scanner.Err`: a line that is too long, or a failure to read. -/
def ListBody.scanError (body : ListBody) : Option String :=
  if tooLong body.endsWithData body.text then some "bufio.Scanner: token too long"
  else body.readError

/-- The rule of all lines. -/
def ListBody.rule (body : ListBody) : SourceRule :=
  ((scanLines body.text).foldl SourceRule.addLine ⟨[], [], [], []⟩).unique

/-- `version` is the current version of the rule-set format. -/
def fetchAndConvert (version : UInt8) (src : RuleSetSource) (o : DownloadOutcome) :
    Except String SourceRuleSetFile :=
  match o.request, o.response with
  | some err, _ => .error ("build request " ++ src.tag ++ ": " ++ err)
  | none, .error err => .error ("download " ++ src.tag ++ ": " ++ err)
  | none, .ok (statusCode, body) =>
    if statusCode ≠ 200 then
      .error ("download " ++ src.tag ++ ": unexpected status " ++ toString statusCode)
    else
      match body.scanError with
      | some err => .error ("read " ++ src.tag ++ ": " ++ err)
      | none =>
        if body.rule.isEmpty then
          .error ("source " ++ src.tag ++ " produced no valid rules")
        else .ok ⟨version, [body.rule]⟩

theorem mem_unique_loop (values out : List (List UInt8)) (s : List UInt8) :
    s ∈ values.foldl (fun out value => if value = [] ∨ value ∈ out then out else out ++ [value])
        out ↔ s ∈ out ∨ s ≠ [] ∧ s ∈ values := by
  induction values generalizing out with
  | nil => simp
  | cons value values ih =>
    rw [List.foldl_cons, ih]
    split_ifs with hskip
    · rcases hskip with rfl | hmem
      · by_cases hs : s = [] <;> simp [hs]
      · constructor
        · rintro (h | ⟨hne, h⟩)
          · exact .inl h
          · exact .inr ⟨hne, List.mem_cons_of_mem value h⟩
        · rintro (h | ⟨hne, h⟩)
          · exact .inl h
          · rcases List.mem_cons.mp h with rfl | h
            · exact .inl hmem
            · exact .inr ⟨hne, h⟩
    · have hvalue : value ≠ [] := fun h => hskip (.inl h)
      rw [List.mem_append, List.mem_singleton, List.mem_cons]
      constructor
      · rintro ((h | rfl) | ⟨hne, h⟩)
        · exact .inl h
        · exact .inr ⟨hvalue, .inl rfl⟩
        · exact .inr ⟨hne, .inr h⟩
      · rintro (h | ⟨hne, rfl | h⟩)
        · exact .inl (.inl h)
        · exact .inl (.inr rfl)
        · exact .inr ⟨hne, h⟩

theorem nodup_unique_loop (values : List (List UInt8)) {out : List (List UInt8)}
    (hout : out.Nodup) :
    (values.foldl (fun out value => if value = [] ∨ value ∈ out then out else out ++ [value])
      out).Nodup := by
  induction values generalizing out with
  | nil => exact hout
  | cons value values ih =>
    rw [List.foldl_cons]
    split_ifs with hskip
    · exact ih hout
    · have hnew : value ∉ out := fun h => hskip (.inr h)
      refine ih (List.nodup_append'.mpr ⟨hout, List.nodup_singleton value, ?_⟩)
      simpa using hnew

theorem mem_uniqueStrings {values : List (List UInt8)} {s : List UInt8} :
    s ∈ uniqueStrings values ↔ s ≠ [] ∧ s ∈ values := by
  rw [uniqueStrings, (List.mergeSort_perm _ _).mem_iff, mem_unique_loop]
  simp

theorem pairwise_uniqueStrings (values : List (List UInt8)) :
    (uniqueStrings values).Pairwise (· < ·) := by
  have hle : (uniqueStrings values).Pairwise (· ≤ ·) := by
    have h : (uniqueStrings values).Pairwise fun s t => decide (s ≤ t) = true := by
      apply List.pairwise_mergeSort
      · intro a b c hab hbc
        rw [decide_eq_true_eq] at hab hbc ⊢
        exact List.le_trans hab hbc
      · intro a b
        rw [Bool.or_eq_true, decide_eq_true_eq, decide_eq_true_eq]
        exact List.le_total a b
    exact h.imp fun hab => of_decide_eq_true hab
  have hnodup : (uniqueStrings values).Nodup :=
    (List.mergeSort_perm _ _).nodup_iff.mpr (nodup_unique_loop values List.nodup_nil)
  refine (hle.and hnodup).imp ?_
  rintro a b ⟨hab, hne⟩
  by_contra hlt
  exact hne (List.le_antisymm hab (List.not_lt.mp hlt))

inductive RuleKind where
  | domain
  | suffix
  | keyword
  | regex
  deriving DecidableEq

/-- The prefix of the lines of a kind. -/
def RuleKind.start : RuleKind → List UInt8
  | .domain => bytes "full:"
  | .suffix => bytes "domain:"
  | .keyword => bytes "keyword:"
  | .regex => bytes "regexp:"

namespace SourceRule

def list (rule : SourceRule) : RuleKind → List (List UInt8)
  | .domain => rule.domain
  | .suffix => rule.domainSuffix
  | .keyword => rule.domainKeyword
  | .regex => rule.domainRegex

def push (rule : SourceRule) (s : List UInt8) : RuleKind → SourceRule
  | .domain => { rule with domain := rule.domain ++ [s] }
  | .suffix => { rule with domainSuffix := rule.domainSuffix ++ [s] }
  | .keyword => { rule with domainKeyword := rule.domainKeyword ++ [s] }
  | .regex => { rule with domainRegex := rule.domainRegex ++ [s] }

theorem list_push (rule : SourceRule) (s : List UInt8) (kind kind' : RuleKind) :
    (rule.push s kind).list kind' =
      rule.list kind' ++ if kind = kind' then [s] else [] := by
  cases kind <;> cases kind' <;> simp [push, list]

theorem list_unique (rule : SourceRule) (kind : RuleKind) :
    rule.unique.list kind = uniqueStrings (rule.list kind) := by
  cases kind <;> rfl

theorem isEmpty_iff (rule : SourceRule) : rule.isEmpty = true ↔ ∀ kind, rule.list kind = [] := by
  constructor
  · intro h kind
    simp only [isEmpty, Bool.and_eq_true, List.isEmpty_iff] at h
    cases kind <;> simp [list, h]
  · intro h
    simp only [isEmpty, Bool.and_eq_true, List.isEmpty_iff]
    exact ⟨⟨⟨h .domain, h .suffix⟩, h .keyword⟩, h .regex⟩

end SourceRule

/-- No line starts like two kinds, nor like a kind and a comment. -/
theorem start_unique {kind kind' : RuleKind} {line : List UInt8} (h : kind.start <+: line)
    (h' : kind'.start <+: line) : kind = kind' := by
  rcases List.prefix_or_prefix_of_prefix h h' with hpre | hpre <;>
    cases kind <;> cases kind' <;> first | rfl | exact absurd hpre (by decide)

theorem not_comment_of_start {kind : RuleKind} {line : List UInt8} (h : kind.start <+: line) :
    ¬bytes "#" <+: line := by
  intro h'
  rcases List.prefix_or_prefix_of_prefix h h' with hpre | hpre <;>
    cases kind <;> exact absurd hpre (by decide)

theorem start_ne_nil (kind : RuleKind) : kind.start ≠ [] := by
  cases kind <;> decide

/-- A line without a prefix, a comment apart. -/
structure Bare (line : List UInt8) : Prop where
  nonempty : line ≠ []
  comment : ¬bytes "#" <+: line
  start : ∀ kind : RuleKind, ¬kind.start <+: line

/-- A line is the prefix of the kind, space, and a string that does not start with space; or a
suffix without a prefix. -/
def Lists (kind : RuleKind) (line s : List UInt8) : Prop :=
  (∃ space, Spells spaceEncodings space ∧ line = kind.start ++ (space ++ s) ∧
    Unstarted spaceEncodings s) ∨ kind = .suffix ∧ Bare line ∧ line = s

namespace SourceRule

theorem addLine_eq (rule : SourceRule) (text : List UInt8) :
    rule.addLine text =
      let line := trimSpaceBytes text
      let rest (kind : RuleKind) := trimSpaceBytes (line.drop kind.start.length)
      if line = [] ∨ bytes "#" <+: line then rule
      else if RuleKind.domain.start <+: line then rule.push (rest .domain) .domain
      else if RuleKind.keyword.start <+: line then rule.push (rest .keyword) .keyword
      else if RuleKind.regex.start <+: line then rule.push (rest .regex) .regex
      else if RuleKind.suffix.start <+: line then rule.push (rest .suffix) .suffix
      else rule.push line .suffix := rfl

theorem addLine_of_start {rule : SourceRule} {kind : RuleKind} {text : List UInt8}
    (h : kind.start <+: trimSpaceBytes text) :
    rule.addLine text =
      rule.push (trimSpaceBytes ((trimSpaceBytes text).drop kind.start.length)) kind := by
  have hskip : ¬(trimSpaceBytes text = [] ∨ bytes "#" <+: trimSpaceBytes text) := by
    rintro (hnil | hcomment)
    · rw [hnil] at h
      exact start_ne_nil kind (List.prefix_nil.mp h)
    · exact not_comment_of_start h hcomment
  have hother (kind' : RuleKind) (hne : kind' ≠ kind) : ¬kind'.start <+: trimSpaceBytes text :=
    fun h' => hne (start_unique h' h)
  rw [addLine_eq]
  dsimp only
  rw [if_neg hskip]
  cases kind with
  | domain => rw [if_pos h]
  | keyword => rw [if_neg (hother .domain (by decide)), if_pos h]
  | regex =>
    rw [if_neg (hother .domain (by decide)), if_neg (hother .keyword (by decide)), if_pos h]
  | suffix =>
    rw [if_neg (hother .domain (by decide)), if_neg (hother .keyword (by decide)),
      if_neg (hother .regex (by decide)), if_pos h]

theorem addLine_of_bare {rule : SourceRule} {text : List UInt8}
    (h : Bare (trimSpaceBytes text)) :
    rule.addLine text = rule.push (trimSpaceBytes text) .suffix := by
  rw [addLine_eq]
  dsimp only
  rw [if_neg (not_or.mpr ⟨h.nonempty, h.comment⟩), if_neg (h.start .domain),
    if_neg (h.start .keyword), if_neg (h.start .regex), if_neg (h.start .suffix)]

/-- What a line adds to a list. -/
theorem mem_addLine {rule : SourceRule} {text s : List UInt8} {kind : RuleKind} (hs : s ≠ []) :
    s ∈ (rule.addLine text).list kind ↔
      s ∈ rule.list kind ∨ Lists kind (trimSpaceBytes text) s := by
  by_cases hstart : ∃ kind' : RuleKind, kind'.start <+: trimSpaceBytes text
  · obtain ⟨kind', hpre⟩ := hstart
    obtain ⟨rest, hrest⟩ := hpre
    have htrim : Trimmed (kind'.start ++ rest) := hrest ▸ trimmed_trimSpaceBytes text
    rw [addLine_of_start ⟨rest, hrest⟩, list_push, ← hrest, List.drop_left, List.mem_append]
    apply or_congr_right
    constructor
    · intro h
      split_ifs at h with heq
      · subst heq
        obtain ⟨space, hspace, hsplit, hunstarted⟩ :=
          (trimSpaceBytes_eq_iff htrim).mp (List.mem_singleton.mp h).symm
        exact .inl ⟨space, hspace, by rw [hsplit], hunstarted⟩
      · cases h
    · rintro (⟨space, hspace, hline, hunstarted⟩ | ⟨-, hbare, -⟩)
      · obtain rfl : kind' = kind := start_unique (List.prefix_append _ rest)
          (hline ▸ List.prefix_append _ _)
        rw [if_pos rfl, List.mem_singleton]
        exact ((trimSpaceBytes_eq_iff htrim).mpr
          ⟨space, hspace, List.append_cancel_left hline, hunstarted⟩).symm
      · exact absurd (List.prefix_append _ rest) (hbare.start kind')
  · by_cases hbare : Bare (trimSpaceBytes text)
    · rw [addLine_of_bare hbare, list_push, List.mem_append]
      apply or_congr_right
      constructor
      · intro h
        split_ifs at h with heq
        · exact .inr ⟨heq.symm, hbare, (List.mem_singleton.mp h).symm⟩
        · cases h
      · rintro (⟨space, -, hline, -⟩ | ⟨rfl, -, rfl⟩)
        · exact absurd ⟨kind, hline ▸ List.prefix_append _ _⟩ hstart
        · simp
    · have hskip : rule.addLine text = rule := by
        have hskipped : trimSpaceBytes text = [] ∨ bytes "#" <+: trimSpaceBytes text := by
          by_contra hnot
          obtain ⟨hne, hcomment⟩ := not_or.mp hnot
          exact hbare ⟨hne, hcomment, not_exists.mp hstart⟩
        exact if_pos hskipped
      rw [hskip]
      constructor
      · exact .inl
      · rintro (h | ⟨space, -, hline, -⟩ | ⟨-, hbare', -⟩)
        · exact h
        · exact absurd ⟨kind, hline ▸ List.prefix_append _ _⟩ hstart
        · exact absurd hbare' hbare

theorem mem_addLines {lines : List (List UInt8)} {rule : SourceRule} {s : List UInt8}
    {kind : RuleKind} (hs : s ≠ []) :
    s ∈ (lines.foldl addLine rule).list kind ↔
      s ∈ rule.list kind ∨ ∃ text ∈ lines, Lists kind (trimSpaceBytes text) s := by
  induction lines generalizing rule with
  | nil => simp
  | cons text lines ih =>
    rw [List.foldl_cons, ih, mem_addLine hs]
    simp only [List.exists_mem_cons_iff, or_assoc]

end SourceRule

/-- The lines of a text that are neither blank nor comments, trimmed. -/
def ruleLines (text : List UInt8) : List (List UInt8) :=
  ((scanLines text).map trimSpaceBytes).filter fun line => line ≠ [] ∧ ¬bytes "#" <+: line

/-- A rule line lists a string under a kind. -/
def Given (text : List UInt8) (kind : RuleKind) (s : List UInt8) : Prop :=
  s ≠ [] ∧ ∃ line ∈ ruleLines text, Lists kind line s

theorem Lists.isRule {kind : RuleKind} {line s : List UInt8} (h : Lists kind line s) :
    line ≠ [] ∧ ¬bytes "#" <+: line := by
  rcases h with ⟨space, -, rfl, -⟩ | ⟨-, hbare, -⟩
  · refine ⟨?_, not_comment_of_start (List.prefix_append _ _)⟩
    intro hnil
    exact start_ne_nil kind (List.append_eq_nil_iff.mp hnil).1
  · exact ⟨hbare.nonempty, hbare.comment⟩

theorem mem_rule_list {body : ListBody} {kind : RuleKind} {s : List UInt8} :
    s ∈ body.rule.list kind ↔ Given body.text kind s := by
  rw [ListBody.rule, SourceRule.list_unique, mem_uniqueStrings]
  apply and_congr_right
  intro hs
  rw [SourceRule.mem_addLines hs]
  constructor
  · rintro (h | ⟨text, htext, h⟩)
    · cases kind <;> cases h
    · exact ⟨trimSpaceBytes text, List.mem_filter.mpr ⟨List.mem_map_of_mem htext,
        decide_eq_true h.isRule⟩, h⟩
  · rintro ⟨line, hline, h⟩
    obtain ⟨text, htext, rfl⟩ := List.mem_map.mp (List.mem_of_mem_filter hline)
    exact .inr ⟨text, htext, h⟩

theorem pairwise_rule_list (body : ListBody) (kind : RuleKind) :
    (body.rule.list kind).Pairwise (· < ·) := by
  rw [ListBody.rule, SourceRule.list_unique]
  exact pairwise_uniqueStrings _

theorem SourceRule.ext_list {rule rule' : SourceRule}
    (h : ∀ kind, rule.list kind = rule'.list kind) : rule = rule' := by
  cases rule
  cases rule'
  obtain rfl := h .domain
  obtain rfl := h .suffix
  obtain rfl := h .keyword
  obtain rfl := h .regex
  rfl

/-- The rule is a function of the set of rule lines. -/
theorem rule_congr {body body' : ListBody}
    (h : ∀ line, line ∈ ruleLines body.text ↔ line ∈ ruleLines body'.text) :
    body.rule = body'.rule := by
  apply SourceRule.ext_list
  intro kind
  apply (pairwise_rule_list body kind).eq_of_mem_iff (pairwise_rule_list body' kind)
  intro s
  rw [mem_rule_list, mem_rule_list]
  simp only [Given, h]

theorem rule_isEmpty_iff (body : ListBody) :
    body.rule.isEmpty = true ↔ ∀ kind s, ¬Given body.text kind s := by
  simp only [SourceRule.isEmpty_iff, List.eq_nil_iff_forall_not_mem, mem_rule_list]

/-- The rule lines of a text that is given by its lines: in any order, with any repetitions, with
any space around them, and among any comments and blank lines. -/
theorem mem_ruleLines_joinLines {lines : List (List UInt8)}
    (h : ∀ line ∈ lines, newline ∉ line) {t : List UInt8} :
    t ∈ ruleLines (joinLines lines) ↔
      (t ≠ [] ∧ ¬bytes "#" <+: t) ∧ ∃ line ∈ lines, trimSpaceBytes (dropCR line) = t := by
  rw [ruleLines, scanLines_joinLines h, List.mem_filter, decide_eq_true_eq, and_comm,
    List.map_map, List.mem_map]
  rfl

/-- The conversion: the lists of an accepted body, which bodies are rejected, and that nothing
but the set of the rule lines matters. -/
theorem fetchAndConvert_spec (version : UInt8) (src : RuleSetSource) :
    (∀ o file, fetchAndConvert version src o = .ok file → ∃ body rule,
      o.response = .ok (200, body) ∧ file = ⟨version, [rule]⟩ ∧
      ∀ kind, (rule.list kind).Pairwise (· < ·) ∧ [] ∉ rule.list kind ∧
        ∀ s, s ∈ rule.list kind ↔ Given body.text kind s) ∧
    (∀ body, body.readError = none →
      ((∃ message, fetchAndConvert version src ⟨none, .ok (200, body)⟩ = .error message) ↔
        tooLong body.endsWithData body.text = true ∨ ∀ kind s, ¬Given body.text kind s)) ∧
    (∀ body body', body.scanError = none → body'.scanError = none →
      (∀ line, line ∈ ruleLines body.text ↔ line ∈ ruleLines body'.text) →
      fetchAndConvert version src ⟨none, .ok (200, body)⟩ =
        fetchAndConvert version src ⟨none, .ok (200, body')⟩) := by
  refine ⟨?_, ?_, ?_⟩
  · intro o file h
    unfold fetchAndConvert at h
    split at h
    · cases h
    · cases h
    · rename_i statusCode body _ hresponse
      split at h
      · cases h
      · rename_i hstatus
        obtain rfl : statusCode = 200 := not_not.mp hstatus
        split at h
        · cases h
        split at h
        · cases h
        cases h
        refine ⟨body, body.rule, hresponse, rfl, ?_⟩
        intro kind
        refine ⟨pairwise_rule_list body kind, ?_, fun s => mem_rule_list⟩
        intro hnil
        exact (mem_rule_list.mp hnil).1 rfl
  · intro body hread
    rw [← rule_isEmpty_iff]
    unfold fetchAndConvert ListBody.scanError
    dsimp only
    rw [if_neg (by simp), hread]
    cases htoo : tooLong body.endsWithData body.text with
    | true => simp
    | false => cases hempty : body.rule.isEmpty <;> simp
  · intro body body' hscan hscan' hlines
    unfold fetchAndConvert
    dsimp only
    rw [hscan, hscan', rule_congr hlines]

end Boxui.Core
