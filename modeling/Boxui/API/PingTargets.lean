import Boxui.Library.GoNet
import Boxui.Library.GoStrings
import Boxui.API.NodeTests

/-! The ping of a node's server: which texts the handler hands to the `ping` command. -/
namespace Boxui.API.TestHandler
open GoStrings HostNames

/-- Shell metacharacters. -/
def denied : List Char :=
  [';', '&', '|', '`', '$', '(', ')', '{', '}', '\n', '\r', '\t', ' ']

def isAllowed (c : Char) : Bool :=
  let isLower := 'a' ≤ c && c ≤ 'z'
  let isUpper := 'A' ≤ c && c ≤ 'Z'
  let isDigit := '0' ≤ c && c ≤ '9'
  isLower || isUpper || isDigit || c == '.' || c == '-'

def isValidPingTarget (server : String) : Bool :=
  if server = "" ∨ 253 < server.utf8ByteSize then false
  else if server.toList.any (denied.contains ·) then false
  else if (GoNet.parseIP server.toList).isSome then true
  else if !server.toList.all isAllowed then false
  else contains server "."

/-- What `commandOutput` is called with. -/
structure Command where
  name : String
  args : List String
  deriving DecidableEq

/-- What a command printed, and whether it failed. -/
structure CommandResult where
  output : String
  failed : Bool

/-- What a ping depends on besides the request. -/
structure Outside where
  commandOutput : Command → CommandResult
  elapsedMs : Float
  /-- `strconv.ParseFloat`. -/
  parseFloat : String → Option Float

/-- The text after the first occurrence of `sep`. -/
def textAfter (sep : List Char) : List Char → Option (List Char)
  | [] => if sep = [] then some [] else none
  | c :: text =>
    if sep.isPrefixOf (c :: text) then some ((c :: text).drop sep.length) else textAfter sep text

def parsePingLatency (outside : Outside) (line : List Char) : Option Float := do
  let value ← textAfter "time=".toList line
  let value := (trimSpace (String.ofList value)).toList
  let field ← ((value.splitOnP isSpace).filter fun field => !field.isEmpty).head?
  let raw := if "ms".toList.isSuffixOf field then field.take (field.length - 2) else field
  let ms ← outside.parseFloat (String.ofList raw)
  if ms ≤ 0 then none else some ms

/-- The measurement, and the command that was run for it. -/
def icmpPing (outside : Outside) (req : TestRequest) : Measurement × Option Command :=
  let server := trimSpace req.server
  if server = "" ∨ isValidPingTarget server = false then
    (⟨false, 0, "invalid server address"⟩, none)
  else
    let command : Command := ⟨"ping", ["-c", "1", "-W", "3", server]⟩
    let result := outside.commandOutput command
    if result.failed then
      (⟨false, 0, "ping failed: " ++ trimSpace result.output⟩, some command)
    else
      let latency := (result.output.toList.splitOn '\n').findSome? (parsePingLatency outside)
      (⟨true, latency.getD outside.elapsedMs, ""⟩, some command)

def IsAddress (server : String) : Prop := GoNet.parseIP server.toList ≠ none

/-- What the check of the characters lets through. -/
structure PassesFilter (server : String) : Prop where
  size : server.utf8ByteSize ≤ 253
  chars : ∀ c ∈ server.toList, isLetterOrDigit c = true ∨ c = '-' ∨ c = '.'
  dotted : '.' ∈ server.toList

/-- What may be pinged: an address or the name of a host, and never an option. -/
structure IsPingTarget (target : String) : Prop where
  address : IsAddress target ∨ IsDottedName target.toList
  notOption : target.toList.head? ≠ some '-'

theorem isAllowed_iff (c : Char) :
    isAllowed c = true ↔ isLetterOrDigit c = true ∨ c = '-' ∨ c = '.' := by
  simp only [isAllowed, isLetterOrDigit, Bool.or_eq_true, beq_iff_eq]
  tauto

theorem not_denied {server : String}
    (h : ∀ c ∈ server.toList, isAllowed c = true ∨ GoNet.IsAddressChar c) :
    server.toList.any (denied.contains ·) = false := by
  have hdenied : ∀ c ∈ denied, isAllowed c = false ∧ ¬GoNet.IsAddressChar c := by
    simp [denied, isAllowed, GoNet.IsAddressChar, GoNet.isHex, Numerals.digitValue]
  rw [List.any_eq_false]
  intro c hc hmem
  obtain ⟨hallowed, haddress⟩ := hdenied c (List.contains_iff_mem.mp hmem)
  obtain hc | hc := h c hc
  · rw [hallowed] at hc
    cases hc
  · exact haddress hc

theorem passesFilter_iff (server : String) :
    PassesFilter server ↔ server.utf8ByteSize ≤ 253 ∧ server.toList.all isAllowed = true ∧
      contains server "." = true := by
  have hdot : contains server "." = true ↔ '.' ∈ server.toList := by
    rw [contains, decide_eq_true_iff]
    exact List.singleton_infix_iff '.' server.toList
  simp only [hdot, List.all_eq_true, isAllowed_iff]
  exact ⟨fun h => ⟨h.size, h.chars, h.dotted⟩, fun ⟨size, chars, dotted⟩ => ⟨size, chars, dotted⟩⟩

theorem ne_empty_of_isAddress {server : String} (h : IsAddress server) : server ≠ "" := by
  rintro rfl
  exact h rfl

/-- The list of metacharacters takes nothing away: neither addresses nor names have any. -/
theorem isValidPingTarget_iff (server : String) :
    isValidPingTarget server = true ↔
      server.utf8ByteSize ≤ 253 ∧ IsAddress server ∨ PassesFilter server := by
  have haddress : (GoNet.parseIP server.toList).isSome = true ↔ IsAddress server :=
    Option.isSome_iff_ne_none
  constructor
  · intro h
    rw [isValidPingTarget] at h
    split_ifs at h with hsize hdenied hip hchars
    · rw [not_or, Nat.not_lt] at hsize
      exact .inl ⟨hsize.2, haddress.mp hip⟩
    · rw [not_or, Nat.not_lt] at hsize
      rw [Bool.not_eq_true, Bool.not_eq_false'] at hchars
      exact .inr ((passesFilter_iff server).mpr ⟨hsize.2, hchars, h⟩)
  · rintro (⟨hsize, hip⟩ | hfilter)
    · obtain ⟨ip, hparse⟩ := Option.ne_none_iff_exists'.mp hip
      have hdenied := not_denied fun c hc => .inr (GoNet.isAddressChar_of_parseIP hparse c hc)
      rw [isValidPingTarget, if_neg, hdenied, if_neg Bool.false_ne_true, if_pos (haddress.mpr hip)]
      exact not_or.mpr ⟨ne_empty_of_isAddress hip, Nat.not_lt.mpr hsize⟩
    · obtain ⟨hsize, hchars, hdot⟩ := (passesFilter_iff server).mp hfilter
      have hdenied := not_denied fun c hc => .inl (List.all_eq_true.mp hchars c hc)
      have hne : server ≠ "" := by
        rintro rfl
        cases hfilter.dotted
      rw [isValidPingTarget, if_neg (not_or.mpr ⟨hne, Nat.not_lt.mpr hsize⟩), hdenied,
        if_neg Bool.false_ne_true, hchars, hdot]
      simp

/-- A command is run for a target that passes the check, and for no other. -/
theorem icmpPing_command (outside : Outside) (req : TestRequest) :
    (icmpPing outside req).2 =
      if isValidPingTarget (trimSpace req.server) = true then
        some ⟨"ping", ["-c", "1", "-W", "3", trimSpace req.server]⟩
      else none := by
  have hrefused : trimSpace req.server = "" ∨ isValidPingTarget (trimSpace req.server) = false ↔
      isValidPingTarget (trimSpace req.server) = false := by
    refine or_iff_right_of_imp fun h => ?_
    rw [h]
    rfl
  rw [icmpPing]
  simp only [hrefused]
  cases hvalid : isValidPingTarget (trimSpace req.server) with
  | false => rfl
  | true =>
    simp only [Bool.true_eq_false, if_false, if_true]
    split_ifs <;> rfl

theorem isPingTarget_of_isAddress {target : String} (h : IsAddress target) :
    IsPingTarget target := by
  obtain ⟨ip, hip⟩ := Option.ne_none_iff_exists'.mp h
  refine ⟨.inl h, fun hhead => ?_⟩
  obtain hhex | hdot | hcolon :=
    GoNet.isAddressChar_of_parseIP hip '-' (List.mem_of_mem_head? hhead)
  · exact absurd hhex (by decide)
  · exact absurd hdot (by decide)
  · exact absurd hcolon (by decide)

/-- Among the names that pass the filter, those are targets that have neither a dot nor a hyphen
at an end or beside a dot. -/
theorem isPingTarget_iff {target : String} (h : PassesFilter target) :
    IsPingTarget target ↔ IsAddress target ∨ Smooth target.toList := by
  have hname := isDottedName_iff h.chars
  constructor
  · rintro ⟨haddress | hdotted, -⟩
    · exact .inl haddress
    · exact .inr (hname.mp hdotted).2
  · rintro (haddress | hsmooth)
    · exact isPingTarget_of_isAddress haddress
    · refine ⟨.inr (hname.mpr ⟨h.dotted, hsmooth⟩), fun hhead => ?_⟩
      exact (hsmooth.head '-' hhead).2 rfl

/-- The last argument of every ping is a target if and only if the trimmed server is an address,
does not pass the filter, or has neither a dot nor a hyphen at an end or beside a dot. -/
theorem icmpPing_target_iff (outside : Outside) (req : TestRequest) :
    (∀ command, (icmpPing outside req).2 = some command →
        ∃ target, command.args.getLast? = some target ∧ IsPingTarget target) ↔
      IsAddress (trimSpace req.server) ∨ ¬PassesFilter (trimSpace req.server) ∨
        Smooth (trimSpace req.server).toList := by
  rw [icmpPing_command]
  by_cases hfilter : PassesFilter (trimSpace req.server)
  · rw [if_pos ((isValidPingTarget_iff _).mpr (.inr hfilter))]
    have htarget := isPingTarget_iff hfilter
    constructor
    · intro h
      obtain ⟨target, hlast, hpings⟩ := h _ rfl
      obtain rfl := Option.some.inj hlast
      obtain haddress | hsmooth := htarget.mp hpings
      · exact .inl haddress
      · exact .inr (.inr hsmooth)
    · rintro (haddress | hnot | hsmooth) command hcommand
      · obtain rfl := Option.some.inj hcommand
        exact ⟨_, rfl, htarget.mpr (.inl haddress)⟩
      · exact absurd hfilter hnot
      · obtain rfl := Option.some.inj hcommand
        exact ⟨_, rfl, htarget.mpr (.inr hsmooth)⟩
  · refine iff_of_true (fun command hcommand => ?_) (.inr (.inl hfilter))
    split_ifs at hcommand with hvalid
    obtain rfl := Option.some.inj hcommand
    obtain ⟨-, haddress⟩ | hpasses := (isValidPingTarget_iff _).mp hvalid
    · exact ⟨_, rfl, isPingTarget_of_isAddress haddress⟩
    · exact absurd hpasses hfilter

/-- A server that starts with a hyphen is handed to `ping` as an option. -/
theorem icmpPing_option : ¬∀ (outside : Outside) (req : TestRequest) (command : Command),
    (icmpPing outside req).2 = some command →
      ∃ target, command.args.getLast? = some target ∧ IsPingTarget target := by
  intro h
  have hcommand : ∀ outside, (icmpPing outside ⟨"node", "icmp", "-f.x", 0⟩).2 =
      some ⟨"ping", ["-c", "1", "-W", "3", "-f.x"]⟩ := by
    intro outside
    rw [icmpPing_command]
    decide
  obtain ⟨target, hlast, hpings⟩ := h ⟨fun _ => ⟨"", false⟩, 0, fun _ => none⟩ _ _ (hcommand _)
  obtain rfl := Option.some.inj hlast
  exact hpings.notOption (by decide)

end Boxui.API.TestHandler
