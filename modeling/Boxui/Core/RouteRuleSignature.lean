import Boxui.Core.RouteDefaults
import Boxui.Library.SeparatedText

/-! What the signature of a route rule tells of the rule. It is the text of a few fields of the
rule, the first that are set of a fixed order; the text gives those fields back, unless the
outbound of a rule with none of the others is itself such a text. -/
namespace Boxui.Core
open GoValue SeparatedText

/-- The fields of a rule that its signature shows. -/
inductive RuleReading where
  | network (network port action outbound : String)
  | protocol (protocol outbound action : String)
  | ipIsPrivate (outbound : String)
  | ruleSet (set outbound : String)
  | bare (outbound : String)
  deriving DecidableEq

namespace RuleReading

def first : RuleReading → String
  | .network n _ _ _ => "network:" ++ n
  | .protocol p _ _ => "protocol:" ++ p
  | .ipIsPrivate _ => "ip_is_private"
  | .ruleSet s _ => "rule_set:" ++ s
  | .bare outbound => outbound

def rest : RuleReading → List String
  | .network _ port action outbound => [port, action, outbound]
  | .protocol _ outbound action => [outbound, action]
  | .ipIsPrivate outbound => [outbound]
  | .ruleSet _ outbound => [outbound]
  | .bare _ => []

def text (r : RuleReading) : String := "->".intercalate (r.first :: r.rest)

/-- No field of the reading contains an arrow. -/
def Clear (r : RuleReading) : Prop := ∀ part ∈ r.first :: r.rest, Free '-' '>' part.toList

instance (r : RuleReading) : Decidable r.Clear := inferInstanceAs (Decidable (∀ _ ∈ _, _))

theorem text_bare (outbound : String) : (bare outbound).text = outbound :=
  String.intercalate_singleton

theorem toList_text (r : RuleReading) :
    r.text.toList = ['-', '>'].intercalate (r.first.toList :: r.rest.map String.toList) := by
  rw [text, String.toList_intercalate]
  rfl

section clear

variable {r d : RuleReading} (hclear : d.Clear) (h : r.text = d.text)
include hclear h

theorem length_rest_le : r.rest.length ≤ d.rest.length := by
  have hlist := congrArg String.toList h
  rw [toList_text, toList_text] at hlist
  have hfree : ∀ part ∈ d.first.toList :: d.rest.map String.toList, Free '-' '>' part := by
    simpa [Clear] using hclear
  simpa using length_le_of_intercalate_eq (by decide) hfree hlist

theorem first_rest_eq (hlength : r.rest.length = d.rest.length) :
    r.first = d.first ∧ r.rest = d.rest := by
  have hlist := congrArg String.toList h
  rw [toList_text, toList_text] at hlist
  have hfree : ∀ part ∈ d.first.toList :: d.rest.map String.toList, Free '-' '>' part := by
    simpa [Clear] using hclear
  have hparts := intercalate_inj (by decide) hfree hlist (by simpa using hlength)
  rw [List.cons.injEq, String.toList_inj] at hparts
  exact ⟨hparts.1, List.map_injective_iff.mpr (fun _ _ => String.toList_injective) hparts.2⟩

end clear

theorem head?_text {r : RuleReading} (hr : r.rest ≠ []) :
    r.text.toList.head? = r.first.toList.head? := by
  cases r <;> simp_all [text, first, rest]

/-- The texts of different families start with different letters. -/
theorem eq_of_first_rest_eq {r d : RuleReading} (hr : r.rest ≠ []) (hd : d.rest ≠ [])
    (hhead : r.first.toList.head? = d.first.toList.head?)
    (hparts : r.rest.length = d.rest.length → r.first = d.first ∧ r.rest = d.rest) : r = d := by
  cases r <;> cases d <;> simp_all [first, rest]

/-- Nothing but the reading itself has the text of a clear reading, except for an outbound with
that name. -/
theorem text_eq_iff {r d : RuleReading} (hclear : d.Clear) :
    r.text = d.text ↔ r = d ∨ r = bare d.text := by
  constructor
  · intro h
    by_cases hr : r.rest = []
    · cases r with
      | bare outbound => exact .inr (congrArg bare ((text_bare outbound).symm.trans h))
      | _ => cases hr
    · have hd : d.rest ≠ [] := by
        intro hd
        have hle := length_rest_le hclear h
        rw [hd] at hle
        exact hr (List.length_eq_zero_iff.mp (Nat.le_zero.mp hle))
      have hhead := congrArg (·.toList.head?) h
      simp only [head?_text hr, head?_text hd] at hhead
      exact .inl (eq_of_first_rest_eq hr hd hhead (first_rest_eq hclear h))
  · rintro (rfl | rfl)
    · rfl
    · exact text_bare _

end RuleReading

namespace DefaultRouteInstaller

def isPrivate (rule : Object) : Bool :=
  match rule["ip_is_private"]? with
  | some (.bool true) => true
  | _ => false

/-- The rule-set by which a rule is read. -/
def firstRuleSet (rule : Object) : Option String :=
  match rule["rule_set"]? with
  | some (.strs (set :: _)) => some set
  | some (.list (.str set :: _)) => if set ≠ "" then some set else none
  | _ => none

/-- A rule is read by its network; without one by its protocol; then as a rule for private
addresses, by its rule-set, and at last by its outbound alone. -/
def reading (formatFloat : Rat → String) (rule : Object) : RuleReading :=
  let outbound := Object.stringAt rule "outbound"
  let action := Object.stringAt rule "action"
  if networkOf rule ≠ "" then
    .network (networkOf rule) (portValue formatFloat rule["port"]?) action outbound
  else if Object.stringAt rule "protocol" ≠ "" then
    .protocol (Object.stringAt rule "protocol") outbound action
  else if isPrivate rule then .ipIsPrivate outbound
  else
    match firstRuleSet rule with
    | some set => .ruleSet set outbound
    | none => .bare outbound

variable {formatFloat : Rat → String}

theorem text_ruleSet (set outbound : String) :
    (RuleReading.ruleSet set outbound).text = "rule_set:" ++ set ++ "->" ++ outbound := by
  simp [RuleReading.text, RuleReading.first, RuleReading.rest, String.append_assoc]

theorem ruleSignature_eq_text (rule : Object) :
    ruleSignature formatFloat rule = (reading formatFloat rule).text := by
  unfold ruleSignature reading
  dsimp only
  split_ifs with hnetwork hprotocol hprivate
  · simp [RuleReading.text, RuleReading.first, RuleReading.rest, String.append_assoc]
  · simp [RuleReading.text, RuleReading.first, RuleReading.rest, String.append_assoc]
  · unfold isPrivate at hprivate
    split at hprivate
    · rename_i htrue
      rw [htrue]
      simp [RuleReading.text, RuleReading.first, RuleReading.rest]
    · cases hprivate
  · unfold isPrivate at hprivate
    unfold firstRuleSet
    split
    · simp_all
    · rename_i hset _
      rw [hset]
      exact (text_ruleSet _ _).symm
    · rename_i hset _
      rw [hset]
      dsimp only
      split_ifs
      · exact (text_ruleSet _ _).symm
      · exact (RuleReading.text_bare _).symm
    · split
      · simp_all
      · exact (RuleReading.text_bare _).symm

theorem networkOf_json {rule : Object} (h : ∀ strings, rule["network"]? ≠ some (.strs strings)) :
    networkOf (Object.json rule) = networkOf rule := by
  unfold networkOf
  rw [Object.getElem?_json]
  cases hnetwork : rule["network"]? with
  | none => rfl
  | some network =>
    cases network with
    | strs strings => exact absurd hnetwork (h strings)
    | list items =>
      cases items with
      | nil => rfl
      | cons item items => cases item <;> rfl
    | _ => rfl

theorem portValue_json {port : Option Value}
    (h : ∀ n, port = some (.int n) → formatFloat (float64 n) = toString n) :
    portValue formatFloat (port.map Value.json) = portValue formatFloat port := by
  cases port with
  | none => rfl
  | some port =>
    cases port with
    | int n => exact h n rfl
    | _ => rfl

theorem isPrivate_json (rule : Object) : isPrivate (Object.json rule) = isPrivate rule := by
  unfold isPrivate
  rw [Object.getElem?_json]
  cases rule["ip_is_private"]? with
  | none => rfl
  | some value => cases value <;> rfl

theorem firstRuleSet_json {rule : Object}
    (h : ∀ rest, rule["rule_set"]? ≠ some (.strs ("" :: rest))) :
    firstRuleSet (Object.json rule) = firstRuleSet rule := by
  unfold firstRuleSet
  rw [Object.getElem?_json]
  cases hsets : rule["rule_set"]? with
  | none => rfl
  | some sets =>
    cases sets with
    | strs sets =>
      cases sets with
      | nil => rfl
      | cons set sets =>
        have hne : set ≠ "" := by
          rintro rfl
          exact h sets hsets
        simp [Value.json, hne]
    | list items =>
      cases items with
      | nil => rfl
      | cons item items => cases item <;> rfl
    | _ => rfl

/-- A rule whose network is no typed list, and whose port is written as its digits, is read the
same once the file has carried it. -/
theorem reading_json {rule : Object}
    (hnetwork : ∀ strings, rule["network"]? ≠ some (.strs strings))
    (hport : ∀ n, rule["port"]? = some (.int n) → formatFloat (float64 n) = toString n)
    (hset : ∀ rest, rule["rule_set"]? ≠ some (.strs ("" :: rest))) :
    reading formatFloat (Object.json rule) = reading formatFloat rule := by
  unfold reading
  rw [networkOf_json hnetwork, isPrivate_json, firstRuleSet_json hset]
  rw [Object.getElem?_json, portValue_json hport]
  simp only [Object.stringAt_json]

end DefaultRouteInstaller

end Boxui.Core
