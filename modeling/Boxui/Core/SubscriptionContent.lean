import Boxui.Core.Records
import Boxui.Library.GoStrings
import Mathlib.Algebra.Group.Int.Defs

/-! What a subscription serves, and how it is read: a sing-box document with outbounds, or
else one proxy link a line. -/
namespace Boxui.Core
open GoValue GoStrings

structure ImportResult where
  tag : String
  type : String
  server : String
  port : Int
  config : Value

/-- The syntax of JSON, and the links `ParseProxyLink` accepts. A document has its fields in
order, with repetitions, and a number written without fraction and exponent is an `int`. -/
structure ContentSyntax where
  json : List UInt8 → Option Value
  parseProxyLink : List UInt8 → Option ImportResult

def zeroOutbound : Outbound := ⟨"", "", "", 0, .null⟩

/-- Decoding into a string: null leaves it alone. -/
def decodeString (s : String) : Value → Option String
  | .null => some s
  | .str s' => some s'
  | _ => none

def decodeInt (n : Int) : Value → Option Int
  | .null => some n
  | .int n' => if -2 ^ 63 ≤ n' ∧ n' < 2 ^ 63 then some n' else none
  | _ => none

/-- Keys match the `json` tags of `model.Outbound` up to letter case; other keys are ignored. -/
def decodeOutboundField (outbound : Outbound) (field : String × Value) : Option Outbound :=
  if equalFold field.1 "tag" then
    (decodeString outbound.tag field.2).map fun tag => { outbound with tag := tag }
  else if equalFold field.1 "type" then
    (decodeString outbound.type field.2).map fun type => { outbound with type := type }
  else if equalFold field.1 "server" then
    (decodeString outbound.server field.2).map fun server => { outbound with server := server }
  else if equalFold field.1 "port" then
    (decodeInt outbound.port field.2).map fun port => { outbound with port := port }
  else if equalFold field.1 "raw" then some { outbound with raw := field.2.json }
  else some outbound

def decodeOutbound (outbound : Outbound) : Value → Option Outbound
  | .null => some outbound
  | .obj fields => fields.foldlM decodeOutboundField outbound
  | _ => none

/-- The elements are decoded over what the slice held before. -/
def decodeElements : List Outbound → List Value → Option (List Outbound)
  | _, [] => some []
  | old, v :: vs => do
    let outbound ← decodeOutbound (old.headD zeroOutbound) v
    let outbounds ← decodeElements old.tail vs
    return outbound :: outbounds

/-- A slice being decoded, with what its array still holds after its last element. -/
structure OutboundSlice where
  elements : List Outbound
  beyond : List Outbound

def decodeOutbounds (slice : OutboundSlice) : Value → Option OutboundSlice
  | .null => some ⟨[], []⟩
  | .list [] => some ⟨[], []⟩
  | .list vs => do
    let old := slice.elements ++ slice.beyond
    let outbounds ← decodeElements old vs
    return ⟨outbounds, old.drop outbounds.length⟩
  | _ => none

/-- `json.Unmarshal` into the struct whose only field is `outbounds`. -/
def singBoxOutbounds : Value → Option (List Outbound)
  | .null => some []
  | .obj fields => (fields.foldlM (fun slice (field : String × Value) =>
      if equalFold field.1 "outbounds" then decodeOutbounds slice field.2 else some slice)
      ⟨[], []⟩).map OutboundSlice.elements
  | _ => none

/-- The lines that are tried as links. -/
def contentLines (body : List UInt8) : List (List UInt8) :=
  ((body.splitOn '\n'.toUInt8).map trimSpaceBytes).filter fun line =>
    !line.isEmpty && !(bytes "#").isPrefixOf line && !(bytes "//").isPrefixOf line

def importedOutbound (result : ImportResult) : Outbound where
  tag := result.tag
  type := result.type
  server := result.server
  port := result.port
  raw := result.config

def parseSubscriptionContent (stx : ContentSyntax) (body : List UInt8) : List Outbound :=
  match (stx.json body).bind singBoxOutbounds with
  | some (outbound :: outbounds) => outbound :: outbounds
  | _ => (contentLines body).filterMap fun line => (stx.parseProxyLink line).map importedOutbound

/-- The body is a document with a non-empty outbounds list. -/
def ContentSyntax.ListsOutbounds (stx : ContentSyntax) (body : List UInt8) : Prop :=
  ∃ outbounds, (stx.json body).bind singBoxOutbounds = some outbounds ∧ outbounds ≠ []

/-- The body contains a proxy link. -/
def ContentSyntax.ListsLinks (stx : ContentSyntax) (body : List UInt8) : Prop :=
  ∃ line ∈ contentLines body, (stx.parseProxyLink line).isSome

theorem parseSubscriptionContent_ne_nil_iff (stx : ContentSyntax) (body : List UInt8) :
    parseSubscriptionContent stx body ≠ [] ↔ stx.ListsOutbounds body ∨ stx.ListsLinks body := by
  have hlinks : (contentLines body).filterMap
      (fun line => (stx.parseProxyLink line).map importedOutbound) ≠ [] ↔
        stx.ListsLinks body := by
    simp [List.filterMap_eq_nil_iff, ContentSyntax.ListsLinks, Option.isSome_iff_ne_none]
  unfold parseSubscriptionContent ContentSyntax.ListsOutbounds
  rcases hjson : (stx.json body).bind singBoxOutbounds with _ | _ | ⟨outbound, outbounds⟩
  · simpa using hlinks
  · simpa using hlinks
  · simp

end Boxui.Core
