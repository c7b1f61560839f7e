import Boxui.API.Requests

/-! The update of a stored node. A new tag makes it a deletion followed by an insertion, each
a transaction of its own; the handler goes on to synchronise, whatever comes of that. -/
namespace Boxui.API
open GoValue Boxui.Core

variable {Bytes : Type*}

/-- The fields of a request body that decodes. -/
structure NodeUpdateBody where
  tag : String
  type : String
  server : String
  port : Int
  config : Value

def NodeUpdateBody.outbound (req : NodeUpdateBody) : Outbound where
  tag := req.tag
  type := req.type
  server := req.server
  port := req.port
  raw := req.config

/-- Which transactions fail. -/
structure NodeUpdateOutcome where
  delete : Bool
  add : Bool

/-- The transaction of `NodeManager.Add`, which may also fail on its own account. -/
def addNode (fails : Bool) (outbound : Outbound) (db : Database) : Option Database :=
  if fails then none
  else
    match NodeManager.add outbound db with
    | .error _ => none
    | .ok db => some db

namespace NodesHandler

def updateFailed (db : Database) (s : SyncState Bytes) : SyncState Bytes × Response :=
  ({ s with db := db },
    writeJSONErrorCode 500 "node_update_failed" (.text "failed to update node"))

/-- `body` is missing when it does not decode. -/
def update (codec : JSONCodec Bytes) (sync : SyncOutcome) (o : NodeUpdateOutcome) (tag : String)
    (body : Option NodeUpdateBody) (s : SyncState Bytes) : SyncState Bytes × Response :=
  if tag = "" then
    (s, writeJSONErrorCode 400 "invalid_request" (.text "tag is required"))
  else
    match NodeManager.get tag s.db with
    | none => (s, writeJSONErrorCode 404 "node_not_found" (.text "node not found"))
    | some _ =>
      match body with
      | none => (s, writeJSONErrorCode 400 "invalid_request" (.text "invalid request body"))
      | some req =>
        if req.tag = "" ∨ req.type = "" then
          (s, writeJSONErrorCode 400 "invalid_request" (.text "tag and type are required"))
        else if req.tag ≠ tag ∧ o.delete = true then updateFailed s.db s
        else
          let db := if req.tag ≠ tag then NodeManager.delete tag s.db else s.db
          match addNode o.add req.outbound db with
          | none => updateFailed db s
          | some db => ((syncOutboundsToConfig codec sync ⟨s.dir, db⟩).1, writeJSON 200)

end NodesHandler

/-- Without failing transactions this is the request of the other modules. -/
theorem NodesHandler.update_eq_handle (codec : JSONCodec Bytes) (around : Surroundings)
    (tag : String) (req : NodeUpdateBody) (s : SyncState Bytes) :
    NodesHandler.update codec around.sync ⟨false, false⟩ tag (some req) s =
      Request.handle codec around (.updateNode tag req.outbound) s := by
  unfold NodesHandler.update Request.handle
  dsimp only [Request.store, Request.updateNodeStore, NodeUpdateBody.outbound, addNode]
  by_cases htag : tag = ""
  · rw [if_pos htag, if_pos htag]
  · rw [if_neg htag, if_neg htag]
    cases NodeManager.get tag s.db with
    | none => rfl
    | some n =>
      dsimp only
      by_cases hreq : req.tag = "" ∨ req.type = ""
      · rw [if_pos hreq, if_pos hreq]
      · rw [if_neg hreq, if_neg hreq, if_neg (by simp)]
        rw [if_neg Bool.false_ne_true]
        cases NodeManager.add ⟨req.tag, req.type, req.server, req.port, req.config⟩
          (if req.tag ≠ tag then NodeManager.delete tag s.db else s.db) with
        | error e => rfl
        | ok db => rfl

/-- `nodes'` is `nodes` with the node under `tag` replaced by the updated one under its own
tag, and every other node as it was. -/
structure NodeReplaced (tag : String) (updated : Outbound) (nodes nodes' : GoMap Outbound) :
    Prop where
  stored : nodes'[updated.tag]? = some (storedOutbound updated)
  moved : updated.tag ≠ tag → nodes'[tag]? = none
  others : ∀ t : String, t ≠ tag → t ≠ updated.tag → nodes'[t]? = nodes[t]?
  kept : ∀ (t : String) (n : Outbound), t ≠ tag → nodes[t]? = some n → nodes'[t]? = some n

/-- The request passes every check and moves a stored node to another tag. -/
structure Renames (tag : String) (body : Option NodeUpdateBody) (nodes : GoMap Outbound)
    (req : NodeUpdateBody) : Prop where
  tag_ne : tag ≠ ""
  exists_node : (nodes[tag]?).isSome = true
  body_eq : body = some req
  newTag_ne : req.tag ≠ ""
  type_ne : req.type ≠ ""
  tag_changes : req.tag ≠ tag

namespace NodesHandler

end NodesHandler

theorem Renames.unique {tag : String} {body : Option NodeUpdateBody} {nodes : GoMap Outbound}
    {req req' : NodeUpdateBody} (h : Renames tag body nodes req)
    (h' : Renames tag body nodes req') : req' = req :=
  Option.some.inj (h'.body_eq.symm.trans h.body_eq)

theorem NodeReplaced.insert (nodes : GoMap Outbound) (updated : Outbound) :
    NodeReplaced updated.tag updated nodes
      (nodes.insert updated.tag (storedOutbound updated)) := by
  refine ⟨by simp, fun h => absurd rfl h, ?_, ?_⟩
  · intro t ht _
    rw [GoMap.getElem?_insert, if_neg (Ne.symm ht)]
  · intro t n ht hn
    rw [GoMap.getElem?_insert, if_neg (Ne.symm ht), hn]

end Boxui.API
