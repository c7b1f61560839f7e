import Boxui.API.SyncPlan

/-! What an outbound group refers to: the tags of its members and its default. -/
namespace Boxui.API
open GoValue

/-- The members a group lists. -/
def memberTags (outbound : Value) : List String :=
  ((outbound.asMap?.bind (·["outbounds"]?)).map Value.strings).getD []

abbrev defaultOf := fieldOf "default"

def isGroupType (typeName : String) : Bool := typeName == "selector" || typeName == "urltest"

@[simp] theorem memberTags_json (outbound : Value) :
    memberTags outbound.json = memberTags outbound := by
  unfold memberTags
  rw [Value.asMap?_json]
  cases outbound.asMap? with
  | none => rfl
  | some entry =>
    simp only [Option.map_some, Option.bind_some, Object.getElem?_json, Option.map_map]
    congr 2
    funext v
    exact Value.strings_json v

@[simp] theorem memberTags_toValue (entry : Object) :
    memberTags (Object.toValue entry) = (entry["outbounds"]?.map Value.strings).getD [] := by
  simp [memberTags]

theorem memberTags_proxySelector (members : List String) (defaultTag : String) :
    memberTags (Object.toValue (proxySelector members defaultTag)) = members := by
  simp only [memberTags_toValue, proxySelector, GoMap.getElem?_insert]
  rfl

theorem memberTags_subscriptionGroup (defaults : URLTestDefaults) (existing : Option Object)
    (subscription : Subscription) :
    memberTags (Object.toValue (subscriptionGroup defaults existing subscription)) =
      subscriptionProxyTags subscription := by
  simp only [memberTags_toValue, subscriptionGroup]
  split_ifs <;> simp only [GoMap.getElem?_insert, GoMap.getElem?_erase] <;> rfl

theorem defaultOf_toValue (entry : Object) :
    defaultOf (Object.toValue entry) = Object.stringAt entry "default" :=
  fieldOf_toValue "default" entry

/-- What an outbound names as a group: its members, and its default if it has one. -/
def listedReferences (outbound : Value) : List String :=
  memberTags outbound ++ [defaultOf outbound].filter (· ≠ "")

def groupReferences (outbound : Value) : List String :=
  if isGroupType (typeOf outbound) then listedReferences outbound else []

@[simp] theorem groupReferences_json (outbound : Value) :
    groupReferences outbound.json = groupReferences outbound := by
  simp [groupReferences, listedReferences]

/-- Fields other than these do not matter for what a group names. -/
theorem listedReferences_insert (entry : Object) {k : String} (v : Value)
    (hmembers : k ≠ "outbounds") (hdefault : k ≠ "default") :
    listedReferences (Object.toValue (entry.insert k v)) =
      listedReferences (Object.toValue entry) := by
  simp only [listedReferences, memberTags_toValue, fieldOf_toValue, GoMap.getElem?_insert,
    Object.stringAt_insert, hmembers, hdefault, if_false]

end Boxui.API
