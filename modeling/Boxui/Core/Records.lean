import Boxui.Library.GoValue

/-! The records boxd keeps in its database, and URLTest inheritance. -/
namespace Boxui
open GoValue

/-- A proxy node as imported or as downloaded with a subscription. `raw` is the protocol
configuration, `Value.null` when the record has none. -/
structure Outbound where
  tag : String
  type : String
  server : String
  port : Int
  raw : Value

structure URLTestDefaults where
  enabled : Bool
  url : String
  interval : String
  tolerance : UInt16

structure URLTestOverrides where
  enabled : Option Bool
  url : Option String
  interval : Option String
  tolerance : Option UInt16

/-- `lastUpdated` counts from the zero time, which marks a subscription never refreshed. -/
structure Subscription where
  id : String
  name : String
  url : String
  intervalMin : Int
  urltest : Option URLTestOverrides
  lastUpdated : Nat
  error : String
  outbounds : List Outbound

def defaultURLTestDefaults : URLTestDefaults where
  enabled := true
  url := "https://www.gstatic.com/generate_204"
  interval := "3m"
  tolerance := 50

/-- Explicit overrides win field by field over the global defaults. -/
def resolveURLTest (defaults : URLTestDefaults) : Option URLTestOverrides → URLTestDefaults
  | none => defaults
  | some overrides =>
    { enabled := overrides.enabled.getD defaults.enabled
      url := overrides.url.getD defaults.url
      interval := overrides.interval.getD defaults.interval
      tolerance := overrides.tolerance.getD defaults.tolerance }

end Boxui
