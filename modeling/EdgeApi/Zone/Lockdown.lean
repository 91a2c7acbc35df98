import EdgeApi.Client.Call
import EdgeApi.Record.Timestamp

/-!
# Lockdown rules

Rules of a zone that leave some addresses only with access to some URLs.
-/

set_option autoImplicit false

namespace EdgeApi.Zone

structure LockdownTarget where
  target : String
  value : String
  deriving DecidableEq

namespace LockdownTarget

def fields := (
  .cons (.required "target" .text target) <|
  .cons (.required "value" .text value) .nil : Fields LockdownTarget _ _)

def codec : Codec LockdownTarget :=
  .record "ZoneLockdownConfig" fields fun (target, value, ()) => { target, value }

end LockdownTarget

structure Lockdown where
  id : String
  description : String
  urls : List String
  configurations : List LockdownTarget
  paused : Bool
  priority : Option Int32
  createdOn : Option Timestamp
  modifiedOn : Option Timestamp
  deriving DecidableEq

namespace Lockdown

def fields := (
  .cons (.label "id" id) <|
  .cons (.words "description" description) <|
  .cons (.required "urls" (.list .text) urls) <|
  .cons (.required "configurations" (.list LockdownTarget.codec) configurations) <|
  .cons (.lenient "paused" .bool false paused) <|
  .cons (.given "priority" .int32 priority) <|
  .cons (.given "created_on" .timestamp createdOn) <|
  .cons (.given "modified_on" .timestamp modifiedOn) .nil : Fields Lockdown _ _)

def codec : Codec Lockdown :=
  .record "ZoneLockdown" fields
    fun (id, description, urls, configurations, paused, priority, createdOn, modifiedOn, ()) =>
      { id, description, urls, configurations, paused, priority, createdOn, modifiedOn }

def collection : Collection Lockdown where
  scope := .only .zone
  path := "/firewall/lockdowns"
  codec := codec
  unidentified := .missingRuleId
  pageSize := 50

structure Filter where
  description : Option String
  descriptionSearch : Option String
  uriSearch : Option String
  ip : Option String
  ipSearch : Option String
  ipRangeSearch : Option String
  priority : Option Int32
  createdOn : Option Timestamp
  modifiedOn : Option Timestamp

def Filter.query (f : Filter) : Uri.Query :=
  .opt "description" f.description ++ .opt "description_search" f.descriptionSearch ++
  .opt "uri_search" f.uriSearch ++ .opt "ip" f.ip ++ .opt "ip_search" f.ipSearch ++
  .opt "ip_range_search" f.ipRangeSearch ++
  .opt "priority" (f.priority.map fun p => toString p.toInt) ++
  .time "created_on" f.createdOn ++ .time "modified_on" f.modifiedOn

def list (f : Filter) (options : PageOptions) : Call (List Lockdown × ResultInfo) :=
  collection.list f.query options

def get (id : String) : Call Lockdown :=
  collection.get id

def create (l : Lockdown) : Call Lockdown :=
  collection.create (codec.encode l)

/-- Replaces the rule with the identifier of the one given. -/
def update (l : Lockdown) : Call Lockdown :=
  collection.replace l.id (codec.encode l)

def delete (id : String) : Call Unit :=
  collection.delete id

end Lockdown

end EdgeApi.Zone
