import EdgeApi.Client.Call

/-!
# Email routing rules

Rules of a zone that match incoming mail and act on it, and the rule for all mail that no other
matches.
-/

set_option autoImplicit false

namespace EdgeApi.Zone

structure EmailMatcher where
  kind : String
  field : String
  value : String
  deriving DecidableEq

namespace EmailMatcher

def fields := (
  .cons (.required "type" .text kind) <|
  .cons (.label "field" field) <|
  .cons (.label "value" value) .nil : Fields EmailMatcher _ _)

def codec : Codec EmailMatcher :=
  .record "EmailRoutingRuleMatcher" fields fun (kind, field, value, ()) => { kind, field, value }

end EmailMatcher

structure EmailAction where
  kind : String
  value : List String
  deriving DecidableEq

namespace EmailAction

def fields := (
  .cons (.required "type" .text kind) <|
  .cons (.filled "value" .text value) .nil : Fields EmailAction _ _)

def codec : Codec EmailAction :=
  .record "EmailRoutingRuleAction" fields fun (kind, value, ()) => { kind, value }

end EmailAction

structure EmailRule where
  tag : String
  name : String
  priority : Option Int32
  enabled : Option Bool
  matchers : List EmailMatcher
  actions : List EmailAction
  deriving DecidableEq

namespace EmailRule

def fields := (
  .cons (.label "tag" tag) <|
  .cons (.label "name" name) <|
  .cons (.given "priority" .int32 priority) <|
  .cons (.given "enabled" .bool enabled) <|
  .cons (.required "matchers" (.list EmailMatcher.codec) matchers) <|
  .cons (.required "actions" (.list EmailAction.codec) actions) .nil : Fields EmailRule _ _)

def codec : Codec EmailRule :=
  .record "EmailRoutingRule" fields fun (tag, name, priority, enabled, matchers, actions, ()) =>
    { tag, name, priority, enabled, matchers, actions }

def collection : Collection EmailRule where
  scope := .only .zone
  path := "/email/routing/rules"
  codec := codec
  unidentified := .missingRuleId
  pageSize := 20

def list (enabled : Option Bool) (options : PageOptions) : Call (List EmailRule × ResultInfo) :=
  collection.list (.flag "enabled" enabled) options

def get (tag : String) : Call EmailRule :=
  collection.get tag

def create (r : EmailRule) : Call EmailRule :=
  collection.create (codec.encode r)

/-- Replaces the rule with the tag of the one given. -/
def update (r : EmailRule) : Call EmailRule :=
  collection.replace r.tag (codec.encode r)

/-- Deletes a rule and gives it as it was. -/
def delete (tag : String) : Call EmailRule :=
  collection.take tag

def getCatchAll : Call EmailRule where
  scope := collection.scope
  needs := []
  exchange := fun c => Client.get codec (collection.memberPath c "catch_all")

def updateCatchAll (r : EmailRule) : Call EmailRule where
  scope := collection.scope
  needs := []
  exchange := fun c => Client.put codec (collection.memberPath c "catch_all") (codec.encode r)

end EmailRule

end EdgeApi.Zone
