import EdgeApi.Error

/-!
# Containers

The account or zone that a call is scoped to.
-/

set_option autoImplicit false

namespace EdgeApi

structure Container where
  level : Level
  id : String
  deriving DecidableEq

namespace Container

def validate (c : Container) : Except Error Unit :=
  if c.id.isEmpty then
    match c.level with
    | .account => .error .missingAccountId
    | .zone => .error .missingZoneId
  else .ok ()

/-- The level must be a given one, and then the identifier must be given. -/
def require (c : Container) (level : Level) : Except Error Unit :=
  if c.level = level then c.validate else .error (.unsupportedContainer c.level)

def requireAccount (c : Container) : Except Error Unit :=
  c.require .account

def requireZone (c : Container) : Except Error Unit :=
  c.require .zone

def path (c : Container) : String :=
  "/" ++ c.level.segment ++ "/" ++ c.id

def render (c : Container) : String :=
  c.level.label ++ " " ++ c.id

end Container

end EdgeApi
