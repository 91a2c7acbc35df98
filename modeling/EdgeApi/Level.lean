import EdgeApi.Record.Codec

/-!
# Levels

Resources live in an account or in a zone.
-/

set_option autoImplicit false

namespace EdgeApi

inductive Level where
  | account
  | zone
  deriving DecidableEq

namespace Level

def label : Level → String
  | .account => "account"
  | .zone => "zone"

/-- The first segment of paths at the level. -/
def segment : Level → String
  | .account => "accounts"
  | .zone => "zones"

def codec : Codec Level :=
  .variant [("account", .account), ("zone", .zone)] label

end Level

end EdgeApi
