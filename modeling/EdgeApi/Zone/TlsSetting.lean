import EdgeApi.Client.Call
import EdgeApi.Record.Timestamp

/-!
# TLS settings of host names

A setting has a name and, for each host name of a zone, a value of any shape.
-/

set_option autoImplicit false

namespace EdgeApi.Zone

structure TlsSetting where
  hostname : String
  value : Json
  status : String
  createdAt : Option Timestamp
  updatedAt : Option Timestamp

namespace TlsSetting

def fields := (
  .cons (.required "hostname" .text hostname) <|
  .cons (.lenient "value" .json .null value) <|
  .cons (.words "status" status) <|
  .cons (.optional "created_at" .timestamp createdAt) <|
  .cons (.optional "updated_at" .timestamp updatedAt) .nil : Fields TlsSetting _ _)

def codec : Codec TlsSetting :=
  .record "HostnameTlsSetting" fields fun (hostname, value, status, createdAt, updatedAt, ()) =>
    { hostname, value, status, createdAt, updatedAt }

/-- The values of a setting, told apart by host name. -/
def collection (setting : String) : Collection TlsSetting where
  scope := .only .zone
  path := "/hostnames/settings/" ++ setting
  codec := codec
  unidentified := .missingHostname
  pageSize := 50

def named (setting : String) : Need :=
  .filled setting .missingTlsSettingName

def list (setting : String) (hostnames : List String) (options : PageOptions) :
    Call (List TlsSetting × ResultInfo) :=
  ((collection setting).list (.each "hostname" hostnames) options).needingFirst [named setting]

def update (setting hostname : String) (value : Json) : Call TlsSetting :=
  ((collection setting).replace hostname (.object [("value", value)])).needingFirst [named setting]

def delete (setting hostname : String) : Call TlsSetting :=
  ((collection setting).take hostname).needingFirst [named setting]

end TlsSetting

end EdgeApi.Zone
