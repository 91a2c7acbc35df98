import EdgeApi.Client.Call
import EdgeApi.Record.Timestamp

/-!
# Access users

Users of an account's organization and their active sessions.
-/

set_option autoImplicit false

namespace EdgeApi.Access

structure User where
  id : String
  name : String
  email : String
  accessSeat : Option Bool
  gatewaySeat : Option Bool
  seatUid : String
  activeDeviceCount : UInt32
  lastSuccessfulLogin : Option Timestamp
  createdAt : Option Timestamp
  updatedAt : Option Timestamp
  deriving DecidableEq

namespace User

def fields := (
  .cons (.required "id" .text id) <|
  .cons (.words "name" name) <|
  .cons (.words "email" email) <|
  .cons (.optional "access_seat" .bool accessSeat) <|
  .cons (.optional "gateway_seat" .bool gatewaySeat) <|
  .cons (.words "seat_uid" seatUid) <|
  .cons (.lenient "active_device_count" .uint32 0 activeDeviceCount) <|
  .cons (.optional "last_successful_login" .timestamp lastSuccessfulLogin) <|
  .cons (.optional "created_at" .timestamp createdAt) <|
  .cons (.optional "updated_at" .timestamp updatedAt) .nil : Fields User _ _)

def codec : Codec User :=
  .record "AccessUser" fields
    fun (id, name, email, accessSeat, gatewaySeat, seatUid, activeDeviceCount, lastSuccessfulLogin,
        createdAt, updatedAt, ()) =>
      { id, name, email, accessSeat, gatewaySeat, seatUid, activeDeviceCount, lastSuccessfulLogin,
        createdAt, updatedAt }

def collection : Collection User where
  scope := .only .account
  path := "/access/users"
  codec := codec
  unidentified := .missingResourceId "user id"
  pageSize := 25

structure Filter where
  name : Option String
  email : Option String
  search : Option String

def Filter.query (f : Filter) : Uri.Query :=
  .opt "name" f.name ++ .opt "email" f.email ++ .opt "search" f.search

def list (f : Filter) (options : PageOptions) : Call (List User × ResultInfo) :=
  collection.list f.query options

end User

structure ActiveSession where
  name : String
  expiration : Int64
  metadata : Json

namespace ActiveSession

def fields := (
  .cons (.words "name" name) <|
  .cons (.lenient "expiration" .int64 0 expiration) <|
  .cons (.lenient "metadata" .json .null metadata) .nil : Fields ActiveSession _ _)

def codec : Codec ActiveSession :=
  .record "AccessUserActiveSession" fields fun (name, expiration, metadata, ()) =>
    { name, expiration, metadata }

def list (user : String) : Call (List ActiveSession) where
  scope := .only .account
  needs := [.filled user User.collection.unidentified]
  exchange := fun c =>
    Client.get (.list codec) (User.collection.memberPath c user ++ "/active_sessions")

end ActiveSession

end EdgeApi.Access
