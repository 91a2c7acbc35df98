import EdgeApi.Client.Call

/-!
# Key and value namespaces

Values are bytes under keys of a namespace. A key is a single segment of the path of its value.
-/

set_option autoImplicit false

namespace EdgeApi.Storage

structure KvNamespace where
  id : String
  title : String
  supportsUrlEncoding : Option Bool

namespace KvNamespace

def fields := (
  .cons (.required "id" .text id) <|
  .cons (.required "title" .text title) <|
  .cons (.given "supports_url_encoding" .bool supportsUrlEncoding) .nil : Fields KvNamespace _ _)

def codec : Codec KvNamespace :=
  .record "WorkersKvNamespace" fields fun (id, title, supportsUrlEncoding, ()) =>
    { id, title, supportsUrlEncoding }

def collection : Collection KvNamespace where
  scope := .only .account
  path := "/storage/kv/namespaces"
  codec := codec
  unidentified := .missingResourceId "namespace id"
  pageSize := 50

def list (order direction : Option String) (options : PageOptions) :
    Call (List KvNamespace × ResultInfo) :=
  collection.list (.opt "order" order ++ .opt "direction" direction) options

def create (title : String) : Call KvNamespace :=
  (collection.create (.object [("title", .text title)])).needing
    [.filled title (.missingResourceId "namespace title")]

def rename (id title : String) : Call Unit where
  scope := collection.scope
  needs := [.filled id collection.unidentified]
  exchange := fun c =>
    Client.put .ignored (collection.memberPath c id) (.object [("title", .text title)])

def delete (id : String) : Call Unit :=
  collection.delete id

end KvNamespace

structure StorageKey where
  name : String
  expiration : Option Int64
  metadata : Option Json

namespace StorageKey

def fields := (
  .cons (.required "name" .text name) <|
  .cons (.given "expiration" .int64 expiration) <|
  .cons (.given "metadata" .json metadata) .nil : Fields StorageKey _ _)

def codec : Codec StorageKey :=
  .record "StorageKey" fields fun (name, expiration, metadata, ()) =>
    { name, expiration, metadata }

/-- The keys of a namespace, those that start with a text if one is given; they come by cursors. -/
def list (ns : String) (start : Option String) (limit : Option UInt32) (cursor : Option String) :
    Call (List StorageKey) where
  scope := .only .account
  needs := [.filled ns KvNamespace.collection.unidentified]
  exchange := fun c =>
    Prod.fst <$> Client.listCursor codec (KvNamespace.collection.memberPath c ns ++ "/keys")
      (.opt "prefix" start ++ .number "limit" limit) cursor

end StorageKey

/-- A value to be written among others. -/
structure Entry where
  key : String
  value : String
  expiration : Option Int64
  expirationTtl : Option Int64
  metadata : Option Json
  base64 : Option Bool

namespace Entry

def toJson (e : Entry) : Json :=
  .object <|
    [("key", .text e.key), ("value", .text e.value)] ++
    Json.given "expiration" (e.expiration.map Json.ofInt64) ++
    Json.given "expiration_ttl" (e.expirationTtl.map Json.ofInt64) ++
    Json.given "metadata" e.metadata ++
    Json.given "base64" (e.base64.map .bool)

/-- Writes many values at once. -/
def writeAll (ns : String) (entries : List Entry) : Call Unit where
  scope := .only .account
  needs := [.filled ns KvNamespace.collection.unidentified]
  exchange := fun c =>
    Client.put .ignored (KvNamespace.collection.memberPath c ns ++ "/bulk")
      (.list (entries.map toJson))

end Entry

namespace KvValue

def path (c : Container) (ns key : String) : String :=
  KvNamespace.collection.memberPath c ns ++ "/values/" ++ Uri.segment key

def needs (ns key : String) : List Need :=
  [.filled ns KvNamespace.collection.unidentified, .filled key (.missingResourceId "key name")]

/-- The bytes of a value, which come without an envelope. -/
def read (ns key : String) : Call (List UInt8) where
  scope := .only .account
  needs := needs ns key
  exchange := fun c => Response.body <$> Client.send { method := .get, path := path c ns key }

def write (ns key : String) (value : List UInt8) : Call Unit where
  scope := .only .account
  needs := needs ns key
  exchange := fun c => do
    let response ← Client.send
      { method := .put, path := path c ns key, body := some (.bytes value),
        headers := [("content-type", "application/octet-stream")] }
    let envelope ← Client.read .ignored response
    Client.ofExcept (envelope.take .ignored)

def delete (ns key : String) : Call Unit where
  scope := .only .account
  needs := needs ns key
  exchange := fun c => Client.delete (path c ns key)

end KvValue

end EdgeApi.Storage
