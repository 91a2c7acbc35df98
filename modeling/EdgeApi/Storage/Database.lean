import EdgeApi.Client.Call
import EdgeApi.Record.Timestamp

/-!
# Databases

SQL databases of an account, and the outcome of statements run against them.
-/

set_option autoImplicit false

namespace EdgeApi.Storage

structure Database where
  uuid : String
  name : String
  version : String
  tableCount : UInt64
  fileSize : UInt64
  createdAt : Option Timestamp

namespace Database

def fields := (
  .cons (.words "uuid" uuid) <|
  .cons (.required "name" .text name) <|
  .cons (.words "version" version) <|
  .cons (.lenient "num_tables" .uint64 0 tableCount) <|
  .cons (.lenient "file_size" .uint64 0 fileSize) <|
  .cons (.optional "created_at" .timestamp createdAt) .nil : Fields Database _ _)

def codec : Codec Database :=
  .record "D1Database" fields fun (uuid, name, version, tableCount, fileSize, createdAt, ()) =>
    { uuid, name, version, tableCount, fileSize, createdAt }

end Database

structure QueryMeta where
  changedDatabase : Bool
  changes : UInt64
  duration : Binary64
  lastRowId : Int64
  rowsRead : UInt64
  rowsWritten : UInt64
  sizeAfter : UInt64

namespace QueryMeta

def zero : QueryMeta :=
  ⟨false, 0, .ofNat 0, 0, 0, 0, 0⟩

def fields := (
  .cons (.lenient "changed_db" .bool zero.changedDatabase changedDatabase) <|
  .cons (.lenient "changes" .uint64 zero.changes changes) <|
  .cons (.lenient "duration" .real zero.duration duration) <|
  .cons (.lenient "last_row_id" .int64 zero.lastRowId lastRowId) <|
  .cons (.lenient "rows_read" .uint64 zero.rowsRead rowsRead) <|
  .cons (.lenient "rows_written" .uint64 zero.rowsWritten rowsWritten) <|
  .cons (.lenient "size_after" .uint64 zero.sizeAfter sizeAfter) .nil : Fields QueryMeta _ _)

def codec : Codec QueryMeta :=
  .record "D1QueryMeta" fields
    fun (changedDatabase, changes, duration, lastRowId, rowsRead, rowsWritten, sizeAfter, ()) =>
      { changedDatabase, changes, duration, lastRowId, rowsRead, rowsWritten, sizeAfter }

end QueryMeta

/-- The outcome of a statement; rows keep the names of their columns. -/
structure QueryResult where
  success : Bool
  rows : List (List (String × Json))
  info : QueryMeta

namespace QueryResult

def fields := (
  .cons (.lenient "success" .bool false success) <|
  .cons (.items "results" .table rows) <|
  .cons (.lenient "meta" QueryMeta.codec .zero info) .nil : Fields QueryResult _ _)

def codec : Codec QueryResult :=
  .record "D1QueryResult" fields fun (success, rows, info, ()) => { success, rows, info }

end QueryResult

namespace Database

def collection : Collection Database where
  scope := .only .account
  path := "/d1/database"
  codec := codec
  unidentified := .missingDatabaseId
  pageSize := 100

def list (name : Option String) (options : PageOptions) : Call (List Database × ResultInfo) :=
  collection.list (.opt "name" name) options

def get (id : String) : Call Database :=
  collection.get id

def create (name : String) (primaryLocationHint : Option String) : Call Database :=
  (collection.create (.object (("name", .text name) ::
    Json.given "primary_location_hint" (primaryLocationHint.map .text)))).needing
    [.filled name (.missingResourceId "database name")]

def delete (id : String) : Call Unit :=
  collection.delete id

/-- Runs statements with their parameters; gives a result for each. -/
def query (id sql : String) (params : List String) : Call (List QueryResult) where
  scope := .only .account
  needs := [.filled id .missingDatabaseId]
  exchange := fun c =>
    Client.post (.list QueryResult.codec) (collection.memberPath c id ++ "/query")
      (.object (("sql", .text sql) :: Json.filled "params" (params.map .text)))

end Database

end EdgeApi.Storage
