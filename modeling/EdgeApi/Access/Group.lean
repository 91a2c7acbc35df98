import EdgeApi.Client.Call
import EdgeApi.Record.Timestamp

/-!
# Access groups

Sets of access rules under one name. A rule is kept as the value it is.
-/

set_option autoImplicit false

namespace EdgeApi.Access

structure Group where
  id : String
  name : String
  includes : List Json
  excludes : List Json
  requires : List Json
  isDefault : Option Bool
  createdAt : Option Timestamp
  updatedAt : Option Timestamp

namespace Group

def fields := (
  .cons (.label "id" id) <|
  .cons (.required "name" .text name) <|
  .cons (.items "include" .json includes) <|
  .cons (.items "exclude" .json excludes) <|
  .cons (.items "require" .json requires) <|
  .cons (.given "is_default" .bool isDefault) <|
  .cons (.given "created_at" .timestamp createdAt) <|
  .cons (.given "updated_at" .timestamp updatedAt) .nil : Fields Group _ _)

def codec : Codec Group :=
  .record "AccessGroup" fields
    fun (id, name, includes, excludes, requires, isDefault, createdAt, updatedAt, ()) =>
      { id, name, includes, excludes, requires, isDefault, createdAt, updatedAt }

def collection : Collection Group where
  scope := .either
  path := "/access/groups"
  codec := codec
  unidentified := .missingResourceId "access group id"
  pageSize := 25

/-- What a caller says about a group. -/
structure Draft where
  name : String
  includes : List Json
  excludes : List Json
  requires : List Json
  isDefault : Option Bool

def Draft.body (d : Draft) : Json :=
  .object <|
    [("name", .text d.name), ("include", .list d.includes)] ++
    Json.filled "exclude" d.excludes ++
    Json.filled "require" d.requires ++
    Json.given "is_default" (d.isDefault.map .bool)

structure Filter where
  name : Option String
  search : Option String

def Filter.query (f : Filter) : Uri.Query :=
  .opt "name" f.name ++ .opt "search" f.search

def list (f : Filter) (options : PageOptions) : Call (List Group × ResultInfo) :=
  collection.list f.query options

def get (id : String) : Call Group :=
  collection.get id

def create (d : Draft) : Call Group :=
  collection.create d.body

def update (id : String) (d : Draft) : Call Group :=
  collection.replace id d.body

def delete (id : String) : Call Unit :=
  collection.delete id

end Group

end EdgeApi.Access
