import EdgeApi.Record.Timestamp

/-!
# List items

An item holds a value of one of four kinds, under the name of its kind. When several are given, the
first in the order address, redirect, host name, system number that is not null counts.
-/

set_option autoImplicit false

namespace EdgeApi.Lists

inductive Kind where
  | ip
  | redirect
  | hostname
  | asn
  deriving DecidableEq

namespace Kind

def name : Kind → String
  | .ip => "ip"
  | .redirect => "redirect"
  | .hostname => "hostname"
  | .asn => "asn"

/-- All kinds, in the order in which they are looked for. -/
def all : List Kind :=
  [.ip, .redirect, .hostname, .asn]

def ofName? (s : String) : Option Kind :=
  all.find? fun k => k.name == s

def codec : Codec Kind :=
  .variant (all.map fun k => (k.name, k)) name

end Kind

structure Redirect where
  sourceUrl : String
  targetUrl : String
  includeSubdomains : Option Bool
  statusCode : Option UInt16
  preserveQueryString : Option Bool
  subpathMatching : Option Bool
  preservePathSuffix : Option Bool
  deriving DecidableEq

namespace Redirect

def fields := (
  .cons (.required "source_url" .text sourceUrl) <|
  .cons (.required "target_url" .text targetUrl) <|
  .cons (.given "include_subdomains" .bool includeSubdomains) <|
  .cons (.given "status_code" .uint16 statusCode) <|
  .cons (.given "preserve_query_string" .bool preserveQueryString) <|
  .cons (.given "subpath_matching" .bool subpathMatching) <|
  .cons (.given "preserve_path_suffix" .bool preservePathSuffix) .nil : Fields Redirect _ _)

def codec : Codec Redirect :=
  .record "Redirect" fields
    fun (sourceUrl, targetUrl, includeSubdomains, statusCode, preserveQueryString, subpathMatching,
        preservePathSuffix, ()) =>
      { sourceUrl, targetUrl, includeSubdomains, statusCode, preserveQueryString, subpathMatching,
        preservePathSuffix }

end Redirect

structure Hostname where
  urlHostname : String
  deriving DecidableEq

namespace Hostname

def fields := (
  .cons (.required "url_hostname" .text urlHostname) .nil : Fields Hostname _ _)

def codec : Codec Hostname :=
  .record "Hostname" fields fun (urlHostname, ()) => { urlHostname }

end Hostname

inductive Value where
  | ip (address : String)
  | redirect (redirect : Redirect)
  | hostname (hostname : Hostname)
  | asn (number : UInt32)
  deriving DecidableEq

namespace Value

def kind : Value → Kind
  | .ip _ => .ip
  | .redirect _ => .redirect
  | .hostname _ => .hostname
  | .asn _ => .asn

def ofJson (kind : Kind) (j : Json) : Except Fault Value :=
  match kind with
  | .ip => (Codec.text.decodeJson j).map .ip
  | .redirect => (Redirect.codec.decodeJson j).map .redirect
  | .hostname => (Hostname.codec.decodeJson j).map .hostname
  | .asn => (Codec.uint32.decodeJson j).map .asn

def toJson : Value → Json
  | .ip s => .text s
  | .redirect r => Redirect.codec.encode r
  | .hostname h => Hostname.codec.encode h
  | .asn n => .ofUInt32 n

/-- What a value is written under. -/
def key : Value → String
  | .ip _ => "ip"
  | .redirect _ => "redirect"
  | .hostname _ => "hostname"
  | .asn _ => "asn"

def member (v : Value) : String × Json :=
  (v.key, v.toJson)

end Value

structure ItemDetails where
  id : String
  comment : String
  createdOn : Option Timestamp
  modifiedOn : Option Timestamp
  deriving DecidableEq

namespace ItemDetails

def fields := (
  .cons (.label "id" id) <|
  .cons (.label "comment" comment) <|
  .cons (.given "created_on" .timestamp createdOn) <|
  .cons (.given "modified_on" .timestamp modifiedOn) .nil : Fields ItemDetails _ _)

def codec : Codec ItemDetails :=
  .record "ListItem" fields fun (id, comment, createdOn, modifiedOn, ()) =>
    { id, comment, createdOn, modifiedOn }

end ItemDetails

structure Item where
  value : Value
  details : ItemDetails
  deriving DecidableEq

namespace Item

/-- The first kind with a value that is not null. -/
def kindOf? (members : List (String × Json)) : Option Kind :=
  Kind.all.find? fun k => (members.lookup k.name).any fun j => !j.isNull

def ofJson (j : Json) : Except Fault Item :=
  match j with
  | .object members =>
    match kindOf? members with
    | some kind => do
      let value ← Value.ofJson kind ((members.lookup kind.name).getD .null)
      let others := members.filter fun m => m.1 != kind.name
      return ⟨value, ← ItemDetails.codec.decodeJson (.object others)⟩
    | none => .error (.refused "invalid list item kind")
  | _ => .error (.refused "invalid list item: expected an object")

/-- The identifier comes first, the value second. -/
def members (i : Item) : List (String × Json) :=
  let (own, others) := (ItemDetails.fields.members i.details).partition fun m => m.1 == "id"
  own ++ i.value.member :: others

def codec : Codec Item :=
  .viaJson ofJson fun i => .object i.members

end Item

structure NewItem where
  value : Value
  comment : String
  deriving DecidableEq

namespace NewItem

def toJson (i : NewItem) : Json :=
  .object (i.value.member :: if i.comment.isEmpty then [] else [("comment", .text i.comment)])

end NewItem

end EdgeApi.Lists
