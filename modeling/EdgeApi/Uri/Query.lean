import EdgeApi.Time.Timestamp
import EdgeApi.Uri.Percent

/-!
# Queries

Ordered key and value pairs, written and read in the form encoding.
-/

set_option autoImplicit false

namespace EdgeApi.Uri

abbrev Query := List (String × String)

namespace Query

def opt (key : String) (value : Option String) : Query :=
  match value with
  | some v => [(key, v)]
  | none => []

def text (key value : String) : Query :=
  if value.isEmpty then [] else [(key, value)]

def number (key : String) (value : Option UInt32) : Query :=
  opt key (value.map fun n => toString n.toNat)

def nonzero (key : String) (n : UInt32) : Query :=
  if n = 0 then [] else [(key, toString n.toNat)]

def flag (key : String) (value : Option Bool) : Query :=
  opt key (value.map fun b => if b then "true" else "false")

def each (key : String) (values : List String) : Query :=
  values.map fun v => (key, v)

def time (key : String) (value : Option Timestamp) : Query :=
  opt key (value.map Timestamp.renderSeconds)

def isPlain (b : UInt8) : Bool :=
  isAlphanumeric b || b == 0x2A || b == 0x2D || b == 0x2E || b == 0x5F

def encodeByte (b : UInt8) : List Char :=
  if isPlain b then [Char.ofNat b.toNat] else if b == 0x20 then ['+'] else percentByte b

def encodeText (s : String) : List Char :=
  (Text.Utf8.encode s).flatMap encodeByte

def encodePair (pair : String × String) : List Char :=
  encodeText pair.1 ++ '=' :: encodeText pair.2

def encode (q : Query) : String :=
  String.ofList (['&'].intercalate (q.map encodePair))

def splitOn (mark : UInt8) : List UInt8 → List (List UInt8)
  | [] => [[]]
  | b :: rest =>
    if b = mark then [] :: splitOn mark rest
    else
      match splitOn mark rest with
      | part :: parts => (b :: part) :: parts
      | [] => [[b]]

def decodeText (bytes : List UInt8) : String :=
  Text.Utf8.decodeLossy (percentDecode (bytes.map fun b => if b = 0x2B then 0x20 else b))

def decodePair (part : List UInt8) : String × String :=
  (decodeText (part.takeWhile (· != 0x3D)), decodeText ((part.dropWhile (· != 0x3D)).drop 1))

/-- The pairs of a form-encoded text; empty parts are none. -/
def decode (s : String) : Query :=
  ((splitOn 0x26 (Text.Utf8.encode s)).filter fun part => !part.isEmpty).map decodePair

end Query

def build (path : String) (query : Query) : String :=
  if query.isEmpty then path else path ++ "?" ++ query.encode

end EdgeApi.Uri
