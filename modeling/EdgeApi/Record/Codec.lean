import EdgeApi.Json.Reader

/-!
# Codecs

How values of a type are read from documents and written as JSON values.
-/

set_option autoImplicit false

namespace EdgeApi

structure Codec (α : Type) where
  decode : Source → Document → Except Fault α
  encode : α → Json

namespace Codec

def decodeText {α : Type} (c : Codec α) (bytes : List UInt8) : Except Fault α := do
  let reading := Document.read bytes
  let value ← c.decode .text reading.root
  if reading.trailing then .error .malformed else return value

def decodeJson {α : Type} (c : Codec α) (j : Json) : Except Fault α :=
  c.decode .settled (Document.ofJson j)

def json : Codec Json where
  decode := fun source d => d.toJson source
  encode := id

/-- Any well-formed value, not kept. -/
def ignored : Codec Unit where
  decode := fun _ d => d.skip
  encode := fun _ => .null

def unit : Codec Unit where
  decode := fun _ d =>
    match d with
    | .null => .ok ()
    | d => .error (d.fault "unit")
  encode := fun _ => .null

def bool : Codec Bool where
  decode := fun _ d =>
    match d with
    | .bool b => .ok b
    | d => .error (d.fault "a boolean")
  encode := .bool

def text : Codec String where
  decode := fun _ d =>
    match d with
    | .text (some s) => .ok s
    | d => .error (d.fault "a string")
  encode := .text

/-- Whole numbers of a range; `name` is the name of the range in messages. -/
def whole {α : Type} (name : String) (ofInt? : Int → Option α) (encode : α → Json) : Codec α where
  decode := fun _ d =>
    match d with
    | .number (some (.whole n h)) =>
      match ofInt? n with
      | some x => .ok x
      | none => .error (.mismatch (.wrongValue (.number (.whole n h)) name))
    | d => .error (d.fault name)
  encode := encode

def uint16 : Codec UInt16 :=
  whole "u16" (fun n => if 0 ≤ n ∧ n < 0x10000 then some (UInt16.ofNat n.toNat) else none)
    Json.ofUInt16

def uint32 : Codec UInt32 :=
  whole "u32" (fun n => if 0 ≤ n ∧ n < 0x100000000 then some (UInt32.ofNat n.toNat) else none)
    Json.ofUInt32

def uint64 : Codec UInt64 :=
  whole "u64" (fun n => if 0 ≤ n ∧ n < 0x10000000000000000 then some (UInt64.ofNat n.toNat) else none)
    Json.ofUInt64

def int32 : Codec Int32 :=
  whole "i32" (fun n => if -0x80000000 ≤ n ∧ n < 0x80000000 then some (Int32.ofInt n) else none)
    Json.ofInt32

def int64 : Codec Int64 :=
  whole "i64" (fun n => if -0x8000000000000000 ≤ n ∧ n < 0x8000000000000000 then some (Int64.ofInt n) else none)
    Json.ofInt64

def real : Codec Binary64 where
  decode := fun _ d =>
    match d with
    | .number (some (.real x)) => .ok x
    | .number (some (.whole n _)) =>
      let x := Binary64.ofNat n.natAbs
      .ok (if n < 0 then x.negate else x)
    | d => .error (d.fault "f64")
  encode := Json.ofReal

def optional {α : Type} (c : Codec α) : Codec (Option α) where
  decode := fun source d =>
    match d with
    | .null => .ok none
    | d => (c.decode source d).map some
  encode := fun
    | none => .null
    | some a => c.encode a

def orElse {α : Type} (c : Codec α) (standard : α) : Codec α where
  decode := fun source d =>
    match d with
    | .null => .ok standard
    | d => c.decode source d
  encode := c.encode

def decodeItems {α : Type} (c : Codec α) (source : Source) : Items → Except Fault (List α)
  | .nil => .ok []
  | .broken b => .error b.kept
  | .cons head tail => do
    let item ← c.decode source head
    return item :: (← decodeItems c source tail)

def list {α : Type} (c : Codec α) : Codec (List α) where
  decode := fun source d =>
    match d with
    | .list items => do
      let inner ← source.enter
      decodeItems c inner items
    | d => .error (d.fault "a sequence")
  encode := fun items => .list (items.map c.encode)

def decodeEntries {α : Type} (c : Codec α) (source : Source) :
    Members → Except Fault (List (String × α))
  | .nil => .ok []
  | .broken b => .error b.kept
  | .nameless found => .error found.namelessFault
  | .cons none _ _ => .error .malformed
  | .cons (some name) value tail => do
    let entry ← c.decode source value
    return (name, entry) :: (← decodeEntries c source tail)

/-- Objects with members of any names; of several members of one name the last counts. -/
def table : Codec (List (String × Json)) where
  decode := fun source d =>
    match d with
    | .object members => do
      let inner ← source.enter
      let entries ← decodeEntries json inner members
      return entries.foldl (fun acc e => Json.insertMember e.1 e.2 acc) []
    | d => .error (d.fault "a map")
  encode := .object

/-- Values of a kind that is told apart only once any value has been read. -/
def viaJson {α : Type} (ofJson : Json → Except Fault α) (encode : α → Json) : Codec α where
  decode := fun source d => do ofJson (← d.toJson source)
  encode := encode

/-- Only the end may follow in an object that held a single member. -/
def endOfVariant : Members → Except Fault Unit
  | .nil => .ok ()
  | .broken b => .error b.kept
  | .nameless _ => .error .malformed
  | .cons _ _ _ => .error .malformed

/-- One of a few names, as a string or as an object with the name and null. -/
def variant {α : Type} (variants : List (String × α)) (nameOf : α → String) : Codec α where
  decode := fun source d =>
    let byName (name : String) : Except Fault α :=
      match variants.lookup name with
      | some a => .ok a
      | none => .error (.mismatch (.unknownVariant name (variants.map Prod.fst)))
    match source, d with
    | _, .text (some name) => byName name
    | .streamed _, .object members => do
      let inner ← source.enter
      match members with
      | .nil => .error .malformed
      | .broken b => .error b.kept
      | .nameless found => .error (found.fault "variant identifier")
      | .cons none _ _ => .error .malformed
      | .cons (some name) value tail => do
        let a ← byName name
        unit.decode inner value
        endOfVariant tail
        return a
    | .streamed _, .broken b => .error b.variant
    | .streamed _, _ => .error .malformed
    | .settled, .object (.cons (some name) value .nil) => do
      let a ← byName name
      unit.decode .settled value
      return a
    | .settled, .object _ =>
      .error (.mismatch (.wrongValue .map "map with a single key"))
    | .settled, d => .error (d.fault "string or map")
  encode := fun a => .text (nameOf a)

end Codec

end EdgeApi
