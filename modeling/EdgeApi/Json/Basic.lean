import EdgeApi.Number.Binary64

/-!
# JSON values

Numbers are whole numbers of at most 64 bits or binary floating point numbers, and an object keeps
its members in the order given. The sorted form orders the members of every object by name and
keeps the last of several members of one name.
-/

set_option autoImplicit false

namespace EdgeApi

inductive Number where
  | whole (value : Int) (inRange : -0x8000000000000000 ≤ value ∧ value < 0x10000000000000000)
  | real (value : Binary64)
  deriving DecidableEq

inductive Json where
  | null
  | bool (value : Bool)
  | number (value : Number)
  | text (value : String)
  | list (items : List Json)
  | object (members : List (String × Json))

namespace Json

def ofInt64 (n : Int64) : Json :=
  .number (.whole n.toInt ⟨by have := n.le_toInt; omega, by have := n.toInt_lt; omega⟩)

def ofInt32 (n : Int32) : Json :=
  .number (.whole n.toInt ⟨by have := n.le_toInt; omega, by have := n.toInt_lt; omega⟩)

def ofUInt64 (n : UInt64) : Json :=
  .number (.whole n.toNat ⟨by omega, by have := n.toNat_lt; omega⟩)

def ofUInt32 (n : UInt32) : Json :=
  .number (.whole n.toNat ⟨by omega, by have := n.toNat_lt; omega⟩)

def ofUInt16 (n : UInt16) : Json :=
  .number (.whole n.toNat ⟨by omega, by have := n.toNat_lt; omega⟩)

def ofReal (x : Binary64) : Json :=
  .number (.real x)

/-- Puts a member at its place among members sorted by name, or in place of its namesake. -/
def insertMember (name : String) (value : Json) : List (String × Json) → List (String × Json)
  | [] => [(name, value)]
  | (n, v) :: rest =>
    if name < n then (name, value) :: (n, v) :: rest
    else if name = n then (name, value) :: rest
    else (n, v) :: insertMember name value rest

/-- The object with the members given, in sorted form as far as its own members go. -/
def ofMembers (members : List (String × Json)) : Json :=
  .object (members.foldl (fun acc m => insertMember m.1 m.2 acc) [])

mutual

def sorted : Json → Json
  | .list items => .list (sortedItems items)
  | .object members => ofMembers (sortedMembers members)
  | .null => .null
  | .bool b => .bool b
  | .number n => .number n
  | .text s => .text s

def sortedItems : List Json → List Json
  | [] => []
  | item :: rest => sorted item :: sortedItems rest

def sortedMembers : List (String × Json) → List (String × Json)
  | [] => []
  | (name, value) :: rest => (name, sorted value) :: sortedMembers rest

end

def isNull : Json → Bool
  | .null => true
  | _ => false

def given (name : String) (value : Option Json) : List (String × Json) :=
  match value with
  | some v => [(name, v)]
  | none => []

def filled (name : String) (items : List Json) : List (String × Json) :=
  if items.isEmpty then [] else [(name, .list items)]

def member? (name : String) : Json → Option Json
  | .object members => members.lookup name
  | _ => none

end Json

end EdgeApi
