import EdgeApi.Json.Fault

/-!
# Documents

A JSON text as a tree, read up to the place where it breaks off. Readers walk the tree in the order
of the text, so the first fault they meet is the first one in the text. A reader that keeps a value
checks more than one that skips it: only the first looks at code units, bytes and the size of
numbers. Values stand as documents without a break.
-/

set_option autoImplicit false

namespace EdgeApi

/-- The fault met at a break by a reader that keeps the value, by one that skips it, and by one
that wants the name of a variant. -/
structure Break where
  kept : Fault
  skipped : Fault
  variant : Fault
  deriving DecidableEq

namespace Break

def missing : Break :=
  ⟨.truncated, .truncated, .truncated⟩

def stray : Break :=
  ⟨.malformed, .malformed, .malformed⟩

end Break

mutual

inductive Document where
  | null
  | bool (value : Bool)
  /-- `none` for a number out of the range of binary floating point. -/
  | number (value : Option Number)
  /-- `none` for ill-formed code units or bytes. -/
  | text (value : Option String)
  | list (items : Items)
  | object (members : Members)
  | broken (at_ : Break)

inductive Items where
  | nil
  | broken (at_ : Break)
  | cons (head : Document) (tail : Items)

/-- The members of an object, up to its end or up to something else that stands in place of a
name. -/
inductive Members where
  | nil
  | broken (at_ : Break)
  | nameless (found : Document)
  | cons (name : Option String) (value : Document) (tail : Members)

end

deriving instance DecidableEq for Document, Items, Members

namespace Document

mutual

def ofJson : Json → Document
  | .null => .null
  | .bool b => .bool b
  | .number n => .number (some n)
  | .text s => .text (some s)
  | .list items => .list (ofItems items)
  | .object members => .object (ofMembers members)

def ofItems : List Json → Items
  | [] => .nil
  | item :: rest => .cons (ofJson item) (ofItems rest)

def ofMembers : List (String × Json) → Members
  | [] => .nil
  | (name, value) :: rest => .cons (some name) (ofJson value) (ofMembers rest)

end

def fault (expected : String) : Document → Fault
  | .null => .wrongType .null expected
  | .bool b => .wrongType (.boolean b) expected
  | .number (some n) => .wrongType (.number n) expected
  | .number none => .malformed
  | .text (some s) => .wrongType (.text s) expected
  | .text none => .malformed
  | .list _ => .wrongType .sequence expected
  | .object _ => .wrongType .map expected
  | .broken b => b.kept

def namelessFault : Document → Fault
  | .broken ⟨.truncated, .truncated, .truncated⟩ => .truncated
  | _ => .malformed

mutual

def skip : Document → Except Fault Unit
  | .list items => skipItems items
  | .object members => skipMembers members
  | .broken b => .error b.skipped
  | .null => .ok ()
  | .bool _ => .ok ()
  | .number _ => .ok ()
  | .text _ => .ok ()

def skipItems : Items → Except Fault Unit
  | .nil => .ok ()
  | .broken b => .error b.skipped
  | .cons head tail => do
    skip head
    skipItems tail

def skipMembers : Members → Except Fault Unit
  | .nil => .ok ()
  | .broken b => .error b.skipped
  | .nameless found => .error (namelessFault found)
  | .cons _ value tail => do
    skip value
    skipMembers tail

end

end Document

/-- Where a document comes from: a text, with the number of containers that may still be opened
inside each other, or a value. -/
inductive Source where
  | streamed (room : Nat)
  | settled
  deriving DecidableEq

namespace Source

def text : Source :=
  .streamed 127

def enter : Source → Except Fault Source
  | .streamed 0 => .error .malformed
  | .streamed (room + 1) => .ok (.streamed room)
  | .settled => .ok .settled

end Source

namespace Document

mutual

def toJson (source : Source) : Document → Except Fault Json
  | .null => .ok .null
  | .bool b => .ok (.bool b)
  | .number (some n) => .ok (.number n)
  | .number none => .error .malformed
  | .text (some s) => .ok (.text s)
  | .text none => .error .malformed
  | .list items => do
    let inner ← source.enter
    return .list (← toItems inner items)
  | .object members => do
    let inner ← source.enter
    return Json.ofMembers (← toMembers inner members)
  | .broken b => .error b.kept

def toItems (source : Source) : Items → Except Fault (List Json)
  | .nil => .ok []
  | .broken b => .error b.kept
  | .cons head tail => do
    let item ← toJson source head
    return item :: (← toItems source tail)

def toMembers (source : Source) : Members → Except Fault (List (String × Json))
  | .nil => .ok []
  | .broken b => .error b.kept
  | .nameless found => .error (namelessFault found)
  | .cons none _ _ => .error .malformed
  | .cons (some name) value tail => do
    let value ← toJson source value
    return (name, value) :: (← toMembers source tail)

end

end Document

end EdgeApi
