import EdgeApi.Record.Codec

/-!
# Records

A record type is described once by its fields in order of declaration. The description gives its
reader, for objects and for arrays of the fields, and its writer.
-/

set_option autoImplicit false

namespace EdgeApi

/-- A field of records of type `ρ` that holds an `α`. -/
structure Field (ρ α : Type) where
  name : String
  codec : Codec α
  get : ρ → α
  /-- The value for an object without the field, if it may be missing. -/
  absent : Option α
  /-- The value for an array that ends before the field, if it may. -/
  cut : Option α
  /-- Whether a value is left out when the record is written. -/
  omits : α → Bool

namespace Field

variable {ρ α : Type}

def required (name : String) (codec : Codec α) (get : ρ → α) : Field ρ α :=
  { name, codec, get, absent := none, cut := none, omits := fun _ => false }

def standard (name : String) (codec : Codec α) (value : α) (get : ρ → α) : Field ρ α :=
  { name, codec, get, absent := some value, cut := some value, omits := fun _ => false }

/-- A field with a standard value that null stands for too. -/
def lenient (name : String) (codec : Codec α) (value : α) (get : ρ → α) : Field ρ α :=
  standard name (codec.orElse value) value get

/-- A value or null; an array of the fields must give it. -/
def nullable (name : String) (codec : Codec α) (get : ρ → Option α) : Field ρ (Option α) :=
  { name, codec := codec.optional, get, absent := some none, cut := none, omits := fun _ => false }

def optional (name : String) (codec : Codec α) (get : ρ → Option α) : Field ρ (Option α) :=
  standard name codec.optional none get

def omitting (f : Field ρ α) (omits : α → Bool) : Field ρ α :=
  { f with omits }

def words (name : String) (get : ρ → String) : Field ρ String :=
  lenient name .text "" get

/-- A text, empty by default, written only if it is not. -/
def label (name : String) (get : ρ → String) : Field ρ String :=
  (words name get).omitting (·.isEmpty)

def given (name : String) (codec : Codec α) (get : ρ → Option α) : Field ρ (Option α) :=
  (optional name codec get).omitting (·.isNone)

def items (name : String) (codec : Codec α) (get : ρ → List α) : Field ρ (List α) :=
  lenient name (.list codec) [] get

def filled (name : String) (codec : Codec α) (get : ρ → List α) : Field ρ (List α) :=
  (items name codec get).omitting (·.isEmpty)

end Field

/-- The fields of `ρ` in order: `α` is the product of their values and `σ` that of the values found
so far. -/
inductive Fields (ρ : Type) : Type → Type → Type 1 where
  | nil : Fields ρ Unit Unit
  | cons {α β σ : Type} (field : Field ρ α) (rest : Fields ρ β σ) : Fields ρ (α × β) (Option α × σ)

namespace Fields

variable {ρ : Type}

def size {α σ : Type} : Fields ρ α σ → Nat
  | .nil => 0
  | .cons _ rest => rest.size + 1

def names {α σ : Type} : Fields ρ α σ → List String
  | .nil => []
  | .cons f rest => f.name :: rest.names

def empty {α σ : Type} : Fields ρ α σ → σ
  | .nil => ()
  | .cons _ rest => (none, rest.empty)

def take {α σ : Type} (source : Source) (name : String) (value : Document) :
    Fields ρ α σ → σ → Option (Except Fault σ)
  | .nil, _ => none
  | .cons f rest, (found, others) =>
    if name = f.name then
      some <|
        match found with
        | some _ => .error (.mismatch (.duplicateField f.name))
        | none => (f.codec.decode source value).map fun a => (some a, others)
    else (rest.take source name value others).map fun r => r.map fun s => (found, s)

def complete {α σ : Type} : Fields ρ α σ → σ → Except Fault α
  | .nil, _ => .ok ()
  | .cons f rest, (found, others) =>
    match found, f.absent with
    | some a, _ => do return (a, ← rest.complete others)
    | none, some a => do return (a, ← rest.complete others)
    | none, none => .error (.mismatch (.missingField f.name))

def takeMembers {α σ : Type} (fields : Fields ρ α σ) (source : Source) :
    Members → σ → Except Fault σ
  | .nil, found => .ok found
  | .broken b, _ => .error b.kept
  | .nameless doc, _ => .error doc.namelessFault
  | .cons none _ _, _ => .error .malformed
  | .cons (some name) value tail, found =>
    match fields.take source name value found with
    | some taken => do
      let found ← taken
      fields.takeMembers source tail found
    | none => do
      value.skip
      fields.takeMembers source tail found

def lengthText (title : String) (size : Nat) : String :=
  "struct " ++ title ++ " with " ++ toString size ++ (if size = 1 then " element" else " elements")

/-- Reads the fields from the items of an array; `done` counts the fields before them. -/
def takeItems {α σ : Type} (title : String) (size : Nat) (source : Source) :
    Fields ρ α σ → Nat → Items → Except Fault (α × Items)
  | .nil, _, items => .ok ((), items)
  | .cons f rest, done, .cons head tail => do
    let a ← f.codec.decode source head
    let (others, left) ← rest.takeItems title size source (done + 1) tail
    return ((a, others), left)
  | .cons _ _, _, .broken b => .error b.kept
  | .cons f rest, done, .nil =>
    match f.cut with
    | some a => do
      let (others, left) ← rest.takeItems title size source (done + 1) .nil
      return ((a, others), left)
    | none => .error (.mismatch (.wrongLength done (lengthText title size)))

def itemCount : Items → Nat
  | .cons _ tail => itemCount tail + 1
  | _ => 0

def endOfItems (source : Source) (length : Nat) : Items → Except Fault Unit
  | .nil => .ok ()
  | .broken b => .error b.kept
  | .cons _ _ =>
    match source with
    | .streamed _ => .error .malformed
    | .settled => .error (.mismatch (.wrongLength length "fewer elements in array"))

def members {α σ : Type} : Fields ρ α σ → ρ → List (String × Json)
  | .nil, _ => []
  | .cons f rest, r =>
    let a := f.get r
    if f.omits a then rest.members r else (f.name, f.codec.encode a) :: rest.members r

end Fields

namespace Codec

def record {ρ α σ : Type} (title : String) (fields : Fields ρ α σ) (build : α → ρ) : Codec ρ where
  decode := fun source d =>
    match d with
    | .object members => do
      let inner ← source.enter
      let found ← fields.takeMembers inner members fields.empty
      return build (← fields.complete found)
    | .list items => do
      let inner ← source.enter
      let (values, left) ← fields.takeItems title fields.size inner 0 items
      Fields.endOfItems source (Fields.itemCount items) left
      return build values
    | d => .error (d.fault ("struct " ++ title))
  encode := fun r => .object (fields.members r)

end Codec

end EdgeApi
