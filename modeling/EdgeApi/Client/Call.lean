import EdgeApi.Client.Listing

/-!
# Calls

A call states the containers it is for, what its arguments must meet, and the exchange that follows.
The exchange starts only when the container fits and every need is met.
-/

set_option autoImplicit false

namespace EdgeApi

/-- The containers a call is for. -/
inductive Scope where
  | only (level : Level)
  | either
  /-- The container is not looked at. -/
  | free
  deriving DecidableEq

namespace Scope

def check : Scope → Container → Except Error Unit
  | .only level, c => c.require level
  | .either, c => c.validate
  | .free, _ => .ok ()

end Scope

structure Need where
  met : Bool
  otherwise : Error
  deriving DecidableEq

namespace Need

def filled (value : String) (otherwise : Error) : Need :=
  ⟨!value.isEmpty, otherwise⟩

def checkAll : List Need → Except Error Unit
  | [] => .ok ()
  | n :: rest => if n.met then checkAll rest else .error n.otherwise

end Need

structure Call (α : Type) where
  scope : Scope
  needs : List Need
  exchange : Container → Client α

namespace Call

variable {α : Type}

def guard (call : Call α) (c : Container) : Except Error Unit := do
  call.scope.check c
  Need.checkAll call.needs

def run (call : Call α) (c : Container) : Client α := do
  Client.check (call.guard c)
  call.exchange c

end Call

/-- Resources of one type under one path, told apart by identifiers. -/
structure Collection (α : Type) where
  scope : Scope
  path : String
  codec : Codec α
  unidentified : Error
  pageSize : UInt32

namespace Collection

variable {α : Type}

def pathIn (k : Collection α) (c : Container) : String :=
  c.path ++ k.path

/-- The path of a member, or one below it. -/
def memberPath (k : Collection α) (c : Container) (id : String) : String :=
  k.pathIn c ++ "/" ++ id

def list (k : Collection α) (filters : Uri.Query) (options : PageOptions) :
    Call (List α × ResultInfo) where
  scope := k.scope
  needs := []
  exchange := fun c => Client.listPages k.codec (k.pathIn c) filters options k.pageSize

def get (k : Collection α) (id : String) : Call α where
  scope := k.scope
  needs := [.filled id k.unidentified]
  exchange := fun c => Client.get k.codec (k.memberPath c id)

def create (k : Collection α) (body : Json) : Call α where
  scope := k.scope
  needs := []
  exchange := fun c => Client.post k.codec (k.pathIn c) body

def replace (k : Collection α) (id : String) (body : Json) : Call α where
  scope := k.scope
  needs := [.filled id k.unidentified]
  exchange := fun c => Client.put k.codec (k.memberPath c id) body

def delete (k : Collection α) (id : String) : Call Unit where
  scope := k.scope
  needs := [.filled id k.unidentified]
  exchange := fun c => Client.delete (k.memberPath c id)

/-- Deletes a member and gives it as it was. -/
def take (k : Collection α) (id : String) : Call α where
  scope := k.scope
  needs := [.filled id k.unidentified]
  exchange := fun c => Client.fetch k.codec .delete (k.memberPath c id)

end Collection

namespace Call

variable {α : Type}

def raw (method : Method) (path : String) (body : Option Json) : Call Json where
  scope := .free
  needs := []
  exchange := fun _ => Client.raw method path body

def needing (call : Call α) (needs : List Need) : Call α :=
  { call with needs := call.needs ++ needs }

def needingFirst (call : Call α) (needs : List Need) : Call α :=
  { call with needs := needs ++ call.needs }

end Call

end EdgeApi
