import EdgeApi.Client.BulkOperation
import EdgeApi.Client.Call
import EdgeApi.Lists.Item

/-!
# Lists

Lists of an account and the changes to their items. The server works changes to items off in its own
time; a change either gives the operation, or waits for its end and gives the items then.
-/

set_option autoImplicit false

namespace EdgeApi.Lists

structure ItemList where
  id : String
  name : String
  description : String
  kind : Kind
  itemCount : UInt32
  referencingFilterCount : UInt32
  createdOn : Option Timestamp
  modifiedOn : Option Timestamp
  deriving DecidableEq

namespace ItemList

def fields := (
  .cons (.required "id" .text id) <|
  .cons (.required "name" .text name) <|
  .cons (.words "description" description) <|
  .cons (.required "kind" Kind.codec kind) <|
  .cons (.lenient "num_items" .uint32 0 itemCount) <|
  .cons (.lenient "num_referencing_filters" .uint32 0 referencingFilterCount) <|
  .cons (.optional "created_on" .timestamp createdOn) <|
  .cons (.optional "modified_on" .timestamp modifiedOn) .nil : Fields ItemList _ _)

def codec : Codec ItemList :=
  .record "List" fields
    fun (id, name, description, kind, itemCount, referencingFilterCount, createdOn, modifiedOn,
        ()) =>
      { id, name, description, kind, itemCount, referencingFilterCount, createdOn, modifiedOn }

def collection : Collection ItemList where
  scope := .only .account
  path := "/rules/lists"
  codec := codec
  unidentified := .missingListId
  pageSize := 25

def list (options : PageOptions) : Call (List ItemList × ResultInfo) :=
  collection.list [] options

def get (id : String) : Call ItemList :=
  collection.get id

def create (name description : String) (kind : Kind) : Call ItemList :=
  let shown := if description.isEmpty then [] else [("description", .text description)]
  let body := .object (("name", .text name) :: shown ++ [("kind", .text kind.name)])
  (collection.create body).needing [.filled name (.missingResourceId "list name")]

def update (id description : String) : Call ItemList :=
  collection.replace id (.object [("description", .text description)])

def delete (id : String) : Call Unit :=
  collection.delete id

def itemsPath (c : Container) (list : String) : String :=
  collection.memberPath c list ++ "/items"

end ItemList

namespace Item

/-- The items of a list; they come by cursors. -/
def list (list : String) (search : Option String) (perPage : Option UInt32)
    (cursor : Option String) : Call (List Item) where
  scope := .only .account
  needs := [.filled list .missingListId]
  exchange := fun c =>
    Prod.fst <$> Client.listCursor codec (ItemList.itemsPath c list)
      (.opt "search" search ++ .number "per_page" perPage) cursor

def get (list item : String) : Call Item where
  scope := .only .account
  needs := [.filled list .missingListId, .filled item (.missingResourceId "item id")]
  exchange := fun c => Client.get codec (ItemList.itemsPath c list ++ "/" ++ item)

end Item

structure OperationRef where
  operationId : String
  deriving DecidableEq

namespace OperationRef

def fields := (
  .cons (.required "operation_id" .text operationId) .nil : Fields OperationRef _ _)

def codec : Codec OperationRef :=
  .record "OperationRef" fields fun (operationId, ()) => { operationId }

end OperationRef

inductive Change where
  | add (items : List NewItem)
  | replace (items : List NewItem)
  | remove (ids : List String)
  deriving DecidableEq

namespace Change

def method : Change → Method
  | .add _ => .post
  | .replace _ => .put
  | .remove _ => .delete

def body : Change → Json
  | .add items => .list (items.map NewItem.toJson)
  | .replace items => .list (items.map NewItem.toJson)
  | .remove ids => .object [("items", .list (ids.map fun id => .object [("id", .text id)]))]

/-- Starts a change; gives the operation that carries it out. -/
def start (list : String) (change : Change) : Call String where
  scope := .only .account
  needs := [.filled list .missingListId]
  exchange := fun c =>
    OperationRef.operationId <$>
      Client.fetch OperationRef.codec change.method (ItemList.itemsPath c list)
        (some change.body.sorted)

def operation (id : String) : Call BulkOperation where
  scope := .only .account
  needs := [.filled id (.missingResourceId "operation id")]
  exchange := fun c =>
    Client.get BulkOperation.codec (ItemList.collection.pathIn c ++ "/bulk_operations/" ++ id)

def poll (id : String) : Call BulkOperation where
  scope := .only .account
  needs := [.filled id (.missingResourceId "operation id")]
  exchange := fun c => do
    Client.poll (← get).schedule fun _ => (operation id).run c

/-- Carries a change out; gives the items of the list afterwards. -/
def apply (list : String) (change : Change) : Call (List Item) where
  scope := .only .account
  needs := [.filled list .missingListId]
  exchange := fun c => do
    let id ← (start list change).run c
    let _ ← (poll id).run c
    (Item.list list none none none).run c

end Change

end EdgeApi.Lists
