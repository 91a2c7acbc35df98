import EdgeApi.Client.Reply
import EdgeApi.Uri.Query

/-!
# Listings

Walking listings page by page or cursor by cursor. A caller who picks a page or a page size gets
that page only.
-/

set_option autoImplicit false

namespace EdgeApi

structure PageOptions where
  page : Option UInt32 := none
  perPage : Option UInt32 := none
  deriving DecidableEq

namespace PageOptions

def isAuto (o : PageOptions) : Bool :=
  o.page.getD 0 == 0 && o.perPage.getD 0 == 0

def query (o : PageOptions) : Uri.Query :=
  Uri.Query.number "page" o.page ++ Uri.Query.number "per_page" o.perPage

end PageOptions

namespace Client

/-- Repeats a step until it gives a result. Every step takes a reply out of the inbox or fails, so
the replies bound the number of steps. -/
def repeatUntil {σ β : Type} (step : σ → Client (σ ⊕ β)) (start : σ) : Client β :=
  ExceptT.mk fun s => loop (s.inbox.length + 1) start s
where
  loop : Nat → σ → Session → Except Error β × Session
    | 0, _, s => (.error (.transport (.other "no response queued")), s)
    | fuel + 1, state, s =>
      match (step state).run s with
      | (.error e, s) => (.error e, s)
      | (.ok (.inr result), s) => (.ok result, s)
      | (.ok (.inl state), s) => loop fuel state s

structure PageWalk (α : Type) where
  items : List α
  page : UInt32
  perPage : UInt32

def pageEvent (path : String) (page : UInt32) (found : Nat) (next : ResultInfo) : LogEvent where
  severity := .debug
  target := "cfapi::api::pagination"
  message := path ++ ": page " ++ toString page.toNat ++ " served, " ++ toString found ++
    " items so far, " ++ toString next.totalPages.toNat ++ " pages total"

/-- Fetches one page. The walk ends with the last page, with a server that does not move on, and
with the first page if it was picked. -/
def pageStep {α : Type} (c : Codec α) (path : String) (filters : Uri.Query) (auto : Bool)
    (w : PageWalk α) : Client (PageWalk α ⊕ (List α × ResultInfo)) := do
  let options : PageOptions := { page := some w.page, perPage := some w.perPage }
  let envelope ← request (.list c) .get (Uri.build path (filters ++ options.query))
  let items := w.items ++ envelope.result.getD []
  match (envelope.info.getD {}).next? with
  | none => throw .pageOverflow
  | some next =>
    tell [pageEvent path w.page items.length next]
    if next.done || !auto || decide (next.page ≤ w.page) then return .inr (items, next)
    else return .inl ⟨items, next.page, if 0 < next.perPage then next.perPage else w.perPage⟩

def listPages {α : Type} (c : Codec α) (path : String) (filters : Uri.Query)
    (options : PageOptions) (defaultPerPage : UInt32) : Client (List α × ResultInfo) :=
  let page := options.page.getD 0
  let perPage := options.perPage.getD 0
  repeatUntil (pageStep c path filters options.isAuto)
    ⟨[], if page = 0 then 1 else page, if perPage = 0 then defaultPerPage else perPage⟩

structure CursorWalk (α : Type) where
  items : List α
  cursor : Option String
  previous : String

def cursorEvent (path : String) (found : Nat) (cursor : String) : LogEvent where
  severity := .debug
  target := "cfapi::api::pagination"
  message := path ++ ": " ++ toString found ++ " items so far, next cursor " ++ Text.quoted cursor

/-- Fetches what a cursor stands for. The walk ends without a further cursor, and with one that
comes twice in a row. -/
def cursorStep {α : Type} (c : Codec α) (path : String) (filters : Uri.Query)
    (w : CursorWalk α) : Client (CursorWalk α ⊕ (List α × ResultInfo)) := do
  let query := filters ++ Uri.Query.opt "cursor" w.cursor
  let envelope ← request (.list c) .get (Uri.build path query)
  let items := w.items ++ envelope.result.getD []
  let info := envelope.info.getD {}
  let cursor := info.nextCursor
  tell [cursorEvent path items.length cursor]
  if cursor.isEmpty || cursor == w.previous then return .inr (items, info)
  else return .inl ⟨items, some cursor, cursor⟩

def listCursor {α : Type} (c : Codec α) (path : String) (filters : Uri.Query)
    (cursor : Option String) : Client (List α × ResultInfo) :=
  repeatUntil (cursorStep c path filters) ⟨[], cursor, ""⟩

end Client

end EdgeApi
