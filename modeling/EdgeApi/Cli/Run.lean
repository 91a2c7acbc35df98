import EdgeApi.Cli.Command
import EdgeApi.Cli.LogLayer
import EdgeApi.Cli.Style
import EdgeApi.Config
import EdgeApi.Operation
import EdgeApi.Text.Uppercase

/-!
# Running commands

Each command makes one call of the client and prints its result. A command that fails prints
nothing, except for a warning with the correlation id of the failure.
-/

set_option autoImplicit false

namespace EdgeApi.Cli

open Access Account EdgeApi.Lists Storage

inductive Failure where
  | call (error : Error)
  /-- The body given is no JSON text. -/
  | body (fault : Fault)
  | refused (message : String)

namespace Failure

def message : Failure → String
  | .call e => e.message
  | .body fault => fault.message
  | .refused message => message

end Failure

structure Context where
  config : Config
  account : Option String

namespace Context

def container (ctx : Context) : Except Failure Container :=
  match ctx.account with
  | some id => .ok ⟨.account, id⟩
  | none => .error (.refused "no account given; pass --account or set CF_ACCOUNT_ID")

end Context

abbrev Running (α : Type) := ExceptT Failure (StateM Session) α

namespace Running

def ofExcept {α : Type} (e : Except Failure α) : Running α :=
  ExceptT.mk (pure e)

def call {α : Type} (op : Operation α) (c : Container) : Running α := ExceptT.mk fun s =>
  match (op.run c).run s with
  | (.ok a, s) => (.ok a, s)
  | (.error e, s) => (.error (.call e), s)

end Running

def unlines (lines : List String) : String :=
  String.join (lines.map fun l => l ++ "\n")

/-- A value in the format chosen; tables fall back to indented JSON. -/
def print (format : OutputFormat) (j : Json) : String :=
  match format with
  | .json => j.render ++ "\n"
  | .compact => unlines (Compact.lines 0 j.sorted)
  | .table => j.renderIndented ++ "\n"

def printAll {α : Type} (format : OutputFormat) (c : Codec α) (items : List α) : String :=
  print format ((Codec.list c).encode items)

def total (count : Nat) (what : String) : String :=
  infoLine ("Total: " ++ toString count ++ " " ++ what)

def listLine (l : ItemList) : String :=
  "\t".intercalate
    [Style.bold.apply l.name, Style.cyan.apply l.kind.name,
      Style.yellow.apply (toString l.itemCount.toNat), Style.dimmed.apply l.id]

def valueText : Value → String
  | .ip address => address
  | .asn number => "AS" ++ toString number.toNat
  | .hostname h => h.urlHostname
  | .redirect r => r.sourceUrl ++ " → " ++ r.targetUrl

def itemLine (i : Item) : String :=
  "\t".intercalate
    [Style.cyan.apply i.value.kind.name, Style.bold.apply (valueText i.value),
      Style.dimmed.apply i.details.comment, Style.dimmed.apply i.details.id]

def substitute (names : List String) (value path : String) : String :=
  names.foldl (fun p n => Text.replaceAll n value p) path

def mentionsAny (names : List String) (path : String) : Bool :=
  names.any fun n => Text.occursIn n.toList path.toList

def accountMarks : List String :=
  [":account_id", "\x7baccount_id\x7d"]

def zoneMarks : List String :=
  [":zone_id", "\x7bzone_id\x7d"]

def fillAccount (ctx : Context) (path : String) : Except Failure String :=
  if mentionsAny accountMarks path then
    ctx.container.map fun c => substitute accountMarks c.id path
  else .ok path

def fillZone (ctx : Context) (path : String) : Except Failure String :=
  if mentionsAny zoneMarks path then
    match ctx.config.zoneId with
    | some zone => .ok (substitute zoneMarks zone path)
    | none => .error (.refused "path needs a zone; set CF_ZONE_ID")
  else .ok path

/-- Fills in the identifiers that a path asks for, those of the account first. -/
def fillPath (ctx : Context) (path : String) : Except Failure String := do
  fillZone ctx (← fillAccount ctx path)

def rawMethod (name : String) : Except Failure Method :=
  let upper := Text.uppercase name
  if ["GET", "POST", "PUT", "PATCH", "DELETE"].contains upper then .ok ⟨upper⟩
  else .error (.refused ("Unsupported HTTP method: " ++ upper))

def rawBody (body : Option String) : Except Failure (Option Json) :=
  match body with
  | none => .ok none
  | some text =>
    match Json.parse (Text.Utf8.encode text) with
    | .ok j => .ok (some j)
    | .error fault => .error (.body fault)

namespace Command

def run (ctx : Context) (command : Command) : Running (List UInt8) := do
  let format := ctx.config.outputFormat
  let text (lines : String) : Running (List UInt8) := return Text.Utf8.encode lines
  match command with
  | lists => do
    let c ← Running.ofExcept ctx.container
    let (found, _) ← Running.call (.listLists {}) c
    if format = .table then
      text <| unlines <|
        headerLine ["NAME", "KIND", "ITEMS", "ID"] :: found.map listLine ++
          [total found.length "lists"]
    else text (printAll format ItemList.codec found)
  | items list search => do
    let c ← Running.ofExcept ctx.container
    let found ← Running.call (.listItems list search none none) c
    if format = .table then
      text <| unlines <|
        headerLine ["KIND", "VALUE", "COMMENT", "ID"] :: found.map itemLine ++
          [total found.length "items"]
    else text (printAll format Item.codec found)
  | addIps list ips comment => do
    let c ← Running.ofExcept ctx.container
    let new := ips.map fun ip => { value := .ip ip, comment := comment.getD "" : NewItem }
    let found ← Running.call (.applyChange list (.add new)) c
    text <| unlines [successLine ("Added " ++ toString ips.length ++
      " addresses, list now holds " ++ toString found.length ++ " items")]
  | groups zone name => do
    let c ← match zone with
      | some id => pure ⟨.zone, id⟩
      | none => Running.ofExcept ctx.container
    let (found, info) ← Running.call (.listGroups ⟨name, none⟩ {}) c
    text <| printAll format Group.codec found ++ unlines
      [total found.length ("groups (" ++ toString info.totalCount.toNat ++ " reported)")]
  | users zone email => do
    let c ← match zone with
      | some id => pure ⟨.zone, id⟩
      | none => Running.ofExcept ctx.container
    let (found, _) ← Running.call (.listUsers ⟨none, email, none⟩ {}) c
    text (printAll format User.codec found ++ unlines [total found.length "users"])
  | members status => do
    let c ← Running.ofExcept ctx.container
    let (found, _) ← Running.call (.listMembers status {}) c
    text (printAll format Member.codec found ++ unlines [total found.length "members"])
  | roles => do
    let c ← Running.ofExcept ctx.container
    let (found, _) ← Running.call (.listRoles {}) c
    text (printAll format Role.codec found)
  | namespaces => do
    let c ← Running.ofExcept ctx.container
    let (found, _) ← Running.call (.listNamespaces none none {}) c
    text (printAll format KvNamespace.codec found)
  | keys ns start => do
    let c ← Running.ofExcept ctx.container
    let found ← Running.call (.listKeys ns start none none) c
    text (printAll format StorageKey.codec found ++ unlines [total found.length "keys"])
  | getValue ns key => do
    let c ← Running.ofExcept ctx.container
    Running.call (.readValue ns key) c
  | putValue ns key value => do
    let c ← Running.ofExcept ctx.container
    Running.call (.writeValue ns key (Text.Utf8.encode value)) c
    text (unlines [successLine ("Wrote " ++ key)])
  | raw path method body => do
    let path ← Running.ofExcept (fillPath ctx path)
    let method ← Running.ofExcept (rawMethod method)
    let body ← Running.ofExcept (rawBody body)
    let result ← Running.call (.raw method path body) ⟨.account, ""⟩
    text (print format result)

end Command

/-- What stops a line before its command. -/
inductive Refusal where
  | usage (fault : UsageFault)
  | config (error : Error)

structure Outcome where
  result : Except Failure Unit
  /-- What is told while the command runs. -/
  logged : List LogEvent
  /-- What the command itself prints. -/
  printed : List UInt8
  stdout : List UInt8
  stderr : List UInt8
  session : Session

/-- The warning for a failure that carries a correlation id. -/
def warning : Failure → List UInt8
  | .call e =>
    match e.rayId? with
    | some id => Text.Utf8.encode (unlines [warningLine ("ray id: " ++ id)])
    | none => []
  | .body _ => []
  | .refused _ => []

structure Prepared where
  invocation : Invocation
  layer : LogLayer
  context : Context

def Prepared.command (p : Prepared) : Command :=
  p.invocation.command

def prepare (library : LogLibrary) (env : Environment) (args : List String) :
    Except Refusal Prepared :=
  match Invocation.parse (env.lookup "CF_ACCOUNT_ID") args with
  | .error fault => .error (.usage fault)
  | .ok i =>
    match Config.load env with
    | .error e => .error (.config e)
    | .ok config =>
      let config := match i.format with
        | some f => { config with outputFormat := .parse f }
        | none => config
      .ok {
        invocation := i
        layer := .ofEnvironment library env i.verbose
        context := ⟨config, i.account.or config.accountId⟩ }

/-- Runs a command to its end. A command prints when its call is done, after all that is told. -/
def execute (p : Prepared) (s : Session) : Outcome :=
  let (outcome, later) := (p.command.run p.context).run s
  let logged := later.log.drop s.log.length
  let lines := Text.Utf8.encode (p.layer.write logged)
  match outcome with
  | .ok printed => ⟨.ok (), logged, printed, lines ++ printed, [], later⟩
  | .error failure => ⟨.error failure, logged, [], lines, warning failure, later⟩

def run (library : LogLibrary) (env : Environment) (args : List String) (s : Session) :
    Except Refusal Outcome :=
  (prepare library env args).map fun p => execute p s

end EdgeApi.Cli
