import EdgeApi.Cli.Usage

/-!
# Commands

The commands of the tool and their grammar. A few options may stand at every level.
-/

set_option autoImplicit false

namespace EdgeApi.Cli

inductive Command where
  | lists
  | items (list : String) (search : Option String)
  | addIps (list : String) (ips : List String) (comment : Option String)
  | groups (zone name : Option String)
  | users (zone email : Option String)
  | members (status : Option String)
  | roles
  | namespaces
  | keys (ns : String) (start : Option String)
  | getValue (ns key : String)
  | putValue (ns key value : String)
  | raw (path method : String) (body : Option String)
  deriving DecidableEq

structure Invocation where
  verbose : Bool
  account : Option String
  format : Option String
  command : Command
  deriving DecidableEq

namespace Invocation

def valued (short : Char) (long : String) : OptionSpec :=
  ⟨short, long, .value⟩

/-- The options of every level. -/
def common : List OptionSpec :=
  [⟨'v', "verbose", .flag⟩, valued 'f' "format", valued 'a' "account",
    ⟨'h', "help", .help⟩, ⟨'V', "version", .version⟩]

def ofReading (command : Reading → Command) (r : Reading) : Invocation :=
  { verbose := (r.value? "verbose").isSome, account := r.value? "account"
    format := r.value? "format", command := command r }

def simple (options : List OptionSpec) (arity : Nat) (command : Reading → Command) :
    Grammar Invocation :=
  .command (common ++ options) arity false (ofReading command)

def listsGrammar : Grammar Invocation :=
  .group common
    [("list", simple [] 0 fun _ => .lists),
      ("items", simple [valued 's' "search"] 1 fun r =>
        .items (r.positional 0) (r.value? "search")),
      ("add-ip", .command (common ++ [valued 'c' "comment"]) 2 true <| ofReading fun r =>
        .addIps (r.positional 0) (r.positionals.drop 1) (r.value? "comment"))]

def accessGrammar : Grammar Invocation :=
  .group (common ++ [valued 'z' "zone"])
    [("groups", simple [valued 'n' "name"] 0 fun r => .groups (r.value? "zone") (r.value? "name")),
      ("users", simple [valued 'e' "email"] 0 fun r => .users (r.value? "zone") (r.value? "email"))]

def membersGrammar : Grammar Invocation :=
  .group common
    [("list", simple [valued 's' "status"] 0 fun r => .members (r.value? "status")),
      ("roles", simple [] 0 fun _ => .roles)]

def kvGrammar : Grammar Invocation :=
  .group common
    [("namespaces", simple [] 0 fun _ => .namespaces),
      ("keys", simple [valued 'p' "prefix"] 1 fun r => .keys (r.positional 0) (r.value? "prefix")),
      ("get", simple [] 2 fun r => .getValue (r.positional 0) (r.positional 1)),
      ("put", simple [] 3 fun r => .putValue (r.positional 0) (r.positional 1) (r.positional 2))]

def grammar : Grammar Invocation :=
  .group common
    [("lists", listsGrammar), ("access", accessGrammar), ("members", membersGrammar),
      ("kv", kvGrammar),
      ("raw", simple [valued 'm' "method", valued 'b' "body"] 1 fun r =>
        .raw (r.positional 0) ((r.value? "method").getD "GET") (r.value? "body"))]

/-- Reads the arguments. An account that is not among them comes from the environment. -/
def parse (envAccount : Option String) (args : List String) : Except UsageFault Invocation :=
  (grammar.parse envAccount.isSome args).map fun i =>
    { i with account := i.account.or envAccount }

end Invocation

end EdgeApi.Cli
