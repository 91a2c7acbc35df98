/-!
# Command lines

Options, subcommands and positional arguments. Options start with one dash and a letter or with two
dashes and a name; after a bare double dash everything is positional. Help and version end the
reading wherever they stand.
-/

set_option autoImplicit false

namespace EdgeApi.Cli

inductive UsageFault where
  | missingRequiredArgument
  | missingSubcommand
  | invalidSubcommand
  | unknownArgument
  | invalidValue
  | tooManyValues
  | argumentConflict
  | displayHelp
  | displayHelpOnMissing
  | displayVersion
  deriving DecidableEq

namespace UsageFault

def name : UsageFault → String
  | .missingRequiredArgument => "MissingRequiredArgument"
  | .missingSubcommand => "MissingSubcommand"
  | .invalidSubcommand => "InvalidSubcommand"
  | .unknownArgument => "UnknownArgument"
  | .invalidValue => "InvalidValue"
  | .tooManyValues => "TooManyValues"
  | .argumentConflict => "ArgumentConflict"
  | .displayHelp => "DisplayHelp"
  | .displayHelpOnMissing => "DisplayHelpOnMissingArgumentOrSubcommand"
  | .displayVersion => "DisplayVersion"

end UsageFault

inductive OptionKind where
  | value
  | flag
  | help
  | version
  deriving DecidableEq

structure OptionSpec where
  short : Char
  long : String
  kind : OptionKind
  deriving DecidableEq

/-- What has been read: options with their values, the latest first, and positional arguments. -/
structure Reading where
  options : List (String × String) := []
  seen : List String := []
  positionals : List String := []

namespace Reading

def value? (r : Reading) (long : String) : Option String :=
  r.options.lookup long

def positional (r : Reading) (i : Nat) : String :=
  r.positionals.getD i ""

def add (r : Reading) (spec : OptionSpec) (value : String) : Except UsageFault Reading :=
  match spec.kind with
  | .help => .error .displayHelp
  | .version => .error .displayVersion
  | .value | .flag =>
    if r.seen.contains spec.long then .error .argumentConflict
    else .ok { r with options := (spec.long, value) :: r.options, seen := spec.long :: r.seen }

end Reading

/-- The commands of a tool: a group of subcommands, or a command with positional arguments. -/
inductive Grammar (α : Type) where
  | group (options : List OptionSpec) (children : List (String × Grammar α))
  /-- At least `arity` arguments are needed; more are taken only if the last may be repeated. -/
  | command (options : List OptionSpec) (arity : Nat) (repeating : Bool) (build : Reading → α)

namespace Grammar

variable {α : Type}

def options : Grammar α → List OptionSpec
  | group options _ => options
  | command options _ _ _ => options

def child? (g : Grammar α) (name : String) : Option (Grammar α) :=
  match g with
  | group _ children => children.lookup name
  | command _ _ _ _ => none

def isGroup : Grammar α → Bool
  | group _ _ => true
  | command _ _ _ _ => false

def help : Grammar α → List String → UsageFault
  | _, [] => .displayHelp
  | g, name :: rest =>
    if g.isGroup && name == "help" then
      (if rest.isEmpty then .displayHelp else .invalidSubcommand)
    else
      match g.child? name with
      | some g => g.help rest
      | none => .invalidSubcommand

def settled : Option OptionSpec → Except UsageFault Unit
  | none => .ok ()
  | some _ => .error .invalidValue

def readLetters (specs : List OptionSpec) (pending : Option OptionSpec) (r : Reading) :
    List Char → Except UsageFault (Reading × Option OptionSpec)
  | [] => .ok (r, pending)
  | c :: rest =>
    match specs.find? fun s => s.short == c with
    | none => .error .unknownArgument
    | some spec => do
      settled pending
      match spec.kind, rest with
      | .value, [] => return (r, some spec)
      | .value, '=' :: value => return (← r.add spec (String.ofList value), none)
      | .value, value => return (← r.add spec (String.ofList value), none)
      | _, rest => do
        let r ← r.add spec ""
        readLetters specs none r rest

def readName (specs : List OptionSpec) (pending : Option OptionSpec) (r : Reading)
    (cs : List Char) : Except UsageFault (Reading × Option OptionSpec) :=
  let name := String.ofList (cs.takeWhile (· != '='))
  let attached := cs.dropWhile (· != '=')
  match specs.find? fun s => s.long == name with
  | none => .error .unknownArgument
  | some spec =>
    match spec.kind, attached with
    | .value, [] => do
      settled pending
      return (r, some spec)
    | .value, _ :: value => do
      settled pending
      return (← r.add spec (String.ofList value), none)
    | _, _ :: _ => .error .tooManyValues
    | _, [] => do
      settled pending
      return (← r.add spec "", none)

def readPositional (g : Grammar α) (trailing : Bool) (pending : Option OptionSpec) (r : Reading)
    (arg : String) : Except UsageFault Reading :=
  match g with
  | group _ _ =>
    if trailing && (arg == "help" || (g.child? arg).isSome) then .error .unknownArgument
    else .error .invalidSubcommand
  | command _ arity repeating _ =>
    if repeating || decide (r.positionals.length < arity) then do
      settled pending
      return { r with positionals := r.positionals ++ [arg] }
    else .error .unknownArgument

/-- The end of the line. `given` tells whether the surroundings give an option of every level. -/
def finish (g : Grammar α) (given : Bool) (pending : Option OptionSpec) (r : Reading) :
    Except UsageFault α := do
  settled pending
  match g with
  | group _ _ =>
    if given || !r.seen.isEmpty then throw .missingSubcommand else throw .displayHelpOnMissing
  | command _ arity _ build =>
    if r.positionals.length < arity then throw .missingRequiredArgument else return build r

def read (given : Bool) (g : Grammar α) (r : Reading) (pending : Option OptionSpec)
    (trailing : Bool) : List String → Except UsageFault α
  | [] => g.finish given pending r
  | arg :: rest =>
    if trailing then do
      let r ← g.readPositional true pending r arg
      read given g r none true rest
    else if pending.isNone && g.isGroup && arg == "help" then .error (g.help rest)
    else
      match (if pending.isNone then g.child? arg else none), arg.toList with
      | some child, _ => read given child { r with seen := [] } none false rest
      | none, ['-', '-'] => read given g r pending true rest
      | none, '-' :: '-' :: name => do
        let (r, pending) ← readName g.options pending r name
        read given g r pending false rest
      | none, '-' :: c :: letters => do
        let (r, pending) ← readLetters g.options pending r (c :: letters)
        read given g r pending false rest
      | none, _ =>
        match pending with
        | some spec => do
          let r ← r.add spec arg
          read given g r none false rest
        | none => do
          let r ← g.readPositional false none r arg
          read given g r none false rest

def parse (given : Bool) (g : Grammar α) (args : List String) : Except UsageFault α :=
  g.read given {} none false args

end Grammar

end EdgeApi.Cli
