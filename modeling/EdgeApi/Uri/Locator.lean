import EdgeApi.Uri.Host

/-!
# Locators

Absolute locators in normal form: dot segments resolved, backslashes as slashes for the schemes of
the web, and characters outside of a part's set percent-encoded.
-/

set_option autoImplicit false

namespace EdgeApi.Uri

structure Locator where
  scheme : String
  host : Option Host
  port : Option Nat
  path : String
  query : Option String
  fragment : Option String

namespace Locator

def defaultPort? (scheme : String) : Option Nat :=
  [("http", 80), ("https", 443), ("ws", 80), ("wss", 443), ("ftp", 21)].lookup scheme

def isSpecial (scheme : String) : Bool :=
  (defaultPort? scheme).isSome || scheme == "file"

/-- Drops controls and blanks at both ends, and tabs and line ends everywhere. -/
def clean (s : String) : List Char :=
  let edge (c : Char) : Bool := c.toNat ≤ 0x20
  (((s.toList.dropWhile edge).reverse.dropWhile edge).reverse).filter fun c =>
    c != '\t' && c != '\n' && c != '\r'

def splitScheme (cs : List Char) : Option (String × List Char) :=
  let ok (c : Char) : Bool := c.isAlphanum || c == '+' || c == '-' || c == '.'
  match cs with
  | c :: _ =>
    if c.isAlpha then
      match cs.dropWhile ok with
      | ':' :: rest => some (String.ofList ((cs.takeWhile ok).map Char.toLower), rest)
      | _ => none
    else none
  | [] => none

def endsAuthority (special : Bool) (c : Char) : Bool :=
  c == '/' || c == '?' || c == '#' || (special && c == '\\')

def splitCredentials (cs : List Char) : Option (List Char) × List Char :=
  if cs.contains '@' then
    let host := (cs.reverse.takeWhile (· != '@')).reverse
    (some (cs.take (cs.length - host.length - 1)), host)
  else (none, cs)

def splitHost (inside : Bool) : List Char → List Char × List Char
  | [] => ([], [])
  | c :: rest =>
    if c = ':' ∧ ¬ inside then ([], c :: rest)
    else
      let inside := if c = '[' then true else if c = ']' then false else inside
      let (host, left) := splitHost inside rest
      (c :: host, left)

/-- The digits of a port; a backslash may end them. -/
def parsePort (n : Nat) (seen : Bool) : List Char → Except LocatorFault (Option Nat)
  | [] => .ok (if seen then some n else none)
  | c :: rest =>
    if c.isDigit then
      let n := n * 10 + (c.toNat - 48)
      if 65535 < n then .error .port else parsePort n true rest
    else if c = '\\' then .ok (if seen then some n else none)
    else .error .port

def parseAuthority (special atEnd : Bool) (cs : List Char) :
    Except LocatorFault (Option Host × Option Nat) := do
  let (credentials, rest) := splitCredentials cs
  if credentials = some [] ∧ rest = [] ∧ ¬ atEnd then throw .emptyHost
  let named := credentials.any fun c => c != [] && c != [':']
  let (host, portPart) := splitHost false rest
  if special ∧ host = [] then throw .emptyHost
  let parsed ← if special then Host.parse host else Host.parseOther host
  if host = [] ∧ (portPart ≠ [] ∨ named) then throw .emptyHost
  let port ← match portPart with
    | [] => pure none
    | _ :: digits => parsePort 0 false digits
  return (if host = [] then none else some parsed, port)

def keepsInPath (b : UInt8) : Bool :=
  0x20 < b && b < 0x7F && !([0x22, 0x23, 0x3C, 0x3E, 0x3F, 0x60, 0x7B, 0x7D].contains b)

def keepsInQuery (special : Bool) (b : UInt8) : Bool :=
  0x20 < b && b < 0x7F && !([0x22, 0x23, 0x3C, 0x3E].contains b) && !(special && b == 0x27)

def keepsInFragment (b : UInt8) : Bool :=
  0x20 < b && b < 0x7F && !([0x22, 0x3C, 0x3E, 0x60].contains b)

def encodeWith (keep : UInt8 → Bool) (cs : List Char) : List Char :=
  percentEncode keep (Text.Utf8.encode (String.ofList cs))

def plainDots : List Char → List Char
  | '%' :: '2' :: e :: rest =>
    if e = 'e' ∨ e = 'E' then '.' :: plainDots rest else '%' :: '2' :: e :: plainDots rest
  | c :: rest => c :: plainDots rest
  | [] => []

def isDot (segment : List Char) : Bool :=
  plainDots segment == ['.']

def isDoubleDot (segment : List Char) : Bool :=
  plainDots segment == ['.', '.']

/-- A letter with a colon or a bar, which no double dot removes. -/
def isDriveLetter : List Char → Bool
  | [c, m] => c.isAlpha && (m == ':' || m == '|')
  | _ => false

def pop : List (List Char) → List (List Char)
  | [] => []
  | s :: rest => if isDriveLetter s then s :: rest else rest

/-- Resolves dot segments; `done` holds the segments before in reverse. -/
def resolve (done : List (List Char)) : List (List Char) → List (List Char)
  | [] => done.reverse
  | [s] =>
    if isDoubleDot s then ([] :: pop done).reverse
    else if isDot s then ([] :: done).reverse
    else (s :: done).reverse
  | s :: rest =>
    if isDoubleDot s then resolve (pop done) rest
    else if isDot s then resolve done rest
    else resolve (s :: done) rest

def renderPath (special : Bool) (cs : List Char) : String :=
  let slashed := if special then cs.map fun c => if c = '\\' then '/' else c else cs
  let segments := (Host.splitAll '/' slashed).map (encodeWith keepsInPath)
  String.ofList ((resolve [] segments).flatMap fun s => '/' :: s)

def parseTail (special : Bool) (cs : List Char) : Option String × Option String :=
  let fragment := match cs.dropWhile (· != '#') with
    | _ :: f => some (String.ofList (encodeWith keepsInFragment f))
    | [] => none
  let query := match cs.takeWhile (· != '#') with
    | '?' :: q => some (String.ofList (encodeWith (keepsInQuery special) q))
    | _ => none
  (query, fragment)

def isPathChar (c : Char) : Bool :=
  c != '?' && c != '#'

def parseAfterSlashes (scheme : String) (cs : List Char) : Except LocatorFault Locator := do
  let special := isSpecial scheme
  let authority := cs.takeWhile fun c => !endsAuthority special c
  let rest := cs.dropWhile fun c => !endsAuthority special c
  let (host, port) ← parseAuthority special rest.isEmpty authority
  let pathPart := rest.takeWhile isPathChar
  let (query, fragment) := parseTail special (rest.dropWhile isPathChar)
  let path := if special ∨ pathPart ≠ [] then renderPath special (pathPart.drop 1) else ""
  return {
    scheme, host, path, query, fragment
    port := port.filter fun p => defaultPort? scheme != some p }

def parseFile (cs : List Char) : Except LocatorFault Locator := do
  let slash (c : Char) : Bool := c == '/' || c == '\\'
  let (host, rest) ← match cs with
    | a :: b :: rest =>
      if slash a && slash b then
        let name := rest.takeWhile fun c => !endsAuthority true c
        if name.isEmpty || isDriveLetter name then pure (none, rest)
        else do
          let host ← Host.parse name
          pure (if host = .name "localhost" then none else some host, rest.drop name.length)
      else pure (none, cs)
    | _ => pure (none, cs)
  let pathPart := rest.takeWhile isPathChar
  let (query, fragment) := parseTail true (rest.dropWhile isPathChar)
  let inner := match pathPart with
    | c :: tail => if slash c then tail else pathPart
    | [] => []
  return { scheme := "file", host, port := none, path := renderPath true inner, query, fragment }

def parse (s : String) : Except LocatorFault Locator :=
  match splitScheme (clean s) with
  | none => .error .relative
  | some (scheme, rest) =>
    if scheme = "file" then parseFile rest
    else if isSpecial scheme then
      parseAfterSlashes scheme (rest.dropWhile fun c => c == '/' || c == '\\')
    else
      match rest with
      | '/' :: '/' :: after => parseAfterSlashes scheme after
      | rest =>
        let pathPart := rest.takeWhile isPathChar
        let (query, fragment) := parseTail false (rest.dropWhile isPathChar)
        let path := match pathPart with
          | '/' :: tail => renderPath false tail
          | other => String.ofList (encodeWith (fun b => 0x1F < b && b < 0x7F) other)
        .ok { scheme, host := none, port := none, path, query, fragment }

def target (u : Locator) : String :=
  u.path ++ (match u.query with | some q => "?" ++ q | none => "")

def render (u : Locator) : String :=
  u.scheme ++ ":" ++
    (match u.host with | some h => "//" ++ h.render | none => "") ++
    (match u.port with | some p => ":" ++ toString p | none => "") ++ u.target ++
    (match u.fragment with | some f => "#" ++ f | none => "")

end Locator

end EdgeApi.Uri
