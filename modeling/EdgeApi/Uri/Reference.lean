import EdgeApi.Uri.Host

/-!
# References

Locators as they are written from another one: with a server of their own, from the root of a
server, or from the place of the other. A text with characters that a locator does not hold is no
reference.
-/

set_option autoImplicit false

namespace EdgeApi.Uri

structure Reference where
  /-- Whether a server is named. -/
  isAbsolute : Bool
  path : List Char
  query : Option (List Char)

namespace Reference

def isPlain (c : Char) : Bool :=
  c.isAlphanum || "-._~!$&'()*+,;=:@/".toList.contains c

/-- Whether all characters are plain or one of `more`, and percent signs begin a code. -/
def isWritten (more : List Char) : List Char → Bool
  | [] => true
  | '%' :: a :: b :: rest =>
    (Host.digit? 16 a).isSome && (Host.digit? 16 b).isSome && isWritten more rest
  | c :: rest => (isPlain c || more.contains c) && isWritten more rest

def isScheme : List Char → Bool
  | [] => false
  | c :: rest =>
    c.isAlpha && rest.all fun d => d.isAlphanum || d == '+' || d == '-' || d == '.'

def cut (mark : Char) (cs : List Char) : List Char × Option (List Char) :=
  (cs.takeWhile (· != mark),
    match cs.dropWhile (· != mark) with
    | [] => none
    | _ :: rest => some rest)

def parse? (s : String) : Option Reference :=
  let (whole, fragment) := cut '#' s.toList
  let (path, query) := cut '?' whole
  let first := path.takeWhile (· != '/')
  let named := first.contains ':'
  if isWritten [] path && query.all (isWritten ['?']) && fragment.all (isWritten ['?']) &&
      (!named || isScheme (cut ':' first).1) then
    some { isAbsolute := named || path.take 2 == ['/', '/'], path, query }
  else none

/-- Resolves dot segments; the segments before are in reverse. -/
def withoutDots (done : List (List Char)) : List (List Char) → List (List Char)
  | [] => done.reverse
  | s :: rest =>
    let ended (left : List (List Char)) := if rest.isEmpty then [] :: left else left
    if s = ['.'] then withoutDots (ended done) rest
    else if s = ['.', '.'] then withoutDots (ended (done.drop 1)) rest
    else withoutDots (s :: done) rest

def plainPath (cs : List Char) : List Char :=
  (withoutDots [] (Host.splitAll '/' (cs.drop 1))).flatMap fun s => '/' :: s

def resolve (r : Reference) (target : String) : String :=
  let (base, query) := cut '?' target.toList
  let (path, query) :=
    match r.path with
    | [] => (base, r.query.or query)
    | '/' :: _ => (plainPath r.path, r.query)
    | _ => (plainPath ((base.reverse.dropWhile (· != '/')).reverse ++ r.path), r.query)
  String.ofList (path ++ (match query with | some q => '?' :: q | none => []))

end Reference

end EdgeApi.Uri
