import EdgeApi.Json.Printer

/-!
# Styled text

Colours and weights of terminal output, and values laid out line by line.
-/

set_option autoImplicit false

namespace EdgeApi.Cli

inductive Style where
  | bold
  | dimmed
  | underline
  | red
  | green
  | yellow
  | blue
  | cyan
  deriving DecidableEq

namespace Style

def codes : Style → Nat × Nat
  | .bold => (1, 0)
  | .dimmed => (2, 0)
  | .underline => (4, 0)
  | .red => (31, 39)
  | .green => (32, 39)
  | .yellow => (33, 39)
  | .blue => (34, 39)
  | .cyan => (36, 39)

def escape (code : Nat) : String :=
  "\x1b[" ++ toString code ++ "m"

def apply (s : Style) (text : String) : String :=
  escape s.codes.1 ++ text ++ escape s.codes.2

end Style

/-- A sign in bold and a colour before a message. -/
def marked (sign : String) (colour : Style) (message : String) : String :=
  Style.bold.apply (colour.apply sign) ++ " " ++ message

def successLine (message : String) : String :=
  marked "✓" .green message

def warningLine (message : String) : String :=
  marked "⚠" .yellow message

def infoLine (message : String) : String :=
  marked "ℹ" .blue message

def headerLine (titles : List String) : String :=
  "\t".intercalate (titles.map fun t => Style.underline.apply (Style.bold.apply t))

namespace Compact

def scalar : Json → String
  | .null => Style.dimmed.apply "null"
  | .bool true => Style.green.apply "true"
  | .bool false => Style.red.apply "false"
  | .number n => Style.yellow.apply (Json.render (.number n))
  | .text s => s
  | j => j.render

def indent (depth : Nat) : String :=
  String.ofList (List.replicate (2 * depth) ' ')

mutual

/-- One line a scalar, with the parts of lists and objects indented under their names. -/
def lines (depth : Nat) : Json → List String
  | .object members => memberLines depth members
  | .list items => itemLines depth 0 items
  | .null => [indent depth ++ scalar .null]
  | .bool b => [indent depth ++ scalar (.bool b)]
  | .number n => [indent depth ++ scalar (.number n)]
  | .text s => [indent depth ++ scalar (.text s)]

def memberLines (depth : Nat) : List (String × Json) → List String
  | [] => []
  | (name, value) :: rest =>
    let head := indent depth ++ Style.cyan.apply name ++ ": "
    match value with
    | .object members => head :: memberLines (depth + 1) members ++ memberLines depth rest
    | .list items => head :: itemLines (depth + 1) 0 items ++ memberLines depth rest
    | value => (head ++ scalar value) :: memberLines depth rest

def itemLines (depth index : Nat) : List Json → List String
  | [] => []
  | item :: rest =>
    (indent depth ++ "[" ++ Style.dimmed.apply (toString index) ++ "]") ::
      lines (depth + 1) item ++ itemLines depth (index + 1) rest

end

end Compact

end EdgeApi.Cli
