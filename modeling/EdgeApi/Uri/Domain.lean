import EdgeApi.Uri.Domain.Direction
import EdgeApi.Uri.Domain.Joining
import EdgeApi.Uri.Domain.Mapping
import EdgeApi.Uri.Domain.Normal
import EdgeApi.Uri.Percent
import EdgeApi.Uri.Punycode

/-!
# Domain names

Which texts are domain names, and their form in ASCII: percent codes are resolved, characters are
replaced by those that they stand for, and the labels, encoded or not, are looked at for what makes
them doubtful. Labels with characters beyond ASCII are encoded behind `xn--`.
-/

set_option autoImplicit false

namespace EdgeApi.Uri.Domain

def isForbidden (c : Char) : Bool :=
  let n := c.toNat
  n ≤ 0x20 || n == 0x7F || "%#/:<>?@[\\]^|".toList.contains c

def labels : List Char → List (List Char)
  | [] => [[]]
  | c :: rest =>
    if c = '.' then [] :: labels rest
    else
      match labels rest with
      | label :: others => (c :: label) :: others
      | [] => [[c]]

def longestLabel : Nat := 1000

def longestEncoding : Nat := 2000

/-- The text of a label after its `xn--`, which must be one that needs encoding and is in the form
that names are written in. -/
def decodeLabel (cs : List Char) : Option (List Char) :=
  if cs.isEmpty ∨ cs.getLast? = some '-' ∨ longestEncoding < cs.length then none
  else
    (Punycode.decode cs).filter fun text =>
      text.all (fun c => isSettled c && !isForbidden c && c != '.') && normalForm text == text

def readLabel : List Char → Option (List Char)
  | 'x' :: 'n' :: '-' :: '-' :: rest => decodeLabel rest
  | label => some label

def writeLabel (label : List Char) : List Char :=
  if isAscii label then label else "xn--".toList ++ Punycode.encode label

/-- Whether a label does not begin with a mark, has joiners only where they may stand, and is not
too long to be encoded. -/
def isSound (label : List Char) : Bool :=
  isAscii label || (!label.head?.any Text.isMark && Joining.isProper [] label &&
    decide (label.length ≤ longestLabel))

def areClear (labels : List (List Char)) : Bool :=
  let directions := labels.map fun label => label.map Direction.ofChar
  !directions.any (·.any Direction.isTurning) || directions.all Direction.isClear

def mapText (cs : List Char) : Option (List Char) :=
  (cs.mapM mapChar).map fun mapped => normalForm mapped.flatten

/-- The name in ASCII, `none` if it is no domain name. -/
def normalize (cs : List Char) : Option (List Char) := do
  let decoded ← Text.Utf8.decode? (percentDecode (Text.Utf8.encode (String.ofList cs)))
  let name ← mapText decoded.toList
  let texts ← (labels name).mapM readLabel
  if name.any isForbidden || !texts.all isSound || !areClear texts then none
  else return ['.'].intercalate ((labels name).map writeLabel)

end EdgeApi.Uri.Domain
