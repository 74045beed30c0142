import Montage.Number.Decimal
import Montage.Yaml.Moment

/-!
# Tags

The kinds of data that a node can be, and the kind that a scalar without a tag of its own has by its
text.
-/

namespace Montage.Yaml

/-- The kind of data that a node stands for. -/
inductive Tag
  | null
  | bool
  | int
  | float
  | timestamp
  | text
  | binary
  | merge
  | default
  | sequence
  | mapping
  | orderedMapping
  | pairs
  | set
  | unknown
  deriving DecidableEq, Repr

/-- What the standard tags start with. -/
def Tag.standard : String := "tag:yaml.org,2002:"

/-- The kind that a full tag names. -/
def Tag.ofName (name : String) : Tag :=
  let named (short : String) : Bool := name == Tag.standard ++ short
  if named "null" then .null
  else if named "bool" then .bool
  else if named "int" then .int
  else if named "float" then .float
  else if named "timestamp" then .timestamp
  else if named "str" then .text
  else if named "binary" then .binary
  else if named "seq" then .sequence
  else if named "map" then .mapping
  else if named "omap" then .orderedMapping
  else if named "pairs" then .pairs
  else if named "set" then .set
  else if named "merge" then .merge
  else if named "value" then .default
  else .unknown

/-! ### Kinds of texts -/

def truthWords : List (String × Bool) :=
  [("yes", true), ("Yes", true), ("YES", true), ("no", false), ("No", false), ("NO", false),
   ("true", true), ("True", true), ("TRUE", true), ("false", false), ("False", false),
   ("FALSE", false), ("on", true), ("On", true), ("ON", true), ("off", false), ("Off", false),
   ("OFF", false)]

/-- The words for no value, the empty text among them. -/
def nullWords : List String := ["", "~", "null", "Null", "NULL"]

/-- A digit, or an underscore that groups digits. -/
def isGroupedDigit (c : Char) : Bool := c.isDigit || c == '_'

def isRunOf (p : Char → Bool) (cs : List Char) : Bool := !cs.isEmpty && cs.all p

/-- What follows the longest run of groups of a colon and one or two digits, the first of two being
at most 5; there is one group at least. -/
def dropSixties : List Char → Option (List Char)
  | ':' :: a :: b :: cs =>
    if !a.isDigit then none
    else if b.isDigit then
      if '5' < a then none
      else if cs.head? == some ':' then dropSixties cs
      else some cs
    else if b == ':' then dropSixties (b :: cs)
    else some (b :: cs)
  | [':', a] => if a.isDigit then some [] else none
  | _ => none

def isIntText (cs : List Char) : Bool :=
  match (splitSign cs).2 with
  | '0' :: rest =>
    rest.isEmpty
      || isRunOf (fun c => ('0' ≤ c && c ≤ '7') || c == '_') rest
      || (rest.head? == some 'b' && isRunOf (fun c => c == '0' || c == '1' || c == '_') rest.tail)
      || (rest.head? == some 'x' && isRunOf (fun c => isGroupedDigit c || ('a' ≤ c && c ≤ 'f')
            || ('A' ≤ c && c ≤ 'F')) rest.tail)
  | cs =>
    cs.head?.any Char.isDigit &&
      let rest := cs.dropWhile isGroupedDigit
      rest.isEmpty || dropSixties rest == some []

/-- Whether the text is empty or an exponent: `e` or `E`, a sign, and digits. -/
def isExponentText : List Char → Bool
  | [] => true
  | e :: sign :: digits =>
    (e == 'e' || e == 'E') && (sign == '+' || sign == '-') && isRunOf Char.isDigit digits
  | _ => false

/-- Whether the text is a decimal or base-60 number with a point, or one of the words for infinity
and not-a-number. -/
def isFloatText (cs : List Char) : Bool :=
  let pointed (rest : List Char) : Bool := match rest with
    | '.' :: fraction => isExponentText (fraction.dropWhile isGroupedDigit)
    | _ => false
  let body := (splitSign cs).2
  let whole := body.dropWhile isGroupedDigit
  (body.head?.any Char.isDigit && (pointed whole ||
    match dropSixties whole with
    | some ('.' :: fraction) => fraction.all isGroupedDigit
    | _ => false))
  || (match cs with
    | '.' :: d :: fraction => d.isDigit && isExponentText (fraction.dropWhile isGroupedDigit)
    | _ => false)
  || body ∈ [".inf".toList, ".Inf".toList, ".INF".toList]
  || cs ∈ [".nan".toList, ".NaN".toList, ".NAN".toList]

/-- The kind that a text gives to a scalar. A line feed at its end does not count, but a line feed
alone is a text. -/
def Tag.ofText (text : String) : Tag :=
  let cs := dropFinalBreak text.toList
  let word := String.ofList cs
  if truthWords.any (·.1 == word) then .bool
  else if isFloatText cs then .float
  else if isIntText cs then .int
  else if word == "<<" then .merge
  else if nullWords.contains word && text != "\n" then .null
  else if Moment.isMomentText cs then .timestamp
  else if word == "=" then .default
  else if ["!", "&", "*"].contains word then .unknown
  else .text

end Montage.Yaml
