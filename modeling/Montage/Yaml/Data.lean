import Montage.Number.Text
import Montage.Yaml.Moment

/-!
# Plain data

What a YAML text stands for, as far as a reader of settings looks into it: a scalar, or the entries
of a mapping with scalar keys. Scalars are written in messages.
-/

namespace Montage.Yaml

/-- The value of a scalar node. -/
inductive Scalar
  | null
  | bool (b : Bool)
  | int (n : Int)
  | float (x : Binary64)
  | moment (m : Moment)
  | text (s : String)
  | binary (bytes : List UInt8)
  deriving DecidableEq

/-- A value that is looked into no further. -/
inductive Content
  | scalar (s : Scalar)
  | collection
  deriving DecidableEq

/-- The value of a text. -/
inductive Document
  | scalar (s : Scalar)
  | mapping (entries : List (Scalar × Content))
  /-- A sequence, a set, or another collection that is no mapping. -/
  | other
  deriving DecidableEq

/-- Reads the bytes of a file as YAML. -/
abbrev Reader := ByteArray → Except Fault Document

/-! ### Writing -/

/-- A byte between quotes: printable ASCII as itself, any other byte as an escape. -/
def byteText (quote : Char) (b : UInt8) : List Char :=
  let c := Char.ofNat b.toNat
  if c == '\\' || c == quote then ['\\', c]
  else if c == '\t' then ['\\', 't']
  else if c == '\n' then ['\\', 'n']
  else if c == '\r' then ['\\', 'r']
  else if 32 ≤ b && b < 127 then [c]
  else '\\' :: 'x' :: [Nat.digitChar (b.toNat / 16), Nat.digitChar (b.toNat % 16)]

/-- Bytes between quotes, after a `b`. -/
def bytesText (bytes : List UInt8) : String :=
  let quote := if bytes.contains 39 && !bytes.contains 34 then '"' else '\''
  .ofList ('b' :: quote :: bytes.flatMap (byteText quote) ++ [quote])

def Scalar.display : Scalar → Except NumberFault String
  | .null => .ok "None"
  | .bool b => .ok (if b then "True" else "False")
  | .int n => decimalText n
  | .float x => .ok x.exactText
  | .moment m => .ok m.text
  | .text s => .ok s
  | .binary bytes => .ok (bytesText bytes)

end Montage.Yaml
