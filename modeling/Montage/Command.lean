import Montage.Shell
import Montage.Text.Literal

/-!
# Commands

A compiled command: the program and its arguments, each a fragment of one word or more.
-/

namespace Montage

/-- A program with its argument fragments. -/
structure Command where
  invocation : String
  args : List String
  deriving DecidableEq, Repr

namespace Command

def text (c : Command) : String := " ".intercalate (c.invocation :: c.args)

/-- The command as it is given to a shell. -/
def shellText (c : Command) : String :=
  " ".intercalate (Shell.quote c.invocation :: c.args.map Shell.fragment)

def display (c : Command) : String :=
  "Command(invocation=" ++ literal c.invocation ++ ", args=" ++ tupleText (c.args.map literal) ++ ")"

end Command

end Montage
