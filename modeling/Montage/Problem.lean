import Montage.Text.Literal

/-!
# Problems

What the tool reports to its operator: a message with the category it belongs to. Categories form a
tree, so that a handler of one also takes all below it.
-/

namespace Montage

/-- The kinds of problems. -/
inductive Category
  | any
  | parsing
  | unknownArgument
  | quality
  | resize
  | path
  | merge
  | unexpected
  | building
  | unrecognized
  | running
  | configuration
  deriving DecidableEq, Repr

namespace Category

def all : List Category :=
  [any, parsing, unknownArgument, quality, resize, path, merge, unexpected, building, unrecognized,
   running, configuration]

def name : Category → String
  | any => "FfvidError"
  | parsing => "ParsingError"
  | unknownArgument => "UnknownArgError"
  | quality => "QualityError"
  | resize => "ResizeError"
  | path => "FilepathError"
  | merge => "MergeError"
  | unexpected => "ShouldNotHappenError"
  | building => "BuildingError"
  | unrecognized => "UnrecognizedArgError"
  | running => "RunningError"
  | configuration => "ConfigError"

def ofName? (name : String) : Option Category := all.find? (·.name == name)

def above : Category → List Category
  | any => []
  | parsing | building | running | configuration => [any]
  | unknownArgument | quality | resize | path | merge | unexpected => [parsing, any]
  | unrecognized => [building, any]

/-- A category and those above it, nearest first. -/
def lineage (c : Category) : List Category := c :: c.above

/-- Whether a handler of `c` takes problems of `d`. -/
def covers (c d : Category) : Bool := d.lineage.contains c

end Category

/-- A message to the operator. -/
structure Problem where
  category : Category
  message : String
  deriving DecidableEq, Repr

def Problem.display (p : Problem) : String := p.category.name ++ "(" ++ literal p.message ++ ")"

end Montage
