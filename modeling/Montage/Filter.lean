import Montage.Number.Decimal

/-!
# Filters

The filter graphs of the transcoder: scaling, and the concatenation of several inputs.
-/

namespace Montage

def scaleFilter (width height : Int) : Except NumberFault String := do
  let width ← decimalText width
  let height ← decimalText height
  return "scale=" ++ width ++ ":" ++ height

/-- The part of a graph that names the pictures of an input. -/
def inputLabel (i : Nat) : String := "[" ++ i.repr ++ "][v" ++ i.repr ++ "]"

/-- The part of a graph that feeds the named pictures and the sound of an input. -/
def inputPair (i : Nat) : String := "[v" ++ i.repr ++ "][" ++ i.repr ++ ":a:0]"

/-- The graph that plays `count` inputs one after the other. -/
def mergeGraph (count : Nat) : String :=
  ";".intercalate ((List.range count).map inputLabel) ++ ";" ++
    String.join ((List.range count).map inputPair) ++
    "concat=n=" ++ count.repr ++ ":v=1:a=1[outv][outa]"

/-- The flags that take the two outputs of a merge graph. -/
def mergeMap : String := "-map \"[outv]\" -map \"[outa]\" -vsync 0"

def filterFlag (filters : List String) : String := "-vf " ++ ",".intercalate filters

end Montage
