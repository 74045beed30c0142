import Montage.Failure

/-!
# Edit operations

What the operator asks for, one operation at a time, and how operations are shown.
-/

namespace Montage

/-- Whether a command writes a file or plays its result. -/
inductive Mode
  | transcode
  | preview
  deriving DecidableEq, Repr

/-- An edit operation. -/
inductive Operation
  | resize (width height : Int)
  | quality (score : Int)
  | merge (paths : List String)
  | execution (mode : Mode)
  | output (path : String)
  deriving DecidableEq, Repr

def Mode.display : Mode → String
  | transcode => "<ExecutionKind.DEFAULT: 'default'>"
  | preview => "<ExecutionKind.PREVIEW: 'preview'>"

def Operation.display : Operation → Except NumberFault String
  | resize width height => do
    let width ← decimalText width
    let height ← decimalText height
    return "Resize(width=" ++ width ++ ", height=" ++ height ++ ")"
  | quality score => return "Quality(score=" ++ (← decimalText score) ++ ")"
  | merge paths => return "Merge(paths=" ++ tupleText (paths.map literal) ++ ")"
  | execution mode => return "ExecutionType(kind=" ++ mode.display ++ ")"
  | output path => return "OutFilePath(path=" ++ literal path ++ ")"

def displayOperations (ops : List Operation) : Except NumberFault String := do
  return listText (← ops.mapM Operation.display)

/-- A value that is no edit operation. All that matters of it is how it is shown, if it can be. -/
structure Foreign where
  display : Except NumberFault String
  deriving Repr

/-- What can be handed over for compilation. -/
inductive Request
  | operation (op : Operation)
  | foreign (v : Foreign)
  deriving Repr

end Montage
