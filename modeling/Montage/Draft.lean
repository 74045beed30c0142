import Montage.Command
import Montage.Filter
import Montage.Operation
import Montage.Rate

/-!
# Drafts

A command while it is put together. Operations may come in any order; the fragments of the finished
command have a fixed one: filters, rate control, stream map, output paths. A player takes neither
rate control nor a stream map.
-/

namespace Montage

/-- The names of the two programs that commands start. -/
structure Programs where
  transcoder : String
  player : String
  deriving DecidableEq, Repr

def Programs.standard : Programs := ⟨"ffmpeg", "ffplay"⟩

/-- A command that is being put together. -/
structure Draft where
  programs : Programs
  preview : Bool
  filters : List String
  rateFlags : Option String
  mapFlags : Option String
  outputs : List String
  deriving DecidableEq, Repr

namespace Draft

def empty (programs : Programs) : Draft := ⟨programs, false, [], none, none, []⟩

def invocation (d : Draft) : String := if d.preview then d.programs.player else d.programs.transcoder

def addOperation (curve : Curve) (d : Draft) : Operation → Except NumberFault Draft
  | .resize width height => do
    let filter ← scaleFilter width height
    return { d with filters := d.filters ++ [filter] }
  | .quality score => do
    let rate ← RateControl.ofQuality curve score
    let flags ← rate.flags
    return { d with rateFlags := some flags }
  | .merge paths =>
    .ok { d with filters := d.filters ++ [mergeGraph paths.length], mapFlags := some mergeMap }
  | .execution mode => .ok { d with preview := mode == .preview }
  | .output path => .ok { d with outputs := d.outputs ++ [path] }

/-- Adds a request to the draft; only edit operations can be compiled. -/
def add (curve : Curve) (d : Draft) : Request → Except Failure Draft
  | .operation op => orNumberFailure (d.addOperation curve op)
  | .foreign v => do
    let shown ← orNumberFailure v.display
    .error (.unrecognized shown)

def command (d : Draft) : Command where
  invocation := d.invocation
  args :=
    (if d.filters.isEmpty then [] else [filterFlag d.filters])
      ++ (if d.preview then [] else d.rateFlags.toList ++ d.mapFlags.toList)
      ++ d.outputs

end Draft

/-- The command for a list of requests; the first one that cannot be added fails it. -/
def compileRequests (curve : Curve) (programs : Programs) (requests : List Request) :
    Except Failure Command := do
  let draft ← requests.foldlM (Draft.add curve) (Draft.empty programs)
  return draft.command

def compileOperations (curve : Curve) (programs : Programs) (ops : List Operation) :
    Except Failure Command :=
  compileRequests curve programs (ops.map .operation)

end Montage
