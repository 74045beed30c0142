import Montage.Draft

/-!
# Builders

A builder puts a command together while it is called: each call adds an operation or builds the
command as it is so far. A call that fails does not end this, and further calls may follow.
-/

namespace Montage

/-- What a builder keeps between calls. Flags that were not asked for are empty. -/
structure Builder where
  programs : Programs
  invocation : String
  preview : Bool
  filters : List String
  rateFlags : String
  mapFlags : String
  outputs : List String
  deriving DecidableEq, Repr

/-- What a builder does in a call. If this fails, all that was written before stays written. -/
abbrev Building (α : Type) := ExceptT Failure (StateM Builder) α

namespace Building

def ofNumber {α : Type} (x : Except NumberFault α) : Building α :=
  ExceptT.mk (pure (orNumberFailure x))

def addOperation (curve : Curve) : Operation → Building Unit
  | .resize width height => do
    let filter ← ofNumber (scaleFilter width height)
    modify fun b => { b with filters := b.filters ++ [filter] }
  | .quality score => do
    let rate ← ofNumber (RateControl.ofQuality curve score)
    let flags ← ofNumber rate.flags
    modify fun b => { b with rateFlags := flags }
  | .merge paths => do
    modify fun b => { b with filters := b.filters ++ [mergeGraph paths.length] }
    modify fun b => { b with mapFlags := mergeMap }
  | .execution mode => do
    modify fun b => { b with preview := mode == .preview }
    modify fun b => { b with
      invocation := if b.preview then b.programs.player else b.programs.transcoder }
  | .output path => modify fun b => { b with outputs := b.outputs ++ [path] }

/-- Adds a request to the command; only edit operations can be added. -/
def add (curve : Curve) : Request → Building Unit
  | .operation op => addOperation curve op
  | .foreign v => do
    let shown ← ofNumber v.display
    throw (.unrecognized shown)

/-- Builds the command as it is so far. -/
def build : Building Command := do
  let b ← get
  let filters := if b.filters.isEmpty then [] else [filterFlag b.filters]
  let rate := if b.rateFlags != "" && !b.preview then [b.rateFlags] else []
  let map := if b.mapFlags != "" && !b.preview then [b.mapFlags] else []
  return ⟨b.invocation, filters ++ rate ++ map ++ b.outputs⟩

end Building

namespace Builder

def new (programs : Programs) : Builder := ⟨programs, programs.transcoder, false, [], "", "", []⟩

def ask {α : Type} (b : Builder) (call : Building α) : Except Failure α × Builder := call.run.run b

inductive Call
  | add (r : Request)
  | build
  deriving Repr

/-- What is done in a call; only building gives a command. -/
def Call.run (curve : Curve) : Call → Building (Option Command)
  | add r => do
    Building.add curve r
    return none
  | build => do
    let c ← Building.build
    return some c

/-- A call that was made, what it answered, and the builder after it. -/
structure Entry where
  call : Call
  answer : Except Failure (Option Command)
  builder : Builder
  deriving Repr

def enter (curve : Curve) (b : Builder) (call : Call) : Entry :=
  let (answer, next) := b.ask (call.run curve)
  ⟨call, answer, next⟩

def history (curve : Curve) (b : Builder) : List Call → List Entry
  | [] => []
  | call :: calls =>
    let entry := b.enter curve call
    entry :: entry.builder.history curve calls

end Builder

end Montage
