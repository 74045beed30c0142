import Montage.Operation
import Montage.Pending

/-!
# Command-line arguments

Reading a command line as edit operations. After the program name come flags with their values, in
any order, and the output path as the last token. A merge takes all tokens but the last, which is
read again as a flag or as the output path. `accepts` tells which paths may be merged.
-/

namespace Montage

namespace Argument

def readDimension (text : String) : Except NumberFault (Option Int) :=
  readBounded .signed (-2147483648) 2147483647 text

def readScore (text : String) : Except NumberFault (Option Int) :=
  readBounded .unsigned 0 4294967295 text

def resizeOf (token : String) : Except Failure Operation :=
  match token.toList.splitOn ':' with
  | [first, second] => do
    let width ← orNumberFailure (readDimension (.ofList first))
    let height ← orNumberFailure (readDimension (.ofList second))
    match width, height with
    | some width, some height => return .resize width height
    | _, _ => .error (.argument (.dimensionValue token))
  | _ => .error (.argument (.dimensionCount token))

def qualityOf (token : String) : Except Failure Operation := do
  match ← orNumberFailure (readScore token) with
  | some score => return .quality score
  | none => .error (.argument (.qualityValue token))

/-- A path to merge, if it is accepted. -/
def acceptedPath (accepts : String → Bool) (path : String) : Except Failure String :=
  if accepts path then .ok path else .error (.argument (.missingPath path))

def readMerge (accepts : String → Bool) (ts : List String) :
    Except Failure Operation × List String :=
  let paths := ts.dropLast
  match paths.find? (!accepts ·) with
  | some path => (.error (.argument (.missingPath path)), (ts.dropWhile accepts).tail)
  | none =>
    if paths.length < 2 then
      (.error (.argument (.tooFewPaths paths)), ts.drop paths.length)
    else (.ok (.merge paths), ts.drop paths.length)

def readResize (ts : List String) : Except Failure Operation × List String :=
  match ts with
  | [] => (.error (.argument .noDimensions), [])
  | token :: rest => (resizeOf token, rest)

def readQuality (ts : List String) : Except Failure Operation × List String :=
  match ts with
  | [] => (.error (.argument .noQuality), [])
  | token :: rest => (qualityOf token, rest)

/-- The output path, which no token may follow. -/
def outputOf (token : String) (rest : List String) : Except Failure Operation :=
  if rest.isEmpty then .ok (.output token) else .error (.argument (.unknown token))

def readOperation (accepts : String → Bool) (token : String) (rest : List String) :
    Except Failure Operation × List String :=
  if token = "--resize" then readResize rest
  else if token = "--quality" then readQuality rest
  else if token = "--preview" then (.ok (.execution .preview), rest)
  else if token = "--merge" then readMerge accepts rest
  else (outputOf token rest, rest)

theorem length_readMerge_le (accepts : String → Bool) (ts : List String) :
    (readMerge accepts ts).2.length ≤ ts.length := by
  simp only [readMerge]
  split
  · have := (List.dropWhile_sublist accepts (l := ts)).length_le
    simp only [List.length_tail]
    omega
  · split <;> simp

/-- Reading an operation puts no token back, and so reading a command line ends. -/
theorem length_readOperation_le (accepts : String → Bool) (token : String) (rest : List String) :
    (readOperation accepts token rest).2.length ≤ rest.length := by
  unfold readOperation
  split
  · cases rest <;> simp [readResize]
  · split
    · cases rest <;> simp [readQuality]
    · split
      · simp
      · split
        · exact length_readMerge_le accepts rest
        · simp

end Argument

/-- How far a command line was read. -/
structure Progress where
  operations : List Operation
  /-- Why reading stopped before the end. -/
  failure : Option Failure
  left : List String

/-- Reads operations until no token is left or one of them fails. -/
def Progress.ofTokens (accepts : String → Bool) : List String → Progress
  | [] => ⟨[], none, []⟩
  | token :: rest =>
    match _h : Argument.readOperation accepts token rest with
    | (.error e, left) => ⟨[], some e, left⟩
    | (.ok op, left) =>
      let progress := ofTokens accepts left
      { progress with operations := op :: progress.operations }
termination_by ts => ts.length
decreasing_by
  have hle := Argument.length_readOperation_le accepts token rest
  rw [_h] at hle
  exact Nat.lt_succ_of_le hle

/-- A command line that is being read, and the operations read from it so far. -/
structure Arguments where
  tokens : Pending String
  parsed : List Operation

namespace Arguments

def ofTokens (ts : List String) : Arguments := ⟨⟨ts⟩, []⟩

def withLeft (a : Arguments) (left : List String) : Arguments := { a with tokens := ⟨left⟩ }

/-- Reads on to the end: the next token is taken for the program name, and the operations after it
join those read so far, which are the result. A failure keeps the operations before it. -/
def readAll (accepts : String → Bool) (a : Arguments) :
    Except Failure (List Operation) × Arguments :=
  match a.tokens.nextOr (Failure.argument .noProgramName) with
  | (.error e, _) => (.error e, a)
  | (.ok _, tokens) =>
    let progress := Progress.ofTokens accepts tokens.items
    let parsed := a.parsed ++ progress.operations
    (match progress.failure with
      | some e => .error e
      | none => .ok parsed,
      ⟨⟨progress.left⟩, parsed⟩)

def readResize (a : Arguments) : Except Failure Operation × Arguments :=
  let (result, left) := Argument.readResize a.tokens.items
  (result, a.withLeft left)

def readQuality (a : Arguments) : Except Failure Operation × Arguments :=
  let (result, left) := Argument.readQuality a.tokens.items
  (result, a.withLeft left)

def readMerge (accepts : String → Bool) (a : Arguments) : Except Failure Operation × Arguments :=
  let (result, left) := Argument.readMerge accepts a.tokens.items
  (result, a.withLeft left)

end Arguments

def parseArguments (accepts : String → Bool) (ts : List String) : Except Failure (List Operation) :=
  ((Arguments.ofTokens ts).readAll accepts).1

end Montage
