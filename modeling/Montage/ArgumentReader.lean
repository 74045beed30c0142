import Montage.Arguments
import Montage.Cursor

/-!
# Reading arguments token by token

A reader goes through a command line with a cursor. It takes the tokens that it needs one by one,
and the paths of a merge until one token is left. When reading fails, the cursor stays behind the
last token that was taken. `existing` tells which paths exist.
-/

namespace Montage

/-- A reader of a command line, with the operations that it has read so far. -/
structure ArgumentReader where
  cursor : Cursor String
  within : cursor.IsWithin
  /-- Whether the paths of a merge have to exist. -/
  checksPaths : Bool
  parsed : List Operation

namespace ArgumentReader

def ofTokens (checksPaths : Bool) (ts : List String) : ArgumentReader :=
  ⟨.ofList ts, Cursor.isWithin_ofList ts, checksPaths, []⟩

/-- Which paths may be merged. -/
def accepts (existing : String → Bool) (r : ArgumentReader) (path : String) : Bool :=
  !r.checksPaths || existing path

def next? (r : ArgumentReader) : Option String × ArgumentReader :=
  (r.cursor.next?.1, { r with cursor := r.cursor.next?.2, within := r.within.next? })

/-- Taking a token leaves fewer. -/
theorem length_rest_lt_of_next? {r next : ArgumentReader} {token : String}
    (h : r.next? = (some token, next)) : next.cursor.rest.length < r.cursor.rest.length := by
  obtain ⟨hhead, rfl⟩ := Prod.mk.inj h
  rw [Cursor.fst_next?] at hhead
  change r.cursor.next?.2.rest.length < _
  rw [Cursor.rest_next?]
  cases hrest : r.cursor.rest with
  | nil => simp [hrest] at hhead
  | cons token rest => exact Nat.lt_succ_self _

def nextOr (f : ArgumentFault) (r : ArgumentReader) : Except Failure String × ArgumentReader :=
  (match h : (r.cursor.nextOr (Failure.argument f)).1 with
    | .ok token? => .ok (token?.get (r.within.isSome_of_nextOr h))
    | .error e => .error e,
    { r with cursor := (r.cursor.nextOr (Failure.argument f)).2, within := r.within.nextOr _ })

def readResize (r : ArgumentReader) : Except Failure Operation × ArgumentReader :=
  (r.nextOr .noDimensions).map (· >>= Argument.resizeOf) id

def readQuality (r : ArgumentReader) : Except Failure Operation × ArgumentReader :=
  (r.nextOr .noQuality).map (· >>= Argument.qualityOf) id

/-! ### Merges -/

/-- How far the paths of a merge have been gathered. -/
inductive Gathering
  | ongoing (r : ArgumentReader) (paths : List String)
  | ended (r : ArgumentReader) (result : Except Failure (List String))

namespace Gathering

/-- One pass: takes a path, unless one token or none is left. -/
def pass (existing : String → Bool) : Gathering → Gathering
  | ongoing r paths =>
    if r.cursor.left = 1 then ended r (.ok paths)
    else
      match r.next? with
      | (none, r) => ended r (.ok paths)
      | (some path, r) =>
        match Argument.acceptedPath (r.accepts existing) path with
        | .ok path => ongoing r (paths ++ [path])
        | .error e => ended r (.error e)
  | ended r result => ended r result

def reader : Gathering → ArgumentReader
  | ongoing r _ | ended r _ => r

/-- How many passes may follow. -/
def bound : Gathering → Nat
  | ongoing r _ => r.cursor.rest.length + 1
  | ended _ _ => 0

/-- Each pass leaves fewer passes to come. -/
theorem bound_pass_lt (existing : String → Bool) (r : ArgumentReader) (paths : List String) :
    ((ongoing r paths).pass existing).bound < (ongoing r paths).bound := by
  rw [pass]
  split
  · exact Nat.succ_pos _
  · split
    · exact Nat.succ_pos _
    · next path next hnext =>
      split
      · exact Nat.succ_lt_succ (length_rest_lt_of_next? hnext)
      · exact Nat.succ_pos _

theorem length_rest_pass_le (g : Gathering) (existing : String → Bool) :
    (g.pass existing).reader.cursor.rest.length ≤ g.reader.cursor.rest.length := by
  cases g with
  | ended r result => exact Nat.le_refl _
  | ongoing r paths =>
    rw [pass]
    split
    · exact Nat.le_refl _
    · have hnext : r.next?.2.cursor.rest.length ≤ r.cursor.rest.length :=
        r.cursor.length_rest_next?_le
      split
      · next next h =>
        rw [h] at hnext
        exact hnext
      · next path next h =>
        rw [h] at hnext
        split <;> exact hnext

/-- Makes passes until the end. -/
def finish (existing : String → Bool) : Gathering → Except Failure (List String) × ArgumentReader
  | ended r result => (result, r)
  | ongoing r paths => finish existing ((ongoing r paths).pass existing)
termination_by g => g.bound
decreasing_by exact bound_pass_lt existing r paths

theorem length_rest_finish_le (g : Gathering) (existing : String → Bool) :
    (g.finish existing).2.cursor.rest.length ≤ g.reader.cursor.rest.length := by
  fun_induction finish existing g with
  | case1 r result => exact Nat.le_refl _
  | case2 r paths ih => exact Nat.le_trans ih (length_rest_pass_le _ existing)

end Gathering

/-- The merge of paths; fewer than two are too few. -/
def mergeOf (paths : List String) : Except Failure Operation :=
  if paths.length < 2 then .error (.argument (.tooFewPaths paths)) else .ok (.merge paths)

def readMerge (existing : String → Bool) (r : ArgumentReader) :
    Except Failure Operation × ArgumentReader :=
  ((Gathering.ongoing r []).finish existing).map (· >>= mergeOf) id

/-! ### Command lines -/

/-- Reads the output path, which no token may follow. -/
def readOutput (path : String) (r : ArgumentReader) : Except Failure Operation × ArgumentReader :=
  (if r.cursor.left > 0 then .error (.argument (.unknown path)) else .ok (.output path), r)

def readOperation (existing : String → Bool) (token : String) (r : ArgumentReader) :
    Except Failure Operation × ArgumentReader :=
  if token = "--resize" then r.readResize
  else if token = "--quality" then r.readQuality
  else if token = "--preview" then (.ok (.execution .preview), r)
  else if token = "--merge" then r.readMerge existing
  else r.readOutput token

/-- Reading an operation puts no token back. -/
theorem length_rest_readOperation_le (r : ArgumentReader) (existing : String → Bool)
    (token : String) :
    (r.readOperation existing token).2.cursor.rest.length ≤ r.cursor.rest.length := by
  have hvalue : ∀ f, (r.nextOr f).2.cursor.rest.length ≤ r.cursor.rest.length :=
    fun f => r.cursor.length_rest_nextOr_le (Failure.argument f)
  unfold readOperation
  split
  · exact hvalue .noDimensions
  · split
    · exact hvalue .noQuality
    · split
      · exact Nat.le_refl _
      · split
        · exact (Gathering.ongoing r []).length_rest_finish_le existing
        · exact Nat.le_refl _

/-- Reads operations until no token is left or one of them fails. -/
def readRest (existing : String → Bool) (r : ArgumentReader) :
    Except Failure (List Operation) × ArgumentReader :=
  match _h : r.next? with
  | (none, next) => (.ok next.parsed, next)
  | (some token, next) =>
    match _h' : next.readOperation existing token with
    | (.error e, left) => (.error e, left)
    | (.ok op, left) => readRest existing { left with parsed := left.parsed ++ [op] }
termination_by r.cursor.rest.length
decreasing_by
  have hlt := length_rest_lt_of_next? _h
  have hle := next.length_rest_readOperation_le existing token
  rw [_h'] at hle
  exact Nat.lt_of_le_of_lt hle hlt

/-- Takes the program name, and reads on to the end. All operations read so far are the result. -/
def readAll (existing : String → Bool) (r : ArgumentReader) :
    Except Failure (List Operation) × ArgumentReader :=
  match r.nextOr .noProgramName with
  | (.ok _, r) => r.readRest existing
  | (.error e, r) => (.error e, r)

end ArgumentReader

end Montage
