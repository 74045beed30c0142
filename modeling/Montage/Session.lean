import Montage.Draft
import Montage.Folder
import Montage.Terminal
import Montage.Yaml.Data

/-!
# Sessions

What a run does to its surroundings, as a state: text printed, entries appended to logs, commands
started. Each of these can fail. A failure stops a run and leaves the state as it was at that point.
-/

namespace Montage

/-- What becomes of a command that is started. -/
structure Execution where
  /-- The status with which it ends; a negative one is the number of a signal. -/
  status : Int
  /-- The seconds that it takes. -/
  elapsed : Binary64
  /-- What it makes of the files. -/
  change : Folder → Folder

/-- What keeps an entry from a log that its path leads to. -/
structure Refusal where
  fault : FileFault
  /-- What the attempt makes of the files; a part of the entry may be there. -/
  change : Folder → Folder

/-- What a run finds and cannot change. -/
structure Surroundings where
  /-- Whether the output is a terminal. -/
  terminal : Bool
  /-- Whether the output can take a text. -/
  canPrint : String → Bool
  /-- The time of day when the message of a number is given to the log. -/
  clock : Nat → String
  /-- What keeps the message of a number from the log. -/
  refusal? : Nat → Option Refusal
  /-- What comes of starting a command. -/
  execute : String → Except StartFault Execution
  curve : Curve
  yaml : Yaml.Reader

/-- Surroundings in which time stands still, nothing is refused, and commands do nothing to
files. -/
def Surroundings.calm (terminal : Bool) (time : String) (status : Int) (elapsed : Binary64)
    (curve : Curve) (yaml : Yaml.Reader) : Surroundings where
  terminal
  canPrint _ := true
  clock _ := time
  refusal? _ := none
  execute _ := .ok ⟨status, elapsed, id⟩
  curve
  yaml

/-- The state of a run. -/
structure Session where
  folder : Folder
  /-- The input that has not been read yet. -/
  input : List Char
  quiet : Bool
  /-- The path of the log that is being kept. -/
  log : Option String
  /-- How many messages have been given to the log, be one kept or not. -/
  messages : Nat
  /-- All text printed so far. -/
  printed : String
  /-- The commands started so far, the first one first. -/
  started : List String

def Session.start (folder : Folder) (input : String) : Session :=
  ⟨folder, input.toList, false, none, 0, "", []⟩

/-- A part of a run. -/
abbrev Run (α : Type) := ExceptT Failure (StateM Session) α

namespace Run

variable {α : Type}

/-- Goes on with a value, or fails. -/
def orFail (result : Except Failure α) : Run α :=
  match result with
  | .ok a => pure a
  | .error e => throw e

/-- Goes on with a value, or reports a problem and goes on without one; any other failure ends the
run. -/
def orReport (result : Except Failure α) (report : Problem → Run Unit) : Run (Option α) :=
  match result with
  | .ok a => pure (some a)
  | .error e =>
    match e.problem? with
    | some p => do
      report p
      return none
    | none => throw e

/-- Does a part of a run, and reports a problem that comes up in it. -/
def reporting (part : Run α) (report : Problem → Run Unit) : Run (Option α) := do
  orReport (← observing part) report

end Run

namespace Session

/-! ### Printing and logging -/

def print (env : Surroundings) (text : String) : Run Unit := do
  if env.canPrint text then modify fun s => { s with printed := s.printed ++ text }
  else throw (.effect .output)

def printLine (env : Surroundings) (line : String) : Run Unit := print env (line ++ "\n")

def setQuiet (b : Bool) : Run Unit := modify fun s => { s with quiet := b }

def setLog (path : Option String) : Run Unit := modify fun s => { s with log := path }

def logEntry (clock message : String) : String := "[" ++ clock ++ "] " ++ message ++ "\n"

/-- Appends an entry to the log, if one is kept. -/
def writeLog (env : Surroundings) (message : String) : Run Unit := do
  let s ← get
  match s.log with
  | none => set { s with messages := s.messages + 1 }
  | some path =>
    match s.folder.append path (logEntry (env.clock s.messages) message) with
    | .error f => throw (.effect (.log f))
    | .ok folder =>
      match env.refusal? s.messages with
      | some refusal => do
        set { s with folder := refusal.change s.folder }
        throw (.effect (.log refusal.fault))
      | none => set { s with folder, messages := s.messages + 1 }

/-- Logs a message and prints it, unless in quiet mode. -/
def echo (env : Surroundings) (message : String) : Run Unit := do
  writeLog env message
  if !(← get).quiet then printLine env message

/-! ### Commands -/

/-- Starts a command and waits for its end. -/
def execute (env : Surroundings) (command : String) : Run Execution := do
  match env.execute command with
  | .error f => throw (.effect (.start f))
  | .ok ended => do
    modify fun s => { s with folder := ended.change s.folder, started := s.started ++ [command] }
    return ended

/-- Runs a command and gives the status with which it ends; blanks around it are dropped. -/
def runCommand (env : Surroundings) (command : String) : Run Int := do
  let shown : String := .ofList (trimBlanks command.toList)
  printLine env ("CMD: '" ++ shown ++ "'")
  writeLog env ("start: " ++ shown)
  let ended ← execute env shown
  writeLog env
    ("end (" ++ ended.elapsed.fixedText 3 ++ "s, rc=" ++ ended.status.repr ++ "): " ++ shown)
  return ended.status

def answerOf (input : List Char) : List Char × List Char :=
  let line := input.takeWhile (· != '\n')
  ((line.reverse.dropWhile (· == '\r')).reverse, (input.dropWhile (· != '\n')).tail)

/-- Reads an answer from the input. -/
def readAnswer : Run (List Char) := do
  let s ← get
  let (answer, input) := answerOf s.input
  set { s with input }
  return answer

def ask (env : Surroundings) (c : Command) : Run Unit := do
  print env "The command that will be executed is:\n\n"
  print env (commandLine env.terminal "\t" c.text)
  print env "\nAre you sure you wanna execute? (Y/n): \n"

/-- Whether the answer is yes; only `Y` says so. -/
def isConfirmed (env : Surroundings) : Run Bool := do
  let answer ← readAnswer
  writeLog env ("confirmation answer: " ++ literal (.ofList answer))
  return answer == ['Y']

/-- Shows a command, asks whether to go on, and reads the answer. -/
def confirm (env : Surroundings) (c : Command) : Run Bool := do
  ask env c
  isConfirmed env

/-- Reads the answer and then, if it is yes and commands are to be executed, runs the command. Tells
whether the answer was yes. -/
def runAnswered (env : Surroundings) (c : Command) (execute : Bool) : Run Bool := do
  if !(← isConfirmed env) then
    printLine env "Exiting..."
    return false
  else if !execute then
    echo env "execution disabled, set `execute: true` in the config to run"
    return true
  else
    let status ← runCommand env c.shellText
    if status ≠ 0 then throw (.exitStatus c.invocation status)
    return true

/-- Asks whether to go on with a command, and does what the answer says. -/
def runConfirmed (env : Surroundings) (c : Command) (execute : Bool) : Run Bool := do
  ask env c
  runAnswered env c execute

end Session

end Montage
