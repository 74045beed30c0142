import Montage.Arguments
import Montage.Session
import Montage.Settings.Load

/-!
# The application

A whole run: load the settings, read the command line, compile it, ask, and execute. Problems are
reported and end the run in good order. The two parts of a run lie before and after the answer of
the operator.
-/

namespace Montage.Application

open Session

def report (env : Surroundings) (p : Problem) : Run Unit := printLine env p.display

def reportIn (env : Surroundings) (stage : String) (p : Problem) : Run Unit := do
  writeLog env (stage ++ " failed: " ++ p.display)
  report env p

/-- Whether a path may be merged in a folder. -/
def accepts (settings : Settings) (folder : Folder) (path : String) : Bool :=
  !settings.checkPaths || folder.pathExists path

def compileLine (env : Surroundings) (settings : Settings) (arguments : List String) :
    Run (Option Command) := do
  writeLog env ("argv: " ++ listText (arguments.map literal))
  let folder := (← get).folder
  let read := parseArguments (accepts settings folder) arguments
  let some ops ← Run.orReport read (reportIn env "parse")
    | return none
  let shown ← Run.orFail (orNumberFailure (displayOperations ops))
  echo env shown
  let compiled := compileOperations env.curve settings.programs ops
  let some command ← Run.orReport compiled (reportIn env "build")
    | return none
  echo env command.display
  return some command

/-- The first part of a run: gives the command to confirm, and whether it is to be executed. -/
def prepare (env : Surroundings) (search : Settings.Search) (arguments : List String) :
    Run (Option (Command × Bool)) := do
  let folder := (← get).folder
  let some settings ← Run.orReport (Settings.load env.yaml search folder) (report env)
    | return none
  setQuiet settings.quiet
  setLog settings.debugLog
  let command ← compileLine env settings arguments
  return command.map (·, settings.execute)

/-- A whole run, with the status it ends with. -/
def run (env : Surroundings) (search : Settings.Search) (arguments : List String) : Run Int := do
  if let some (command, execute) ← prepare env search arguments then
    discard (Run.reporting (runConfirmed env command execute) (report env))
  return 0

end Montage.Application
