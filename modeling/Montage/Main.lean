import Montage.Application
import Montage.Yaml.Document
import Std.Time.Zoned

/-!
# The command-line tool

The outer layer of a run: it looks up the files that the run may touch, prints what the first part
of the run printed before it waits for the answer, and writes the log back. It starts no program:
the commands of a confirmed run are handed over on standard error, one a line, and count as
successful. All entries of the log have the time at which the run began.
-/

namespace Montage.Main

def clockText : IO String := do
  let now ← Std.Time.PlainDateTime.now
  let time : Yaml.DayTime :=
    ⟨now.hour.val.toNat, now.minute.val.toNat, now.second.val.toNat, 0, none⟩
  return Yaml.Moment.text
    ⟨now.year.toInt.toNat, now.month.val.toNat, now.day.val.toNat, some time⟩

def folderOf (path : String) : String :=
  .ofList (path.toList.reverse.dropWhile (· != '/')).reverse

/-- What a run of an action gives, or none if it fails. -/
def attempt {α : Type} (action : IO α) : IO (Option α) := do
  return (← action.toBaseIO).toOption

/-- Adds what stands at a path; the content of a file only if it is wanted. -/
def look (f : Folder) (path : String) (withContent : Bool) : IO Folder := do
  let some handle ← attempt (IO.FS.Handle.mk path .read) | return f
  match ← attempt (if withContent then handle.readBinToEnd else handle.read 1) with
  | some bytes => return f.addPath path bytes
  | none => return f.addPath (path ++ "/") .empty

/-- Where the settings are looked for. -/
def search : IO Settings.Search := do
  return ⟨none, (← IO.getEnv "FFVID_CONFIG").getD "", (← IO.getEnv "HOME").getD ""⟩

/-- The folder with what the run may look at: the settings file, the log, and what the arguments
name. -/
def surveyed (search : Settings.Search) (arguments : List String) : IO Folder := do
  let mut f := Folder.empty.placedAt (← IO.currentDir).toString
  for path in [search.fromEnvironment, Settings.userFile search.home] do
    f ← look f path true
  for path in arguments do
    f ← look f path false
  if let .ok settings := Settings.load Yaml.read search f then
    if let some path := settings.debugLog then
      f ← look (← look f (folderOf path) false) path true
  return f

def present (printedBefore : Nat) (s : Session) : IO Unit := do
  let out ← IO.getStdout
  out.putStr (.ofList (s.printed.toList.drop printedBefore))
  out.flush
  for command in s.started do
    (← IO.getStderr).putStrLn command

/-- Writes the log back, if one was kept. -/
def writeBack (s : Session) : IO Unit := do
  if let some path := s.log then
    if let some bytes := s.folder.read? path then
      IO.FS.writeBinFile path bytes

/-- Ends the tool: writes the log back and gives the status to end with. -/
def conclude {α : Type} (result : Except Failure α) (s : Session) : IO UInt32 := do
  writeBack s
  match result with
  | .ok _ => return 0
  | .error e =>
    (← IO.getStderr).putStrLn (reprStr e)
    return 1

end Montage.Main

open Montage Montage.Main in
def main (arguments : List String) : IO UInt32 := do
  let search ← search
  let arguments := "montage" :: arguments
  let env : Surroundings :=
    .calm (← (← IO.getStdout).isTty) (← clockText) 0 .zero platformCurve Yaml.read
  let start := Session.start (← surveyed search arguments) ""
  match (Application.prepare env search arguments).run.run start with
  | (.ok (some (command, execute)), s) =>
    let (_, asked) := (Session.ask env command).run.run s
    present 0 asked
    let answer ← (← IO.getStdin).getLine
    let rest :=
      Run.reporting (Session.runAnswered env command execute) (Application.report env)
    let (result, s) := rest.run.run { asked with input := answer.toList }
    present asked.printed.length s
    conclude result s
  | (result, s) =>
    present 0 s
    conclude result s
