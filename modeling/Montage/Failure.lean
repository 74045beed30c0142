import Montage.Problem
import Montage.Yaml.Fault

/-!
# Failures

All causes for which a part of the tool stops. Most are problems, which are reported to the operator
in words; the others end a run.
-/

namespace Montage

/-- What is wrong with the command line. -/
inductive ArgumentFault
  | noProgramName
  | unknown (token : String)
  | noDimensions
  /-- A token that does not consist of two parts around a colon. -/
  | dimensionCount (token : String)
  /-- A token of two parts that are not both numbers in range. -/
  | dimensionValue (token : String)
  | noQuality
  | qualityValue (token : String)
  | missingPath (path : String)
  /-- Fewer than two files to merge. -/
  | tooFewPaths (paths : List String)
  deriving DecidableEq, Repr

def ArgumentFault.problem : ArgumentFault → Problem
  | noProgramName =>
    ⟨.unexpected, "Token stream is empty, expected at least the program name."⟩
  | unknown token => ⟨.unknownArgument, "Argument `" ++ token ++ "` is unrecognized."⟩
  | noDimensions =>
    ⟨.resize, "Expected resize dimensions after filter `resize` " ++
      "(eg: --resize 1920:1080), found nothing."⟩
  | dimensionCount token =>
    ⟨.resize, "Values `" ++ token ++ "` are not valid dimensions (eg: 1920:1080)."⟩
  | dimensionValue token =>
    ⟨.resize, "Value `" ++ token ++ "` is not valid dimension (eg: 1920:1080)."⟩
  | noQuality =>
    ⟨.quality, "Expected quality value after filter `quality` (eg: --quality 50), found nothing."⟩
  | qualityValue token =>
    ⟨.quality, "Value `" ++ token ++ "` is not a valid positive integer (eg: 50)."⟩
  | missingPath path => ⟨.path, "Path `" ++ path ++ "` is not valid path (eg: video.mp4)."⟩
  | tooFewPaths paths =>
    let named := if paths.isEmpty then "" else " (" ++ ",".intercalate paths ++ ")"
    ⟨.merge, "Expected at least 2 filenames in filter `merge` (eg.: --merge a.mp4 b.mp4), found " ++
      Nat.repr paths.length ++ named ++ " filename(s)."⟩

/-- What is wrong with the settings. -/
inductive SettingFault
  | fileNotFound (path : String)
  | fileTooLarge
  /-- The file is no YAML; the detail says why. -/
  | notYaml (detail : String)
  | notMapping
  /-- A key that names no setting, as it is written in messages. -/
  | unknownKey (key : String)
  | wrongType (key : String)
  | blankProgram (key : String)
  deriving DecidableEq, Repr

def SettingFault.problem (f : SettingFault) : Problem :=
  ⟨.configuration,
    match f with
    | fileNotFound path => "config file not found: " ++ path
    | fileTooLarge => "config file is larger than 1MB"
    | notYaml detail => "config file is not valid yaml: " ++ detail
    | notMapping => "config yaml must be a mapping at the top level"
    | unknownKey key => "unknown config key: " ++ key
    | wrongType key => "config key " ++ key ++ " has the wrong type"
    | blankProgram key => "config key " ++ key ++ " must not be empty"⟩

/-- Why an entry cannot be written to a log. -/
inductive FileFault
  | noDirectory
  | isDirectory
  | notDirectory
  /-- The path holds the character NUL. -/
  | badPath
  /-- The system refuses: for a name that is too long, a missing permission or a full disk. -/
  | refused
  deriving DecidableEq, Repr

/-- Why a command cannot be started. -/
inductive StartFault
  /-- The text holds the character NUL. -/
  | badText
  /-- The system refuses, for a text that is too long for one. -/
  | refused
  deriving DecidableEq, Repr

/-- Why something fails that a run does to its surroundings. -/
inductive EffectFault
  | log (f : FileFault)
  /-- The output cannot take the text. -/
  | output
  | start (f : StartFault)
  deriving DecidableEq, Repr

/-- Why a part of the tool stops. -/
inductive Failure
  | argument (f : ArgumentFault)
  /-- Something else than an edit operation was to be compiled. -/
  | unrecognized (shown : String)
  /-- A started command ended with a status other than zero. -/
  | exitStatus (program : String) (status : Int)
  | setting (f : SettingFault)
  | number (f : NumberFault)
  /-- A settings file that has no value for another cause than a broken rule of YAML. -/
  | document (f : Yaml.Fault)
  | effect (f : EffectFault)
  deriving DecidableEq, Repr

/-- The problem that a failure is, unless it ends the run. -/
def Failure.problem? : Failure → Option Problem
  | argument f => some f.problem
  | unrecognized shown => some ⟨.unrecognized, "Argument " ++ shown ++ " is not recognized."⟩
  | exitStatus program status =>
    some ⟨.running, program ++ " exited with status " ++ status.repr⟩
  | setting f => some f.problem
  | number _ | document _ | effect _ => none

def orNumberFailure {α : Type} : Except NumberFault α → Except Failure α
  | .ok a => .ok a
  | .error f => .error (.number f)

end Montage
