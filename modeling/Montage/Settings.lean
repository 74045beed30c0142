import Montage.Draft
import Montage.Text.Blank
import Montage.Yaml.Data

/-!
# Settings

What the operator can set, and how entries of a settings file are taken over. Entries are applied in
order; the first one that is not acceptable stops this, and those before it stay applied.
-/

namespace Montage

/-- The settings of a run. -/
structure Settings where
  /-- The file from which they were read. -/
  file : Option String
  transcoder : String
  player : String
  execute : Bool
  checkPaths : Bool
  quiet : Bool
  debugLog : Option String
  deriving DecidableEq, Repr

namespace Settings

/-- The settings without any file. -/
def standard : Settings :=
  ⟨none, Programs.standard.transcoder, Programs.standard.player, false, false, false, none⟩

def programs (s : Settings) : Programs := ⟨s.transcoder, s.player⟩

/-! ### Entries -/

inductive Key
  | transcoder
  | player
  | execute
  | checkPaths
  | quiet
  | debugLog
  deriving DecidableEq, Repr

def Key.all : List Key := [.transcoder, .player, .execute, .checkPaths, .quiet, .debugLog]

/-- The name of a key in a settings file. -/
def Key.name : Key → String
  | transcoder => "transcoder"
  | player => "player"
  | execute => "execute"
  | checkPaths => "check_paths"
  | quiet => "quiet"
  | debugLog => "debug_log"

def Key.ofScalar? : Yaml.Scalar → Option Key
  | .text name => Key.all.find? (·.name == name)
  | _ => none

def isBlankText (s : String) : Bool := s.toList.all isBlank

/-- The name of a program, which is a text that is not blank. -/
def programName (key : Key) : Yaml.Content → Except SettingFault String
  | .scalar (.text s) => if isBlankText s then .error (.blankProgram key.name) else .ok s
  | _ => .error (.wrongType key.name)

def truthValue (key : Key) : Yaml.Content → Except SettingFault Bool
  | .scalar (.bool b) => .ok b
  | _ => .error (.wrongType key.name)

def optionalText (key : Key) : Yaml.Content → Except SettingFault (Option String)
  | .scalar (.text s) => .ok (some s)
  | .scalar .null => .ok none
  | _ => .error (.wrongType key.name)

def set (s : Settings) (key : Key) (value : Yaml.Content) : Except SettingFault Settings :=
  match key with
  | .transcoder => (programName key value).map fun name => { s with transcoder := name }
  | .player => (programName key value).map fun name => { s with player := name }
  | .execute => (truthValue key value).map fun b => { s with execute := b }
  | .checkPaths => (truthValue key value).map fun b => { s with checkPaths := b }
  | .quiet => (truthValue key value).map fun b => { s with quiet := b }
  | .debugLog => (optionalText key value).map fun path => { s with debugLog := path }

def applyEntry (s : Settings) (key : Yaml.Scalar) (value : Yaml.Content) :
    Except Failure Settings :=
  match Key.ofScalar? key with
  | some key =>
    match s.set key value with
    | .ok s => .ok s
    | .error f => .error (.setting f)
  | none => do
    let shown ← orNumberFailure key.display
    .error (.setting (.unknownKey shown))

/-- Takes over entries in order, up to the first that is not acceptable; its failure comes with the
settings at that point. -/
def apply (s : Settings) : List (Yaml.Scalar × Yaml.Content) → Option Failure × Settings
  | [] => (none, s)
  | (key, value) :: rest =>
    match s.applyEntry key value with
    | .ok s => s.apply rest
    | .error e => (some e, s)

end Settings

/-- Entries with each key once: it keeps its first place and takes its last value. -/
def lastValues {κ ν : Type} [BEq κ] (entries : List (κ × ν)) : List (κ × ν) :=
  entries.foldl
    (fun acc (k, v) =>
      if acc.any (·.1 == k) then acc.map fun (k', v') => if k' == k then (k', v) else (k', v')
      else acc ++ [(k, v)])
    []

end Montage
