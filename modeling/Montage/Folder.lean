import Montage.Failure

/-!
# Folders

The files that a run works with. Paths are taken apart at their slashes; `.` and an empty part stay
in place, and `..` leads to the parent. The place of the working folder below the root may be
unknown; then nothing is found above it.
-/

namespace Montage

/-- What stands at a path. -/
inductive Entry
  | folder
  | file (bytes : ByteArray)

/-- A working folder and the entries at the paths, taken apart, that start from it or from the root.
A path from the root has an empty first part. -/
structure Folder where
  /-- The path from the root to the working folder, innermost part first; empty if it is unknown. -/
  working : List String
  entries : List (List String × Entry)

/-- What a path leads to. -/
inductive Place
  /-- The root, the working folder or a folder above it. -/
  | outside
  /-- Something below the working folder or the root, which may not exist; the parts are those of
  its own path. -/
  | inside (parts : List String)
  /-- Nothing, for want of the folder it would stand in. -/
  | nowhere
  /-- Nothing, as a file stands where the path needs a folder. -/
  | beyondFile
  deriving DecidableEq

namespace Folder

def empty : Folder := ⟨[], []⟩

def find? (f : Folder) (parts : List String) : Option Entry := f.entries.lookup parts

def set (f : Folder) (parts : List String) (e : Entry) : Folder :=
  if (f.find? parts).isSome then
    { f with entries := f.entries.map fun (p, old) => if p = parts then (p, e) else (p, old) }
  else { f with entries := f.entries ++ [(parts, e)] }

/-- The parts of a path between its slashes. -/
def partsOf (path : String) : List String := (path.toList.splitOn '/').map String.ofList

/-- Adds the folders on the way to a path that has been taken apart. -/
def addParents (f : Folder) (parts : List String) : Folder :=
  (List.range parts.length).foldl
    (fun f n =>
      if n = 0 || (f.find? (parts.take n)).isSome then f else f.set (parts.take n) .folder) f

/-- Whether the parts on the way to a folder, innermost first, are those to the root or to a working
folder at an unknown place. -/
def isTop (here : List String) : Bool := here == [] || here == [""]

/-- The parent of the folder on a way; the root is its own. -/
def parent? (here : List String) : Option (List String) :=
  match here with
  | [] => none
  | [""] => some here
  | _ :: above => some above

/-- The way to the folder from which a path starts. -/
def start (f : Folder) (path : String) : List String :=
  if path.startsWith "/" then [""] else f.working

def goTo (here : List String) (part : String) : Option (List String) :=
  if part = "" ∨ part = "." then some here
  else if part = ".." then parent? here
  else some (part :: here)

/-- Adds an entry at a path, with the folders on the way; a path that ends in a slash is a
folder. -/
def addPath (f : Folder) (path : String) (bytes : ByteArray) : Folder :=
  let way := (partsOf path).foldl (fun here part => (goTo here part).getD here) (f.start path)
  (f.addParents way.reverse).set way.reverse (if path.endsWith "/" then .folder else .file bytes)

/-- The folder with its place known, and with all folders on the way to it. -/
def placedAt (f : Folder) (path : String) : Folder :=
  let f := f.addPath (path ++ "/") .empty
  { f with working := ((partsOf path).filter (!·.isEmpty)).reverse ++ [""] }

/-- Follows the parts of a path from a folder; `here` holds the parts on the way to it, innermost
first, or none above a working folder at an unknown place. -/
def walk (f : Folder) : List String → Option (List String) → Place
  | [], none => .outside
  | [], some here => if isTop here then .outside else .inside here.reverse
  | part :: rest, none =>
    if part = "" ∨ part = "." ∨ part = ".." then f.walk rest none else .nowhere
  | part :: rest, some here =>
    match if isTop here then some .folder else f.find? here.reverse with
    | none => if rest = [] ∧ part = "" then .inside here.reverse else .nowhere
    | some (.file _) => .beyondFile
    | some .folder =>
      f.walk rest (goTo here part)

/-- What a path leads to. -/
def resolve (f : Folder) (path : String) : Place :=
  if path.isEmpty then .nowhere
  else f.walk (partsOf path) (some (f.start path))

def pathExists (f : Folder) (path : String) : Bool :=
  match f.resolve path with
  | .outside => true
  | .inside parts =>
    match f.find? parts with
    | some .folder => true
    | some (.file _) => !path.endsWith "/"
    | none => false
  | .nowhere | .beyondFile => false

/-- The content of the file at a path, if there is one. -/
def read? (f : Folder) (path : String) : Option ByteArray :=
  match f.resolve path with
  | .inside parts =>
    match f.find? parts with
    | some (.file bytes) => some bytes
    | _ => none
  | _ => none

/-- Appends to the file at a path, which is created if need be. -/
def append (f : Folder) (path : String) (text : String) : Except FileFault Folder :=
  if path.toList.contains '\x00' then .error .badPath
  else
    match f.resolve path with
    | .outside => .error .isDirectory
    | .nowhere => .error .noDirectory
    | .beyondFile => .error .notDirectory
    | .inside parts =>
      match f.find? parts with
      | some .folder => .error .isDirectory
      | some (.file bytes) => .ok (f.set parts (.file (bytes ++ text.toUTF8)))
      | none =>
        if path.endsWith "/" then .error .isDirectory
        else .ok (f.set parts (.file text.toUTF8))

end Folder

end Montage
