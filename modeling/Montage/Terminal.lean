import Montage.Highlight
import Montage.Text.Width

/-!
# Terminals

How a highlighted command is written: as it is where the output is no terminal, else with the escape
sequences for bold and coloured text. Tabs become spaces up to the next multiple of eight columns,
and each stretch between the ends of spans, tabs and lines is styled by itself.
-/

namespace Montage

/-- A character of a line with its colour, if it has one. -/
structure Cell where
  char : Char
  colour : Option Colour
  /-- Whether a span starts or ends in front of it. -/
  cut : Bool

/-- A piece of text in a colour, or as it is. -/
def styledPiece (colour : Option Colour) (piece : String) : String :=
  match colour with
  | none => piece
  | some c =>
    "\x1b[1;38;2;" ++ c.red.repr ++ ";" ++ c.green.repr ++ ";" ++ c.blue.repr ++ "m" ++ piece ++
      "\x1b[0m"

/-- Sets the elements from one index up to another. -/
def fillRange {α : Type} (a : Array α) (start stop : Nat) (v : α) : Array α :=
  (List.range' start (stop - start)).foldl (fun a i => a.setIfInBounds i v) a

/-- The cells of a highlighted text; of several spans over a character the last one counts. -/
def Highlighted.cells (h : Highlighted) : List Cell :=
  let n := h.plain.length
  let base : Option Colour := if h.styled then some .command else none
  let colours := h.spans.foldl (fun a s => fillRange a s.start s.stop (some s.colour))
    (Array.replicate n base)
  let cuts := h.spans.foldl (fun a s => (a.setIfInBounds s.start true).setIfInBounds s.stop true)
    ((Array.replicate n false).setIfInBounds 0 true)
  (h.plain.zip (colours.toList.zip cuts.toList)).map fun (c, colour, cut) => ⟨c, colour, cut⟩

/-- A line that is being written. -/
structure Pen where
  written : String
  /-- The piece that has not been written yet. -/
  piece : String
  colour : Option Colour
  reach : Reach

namespace Pen

def flush (p : Pen) : Pen :=
  if p.piece.isEmpty then p
  else { p with written := p.written ++ styledPiece p.colour p.piece, piece := "" }

def add (p : Pen) (text : String) (reach : Reach) : Pen :=
  { p with piece := p.piece ++ text, reach }

def cell (p : Pen) (c : Cell) : Pen :=
  let p := if c.cut || p.piece.isEmpty then { p.flush with colour := c.colour } else p
  if c.char = '\n' then
    let p := p.flush
    { p with written := p.written.push '\n', reach := .start 0 }
  else if c.char = '\t' then
    let (width, reach) := p.reach.tab
    (p.add (.ofList (List.replicate width ' ')) reach).flush
  else p.add (.singleton c.char) (p.reach.push c.char)

end Pen

/-- What is printed for a command behind an indent, with the line end. -/
def commandLine (terminal : Bool) (indent command : String) : String :=
  if terminal then
    let margin := (indent.toList.filter isShown).map fun c => (⟨c, none, false⟩ : Cell)
    let pen := (margin ++ (highlight command).cells).foldl Pen.cell ⟨"", "", none, .start 0⟩
    pen.flush.written ++ "\n"
  else indent ++ command ++ "\n"

end Montage
