/-!
# Pending items

A sequence that is consumed from its front. Looking at the next item changes nothing, and once no
item is left every further step finds none.
-/

namespace Montage

/-- The items that are still to be consumed. -/
structure Pending (α : Type) where
  items : List α

namespace Pending

variable {α ε : Type}

def left (p : Pending α) : Nat := p.items.length

def peek? (p : Pending α) : Option α := p.items.head?

def next? (p : Pending α) : Option α × Pending α :=
  match p.items with
  | [] => (none, p)
  | a :: rest => (some a, ⟨rest⟩)

def peekOr (e : ε) (p : Pending α) : Except ε α :=
  match p.peek? with
  | some a => .ok a
  | none => .error e

def nextOr (e : ε) (p : Pending α) : Except ε α × Pending α :=
  match p.next? with
  | (some a, p) => (.ok a, p)
  | (none, p) => (.error e, p)

end Pending

end Montage
