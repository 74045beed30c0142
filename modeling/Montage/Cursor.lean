/-!
# Cursors

A place in a sequence that only moves forward. At the end there is nothing more to look at, and a
step from there leads nowhere. Nothing keeps a position from lying beyond the end but that no step
leads there.
-/

namespace Montage

/-- A sequence with the place in it that has been reached. -/
structure Cursor (α : Type) where
  items : List α
  position : Nat
  deriving DecidableEq, Repr

namespace Cursor

variable {α ε : Type}

def ofList (items : List α) : Cursor α := ⟨items, 0⟩

def rest (c : Cursor α) : List α := c.items.drop c.position

/-- The position does not lie beyond the end. -/
def IsWithin (c : Cursor α) : Prop := c.position ≤ c.items.length

def left (c : Cursor α) : Int := c.items.length - c.position

/-- The item at the position, and the cursor behind it; nothing at the end. -/
def next? (c : Cursor α) : Option α × Cursor α :=
  if h : c.position < c.items.length then
    (some c.items[c.position], { c with position := c.position + 1 })
  else (none, c)

/-- The item at the position; nothing at the end. -/
def peek? (c : Cursor α) : Option α :=
  if h : c.position < c.items.length then some c.items[c.position] else none

/-- The item at the position, and the cursor behind it, or the given error if none is left. -/
def nextOr (e : ε) (c : Cursor α) : Except ε (Option α) × Cursor α :=
  if c.left = 0 then (.error e, c) else c.next?.map .ok id

/-- The item at the position, or the given error if none is left. -/
def peekOr (e : ε) (c : Cursor α) : Except ε (Option α) :=
  if c.left = 0 then .error e else .ok c.peek?

/-! ### Steps -/

variable {c : Cursor α}

theorem rest_ofList (items : List α) : (ofList items).rest = items := List.drop_zero

theorem isWithin_ofList (items : List α) : (ofList items).IsWithin := Nat.zero_le _

/-- Looking ahead shows the first item that is left. -/
theorem peek?_eq (c : Cursor α) : c.peek? = c.rest.head? := by
  rw [rest, List.head?_drop, peek?]
  split
  · next h => exact (List.getElem?_eq_getElem h).symm
  · next h => exact (List.getElem?_eq_none (Nat.not_lt.1 h)).symm

theorem fst_next? (c : Cursor α) : c.next?.1 = c.rest.head? := by
  rw [← peek?_eq, next?, peek?]
  split <;> rfl

/-- A step drops the first item that is left. -/
theorem rest_next? (c : Cursor α) : c.next?.2.rest = c.rest.tail := by
  rw [next?]
  split
  · rw [rest, rest, List.tail_drop]
  · next h =>
    have hend : c.rest = [] := List.drop_eq_nil_of_le (Nat.not_lt.1 h)
    rw [hend]
    rfl

theorem length_rest_next?_le (c : Cursor α) : c.next?.2.rest.length ≤ c.rest.length := by
  rw [rest_next?, List.length_tail]
  exact Nat.sub_le _ 1

theorem length_rest_nextOr_le (c : Cursor α) (e : ε) :
    (c.nextOr e).2.rest.length ≤ c.rest.length := by
  rw [nextOr]
  split
  · exact Nat.le_refl _
  · exact c.length_rest_next?_le

/-- At the end, a step leads nowhere. -/
theorem next?_of_rest_eq_nil (h : c.rest = []) : c.next? = (none, c) := by
  rw [next?, dif_neg (Nat.not_lt.2 (List.drop_eq_nil_iff.1 h))]

theorem IsWithin.next? (h : c.IsWithin) : c.next?.2.IsWithin := by
  rw [Cursor.next?]
  split
  · next hlt => exact hlt
  · exact h

/-- The count is that of the items left. -/
theorem IsWithin.left_eq (h : c.IsWithin) : c.left = c.rest.length := by
  rw [left, rest, List.length_drop]
  unfold IsWithin at h
  omega

/-- The test on the count finds the end where the test on the position does. -/
theorem IsWithin.left_eq_zero_iff (h : c.IsWithin) : c.left = 0 ↔ c.rest = [] := by
  rw [h.left_eq, Int.natCast_eq_zero, List.length_eq_zero_iff]

theorem IsWithin.nextOr (h : c.IsWithin) (e : ε) : (c.nextOr e).2.IsWithin := by
  rw [Cursor.nextOr]
  split
  · exact h
  · exact h.next?

/-- An item is there unless the step fails. -/
theorem IsWithin.isSome_of_nextOr (h : c.IsWithin) {e : ε} {a? : Option α}
    (hok : (c.nextOr e).1 = .ok a?) : a?.isSome := by
  rw [Cursor.nextOr] at hok
  split at hok
  · nomatch hok
  · next hleft =>
    obtain rfl : c.next?.1 = a? := Except.ok.inj hok
    rw [h.left_eq_zero_iff, ← List.head?_eq_none_iff, ← fst_next?] at hleft
    exact Option.isSome_iff_ne_none.2 hleft

/-! ### Calls -/

inductive Call (ε : Type)
  | next
  | nextOr (e : ε)
  | peek
  | peekOr (e : ε)
  | left
  deriving DecidableEq, Repr

inductive Answer (α ε : Type)
  | item (a : α)
  | nothing
  | error (e : ε)
  | count (n : Int)
  deriving DecidableEq, Repr

def Answer.ofItem? : Option α → Answer α ε
  | some a => .item a
  | none => .nothing

def Answer.ofResult : Except ε (Option α) → Answer α ε
  | .ok a? => .ofItem? a?
  | .error e => .error e

def call (c : Cursor α) : Call ε → Answer α ε × Cursor α
  | .next => c.next?.map .ofItem? id
  | .nextOr e => (c.nextOr e).map .ofResult id
  | .peek => (.ofItem? c.peek?, c)
  | .peekOr e => (.ofResult (c.peekOr e), c)
  | .left => (.count c.left, c)

/-- A call that was made, and what it answered. -/
structure Entry (α ε : Type) where
  call : Call ε
  answer : Answer α ε
  deriving DecidableEq, Repr

def record (c : Cursor α) : List (Call ε) → List (Entry α ε)
  | [] => []
  | call :: calls => ⟨call, (c.call call).1⟩ :: (c.call call).2.record calls

end Cursor

end Montage
