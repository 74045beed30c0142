import Mathlib.Data.List.Basic
import Montage.Cursor
import Montage.Pending

/-!
# Cursors as queues

A cursor answers like a queue of the items that are left. Two tests tell it that none is left, one
on the position and one on the count; as no step leads beyond the end, they agree. So the answers
to calls are determined by how many items were taken before, and calls that take none might as well
not be made.
-/

namespace Montage.Cursor

variable {α ε : Type} {c c' : Cursor α} {a : α} {e : ε} {items : List α}
  {calls calls' : List (Call ε)} {before after : List (Entry α ε)} {entry : Entry α ε}

/-! ### Calls -/

def pending (c : Cursor α) : Pending α := ⟨c.rest⟩

/-- A step that may fail does so as a queue of the items left does. -/
lemma IsWithin.nextOr_eq (h : c.IsWithin) (e : ε) :
    c.nextOr e = ((c.pending.peekOr e).map some, c.next?.2) := by
  rw [Cursor.nextOr]
  cases hrest : c.rest with
  | nil =>
    rw [if_pos (h.left_eq_zero_iff.2 hrest), next?_of_rest_eq_nil hrest, pending, hrest]
    rfl
  | cons a rest =>
    have hleft : c.left ≠ 0 := by
      rw [Ne, h.left_eq_zero_iff, hrest]
      exact List.cons_ne_nil a rest
    rw [if_neg hleft, pending, hrest]
    exact Prod.ext (congrArg Except.ok (c.fst_next?.trans (congrArg List.head? hrest))) rfl

lemma IsWithin.peekOr_eq (h : c.IsWithin) (e : ε) :
    c.peekOr e = (c.pending.peekOr e).map some := by
  rw [peekOr, peek?_eq]
  cases hrest : c.rest with
  | nil =>
    rw [if_pos (h.left_eq_zero_iff.2 hrest), pending, hrest]
    rfl
  | cons a rest =>
    rw [if_neg, pending, hrest]
    · rfl
    · rw [h.left_eq_zero_iff, hrest]
      exact List.cons_ne_nil a rest

/-- What a queue answers. -/
def Call.answer (p : Pending α) : Call ε → Answer α ε
  | next | peek => .ofItem? p.peek?
  | nextOr e | peekOr e => .ofResult ((p.peekOr e).map some)
  | left => .count p.left

lemma ofResult_peekOr (e : ε) (p : Pending α) :
    Answer.ofResult ((p.peekOr e).map some) = p.items.head?.elim (.error e) .item := by
  obtain ⟨_ | ⟨a, rest⟩⟩ := p <;> rfl

/-- Whether a call takes an item, if there is one. -/
def Call.takes : Call ε → Bool
  | next | nextOr _ => true
  | peek | peekOr _ | left => false

/-- A cursor answers like a queue of the items that are left. -/
lemma IsWithin.fst_call (h : c.IsWithin) (call : Call ε) :
    (c.call call).1 = call.answer c.pending := by
  cases call with
  | next => exact congrArg Answer.ofItem? c.fst_next?
  | peek => exact congrArg Answer.ofItem? c.peek?_eq
  | nextOr e => exact congrArg (fun step => Answer.ofResult step.1) (h.nextOr_eq e)
  | peekOr e => exact congrArg Answer.ofResult (h.peekOr_eq e)
  | left => exact congrArg Answer.count h.left_eq

/-- A call moves the cursor by one item or not at all. -/
lemma IsWithin.snd_call (h : c.IsWithin) (call : Call ε) :
    (c.call call).2 = if call.takes then c.next?.2 else c := by
  cases call with
  | nextOr e => exact congrArg Prod.snd (h.nextOr_eq e)
  | next | peek | peekOr | left => rfl

/-- The items left after a call are those before it, or all of them but the first. -/
lemma IsWithin.rest_call (h : c.IsWithin) (call : Call ε) :
    (c.call call).2.rest = if call.takes then c.rest.tail else c.rest := by
  rw [h.snd_call]
  split_ifs
  · exact c.rest_next?
  · rfl

lemma IsWithin.call (h : c.IsWithin) (call : Call ε) : (c.call call).2.IsWithin := by
  rw [h.snd_call]
  split_ifs
  · exact h.next?
  · exact h

/-! ### Records -/

/-- The item that a call has taken, if any. -/
def Entry.taken? (entry : Entry α ε) : Option α :=
  match entry.call, entry.answer with
  | .next, .item a | .nextOr _, .item a => some a
  | _, _ => none

def taken (entries : List (Entry α ε)) : List α := entries.filterMap Entry.taken?

def afterAll (c : Cursor α) (calls : List (Call ε)) : Cursor α :=
  calls.foldl (fun c call => (c.call call).2) c

/-- A call takes the first item that is left, if it takes any. -/
lemma taken?_answer (call : Call ε) (p : Pending α) :
    Entry.taken? ⟨call, call.answer p⟩ = if call.takes then p.items.head? else none := by
  obtain ⟨_ | ⟨a, rest⟩⟩ := p <;> cases call <;> rfl

lemma taken_cons (entry : Entry α ε) (entries : List (Entry α ε)) :
    taken (entry :: entries) = entry.taken?.toList ++ taken entries := by
  cases h : entry.taken? <;> simp [taken, h]

/-- Calls are recorded as if made in two parts. -/
lemma record_append (c : Cursor α) (calls calls' : List (Call ε)) :
    c.record (calls ++ calls') = c.record calls ++ (c.afterAll calls).record calls' := by
  induction calls generalizing c with
  | nil => rfl
  | cons call calls ih => exact congrArg (_ :: ·) (ih _)

lemma map_call_record (c : Cursor α) (calls : List (Call ε)) :
    (c.record calls).map Entry.call = calls := by
  induction calls generalizing c with
  | nil => rfl
  | cons call calls ih => exact congrArg (call :: ·) (ih _)

lemma IsWithin.afterAll (h : c.IsWithin) (calls : List (Call ε)) : (c.afterAll calls).IsWithin := by
  induction calls generalizing c with
  | nil => exact h
  | cons call calls ih => exact ih (h.call call)

/-- The items that calls take stand in front of those that are left after them. -/
lemma IsWithin.taken_append (h : c.IsWithin) (calls : List (Call ε)) :
    taken (c.record calls) ++ (c.afterAll calls).rest = c.rest := by
  induction calls generalizing c with
  | nil => rfl
  | cons call calls ih =>
    have hrest := ih (h.call call)
    rw [h.rest_call] at hrest
    rw [record, h.fst_call, taken_cons, taken?_answer, List.append_assoc]
    change _ ++ (_ ++ ((c.call call).2.afterAll calls).rest) = _
    rw [hrest, pending]
    split_ifs
    · cases c.rest <;> rfl
    · rfl

/-- A call that takes nothing leaves the same items. -/
lemma IsWithin.rest_call_of_taken?_eq_none (h : c.IsWithin) {call : Call ε}
    (hidle : Entry.taken? ⟨call, (c.call call).1⟩ = none) : (c.call call).2.rest = c.rest := by
  rw [h.fst_call, taken?_answer] at hidle
  rw [h.rest_call]
  split_ifs at hidle ⊢
  · have hend : c.rest = [] := List.head?_eq_none_iff.1 hidle
    rw [hend]
    rfl
  · rfl

/-- The record of calls depends on the items that are left only. -/
lemma IsWithin.record_congr (h : c.IsWithin) (h' : c'.IsWithin) (hrest : c'.rest = c.rest)
    (calls : List (Call ε)) : c'.record calls = c.record calls := by
  induction calls generalizing c c' with
  | nil => rfl
  | cons call calls ih =>
    have hnext : (c'.call call).2.record calls = (c.call call).2.record calls := by
      apply ih (h.call call) (h'.call call)
      rw [h.rest_call, h'.rest_call, hrest]
    rw [record, record, h.fst_call, h'.fst_call, pending, hrest, hnext, pending]

/-- A record cut in two is the record of the calls before the cut, and that of the others from there
on. -/
lemma record_eq_append (h : c.record calls = before ++ after) :
    before = c.record (before.map Entry.call) ∧
      after = (c.afterAll (before.map Entry.call)).record (after.map Entry.call) := by
  have hcalls : calls = before.map Entry.call ++ after.map Entry.call := by
    rw [← List.map_append, ← h, map_call_record]
  have hlength : (c.record (before.map Entry.call)).length = before.length := by
    rw [← List.length_map Entry.call, map_call_record, List.length_map]
  rw [hcalls, record_append] at h
  obtain ⟨hbefore, hafter⟩ := List.append_inj h hlength
  exact ⟨hbefore.symm, hafter.symm⟩

/-- Each call is made on a cursor in front of the items that were not taken before. -/
lemma exists_call_of_record (h : (ofList items).record calls = before ++ entry :: after) :
    ∃ c : Cursor α, c.IsWithin ∧ taken before ++ c.rest = items ∧
      entry = ⟨entry.call, (c.call entry.call).1⟩ ∧
      after = (c.call entry.call).2.record (after.map Entry.call) ∧
      ∀ calls' : List (Call ε),
        (ofList items).record (before.map Entry.call ++ calls') = before ++ c.record calls' := by
  have hstart := isWithin_ofList items
  obtain ⟨hbefore, hbehind⟩ := record_eq_append h
  obtain ⟨hentry, hafter⟩ := List.cons.inj hbehind
  refine ⟨_, hstart.afterAll (before.map Entry.call), ?_, hentry, hafter, fun calls' => ?_⟩
  · have hitems := hstart.taken_append (before.map Entry.call)
    rwa [← hbefore, rest_ofList] at hitems
  · rw [record_append, ← hbefore]

/-- However a cursor is called, it answers like a queue that is only read. What calls take are the
items in their order. With `k` of them taken before a call, taking or looking gives item `k` if
there is one, and otherwise nothing or the given error; what a look shows is what is taken next; and
the count is that of the items less `k`. A call that takes nothing, since it only looks or counts or
finds the end, might as well not be made. -/
theorem answer_of_record (h : (ofList items).record calls = before ++ entry :: after) :
    let k := (taken before).length
    (∀ (i : Nat) (a : α), (taken (before ++ entry :: after))[i]? = some a → items[i]? = some a) ∧
    (entry.call = .next ∨ entry.call = .peek → entry.answer = .ofItem? items[k]?) ∧
    (∀ e, entry.call = .nextOr e ∨ entry.call = .peekOr e →
      (∀ e', entry.answer = .error e' ↔ e' = e ∧ k = items.length) ∧
      ∀ a, entry.answer = .item a ↔ items[k]? = some a) ∧
    (∀ a, entry.call = .peek ∨ (∃ e, entry.call = .peekOr e) → (taken after).head? = some a →
      entry.answer = .item a) ∧
    (entry.call = .left → entry.answer = .count (items.length - k) ∧ k ≤ items.length) ∧
    (entry.taken? = none →
      (ofList items).record (before.map Entry.call ++ after.map Entry.call) = before ++ after) := by
  intro k
  obtain ⟨c, hwithin, hitems, hentry, hafter, hbefore⟩ := exists_call_of_record h
  have hanswer : entry.answer = entry.call.answer c.pending := by
    rw [← hwithin.fst_call, congrArg Entry.answer hentry]
  have hlength : k + c.rest.length = items.length := by rw [← hitems, List.length_append]
  have hitem : items[k]? = c.rest.head? := by
    rw [← hitems, List.getElem?_append_right (Nat.le_refl k), Nat.sub_self, List.head?_eq_getElem?]
  have hend : k = items.length ↔ c.rest = [] := by
    rw [← List.length_eq_zero_iff]
    omega
  have hstrict : ∀ e, entry.call = .nextOr e ∨ entry.call = .peekOr e →
      entry.answer = c.rest.head?.elim (.error e) .item := by
    rintro e (hcall | hcall) <;>
    · rw [hanswer, hcall]
      exact ofResult_peekOr e c.pending
  refine ⟨?taken, ?optional, ?strict, ?look, ?count, ?idle⟩
  case taken =>
    intro i a hi
    have hall := (isWithin_ofList items).taken_append calls
    rw [h, rest_ofList] at hall
    rw [← hall, List.getElem?_append_left (List.getElem?_eq_some_iff.1 hi).1]
    exact hi
  case optional =>
    rintro (hcall | hcall) <;>
    · rw [hanswer, hcall, hitem]
      rfl
  case strict =>
    intro e hcall
    rw [hstrict e hcall, hitem, hend]
    cases c.rest with
    | nil => simp [eq_comm]
    | cons a rest => simp
  case look =>
    intro a hcall htaken
    have hrest : (c.call entry.call).2.rest = c.rest := by
      rw [hwithin.rest_call]
      obtain hcall | ⟨e, hcall⟩ := hcall <;>
      · rw [hcall]
        rfl
    have hahead : c.rest.head? = some a := by
      rw [← hrest, ← (hwithin.call entry.call).taken_append (after.map Entry.call), ← hafter,
        List.head?_append, htaken]
      rfl
    obtain hcall | ⟨e, hcall⟩ := hcall
    · rw [hanswer, hcall]
      exact congrArg Answer.ofItem? hahead
    · rw [hstrict e (.inr hcall), hahead]
      rfl
  case count =>
    intro hcall
    have hcount : (c.rest.length : Int) = items.length - k := by omega
    rw [hanswer, hcall, ← hcount]
    exact ⟨rfl, by omega⟩
  case idle =>
    intro hidle
    rw [hentry] at hidle
    have hrest := hwithin.rest_call_of_taken?_eq_none hidle
    rw [hbefore, ← hwithin.record_congr (hwithin.call _) hrest, ← hafter]

theorem answer_of_record_empty_text :
    let calls : List (Call String) :=
      [.peek, .next, .peekOr "a", .nextOr "b", .next, .left, .nextOr "c"]
    let answers : List (Answer String String) :=
      [.item "", .item "", .item "0", .item "0", .nothing, .count 0, .error "c"]
    let entries := List.zipWith Entry.mk calls answers
    (ofList ["", "0"]).record calls = entries ∧
    (ofList ["", "0"]).record [.next, .peekOr "a", .nextOr "b", .next, .left, .nextOr "c"]
      = entries.tail := by
  intro calls answers entries
  have hrecord : (ofList ["", "0"]).record calls = [] ++ ⟨.peek, .item ""⟩ :: entries.tail := by
    decide
  obtain ⟨-, -, -, -, -, hidle⟩ := answer_of_record hrecord
  exact ⟨hrecord, hidle rfl⟩

end Montage.Cursor
