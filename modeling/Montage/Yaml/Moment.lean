import Montage.Yaml.Fault

/-!
# Dates and times

A scalar such as `2020-01-02` or `2001-12-14 21:59:43.1 -5` is a moment. Its form is fixed by the
text alone; whether the calendar has it is a second question.
-/

namespace Montage.Yaml

structure Zone where
  negative : Bool
  minutes : Nat
  deriving DecidableEq, Repr

structure DayTime where
  hour : Nat
  minute : Nat
  second : Nat
  microsecond : Nat
  zone : Option Zone
  deriving DecidableEq, Repr

structure Moment where
  year : Nat
  month : Nat
  day : Nat
  time : Option DayTime
  deriving DecidableEq, Repr

/-! ### Writing -/

def padded (width n : Nat) : String :=
  .ofList (List.replicate (width - (Nat.repr n).length) '0') ++ Nat.repr n

/-- A zone as sign, hours and minutes; the zero offset has a plus. -/
def Zone.text (z : Zone) : String :=
  (if z.negative && z.minutes != 0 then "-" else "+") ++ padded 2 (z.minutes / 60) ++ ":" ++
    padded 2 (z.minutes % 60)

/-- The text without a line feed at its end. -/
def dropFinalBreak (cs : List Char) : List Char :=
  if cs.getLast? == some '\n' then cs.dropLast else cs

namespace Moment

/-- The number that a run of decimal digits writes. -/
def numeral (digits : List Char) : Nat := Nat.ofDigitChars 10 digits 0

/-- One digit or two, as a number, and the rest. -/
def upToTwo? : List Char → Option (Nat × List Char)
  | a :: b :: cs =>
    if a.isDigit then
      if b.isDigit then some (numeral [a, b], cs) else some (numeral [a], b :: cs)
    else none
  | [a] => if a.isDigit then some (numeral [a], []) else none
  | [] => none

/-- Exactly two digits after a given mark, as a number, and the rest. -/
def twoAfter? (mark : Char) : List Char → Option (Nat × List Char)
  | m :: a :: b :: cs =>
    if m == mark && a.isDigit && b.isDigit then some (numeral [a, b], cs) else none
  | _ => none

/-- A blank between the parts of a moment. -/
def isGap (c : Char) : Bool := c == ' ' || c == '\t'

/-- The text after the mark or the blanks between date and time. -/
def dropTimeMark? : List Char → Option (List Char)
  | 'T' :: cs => some cs
  | 't' :: cs => some cs
  | c :: cs => if isGap c then some (cs.dropWhile isGap) else none
  | [] => none

/-- The millionths of a second in a fraction; digits after the sixth are dropped. -/
def millionths (fraction : List Char) : Nat :=
  numeral ((fraction ++ List.replicate 6 '0').take 6)

/-- The fraction of a second, if there is one, and the rest. -/
def fractionOf : List Char → Nat × List Char
  | '.' :: cs => (millionths (cs.takeWhile Char.isDigit), cs.dropWhile Char.isDigit)
  | cs => (0, cs)

/-- A time zone that ends the text: `Z`, or a sign, hours, and perhaps minutes after a colon. -/
def zone? : List Char → Option Zone
  | ['Z'] => some ⟨false, 0⟩
  | sign :: cs =>
    if sign == '+' || sign == '-' then do
      let (hours, cs) ← upToTwo? cs
      let minutes ←
        match cs with
        | [] => some 0
        | cs =>
          match twoAfter? ':' cs with
          | some (minutes, []) => some minutes
          | _ => none
      some ⟨sign == '-', hours * 60 + minutes⟩
    else none
  | [] => none

/-- A time of day that ends the text. -/
def dayTime? (cs : List Char) : Option DayTime := do
  let cs ← dropTimeMark? cs
  let (hour, cs) ← upToTwo? cs
  let (minute, cs) ← twoAfter? ':' cs
  let (second, cs) ← twoAfter? ':' cs
  let (microsecond, cs) := fractionOf cs
  match cs with
  | [] => some ⟨hour, minute, second, microsecond, none⟩
  | cs =>
    let zone ← zone? (cs.dropWhile isGap)
    some ⟨hour, minute, second, microsecond, some zone⟩

/-- The moment that a text writes, be it in the calendar or not. -/
def ofText? (cs : List Char) : Option Moment := do
  let (year, cs) := (cs.takeWhile Char.isDigit, cs.dropWhile Char.isDigit)
  if year.length ≠ 4 then none
  else
    let cs ← match cs with
      | '-' :: cs => some cs
      | _ => none
    let (month, cs) ← upToTwo? cs
    let cs ← match cs with
      | '-' :: cs => some cs
      | _ => none
    let (day, cs) ← upToTwo? cs
    match cs with
    | [] => some ⟨numeral year, month, day, none⟩
    | cs => do
      let time ← dayTime? cs
      some ⟨numeral year, month, day, some time⟩

/-- Whether a plain scalar is a moment by its text: a date alone has ten characters. -/
def isMomentText (cs : List Char) : Bool :=
  match ofText? cs with
  | some m => m.time.isSome || cs.length == 10
  | none => false

/-! ### The calendar -/

def isLeapYear (year : Nat) : Bool := year % 4 == 0 && (year % 100 != 0 || year % 400 == 0)

def daysInMonth (year month : Nat) : Nat :=
  if month = 2 then if isLeapYear year then 29 else 28
  else if month ∈ [4, 6, 9, 11] then 30
  else 31

/-- Whether the calendar has the moment: years count from 1, and a zone is less than a day off. -/
def inCalendar (m : Moment) : Bool :=
  1 ≤ m.year && 1 ≤ m.month && m.month ≤ 12 && 1 ≤ m.day && m.day ≤ daysInMonth m.year m.month
    && m.time.all fun t =>
      t.hour < 24 && t.minute < 60 && t.second < 60 && t.zone.all (·.minutes < 24 * 60)

/-- A moment as date, time, millionths of a second unless zero, and zone. -/
def text (m : Moment) : String :=
  let date := padded 4 m.year ++ "-" ++ padded 2 m.month ++ "-" ++ padded 2 m.day
  match m.time with
  | none => date
  | some t =>
    date ++ " " ++ padded 2 t.hour ++ ":" ++ padded 2 t.minute ++ ":" ++ padded 2 t.second
      ++ (if t.microsecond = 0 then "" else "." ++ padded 6 t.microsecond)
      ++ (t.zone.map Zone.text).getD ""

end Moment

end Montage.Yaml
