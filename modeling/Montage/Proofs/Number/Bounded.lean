import Mathlib.Data.Nat.Digits.Defs
import Montage.Proofs.Number.Numeral

/-!
# Numbers within bounds

Reading a number within bounds looks at the number of its significant digits first, and converts
only those that have at most ten. With bounds of at most ten digits this changes nothing: what is
read is what a numeral of any length denotes by the places of its digits, if that lies within the
bounds.
-/

namespace Montage

variable {signs : Signs} {low high n : Int} {text : String} {cs digits : List Char}

/-! ### What numerals denote -/

def IsDigitRun (digits : List Char) : Prop := digits ≠ [] ∧ ∀ c ∈ digits, c.isDigit

/-- The number that a run of digits denotes by their places, the last of which counts the ones. -/
def placeValue (digits : List Char) : Nat :=
  Nat.ofDigits 10 (digits.reverse.map fun c => c.toNat - '0'.toNat)

/-- A text denotes a whole number: a sign that is admitted, or none, and a run of digits. -/
inductive Signs.Denotes (signs : Signs) : List Char → Int → Prop
  | bare {digits : List Char} (h : IsDigitRun digits) : Denotes signs digits (placeValue digits)
  | plus {digits : List Char} (h : IsDigitRun digits) :
    Denotes signs ('+' :: digits) (placeValue digits)
  | minus {digits : List Char} (hsigns : signs = .signed) (h : IsDigitRun digits) :
    Denotes signs ('-' :: digits) (-(placeValue digits : Int))

/-- One more digit makes the number ten times as large and adds its own value. -/
lemma placeValue_append (digits : List Char) (c : Char) :
    placeValue (digits ++ [c]) = 10 * placeValue digits + (c.toNat - '0'.toNat) := by
  rw [placeValue, List.reverse_append, List.reverse_singleton, List.singleton_append,
    List.map_cons, Nat.ofDigits_cons, placeValue, Nat.add_comm]

/-- Reading digits from the left does the same. -/
lemma digitsValue_append (digits : List Char) (c : Char) :
    digitsValue (digits ++ [c]) = 10 * digitsValue digits + (c.toNat - '0'.toNat) := by
  simp [digitsValue, Nat.ofDigitChars_append, Nat.ofDigitChars_cons]

/-- Digits are converted by their places. -/
lemma digitsValue_eq_placeValue (digits : List Char) : digitsValue digits = placeValue digits := by
  -- from the end, since the last digit counts the ones
  induction digits using List.reverseRecOn with
  | nil => rfl
  | append_singleton digits c ih => rw [digitsValue_append, placeValue_append, ih]

lemma isDigitRun_paddedDigits (zeros n : Nat) : IsDigitRun (paddedDigits zeros n) :=
  ⟨paddedDigits_ne_nil, fun _ => isDigit_of_mem_paddedDigits⟩

/-- Zeros in front do not count. -/
lemma placeValue_paddedDigits (zeros n : Nat) : placeValue (paddedDigits zeros n) = n := by
  rw [← digitsValue_eq_placeValue, digitsValue_paddedDigits]

/-- A numeral is a run of digits behind a sign or none. -/
lemma Signs.isNumeral_iff : signs.isNumeral cs ↔ IsDigitRun (signs.digitsOf cs) := by
  simp [isNumeral, IsDigitRun]

/-- The numerals of a number are the texts that denote it. -/
lemma Signs.numeral_iff_denotes : signs.Numeral n cs ↔ signs.Denotes cs n := by
  constructor
  · intro h
    cases h with
    | bare hn zeros =>
      have hdenotes : signs.Denotes _ _ := .bare (isDigitRun_paddedDigits zeros n.natAbs)
      rwa [placeValue_paddedDigits, Int.natAbs_of_nonneg hn] at hdenotes
    | plus hn zeros =>
      have hdenotes : signs.Denotes _ _ := .plus (isDigitRun_paddedDigits zeros n.natAbs)
      rwa [placeValue_paddedDigits, Int.natAbs_of_nonneg hn] at hdenotes
    | minus hsigns hn zeros =>
      have hdenotes := Denotes.minus hsigns (isDigitRun_paddedDigits zeros n.natAbs)
      rwa [placeValue_paddedDigits, Int.ofNat_natAbs_of_nonpos hn, Int.neg_neg] at hdenotes
  · intro h
    have hparts : IsDigitRun (signs.digitsOf cs) ∧ numeralValue cs = n := by
      cases h with
      | bare hdigits =>
        rw [digitsOf_digits hdigits.2, numeralValue_digits hdigits.2, digitsValue_eq_placeValue]
        exact ⟨hdigits, rfl⟩
      | plus hdigits =>
        rw [numeralValue, digitsValue_eq_placeValue]
        cases signs <;> exact ⟨hdigits, rfl⟩
      | minus hsigns hdigits =>
        subst hsigns
        rw [numeralValue, digitsValue_eq_placeValue]
        exact ⟨hdigits, rfl⟩
    obtain ⟨hdigits, rfl⟩ := hparts
    exact numeral_of_isNumeral (isNumeral_iff.2 hdigits)

/-! ### Reading without looking at the length -/

/-- Reads a numeral of any length, converts it, and then compares it with the bounds. -/
def readPlainly (signs : Signs) (low high : Int) (text : String) : Option Int :=
  if signs.isNumeral text.toList ∧ low ≤ numeralValue text.toList ∧
      numeralValue text.toList ≤ high then some (numeralValue text.toList)
  else none

/-- A numeral denotes the number that it is read as. -/
lemma Signs.denotes_iff :
    signs.Denotes cs n ↔ signs.isNumeral cs ∧ numeralValue cs = n := by
  rw [← numeral_iff_denotes]
  constructor
  · intro h
    obtain ⟨-, -, hvalue, -⟩ := h.parts
    exact ⟨h.isNumeral, hvalue⟩
  · rintro ⟨h, rfl⟩
    exact numeral_of_isNumeral h

/-- Plain reading gives the number that a text denotes, if it is in range. -/
lemma readPlainly_eq_some_iff : readPlainly signs low high text = some n ↔
    signs.Denotes text.toList n ∧ low ≤ n ∧ n ≤ high := by
  rw [readPlainly, Option.ite_none_right_eq_some, Option.some_inj, Signs.denotes_iff]
  constructor
  · rintro ⟨⟨hnumeral, hbounds⟩, rfl⟩
    exact ⟨⟨hnumeral, rfl⟩, hbounds⟩
  · rintro ⟨⟨hnumeral, rfl⟩, hbounds⟩
    exact ⟨⟨hnumeral, hbounds⟩, rfl⟩

/-! ### Reading within bounds -/

/-- What can be read is not too long, so it is a spelling if it denotes a number within bounds. -/
lemma Signs.Denotes.spells (h : signs.Denotes text.toList n) (hlong : ¬ signs.Overlong text)
    (hn : n.natAbs < 10000000000) : signs.Spells n text := by
  have hnumeral := numeral_iff_denotes.2 h
  refine ⟨hnumeral, Nat.not_lt.1 fun hlength => ?_⟩
  exact hlong ⟨n, hnumeral, hn, hlength⟩

/-- Reading within bounds fails just for the numerals that are too long. Otherwise it gives what a
text denotes if that lies within the bounds, and none for all other texts: the same as converting a
numeral of any length and comparing it with the bounds. -/
theorem readBounded_denotes (hlow : -10000000000 < low) (hhigh : high < 10000000000) :
    ((∃ f, readBounded signs low high text = .error f) ↔ signs.Overlong text) ∧
    ∀ r, readBounded signs low high text = .ok r →
      (∀ n, r = some n ↔ signs.Denotes text.toList n ∧ low ≤ n ∧ n ≤ high) ∧
      r = readPlainly signs low high text := by
  have herror : (∃ f, readBounded signs low high text = .error f) ↔ signs.Overlong text := by
    constructor
    · rintro ⟨f, hf⟩
      exact (readBounded_eq_error_iff.1 hf).2
    · intro hlong
      exact ⟨_, readBounded_eq_error_iff.2 ⟨rfl, hlong⟩⟩
  refine ⟨herror, fun r hr => ?_⟩
  have hlong : ¬ signs.Overlong text := by
    rw [← herror]
    rintro ⟨f, hf⟩
    nomatch hr.symm.trans hf
  have hsome : ∀ n, r = some n ↔ signs.Denotes text.toList n ∧ low ≤ n ∧ n ≤ high := by
    intro n
    rw [← Except.ok.injEq (ε := NumberFault), ← hr, readBounded_iff_spells hlow hhigh]
    constructor
    · rintro ⟨hspells, hbounds⟩
      exact ⟨Signs.numeral_iff_denotes.1 hspells.1, hbounds⟩
    · rintro ⟨hdenotes, hbounds⟩
      exact ⟨hdenotes.spells hlong (by omega), hbounds⟩
  refine ⟨hsome, Option.ext fun n => ?_⟩
  rw [hsome n, readPlainly_eq_some_iff]

theorem readBounded_denotes_minus_seven :
    readBounded .signed (-8) 8 "-007" = .ok (some (-7)) ∧
      Signs.signed.Denotes "-007".toList (-7) ∧
      readPlainly .signed (-8) 8 "-007" = some (-7) := by
  have hread : readBounded .signed (-8) 8 "-007" = .ok (some (-7)) := by decide
  obtain ⟨hsome, hplain⟩ := (readBounded_denotes (by decide) (by decide)).2 _ hread
  exact ⟨hread, ((hsome (-7)).1 rfl).1, hplain.symm⟩

/-- Digits of other scripts and a second sign are not read, and zero may have a minus sign. -/
example : readBounded .signed (-8) 8 "٣" = .ok none ∧ readBounded .signed (-8) 8 "+-3" = .ok none ∧
    readBounded .signed 0 8 "-0" = .ok (some 0) ∧ readBounded .unsigned 0 8 "-0" = .ok none := by
  decide

end Montage
