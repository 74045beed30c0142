import Mathlib.Algebra.Group.Nat.Defs
import Mathlib.Data.List.Induction
import Mathlib.Tactic.Lemma
import Montage.Number.Decimal

/-!
# Numerals of whole numbers

The spellings of a whole number: an optional sign, any number of zeros, and its digits. Reading a
numeral within bounds gives a number just when the text is a spelling of it with at most 4300
digits and the number lies within the bounds. Reading fails, in place of giving none, for the
numerals with more digits than that of which most are zeros in front.
-/

namespace Montage

/-! ### Digits -/

/-- The digits of a natural number with zeros in front. -/
def paddedDigits (zeros n : Nat) : List Char := List.replicate zeros '0' ++ Nat.toDigits 10 n

section paddedDigits

variable {zeros n : Nat}

@[simp] lemma paddedDigits_ne_nil : paddedDigits zeros n ≠ [] := by simp [paddedDigits]

lemma isDigit_of_mem_paddedDigits {c : Char} (hc : c ∈ paddedDigits zeros n) : c.isDigit := by
  rcases List.mem_append.1 hc with hc | hc
  · rw [List.eq_of_mem_replicate hc]
    rfl
  · exact Nat.isDigit_of_mem_toDigits (by decide) (by decide) hc

/-- Digits read as the number that they were made of, with zeros in front or not. -/
@[simp] lemma digitsValue_paddedDigits : digitsValue (paddedDigits zeros n) = n := by
  rw [digitsValue, paddedDigits, Nat.ofDigitChars_append, Nat.ofDigitChars_replicate_zero,
    Nat.mul_zero, Nat.ofDigitChars_ten_toDigits]

/-- A number below ten billion has at most ten significant digits. -/
lemma length_dropZeros_paddedDigits_le (h : n < 10000000000) :
    (dropZeros (paddedDigits zeros n)).length ≤ 10 := by
  have hdigits : (Nat.toDigits 10 n).length ≤ 10 :=
    (Nat.length_toDigits_le_iff (by decide) (by decide)).2 h
  have hdrop : dropZeros (paddedDigits zeros n) = dropZeros (Nat.toDigits 10 n) := by
    simp [dropZeros, paddedDigits]
  rw [hdrop]
  exact Nat.le_trans (List.dropWhile_sublist _).length_le hdigits

end paddedDigits

/-- Each digit is that of a number below ten. -/
lemma exists_digitChar_of_isDigit {c : Char} (h : c.isDigit) : ∃ k < 10, Nat.digitChar k = c := by
  have hrange : 48 ≤ c.toNat ∧ c.toNat ≤ 57 := Char.isDigit_iff_toNat.1 h
  have hk : c.toNat - 48 < 10 := by omega
  refine ⟨c.toNat - 48, hk, Char.toNat_inj.1 ?_⟩
  rw [Nat.toNat_digitChar_of_lt_ten hk]
  omega

/-- A run of digits consists of zeros and the digits of its value. -/
lemma exists_eq_paddedDigits {digits : List Char} (hne : digits ≠ [])
    (h : ∀ c ∈ digits, c.isDigit) : ∃ zeros, digits = paddedDigits zeros (digitsValue digits) := by
  induction digits using List.reverseRecOn with
  | nil => exact absurd rfl hne
  | append_singleton digits c ih =>
    obtain ⟨k, hk, rfl⟩ := exists_digitChar_of_isDigit (h c (by simp))
    have hlast : digitsValue (digits ++ [Nat.digitChar k]) = 10 * digitsValue digits + k := by
      simp [digitsValue, Nat.ofDigitChars_append, Nat.ofDigitChars_cons_digitChar_of_lt_ten hk]
    rw [hlast]
    rcases eq_or_ne digits [] with rfl | hdigits
    · exact ⟨0, by simp [paddedDigits, digitsValue, Nat.toDigits_of_lt_base hk]⟩
    · obtain ⟨zeros, hzeros⟩ := ih hdigits fun c hc => h c (by simp [hc])
      rcases Nat.eq_zero_or_pos (digitsValue digits) with hzero | hpos
      · rw [hzero] at hzeros ⊢
        refine ⟨zeros + 1, ?_⟩
        rw [hzeros]
        simp [paddedDigits, Nat.toDigits_of_lt_base hk, List.replicate_succ']
      · refine ⟨zeros, ?_⟩
        conv_lhs => rw [hzeros]
        rw [paddedDigits, paddedDigits, ← Nat.toDigits_append_toDigits (by decide) hpos hk,
          Nat.toDigits_of_lt_base hk, List.append_assoc]

/-! ### Significant digits -/

section dropZeros

variable {digits : List Char} {zeros n : Nat}

/-- Zeros in front do not count. -/
lemma digitsValue_dropZeros (digits : List Char) :
    digitsValue (dropZeros digits) = digitsValue digits := by
  induction digits with
  | nil => rfl
  | cons c digits ih =>
    by_cases hc : c = '0'
    · subst hc
      exact ih
    · rw [dropZeros, List.dropWhile_cons_of_neg (by simpa using hc)]

/-- A run of digits is less than the power of ten for its length. -/
lemma digitsValue_lt (h : ∀ c ∈ digits, c.isDigit) : digitsValue digits < 10 ^ digits.length := by
  rcases eq_or_ne digits [] with rfl | hne
  · decide
  obtain ⟨zeros, hzeros⟩ := exists_eq_paddedDigits hne h
  have hlength : (Nat.toDigits 10 (digitsValue digits)).length ≤ digits.length := by
    conv_rhs => rw [hzeros]
    rw [paddedDigits, List.length_append]
    exact Nat.le_add_left _ _
  exact (Nat.length_toDigits_le_iff (by decide) (List.length_pos_iff.2 hne)).1 hlength

/-- A number has at most ten significant digits just when it is less than 10¹⁰. -/
lemma length_dropZeros_paddedDigits_le_iff :
    (dropZeros (paddedDigits zeros n)).length ≤ 10 ↔ n < 10000000000 := by
  constructor
  · intro h
    have hdigits : ∀ c ∈ dropZeros (paddedDigits zeros n), c.isDigit := fun c hc =>
      isDigit_of_mem_paddedDigits ((List.dropWhile_sublist _).subset hc)
    calc n = digitsValue (dropZeros (paddedDigits zeros n)) := by
          rw [digitsValue_dropZeros, digitsValue_paddedDigits]
      _ < 10 ^ (dropZeros (paddedDigits zeros n)).length := digitsValue_lt hdigits
      _ ≤ 10 ^ 10 := Nat.pow_le_pow_right (by decide) h
  · exact length_dropZeros_paddedDigits_le

end dropZeros

/-! ### Numerals -/

/-- A text is a numeral of a number: a sign that suits it, or none, then zeros and its digits. -/
inductive Signs.Numeral (signs : Signs) (n : Int) : List Char → Prop
  | bare (h : 0 ≤ n) (zeros : Nat) : Numeral signs n (paddedDigits zeros n.natAbs)
  | plus (h : 0 ≤ n) (zeros : Nat) : Numeral signs n ('+' :: paddedDigits zeros n.natAbs)
  | minus (hsigns : signs = .signed) (h : n ≤ 0) (zeros : Nat) :
    Numeral signs n ('-' :: paddedDigits zeros n.natAbs)

/-- A text spells a number: it is a numeral of the number with at most 4300 digits. -/
def Signs.Spells (signs : Signs) (n : Int) (text : String) : Prop :=
  signs.Numeral n text.toList ∧ text.toList.countP Char.isDigit ≤ 4300

/-- A text is a numeral that is too long to be read, of a number with at most ten digits: at least
4291 zeros stand in front of them. -/
def Signs.Overlong (signs : Signs) (text : String) : Prop :=
  ∃ n : Int, signs.Numeral n text.toList ∧ n.natAbs < 10000000000 ∧
    4300 < text.toList.countP Char.isDigit

section readBounded

variable {signs : Signs} {low high n : Int} {text : String} {cs digits : List Char}
  {f : NumberFault}

/-- A run of digits has no sign. -/
lemma head_ne_sign_of_isDigit {c : Char} (h : c.isDigit) : c ≠ '+' ∧ c ≠ '-' := by
  constructor <;>
  · rintro rfl
    simp at h

lemma digitsOf_digits (h : ∀ c ∈ digits, c.isDigit) : signs.digitsOf digits = digits := by
  cases digits with
  | nil => rfl
  | cons c cs =>
    obtain ⟨hplus, hminus⟩ := head_ne_sign_of_isDigit (h c (by simp))
    cases signs <;> simp [Signs.digitsOf, Signs.admits, hplus, hminus]

/-- Without a sign, a numeral is its digits. -/
lemma numeralValue_digits (h : ∀ c ∈ digits, c.isDigit) :
    numeralValue digits = digitsValue digits := by
  unfold numeralValue
  split
  · exact absurd rfl (head_ne_sign_of_isDigit (h _ (by simp))).2
  · exact absurd rfl (head_ne_sign_of_isDigit (h _ (by simp))).1
  · rfl

/-- What reading makes of the three forms of a numeral. -/
lemma Signs.Numeral.parts (h : signs.Numeral n cs) :
    ∃ zeros, signs.digitsOf cs = paddedDigits zeros n.natAbs ∧ numeralValue cs = n ∧
      cs.countP Char.isDigit = (paddedDigits zeros n.natAbs).length := by
  have hcount : ∀ zeros, (paddedDigits zeros n.natAbs).countP Char.isDigit
      = (paddedDigits zeros n.natAbs).length := fun zeros =>
    List.countP_eq_length.2 fun c => isDigit_of_mem_paddedDigits
  cases h with
  | bare hn zeros =>
    refine ⟨zeros, digitsOf_digits fun c => isDigit_of_mem_paddedDigits, ?_, hcount zeros⟩
    rw [numeralValue_digits fun c => isDigit_of_mem_paddedDigits, digitsValue_paddedDigits]
    omega
  | plus hn zeros =>
    refine ⟨zeros, by cases signs <;> rfl, ?_, by simpa using hcount zeros⟩
    rw [numeralValue, digitsValue_paddedDigits]
    omega
  | minus hsigns hn zeros =>
    subst hsigns
    refine ⟨zeros, rfl, ?_, by simpa using hcount zeros⟩
    rw [numeralValue, digitsValue_paddedDigits]
    omega

/-- A sign and a run of digits are a numeral of their value. -/
lemma Signs.numeral_of_isNumeral (h : signs.isNumeral cs) : signs.Numeral (numeralValue cs) cs := by
  simp only [isNumeral, Bool.and_eq_true, Bool.not_eq_true', List.isEmpty_eq_false_iff,
    List.all_eq_true] at h
  obtain ⟨hne, hall⟩ := h
  obtain ⟨zeros, hzeros⟩ := exists_eq_paddedDigits hne hall
  cases cs with
  | nil => exact absurd rfl hne
  | cons c ds =>
    simp only [digitsOf] at hne hall hzeros
    split_ifs at hne hall hzeros with hsign
    · have hcases : c = '+' ∨ signs = .signed ∧ c = '-' := by
        cases signs <;> simpa [admits] using hsign
      obtain rfl | ⟨rfl, rfl⟩ := hcases
      · have hplus : Numeral signs (digitsValue ds) ('+' :: paddedDigits zeros (digitsValue ds)) :=
          .plus (Int.natCast_nonneg _) zeros
        rwa [← hzeros] at hplus
      · have hle : -(digitsValue ds : Int) ≤ 0 := by omega
        have hminus := Numeral.minus rfl hle zeros
        rwa [Int.natAbs_neg, Int.natAbs_natCast, ← hzeros] at hminus
    · have hbare : Numeral signs (digitsValue (c :: ds))
          (paddedDigits zeros (digitsValue (c :: ds))) := .bare (Int.natCast_nonneg _) zeros
      rw [numeralValue_digits hall]
      rwa [← hzeros] at hbare

/-- What spells a number is a numeral. -/
lemma Signs.Numeral.isNumeral (h : signs.Numeral n cs) : signs.isNumeral cs := by
  obtain ⟨zeros, hdigits, -, -⟩ := h.parts
  simp only [Signs.isNumeral, hdigits, Bool.and_eq_true, Bool.not_eq_true',
    List.isEmpty_eq_false_iff, List.all_eq_true]
  exact ⟨paddedDigits_ne_nil, fun c => isDigit_of_mem_paddedDigits⟩

/-- A text reads as a number if it is a numeral of it, short enough and in range. -/
lemma readBounded_eq_some_iff : readBounded signs low high text = .ok (some n) ↔
    signs.isNumeral text.toList ∧ (dropZeros (signs.digitsOf text.toList)).length ≤ 10 ∧
      (signs.digitsOf text.toList).length ≤ 4300 ∧ low ≤ n ∧ n ≤ high ∧
      numeralValue text.toList = n := by
  unfold readBounded digitLimit
  grind

/-- Just the spellings of the numbers within the bounds are read. -/
lemma readBounded_iff_spells (hlow : -10000000000 < low) (hhigh : high < 10000000000) :
    readBounded signs low high text = .ok (some n) ↔ signs.Spells n text ∧ low ≤ n ∧ n ≤ high := by
  rw [readBounded_eq_some_iff]
  constructor
  · rintro ⟨hshape, -, hlength, hn, hn', rfl⟩
    have hnumeral := Signs.numeral_of_isNumeral hshape
    obtain ⟨zeros, hdigits, -, hcount⟩ := hnumeral.parts
    rw [hdigits, ← hcount] at hlength
    exact ⟨⟨hnumeral, hlength⟩, hn, hn'⟩
  · rintro ⟨⟨hnumeral, hcount⟩, hn, hn'⟩
    obtain ⟨zeros, hdigits, hvalue, hlength⟩ := hnumeral.parts
    refine ⟨hnumeral.isNumeral, ?_, ?_, hn, hn', hvalue⟩
    · rw [hdigits]
      exact length_dropZeros_paddedDigits_le (by omega)
    · rwa [hdigits, ← hlength]

/-- Reading fails just for the numerals that are too long, whatever the bounds. -/
lemma readBounded_eq_error_iff :
    readBounded signs low high text = .error f ↔ f = .tooManyDigits ∧ signs.Overlong text := by
  have hcases : readBounded signs low high text = .error f ↔ f = .tooManyDigits ∧
      signs.isNumeral text.toList ∧ (dropZeros (signs.digitsOf text.toList)).length ≤ 10 ∧
        4300 < (signs.digitsOf text.toList).length := by
    unfold readBounded digitLimit
    grind
  rw [hcases]
  refine and_congr_right fun _ => ⟨?_, ?_⟩
  · rintro ⟨hshape, hsignificant, hlength⟩
    have hnumeral := Signs.numeral_of_isNumeral hshape
    obtain ⟨zeros, hdigits, -, hcount⟩ := hnumeral.parts
    rw [hdigits, length_dropZeros_paddedDigits_le_iff] at hsignificant
    rw [hdigits, ← hcount] at hlength
    exact ⟨_, hnumeral, hsignificant, hlength⟩
  · rintro ⟨n, hnumeral, hsignificant, hlength⟩
    obtain ⟨zeros, hdigits, -, hcount⟩ := hnumeral.parts
    refine ⟨hnumeral.isNumeral, ?_, ?_⟩
    · rwa [hdigits, length_dropZeros_paddedDigits_le_iff]
    · rwa [hdigits, ← hcount]

end readBounded

/-! ### Writing -/

/-- A number of at most 4300 digits is written. -/
lemma decimalText_eq_ok {n : Int} (h : n.natAbs < powerOfTen digitLimit) :
    decimalText n = .ok n.repr := if_neg (Nat.not_le.2 h)

lemma le_powerOfTen_digitLimit : 10000000000 ≤ powerOfTen digitLimit := by decide +kernel

end Montage
