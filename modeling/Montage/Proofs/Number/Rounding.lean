import Mathlib.Algebra.Group.Nat.Defs
import Mathlib.Tactic.Lemma
import Mathlib.Tactic.SplitIfs
import Montage.Number.Binary64

/-!
# Rounding to 53 binary digits

What rounding gives is a number of at most 53 significant binary digits, and such a number is its
own rounding. Rounding is never off by more than the quotient itself, and it keeps divisibility by
powers of two. Rounding keeps the order of numbers. Magnitudes can be computed with as long as there
is room for a doubling.
-/

namespace Montage

variable {num num' den n m q d : Nat}

/-! ### Quotients -/

/-- A quotient without a remainder stays as it is. -/
lemma roundQuotient_mul (hd : 0 < d) : roundQuotient (q * d) d = q := by
  rw [roundQuotient, Nat.mul_div_cancel q hd, Nat.mul_mod_left]
  simp [hd]

/-- Rounding adds one at most. -/
lemma roundQuotient_le : roundQuotient num den ≤ num / den + 1 := by
  have hparity : num / den % 2 ≤ 1 := by omega
  unfold roundQuotient
  dsimp only
  split_ifs <;> omega

/-- Rounding takes nothing away. -/
lemma div_le_roundQuotient : num / den ≤ roundQuotient num den := by
  unfold roundQuotient
  dsimp only
  split_ifs <;> omega

/-- Rounding keeps the order. -/
lemma roundQuotient_mono (h : num ≤ num') : roundQuotient num den ≤ roundQuotient num' den := by
  have hquotients : num / den ≤ num' / den := Nat.div_le_div_right h
  rcases Nat.lt_or_eq_of_le hquotients with hlt | heq
  · calc roundQuotient num den ≤ num / den + 1 := roundQuotient_le
      _ ≤ num' / den := hlt
      _ ≤ roundQuotient num' den := div_le_roundQuotient
  · -- the quotients are the same, and so it depends on what is left
    have hrests : num % den ≤ num' % den := by
      have hnum := Nat.div_add_mod num den
      have hnum' := Nat.div_add_mod num' den
      rw [← heq] at hnum'
      omega
    unfold roundQuotient
    rw [← heq]
    dsimp only
    split_ifs <;> omega

/-! ### Numbers of at most 53 significant binary digits -/

/-- A number has at most 53 binary digits, not counting zeros at its end. -/
def IsBinary (n : Nat) : Prop := 2 ^ (n.log2 - 52) ∣ n

/-- A number of 53 significant bits stays as it is. -/
lemma IsBinary.roundBinary_eq (h : IsBinary n) : roundBinary n 1 = n := by
  have hbits : excessBits n 1 = n.log2 - 52 := by rw [excessBits, Nat.div_one]
  rw [IsBinary, ← hbits] at h
  obtain ⟨q, hq⟩ := h
  have hround : roundQuotient n (1 <<< excessBits n 1) = q := by
    rw [Nat.one_shiftLeft]
    generalize excessBits n 1 = e at hq
    rw [hq, Nat.mul_comm, roundQuotient_mul (Nat.two_pow_pos e)]
  rw [roundBinary, hround, Nat.shiftLeft_eq, Nat.mul_comm, ← hq]

lemma IsBinary.two_mul (h : IsBinary n) : IsBinary (2 * n) := by
  by_cases hn : n = 0
  · rw [hn]
    exact Nat.dvd_zero _
  · rw [IsBinary, Nat.log2_two_mul hn]
    have hle : n.log2 + 1 - 52 ≤ n.log2 - 52 + 1 := by omega
    have hdvd : 2 ^ (n.log2 - 52 + 1) ∣ 2 * n := by
      rw [Nat.pow_succ, Nat.mul_comm]
      exact Nat.mul_dvd_mul_left 2 h
    exact Nat.dvd_trans (Nat.pow_dvd_pow 2 hle) hdvd

lemma isBinary_shiftLeft {k : Nat} (h : q ≤ 2 ^ 53) : IsBinary (q <<< k) := by
  rw [IsBinary, Nat.shiftLeft_eq]
  by_cases hq : q = 0
  · rw [hq, Nat.zero_mul]
    exact Nat.dvd_zero _
  have hne : q * 2 ^ k ≠ 0 := Nat.mul_ne_zero hq (Nat.ne_of_gt (Nat.two_pow_pos k))
  -- a carry to 2 ^ 53 makes one digit more, which is a zero at the end
  rcases Nat.lt_or_eq_of_le h with hlt | heq
  · have hlog : (q * 2 ^ k).log2 < 53 + k := by
      rw [Nat.log2_lt hne, Nat.pow_add]
      exact Nat.mul_lt_mul_of_pos_right hlt (Nat.two_pow_pos k)
    exact Nat.dvd_mul_left_of_dvd (Nat.pow_dvd_pow 2 (by omega)) q
  · rw [heq, ← Nat.pow_add, Nat.log2_two_pow]
    exact Nat.pow_dvd_pow 2 (by omega)

/-! ### Rounding -/

/-- What is left of a quotient without its excess bits has at most 53 bits. -/
lemma leadingQuotient_lt : num / (den <<< excessBits num den) < 2 ^ 53 := by
  rw [Nat.shiftLeft_eq, ← Nat.div_div_eq_div_mul, Nat.div_lt_iff_lt_mul (Nat.two_pow_pos _),
    ← Nat.pow_add]
  have hlog : (num / den).log2 + 1 ≤ 53 + excessBits num den := by
    rw [excessBits]
    omega
  calc num / den < 2 ^ ((num / den).log2 + 1) := Nat.lt_log2_self
    _ ≤ 2 ^ (53 + excessBits num den) := Nat.pow_le_pow_right (by decide) hlog

/-- Rounding gives a number of at most 53 significant binary digits. -/
lemma isBinary_roundBinary : IsBinary (roundBinary num den) := by
  apply isBinary_shiftLeft
  exact Nat.le_trans roundQuotient_le leadingQuotient_lt

/-- Rounding at most doubles a number, apart from the last unit. -/
lemma roundBinary_le : roundBinary num den ≤ 2 * (num / den) + 1 := by
  have hquotient : roundQuotient num (den <<< excessBits num den)
      ≤ num / den / 2 ^ excessBits num den + 1 := by
    rw [Nat.div_div_eq_div_mul, ← Nat.shiftLeft_eq]
    exact roundQuotient_le
  have hpower : 2 ^ excessBits num den ≤ num / den + 1 := by
    by_cases hbits : excessBits num den = 0
    · rw [hbits]
      exact Nat.le_add_left 1 _
    · have hne : num / den ≠ 0 := by
        intro hzero
        simp [excessBits, hzero] at hbits
      have hlog : excessBits num den ≤ (num / den).log2 := Nat.sub_le _ _
      exact Nat.le_succ_of_le
        (Nat.le_trans (Nat.pow_le_pow_right (by decide) hlog) (Nat.log2_self_le hne))
  calc roundBinary num den
      ≤ (num / den / 2 ^ excessBits num den + 1) * 2 ^ excessBits num den := by
        rw [roundBinary, Nat.shiftLeft_eq _ (excessBits num den)]
        exact Nat.mul_le_mul_right _ hquotient
    _ = num / den / 2 ^ excessBits num den * 2 ^ excessBits num den + 2 ^ excessBits num den := by
        rw [Nat.add_mul, Nat.one_mul]
    _ ≤ num / den + (num / den + 1) :=
        Nat.add_le_add (Nat.div_mul_le_self _ _) hpower
    _ = 2 * (num / den) + 1 := by omega

lemma excessBits_mono (h : num ≤ num') : excessBits num den ≤ excessBits num' den := by
  have hquotients : num / den ≤ num' / den := Nat.div_le_div_right h
  by_cases hzero : num / den = 0
  · simp [excessBits, hzero]
  · have hne : num' / den ≠ 0 :=
      Nat.ne_of_gt (Nat.lt_of_lt_of_le (Nat.pos_of_ne_zero hzero) hquotients)
    have hlog : (num / den).log2 ≤ (num' / den).log2 := by
      rw [Nat.le_log2 hne]
      exact Nat.le_trans (Nat.log2_self_le hzero) hquotients
    exact Nat.sub_le_sub_right hlog 52

/-- If there are excess bits, then just 53 bits are left. -/
lemma le_leadingQuotient (h : 0 < excessBits num den) :
    2 ^ 52 ≤ num / (den <<< excessBits num den) := by
  have hbits : 52 + excessBits num den = (num / den).log2 := by
    rw [excessBits] at h ⊢
    omega
  have hne : num / den ≠ 0 := by
    intro hzero
    simp [excessBits, hzero] at h
  rw [Nat.shiftLeft_eq, ← Nat.div_div_eq_div_mul, Nat.le_div_iff_mul_le (Nat.two_pow_pos _),
    ← Nat.pow_add, hbits]
  exact Nat.log2_self_le hne

/-- Of two numbers, the greater one is not rounded to less. -/
lemma roundBinary_mono (h : num ≤ num') : roundBinary num den ≤ roundBinary num' den := by
  rw [roundBinary, roundBinary, Nat.shiftLeft_eq _ (excessBits num den),
    Nat.shiftLeft_eq _ (excessBits num' den)]
  have hbits : excessBits num den ≤ excessBits num' den := excessBits_mono h
  rcases Nat.lt_or_eq_of_le hbits with hlt | heq
  · -- the powers of two between the numbers are no further than a carry from either side
    have hlow : roundQuotient num (den <<< excessBits num den) ≤ 2 ^ 53 :=
      Nat.le_trans roundQuotient_le leadingQuotient_lt
    have hhigh : 2 ^ 52 ≤ roundQuotient num' (den <<< excessBits num' den) :=
      Nat.le_trans (le_leadingQuotient (by omega)) div_le_roundQuotient
    calc roundQuotient num (den <<< excessBits num den) * 2 ^ excessBits num den
        ≤ 2 ^ 53 * 2 ^ excessBits num den := Nat.mul_le_mul_right _ hlow
      _ = 2 ^ 52 * 2 ^ (excessBits num den + 1) := by
        rw [← Nat.pow_add, ← Nat.pow_add]
        congr 1
        omega
      _ ≤ 2 ^ 52 * 2 ^ excessBits num' den :=
        Nat.mul_le_mul_left _ (Nat.pow_le_pow_right (by decide) hlt)
      _ ≤ roundQuotient num' (den <<< excessBits num' den) * 2 ^ excessBits num' den :=
        Nat.mul_le_mul_right _ hhigh
  · rw [heq]
    exact Nat.mul_le_mul_right _ (roundQuotient_mono h)

/-- Powers of two stay as they are. -/
lemma roundBinary_two_pow (k : Nat) : roundBinary (1 <<< k) 1 = 1 <<< k :=
  (isBinary_shiftLeft (by decide)).roundBinary_eq

/-- A multiple of a power of two is rounded to another one. -/
lemma dvd_roundBinary (h : 1 <<< m ∣ n) : 1 <<< m ∣ roundBinary n 1 := by
  rw [Nat.one_shiftLeft] at h ⊢
  rcases Nat.le_total (excessBits n 1) m with hle | hle
  · have hn : IsBinary n := by
      rw [excessBits, Nat.div_one] at hle
      exact Nat.dvd_trans (Nat.pow_dvd_pow 2 hle) h
    rwa [hn.roundBinary_eq]
  · rw [roundBinary, Nat.shiftLeft_eq]
    exact Nat.dvd_mul_left_of_dvd (Nat.pow_dvd_pow 2 hle) _

/-! ### Magnitudes -/

namespace Magnitude

variable {a : Magnitude} {n : Nat}

/-- A quotient that is far below the limit can be rounded. -/
lemma exists_round? (h : 2 * (num / den) + 1 < unitsLimit) : ∃ a, round? num den = some a ∧
    a.units = roundBinary num den ∧ a.units ≤ 2 * (num / den) + 1 := by
  have hlt : roundBinary num den < unitsLimit := Nat.lt_of_le_of_lt roundBinary_le h
  exact ⟨⟨_, hlt⟩, dif_pos hlt, rfl, roundBinary_le⟩

lemma exists_add? (a b : Magnitude) (h : 2 * (a.units + b.units) + 1 < unitsLimit) :
    ∃ c, a.add? b = some c ∧ c.units = roundBinary (a.units + b.units) 1 ∧
      c.units ≤ 2 * (a.units + b.units) + 1 := by
  rw [← Nat.div_one (a.units + b.units)] at h
  obtain ⟨c, hc, hunits, hle⟩ := exists_round? h
  exact ⟨c, hc, hunits, by rwa [Nat.div_one] at hle⟩

lemma exists_ofNat? (h : 2 * (n * unitsPerOne) + 1 < unitsLimit) :
    ∃ a, ofNat? n = some a ∧ a.units = roundBinary (n * unitsPerOne) 1 ∧
      a.units ≤ 2 * (n * unitsPerOne) + 1 := by
  rw [← Nat.div_one (n * unitsPerOne)] at h
  obtain ⟨a, ha, hunits, hle⟩ := exists_round? h
  exact ⟨a, ha, hunits, by rwa [Nat.div_one] at hle⟩

/-- The rounded value is that of the rounding. -/
lemma units_of_round? (h : round? num den = some a) : a.units = roundBinary num den := by
  unfold round? ofUnits? at h
  split_ifs at h
  exact congrArg units (Option.some.inj h).symm

/-- A magnitude is whole if it is a multiple of one. -/
lemma isWhole_iff : a.isWhole ↔ unitsPerOne ∣ a.units := by
  rw [isWhole, beq_iff_eq, Nat.dvd_iff_mod_eq_zero]

lemma floor_mul_le (a : Magnitude) : a.floor * unitsPerOne ≤ a.units := Nat.div_mul_le_self _ _

end Magnitude

lemma unitsPerOne_pos : 0 < unitsPerOne := by decide +kernel

lemma unitsPerOne_mul_le : 1000 * unitsPerOne ≤ unitsLimit := by decide +kernel

lemma two_mul_half : 2 * Magnitude.half.units = unitsPerOne := by decide +kernel

/-- Each magnitude has fewer digits than may be written. -/
lemma unitsLimit_le_powerOfTen : unitsLimit ≤ powerOfTen digitLimit := by decide +kernel

/-- Whole numbers are rounded to whole numbers. -/
lemma unitsPerOne_dvd_roundBinary : unitsPerOne ∣ roundBinary (n * unitsPerOne) 1 :=
  dvd_roundBinary (Nat.dvd_mul_left unitsPerOne n)

end Montage
