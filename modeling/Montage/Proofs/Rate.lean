import Montage.Proofs.Number.Numeral
import Montage.Proofs.Number.Rounding
import Montage.Proofs.Result
import Montage.Rate

/-!
# Rate control of a quality

Every power that is not too large has a bit rate, a whole number of megabits whose double is exact.
So the settings of a quality are always written with whole numbers.
-/

namespace Montage

variable {curve : Curve} {quality : Int}

/-- The power of a quality is not too large. -/
def Curve.Covers (curve : Curve) (quality : Int) : Prop :=
  ∃ power, (Magnitude.ofNat? quality.natAbs).bind curve = some power

/-- A curve that keeps all numbers has a power of each quality in range. -/
lemma Curve.covers_some (hnonneg : 0 ≤ quality) (hle : quality ≤ 4294967295) :
    Curve.Covers some quality := by
  have hlimit : 8589934592 * unitsPerOne ≤ unitsLimit := by decide +kernel
  have hpos := unitsPerOne_pos
  have hunits : quality.natAbs * unitsPerOne ≤ 4294967295 * unitsPerOne :=
    Nat.mul_le_mul_right _ (by omega)
  obtain ⟨power, hpower, -⟩ := Magnitude.exists_ofNat? (n := quality.natAbs) (by omega)
  exact ⟨power, by rw [hpower, Option.bind_some]⟩

/-! ### Bit rates -/

namespace RateControl

/-- There is a bit rate for every power; it is whole, and not too large to be doubled. -/
lemma exists_bitrateAt (power : Magnitude) : ∃ rate, bitrateAt power = some rate ∧
    unitsPerOne ∣ rate.units ∧ IsBinary rate.units ∧ 4 * rate.units + 1 < unitsLimit := by
  have hpower := power.units_lt
  have hone := unitsPerOne_mul_le
  have hhalf := two_mul_half
  have hpos := unitsPerOne_pos
  -- each of the four roundings at most doubles a number, and the quotient leaves room for it
  unfold bitrateAt
  generalize Magnitude.half = half at hhalf ⊢
  obtain ⟨share, hshare, -, hshareLe⟩ : ∃ a, power.div? 2200 = some a ∧
      a.units = roundBinary power.units 2200 ∧ a.units ≤ 2 * (power.units / 2200) + 1 :=
    Magnitude.exists_round? (by omega)
  obtain ⟨sum, hsum, -, hsumLe⟩ : ∃ a, half.add? share = some a ∧ _ ∧ _ :=
    Magnitude.exists_add? _ _ (by omega)
  obtain ⟨raised, hraised, -, hraisedLe⟩ : ∃ a, sum.add? half = some a ∧ _ ∧ _ :=
    Magnitude.exists_add? _ _ (by omega)
  have hfloor := raised.floor_mul_le
  obtain ⟨rate, hrate, hunits, hrateLe⟩ : ∃ a, Magnitude.ofNat? raised.floor = some a ∧ _ ∧ _ :=
    Magnitude.exists_ofNat? (by omega)
  refine ⟨rate, ?_, ?_, ?_, by omega⟩
  · refine Option.bind_eq_some_iff.2 ⟨share, hshare, ?_⟩
    refine Option.bind_eq_some_iff.2 ⟨sum, hsum, ?_⟩
    exact Option.bind_eq_some_iff.2 ⟨raised, hraised, hrate⟩
  · rw [hunits]
    exact unitsPerOne_dvd_roundBinary
  · rw [hunits]
    exact isBinary_roundBinary

/-! ### Rate factors -/

/-- Whole numbers are compared as such. -/
lemma isLess_int {a b : Int} : (Number.int a).isLess (.int b) = decide (a < b) := by
  have hpos : (0 : Int) < unitsPerOne := Int.natCast_pos.2 unitsPerOne_pos
  simp [Number.isLess, Number.place?, Int.mul_lt_mul_right hpos]

/-- Whole numbers are brought into a range as such. -/
lemma clamp_int {value low high : Int} :
    (Number.int value).clamp (.int low) (.int high) = .int (max low (min high value)) := by
  unfold Number.clamp
  by_cases hhigh : value < high
  · simp only [isLess_int, decide_eq_true hhigh, if_true, decide_eq_true_eq]
    split_ifs <;>
    · congr 1
      omega
  · simp only [isLess_int, decide_eq_false hhigh, Bool.false_eq_true, if_false, decide_eq_true_eq]
    split_ifs <;>
    · congr 1
      omega

/-- The rate factor is a 51st part of what is missing to 100, rounded down, from 0 to 51. -/
lemma crfOf_eq : crfOf quality = .int (max 0 (min 51 ((100 - quality) * 51 / 100))) := by
  rw [crfOf, Int.fdiv_eq_ediv_of_nonneg _ (by decide), clamp_int]

/-! ### Settings -/

/-- A quality whose power is not too large has settings: whole rates, of which the buffer's is the
double of the other. -/
lemma exists_ofQuality (hquality : 0 ≤ quality) (hcurve : curve.Covers quality) :
    ∃ rate size : Magnitude, ofQuality curve quality =
        .ok ⟨crfOf quality, .float (.finite false rate), .float (.finite false size)⟩ ∧
      unitsPerOne ∣ rate.units ∧ size.units = 2 * rate.units := by
  obtain ⟨power, hpower⟩ := hcurve
  obtain ⟨rate, hrate, hwhole, hbinary, hlt⟩ := exists_bitrateAt power
  have hlimit : 2 * (rate.units + rate.units) + 1 < unitsLimit := by omega
  obtain ⟨size, hsize, hunits, -⟩ := Magnitude.exists_add? rate rate hlimit
  refine ⟨rate, size, ?_, hwhole, ?_⟩
  · have hbitrate : bitrateOf curve quality = .ok rate := by
      rw [bitrateOf, hpower]
      refine bind_eq_ok_iff.2 ⟨power, rfl, ?_⟩
      rw [if_neg (Int.not_lt.2 hquality), hrate]
      rfl
    rw [ofQuality]
    refine bind_eq_ok_iff.2 ⟨rate, hbitrate, ?_⟩
    rw [hsize]
    rfl
  · rw [hunits, ← Nat.two_mul, hbinary.two_mul.roundBinary_eq]

/-- Natural numbers are the values of settings, the last one twice the one before it. -/
structure Has (r : RateControl) (crf rate size : Nat) : Prop where
  crf : r.crf.place? = (Number.int crf).place?
  maxRate : r.maxRate.place? = (Number.int rate).place?
  bufSize : r.bufSize.place? = (Number.int size).place?
  twice : size = 2 * rate

/-- A whole magnitude stands where the whole number does. -/
lemma place?_of_dvd {a : Magnitude} (h : unitsPerOne ∣ a.units) :
    (Number.float (.finite false a)).place? = (Number.int a.floor).place? := by
  have hunits : a.floor * unitsPerOne = a.units := Nat.div_mul_cancel h
  simp only [Number.place?, Bool.false_eq_true, if_false, ← hunits, Int.natCast_mul]

/-- Whole rates are natural numbers. -/
lemma has_of_dvd {crf : Nat} {rate size : Magnitude} (hcrf : crfOf quality = .int crf)
    (hwhole : unitsPerOne ∣ rate.units) (hsize : size.units = 2 * rate.units) :
    Has ⟨crfOf quality, .float (.finite false rate), .float (.finite false size)⟩ crf rate.floor
      size.floor := by
  refine ⟨congrArg Number.place? hcrf, place?_of_dvd hwhole, place?_of_dvd ?_, ?_⟩
  · rw [hsize]
    exact Nat.dvd_mul_left_of_dvd hwhole 2
  · rw [Magnitude.floor, hsize, Nat.mul_div_assoc 2 hwhole, Magnitude.floor]

/-! ### Words -/

def words (r : RateControl) : Except NumberFault (List String) := do
  let crf ← r.crf.display
  let maxRate ← megabits r.maxRate
  let bufSize ← megabits r.bufSize
  return ["-crf", crf, "-maxrate", maxRate, "-bufsize", bufSize]

/-- The flags are words with blanks between them. -/
lemma flags_eq_map_words (r : RateControl) : r.flags = r.words.map (" ".intercalate ·) := by
  unfold flags words
  cases r.crf.display with
  | error e => rfl
  | ok crf =>
    cases megabits r.maxRate with
    | error e => rfl
    | ok maxRate =>
      cases megabits r.bufSize with
      | error e => rfl
      | ok bufSize =>
        refine congrArg Except.ok (String.toList_inj.1 ?_)
        simp

/-- Whole rates are written without a point. -/
lemma megabits_of_dvd {a : Magnitude} (h : unitsPerOne ∣ a.units) :
    megabits (.float (.finite false a)) = .ok (a.floor.repr ++ "M") := by
  have hwhole := Magnitude.isWhole_iff.2 h
  have hdigits : (a.floor : Int).natAbs < powerOfTen digitLimit := by
    have hfloor : a.floor ≤ a.units := Nat.div_le_self _ _
    have hunits := a.units_lt
    have hlimit := unitsLimit_le_powerOfTen
    omega
  unfold megabits
  dsimp only
  rw [if_pos hwhole, if_neg Bool.false_ne_true, decimalText_eq_ok hdigits]
  rfl

/-- The constant rate factor is a natural number. -/
lemma exists_crfOf (quality : Int) :
    ∃ crf : Nat, crfOf quality = .int crf ∧ (crfOf quality).display = .ok crf.repr := by
  rw [crfOf_eq]
  obtain ⟨crf, hcrf⟩ : ∃ crf : Nat, max 0 (min 51 ((100 - quality) * 51 / 100)) = crf :=
    Int.eq_ofNat_of_zero_le (by omega)
  have hdigits : (crf : Int).natAbs < powerOfTen digitLimit := by
    have hlimit := le_powerOfTen_digitLimit
    omega
  rw [hcrf]
  exact ⟨crf, rfl, decimalText_eq_ok hdigits⟩

/-- The flags of a quality are written with whole numbers, which are its settings. -/
lemma exists_words (hquality : 0 ≤ quality) (hcurve : curve.Covers quality) :
    ∃ r, ofQuality curve quality = .ok r ∧ ∃ crf rate size : Nat, r.Has crf rate size ∧ r.words =
      .ok ["-crf", crf.repr, "-maxrate", rate.repr ++ "M", "-bufsize", size.repr ++ "M"] := by
  obtain ⟨rate, size, hrate, hwhole, hsize⟩ := exists_ofQuality hquality hcurve
  have hsizeWhole : unitsPerOne ∣ size.units := hsize ▸ Nat.dvd_mul_left_of_dvd hwhole 2
  obtain ⟨crf, hcrf, hdisplay⟩ := exists_crfOf quality
  refine ⟨_, hrate, crf, rate.floor, size.floor, has_of_dvd hcrf hwhole hsize, ?_⟩
  simp only [words, hdisplay, megabits_of_dvd hwhole, megabits_of_dvd hsizeWhole]
  rfl

end RateControl

end Montage
