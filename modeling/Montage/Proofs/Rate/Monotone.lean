import Mathlib.Data.Rat.Floor
import Montage.Proofs.Rate

/-!
# Rate control grows with the quality

A higher quality never has a higher rate factor, nor a lower bit rate. Each step from a quality to
its bit rate keeps the order of numbers: all of them are roundings, but for the power, of which this
is assumed.
-/

namespace Montage

variable {curve : Curve} {quality quality' : Int} {r r' : RateControl} {power power' : Magnitude}

/-- The power of a greater number is not less. -/
def Curve.IsMonotone (curve : Curve) : Prop :=
  ∀ a b c d : Magnitude, a.units ≤ b.units → curve a = some c → curve b = some d →
    c.units ≤ d.units

/-! ### Steps that keep the order -/

namespace Magnitude

variable {a b c d : Magnitude} {n m : Nat}

/-- Rounding keeps the order of quotients. -/
lemma units_le_of_round? {num num' den : Nat} (h : num ≤ num') (ha : round? num den = some a)
    (hb : round? num' den = some b) : a.units ≤ b.units := by
  rw [units_of_round? ha, units_of_round? hb]
  exact roundBinary_mono h

/-- Rounding keeps the order of whole numbers. -/
lemma units_le_of_ofNat? (h : n ≤ m) (ha : ofNat? n = some a) (hb : ofNat? m = some b) :
    a.units ≤ b.units :=
  units_le_of_round? (Nat.mul_le_mul_right _ h) ha hb

lemma floor_mono (h : a.units ≤ b.units) : a.floor ≤ b.floor := Nat.div_le_div_right h

end Magnitude

namespace RateControl

variable {rate rate' : Magnitude}

/-- What a bit rate is computed from, step by step. -/
lemma bitrateAt_eq_some_iff : bitrateAt power = some rate ↔ ∃ share sum raised,
    power.div? 2200 = some share ∧ Magnitude.half.add? share = some sum ∧
      sum.add? .half = some raised ∧ Magnitude.ofNat? raised.floor = some rate := by
  simp only [bitrateAt, Option.bind_eq_bind, Option.bind_eq_some_iff]
  constructor
  · rintro ⟨share, hshare, sum, hsum, raised, hraised, hrate⟩
    exact ⟨share, sum, raised, hshare, hsum, hraised, hrate⟩
  · rintro ⟨share, sum, raised, hshare, hsum, hraised, hrate⟩
    exact ⟨share, hshare, sum, hsum, raised, hraised, hrate⟩

/-- A greater power has no smaller bit rate. -/
lemma bitrateAt_mono (h : power.units ≤ power'.units) (hrate : bitrateAt power = some rate)
    (hrate' : bitrateAt power' = some rate') : rate.units ≤ rate'.units := by
  obtain ⟨share, sum, raised, hshare, hsum, hraised, hfloor⟩ := bitrateAt_eq_some_iff.1 hrate
  obtain ⟨share', sum', raised', hshare', hsum', hraised', hfloor'⟩ :=
    bitrateAt_eq_some_iff.1 hrate'
  have hshares : share.units ≤ share'.units := Magnitude.units_le_of_round? h hshare hshare'
  have hsums : sum.units ≤ sum'.units :=
    Magnitude.units_le_of_round? (Nat.add_le_add_left hshares _) hsum hsum'
  have hraiseds : raised.units ≤ raised'.units :=
    Magnitude.units_le_of_round? (Nat.add_le_add_right hsums _) hraised hraised'
  exact Magnitude.units_le_of_ofNat? (Magnitude.floor_mono hraiseds) hfloor hfloor'

/-- Half a megabit rounded half up is one, and the share of the power only adds to it. -/
lemma one_le_floor_of_bitrateAt (h : bitrateAt power = some rate) : 1 ≤ rate.floor := by
  obtain ⟨share, sum, raised, hshare, hsum, hraised, hrate⟩ := bitrateAt_eq_some_iff.1 h
  have hhalf : Magnitude.half.units = 1 <<< 1073 := rfl
  have hone : unitsPerOne = 1 <<< 1074 := rfl
  have htwo := two_mul_half
  have hsumLe : Magnitude.half.units ≤ sum.units := by
    rw [Magnitude.units_of_round? hsum]
    calc Magnitude.half.units = roundBinary Magnitude.half.units 1 := by
          rw [hhalf, roundBinary_two_pow]
      _ ≤ roundBinary (Magnitude.half.units + share.units) 1 :=
          roundBinary_mono (Nat.le_add_right _ _)
  have hraisedLe : unitsPerOne ≤ raised.units := by
    rw [Magnitude.units_of_round? hraised]
    calc unitsPerOne = roundBinary unitsPerOne 1 := by rw [hone, roundBinary_two_pow]
      _ ≤ roundBinary (sum.units + Magnitude.half.units) 1 := roundBinary_mono (by omega)
  have hfloor : 1 ≤ raised.floor := (Nat.one_le_div_iff unitsPerOne_pos).2 hraisedLe
  have hrateLe : unitsPerOne ≤ rate.units := by
    rw [Magnitude.units_of_round? hrate]
    calc unitsPerOne = roundBinary unitsPerOne 1 := by rw [hone, roundBinary_two_pow]
      _ ≤ roundBinary (raised.floor * unitsPerOne) 1 :=
          roundBinary_mono (Nat.le_mul_of_pos_left _ hfloor)
  exact (Nat.one_le_div_iff unitsPerOne_pos).2 hrateLe

/-! ### Settings -/

lemma orTooLarge_eq_ok_iff {α : Type} {x : Option α} {a : α} :
    orTooLarge x = .ok a ↔ x = some a := by
  cases x <;> simp [orTooLarge]

/-- Just the qualities that are not negative have bit rates. -/
lemma bitrateOf_eq_ok_iff : bitrateOf curve quality = .ok rate ↔ 0 ≤ quality ∧
    ∃ power, (Magnitude.ofNat? quality.natAbs).bind curve = some power ∧
      bitrateAt power = some rate := by
  rw [bitrateOf, bind_eq_ok_iff]
  simp only [orTooLarge_eq_ok_iff]
  by_cases hquality : quality < 0
  · simp [hquality, Int.not_le.2 hquality]
  · simp [hquality, Int.not_lt.1 hquality, orTooLarge_eq_ok_iff]

/-- The settings of a quality come from its power. -/
lemma exists_power_of_ofQuality (h : ofQuality curve quality = .ok r) : 0 ≤ quality ∧
    ∃ a power rate size, Magnitude.ofNat? quality.natAbs = some a ∧ curve a = some power ∧
      bitrateAt power = some rate ∧ unitsPerOne ∣ rate.units ∧ size.units = 2 * rate.units ∧
      r = ⟨crfOf quality, .float (.finite false rate), .float (.finite false size)⟩ := by
  obtain ⟨rate, hrate, hr⟩ := bind_eq_ok_iff.1 h
  obtain ⟨hquality, power, hpower, hbitrate⟩ := bitrateOf_eq_ok_iff.1 hrate
  obtain ⟨rate', size, hok, hwhole, hsize⟩ := exists_ofQuality hquality ⟨power, hpower⟩
  obtain rfl := Except.ok.inj (hok.symm.trans h)
  obtain ⟨a, ha, hcurve⟩ := Option.bind_eq_some_iff.1 hpower
  obtain ⟨rfl, -⟩ : rate = rate' ∧ Binary64.ofMagnitude false (rate.add? rate) = .finite false size
    := by simpa [pure, Except.pure] using hr
  exact ⟨hquality, a, power, rate, size, ha, hcurve, hbitrate, hwhole, hsize, rfl⟩

def factor (quality : Int) : Nat := (max 0 (min 51 ((100 - quality) * 51 / 100))).toNat

/-- The constant rate factor is computed without fractions. -/
lemma crfOf_eq_factor (quality : Int) : crfOf quality = .int (factor quality) := by
  rw [crfOf_eq, factor, Int.toNat_of_nonneg (by omega)]

/-- A higher quality has no greater constant rate factor. -/
lemma factor_anti (h : quality ≤ quality') : factor quality' ≤ factor quality := by
  unfold factor
  omega

lemma factor_le (quality : Int) : factor quality ≤ 51 := by
  unfold factor
  omega

/-- Rounding the fraction down is dividing whole numbers. -/
lemma floor_eq_ediv (quality : Int) :
    ⌊((100 - quality) * 51 : ℚ) / 100⌋ = (100 - quality) * 51 / 100 := by
  have hcast : ((100 - quality) * 51 : ℚ) / 100
      = (((100 - quality) * 51 : Int) : ℚ) / ((100 : Nat) : ℚ) := by push_cast; rfl
  rw [hcast, Rat.floor_intCast_div_natCast]
  rfl

/-- Of two qualities with settings, the higher one has no higher rate factor, which goes from 51
down to 0, and no lower bit rate, a whole number from 1 on with a buffer of twice its size. The
rate factor of any quality is what is missing to 100 times 51 hundredths, rounded down and brought
into its range. -/
theorem ofQuality_mono (hcurve : curve.IsMonotone) :
    (∀ quality quality' r r', quality ≤ quality' → ofQuality curve quality = .ok r →
      ofQuality curve quality' = .ok r' → r.crf = crfOf quality ∧ r'.crf = crfOf quality' ∧
      ∃ crf rate size crf' rate' size' : Nat, r.Has crf rate size ∧ r'.Has crf' rate' size' ∧
        crf' ≤ crf ∧ crf ≤ 51 ∧ 1 ≤ rate ∧ rate ≤ rate') ∧
    ∀ quality : Int,
      crfOf quality = .int (max 0 (min 51 ⌊((100 - quality) * 51 : ℚ) / 100⌋)) ∧
      (crfOf quality = .int 51 ↔ quality ≤ 0) ∧ (crfOf quality = .int 0 ↔ 99 ≤ quality) ∧
      ∀ quality', quality ≤ quality' →
        ∃ crf crf', crfOf quality = .int crf ∧ crfOf quality' = .int crf' ∧ crf' ≤ crf := by
  constructor
  · intro quality quality' r r' hle hr hr'
    obtain ⟨hquality, a, power, rate, size, ha, hpower, hrate, hwhole, hsize, rfl⟩ :=
      exists_power_of_ofQuality hr
    obtain ⟨-, a', power', rate', size', ha', hpower', hrate', hwhole', hsize', rfl⟩ :=
      exists_power_of_ofQuality hr'
    have hnumbers : a.units ≤ a'.units := Magnitude.units_le_of_ofNat? (by omega) ha ha'
    have hpowers : power.units ≤ power'.units := hcurve a a' power power' hnumbers hpower hpower'
    have hrates : rate.units ≤ rate'.units := bitrateAt_mono hpowers hrate hrate'
    refine ⟨rfl, rfl, factor quality, rate.floor, size.floor, factor quality', rate'.floor,
      size'.floor, has_of_dvd (crfOf_eq_factor _) hwhole hsize,
      has_of_dvd (crfOf_eq_factor _) hwhole' hsize', factor_anti hle, factor_le quality,
      one_le_floor_of_bitrateAt hrate, Magnitude.floor_mono hrates⟩
  · intro quality
    refine ⟨?_, ?_, ?_, fun quality' hle => ?_⟩
    · rw [crfOf_eq, floor_eq_ediv]
    · rw [crfOf_eq, Number.int.injEq]
      omega
    · rw [crfOf_eq, Number.int.injEq]
      omega
    · refine ⟨_, _, crfOf_eq_factor quality, crfOf_eq_factor quality', ?_⟩
      exact Int.ofNat_le.2 (factor_anti hle)

/-- The powers of 50 and of 100: any number less than 100 has the one of 50 here. -/
def sampleCurve : Curve := fun a =>
  if a.units < 100 * unitsPerOne then
    Magnitude.round? (6010821568349589 * unitsPerOne) 1099511627776
  else Magnitude.round? (53942350372999 * unitsPerOne) 2147483648

lemma sampleCurve_isMonotone : sampleCurve.IsMonotone := by
  have hpowers : roundBinary (6010821568349589 * unitsPerOne) 1099511627776
      ≤ roundBinary (53942350372999 * unitsPerOne) 2147483648 := by decide +kernel
  intro a b c d hle hc hd
  unfold sampleCurve at hc hd
  split_ifs at hc hd
  · rw [Magnitude.units_of_round? hc, Magnitude.units_of_round? hd]
  · rw [Magnitude.units_of_round? hc, Magnitude.units_of_round? hd]
    exact hpowers
  · omega
  · rw [Magnitude.units_of_round? hc, Magnitude.units_of_round? hd]

theorem ofQuality_mono_fifty : sampleCurve.IsMonotone ∧ ∃ r r',
    ofQuality sampleCurve 50 = .ok r ∧ ofQuality sampleCurve 100 = .ok r' ∧
    r.flags = .ok "-crf 25 -maxrate 3M -bufsize 6M" ∧
    r'.flags = .ok "-crf 0 -maxrate 12M -bufsize 24M" ∧
    ∃ crf rate size crf' rate' size' : Nat, r.Has crf rate size ∧ r'.Has crf' rate' size' ∧
      crf' ≤ crf ∧ crf ≤ 51 ∧ 1 ≤ rate ∧ rate ≤ rate' := by
  have hfifty : ofQuality sampleCurve 50 >>= flags = .ok "-crf 25 -maxrate 3M -bufsize 6M" := by
    decide +kernel
  have hhundred : ofQuality sampleCurve 100 >>= flags = .ok "-crf 0 -maxrate 12M -bufsize 24M" := by
    decide +kernel
  obtain ⟨r, hr, hflags⟩ := bind_eq_ok_iff.1 hfifty
  obtain ⟨r', hr', hflags'⟩ := bind_eq_ok_iff.1 hhundred
  obtain ⟨-, -, hsettings⟩ :=
    (ofQuality_mono sampleCurve_isMonotone).1 50 100 r r' (by decide) hr hr'
  exact ⟨sampleCurve_isMonotone, r, r', hr, hr', hflags, hflags', hsettings⟩

end RateControl

end Montage
