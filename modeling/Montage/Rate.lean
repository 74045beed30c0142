import Montage.Number.Text

/-!
# Rate control

How a quality from 0 to 100 becomes the settings of the encoder: a constant rate factor from 51 down
to 0, and a maximum bit rate that grows with the power 2.2 of the quality. The power is given as a
`Curve`, since the last bit of a power is the platform's.
-/

namespace Montage

/-- The power 2.2 of a magnitude, or none if it is too large. -/
abbrev Curve := Magnitude → Option Magnitude

def orTooLarge {α : Type} : Option α → Except NumberFault α
  | some a => .ok a
  | none => .error .tooLarge

/-- The power 2.2 as the platform computes it. -/
def platformCurve : Curve := fun x =>
  let y := Float.pow (Float.ofBits (Binary64.finite false x).toBits) 2.2
  match Binary64.ofBits y.toBits with
  | .finite _ a => some a
  | _ => none

/-- Rate control settings; the rates are in megabits. -/
structure RateControl where
  crf : Number
  maxRate : Number
  bufSize : Number
  deriving DecidableEq, Repr

namespace RateControl

/-- The constant rate factor of a quality: a 51st part of what is missing to 100, rounded down and
brought into the range from 0 to 51. -/
def crfOf (quality : Int) : Number :=
  (Number.int (((100 - quality) * 51).fdiv 100)).clamp (.int 0) (.int 51)

/-- The bit rate for a power of the quality: half a megabit and one for each 2200, rounded half up
to whole megabits. -/
def bitrateAt (power : Magnitude) : Option Magnitude := do
  let share ← power.div? 2200
  let rate ← Magnitude.add? .half share
  let raised ← rate.add? .half
  Magnitude.ofNat? raised.floor

def bitrateOf (curve : Curve) (quality : Int) : Except NumberFault Magnitude := do
  let power ← orTooLarge ((Magnitude.ofNat? quality.natAbs).bind curve)
  if quality < 0 then .error .notReal else orTooLarge (bitrateAt power)

/-- The settings of a quality; the buffer holds twice the maximum rate. -/
def ofQuality (curve : Curve) (quality : Int) : Except NumberFault RateControl := do
  let rate ← bitrateOf curve quality
  return ⟨crfOf quality, .float (.finite false rate), .float (.ofMagnitude false (rate.add? rate))⟩

end RateControl

/-- A rate as it is given to the encoder: all digits of a whole number, six significant digits of
any other. -/
def megabits : Number → Except NumberFault String
  | .int n =>
    match Binary64.ofInt? n with
    | some _ => (decimalText n).map (· ++ "M")
    | none => .error .tooLarge
  | .float (.finite negative a) =>
    if a.isWhole then
      (decimalText (if negative then -(a.floor : Int) else a.floor)).map (· ++ "M")
    else .ok ((Binary64.finite negative a).shortText ++ "M")
  | .float x => .ok (x.shortText ++ "M")

def Number.display : Number → Except NumberFault String
  | int n => decimalText n
  | float x => .ok x.exactText

def RateControl.flags (r : RateControl) : Except NumberFault String := do
  let crf ← r.crf.display
  let maxRate ← megabits r.maxRate
  let bufSize ← megabits r.bufSize
  return "-crf " ++ crf ++ " -maxrate " ++ maxRate ++ " -bufsize " ++ bufSize

end Montage
