import Montage.Number.Decimal

/-!
# What can go wrong with a YAML text

Most faults make a text no YAML at all. The others arise in texts that are well formed but hold a
scalar without a value, nest too deeply or are not encoded well, and stand apart because only the
first kind is reported to the operator.
-/

namespace Montage.Yaml

/-- Why a text has no YAML value. -/
inductive Fault
  /-- The text breaks a rule of the language, or uses a tag or a key that plain data cannot have; in
  words. -/
  | notYaml (detail : String)
  /-- A number cannot be read. -/
  | number (f : NumberFault)
  /-- A text tagged as a number is empty. -/
  | emptyNumber
  /-- A text tagged as a truth value is no word for one. -/
  | noTruthValue
  /-- A text tagged as a moment does not have the form of one. -/
  | noMoment
  /-- A mapping is tagged as a moment. -/
  | momentMapping
  /-- A date or a time of day that no calendar has. -/
  | impossibleDate
  /-- An escape names a code point beyond U+10FFFF. -/
  | beyondUnicode
  /-- An escape names a code point beyond the signed 32-bit range. -/
  | beyondWord
  /-- An escape names a surrogate, which is no character. -/
  | surrogate
  /-- Collections are nested too deeply, or a chain of mappings that refer to each other is too
  long. -/
  | tooDeep
  /-- The text is not UTF-8. -/
  | encoding
  deriving DecidableEq, Repr

/-- The fault of a text that breaks a rule, whichever it is. -/
def Fault.malformed : Fault := .notYaml "a rule of the language is broken"

end Montage.Yaml
