/-!
# Sets of characters

A set of characters is a list of closed ranges of code points, as the tables of the Unicode
standard give them.
-/

namespace Montage

/-- A set of characters, as closed ranges of code points. -/
structure CharSet where
  /-- Builds the set of the characters in one of the given ranges. -/
  ofRanges ::
  ranges : List (Nat × Nat)

namespace CharSet

def contains (s : CharSet) (c : Char) : Bool :=
  s.ranges.any fun r => r.1 ≤ c.toNat && c.toNat ≤ r.2

theorem contains_iff {s : CharSet} {c : Char} :
    s.contains c = true ↔ ∃ r ∈ s.ranges, r.1 ≤ c.toNat ∧ c.toNat ≤ r.2 := by
  simp [contains]

theorem contains_of_mem {s : CharSet} {c : Char} {lo hi : Nat} (hr : (lo, hi) ∈ s.ranges)
    (hlo : lo ≤ c.toNat) (hhi : c.toNat ≤ hi) : s.contains c = true :=
  contains_iff.2 ⟨(lo, hi), hr, hlo, hhi⟩

end CharSet

end Montage
